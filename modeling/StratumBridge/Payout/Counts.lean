import Mathlib.Algebra.Order.Ring.Rat
import Mathlib.Data.Nat.Cast.Order.Ring
import StratumBridge.Lifecycle.Attempts
import StratumBridge.Opoi.System
import StratumBridge.Payout.Marks
import StratumBridge.Transition.Observe

/-!
# Token counts from submission to reward

The count that a miner claims is handed to the commit task, and read back from an
`INTEGER` column by the recovery pass, the reveals and the reward.  The first two
undo the wrap-around of the column and the reward does not, and nothing compares
the count with the limit of its request.
-/

namespace StratumBridge.Payout

open Data Wire Lifecycle Transition

/-- What a token count is used for. -/
inductive Purpose
  | commit
  | reveal
  | reward
  deriving DecidableEq

/-- The count with which a submission is committed, revealed and rewarded. -/
def Purpose.countOf (sub : NewSubmission) : Purpose → Int
  | reward => sub.tokenColumn.toInt
  | _ => (UInt32.ofNat sub.tokenCount).toNat

/-- A use of the token count of a row. -/
structure Use where
  id : SubmissionId
  purpose : Purpose
  count : Int
  deriving DecidableEq

namespace Treasury

/-- The use of a token count in a step: a commit task is spawned by a handler or
by the recovery pass, csd answers a reveal, or the reward is calculated. -/
def sees (treasury : Treasury) : Event → Option Use
  | .service (.create row .done) =>
      (treasury.db.createSubmission row).map fun _ =>
        ⟨treasury.db.submissions.nextId, .commit, (UInt32.ofNat row.tokenCount).toNat⟩
  | .service .resume =>
      match treasury.service.phase with
      | .recovering (id :: _) =>
          (treasury.db.submissions.find? id).map fun row =>
            ⟨id, .commit, row.tokenColumn.toUInt32.toNat⟩
      | _ => none
  | .service (.revealAnswered _) =>
      match treasury.service.tick with
      | .revealing candidate _ _ =>
          some ⟨candidate.submissionId, .reveal, candidate.tokenCount.toUInt32.toNat⟩
      | _ => none
  | .requestFetched true =>
      match treasury.service.tick with
      | .pricing row _ => some ⟨row.1, .reward, row.2.tokenColumn.toInt⟩
      | _ => none
  | _ => none

/-- The row stores this submission. -/
def Stored (db : Database) (id : SubmissionId) (sub : NewSubmission) : Prop :=
  ∃ row, db.submissions.find? id = some row ∧ row.toNewSubmission = sub

/-- One token count from the submission to the reward: the rows that store the
submission are used with this count, which is within the limit, and so are the
rewards on record for them. -/
structure OneCount (config : Config) (maxTokens count : UInt32) (sub : NewSubmission)
    (treasury : Treasury) (uses : List Use) : Prop where
  same : ∀ use ∈ uses, Stored treasury.db use.id sub → use.count = count.toNat
  limited : ∀ id, Stored treasury.db id sub → count ≤ maxTokens
  rewarded : ∀ id row reward, treasury.db.submissions.find? id = some row →
    row.toNewSubmission = sub → row.rewardAmount = some reward →
    (config.chain sub.requestId).payment ≤ reward ∧
      reward ≤ (config.chain sub.requestId).payment +
        (maxTokens.toNat : Rat) * (config.chain sub.requestId).feePerToken

/-- The uses so far fit the rows they are uses of, and so do the candidates that a
tick has read. -/
structure Counted (treasury : Treasury) (uses : List Use) : Prop where
  uses : ∀ use ∈ uses, ∃ sub, Stored treasury.db use.id sub ∧
    use.count = use.purpose.countOf sub
  candidates : ∀ candidate ∈ treasury.service.tick.candidates,
    ∃ sub, Stored treasury.db candidate.submissionId sub ∧
      candidate.tokenCount = sub.tokenColumn

section Step

variable {config : Config} {treasury : Treasury} {event : Event} {uses : List Use}
variable {db after : Database} {id : SubmissionId} {sub : NewSubmission}

theorem Stored.unique {other : NewSubmission} (stored : Stored db id sub)
    (otherStored : Stored db id other) : sub = other := by
  rcases stored with ⟨row, found, rfl⟩
  rcases otherStored with ⟨again, stands, rfl⟩
  cases found.symm.trans stands
  rfl

/-- Rows stay as they were created. -/
theorem Stored.next (stored : Stored treasury.db id sub) (enabled : treasury.enabled event) :
    Stored (treasury.next config event).db id sub := by
  rcases stored with ⟨row, found, rfl⟩
  by_cases marks : ∃ outcome, event = .marked outcome
  · rcases marks with ⟨outcome, rfl⟩
    rcases enabled with ⟨unpaid, txid, marking⟩
    unfold Treasury.next Treasury.marked
    rw [marking]
    apply Outcome.settle_of (P := fun db => Stored db id row.toNewSubmission)
    · exact ⟨row, found, rfl⟩
    · intro after ran
      obtain ⟨now, stands, created, -⟩ := Database.find?_markPaid ran found
      exact ⟨now, stands, created⟩
  · have unmarked : ∀ outcome, event ≠ .marked outcome :=
      fun outcome same => marks ⟨outcome, same⟩
    obtain ⟨now, stands, created, -⟩ := keepsRows_next config treasury unmarked id row found
    exact ⟨now, stands, created⟩

/-- Both casts between the caller's count and its column, one after the other. -/
theorem toUInt32_tokenColumn (sub : NewSubmission) :
    sub.tokenColumn.toUInt32 = UInt32.ofNat sub.tokenCount :=
  UInt32.toUInt32_toInt32 _

theorem stored_create {row : NewSubmission} (created : treasury.db.createSubmission row = some db) :
    Stored (treasury.next config (.service (.create row .done))).db
      treasury.db.submissions.nextId row := by
  have now : (treasury.next config (.service (.create row .done))).db = db := by
    change (treasury.service.create config.pool row .done).db = db
    have inserted : treasury.service.db.createSubmission row = some db := created
    simp only [Service.create, inserted, Outcome.applies]
  rw [now]
  obtain ⟨submissions, inserted, ⟨⟩⟩ := Option.bind_eq_some_iff.mp created
  exact ⟨_, (Table.find?_insert inserted _).trans (if_pos rfl), rfl⟩

/-- What is seen in a step fits the row that it is a use of. -/
theorem Counted.sees (counted : treasury.Counted uses) (valued : treasury.Valued config)
    (enabled : treasury.enabled event) {use : Use} (seen : treasury.sees event = some use) :
    ∃ sub, Stored (treasury.next config event).db use.id sub ∧
      use.count = use.purpose.countOf sub := by
  unfold Treasury.sees at seen
  split at seen
  · rename_i row
    obtain ⟨db, created, rfl⟩ := Option.map_eq_some_iff.mp seen
    exact ⟨row, stored_create created, rfl⟩
  · split at seen
    · obtain ⟨row, found, rfl⟩ := Option.map_eq_some_iff.mp seen
      refine ⟨row.toNewSubmission, Stored.next ⟨row, found, rfl⟩ enabled, ?_⟩
      rw [toUInt32_tokenColumn]
      rfl
    · cases seen
  · split at seen
    · rename_i candidate rest groups revealing
      cases seen
      have mem : candidate ∈ treasury.service.tick.candidates := by
        rw [revealing]
        exact List.mem_cons_self
      obtain ⟨sub, stored, column⟩ := counted.candidates candidate mem
      refine ⟨sub, stored.next enabled, ?_⟩
      rw [column, toUInt32_tokenColumn]
      rfl
    · cases seen
  · split at seen
    · rename_i row rest pricing
      cases seen
      have prices := valued.prices
      rw [pricing] at prices
      obtain ⟨held, found, created⟩ := prices row List.mem_cons_self
      refine ⟨row.2.toNewSubmission, Stored.next ⟨held, found, created⟩ enabled, rfl⟩
    · cases seen
  · cases seen

/-- The candidates of a tick carry the column of their rows. -/
theorem Counted.candidates_next (counted : treasury.Counted uses)
    (enabled : treasury.enabled event) (candidate : RevealCandidate)
    (mem : candidate ∈ (treasury.next config event).service.tick.candidates) :
    ∃ sub, Stored (treasury.next config event).db candidate.submissionId sub ∧
      candidate.tokenCount = sub.tokenColumn := by
  have stood : candidate ∈ treasury.service.tick.candidates ∨
      ∃ height, candidate ∈ treasury.db.listRevealReadyCandidates height := by
    cases event with
    | service event => exact Service.mem_candidates_next enabled.2 mem
    | requestFetched found =>
        simp only [Treasury.next, Treasury.requestFetched] at mem
        split at mem
        · exact .inl (RevealTick.candidates_priced mem)
        · exact .inl mem
    | withhold requestId => exact .inl mem
    | unpaidListed unpaid => cases unpaid <;> exact .inl mem
    | sent answer =>
        simp only [Treasury.next, Treasury.sent] at mem
        split at mem <;> exact .inl mem
    | marked outcome =>
        simp only [Treasury.next, Treasury.marked] at mem
        split at mem <;> exact .inl mem
  rcases stood with old | ⟨height, listed⟩
  · obtain ⟨sub, stored, column⟩ := counted.candidates candidate old
    exact ⟨sub, stored.next enabled, column⟩
  · obtain ⟨-, row, -, -, -, found, column⟩ := Database.joined_of_mem_candidates listed
    exact ⟨row.toNewSubmission, Stored.next ⟨row, found, rfl⟩ enabled, column⟩

theorem Counted.next (counted : treasury.Counted uses) (valued : treasury.Valued config)
    (enabled : treasury.enabled event) :
    (treasury.next config event).Counted (uses ++ (treasury.sees event).toList) := by
  constructor
  · intro use mem
    rcases List.mem_append.mp mem with old | new
    · obtain ⟨sub, stored, fits⟩ := counted.uses use old
      exact ⟨sub, stored.next enabled, fits⟩
    · exact counted.sees valued enabled (Option.mem_toList.mp new)
  · exact counted.candidates_next enabled

theorem counted_new : (new).Counted [] where
  uses := fun _ mem => absurd mem List.not_mem_nil
  candidates := fun _ mem => absurd mem List.not_mem_nil

/-- Along every run in which requests are found when rows are published, the uses
fit their rows, and the rewards on record are those of the chain. -/
theorem counted_of_run {events : List Event}
    (run : (system config).RunWith RequestsFound new events treasury) :
    treasury.Counted ((system config).notes sees new events) ∧ treasury.Valued config :=
  run.noted (I := fun treasury uses => treasury.Counted uses ∧ treasury.Valued config) sees
    ⟨counted_new, valued_new config⟩ fun _ _ _ held enabled met =>
      ⟨held.1.next held.2 enabled, held.2.next enabled met⟩

end Step

/-! ## A row from its creation to its reward -/

/-- A row as it is created. -/
def receivedRow (sub : NewSubmission) : Submission :=
  { sub with
    status := .received
    failReason := none
    commitTxid := none
    commitNonceHex := none
    commitWindowClosesAtHeight := none
    revealTxid := none
    contentPublished := false
    rewardAmount := none
    paid := false
    payoutTxid := none }

/-- The row once it is committed. -/
def committedRow (sub : NewSubmission) : Submission :=
  { receivedRow sub with
    status := .committed
    commitTxid := some "c"
    commitNonceHex := some "n"
    commitWindowClosesAtHeight := some Service.soleCommit.closesAt }

/-- The row once it is revealed. -/
def revealedRow (sub : NewSubmission) : Submission :=
  { committedRow sub with
    status := .revealed
    revealTxid := some "x" }

/-- The row once it is published. -/
def publishedRow (sub : NewSubmission) : Submission :=
  { revealedRow sub with
    status := .published
    contentPublished := true
    rewardAmount := some (soleConfig.reward sub) }

/-- The attempt of the only stake. -/
def committedAttempt : CommitAttempt where
  submissionId := 1
  opoiAddress := "a"
  status := .committed
  commitTxid := some "c"
  commitNonceHex := some "n"
  commitWindowClosesAtHeight := some Service.soleCommit.closesAt
  revealTxid := none
  failReason := none

/-- The attempt once it is revealed. -/
def revealedAttempt : CommitAttempt :=
  { committedAttempt with
    status := .revealed
    revealTxid := some "x" }

/-- What a tick reads for the row. -/
def candidateOf (sub : NewSubmission) : RevealCandidate :=
  ⟨1, 1, "a", "n", sub.requestId, sub.responseHash, sub.tokenColumn⟩

/-- The tables with one row and one attempt. -/
def tables (row : Submission) (attempt : CommitAttempt) : Database :=
  ⟨Table.single row, Table.single attempt⟩

/-- The tables before there is an attempt. -/
def receivedDb (sub : NewSubmission) : Database :=
  ⟨Table.single (receivedRow sub), Table.empty⟩

/-- The only stake has answered, and its answer is to be stored. -/
def storing : CommitTask :=
  .persisting 1 [("a", .ok Service.soleCommit)] none

/-- A serving process without payouts. -/
def staged (db : Database) (commits : IndexMap SubmissionId CommitTask) (tick : RevealTick)
    (log : List Record) : Treasury :=
  ⟨⟨db, .serving, commits, tick, log⟩, [], .idle, []⟩

/-- Such a state is reached by a run in which requests are found. -/
def Staged (db : Database) (commits : IndexMap SubmissionId CommitTask) (tick : RevealTick) :
    Prop :=
  ∃ events log, (system soleConfig).RunWith RequestsFound new events (staged db commits tick log)

section Stages

variable {sub : NewSubmission} {row : Submission} {attempt : CommitAttempt}

theorem createSubmission_empty (sub : NewSubmission) :
    Database.empty.createSubmission sub = some (receivedDb sub) := by
  simp only [Database.createSubmission, Database.empty, Table.insert_empty]
  rfl

theorem updateSubmission_tables (change : Submission → Submission) :
    (tables row attempt).updateSubmission 1 change = some (tables (change row) attempt) := by
  simp only [Database.updateSubmission, tables, Table.update_single]
  rfl

theorem statement_storing (sub : NewSubmission) :
    storing.statement 1 (receivedDb sub) =
      some (tables (receivedRow sub) committedAttempt) := by
  have absent : (Table.empty : Table CommitAttempt (SubmissionId × String)
      CommitAttempt.target).idOf (1, "a") = none := rfl
  simp only [storing, CommitTask.statement, CommitTask.storeAttempt,
    Database.upsertCommitAttemptSuccess, Table.upsert, receivedDb, absent, Table.insert_empty]
  rfl

theorem markAttemptRevealed_tables :
    (tables row committedAttempt).markAttemptRevealed 1 "x" =
      some (tables row revealedAttempt) := by
  simp only [Database.markAttemptRevealed, tables, Table.update_single]
  rfl

theorem candidates_tables (sub : NewSubmission) :
    (tables (committedRow sub) committedAttempt).listRevealReadyCandidates 9 =
      [candidateOf sub] := by
  have closed : Service.soleCommit.closesAt ≤ (9 : UInt64).toInt64.toInt := by decide
  have ready : committedAttempt.status = .committed ∧
      Service.soleCommit.closesAt ≤ (9 : UInt64).toInt64.toInt ∧
      (committedRow sub).status = .committed := ⟨rfl, closed, rfl⟩
  have joined : (tables (committedRow sub) committedAttempt).revealCandidate 9
      (1, committedAttempt) = some (candidateOf sub) := by
    change (if committedAttempt.status = .committed ∧
      Service.soleCommit.closesAt ≤ (9 : UInt64).toInt64.toInt ∧
      (committedRow sub).status = .committed then some (candidateOf sub) else none) = _
    exact if_pos ready
  exact List.filterMap_cons_some joined

/-- One more event. -/
theorem Staged.step {db after : Database} {commits rest : IndexMap SubmissionId CommitTask}
    {tick now : RevealTick} (reached : Staged db commits tick) (event : Lifecycle.Event)
    (enabled : ∀ log, (staged db commits tick log).enabled (.service event))
    (leads : ∀ log, ∃ later, (staged db commits tick log).next soleConfig (.service event) =
      staged after rest now later) : Staged after rest now := by
  rcases reached with ⟨events, log, run⟩
  obtain ⟨later, same⟩ := leads log
  exact ⟨_, later, run.snoc_to (.service event) (enabled log) trivial same⟩

/-- A statement of the commit task is carried out. -/
theorem Staged.written {db after : Database} {task : CommitTask}
    {commits : IndexMap SubmissionId CommitTask}
    (reached : Staged db (IndexMap.empty.insert 1 task) .idle)
    (accepts : task.accepts (.written .done)) (ran : task.statement 1 db = some after)
    (goesOn : (match task.advance Service.solePool (.written .done) with
      | some rest => (IndexMap.empty.insert 1 task).insert 1 rest
      | none => (IndexMap.empty.insert 1 task).shiftRemove 1) = commits) :
    Staged after commits .idle := by
  apply reached.step (.commit 1 (.written .done))
  · exact fun log => ⟨nofun, task, IndexMap.get?_insert_self .., accepts⟩
  · intro log
    refine ⟨log ++ task.records 1 db (.written .done), ?_⟩
    subst goesOn
    simp only [next, lifecycle, staged, Service.next, Service.commit, IndexMap.get?_insert_self,
      CommitTask.write, ran, Outcome.settle, Outcome.applies, if_true, Option.getD_some]
    rfl

/-- A statement of the reveal tick is carried out. -/
theorem next_tickWritten {db after : Database} {tick : RevealTick}
    (ran : tick.statement db = some after) (commits : IndexMap SubmissionId CommitTask)
    (log : List Record) :
    (staged db commits tick log).next soleConfig (.service (.tickWritten .done)) =
      staged after commits tick.written log := by
  simp only [next, lifecycle, staged, Service.next, ran, Outcome.settle, Outcome.applies,
    if_true, Option.getD_some]

theorem Staged.tickWritten {db after : Database} {commits : IndexMap SubmissionId CommitTask}
    {tick : RevealTick} (reached : Staged db commits tick) (writes : tick.writes = true)
    (ran : tick.statement db = some after) : Staged after commits tick.written := by
  apply reached.step (.tickWritten .done)
  · exact fun log => ⟨nofun, writes⟩
  · exact fun log => ⟨log, next_tickWritten ran commits log⟩

theorem staged_received (sub : NewSubmission) :
    Staged (receivedDb sub) (IndexMap.empty.insert 1 (CommitTask.start Service.solePool))
      .idle := by
  have admitted : (system soleConfig).Admits RequestsFound new
      [.service (.boot []), .service .serve, .service (.create sub .done)] :=
    ⟨⟨⟨nofun, rfl, .refl _⟩, trivial⟩, ⟨⟨nofun, rfl, rfl⟩, trivial⟩, ⟨⟨nofun, rfl⟩, trivial⟩,
      trivial⟩
  have created := createSubmission_empty sub
  have reached : (system soleConfig).execute new
      [.service (.boot []), .service .serve, .service (.create sub .done)] =
      staged (receivedDb sub) (IndexMap.empty.insert 1 (CommitTask.start Service.solePool))
        .idle [] := by
    simp only [System.execute_cons, System.execute_nil, system, next, lifecycle, new, Service.new,
      Service.next, Service.create, Outcome.applies, created]
    rfl
  exact ⟨_, [], reached ▸ admitted.runWith⟩

theorem staged_committed (sub : NewSubmission) :
    Staged (tables (committedRow sub) committedAttempt) IndexMap.empty .idle := by
  have answered : Staged (receivedDb sub) (IndexMap.empty.insert 1 storing) .idle := by
    apply (staged_received sub).step (.commit 1 (.answered "a" (.ok Service.soleCommit)))
    · exact fun log => ⟨nofun, _, rfl, List.mem_singleton_self "a"⟩
    · exact fun log => ⟨log ++ [.told 1 "a" "n"], rfl⟩
  have marking : (CommitTask.marking Service.soleCommit).statement 1
      (tables (receivedRow sub) committedAttempt) =
        some (tables (committedRow sub) committedAttempt) := updateSubmission_tables _
  have stored : Staged (tables (receivedRow sub) committedAttempt)
      (IndexMap.empty.insert 1 (.marking Service.soleCommit)) .idle :=
    answered.written trivial (statement_storing sub) rfl
  exact stored.written trivial marking rfl

theorem staged_revealed (sub : NewSubmission) :
    Staged (tables (revealedRow sub) revealedAttempt) IndexMap.empty .listing := by
  have revealing : Staged (tables (committedRow sub) committedAttempt) IndexMap.empty
      (.revealing (candidateOf sub) [] []) := by
    apply (staged_committed sub).step (.tickBegin 9 [[candidateOf sub]])
    · intro log
      refine ⟨nofun, rfl, rfl, ?_⟩
      change Grouping ((tables (committedRow sub) committedAttempt).listRevealReadyCandidates 9) _
      rw [candidates_tables]
      exact ⟨.refl _, by simp, by simp⟩
    · exact fun log => ⟨log, rfl⟩
  have answered : Staged (tables (committedRow sub) committedAttempt) IndexMap.empty
      (.markingAttempt (candidateOf sub) "x" []) := by
    apply revealing.step (.revealAnswered (.accepted "x"))
    · exact fun log => ⟨nofun, _, _, _, rfl⟩
    · exact fun log => ⟨log ++ [.revealed 1 "a"], rfl⟩
  have attempted : Staged (tables (committedRow sub) revealedAttempt) IndexMap.empty
      (.markingSubmission (candidateOf sub) "x" []) :=
    answered.tickWritten rfl markAttemptRevealed_tables
  exact attempted.tickWritten rfl (updateSubmission_tables _)

theorem staged_pricing (sub : NewSubmission) :
    Staged (tables (revealedRow sub) revealedAttempt) IndexMap.empty
      (.pricing (1, revealedRow sub) []) := by
  have listed : Staged (tables (revealedRow sub) revealedAttempt) IndexMap.empty
      (.publishing (1, revealedRow sub) []) := by
    apply (staged_revealed sub).step (.listed (some [(1, revealedRow sub)]))
    · exact fun log => ⟨nofun, rfl, .refl _⟩
    · exact fun log => ⟨log, rfl⟩
  apply listed.step (.contentSubmitted true)
  · exact fun log => ⟨nofun, _, _, rfl⟩
  · exact fun log => ⟨log, rfl⟩

/-- Every submission can come to be published, and its reward is then on record. -/
theorem exists_published (sub : NewSubmission) :
    ∃ events treasury, (system soleConfig).RunWith RequestsFound new events treasury ∧
      treasury.db.submissions.find? 1 = some (publishedRow sub) ∧
      ⟨1, .reward, sub.tokenColumn.toInt⟩ ∈ (system soleConfig).notes sees new events := by
  obtain ⟨events, log, run⟩ := staged_pricing sub
  have priced : (system soleConfig).RunWith RequestsFound new (events ++ [.requestFetched true])
      (staged (tables (revealedRow sub) revealedAttempt) IndexMap.empty
        (.markingPublished (1, revealedRow sub) (soleConfig.reward sub) []) log) :=
    run.snoc_to (.requestFetched true) ⟨_, _, rfl⟩ rfl rfl
  have noted : ⟨1, .reward, sub.tokenColumn.toInt⟩ ∈
      (system soleConfig).notes sees new (events ++ [.requestFetched true]) := by
    rw [run.notes_snoc]
    exact List.mem_append_right _ (List.mem_singleton_self _)
  have ran : (RevealTick.markingPublished (1, revealedRow sub) (soleConfig.reward sub)
      []).statement (tables (revealedRow sub) revealedAttempt) =
        some (tables (publishedRow sub) revealedAttempt) := updateSubmission_tables _
  refine ⟨_, _, priced.snoc_to (.service (.tickWritten .done)) ⟨nofun, rfl⟩ trivial
    (next_tickWritten ran _ log), rfl, ?_⟩
  rw [priced.notes_snoc]
  exact List.mem_append_left _ noted

end Stages

/-! ## One count -/

/-- The column as a number: the count, less `2 ^ 32` from `2 ^ 31` on. -/
theorem toInt_tokenColumn (sub : NewSubmission) :
    sub.tokenColumn.toInt =
      if (UInt32.ofNat sub.tokenCount).toNat < 2 ^ 31 then
        ((UInt32.ofNat sub.tokenCount).toNat : Int)
      else (UInt32.ofNat sub.tokenCount).toNat - 2 ^ 32 := by
  have signed := BitVec.toInt_eq_toNat_cond (UInt32.ofNat sub.tokenCount).toBitVec
  have column : sub.tokenColumn.toInt = (UInt32.ofNat sub.tokenCount).toBitVec.toInt := rfl
  rw [column, signed, UInt32.toNat_toBitVec]
  split <;> split <;> omega

/-- The three uses agree on the counts below `2 ^ 31`. -/
theorem countOf_eq {sub : NewSubmission} {count : UInt32} (claimed : sub.tokenCount = count.toNat)
    (small : count.toNat < 2 ^ 31) (purpose : Purpose) : purpose.countOf sub = count.toNat := by
  have kept : UInt32.ofNat sub.tokenCount = count := by rw [claimed, UInt32.ofNat_toNat]
  cases purpose with
  | reward => rw [Purpose.countOf, toInt_tokenColumn, kept, if_pos small]
  | _ => simp only [Purpose.countOf, kept]

/-- A count within the limit that fits its column is one count. -/
theorem Counted.oneCount {config : Config} {maxTokens count : UInt32} {sub : NewSubmission}
    {treasury : Treasury} {uses : List Use} (counted : treasury.Counted uses)
    (valued : treasury.Valued config) (claimed : sub.tokenCount = count.toNat)
    (within : count ≤ maxTokens) (small : count.toNat < 2 ^ 31)
    (fee : 0 ≤ (config.chain sub.requestId).feePerToken) :
    treasury.OneCount config maxTokens count sub uses := by
  constructor
  · intro use mem stored
    obtain ⟨other, otherStored, fits⟩ := counted.uses use mem
    rw [fits, ← stored.unique otherStored]
    exact countOf_eq claimed small use.purpose
  · exact fun _ _ => within
  · intro id row reward found created isReward
    have reward_eq := valued.rewards id row reward found isReward
    have column : sub.tokenColumn.toInt = count.toNat := countOf_eq claimed small .reward
    rw [created, Config.reward, column, Int.cast_natCast] at reward_eq
    subst reward_eq
    have counts : (count.toNat : Rat) ≤ maxTokens.toNat :=
      Nat.cast_le.mpr (UInt32.le_iff_toNat_le.mp within)
    constructor
    · exact le_add_of_nonneg_right (mul_nonneg (Nat.cast_nonneg _) fee)
    · exact add_le_add_right (mul_le_mul_of_nonneg_right counts fee) _

/-- Every accepted result has one token count on all runs, from its submission to
its reward, if and only if it claims no more than the limit of its request and
fewer than `2 ^ 31` tokens. -/
theorem one_count_iff {sha256 : Digest} {wallet : Wallet} {params : OpoiSubmitResultParams}
    {entry : Option Opoi.PendingRequest} {sub : NewSubmission}
    (accepted : Opoi.OpoiEngine.verdict sha256 wallet params entry (some false) = .ok sub)
    (maxTokens : UInt32) :
    (∀ config : Config, 0 ≤ (config.chain sub.requestId).feePerToken → ∀ events treasury,
      (system config).RunWith RequestsFound new events treasury →
      treasury.OneCount config maxTokens params.tokenCount sub
        ((system config).notes sees new events)) ↔
      params.tokenCount ≤ maxTokens ∧ params.tokenCount.toNat < 2 ^ 31 := by
  have claimed : sub.tokenCount = params.tokenCount.toNat := by
    rw [Opoi.OpoiEngine.row_of_verdict accepted]
    rfl
  constructor
  · intro holds
    obtain ⟨events, treasury, run, found, noted⟩ := exists_published sub
    have fee : 0 ≤ (soleConfig.chain sub.requestId).feePerToken := zero_le_one
    have oneCount := holds soleConfig fee events treasury run
    have stored : Stored treasury.db 1 sub := ⟨_, found, rfl⟩
    have column : sub.tokenColumn.toInt = params.tokenCount.toNat :=
      oneCount.same _ noted stored
    have bound := sub.tokenColumn.toInt_lt
    refine ⟨oneCount.limited 1 stored, ?_⟩
    omega
  · rintro ⟨within, small⟩ config fee events treasury run
    obtain ⟨counted, valued⟩ := counted_of_run run
    exact counted.oneCount valued claimed within small fee

/-- A result with some token count, under a hash that leaves its bytes as they
are. -/
def claiming (count : UInt32) : OpoiSubmitResultParams where
  requestId := "r"
  responseHash := "00"
  responseHex := "00"
  tokenCount := count

/-- The row it is stored as. -/
def claimedRow (count : UInt32) : NewSubmission :=
  Opoi.OpoiEngine.submissionRow "miner" (claiming count) none

/-- The result is accepted, whatever it claims. -/
theorem accepts_claiming (count : UInt32) :
    Opoi.OpoiEngine.verdict id "miner" (claiming count) none (some false) =
      .ok (claimedRow count) := by
  have decoded : hexDecode "00" = some [0] := by decide
  have same : Opoi.OpoiEngine.eqIgnoreAsciiCase (sha256Hex id [0]) "00" = true := by decide
  simp only [Opoi.OpoiEngine.verdict, claiming, decoded, same, if_true]
  rfl

/-- An instance of `one_count_iff`: three tokens of at most four. -/
theorem one_count_iff_three :
    (∀ config : Config, 0 ≤ (config.chain (claimedRow 3).requestId).feePerToken →
      ∀ events treasury, (system config).RunWith RequestsFound new events treasury →
      treasury.OneCount config 4 3 (claimedRow 3) ((system config).notes sees new events)) ↔
      (3 : UInt32) ≤ 4 ∧ (3 : UInt32).toNat < 2 ^ 31 :=
  one_count_iff (accepts_claiming 3) 4

/-- The largest count is committed and revealed as it is, and rewarded as `-1`. -/
theorem largest_count_rewarded_less :
    ∃ events treasury row reward,
      Opoi.OpoiEngine.verdict id "miner" (claiming u32Max) none (some false) =
        .ok (claimedRow u32Max) ∧
      (system soleConfig).RunWith RequestsFound new events treasury ∧
      treasury.db.submissions.find? 1 = some row ∧ row.toNewSubmission = claimedRow u32Max ∧
      row.rewardAmount = some reward ∧
      reward < (soleConfig.chain (claimedRow u32Max).requestId).payment ∧
      ¬ treasury.OneCount soleConfig u32Max u32Max (claimedRow u32Max)
        ((system soleConfig).notes sees new events) := by
  obtain ⟨events, treasury, run, found, -⟩ := exists_published (claimedRow u32Max)
  have less : soleConfig.reward (claimedRow u32Max) <
      (soleConfig.chain (claimedRow u32Max).requestId).payment := by decide +kernel
  have unequal : ¬ treasury.OneCount soleConfig u32Max u32Max (claimedRow u32Max)
      ((system soleConfig).notes sees new events) := by
    intro oneCount
    have bounds := oneCount.rewarded 1 _ _ found rfl rfl
    exact absurd bounds.1 (not_le_of_gt less)
  exact ⟨events, treasury, _, _, accepts_claiming u32Max, run, found, rfl, rfl, less, unequal⟩

end Treasury

end StratumBridge.Payout
