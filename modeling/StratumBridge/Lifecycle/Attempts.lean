import StratumBridge.Lifecycle.Monotone

/-!
# Commit attempts

What the statements do to the attempts, and that a tick's candidates stand for
accepted attempts of the rows they name.
-/

namespace StratumBridge.Lifecycle

open Data Wire Transition

namespace Database

variable {db after : Database} {id : SubmissionId} {address reason txid : String}
  {result : CommitResult} {attemptId : Nat} {attempt : CommitAttempt}

/-- What csd accepted is stored for an address. -/
def Accepted (db : Database) (id : SubmissionId) (address : String) : Prop :=
  ∃ attemptId attempt, db.attempts.find? attemptId = some attempt ∧
    attempt.target = some (id, address) ∧ attempt.status ≠ .failed

/-- How an upsert for one address changes the attempts. -/
structure Upserts (db : Database) (id : SubmissionId) (address : String)
    (written : CommitAttempt → Prop) (after : Database) : Prop where
  submissions : after.submissions = db.submissions
  backward : ∀ attemptId attempt, after.attempts.find? attemptId = some attempt →
    db.attempts.find? attemptId = some attempt ∨
      attempt.target = some (id, address) ∧ written attempt
  forward : ∀ attemptId attempt, db.attempts.find? attemptId = some attempt →
    after.attempts.find? attemptId = some attempt ∨
      attempt.target = some (id, address) ∧
        ∃ now, after.attempts.find? attemptId = some now ∧ now.target = some (id, address) ∧
          written now
  present : ∃ attemptId attempt, after.attempts.find? attemptId = some attempt ∧
    attempt.target = some (id, address) ∧ written attempt

/-- The upserts of `opoi_commit_attempts` write a row for their address. -/
theorem upserts_of_upsert {row : CommitAttempt} {change : CommitAttempt → CommitAttempt}
    {attempts : Table CommitAttempt (SubmissionId × String) CommitAttempt.target}
    {written : CommitAttempt → Prop}
    (upserted : db.attempts.upsert (id, address) row change = some attempts)
    (target : row.target = some (id, address)) (rowWritten : written row)
    (keeps : ∀ attempt, (change attempt).target = attempt.target)
    (changeWritten : ∀ attempt, written (change attempt)) :
    db.Upserts id address written { db with attempts } := by
  have found := Table.find?_upsert upserted
  cases index : db.attempts.idOf (id, address) with
  | none =>
      simp only [index, reduceCtorEq, if_false, true_and] at found
      constructor
      · rfl
      · intro attemptId attempt present
        rw [found] at present
        split at present
        · cases present
          exact .inr ⟨target, rowWritten⟩
        · exact .inl present
      · intro attemptId attempt present
        have old : attemptId ≠ db.attempts.nextId := by
          rintro rfl
          rw [Table.find?_nextId] at present
          cases present
        exact .inl (by rw [found, if_neg old, present])
      · exact ⟨db.attempts.nextId, row, by rw [found, if_pos rfl], target, rowWritten⟩
  | some held =>
      obtain ⟨old, present, oldTarget⟩ := Table.idOf_eq_some index
      simp only [index, Option.some.injEq, reduceCtorEq, false_and, if_false] at found
      have now : db.attempts.find? held = some old := present
      constructor
      · rfl
      · intro attemptId attempt present
        rw [found] at present
        split at present
        · rename_i same
          rw [← same, now] at present
          cases present
          exact .inr ⟨(keeps old).trans oldTarget, changeWritten old⟩
        · exact .inl present
      · intro attemptId attempt before
        by_cases same : held = attemptId
        · subst same
          rw [now] at before
          cases before
          refine .inr ⟨oldTarget, change old, ?_, (keeps old).trans oldTarget, changeWritten old⟩
          rw [found, if_pos rfl, now]
          rfl
        · exact .inl (by rw [found, if_neg same, before])
      · refine ⟨held, change old, ?_, (keeps old).trans oldTarget, changeWritten old⟩
        rw [found, if_pos rfl, now]
        rfl

theorem upserts_success (stored : db.upsertCommitAttemptSuccess id address result = some after) :
    db.Upserts id address
      (fun attempt => attempt.status = .committed ∧
        attempt.commitNonceHex = some result.nonceHex) after := by
  obtain ⟨attempts, upserted, same⟩ := Option.bind_eq_some_iff.mp stored
  cases same
  exact upserts_of_upsert upserted rfl ⟨rfl, rfl⟩ (fun _ => rfl) fun _ => ⟨rfl, rfl⟩

theorem upserts_failure (stored : db.upsertCommitAttemptFailure id address reason = some after) :
    db.Upserts id address (fun attempt => attempt.status = .failed) after := by
  obtain ⟨attempts, upserted, same⟩ := Option.bind_eq_some_iff.mp stored
  cases same
  exact upserts_of_upsert upserted rfl rfl (fun _ => rfl) fun _ => rfl

/-- Marking an attempt changes its status to REVEALED and that of no other. -/
theorem find?_markAttemptRevealed (marked : db.markAttemptRevealed attemptId txid = some after)
    (other : Nat) :
    after.attempts.find? other =
      if other = attemptId then
        (db.attempts.find? attemptId).map fun attempt =>
          { attempt with
            status := .revealed
            revealTxid := some txid }
      else db.attempts.find? other := by
  obtain ⟨attempts, updated, same⟩ := Option.bind_eq_some_iff.mp marked
  cases same
  exact Table.find?_update updated other

/-- The candidate's attempt is one that csd accepted for the row it names. -/
def Backs (db : Database) (candidate : RevealCandidate) : Prop :=
  ∃ attempt, db.attempts.find? candidate.attemptId = some attempt ∧
    attempt.target = some (candidate.submissionId, candidate.opoiAddress) ∧
    attempt.status ≠ .failed

/-- A candidate is read from a COMMITTED attempt and the row that it belongs to. -/
theorem joined_of_mem_candidates {height : UInt64} {candidate : RevealCandidate}
    (mem : candidate ∈ db.listRevealReadyCandidates height) :
    ∃ attempt row, db.attempts.find? candidate.attemptId = some attempt ∧
      attempt.target = some (candidate.submissionId, candidate.opoiAddress) ∧
      attempt.status = .committed ∧
      db.submissions.find? candidate.submissionId = some row ∧
      candidate.tokenCount = row.tokenColumn := by
  obtain ⟨⟨attemptId, attempt⟩, entryMem, joined⟩ := List.mem_filterMap.mp mem
  simp only [revealCandidate, Option.bind_eq_bind, Option.bind_eq_some_iff] at joined
  rcases joined with ⟨row, stands, closesAt, -, nonceHex, -, listed⟩
  split at listed
  · rename_i ready
    cases listed
    have found : db.attempts.find? attemptId = some attempt :=
      IndexMap.get?_eq_some_iff_mem.mpr entryMem
    exact ⟨attempt, row, found, rfl, ready.1, stands, rfl⟩
  · cases listed

theorem backs_of_mem_candidates {height : UInt64} {candidate : RevealCandidate}
    (mem : candidate ∈ db.listRevealReadyCandidates height) : db.Backs candidate := by
  obtain ⟨attempt, row, found, target, committed, -⟩ := joined_of_mem_candidates mem
  exact ⟨attempt, found, target, by simp [committed]⟩

/-- An upsert for another row keeps a candidate's attempt. -/
theorem Upserts.backs {written : CommitAttempt → Prop} {candidate : RevealCandidate}
    (upserts : db.Upserts id address written after) (ne : candidate.submissionId ≠ id)
    (backs : db.Backs candidate) : after.Backs candidate := by
  rcases backs with ⟨attempt, found, target, accepted⟩
  rcases upserts.forward _ _ found with kept | ⟨same, -⟩
  · exact ⟨attempt, kept, target, accepted⟩
  · rw [target] at same
    cases same
    exact absurd rfl ne

/-- Marking an attempt keeps every candidate's attempt. -/
theorem backs_markAttemptRevealed {candidate : RevealCandidate}
    (marked : db.markAttemptRevealed attemptId txid = some after) (backs : db.Backs candidate) :
    after.Backs candidate := by
  rcases backs with ⟨attempt, found, target, accepted⟩
  by_cases same : candidate.attemptId = attemptId
  · refine ⟨{ attempt with
        status := .revealed
        revealTxid := some txid }, ?_, target, by simp⟩
    rw [find?_markAttemptRevealed marked, if_pos same, ← same, found]
    rfl
  · exact ⟨attempt, by rw [find?_markAttemptRevealed marked, if_neg same, found], target, accepted⟩

end Database

/-- The row that storing an answer writes. -/
def Stores (answer : CommitAnswer) (attempt : CommitAttempt) : Prop :=
  match answer with
  | .ok result => attempt.status = .committed ∧ attempt.commitNonceHex = some result.nonceHex
  | .error _ => attempt.status = .failed

namespace CommitTask

/-- A signal to a commit task leaves the attempts alone, or stores the answer
of one address. -/
theorem write_attempts (id : SubmissionId) (task : CommitTask) (signal : Signal) (db : Database) :
    (task.write id signal db).attempts = db.attempts ∨
      ∃ round address answer results firstSuccess outcome,
        task = .persisting round ((address, answer) :: results) firstSuccess ∧
        signal = .written outcome ∧ outcome.applies = true ∧
        db.Upserts id address (Stores answer) (task.write id signal db) := by
  cases signal with
  | written outcome =>
      rw [write, Outcome.settle]
      split
      · rename_i applies
        cases ran : task.statement id db with
        | none => exact .inl rfl
        | some after =>
            cases task with
            | persisting round results firstSuccess =>
                cases results with
                | nil => cases ran
                | cons result results =>
                    rcases result with ⟨address, answer⟩
                    have stored : storeAttempt id address answer db = some after := ran
                    refine .inr ⟨round, address, answer, results, firstSuccess, outcome, rfl, rfl,
                      applies, ?_⟩
                    cases answer with
                    | ok result => exact Database.upserts_success stored
                    | error reason => exact Database.upserts_failure stored
            | marking result => exact .inl (Database.attempts_updateSubmission ran)
            | failing => exact .inl (Database.attempts_updateSubmission ran)
            | _ => cases ran
      · exact .inl rfl
  | _ => exact .inl rfl

end CommitTask

namespace RevealTick

variable {db : Database} {tick : RevealTick}

/-- The candidates that a tick has not given up or finished. -/
def candidates : RevealTick → List RevealCandidate
  | .revealing candidate rest groups => candidate :: (rest ++ groups.flatten)
  | .markingAttempt candidate _ groups => candidate :: groups.flatten
  | .markingSubmission candidate _ groups => candidate :: groups.flatten
  | _ => []

/-- A statement of the tick leaves the attempts alone, or marks the one that was
revealed. -/
theorem write_attempts (tick : RevealTick) (outcome : Outcome) (db : Database) :
    (outcome.settle (tick.statement db) db).attempts = db.attempts ∨
      ∃ candidate txid groups, tick = .markingAttempt candidate txid groups ∧
        db.markAttemptRevealed candidate.attemptId txid =
          some (outcome.settle (tick.statement db) db) := by
  rw [Outcome.settle]
  split
  · cases ran : tick.statement db with
    | none => exact .inl rfl
    | some after =>
        cases tick with
        | markingAttempt candidate txid groups => exact .inr ⟨candidate, txid, groups, rfl, ran⟩
        | markingSubmission candidate txid groups =>
            exact .inl (Database.attempts_updateSubmission ran)
        | markingPublished row reward rest => exact .inl (Database.attempts_updateSubmission ran)
        | _ => cases ran
  · exact .inl rfl

theorem candidates_nextGroup (groups : List (List RevealCandidate)) :
    (nextGroup groups).candidates = groups.flatten := by
  induction groups with
  | nil => rfl
  | cons group groups ih =>
      cases group with
      | nil => exact ih
      | cons candidate rest => rfl

theorem candidates_nextRow (rows : List (SubmissionId × Submission)) :
    (nextRow rows).candidates = [] := by
  cases rows <;> rfl

theorem candidates_written : tick.written.candidates ⊆ tick.candidates := by
  cases tick with
  | markingSubmission candidate txid groups =>
      rw [written, candidates_nextGroup]
      exact List.subset_cons_self _ _
  | markingPublished row reward rest =>
      rw [written, candidates_nextRow]
      exact List.nil_subset _
  | _ => exact List.Subset.refl _

theorem candidates_answered {answer : RevealAnswer} :
    (tick.answered answer).candidates ⊆ tick.candidates := by
  cases tick with
  | revealing candidate rest groups =>
      cases answer with
      | accepted txid =>
          apply List.cons_subset_cons
          exact List.subset_append_right _ _
      | unheard =>
          change (nextGroup (rest :: groups)).candidates ⊆ _
          rw [candidates_nextGroup]
          exact List.subset_cons_self _ _
      | rejected =>
          change (nextGroup (rest :: groups)).candidates ⊆ _
          rw [candidates_nextGroup]
          exact List.subset_cons_self _ _
  | _ => exact List.Subset.refl _

theorem candidates_contentSubmitted {taken : Bool} :
    (tick.contentSubmitted taken).candidates ⊆ tick.candidates := by
  cases tick with
  | publishing row rest =>
      cases taken with
      | true => exact List.Subset.refl _
      | false =>
          rw [contentSubmitted, candidates_nextRow]
          exact List.nil_subset _
  | _ => exact List.Subset.refl _

theorem candidates_priced {reward : Rat} : (tick.priced reward).candidates ⊆ tick.candidates := by
  cases tick <;> exact List.Subset.refl _

/-- The rows of the candidates are COMMITTED. -/
theorem Sound.committed {candidate : RevealCandidate} (sound : tick.Sound db)
    (mem : candidate ∈ tick.candidates) : db.status candidate.submissionId = some .committed := by
  have listed : ∀ groups, Revealable db groups → candidate ∈ groups.flatten →
      db.status candidate.submissionId = some .committed := by
    intro groups revealable inGroups
    obtain ⟨group, groupMem, inGroup⟩ := List.mem_flatten.mp inGroups
    exact revealable.committed group groupMem candidate inGroup
  cases tick with
  | revealing _ _ _ => exact listed _ sound mem
  | markingAttempt _ _ _ => exact listed _ sound mem
  | markingSubmission _ _ _ => exact listed _ sound mem
  | _ => cases mem

end RevealTick

namespace Service

variable {pool : StakePool} {service : Service} {event : Event}

/-- A tick reads its candidates when it begins. -/
theorem mem_candidates_next {candidate : RevealCandidate} (enabled : service.enabled event)
    (mem : candidate ∈ (service.next pool event).tick.candidates) :
    candidate ∈ service.tick.candidates ∨
      ∃ height, candidate ∈ service.db.listRevealReadyCandidates height := by
  cases event with
  | resume =>
      simp only [Service.next, resume] at mem
      split at mem <;> exact .inl mem
  | crash => cases mem
  | create row outcome =>
      simp only [Service.next, create] at mem
      split at mem <;> exact .inl mem
  | commit id signal =>
      simp only [Service.next, commit] at mem
      split at mem <;> exact .inl mem
  | tickBegin height groups =>
      rw [Service.next, RevealTick.candidates_nextGroup] at mem
      exact .inr ⟨height, enabled.2.2.perm.mem_iff.mp mem⟩
  | revealAnswered answer =>
      simp only [Service.next, revealAnswered] at mem
      split at mem
      · exact .inl (RevealTick.candidates_answered mem)
      · exact .inl (RevealTick.candidates_answered mem)
      · exact .inl mem
  | tickWritten outcome => exact .inl (RevealTick.candidates_written mem)
  | listed rows =>
      cases rows with
      | none => cases mem
      | some rows =>
          rw [Service.next, RevealTick.candidates_nextRow] at mem
          cases mem
  | contentSubmitted taken => exact .inl (RevealTick.candidates_contentSubmitted mem)
  | priced reward => exact .inl (RevealTick.candidates_priced mem)
  | _ => exact .inl mem

/-- A tick's candidates stand for accepted attempts. -/
def Backed (service : Service) : Prop :=
  ∀ candidate ∈ service.tick.candidates, service.db.Backs candidate

theorem backed_commit {id : SubmissionId} {signal : Signal} (sound : service.Sound)
    (backed : service.Backed) : (service.commit pool id signal).Backed := by
  unfold commit
  split
  · rename_i task found
    intro candidate mem
    have backs := backed candidate mem
    have ne : candidate.submissionId ≠ id := by
      intro same
      have received := sound.working id task found
      rw [← same, sound.tick.committed mem] at received
      cases received
    rcases task.write_attempts id signal service.db with same | ⟨_, _, _, _, _, _, -, -, -, upserts⟩
    · rcases backs with ⟨attempt, found, target, accepted⟩
      exact ⟨attempt, by rw [← found, ← same], target, accepted⟩
    · exact upserts.backs ne backs
  · exact backed

theorem backed_create {row : NewSubmission} {outcome : Outcome} (backed : service.Backed) :
    (service.create pool row outcome).Backed := by
  unfold create
  split
  · rename_i db _ created
    intro candidate mem
    obtain ⟨attempt, found, target, accepted⟩ := backed candidate mem
    have same := Database.attempts_createSubmission created
    exact ⟨attempt, by rw [← found, ← same], target, accepted⟩
  · exact backed

theorem backed_tickWritten {outcome : Outcome} (backed : service.Backed) :
    (service.next pool (.tickWritten outcome)).Backed := by
  intro candidate mem
  have backs := backed candidate (RevealTick.candidates_written mem)
  rcases service.tick.write_attempts outcome service.db with same | ⟨_, _, _, -, marked⟩
  · rcases backs with ⟨attempt, found, target, accepted⟩
    exact ⟨attempt, by rw [← found, ← same]; rfl, target, accepted⟩
  · exact Database.backs_markAttemptRevealed marked backs

theorem backed_revealAnswered {answer : RevealAnswer} (backed : service.Backed) :
    (service.revealAnswered answer).Backed := by
  have answered : ∀ candidate ∈ (service.tick.answered answer).candidates,
      service.db.Backs candidate :=
    fun candidate mem => backed candidate (RevealTick.candidates_answered mem)
  unfold revealAnswered
  split
  · exact answered
  · exact answered
  · exact backed

theorem Backed.next (backed : service.Backed) (sound : service.Sound)
    (enabled : service.enabled event) : (service.next pool event).Backed := by
  cases event with
  | resume =>
      simp only [Service.next, Service.resume]
      split <;> exact backed
  | crash =>
      intro candidate mem
      cases mem
  | create row outcome => exact backed_create backed
  | commit id signal => exact backed_commit sound backed
  | tickBegin height groups =>
      intro candidate mem
      rw [Service.next, RevealTick.candidates_nextGroup] at mem
      exact Database.backs_of_mem_candidates (enabled.2.2.perm.mem_iff.mp mem)
  | revealAnswered answer => exact backed_revealAnswered backed
  | tickWritten outcome => exact backed_tickWritten backed
  | listed rows =>
      intro candidate mem
      cases rows with
      | none => cases mem
      | some rows =>
          rw [Service.next, RevealTick.candidates_nextRow] at mem
          cases mem
  | contentSubmitted taken =>
      exact fun candidate mem => backed candidate (RevealTick.candidates_contentSubmitted mem)
  | priced reward => exact fun candidate mem => backed candidate (RevealTick.candidates_priced mem)
  | _ => exact backed

theorem backed_new : new.Backed := by
  intro candidate mem
  cases mem

end Service

end StratumBridge.Lifecycle
