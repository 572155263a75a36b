import StratumBridge.Lifecycle.System
import StratumBridge.Transition.Observe

/-!
# What a statement does to the statuses

A commit task ends by marking its row, a tick marks the rows it has listed, and
nothing else changes a status.  A statement that finds the status it expects
moves its row along the lifecycle.
-/

namespace StratumBridge.Lifecycle

open Data Wire Transition

/-- The statuses through which a row comes to have a status. -/
def SubmissionStatus.path : SubmissionStatus → List SubmissionStatus
  | .received => [.received]
  | .committed => [.received, .committed]
  | .revealed => [.received, .committed, .revealed]
  | .published => [.received, .committed, .revealed, .published]
  | .failed => [.received, .failed]

theorem SubmissionStatus.path_last (status : SubmissionStatus) :
    status.path.getLast? = some status := by
  cases status <;> rfl

theorem SubmissionStatus.path_prefix (status : SubmissionStatus) :
    status.path <+: [.received, .committed, .revealed, .published] ∨
      status.path <+: [.received, .failed] := by
  cases status with
  | failed => exact .inr (List.prefix_refl _)
  | _ => exact .inl (by decide)

/-- A statement moves every row along its path, if it moves it. -/
def Advances (db after : Database) : Prop :=
  ∀ id, System.Moves SubmissionStatus.path (db.status id) (after.status id)

/-- Rows that have left RECEIVED keep their status. -/
def KeepsSettled (db after : Database) : Prop :=
  ∀ id status, db.status id = some status → status ≠ .received → after.status id = some status

/-- RECEIVED rows stay so. -/
def KeepsReceived (db after : Database) : Prop :=
  ∀ id, db.status id = some .received → after.status id = some .received

namespace Database

variable {db after : Database} {id : SubmissionId} {now old : SubmissionStatus}

theorem advances_of_submissions_eq (same : after.submissions = db.submissions) :
    Advances db after := by
  intro id
  exact .inl (by rw [status, status, same])

theorem keepsSettled_of_submissions_eq (same : after.submissions = db.submissions) :
    KeepsSettled db after := by
  intro id status found _
  rwa [Database.status, same]

theorem keepsReceived_of_submissions_eq (same : after.submissions = db.submissions) :
    KeepsReceived db after := by
  intro id found
  rwa [Database.status, same]

/-- A mark set on a row with the expected status moves it along its path. -/
theorem Marks.advances (marks : db.Marks id now after) (expected : db.status id = some old)
    (follows : now.path = old.path ++ [now]) : Advances db after := by
  intro other
  rw [marks]
  by_cases same : other = id
  · subst same
    rw [if_pos rfl, expected]
    exact .inr ⟨now, rfl, follows⟩
  · rw [if_neg same]
    exact .inl rfl

/-- A mark set on one row keeps the status of the others. -/
theorem Marks.of_ne (marks : db.Marks id now after) {other : SubmissionId} (ne : other ≠ id) :
    after.status other = db.status other := by
  rw [marks, if_neg ne]

theorem Marks.keeps (marks : db.Marks id now after) {other : SubmissionId}
    (ne : db.status other ≠ db.status id) : after.status other = db.status other := by
  apply marks.of_ne
  rintro rfl
  exact ne rfl

/-- A mark set on a RECEIVED row keeps the settled ones. -/
theorem Marks.keepsSettled (marks : db.Marks id now after)
    (expected : db.status id = some .received) : KeepsSettled db after := by
  intro other status found settled
  rw [marks.keeps, found]
  rw [found, expected]
  simpa using settled

/-- A mark set on a settled row keeps the RECEIVED ones. -/
theorem Marks.keepsReceived (marks : db.Marks id now after) (expected : db.status id = some old)
    (settled : old ≠ .received) : KeepsReceived db after := by
  intro other found
  rw [marks.keeps, found]
  rw [found, expected]
  simpa using settled.symm

theorem status_nextId (db : Database) : db.status db.submissions.nextId = none := by
  rw [status, Table.find?_nextId]
  rfl

theorem advances_createSubmission {row : NewSubmission}
    (created : db.createSubmission row = some after) : Advances db after := by
  intro other
  rw [status_createSubmission created]
  split
  · rename_i same
    rw [same, status_nextId]
    exact .inr ⟨.received, rfl, rfl⟩
  · exact .inl rfl

theorem status_of_createSubmission {row : NewSubmission}
    (created : db.createSubmission row = some after) {status : SubmissionStatus}
    (found : db.status id = some status) : after.status id = some status := by
  rw [status_createSubmission created]
  split
  · rename_i same
    rw [same, status_nextId] at found
    cases found
  · exact found

theorem mem_listReceived : id ∈ db.listReceived ↔ db.status id = some .received := by
  simp [listReceived, status, Prod.exists]

theorem nodup_listReceived (db : Database) : db.listReceived.Nodup :=
  db.submissions.nodup_select _

end Database

/-- What becomes of a statement keeps whatever its result and its absence
keep. -/
theorem Outcome.settle_of {P : Database → Prop} {outcome : Outcome} {result : Option Database}
    {db : Database} (unchanged : P db) (changed : ∀ after, result = some after → P after) :
    P (outcome.settle result db) := by
  unfold settle
  split
  · cases result with
    | none => exact unchanged
    | some after => exact changed after rfl
  · exact unchanged

/-! ## Commit tasks -/

namespace CommitTask

variable {id : SubmissionId} {task : CommitTask} {signal : Signal} {db : Database}

theorem submissions_storeAttempt {after : Database} {address : String} {answer : CommitAnswer}
    (stored : storeAttempt id address answer db = some after) :
    after.submissions = db.submissions := by
  cases answer with
  | ok result => exact Database.submissions_upsertCommitAttemptSuccess stored
  | error reason => exact Database.submissions_upsertCommitAttemptFailure stored

/-- The task is in its last step, which marks the row with a status. -/
def Last : CommitTask → SubmissionStatus → Prop
  | .marking _, now => now = .committed
  | .failing, now => now = .failed
  | _, _ => False

/-- A signal to a commit task leaves the submissions alone, or ends the task by
marking its row. -/
theorem write_cases (id : SubmissionId) (task : CommitTask) (signal : Signal) (db : Database) :
    (task.write id signal db).submissions = db.submissions ∨
      ∃ outcome now, signal = .written outcome ∧ outcome.applies = true ∧ task.Last now ∧
        db.Marks id now (task.write id signal db) := by
  cases signal with
  | written outcome =>
      rw [write, Outcome.settle]
      split
      · rename_i applies
        cases ran : task.statement id db with
        | none => exact .inl rfl
        | some after =>
            cases task with
            | persisting round results firstSuccess =>
                cases results with
                | nil => cases ran
                | cons result results => exact .inl (submissions_storeAttempt ran)
            | marking result =>
                exact .inr ⟨outcome, _, rfl, applies, rfl, Database.marks_markCommitted ran⟩
            | failing =>
                exact .inr ⟨outcome, _, rfl, applies, rfl, Database.marks_markFailed ran⟩
            | _ => cases ran
      · exact .inl rfl
  | _ => exact .inl rfl

/-- Nothing is left of a call after its last step. -/
theorem Last.advance {outcome : Outcome} {now : SubmissionStatus} (last : task.Last now)
    (pool : StakePool) : task.advance pool (.written outcome) = none := by
  cases task with
  | marking result => rfl
  | failing => rfl
  | _ => cases last

/-- The last step follows RECEIVED. -/
theorem Last.path {now : SubmissionStatus} (last : task.Last now) :
    now.path = SubmissionStatus.received.path ++ [now] := by
  cases task with
  | marking result =>
      cases last
      rfl
  | failing =>
      cases last
      rfl
  | _ => cases last

theorem advances_write (received : db.status id = some .received) :
    Advances db (task.write id signal db) := by
  rcases write_cases id task signal db with same | ⟨outcome, now, -, -, last, marks⟩
  · exact Database.advances_of_submissions_eq same
  · exact marks.advances received last.path

theorem keepsSettled_write (received : db.status id = some .received) :
    KeepsSettled db (task.write id signal db) := by
  rcases write_cases id task signal db with same | ⟨outcome, now, -, -, -, marks⟩
  · exact Database.keepsSettled_of_submissions_eq same
  · exact marks.keepsSettled received

/-- A task that goes on has not touched its row, and no task touches another
row. -/
theorem status_write (pool : StakePool) {other : SubmissionId}
    (apart : other = id → task.advance pool signal ≠ none) :
    (task.write id signal db).status other = db.status other := by
  rcases write_cases id task signal db with same | ⟨outcome, now, rfl, -, last, marks⟩
  · rw [Database.status, same]
    rfl
  · apply marks.of_ne
    intro same
    exact apart same (last.advance pool)

end CommitTask

/-! ## The tick -/

/-- Every candidate belongs to a COMMITTED row, and each group to a row of its
own. -/
structure Revealable (db : Database) (groups : List (List RevealCandidate)) : Prop where
  committed : ∀ group ∈ groups, ∀ candidate ∈ group,
    db.status candidate.submissionId = some .committed
  apart : groups.Pairwise fun group later => ∀ first ∈ group, ∀ second ∈ later,
    first.submissionId ≠ second.submissionId

/-- The rows are distinct and REVEALED. -/
structure Publishable (db : Database) (rows : List (SubmissionId × Submission)) : Prop where
  revealed : ∀ row ∈ rows, db.status row.1 = some .revealed
  nodup : (rows.map Prod.fst).Nodup

variable {db after : Database}

namespace Revealable

variable {group smaller : List RevealCandidate} {groups : List (List RevealCandidate)}

theorem tail (revealable : Revealable db (group :: groups)) : Revealable db groups :=
  ⟨fun later mem => revealable.committed later (List.mem_cons_of_mem _ mem),
    revealable.apart.of_cons⟩

/-- Candidates of the first group may be left out. -/
theorem fewer (revealable : Revealable db (group :: groups)) (subset : smaller ⊆ group) :
    Revealable db (smaller :: groups) := by
  constructor
  · intro each mem candidate candidateMem
    rcases List.mem_cons.mp mem with rfl | later
    · exact revealable.committed group List.mem_cons_self candidate (subset candidateMem)
    · exact revealable.committed each (List.mem_cons_of_mem _ later) candidate candidateMem
  · rw [List.pairwise_cons]
    constructor
    · intro later mem first firstMem
      exact List.rel_of_pairwise_cons revealable.apart mem first (subset firstMem)
    · exact revealable.apart.of_cons

/-- The groups only depend on which of their rows are COMMITTED. -/
theorem transfer (revealable : Revealable db groups)
    (keeps : ∀ group ∈ groups, ∀ candidate ∈ group,
      db.status candidate.submissionId = some .committed →
        after.status candidate.submissionId = some .committed) : Revealable after groups :=
  ⟨fun group mem candidate candidateMem => keeps group mem candidate candidateMem
    (revealable.committed group mem candidate candidateMem), revealable.apart⟩

end Revealable

/-- The rows only depend on which of them are REVEALED. -/
theorem Publishable.transfer {rows : List (SubmissionId × Submission)}
    (publishable : Publishable db rows)
    (keeps : ∀ row ∈ rows, db.status row.1 = some .revealed →
      after.status row.1 = some .revealed) : Publishable after rows :=
  ⟨fun row mem => keeps row mem (publishable.revealed row mem), publishable.nodup⟩

theorem Publishable.tail {row : SubmissionId × Submission}
    {rest : List (SubmissionId × Submission)} (publishable : Publishable db (row :: rest)) :
    Publishable db rest :=
  ⟨fun each mem => publishable.revealed each (List.mem_cons_of_mem _ mem),
    (List.nodup_cons.mp publishable.nodup).2⟩

namespace RevealTick

variable {tick : RevealTick}

/-- The rows a tick still works on have the status it expects. -/
def Sound (db : Database) : RevealTick → Prop
  | .revealing candidate rest groups => Revealable db ((candidate :: rest) :: groups)
  | .markingAttempt candidate _ groups => Revealable db ([candidate] :: groups)
  | .markingSubmission candidate _ groups => Revealable db ([candidate] :: groups)
  | .publishing row rest => Publishable db (row :: rest)
  | .pricing row rest => Publishable db (row :: rest)
  | .markingPublished row _ rest => Publishable db (row :: rest)
  | _ => True

theorem sound_nextGroup {groups : List (List RevealCandidate)}
    (revealable : Revealable db groups) : (nextGroup groups).Sound db := by
  induction groups with
  | nil => trivial
  | cons group groups ih =>
      cases group with
      | nil => exact ih revealable.tail
      | cons candidate rest => exact revealable

theorem sound_nextRow {rows : List (SubmissionId × Submission)}
    (publishable : Publishable db rows) : (nextRow rows).Sound db := by
  cases rows with
  | nil => trivial
  | cons row rest => exact publishable

/-- Statements that keep the settled rows do not disturb a tick. -/
theorem Sound.keep (sound : tick.Sound db) (keeps : KeepsSettled db after) :
    tick.Sound after := by
  cases tick with
  | idle => trivial
  | listing => trivial
  | revealing _ _ _ => exact sound.transfer fun _ _ _ _ found => keeps _ _ found (by decide)
  | markingAttempt _ _ _ => exact sound.transfer fun _ _ _ _ found => keeps _ _ found (by decide)
  | markingSubmission _ _ _ =>
      exact sound.transfer fun _ _ _ _ found => keeps _ _ found (by decide)
  | publishing _ _ => exact sound.transfer fun _ _ found => keeps _ _ found (by decide)
  | pricing _ _ => exact sound.transfer fun _ _ found => keeps _ _ found (by decide)
  | markingPublished _ _ _ => exact sound.transfer fun _ _ found => keeps _ _ found (by decide)

theorem Sound.answered (sound : tick.Sound db) (answer : RevealAnswer) :
    (tick.answered answer).Sound db := by
  cases tick with
  | revealing candidate rest groups =>
      have single : [candidate] ⊆ candidate :: rest := by simp
      have others : rest ⊆ candidate :: rest := by simp
      cases answer with
      | accepted txid => exact Revealable.fewer sound single
      | unheard => exact sound_nextGroup (Revealable.fewer sound others)
      | rejected => exact sound_nextGroup (Revealable.fewer sound others)
  | _ => exact sound

theorem Sound.contentSubmitted {taken : Bool} (sound : tick.Sound db) :
    (tick.contentSubmitted taken).Sound db := by
  cases tick with
  | publishing row rest =>
      cases taken with
      | true => exact sound
      | false => exact sound_nextRow (Publishable.tail sound)
  | _ => exact sound

theorem Sound.priced {reward : Rat} (sound : tick.Sound db) : (tick.priced reward).Sound db := by
  cases tick <;> exact sound

/-- What a statement of the tick does to the rows. -/
structure Effect (db : Database) (tick : RevealTick) (after : Database) : Prop where
  sound : tick.written.Sound after
  advances : Advances db after
  keepsReceived : KeepsReceived db after

/-- A statement that leaves the submissions alone. -/
theorem effect_of_submissions_eq (same : after.submissions = db.submissions)
    (sound : tick.written.Sound db) : Effect db tick after where
  sound := sound.keep (Database.keepsSettled_of_submissions_eq same)
  advances := Database.advances_of_submissions_eq same
  keepsReceived := Database.keepsReceived_of_submissions_eq same

theorem effect_markingSubmission {candidate : RevealCandidate} {txid : String}
    {groups : List (List RevealCandidate)}
    (marks : db.Marks candidate.submissionId .revealed after)
    (revealable : Revealable db ([candidate] :: groups)) :
    Effect db (.markingSubmission candidate txid groups) after := by
  have committed := revealable.committed _ List.mem_cons_self candidate (List.mem_singleton_self _)
  constructor
  · apply sound_nextGroup
    apply revealable.tail.transfer
    intro group mem each eachMem found
    have ne := List.rel_of_pairwise_cons revealable.apart mem candidate
      (List.mem_singleton_self _) each eachMem
    rw [marks.of_ne ne.symm, found]
  · exact marks.advances committed rfl
  · exact marks.keepsReceived committed (by decide)

theorem effect_markingPublished {row : SubmissionId × Submission} {reward : Rat}
    {rest : List (SubmissionId × Submission)} (marks : db.Marks row.1 .published after)
    (publishable : Publishable db (row :: rest)) :
    Effect db (.markingPublished row reward rest) after := by
  have revealed := publishable.revealed row List.mem_cons_self
  constructor
  · apply sound_nextRow
    apply publishable.tail.transfer
    intro each mem found
    have ne : each.1 ≠ row.1 := by
      intro same
      have idMem := List.mem_map_of_mem (f := Prod.fst) mem
      exact (List.nodup_cons.mp publishable.nodup).1 (same ▸ idMem)
    rw [marks.of_ne ne, found]
  · exact marks.advances revealed rfl
  · exact marks.keepsReceived revealed (by decide)

/-- Every statement of a sound tick finds the row it expects. -/
theorem Sound.effect (sound : tick.Sound db) (outcome : Outcome) :
    Effect db tick (outcome.settle (tick.statement db) db) := by
  apply Outcome.settle_of
  · apply effect_of_submissions_eq rfl
    cases tick with
    | markingSubmission candidate txid groups => exact sound_nextGroup (Revealable.tail sound)
    | markingPublished row reward rest => exact sound_nextRow (Publishable.tail sound)
    | _ => exact sound
  · intro after ran
    cases tick with
    | markingAttempt candidate txid groups =>
        exact effect_of_submissions_eq (Database.submissions_markAttemptRevealed ran) sound
    | markingSubmission candidate txid groups =>
        exact effect_markingSubmission (Database.marks_markRevealed ran) sound
    | markingPublished row reward rest =>
        exact effect_markingPublished (Database.marks_markPublished ran) sound
    | _ => cases ran

end RevealTick

namespace Database

theorem committed_of_mem_candidates {height : UInt64} {candidate : RevealCandidate}
    (mem : candidate ∈ db.listRevealReadyCandidates height) :
    db.status candidate.submissionId = some .committed := by
  obtain ⟨⟨attemptId, attempt⟩, -, joined⟩ := List.mem_filterMap.mp mem
  simp only [revealCandidate, Option.bind_eq_bind, Option.bind_eq_some_iff] at joined
  rcases joined with ⟨row, found, closesAt, -, nonceHex, -, listed⟩
  split at listed
  · rename_i ready
    cases listed
    simp [status, found, ready.2.2]
  · cases listed

theorem revealable_of_grouping {height : UInt64} {groups : List (List RevealCandidate)}
    (grouping : Grouping (db.listRevealReadyCandidates height) groups) :
    Revealable db groups := by
  constructor
  · intro group mem candidate candidateMem
    have listed := grouping.perm.mem_iff.mp (List.mem_flatten.mpr ⟨group, mem, candidateMem⟩)
    exact committed_of_mem_candidates listed
  · exact grouping.apart

theorem publishable_of_perm {rows : List (SubmissionId × Submission)}
    (perm : rows.Perm db.listRevealedUnpublished) : Publishable db rows := by
  constructor
  · rintro ⟨id, row⟩ mem
    have selected := Table.mem_select.mp (perm.mem_iff.mp mem)
    have revealed : row.status = .revealed := by simpa using (Bool.and_eq_true_iff.mp selected.2).1
    rw [status, selected.1, Option.map_some, revealed]
  · exact (perm.map Prod.fst).nodup_iff.mpr (db.submissions.nodup_select _)

end Database

end StratumBridge.Lifecycle
