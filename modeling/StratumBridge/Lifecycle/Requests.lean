import StratumBridge.Lifecycle.Monotone

/-!
# Requests with a submission

What the creator of a row chose stays as it is, and a FAILED row stays FAILED.
So a request comes to have a submission that is not FAILED only when a row is
created for it.
-/

namespace StratumBridge.Lifecycle

open Data Wire Transition

/-- No row appears or disappears, and a column keeps its values. -/
def KeepsColumn {α : Type} (column : Submission → α) (db after : Database) : Prop :=
  ∀ id, (after.submissions.find? id).map column = (db.submissions.find? id).map column

/-- The row that stands for a row. -/
theorem KeepsColumn.exists_before {α : Type} {column : Submission → α} {db after : Database}
    (keeps : KeepsColumn column db after) {id : SubmissionId} {now : Submission}
    (found : after.submissions.find? id = some now) :
    ∃ row, db.submissions.find? id = some row ∧ column row = column now := by
  have same := keeps id
  rw [found, Option.map_some] at same
  exact Option.map_eq_some_iff.mp same.symm

namespace Database

variable {α : Type} {column : Submission → α} {db after : Database} {id : SubmissionId}

theorem keepsColumn_of_submissions_eq (same : after.submissions = db.submissions) :
    KeepsColumn column db after := by
  intro id
  rw [same]

/-- An update that leaves a column of its row alone. -/
theorem keepsColumn_updateSubmission {change : Submission → Submission}
    (updated : db.updateSubmission id change = some after)
    (keeps : ∀ row, column (change row) = column row) : KeepsColumn column db after := by
  intro other
  obtain ⟨submissions, found, same⟩ := Option.bind_eq_some_iff.mp updated
  cases same
  rw [Table.find?_update found]
  by_cases same : other = id
  · subst same
    rw [if_pos rfl, Option.map_map]
    congr 1
    funext row
    exact keeps row
  · rw [if_neg same]

/-- The request has a submission that is not FAILED. -/
def ActiveRequest (db : Database) (requestId : RequestId) : Prop :=
  ∃ id row, db.submissions.find? id = some row ∧ row.activeRequest = some requestId

theorem activeRequest_eq_some {row : Submission} {requestId : RequestId} :
    row.activeRequest = some requestId ↔ row.status ≠ .failed ∧ row.requestId = requestId := by
  unfold Submission.activeRequest
  split
  · rename_i failed
    simp [failed]
  · rename_i other
    simp [other]

/-- While no request changes and statuses advance, no request comes to have a
submission. -/
theorem ActiveRequest.before {requestId : RequestId} (active : after.ActiveRequest requestId)
    (kept : KeepsColumn Submission.toNewSubmission db after) (advances : Advances db after) :
    db.ActiveRequest requestId := by
  rcases active with ⟨id, now, found, isActive⟩
  rw [activeRequest_eq_some] at isActive
  obtain ⟨row, stood, created⟩ := kept.exists_before found
  refine ⟨id, row, stood, activeRequest_eq_some.mpr ⟨?_, ?_⟩⟩
  · intro failed
    have was : db.status id = some .failed := by rw [status, stood, Option.map_some, failed]
    have is : after.status id = some now.status := by rw [status, found, Option.map_some]
    rcases advances id with unmoved | ⟨value, moved, continues⟩
    · rw [was, is] at unmoved
      exact isActive.1 (Option.some.inj unmoved)
    · rw [was] at continues
      cases value <;> cases continues
  · rw [← isActive.2]
    exact congrArg NewSubmission.requestId created

/-- A created row makes its own request active and no other. -/
theorem activeRequest_createSubmission {row : NewSubmission} {requestId : RequestId}
    (created : db.createSubmission row = some after) :
    after.ActiveRequest requestId ↔ db.ActiveRequest requestId ∨ requestId = row.requestId := by
  obtain ⟨submissions, inserted, same⟩ := Option.bind_eq_some_iff.mp created
  cases same
  constructor
  · rintro ⟨id, now, found, isActive⟩
    rw [Table.find?_insert inserted] at found
    split at found
    · cases found
      exact .inr (activeRequest_eq_some.mp isActive).2.symm
    · exact .inl ⟨id, now, found, isActive⟩
  · rintro (⟨id, now, found, isActive⟩ | rfl)
    · refine ⟨id, now, ?_, isActive⟩
      rw [Table.find?_insert inserted, if_neg]
      · exact found
      · rintro rfl
        rw [Table.find?_nextId] at found
        cases found
    · exact ⟨db.submissions.nextId, _, (Table.find?_insert inserted _).trans (if_pos rfl), rfl⟩

end Database

/-- A change that leaves to a row what its creator chose, its reward and its
payment. -/
def Routine (change : Submission → Submission) : Prop :=
  ∀ row, (change row).toNewSubmission = row.toNewSubmission ∧
    (change row).rewardAmount = row.rewardAmount ∧ (change row).paid = row.paid

namespace Service

variable {service : Service} {event : Event} {requestId : RequestId}

/-- What an event can do to the submissions. -/
inductive Writes (service : Service) : Event → Database → Prop
  | idle {event : Event} {now : Database} (same : now.submissions = service.db.submissions) :
      Writes service event now
  | created {row : NewSubmission} {outcome : Outcome} {now : Database}
      (created : service.db.createSubmission row = some now) :
      Writes service (.create row outcome) now
  | marked {event : Event} {id : SubmissionId} {change : Submission → Submission}
      {now : Database} (routine : Routine change)
      (updated : service.db.updateSubmission id change = some now) : Writes service event now
  | published {row : SubmissionId × Submission} {reward : Rat}
      {rest : List (SubmissionId × Submission)} {outcome : Outcome} {now : Database}
      (ticking : service.tick = .markingPublished row reward rest)
      (updated : service.db.markPublished row.1 reward = some now) :
      Writes service (.tickWritten outcome) now

/-- The statements of a commit task are routine. -/
theorem writes_commit (service : Service) (id : SubmissionId) (task : CommitTask)
    (signal : Signal) : service.Writes event (task.write id signal service.db) := by
  cases signal with
  | written outcome =>
      apply Outcome.settle_of (.idle rfl)
      intro after ran
      cases task with
      | persisting round results firstSuccess =>
          cases results with
          | nil => cases ran
          | cons result results => exact .idle (CommitTask.submissions_storeAttempt ran)
      | marking result =>
          apply Writes.marked _ ran
          exact fun _ => ⟨rfl, rfl, rfl⟩
      | failing =>
          apply Writes.marked _ ran
          exact fun _ => ⟨rfl, rfl, rfl⟩
      | _ => cases ran
  | _ => exact .idle rfl

/-- So are those of the tick, but for the one that publishes. -/
theorem writes_tickWritten (service : Service) (outcome : Outcome) :
    service.Writes (.tickWritten outcome)
      (outcome.settle (service.tick.statement service.db) service.db) := by
  apply Outcome.settle_of (.idle rfl)
  intro after ran
  cases ticking : service.tick with
  | markingAttempt candidate txid groups =>
      rw [ticking] at ran
      exact .idle (Database.submissions_markAttemptRevealed ran)
  | markingSubmission candidate txid groups =>
      rw [ticking] at ran
      apply Writes.marked _ ran
      exact fun _ => ⟨rfl, rfl, rfl⟩
  | markingPublished row reward rest =>
      rw [ticking] at ran
      exact .published ticking ran
  | _ =>
      rw [ticking] at ran
      cases ran

theorem writes_next (pool : StakePool) (service : Service) (event : Event) :
    service.Writes event (service.next pool event).db := by
  cases event with
  | resume =>
      simp only [next, resume]
      split <;> exact .idle rfl
  | create row outcome =>
      simp only [next, create]
      split
      · rename_i created
        exact .created created
      · exact .idle rfl
  | commit id signal =>
      simp only [next, commit]
      split
      · exact writes_commit service id _ signal
      · exact .idle rfl
  | revealAnswered answer =>
      simp only [next, revealAnswered]
      split <;> exact .idle rfl
  | tickWritten outcome => exact writes_tickWritten service outcome
  | listed rows => cases rows <;> exact .idle rfl
  | _ => exact .idle rfl

/-- A row stays, as created and as paid. -/
theorem Writes.keeps {now : Database} (writes : service.Writes event now) {id : SubmissionId}
    {row : Submission} (found : service.db.submissions.find? id = some row) :
    ∃ kept, now.submissions.find? id = some kept ∧
      kept.toNewSubmission = row.toNewSubmission ∧ kept.paid = row.paid := by
  cases writes with
  | idle same => exact ⟨row, by rw [same, found], rfl, rfl⟩
  | created created =>
      obtain ⟨submissions, inserted, ⟨⟩⟩ := Option.bind_eq_some_iff.mp created
      refine ⟨row, ?_, rfl, rfl⟩
      rw [Table.find?_insert inserted, if_neg]
      · exact found
      · rintro rfl
        rw [Table.find?_nextId] at found
        cases found
  | @marked _ changed change _ routine updated =>
      obtain ⟨submissions, ran, ⟨⟩⟩ := Option.bind_eq_some_iff.mp updated
      rw [Table.find?_update ran]
      by_cases same : id = changed
      · subst same
        rw [if_pos rfl, found]
        exact ⟨change row, rfl, (routine row).1, (routine row).2.2⟩
      · rw [if_neg same]
        exact ⟨row, found, rfl, rfl⟩
  | @published entry _ _ _ _ ticking updated =>
      obtain ⟨submissions, ran, ⟨⟩⟩ := Option.bind_eq_some_iff.mp updated
      rw [Table.find?_update ran]
      by_cases same : id = entry.1
      · subst same
        rw [if_pos rfl, found]
        exact ⟨_, rfl, rfl, rfl⟩
      · rw [if_neg same]
        exact ⟨row, found, rfl, rfl⟩

/-- Where a row comes from: it stood there, as created and with its reward, or it
was just published or created. -/
inductive Origin (service : Service) (event : Event) (now : Database) (id : SubmissionId)
    (kept : Submission) : Prop
  | stood {row : Submission} (found : service.db.submissions.find? id = some row)
      (created : kept.toNewSubmission = row.toNewSubmission)
      (reward : kept.rewardAmount = row.rewardAmount)
  | published {entry : SubmissionId × Submission} {reward : Rat}
      {rest : List (SubmissionId × Submission)} {row : Submission}
      (ticking : service.tick = .markingPublished entry reward rest) (isEntry : entry.1 = id)
      (found : service.db.submissions.find? id = some row)
      (created : kept.toNewSubmission = row.toNewSubmission)
      (rewarded : kept.rewardAmount = some reward)
  | created {row : NewSubmission} {outcome : Outcome} (isEvent : event = .create row outcome)
      (isNext : id = service.db.submissions.nextId) (created : kept.toNewSubmission = row)
      (active : kept.status = .received) (unrewarded : kept.rewardAmount = none)

theorem Writes.origin {now : Database} (writes : service.Writes event now) {id : SubmissionId}
    {kept : Submission} (found : now.submissions.find? id = some kept) :
    service.Origin event now id kept := by
  cases writes with
  | idle same =>
      rw [same] at found
      exact .stood found rfl rfl
  | created created =>
      obtain ⟨submissions, inserted, ⟨⟩⟩ := Option.bind_eq_some_iff.mp created
      rw [Table.find?_insert inserted] at found
      split at found
      · rename_i isNext
        cases found
        exact .created rfl isNext rfl rfl rfl
      · exact .stood found rfl rfl
  | marked routine updated =>
      obtain ⟨submissions, ran, ⟨⟩⟩ := Option.bind_eq_some_iff.mp updated
      rw [Table.find?_update ran] at found
      split at found
      · rename_i same
        obtain ⟨row, stood, rfl⟩ := Option.map_eq_some_iff.mp found
        exact .stood (same ▸ stood) (routine row).1 (routine row).2.1
      · exact .stood found rfl rfl
  | published ticking updated =>
      obtain ⟨submissions, ran, ⟨⟩⟩ := Option.bind_eq_some_iff.mp updated
      rw [Table.find?_update ran] at found
      split at found
      · rename_i same
        obtain ⟨row, stood, rfl⟩ := Option.map_eq_some_iff.mp found
        subst same
        exact .published ticking rfl stood rfl rfl
      · exact .stood found rfl rfl

/-- A row is created, or no row appears or disappears. -/
theorem Writes.created_or_kept {now : Database} (writes : service.Writes event now) :
    (∃ row outcome, event = .create row outcome ∧
      service.db.createSubmission row = some now) ∨
    KeepsColumn Submission.toNewSubmission service.db now := by
  cases writes with
  | idle same => exact .inr (Database.keepsColumn_of_submissions_eq same)
  | created created => exact .inl ⟨_, _, rfl, created⟩
  | marked routine updated =>
      exact .inr (Database.keepsColumn_updateSubmission updated fun row => (routine row).1)
  | published ticking updated =>
      exact .inr (Database.keepsColumn_updateSubmission updated fun _ => rfl)

/-- No event of the lifecycle pays a row. -/
theorem Writes.paid_before {now : Database} (writes : service.Writes event now)
    {id : SubmissionId} {kept : Submission} (found : now.submissions.find? id = some kept)
    (paid : kept.paid = true) :
    ∃ row, service.db.submissions.find? id = some row ∧ row.paid = true := by
  rcases writes.created_or_kept with ⟨row, outcome, -, created⟩ | keeps
  · obtain ⟨submissions, inserted, ⟨⟩⟩ := Option.bind_eq_some_iff.mp created
    rw [Table.find?_insert inserted] at found
    split at found
    · cases found
      cases paid
    · exact ⟨kept, found, paid⟩
  · obtain ⟨row, stood, -⟩ := keeps.exists_before found
    obtain ⟨now, stands, -, same⟩ := writes.keeps stood
    cases found.symm.trans stands
    exact ⟨row, stood, same.symm.trans paid⟩

/-- Rows are created by `create` alone. -/
theorem keepsColumn_next (pool : StakePool) (service : Service)
    (notCreate : ∀ row outcome, event ≠ .create row outcome) :
    KeepsColumn Submission.toNewSubmission service.db (service.next pool event).db := by
  rcases (writes_next pool service event).created_or_kept with ⟨row, outcome, creates, -⟩ | kept
  · exact absurd creates (notCreate row outcome)
  · exact kept

/-- A request without a submission gets none until a row is created. -/
theorem Sound.activeRequest_before (sound : service.Sound) (pool : StakePool)
    (notCreate : ∀ row outcome, event ≠ .create row outcome)
    (active : (service.next pool event).db.ActiveRequest requestId) :
    service.db.ActiveRequest requestId :=
  active.before (keepsColumn_next pool service notCreate) (sound.advances pool event)

end Service

end StratumBridge.Lifecycle
