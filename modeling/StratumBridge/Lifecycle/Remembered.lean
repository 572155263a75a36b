import StratumBridge.Lifecycle.Attempts

/-!
# Which commits are remembered

Storing the attempt of an address and marking its submission COMMITTED are
independent writes, and a refusal of a repeated commit overwrites what an
earlier run stored.
-/

namespace StratumBridge.Lifecycle

open Data Wire Transition

namespace CommitTask

variable {id : SubmissionId} {task : CommitTask} {signal : Signal} {db : Database}

/-- The answers a call has not stored yet. -/
def results : CommitTask → List (String × CommitAnswer)
  | .collecting _ _ results => results
  | .persisting _ results _ => results
  | _ => []

@[simp]
theorem results_endRound (round : Nat) (firstSuccess : Option CommitResult) :
    (endRound round firstSuccess).results = [] := by
  cases firstSuccess with
  | some result => rfl
  | none =>
      unfold endRound
      dsimp only
      split <;> rfl

@[simp]
theorem results_persist (round : Nat) (firstSuccess : Option CommitResult)
    (results : List (String × CommitAnswer)) :
    (persist round firstSuccess results).results = results := by
  cases results with
  | nil => exact results_endRound round firstSuccess
  | cons result results => rfl

@[simp]
theorem results_collect (round : Nat) (results : List (String × CommitAnswer))
    (waiting : List String) : (collect round results waiting).results = results := by
  cases waiting with
  | nil => exact results_persist round none results
  | cons address waiting => rfl

/-- csd's acceptances that a call has not stored yet are in the log. -/
def Heard (id : SubmissionId) (log : List Record) (task : CommitTask) : Prop :=
  ∀ address result, (address, Except.ok result) ∈ task.results →
    Record.told id address result.nonceHex ∈ log

theorem heard_start (pool : StakePool) (log : List Record) : (start pool).Heard id log := by
  intro address result mem
  cases mem

theorem Heard.mono {log more : List Record} (heard : task.Heard id log) :
    task.Heard id (log ++ more) :=
  fun address result mem => List.mem_append_left _ (heard address result mem)

theorem Heard.advance {pool : StakePool} {log : List Record} {rest : CommitTask}
    (heard : task.Heard id log) (advanced : task.advance pool signal = some rest) :
    rest.Heard id (log ++ task.records id db signal) := by
  intro address result mem
  -- Only an answer adds to the results, and it is logged as it comes.
  cases task with
  | collecting round waiting results =>
      cases signal with
      | answered answerer answer =>
          cases advanced
          rw [results_collect] at mem
          rcases List.mem_append.mp mem with old | new
          · exact List.mem_append_left _ (heard address result old)
          · cases List.mem_singleton.mp new
            exact List.mem_append_right _ List.mem_cons_self
      | written outcome =>
          cases advanced
          exact heard.mono address result mem
      | rested =>
          cases advanced
          exact heard.mono address result mem
  | persisting round results firstSuccess =>
      cases results with
      | nil =>
          cases advanced
          cases mem
      | cons first results =>
          rcases first with ⟨stored, answer⟩
          have subset : (address, Except.ok result) ∈ (stored, answer) :: results := by
            cases signal with
            | written outcome =>
                cases advanced
                rw [results_persist] at mem
                exact List.mem_cons_of_mem _ mem
            | answered answerer answer =>
                cases advanced
                exact mem
            | rested =>
                cases advanced
                exact mem
          exact List.mem_append_left _ (heard address result subset)
  | resting round =>
      cases signal <;> cases advanced <;> cases mem
  | marking result =>
      cases signal <;> cases advanced <;> cases mem
  | failing =>
      cases signal <;> cases advanced <;> cases mem

/-- A recorded success is in the table. -/
theorem accepted_of_stored {other : SubmissionId} {address : String}
    (mem : Record.stored other address ∈ task.records id db signal) :
    other = id ∧ (task.write id signal db).Accepted id address := by
  unfold records at mem
  split at mem
  · cases List.mem_singleton.mp mem
  · rename_i round stored result results firstSuccess outcome
    split at mem
    · rename_i success
      cases List.mem_singleton.mp mem
      obtain ⟨after, ran⟩ := Option.isSome_iff_exists.mp success.2
      have written : (CommitTask.persisting round ((address, .ok result) :: results)
          firstSuccess).write id (.written outcome) db = after := by
        simp [write, Outcome.settle, success.1, statement, storeAttempt, ran]
      obtain ⟨attemptId, attempt, found, target, now⟩ := (Database.upserts_success ran).present
      rw [written]
      exact ⟨rfl, attemptId, attempt, found, target, by simp [now.1]⟩
    · cases mem
  · cases mem

end CommitTask

namespace Database

variable {db after : Database} {id : SubmissionId} {address txid : String} {attemptId : Nat}

theorem accepted_of_attempts_eq {other : SubmissionId} (same : after.attempts = db.attempts)
    (accepted : db.Accepted other address) : after.Accepted other address := by
  rcases accepted with ⟨held, attempt, found, target, status⟩
  exact ⟨held, attempt, by rw [same, found], target, status⟩

/-- Marking an attempt forgets none. -/
theorem accepted_markAttemptRevealed {other : SubmissionId}
    (marked : db.markAttemptRevealed attemptId txid = some after)
    (accepted : db.Accepted other address) : after.Accepted other address := by
  rcases accepted with ⟨held, attempt, found, target, status⟩
  by_cases same : held = attemptId
  · refine ⟨held, { attempt with
        status := .revealed
        revealTxid := some txid }, ?_, target, by simp⟩
    rw [find?_markAttemptRevealed marked, if_pos same, ← same, found]
    rfl
  · refine ⟨held, attempt, ?_, target, status⟩
    rw [find?_markAttemptRevealed marked, if_neg same, found]

end Database

namespace Service

variable {pool : StakePool} {service : Service} {event : Event} {events later : List Event}

/-- The commit task forgets nothing with its next statement: a refusal is not
stored over an accepted commit, and the row is marked COMMITTED only after some
accepted commit of it was stored. -/
def Careful (service : Service) (id : SubmissionId) : CommitTask → Prop
  | .persisting _ ((address, .error _) :: _) _ => ¬ service.db.Accepted id address
  | .marking _ => ∃ address, .stored id address ∈ service.log
  | _ => True

/-- The condition on a step: statements of commit tasks that are carried out
are careful. -/
def CommitGuard (service : Service) (event : Event) : Prop :=
  ∀ id outcome task, event = .commit id (.written outcome) → outcome.applies = true →
    service.commits.get? id = some task → service.Careful id task

/-- What the tables and the tasks remember of csd's acceptances. -/
structure Remembered (service : Service) : Prop where
  nonces : ∀ attemptId attempt, service.db.attempts.find? attemptId = some attempt →
    attempt.status ≠ .failed → ∃ nonceHex, attempt.commitNonceHex = some nonceHex ∧
      .told attempt.submissionId attempt.opoiAddress nonceHex ∈ service.log
  stored : ∀ id address, .stored id address ∈ service.log → service.db.Accepted id address
  marked : ∀ id, service.db.status id = some .committed →
    ∃ address, .stored id address ∈ service.log
  heard : ∀ id task, service.commits.get? id = some task → task.Heard id service.log

theorem remembered_new : new.Remembered := by
  constructor
  · rintro attemptId attempt ⟨⟩
  · intro id address mem
    cases mem
  · rintro id ⟨⟩
  · rintro id task ⟨⟩

/-- A guarded statement of a commit task forgets no accepted commit. -/
theorem accepted_write {id other : SubmissionId} {signal : Signal} {task : CommitTask}
    {address : String} (guarded : CommitGuard service (.commit id signal))
    (found : service.commits.get? id = some task) (accepted : service.db.Accepted other address) :
    (task.write id signal service.db).Accepted other address := by
  rcases task.write_attempts id signal service.db with
    same | ⟨round, stored, answer, results, firstSuccess, outcome, rfl, rfl, applies, upserts⟩
  · exact Database.accepted_of_attempts_eq same accepted
  · rcases accepted with ⟨attemptId, attempt, present, target, status⟩
    rcases upserts.forward attemptId attempt present with
      kept | ⟨same, now, found', nowTarget, written⟩
    · exact ⟨attemptId, attempt, kept, target, status⟩
    · cases answer with
      | ok result =>
          exact ⟨attemptId, now, found', nowTarget.trans (same.symm.trans target), by
            simp [written.1]⟩
      | error reason =>
          have careful := guarded id outcome _ rfl applies found
          exact absurd ⟨attemptId, attempt, present, same, status⟩ careful

theorem remembered_commit {id : SubmissionId} {signal : Signal} (sound : service.Sound)
    (remembered : service.Remembered) (guarded : CommitGuard service (.commit id signal)) :
    (service.commit pool id signal).Remembered := by
  unfold commit
  split
  · rename_i task found
    have heard := remembered.heard id task found
    constructor
    · intro attemptId attempt present status
      rcases task.write_attempts id signal service.db with same |
        ⟨round, address, answer, results, firstSuccess, outcome, rfl, rfl, applies, upserts⟩
      · rw [same] at present
        obtain ⟨nonceHex, nonce, told⟩ := remembered.nonces attemptId attempt present status
        exact ⟨nonceHex, nonce, List.mem_append_left _ told⟩
      · rcases upserts.backward attemptId attempt present with old | ⟨target, written⟩
        · obtain ⟨nonceHex, nonce, told⟩ := remembered.nonces attemptId attempt old status
          exact ⟨nonceHex, nonce, List.mem_append_left _ told⟩
        · cases answer with
          | ok result =>
              cases target
              exact ⟨result.nonceHex, written.2,
                List.mem_append_left _ (heard _ result List.mem_cons_self)⟩
          | error reason => exact absurd written status
    · intro other address mem
      rcases List.mem_append.mp mem with old | new
      · exact accepted_write guarded found (remembered.stored other address old)
      · obtain ⟨rfl, accepted⟩ := CommitTask.accepted_of_stored new
        exact accepted
    · intro other committed
      have before : service.db.status other = some .committed →
          ∃ address, .stored other address ∈ service.log ++ task.records id service.db signal := by
        intro old
        obtain ⟨address, stored⟩ := remembered.marked other old
        exact ⟨address, List.mem_append_left _ stored⟩
      rcases task.write_cases id signal service.db with
        same | ⟨outcome, now, rfl, applies, last, marks⟩
      · rw [Database.status, same] at committed
        exact before committed
      · by_cases same : other = id
        · subst same
          rw [marks, if_pos rfl, sound.working other task found] at committed
          cases committed
          have careful := guarded other outcome task rfl applies found
          cases task with
          | marking result =>
              rcases careful with ⟨address, stored⟩
              exact ⟨address, List.mem_append_left _ stored⟩
          | failing => cases last
          | _ => cases last
        · rw [marks.of_ne same] at committed
          exact before committed
    · intro other each eachFound
      by_cases same : other = id
      · subst same
        split at eachFound
        · rename_i rest advanced
          rw [IndexMap.get?_insert_self] at eachFound
          cases eachFound
          exact heard.advance advanced
        · rw [IndexMap.get?_shiftRemove_self] at eachFound
          cases eachFound
      · have old : service.commits.get? other = some each := by
          split at eachFound
          · rwa [IndexMap.get?_insert_of_ne _ _ same] at eachFound
          · rwa [IndexMap.get?_shiftRemove_of_ne _ same] at eachFound
        exact (remembered.heard other each old).mono
  · exact remembered

theorem remembered_create {row : NewSubmission} {outcome : Outcome}
    (remembered : service.Remembered) : (service.create pool row outcome).Remembered := by
  unfold create
  split
  · rename_i db _ created
    have same := Database.attempts_createSubmission created
    constructor
    · intro attemptId attempt found
      rw [same] at found
      exact remembered.nonces attemptId attempt found
    · intro id address mem
      exact Database.accepted_of_attempts_eq same (remembered.stored id address mem)
    · intro id committed
      rw [Database.status_createSubmission created] at committed
      split at committed
      · cases committed
      · exact remembered.marked id committed
    · intro id task found
      split at found
      · by_cases new : id = service.db.submissions.nextId
        · rw [new, IndexMap.get?_insert_self] at found
          cases found
          exact CommitTask.heard_start pool service.log
        · rw [IndexMap.get?_insert_of_ne _ _ new] at found
          exact remembered.heard id task found
      · exact remembered.heard id task found
  · exact remembered

/-- A statement of the tick marks no row COMMITTED. -/
theorem committed_of_effect {after : Database} {id : SubmissionId}
    (effect : RevealTick.Effect service.db service.tick after)
    (committed : after.status id = some .committed) :
    service.db.status id = some .committed := by
  rcases effect.advances id with same | ⟨now, found, path⟩
  · rw [← same, committed]
  · rw [committed] at found
    cases found
    cases before : service.db.status id with
    | none =>
        rw [before] at path
        cases path
    | some status =>
        rw [before] at path
        cases status with
        | received =>
            rw [effect.keepsReceived id before] at committed
            cases committed
        | _ => cases path

theorem remembered_tickWritten {outcome : Outcome} (sound : service.Sound)
    (backed : service.Backed) (remembered : service.Remembered) :
    (service.next pool (.tickWritten outcome)).Remembered := by
  have effect := sound.tick.effect outcome
  have attempts := service.tick.write_attempts outcome service.db
  constructor
  · intro attemptId attempt found status
    rcases attempts with same | ⟨candidate, txid, groups, tickEq, marked⟩
    · exact remembered.nonces attemptId attempt (by rw [← found, ← same]; rfl) status
    · have found := (Database.find?_markAttemptRevealed marked attemptId).symm.trans found
      split at found
      · rcases backed candidate (by simp [tickEq, RevealTick.candidates]) with
          ⟨old, oldFound, -, accepted⟩
        rw [oldFound] at found
        cases found
        exact remembered.nonces candidate.attemptId old oldFound accepted
      · exact remembered.nonces attemptId attempt found status
  · intro id address mem
    have accepted := remembered.stored id address mem
    rcases attempts with same | ⟨candidate, txid, groups, -, marked⟩
    · exact Database.accepted_of_attempts_eq same accepted
    · exact Database.accepted_markAttemptRevealed marked accepted
  · intro id committed
    exact remembered.marked id (committed_of_effect effect committed)
  · exact remembered.heard

/-- Other records keep the memory. -/
theorem Remembered.withLog {records : List Record} {tick : RevealTick}
    (remembered : service.Remembered) (unstored : ∀ id address, .stored id address ∉ records) :
    Remembered { service with tick, log := service.log ++ records } := by
  constructor
  · intro attemptId attempt found status
    obtain ⟨nonceHex, nonce, told⟩ := remembered.nonces attemptId attempt found status
    exact ⟨nonceHex, nonce, List.mem_append_left _ told⟩
  · intro id address mem
    rcases List.mem_append.mp mem with old | new
    · exact remembered.stored id address old
    · exact absurd new (unstored id address)
  · intro id committed
    obtain ⟨address, stored⟩ := remembered.marked id committed
    exact ⟨address, List.mem_append_left _ stored⟩
  · intro id task found
    exact (remembered.heard id task found).mono

theorem Remembered.withTick {tick : RevealTick} (remembered : service.Remembered) :
    Remembered { service with tick } :=
  ⟨remembered.nonces, remembered.stored, remembered.marked, remembered.heard⟩

theorem remembered_revealAnswered {answer : RevealAnswer} (remembered : service.Remembered) :
    (service.revealAnswered answer).Remembered := by
  unfold revealAnswered
  split
  · exact remembered.withTick
  · apply remembered.withLog
    intro id address mem
    cases List.mem_singleton.mp mem
  · exact remembered

theorem remembered_resume (remembered : service.Remembered) :
    (service.resume pool).Remembered := by
  unfold resume
  split
  · rename_i id queue _
    refine ⟨remembered.nonces, remembered.stored, remembered.marked, ?_⟩
    intro other task found
    by_cases same : other = id
    · simp only [same, IndexMap.get?_insert_self] at found
      cases found
      exact CommitTask.heard_start pool service.log
    · simp only [IndexMap.get?_insert_of_ne _ _ same] at found
      exact remembered.heard other task found
  · exact remembered

theorem Remembered.next (remembered : service.Remembered) (sound : service.Sound)
    (backed : service.Backed) (guarded : CommitGuard service event) :
    (service.next pool event).Remembered := by
  cases event with
  | boot queue => exact ⟨remembered.nonces, remembered.stored, remembered.marked, remembered.heard⟩
  | resume => exact remembered_resume remembered
  | serve => exact ⟨remembered.nonces, remembered.stored, remembered.marked, remembered.heard⟩
  | crash =>
      refine ⟨remembered.nonces, remembered.stored, remembered.marked, ?_⟩
      rintro id task ⟨⟩
  | create row outcome => exact remembered_create remembered
  | commit id signal => exact remembered_commit sound remembered guarded
  | tickBegin height groups => exact remembered.withTick
  | revealAnswered answer => exact remembered_revealAnswered remembered
  | tickWritten outcome => exact remembered_tickWritten sound backed remembered
  | listed rows => cases rows <;> exact remembered.withTick
  | contentSubmitted taken => exact remembered.withTick
  | priced reward => exact remembered.withTick

/-- The invariants behind the memory of commits. -/
structure Keeps (service : Service) : Prop where
  sound : service.Sound
  backed : service.Backed
  remembered : service.Remembered

theorem keeps_new : new.Keeps :=
  ⟨sound_new, backed_new, remembered_new⟩

theorem Keeps.next (keeps : service.Keeps) (enabled : service.enabled event)
    (guarded : CommitGuard service event) : (service.next pool event).Keeps :=
  ⟨keeps.sound.next enabled, keeps.backed.next keeps.sound enabled,
    keeps.remembered.next keeps.sound keeps.backed guarded⟩

/-- The attempt is COMMITTED or REVEALED. -/
def Stands (service : Service) (attemptId : Nat) : Prop :=
  ∃ attempt, service.db.attempts.find? attemptId = some attempt ∧ attempt.status ≠ .failed

theorem stands_commit {id : SubmissionId} {signal : Signal} {attemptId : Nat}
    (stands : service.Stands attemptId) (guarded : CommitGuard service (.commit id signal)) :
    (service.commit pool id signal).Stands attemptId := by
  unfold commit
  split
  · rename_i task found
    rcases stands with ⟨attempt, present, status⟩
    rcases task.write_attempts id signal service.db with same |
      ⟨round, address, answer, results, firstSuccess, outcome, rfl, rfl, applies, upserts⟩
    · exact ⟨attempt, by rw [← present, ← same], status⟩
    · rcases upserts.forward attemptId attempt present with kept | ⟨target, now, after, -, written⟩
      · exact ⟨attempt, kept, status⟩
      · cases answer with
        | ok result => exact ⟨now, after, by simp [written.1]⟩
        | error reason =>
            have careful := guarded id outcome _ rfl applies found
            exact absurd ⟨attemptId, attempt, present, target, status⟩ careful
  · exact stands

/-- A guarded step turns no accepted attempt back to FAILED. -/
theorem Stands.next {attemptId : Nat} (stands : service.Stands attemptId)
    (guarded : CommitGuard service event) : (service.next pool event).Stands attemptId := by
  cases event with
  | resume =>
      simp only [Service.next, resume]
      split <;> exact stands
  | create row outcome =>
      simp only [Service.next, create]
      split
      · rename_i created
        rcases stands with ⟨attempt, found, status⟩
        exact ⟨attempt, by rw [← found, ← Database.attempts_createSubmission created], status⟩
      · exact stands
  | commit id signal => exact stands_commit stands guarded
  | revealAnswered answer =>
      simp only [Service.next, revealAnswered]
      split <;> exact stands
  | tickWritten outcome =>
      rcases stands with ⟨attempt, found, status⟩
      rcases service.tick.write_attempts outcome service.db with
        same | ⟨candidate, txid, groups, -, marked⟩
      · exact ⟨attempt, by rw [← found, ← same]; rfl, status⟩
      · have after := Database.find?_markAttemptRevealed marked attemptId
        split at after
        · rename_i same
          rw [← same, found] at after
          exact ⟨_, after, by simp⟩
        · exact ⟨attempt, after.trans found, status⟩
  | listed rows => cases rows <;> exact stands
  | _ => exact stands

/-- Along every run whose steps are guarded: a COMMITTED submission has a
COMMITTED or REVEALED attempt with a nonce that csd returned for its address,
and an attempt that is COMMITTED at some point is never FAILED later. -/
theorem commits_remembered {middle : Service}
    (before : (system pool).RunWith CommitGuard new events middle)
    (after : (system pool).RunWith CommitGuard middle later service) :
    (∀ id, service.db.status id = some .committed →
      ∃ attemptId attempt nonceHex, service.db.attempts.find? attemptId = some attempt ∧
        attempt.submissionId = id ∧ attempt.status ≠ .failed ∧
        attempt.commitNonceHex = some nonceHex ∧
        .told id attempt.opoiAddress nonceHex ∈ service.log) ∧
    ∀ attemptId attempt, middle.db.attempts.find? attemptId = some attempt →
      attempt.status = .committed →
        ∃ now, service.db.attempts.find? attemptId = some now ∧ now.status ≠ .failed := by
  have keeps : service.Keeps :=
    (before.append after).invariant keeps_new fun _ _ keeps enabled guarded =>
      keeps.next enabled guarded
  constructor
  · intro id committed
    obtain ⟨address, stored⟩ := keeps.remembered.marked id committed
    rcases keeps.remembered.stored id address stored with
      ⟨attemptId, attempt, found, target, status⟩
    obtain ⟨nonceHex, nonce, told⟩ := keeps.remembered.nonces attemptId attempt found status
    cases target
    exact ⟨attemptId, attempt, nonceHex, found, rfl, status, nonce, told⟩
  · intro attemptId attempt found committed
    have stands : middle.Stands attemptId := ⟨attempt, found, by simp [committed]⟩
    exact after.invariant (I := fun service => service.Stands attemptId) stands
      fun _ _ stands _ guarded => stands.next guarded

/-- The attempt is stored and the row marked. -/
def committingEvents : List Event :=
  [.commit 1 (.written .done), .commit 1 (.written .done)]

theorem guarded_answeredEvents :
    (system solePool).Admits CommitGuard new answeredEvents :=
  ⟨⟨⟨rfl, .refl _⟩, by rintro _ _ _ ⟨⟩⟩, ⟨⟨rfl, rfl⟩, by rintro _ _ _ ⟨⟩⟩,
    ⟨rfl, by rintro _ _ _ ⟨⟩⟩,
    ⟨⟨_, rfl, List.mem_singleton_self "a"⟩, by rintro _ _ _ ⟨⟩⟩, trivial⟩

theorem guarded_committingEvents :
    (system solePool).Admits CommitGuard ((system solePool).execute new answeredEvents)
      committingEvents := by
  refine ⟨⟨⟨_, rfl, trivial⟩, ?_⟩, ⟨⟨_, rfl, trivial⟩, ?_⟩, trivial⟩
  · rintro _ _ task ⟨⟩ - found
    cases found
    trivial
  · rintro _ _ task ⟨⟩ - found
    cases found
    exact ⟨"a", by decide⟩

/-- An instance of `commits_remembered`: a commit whose writes all succeed. -/
theorem sole_commits_remembered :
    ∃ attemptId attempt nonceHex,
      ((system solePool).execute ((system solePool).execute new answeredEvents)
        committingEvents).db.attempts.find? attemptId = some attempt ∧
      attempt.submissionId = 1 ∧ attempt.status ≠ .failed ∧
      attempt.commitNonceHex = some nonceHex ∧
      .told 1 attempt.opoiAddress nonceHex ∈
        ((system solePool).execute ((system solePool).execute new answeredEvents)
          committingEvents).log :=
  (commits_remembered guarded_answeredEvents.runWith guarded_committingEvents.runWith).1 1
    (by decide)

/-- The attempt is not stored, but the row is marked. -/
def unstoredEvents : List Event :=
  [.commit 1 (.written .failed), .commit 1 (.written .done)]

/-- The process crashes before it marks the row, and csd refuses the repeated
commit. -/
def refusedEvents : List Event :=
  [.crash, .boot [1], .resume, .commit 1 (.answered "a" (.error "already committed")),
    .commit 1 (.written .done)]

/-- A row is COMMITTED with no attempt, and a stored attempt is turned back to
FAILED. -/
theorem commits_forgotten :
    (∃ events service, (system solePool).Run new events service ∧
      service.db.status 1 = some .committed ∧ ∀ address, ¬ service.db.Accepted 1 address) ∧
    ∃ events later middle service, (system solePool).Run new events middle ∧
      (system solePool).Run middle later service ∧
      (middle.db.attempts.find? 1).map CommitAttempt.status = some .committed ∧
      (service.db.attempts.find? 1).map CommitAttempt.status = some .failed := by
  have answered := admits_answeredEvents.runWith
  constructor
  · have unstored : (system solePool).Admits (fun _ _ => True)
        ((system solePool).execute new answeredEvents) unstoredEvents :=
      ⟨⟨⟨_, rfl, trivial⟩, trivial⟩, ⟨⟨_, rfl, trivial⟩, trivial⟩, trivial⟩
    refine ⟨_, _, answered.append unstored.runWith, by decide, ?_⟩
    rintro address ⟨attemptId, attempt, found, -⟩
    cases found
  · have stored : (system solePool).Admits (fun _ _ => True)
        ((system solePool).execute new answeredEvents) [.commit 1 (.written .done)] :=
      ⟨⟨⟨_, rfl, trivial⟩, trivial⟩, trivial⟩
    have refused : (system solePool).Admits (fun _ _ => True)
        ((system solePool).execute ((system solePool).execute new answeredEvents)
          [.commit 1 (.written .done)]) refusedEvents :=
      ⟨⟨trivial, trivial⟩, ⟨⟨rfl, .refl _⟩, trivial⟩, ⟨⟨⟨_, _, rfl⟩, by decide⟩, trivial⟩,
        ⟨⟨_, rfl, List.mem_singleton_self "a"⟩, trivial⟩, ⟨⟨_, rfl, trivial⟩, trivial⟩, trivial⟩
    exact ⟨_, _, _, _, answered.append stored.runWith, refused.runWith, by decide, by decide⟩

end Service

end StratumBridge.Lifecycle
