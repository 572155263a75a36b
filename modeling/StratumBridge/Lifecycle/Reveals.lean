import StratumBridge.Lifecycle.Attempts

/-!
# One reveal for each response

An accepted reveal is followed by two writes: one marks the attempt, the other
its submission.  Only the second keeps the next tick from trying again, and
only it leads on to publication.
-/

namespace StratumBridge.Lifecycle

open Data Wire Transition

/-- csd accepted a reveal for the submission. -/
def Record.isReveal (id : SubmissionId) : Record → Bool
  | .revealed other _ => other = id
  | _ => false

namespace RevealTick

/-- The submission's reveal was accepted, and its writes are not over. -/
def Marking (id : SubmissionId) : RevealTick → Prop
  | .markingAttempt candidate _ _ => candidate.submissionId = id
  | .markingSubmission candidate _ _ => candidate.submissionId = id
  | _ => False

end RevealTick

namespace Database

variable {db after : Database} {id : SubmissionId}

/-- The submission will be published, or is. -/
def Settled (db : Database) (id : SubmissionId) : Prop :=
  db.status id = some .revealed ∨ db.status id = some .published

theorem Settled.advances (settled : db.Settled id) (advances : Advances db after) :
    after.Settled id := by
  rcases advances id with same | ⟨now, found, path⟩
  · rwa [Settled, same]
  · rcases settled with revealed | published
    · rw [revealed] at path
      cases now with
      | published => exact .inr found
      | _ => cases path
    · rw [published] at path
      cases now <;> cases path

/-- `mark_revealed` is not refused for a COMMITTED row. -/
theorem status_markRevealed (txid : String) (committed : db.status id = some .committed) :
    ∃ after, db.markRevealed id txid = some after ∧ after.status id = some .revealed := by
  have keeps : ∀ row, db.submissions.find? id = some row →
      Submission.activeRequest
        { row with
          status := .revealed
          revealTxid := some txid } = row.activeRequest := by
    intro row found
    rw [status, found] at committed
    have now : row.status = .committed := by simpa using committed
    simp [Submission.activeRequest, now]
  obtain ⟨submissions, updated⟩ := Option.isSome_iff_exists.mp (Table.update_isSome keeps)
  have marked : db.markRevealed id txid = some { db with submissions } := by
    rw [markRevealed, updateSubmission, updated]
    rfl
  exact ⟨_, marked, by rw [marks_markRevealed marked, if_pos rfl, committed]; rfl⟩

end Database

namespace Service

variable {pool : StakePool} {service : Service} {event : Event} {events : List Event}

/-- The condition on a step: csd's acceptance of a reveal reaches the bridge,
and its submission is then marked. -/
def RevealGuard (service : Service) : Event → Prop
  | .revealAnswered answer => answer ≠ .unheard
  | .tickWritten outcome =>
      ∀ candidate txid groups, service.tick = .markingSubmission candidate txid groups →
        outcome.applies = true
  | .crash => ∀ id, ¬ service.tick.Marking id
  | _ => True

/-- The submission will be published, is, or is being marked. -/
def Followed (service : Service) (id : SubmissionId) : Prop :=
  service.db.Settled id ∨ service.tick.Marking id

/-- Every accepted reveal is followed up, and none is repeated. -/
structure Revealed (service : Service) : Prop where
  followed : ∀ id address, .revealed id address ∈ service.log → service.Followed id
  attempts : ∀ attemptId attempt, service.db.attempts.find? attemptId = some attempt →
    attempt.status = .revealed → service.Followed attempt.submissionId
  once : ∀ id, (service.log.filter (Record.isReveal id)).length ≤ 1

theorem revealed_new : new.Revealed := by
  constructor
  · intro id address mem
    cases mem
  · rintro attemptId attempt ⟨⟩
  · intro id
    exact Nat.zero_le 1

/-- A step that adds no reveal, unmarks no attempt and loses no submission. -/
theorem Revealed.transfer {after : Service} (revealed : service.Revealed) (records : List Record)
    (logged : after.log = service.log ++ records)
    (quiet : ∀ id address, .revealed id address ∉ records)
    (followed : ∀ id, service.Followed id → after.Followed id)
    (attempts : ∀ attemptId attempt, after.db.attempts.find? attemptId = some attempt →
      attempt.status = .revealed → service.db.attempts.find? attemptId = some attempt) :
    after.Revealed := by
  constructor
  · intro id address mem
    rw [logged] at mem
    rcases List.mem_append.mp mem with old | new
    · exact followed id (revealed.followed id address old)
    · exact absurd new (quiet id address)
  · intro attemptId attempt found status
    exact followed _
      (revealed.attempts attemptId attempt (attempts attemptId attempt found status) status)
  · intro id
    have nothing : records.filter (Record.isReveal id) = [] := by
      apply List.filter_eq_nil_iff.mpr
      intro record mem
      cases record with
      | revealed other address => exact absurd mem (quiet other address)
      | _ => simp [Record.isReveal]
    rw [logged, List.filter_append, nothing, List.append_nil]
    exact revealed.once id

/-- A step that leaves attempts and log alone, and marks what it should. -/
theorem Revealed.keep {after : Service} (revealed : service.Revealed)
    (attempts : after.db.attempts = service.db.attempts) (logged : after.log = service.log)
    (advances : Advances service.db after.db)
    (marking : ∀ id, service.tick.Marking id → after.Followed id) : after.Revealed := by
  apply revealed.transfer []
  · rw [logged, List.append_nil]
  · intro id address mem
    cases mem
  · intro id followed
    rcases followed with settled | marks
    · exact .inl (settled.advances advances)
    · exact marking id marks
  · intro attemptId attempt found _
    rwa [← attempts]

theorem revealed_commit {id : SubmissionId} {signal : Signal} (sound : service.Sound)
    (revealed : service.Revealed) : (service.commit pool id signal).Revealed := by
  unfold commit
  split
  · rename_i task found
    apply revealed.transfer (task.records id service.db signal) rfl
    · intro other address mem
      unfold CommitTask.records at mem
      split at mem
      · cases List.mem_singleton.mp mem
      · split at mem
        · cases List.mem_singleton.mp mem
        · cases mem
      · cases mem
    · intro other followed
      rcases followed with settled | marks
      · exact .inl (settled.advances (CommitTask.advances_write (sound.working id task found)))
      · exact .inr marks
    · intro attemptId attempt after status
      rcases task.write_attempts id signal service.db with same |
        ⟨round, address, answer, results, firstSuccess, outcome, rfl, rfl, applies, upserts⟩
      · rwa [← same]
      · rcases upserts.backward attemptId attempt after with old | ⟨-, written⟩
        · exact old
        · cases answer with
          | ok result => simp [Stores, status] at written
          | error reason => simp [Stores, status] at written
  · exact revealed

/-- The mark of an attempt is followed by that of its submission. -/
theorem revealed_markingAttempt {candidate : RevealCandidate} {txid : String}
    {groups : List (List RevealCandidate)} {outcome : Outcome} (sound : service.Sound)
    (backed : service.Backed) (revealed : service.Revealed)
    (tick : service.tick = .markingAttempt candidate txid groups) :
    (service.next pool (.tickWritten outcome)).Revealed := by
  have advances := sound.advances pool (.tickWritten outcome)
  have marking : (service.next pool (.tickWritten outcome)).tick =
      .markingSubmission candidate txid groups := by
    simp [next, tick, RevealTick.written]
  have followed : ∀ id, service.Followed id →
      (service.next pool (.tickWritten outcome)).Followed id := by
    intro id followed
    rcases followed with settled | marks
    · exact .inl (settled.advances advances)
    · rw [tick] at marks
      exact .inr (by rw [marking]; exact marks)
  rcases service.tick.write_attempts outcome service.db with same | ⟨_, _, _, tick', marked⟩
  · apply revealed.transfer []
    · exact (List.append_nil _).symm
    · intro id address mem
      cases mem
    · exact followed
    · intro attemptId attempt found _
      rw [← same]
      exact found
  · rw [tick] at tick'
    cases tick'
    constructor
    · intro id address mem
      exact followed id (revealed.followed id address mem)
    · intro attemptId attempt found status
      have found := (Database.find?_markAttemptRevealed marked attemptId).symm.trans found
      split at found
      · rcases backed candidate (by simp [tick, RevealTick.candidates]) with
          ⟨old, oldFound, target, -⟩
        rw [oldFound] at found
        cases found
        have same : old.submissionId = candidate.submissionId :=
          congrArg Prod.fst (Option.some.inj target)
        exact .inr (by rw [marking]; exact same.symm)
      · exact followed _ (revealed.attempts attemptId attempt found status)
    · exact revealed.once

theorem revealed_tickWritten {outcome : Outcome} (sound : service.Sound)
    (backed : service.Backed) (revealed : service.Revealed)
    (guarded : RevealGuard service (.tickWritten outcome)) :
    (service.next pool (.tickWritten outcome)).Revealed := by
  have advances := sound.advances pool (.tickWritten outcome)
  have attempts := service.tick.write_attempts outcome service.db
  have logged : (service.next pool (.tickWritten outcome)).log = service.log := rfl
  cases tick : service.tick with
  | markingAttempt candidate txid groups => exact revealed_markingAttempt sound backed revealed tick
  | markingSubmission candidate txid groups =>
      have same := attempts.resolve_right (by rintro ⟨_, _, _, other, -⟩; simp [tick] at other)
      refine Revealed.keep revealed same logged advances ?_
      intro id marks
      rw [tick] at marks
      cases marks
      have committed : service.db.status candidate.submissionId = some .committed :=
        sound.tick.committed (by simp [tick, RevealTick.candidates])
      obtain ⟨after, marked, status⟩ := Database.status_markRevealed txid committed
      have applies := guarded candidate txid groups tick
      have moved : (service.next pool (.tickWritten outcome)).db = after := by
        simp [next, Outcome.settle, applies, tick, RevealTick.statement, marked]
      exact .inl (.inl (by rw [moved]; exact status))
  | _ =>
      have same := attempts.resolve_right (by rintro ⟨_, _, _, other, -⟩; simp [tick] at other)
      refine Revealed.keep revealed same logged advances ?_
      intro id marks
      rw [tick] at marks
      cases marks

/-- A COMMITTED submission whose tick still waits for an answer has no reveal. -/
theorem Revealed.unrevealed {candidate : RevealCandidate} {rest : List RevealCandidate}
    {groups : List (List RevealCandidate)} (sound : service.Sound) (revealed : service.Revealed)
    (tick : service.tick = .revealing candidate rest groups) (address : String) :
    .revealed candidate.submissionId address ∉ service.log := by
  intro mem
  have committed : service.db.status candidate.submissionId = some .committed :=
    sound.tick.committed (by simp [tick, RevealTick.candidates])
  rcases revealed.followed _ address mem with (now | now) | marks
  · rw [committed] at now
    cases now
  · rw [committed] at now
    cases now
  · rw [tick] at marks
    cases marks

theorem revealed_accepted {candidate : RevealCandidate} {rest : List RevealCandidate}
    {groups : List (List RevealCandidate)} {txid : String} (sound : service.Sound)
    (revealed : service.Revealed) (tick : service.tick = .revealing candidate rest groups) :
    Revealed { service with
      tick := .markingAttempt candidate txid groups
      log := service.log ++ [.revealed candidate.submissionId candidate.opoiAddress] } := by
  have followed : ∀ id, service.Followed id → service.db.Settled id := by
    rintro id (settled | marks)
    · exact settled
    · rw [tick] at marks
      cases marks
  constructor
  · intro id address mem
    rcases List.mem_append.mp mem with old | new
    · exact .inl (followed id (revealed.followed id address old))
    · cases List.mem_singleton.mp new
      exact .inr rfl
  · intro attemptId attempt found status
    exact .inl (followed _ (revealed.attempts attemptId attempt found status))
  · intro id
    rw [List.filter_append, List.length_append]
    by_cases same : candidate.submissionId = id
    · have nothing : service.log.filter (Record.isReveal id) = [] := by
        apply List.filter_eq_nil_iff.mpr
        intro record mem
        cases record with
        | revealed other address =>
            have ne : other ≠ id := by
              rintro rfl
              subst same
              exact revealed.unrevealed sound tick address mem
            simp [Record.isReveal, ne]
        | _ => simp [Record.isReveal]
      simp [nothing, Record.isReveal, same]
    · simpa [Record.isReveal, same] using revealed.once id

/-- A change of the tick that gives up nothing that was accepted. -/
theorem Revealed.withTick {tick : RevealTick} (revealed : service.Revealed)
    (unmarked : ∀ id, ¬ service.tick.Marking id) : Revealed { service with tick } :=
  Revealed.keep revealed rfl rfl (fun _ => .inl rfl) fun id marks => absurd marks (unmarked id)

theorem revealed_revealAnswered {answer : RevealAnswer} (sound : service.Sound)
    (revealed : service.Revealed) (guarded : RevealGuard service (.revealAnswered answer)) :
    (service.revealAnswered answer).Revealed := by
  unfold revealAnswered
  cases tick : service.tick with
  | revealing candidate rest groups =>
      cases answer with
      | accepted txid => exact revealed_accepted sound revealed tick
      | unheard => exact absurd rfl guarded
      | rejected =>
          apply revealed.withTick
          intro id
          rw [tick]
          rintro ⟨⟩
  | _ => exact revealed

theorem Revealed.next (revealed : service.Revealed) (sound : service.Sound)
    (backed : service.Backed) (enabled : service.enabled event)
    (guarded : RevealGuard service event) : (service.next pool event).Revealed := by
  cases event with
  | boot queue => exact ⟨revealed.followed, revealed.attempts, revealed.once⟩
  | resume =>
      simp only [Service.next, resume]
      split
      · exact ⟨revealed.followed, revealed.attempts, revealed.once⟩
      · exact revealed
  | serve => exact ⟨revealed.followed, revealed.attempts, revealed.once⟩
  | crash =>
      refine Revealed.keep revealed rfl rfl (fun _ => .inl rfl) ?_
      intro id marks
      exact absurd marks (guarded id)
  | create row outcome =>
      simp only [Service.next, create]
      split
      · rename_i created
        exact Revealed.keep revealed (Database.attempts_createSubmission created) rfl
          (Database.advances_createSubmission created) fun id marks => .inr marks
      · exact revealed
  | commit id signal => exact revealed_commit sound revealed
  | tickBegin height groups =>
      apply revealed.withTick
      intro id
      rw [enabled.2.1]
      rintro ⟨⟩
  | revealAnswered answer => exact revealed_revealAnswered sound revealed guarded
  | tickWritten outcome => exact revealed_tickWritten sound backed revealed guarded
  | listed rows =>
      have unmarked : ∀ id, ¬ service.tick.Marking id := by
        intro id
        cases rows with
        | none =>
            rw [enabled]
            rintro ⟨⟩
        | some rows =>
            rw [enabled.1]
            rintro ⟨⟩
      cases rows <;> exact revealed.withTick unmarked
  | contentSubmitted taken =>
      rcases enabled with ⟨row, rest, tick⟩
      apply revealed.withTick
      intro id
      rw [tick]
      rintro ⟨⟩
  | priced reward =>
      rcases enabled with ⟨row, rest, tick⟩
      apply revealed.withTick
      intro id
      rw [tick]
      rintro ⟨⟩

/-- The invariants behind the reveals. -/
structure Reveals (service : Service) : Prop where
  sound : service.Sound
  backed : service.Backed
  revealed : service.Revealed

theorem Reveals.next (reveals : service.Reveals) (enabled : service.enabled event)
    (guarded : RevealGuard service event) : (service.next pool event).Reveals :=
  ⟨reveals.sound.next enabled, reveals.backed.next reveals.sound enabled,
    reveals.revealed.next reveals.sound reveals.backed enabled guarded⟩

/-- Along every run whose steps are guarded, csd accepts at most one reveal for
each submission, and between two ticks the submission of a REVEALED attempt is
REVEALED or PUBLISHED. -/
theorem one_reveal (run : (system pool).RunWith RevealGuard new events service) :
    (∀ id, (service.log.filter (Record.isReveal id)).length ≤ 1) ∧
    (service.tick = .idle → ∀ attemptId attempt,
      service.db.attempts.find? attemptId = some attempt → attempt.status = .revealed →
        service.db.status attempt.submissionId = some .revealed ∨
          service.db.status attempt.submissionId = some .published) := by
  have reveals : service.Reveals :=
    run.invariant ⟨sound_new, backed_new, revealed_new⟩ fun _ _ reveals enabled guarded =>
      reveals.next enabled guarded
  constructor
  · exact reveals.revealed.once
  · intro idle attemptId attempt found status
    rcases reveals.revealed.attempts attemptId attempt found status with settled | marks
    · exact settled
    · rw [idle] at marks
      cases marks

/-- The response is committed and revealed, and both writes succeed. -/
def revealedEvents : List Event :=
  [.commit 1 (.written .done), .commit 1 (.written .done), .tickBegin 9 [[soleCandidate]],
    .revealAnswered (.accepted "x"), .tickWritten .done, .tickWritten .done,
    .listed none]

theorem guarded_reveal_answeredEvents :
    (system solePool).Admits RevealGuard new answeredEvents :=
  ⟨⟨⟨rfl, .refl _⟩, trivial⟩, ⟨⟨rfl, rfl⟩, trivial⟩, ⟨rfl, trivial⟩,
    ⟨⟨_, rfl, List.mem_singleton_self "a"⟩, trivial⟩, trivial⟩

theorem guarded_revealedEvents :
    (system solePool).Admits RevealGuard ((system solePool).execute new answeredEvents)
      revealedEvents :=
  ⟨⟨⟨_, rfl, trivial⟩, trivial⟩, ⟨⟨_, rfl, trivial⟩, trivial⟩,
    ⟨⟨rfl, rfl, grouping_sole⟩, trivial⟩, ⟨⟨_, _, _, rfl⟩, by rintro ⟨⟩⟩,
    ⟨rfl, fun _ _ _ _ => rfl⟩, ⟨rfl, fun _ _ _ _ => rfl⟩, ⟨rfl, trivial⟩, trivial⟩

/-- An instance of `one_reveal`: a reveal whose writes succeed. -/
theorem sole_one_reveal :
    (((system solePool).execute ((system solePool).execute new answeredEvents)
      revealedEvents).log.filter (Record.isReveal 1)).length ≤ 1 :=
  (one_reveal (guarded_reveal_answeredEvents.runWith.append guarded_revealedEvents.runWith)).1 1

/-- A stake pool of two addresses. -/
def pairPool : StakePool :=
  ⟨["a", "b"], by decide⟩

/-- The candidate of the second address. -/
def otherCandidate : RevealCandidate :=
  ⟨2, 1, "b", "n", "r", "h", 1⟩

/-- Both addresses commit; the first one reveals, but its submission is not
marked. -/
def unmarkedEvents : List Event :=
  [.boot [], .serve, .create soleResponse .done, .commit 1 (.answered "a" (.ok soleCommit)),
    .commit 1 (.answered "b" (.ok soleCommit)), .commit 1 (.written .done),
    .commit 1 (.written .done), .commit 1 (.written .done),
    .tickBegin 9 [[soleCandidate, otherCandidate]], .revealAnswered (.accepted "x"),
    .tickWritten .done, .tickWritten .failed, .listed (some [])]

theorem admits_unmarkedEvents :
    (system pairPool).Admits (fun _ _ => True) new unmarkedEvents := by
  have grouping : Grouping [soleCandidate, otherCandidate] [[soleCandidate, otherCandidate]] :=
    ⟨.refl _, by decide, by decide⟩
  exact ⟨⟨⟨rfl, .refl _⟩, trivial⟩, ⟨⟨rfl, rfl⟩, trivial⟩, ⟨rfl, trivial⟩,
    ⟨⟨_, rfl, List.mem_cons_self⟩, trivial⟩, ⟨⟨_, rfl, List.mem_singleton_self "b"⟩, trivial⟩,
    ⟨⟨_, rfl, trivial⟩, trivial⟩, ⟨⟨_, rfl, trivial⟩, trivial⟩, ⟨⟨_, rfl, trivial⟩, trivial⟩,
    ⟨⟨rfl, rfl, grouping⟩, trivial⟩, ⟨⟨_, _, _, rfl⟩, trivial⟩, ⟨rfl, trivial⟩, ⟨rfl, trivial⟩,
    ⟨⟨rfl, .refl _⟩, trivial⟩, trivial⟩

/-- A tick ends with a REVEALED attempt of a COMMITTED submission, and the next
one reveals the submission again with the other address. -/
theorem reveal_repeated :
    ∃ events later middle service, (system pairPool).Run new events middle ∧
      (system pairPool).Run middle later service ∧ middle.tick = .idle ∧
      (middle.db.attempts.find? 1).map CommitAttempt.status = some .revealed ∧
      middle.db.status 1 = some .committed ∧
      (service.log.filter (Record.isReveal 1)).length = 2 := by
  have grouping : Grouping [otherCandidate] [[otherCandidate]] :=
    ⟨.refl _, by decide, by decide⟩
  have repeated : (system pairPool).Admits (fun _ _ => True)
      ((system pairPool).execute new unmarkedEvents)
      [.tickBegin 9 [[otherCandidate]], .revealAnswered (.accepted "y")] :=
    ⟨⟨⟨rfl, rfl, grouping⟩, trivial⟩, ⟨⟨_, _, _, rfl⟩, trivial⟩, trivial⟩
  exact ⟨_, _, _, _, admits_unmarkedEvents.runWith, repeated.runWith, rfl, by decide, by decide,
    by decide⟩

end Service

end StratumBridge.Lifecycle
