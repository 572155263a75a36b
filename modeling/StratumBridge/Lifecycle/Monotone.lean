import StratumBridge.Lifecycle.Statuses

/-!
# The lifecycle is monotone

A RECEIVED row belongs to its commit task or to the recovery queue, a COMMITTED
row to the reveal tick, a REVEALED row to the publishing half of that tick.  So
although no statement checks the status it replaces, each finds the one it
expects.
-/

namespace StratumBridge.Lifecycle

open Data Wire Transition

namespace Service

variable {pool : StakePool} {service : Service} {event : Event}

/-- Who works on a row finds it in the status that its statements expect. -/
structure Sound (service : Service) : Prop where
  working : ∀ id task, service.commits.get? id = some task →
    service.db.status id = some .received
  queued : ∀ queue, service.phase = .recovering queue → queue.Nodup ∧
    ∀ id ∈ queue, service.db.status id = some .received ∧ service.commits.get? id = none
  stopped : service.phase = .down → ∀ id, service.commits.get? id = none
  tick : service.tick.Sound service.db

theorem sound_new : new.Sound := by
  constructor
  · rintro id task ⟨⟩
  · rintro queue ⟨⟩
  · intro _ id
    rfl
  · trivial

theorem Sound.boot {queue : List SubmissionId} (sound : service.Sound)
    (enabled : service.enabled (.boot queue)) : (service.next pool (.boot queue)).Sound where
  working := sound.working
  queued := by
    rintro _ ⟨⟩
    constructor
    · exact enabled.2.nodup_iff.mpr service.db.nodup_listReceived
    · intro id mem
      exact ⟨Database.mem_listReceived.mp (enabled.2.mem_iff.mp mem),
        sound.stopped enabled.1 id⟩
  stopped := by rintro ⟨⟩
  tick := sound.tick

theorem Sound.resume (sound : service.Sound) (enabled : service.enabled .resume) :
    (service.next pool .resume).Sound := by
  rcases enabled with ⟨⟨id, queue, phase⟩, -⟩
  obtain ⟨nodup, ready⟩ := sound.queued _ phase
  rw [List.nodup_cons] at nodup
  have moved : service.next pool .resume =
      { service with
        phase := .recovering queue
        commits := service.commits.insert id (CommitTask.start pool) } := by
    simp [next, Service.resume, phase]
  rw [moved]
  constructor
  · intro other task found
    by_cases same : other = id
    · exact same ▸ (ready id List.mem_cons_self).1
    · simp only [IndexMap.get?_insert_of_ne _ _ same] at found
      exact sound.working other task found
  · rintro _ ⟨⟩
    refine ⟨nodup.2, ?_⟩
    intro other mem
    have ne : other ≠ id := by
      rintro rfl
      exact nodup.1 mem
    have before := ready other (List.mem_cons_of_mem _ mem)
    simp only [IndexMap.get?_insert_of_ne _ _ ne]
    exact before
  · rintro ⟨⟩
  · exact sound.tick

theorem sound_crash : (service.next pool .crash).Sound where
  working := by rintro id task ⟨⟩
  queued := by rintro queue ⟨⟩
  stopped := fun _ id => rfl
  tick := trivial

theorem sound_create {row : NewSubmission} {outcome : Outcome} (sound : service.Sound)
    (enabled : service.enabled (.create row outcome)) :
    (service.create pool row outcome).Sound := by
  unfold create
  split
  · rename_i db _ created
    have kept : ∀ {id status}, service.db.status id = some status → db.status id = some status :=
      Database.status_of_createSubmission created
    constructor
    · intro id task found
      by_cases new : id = service.db.submissions.nextId
      · simp [Database.status_createSubmission created, new]
      · apply kept
        split at found
        · rw [IndexMap.get?_insert_of_ne _ _ new] at found
          exact sound.working id task found
        · exact sound.working id task found
    · intro queue phase
      rw [enabled] at phase
      cases phase
    · intro phase
      rw [enabled] at phase
      cases phase
    · exact sound.tick.keep fun id status found _ => kept found
  · exact sound

theorem sound_commit {id : SubmissionId} {signal : Signal} (sound : service.Sound) :
    (service.commit pool id signal).Sound := by
  unfold commit
  split
  · rename_i task found
    have received := sound.working id task found
    constructor
    · intro other each eachFound
      by_cases same : other = id
      · subst same
        split at eachFound
        · rename_i rest advanced
          rw [CommitTask.status_write pool, received]
          intro _
          simp [advanced]
        · rw [IndexMap.get?_shiftRemove_self] at eachFound
          cases eachFound
      · have before : service.commits.get? other = some each := by
          split at eachFound
          · rwa [IndexMap.get?_insert_of_ne _ _ same] at eachFound
          · rwa [IndexMap.get?_shiftRemove_of_ne _ same] at eachFound
        rw [CommitTask.status_write pool (fun eq => absurd eq same)]
        exact sound.working other each before
    · intro queue phase
      obtain ⟨nodup, ready⟩ := sound.queued queue phase
      refine ⟨nodup, ?_⟩
      intro other mem
      have ne : other ≠ id := by
        rintro rfl
        rw [(ready other mem).2] at found
        cases found
      constructor
      · rw [CommitTask.status_write pool (fun eq => absurd eq ne)]
        exact (ready other mem).1
      · split
        · rw [IndexMap.get?_insert_of_ne _ _ ne]
          exact (ready other mem).2
        · rw [IndexMap.get?_shiftRemove_of_ne _ ne]
          exact (ready other mem).2
    · intro phase
      rw [sound.stopped phase id] at found
      cases found
    · exact sound.tick.keep (CommitTask.keepsSettled_write received)
  · exact sound

theorem sound_tickWritten {outcome : Outcome} (sound : service.Sound) :
    (service.next pool (.tickWritten outcome)).Sound := by
  have effect := sound.tick.effect outcome
  constructor
  · intro id task found
    exact effect.keepsReceived id (sound.working id task found)
  · intro queue phase
    obtain ⟨nodup, ready⟩ := sound.queued queue phase
    exact ⟨nodup, fun id mem => ⟨effect.keepsReceived id (ready id mem).1, (ready id mem).2⟩⟩
  · exact sound.stopped
  · exact effect.sound

/-- A change of the tick alone. -/
theorem Sound.withTick {tick : RevealTick} (sound : service.Sound)
    (tickSound : tick.Sound service.db) : Sound { service with tick } :=
  ⟨sound.working, sound.queued, sound.stopped, tickSound⟩

theorem sound_revealAnswered {answer : RevealAnswer} (sound : service.Sound) :
    (service.revealAnswered answer).Sound := by
  have answered := sound.withTick (sound.tick.answered answer)
  unfold revealAnswered
  split
  · exact answered
  · exact ⟨answered.working, answered.queued, answered.stopped, answered.tick⟩
  · exact sound

theorem Sound.next (sound : service.Sound) (enabled : service.enabled event) :
    (service.next pool event).Sound := by
  cases event with
  | boot queue => exact sound.boot enabled
  | resume => exact sound.resume enabled
  | serve =>
      exact ⟨sound.working, by rintro queue ⟨⟩, by rintro ⟨⟩, sound.tick⟩
  | crash => exact sound_crash
  | create row outcome => exact sound_create sound enabled
  | commit id signal => exact sound_commit sound
  | tickBegin height groups =>
      apply sound.withTick
      exact RevealTick.sound_nextGroup (Database.revealable_of_grouping enabled.2.2)
  | revealAnswered answer => exact sound_revealAnswered sound
  | tickWritten outcome => exact sound_tickWritten sound
  | listed rows =>
      cases rows with
      | none => exact sound.withTick trivial
      | some rows =>
          apply sound.withTick
          exact RevealTick.sound_nextRow (Database.publishable_of_perm enabled.2)
  | contentSubmitted taken => exact sound.withTick sound.tick.contentSubmitted
  | priced reward => exact sound.withTick sound.tick.priced

/-- A step moves every row along its path. -/
theorem Sound.advances (sound : service.Sound) (pool : StakePool) (event : Event) :
    Advances service.db (service.next pool event).db := by
  have unmoved : Advances service.db service.db := fun _ => .inl rfl
  cases event with
  | resume =>
      simp only [Service.next, Service.resume]
      split <;> exact unmoved
  | create row outcome =>
      simp only [Service.next, Service.create]
      split
      · rename_i created
        exact Database.advances_createSubmission created
      · exact unmoved
  | commit id signal =>
      simp only [Service.next, Service.commit]
      split
      · rename_i task found
        exact CommitTask.advances_write (sound.working id task found)
      · exact unmoved
  | revealAnswered answer =>
      simp only [Service.next, Service.revealAnswered]
      split <;> exact unmoved
  | tickWritten outcome => exact (sound.tick.effect outcome).advances
  | listed rows => cases rows <;> exact unmoved
  | _ => exact unmoved

variable {events : List Event}

theorem sound_of_run {guard : Service → Event → Prop}
    (run : (system pool).RunWith guard new events service) : service.Sound :=
  run.invariant sound_new fun _ _ sound enabled _ => sound.next enabled

/-- The statuses that a row goes through in a run. -/
def statusHistory (pool : StakePool) (id : SubmissionId) (events : List Event) :
    List SubmissionStatus :=
  (system pool).observations (fun service => service.db.status id) new events

theorem statusHistory_eq (run : (system pool).Run new events service) (id : SubmissionId) :
    statusHistory pool id events =
      ((service.db.status id).map SubmissionStatus.path).getD [] := by
  apply run.observations_eq (I := Sound) SubmissionStatus.path_last sound_new rfl
  intro service event sound enabled _
  exact ⟨sound.next enabled, sound.advances pool event id⟩

/-- In every run, each row's statuses are a prefix of the lifecycle or of its
failure, and a request has at most one row that is not FAILED. -/
theorem lifecycle_monotone (run : (system pool).Run new events service) :
    (∀ id, statusHistory pool id events <+: [.received, .committed, .revealed, .published] ∨
      statusHistory pool id events <+: [.received, .failed]) ∧
    ∀ id other row otherRow, service.db.submissions.find? id = some row →
      service.db.submissions.find? other = some otherRow → row.status ≠ .failed →
      otherRow.status ≠ .failed → row.requestId = otherRow.requestId → id = other := by
  constructor
  · intro id
    rw [statusHistory_eq run]
    cases service.db.status id with
    | none => exact .inl (List.nil_prefix)
    | some status => exact SubmissionStatus.path_prefix status
  · intro id other row otherRow found otherFound active otherActive same
    have keyed : row.activeRequest = some row.requestId := by
      simp [Submission.activeRequest, active]
    have otherKeyed : otherRow.activeRequest = some row.requestId := by
      simp [Submission.activeRequest, otherActive, same]
    exact Table.eq_of_key_eq found otherFound keyed otherKeyed

/-- The response is committed and revealed. -/
def revealingEvents : List Event :=
  [.commit 1 (.written .done), .commit 1 (.written .done), .tickBegin 9 [[soleCandidate]],
    .revealAnswered (.accepted "x"), .tickWritten .done, .tickWritten .done]

/-- Its content is published in the same tick. -/
def publishingEvents : List Event :=
  revealingEvents ++
    [.listed (some ((system solePool).execute new
        (answeredEvents ++ revealingEvents)).db.listRevealedUnpublished),
      .contentSubmitted true, .priced 1, .tickWritten .done]

theorem admits_publishingEvents :
    (system solePool).Admits (fun _ _ => True) ((system solePool).execute new answeredEvents)
      publishingEvents :=
  ⟨⟨⟨_, rfl, trivial⟩, trivial⟩, ⟨⟨_, rfl, trivial⟩, trivial⟩,
    ⟨⟨rfl, rfl, grouping_sole⟩, trivial⟩, ⟨⟨_, _, _, rfl⟩, trivial⟩, ⟨rfl, trivial⟩,
    ⟨rfl, trivial⟩, ⟨⟨rfl, .refl _⟩, trivial⟩, ⟨⟨_, _, rfl⟩, trivial⟩, ⟨⟨_, _, rfl⟩, trivial⟩,
    ⟨rfl, trivial⟩, trivial⟩

/-- An instance of `lifecycle_monotone`: a row that is published. -/
theorem sole_lifecycle_monotone :
    statusHistory solePool 1 (answeredEvents ++ publishingEvents) <+:
        [.received, .committed, .revealed, .published] ∨
      statusHistory solePool 1 (answeredEvents ++ publishingEvents) <+: [.received, .failed] :=
  (lifecycle_monotone
    (admits_answeredEvents.runWith.append admits_publishingEvents.runWith)).1 1

example : statusHistory solePool 1 (answeredEvents ++ publishingEvents) =
    [.received, .committed, .revealed, .published] := by decide

end Service

end StratumBridge.Lifecycle
