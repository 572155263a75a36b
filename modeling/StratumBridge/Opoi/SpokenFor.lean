import StratumBridge.Lifecycle.Requests
import StratumBridge.Opoi.System
import StratumBridge.Transition.Beside

/-!
# Requests that are spoken for

A request with a submission that is not FAILED is spoken for: no line goes out
for it and nobody has it assigned.  The duplicate checks of the engine do not
see to that.  It holds as long as no prompt is taken in for a request that is
spoken for, no wallet leaves while its result is being stored, and every stored
row is heard of.
-/

namespace StratumBridge.Opoi

open Data Rpc Wire Transition Lifecycle

namespace OpoiEngine

variable {sha256 : Digest} {engine : OpoiEngine} {stimulus : Stimulus}
variable {active : RequestId → Prop}

/-- The request is not cached with a prompt. -/
def Unprompted (engine : OpoiEngine) (requestId : RequestId) : Prop :=
  ∀ entry, engine.pending requestId = some entry → entry.promptHex = none

/-- The requests of a set are neither assigned nor candidates.  A result under
way is for an assigned request or one that cannot be assigned, and the
candidates of the tick have nobody working on them. -/
structure Spares (active : RequestId → Prop) (engine : OpoiEngine) : Prop where
  unassigned : ∀ requestId, active requestId → engine.assignments requestId = none
  unprompted : ∀ requestId, active requestId → engine.Unprompted requestId
  submitted : ∀ wallet requestId, engine.Submits wallet requestId →
    engine.assignments requestId = some wallet ∨
      engine.assignments requestId = none ∧ engine.Unprompted requestId
  distinct : engine.poll.queue.Nodup
  queued : ∀ requestId ∈ engine.poll.queue, engine.assignments requestId = none ∧
    ¬ active requestId ∧ ∀ wallet, ¬ engine.Submits wallet requestId

theorem spares_of_fresh (unassigned : engine.assignments = PartialMap.empty)
    (uncached : engine.pending = PartialMap.empty) (idle : engine.poll = .idle)
    (unparked : engine.calls = PartialMap.empty) : engine.Spares active where
  unassigned := by
    intro requestId _
    rw [unassigned]
    rfl
  unprompted := by
    intro requestId _ entry found
    rw [uncached] at found
    cases found
  submitted := by
    rintro wallet requestId ⟨ticket, call, parked, -⟩
    rw [unparked] at parked
    cases parked
  distinct := by
    rw [idle]
    exact List.nodup_nil
  queued := by
    intro requestId mem
    rw [idle] at mem
    cases mem

/-- Fewer requests are spared as well. -/
theorem Spares.mono {fewer : RequestId → Prop} (spares : engine.Spares active)
    (subset : ∀ requestId, fewer requestId → active requestId) : engine.Spares fewer where
  unassigned := fun requestId held => spares.unassigned requestId (subset requestId held)
  unprompted := fun requestId held => spares.unprompted requestId (subset requestId held)
  submitted := spares.submitted
  distinct := spares.distinct
  queued := by
    intro requestId mem
    obtain ⟨unassigned, inactive, unsubmitted⟩ := spares.queued requestId mem
    exact ⟨unassigned, fun held => inactive (subset requestId held), unsubmitted⟩

/-! ## Events that store no row -/

/-- No prompt is stored for a spared request or for one whose late result is
still under way, and no wallet leaves before its results are stored. -/
structure Careful (active : RequestId → Prop) (engine : OpoiEngine) (event : Event) : Prop where
  intake : ∀ requestId, engine.StoresPrompt requestId event → ¬ active requestId ∧
    ∀ wallet, engine.Submits wallet requestId → engine.assignments requestId ≠ none
  leaving : ∀ wallet, event = .disconnect wallet → ∀ requestId,
    engine.Submits wallet requestId → engine.assignments requestId ≠ some wallet

/-- A result under way after an event was under way before it, unless its
request is assigned. -/
theorem Spares.submits_next {wallet : Wallet} {requestId : RequestId}
    (spares : engine.Spares active)
    (submits : (OpoiEngine.next sha256 engine stimulus).Submits wallet requestId) :
    engine.assignments requestId = some wallet ∨
      engine.Submits wallet requestId ∧ engine.assignments requestId = none ∧
        engine.Unprompted requestId := by
  rcases next_submits sha256 submits with was | ⟨assigned, -⟩
  · rcases spares.submitted wallet requestId was with assigned | ⟨unassigned, unprompted⟩
    · exact .inl assigned
    · exact .inr ⟨was, unassigned, unprompted⟩
  · exact .inl assigned

/-- Nobody gets to work on a candidate of the tick. -/
theorem Spares.queued_next {requestId : RequestId} (spares : engine.Spares active)
    (mem : requestId ∈ engine.poll.queue) (wallet : Wallet) :
    ¬ (OpoiEngine.next sha256 engine stimulus).Submits wallet requestId := by
  intro submits
  obtain ⟨unassigned, -, unsubmitted⟩ := spares.queued requestId mem
  rcases spares.submits_next submits with assigned | ⟨was, -⟩
  · rw [unassigned] at assigned
    cases assigned
  · exact unsubmitted wallet was

/-- While the assignments stay, only the cache and the candidates matter. -/
theorem Spares.same_assignments {after : OpoiEngine} (spares : engine.Spares active)
    (same : after.assignments = engine.assignments)
    (submits : ∀ wallet requestId, after.Submits wallet requestId →
      engine.assignments requestId = some wallet ∨
        engine.Submits wallet requestId ∧ engine.assignments requestId = none ∧
          engine.Unprompted requestId)
    (unprompted : ∀ requestId, engine.Unprompted requestId →
      active requestId ∨
        (∃ wallet, engine.Submits wallet requestId) ∧ engine.assignments requestId = none →
      after.Unprompted requestId)
    (distinct : after.poll.queue.Nodup)
    (queued : ∀ requestId ∈ after.poll.queue, engine.assignments requestId = none ∧
      ¬ active requestId ∧ ∀ wallet, ¬ after.Submits wallet requestId) :
    after.Spares active where
  unassigned := by
    intro requestId held
    rw [same]
    exact spares.unassigned requestId held
  unprompted := fun requestId held =>
    unprompted requestId (spares.unprompted requestId held) (.inl held)
  submitted := by
    intro wallet requestId now
    rw [same]
    rcases submits wallet requestId now with assigned | ⟨was, unassigned, old⟩
    · exact .inl assigned
    · exact .inr ⟨unassigned, unprompted requestId old (.inr ⟨⟨wallet, was⟩, unassigned⟩)⟩
  distinct := distinct
  queued := by
    rw [same]
    exact queued

/-- A collected candidate has a prompt and no assignee, so it is not spared and
nobody works on it. -/
theorem Spares.candidate {requestId : RequestId} (spares : engine.Spares active)
    (candidate : engine.Candidate requestId) :
    engine.assignments requestId = none ∧ ¬ active requestId ∧
      ∀ wallet, ¬ (OpoiEngine.next sha256 engine stimulus).Submits wallet requestId := by
  rcases candidate with ⟨⟨entry, cached, prompt⟩, unassigned⟩
  refine ⟨unassigned, fun held => prompt (spares.unprompted requestId held entry cached), ?_⟩
  intro wallet submits
  rcases spares.submits_next submits with assigned | ⟨-, -, unprompted⟩
  · rw [show engine.assignments requestId = none from unassigned] at assigned
    cases assigned
  · exact prompt (unprompted entry cached)

theorem Spares.next (spares : engine.Spares active) (enabled : engine.enabled stimulus)
    (careful : engine.Careful active stimulus.event)
    (notCreated : ∀ ticket, stimulus.event ≠ .created ticket true)
    (notRestart : stimulus.event ≠ .restart) :
    (OpoiEngine.next sha256 engine stimulus).Spares active := by
  have submits : ∀ wallet requestId,
      (OpoiEngine.next sha256 engine stimulus).Submits wallet requestId →
        engine.assignments requestId = some wallet ∨
          engine.Submits wallet requestId ∧ engine.assignments requestId = none ∧
            engine.Unprompted requestId :=
    fun _ _ now => spares.submits_next now
  have old : ∀ requestId ∈ engine.poll.queue, engine.assignments requestId = none ∧
      ¬ active requestId ∧
        ∀ wallet, ¬ (OpoiEngine.next sha256 engine stimulus).Submits wallet requestId :=
    fun requestId mem => ⟨(spares.queued requestId mem).1, (spares.queued requestId mem).2.1,
      spares.queued_next mem⟩
  have collects : ∀ requestId, engine.Candidate requestId →
      engine.assignments requestId = none ∧ ¬ active requestId ∧
        ∀ wallet, ¬ (OpoiEngine.next sha256 engine stimulus).Submits wallet requestId :=
    fun requestId candidate => spares.candidate candidate
  have leaves : ∀ wallet, stimulus.event = .disconnect wallet → ∀ sender requestId,
      (OpoiEngine.next sha256 engine stimulus).Submits sender requestId →
        engine.Submits sender requestId := by
    intro wallet isEvent sender requestId now
    rcases next_submits sha256 now with was | ⟨-, params, isResult⟩
    · exact was
    · rw [isEvent] at isResult
      cases isResult
  obtain ⟨lines, -, change⟩ := next_explained sha256 enabled
  generalize OpoiEngine.next sha256 engine stimulus = after
    at submits old collects leaves change ⊢
  generalize isAssignments : after.assignments = assignments at change
  generalize isPending : after.pending = pending at change
  generalize isQueue : after.poll.queue = queue at change
  cases change with
  | quiet fewer =>
      apply spares.same_assignments isAssignments submits
      · intro requestId unprompted _
        rwa [Unprompted, isPending]
      · rw [isQueue]
        exact fewer.nodup spares.distinct
      · rw [isQueue]
        exact fun requestId mem => old requestId (fewer.subset mem)
  | @prompted target entry stores prompt =>
      obtain ⟨inactive, assigned⟩ := careful.intake target stores
      apply spares.same_assignments isAssignments submits
      · intro requestId unprompted worked
        have ne : requestId ≠ target := by
          rintro rfl
          rcases worked with held | ⟨⟨wallet, was⟩, unassigned⟩
          · exact inactive held
          · exact assigned wallet was unassigned
        rw [Unprompted, isPending, PartialMap.insert_of_ne _ _ ne]
        exact unprompted
      · rw [isQueue]
        exact spares.distinct
      · rw [isQueue]
        exact old
  | created isEvent parked => exact absurd isEvent (notCreated _)
  | @released wallet isEvent =>
      have kept : ∀ requestId, engine.assignments requestId = none →
          after.assignments requestId = none := by
        intro requestId unassigned
        rw [isAssignments]
        exact PartialMap.retain_eq_none_of_eq_none unassigned
      constructor
      · exact fun requestId held => kept requestId (spares.unassigned requestId held)
      · intro requestId held
        rw [Unprompted, isPending]
        exact spares.unprompted requestId held
      · intro sender requestId now
        rcases submits sender requestId now with assigned | ⟨was, unassigned, unprompted⟩
        · have own : sender ≠ wallet := by
            rintro rfl
            exact careful.leaving sender isEvent requestId
              (leaves sender isEvent sender requestId now) assigned
          rw [isAssignments]
          exact .inl (PartialMap.retain_eq_some_iff.mpr ⟨assigned, by simpa using own⟩)
        · refine .inr ⟨kept requestId unassigned, ?_⟩
          rwa [Unprompted, isPending]
      · rw [isQueue]
        exact spares.distinct
      · rw [isQueue]
        intro requestId mem
        obtain ⟨unassigned, inactive, unsubmitted⟩ := old requestId mem
        exact ⟨kept requestId unassigned, inactive, unsubmitted⟩
  | @cached req absent =>
      apply spares.same_assignments isAssignments submits
      · intro requestId unprompted _
        rw [Unprompted, isPending]
        intro entry found
        rw [PartialMap.insert_apply] at found
        split at found
        · cases found
          rfl
        · exact unprompted entry found
      · rw [isQueue]
        exact List.nodup_nil
      · rw [isQueue]
        exact fun _ mem => by cases mem
  | collected fewer unique exact =>
      apply spares.same_assignments isAssignments submits
      · intro requestId unprompted _
        rwa [Unprompted, isPending]
      · rw [isQueue]
        exact fewer.nodup unique
      · rw [isQueue]
        exact fun requestId mem => collects requestId (exact requestId (fewer.subset mem))
  | @pushed answer assign rest _ wallet isEvent polling plain picked unassigned fewer =>
      have queue : engine.poll.queue = assign.requestId :: rest := by rw [polling]; rfl
      have distinct := spares.distinct
      rw [queue, List.nodup_cons] at distinct
      have current := spares.queued assign.requestId (by simp [queue])
      constructor
      · intro requestId held
        have ne : requestId ≠ assign.requestId := by
          rintro rfl
          exact current.2.1 held
        rw [isAssignments, PartialMap.insert_of_ne _ _ ne]
        exact spares.unassigned requestId held
      · intro requestId held
        rw [Unprompted, isPending]
        exact spares.unprompted requestId held
      · intro sender requestId now
        have ne : requestId ≠ assign.requestId := by
          rintro rfl
          exact (old assign.requestId (by simp [queue])).2.2 sender now
        rw [isAssignments, PartialMap.insert_of_ne _ _ ne, Unprompted, isPending]
        rcases submits sender requestId now with assigned | ⟨-, unassigned, unprompted⟩
        · exact .inl assigned
        · exact .inr ⟨unassigned, unprompted⟩
      · rw [isQueue]
        exact fewer.nodup distinct.2
      · rw [isQueue]
        intro requestId mem
        have ahead := fewer.subset mem
        have ne : requestId ≠ assign.requestId := by
          rintro rfl
          exact distinct.1 ahead
        rw [isAssignments, PartialMap.insert_of_ne _ _ ne]
        exact old requestId (by simp [queue, ahead])
  | restarted isEvent => exact absurd isEvent notRestart

/-! ## Events that store a row -/

/-- A request may be added to the spared ones while nobody has it, it has no
prompt and it is no candidate. -/
theorem Spares.extend {requestId : RequestId} (spares : engine.Spares active)
    (unassigned : engine.assignments requestId = none) (unprompted : engine.Unprompted requestId)
    (unqueued : requestId ∉ engine.poll.queue) :
    engine.Spares fun other => active other ∨ other = requestId where
  unassigned := by
    rintro other (held | rfl)
    · exact spares.unassigned other held
    · exact unassigned
  unprompted := by
    rintro other (held | rfl)
    · exact spares.unprompted other held
    · exact unprompted
  submitted := spares.submitted
  distinct := spares.distinct
  queued := by
    intro other mem
    obtain ⟨free, inactive, unsubmitted⟩ := spares.queued other mem
    refine ⟨free, ?_, unsubmitted⟩
    rintro (held | rfl)
    · exact inactive held
    · exact unqueued mem

/-- A stored row that the handler hears of clears its request. -/
theorem Spares.created {ticket : Ticket} {row : NewSubmission} (spares : engine.Spares active)
    (parked : engine.calls ticket = some (.creating row)) :
    (resumeCreated ticket true engine).Spares fun other =>
      active other ∨ other = row.requestId := by
  have submits : engine.Submits row.minerWallet row.requestId := ⟨ticket, _, parked, rfl⟩
  have cleared : resumeCreated ticket true engine =
      { engine.endCall ticket with
        assignments := engine.assignments.remove row.requestId
        pending := engine.pending.remove row.requestId
        log := engine.log ++ [.accepted row] } := by
    simp [resumeCreated, parked]
  have fewer : ∀ requestId, engine.assignments requestId = none →
      engine.assignments.remove row.requestId requestId = none := by
    intro requestId unassigned
    rw [PartialMap.remove_apply]
    split
    · rfl
    · exact unassigned
  have uncached : ∀ requestId, engine.Unprompted requestId →
      (resumeCreated ticket true engine).Unprompted requestId := by
    rw [cleared]
    intro requestId unprompted entry found
    exact unprompted entry (PartialMap.of_remove_eq_some found).2
  have emptied : (resumeCreated ticket true engine).Unprompted row.requestId := by
    rw [cleared]
    intro entry found
    exact absurd rfl (PartialMap.of_remove_eq_some found).1
  have was : ∀ wallet requestId, (resumeCreated ticket true engine).Submits wallet requestId →
      engine.Submits wallet requestId := by
    rw [cleared]
    exact fun _ _ now => now.mono fun _ _ => calls_of_endCall
  rw [cleared] at uncached emptied was ⊢
  constructor
  · rintro requestId (held | rfl)
    · exact fewer requestId (spares.unassigned requestId held)
    · exact PartialMap.remove_self ..
  · rintro requestId (held | rfl)
    · exact uncached requestId (spares.unprompted requestId held)
    · exact emptied
  · intro wallet requestId now
    by_cases same : requestId = row.requestId
    · subst same
      exact .inr ⟨PartialMap.remove_self .., emptied⟩
    · rcases spares.submitted wallet requestId (was wallet requestId now) with
        assigned | ⟨unassigned, unprompted⟩
      · exact .inl ((PartialMap.remove_of_ne _ same).trans assigned)
      · exact .inr ⟨fewer requestId unassigned, uncached requestId unprompted⟩
  · exact spares.distinct
  · intro requestId mem
    obtain ⟨unassigned, inactive, unsubmitted⟩ := spares.queued requestId mem
    refine ⟨fewer requestId unassigned, ?_, fun wallet now => unsubmitted wallet (was _ _ now)⟩
    rintro (held | rfl)
    · exact inactive held
    · exact unsubmitted row.minerWallet submits

end OpoiEngine

/-! ## The engine and its database -/

/-- The engine beside the submission lifecycle. -/
abbrev Desk := OpoiEngine × Service

namespace Desk

/-- A step of the engine, of the lifecycle, or of both. -/
abbrev Event := Side Stimulus Lifecycle.Event

/-- The insert of a parked handler creates the row, and the handler hears of it
unless the insert was refused or its answer was lost; both start anew when the
process does. -/
def Couples (desk : Desk) : Event → Prop
  | .left ⟨_, .created _ _⟩ => False
  | .left ⟨_, .restart⟩ => False
  | .left _ => desk.2.phase = .serving
  | .right (.create _ _) => False
  | .right .crash => False
  | .right _ => True
  | .both ⟨_, .created ticket created⟩ (.create row outcome) =>
      desk.1.calls ticket = some (.creating row) ∧
        (created = true ↔ outcome = .done ∧ desk.2.db.createSubmission row ≠ none)
  | .both ⟨_, .restart⟩ .crash => True
  | .both _ _ => False

/-- The two as a system. -/
def system (sha256 : Digest) (pool : StakePool) : System Desk Event :=
  (OpoiEngine.system sha256).beside (Service.system pool) Couples

/-- Before the first start. -/
def new : Desk :=
  (OpoiEngine.new, Service.new)

/-- The step sends a line for the request. -/
def Sends (sha256 : Digest) (pool : StakePool) (desk : Desk) (event : Event)
    (requestId : RequestId) : Prop :=
  ∃ lines assign, ((system sha256 pool).next desk event).1.lines = desk.1.lines ++ lines ∧
    assign ∈ lines ∧ assign.requestId = requestId

/-- No prompt is stored for a request that is spoken for, or whose late result
is under way; no wallet leaves while its result is; and no stored row goes
unheard while its request is assigned. -/
structure Guarded (desk : Desk) (event : Event) : Prop where
  careful : ∀ stimulus, event.first? = some stimulus →
    desk.1.Careful desk.2.db.ActiveRequest stimulus.event
  heard : ∀ row, event.second? = some (.create row .unheard) →
    desk.1.assignments row.requestId = none

/-- The engine spares the requests that have a submission. -/
structure SpokenFor (desk : Desk) : Prop where
  sound : desk.2.Sound
  spares : desk.1.Spares desk.2.db.ActiveRequest

theorem spokenFor_new : new.SpokenFor :=
  ⟨Service.sound_new, OpoiEngine.spares_of_fresh rfl rfl rfl rfl⟩

variable {sha256 : Digest} {pool : StakePool} {desk : Desk} {event : Event}

/-- The insert of a result. -/
theorem SpokenFor.create (sha256 : Digest) {ticket : Ticket} {created : Bool}
    {row : NewSubmission} {outcome : Outcome} {registry : MinerRegistry}
    (spoken : desk.SpokenFor)
    (guarded : desk.Guarded (.both ⟨registry, .created ticket created⟩ (.create row outcome)))
    (parked : desk.1.calls ticket = some (.creating row))
    (hears : created = true ↔ outcome = .done ∧ desk.2.db.createSubmission row ≠ none) :
    (OpoiEngine.next sha256 desk.1 ⟨registry, .created ticket created⟩).Spares
      (desk.2.next pool (.create row outcome)).db.ActiveRequest := by
  have submits : desk.1.Submits row.minerWallet row.requestId := ⟨ticket, _, parked, rfl⟩
  have goesOn : ∀ active, desk.1.Spares active →
      (OpoiEngine.next sha256 desk.1 ⟨registry, .created ticket false⟩).Spares active :=
    fun active spares => spares.next ⟨row, parked⟩
      ⟨fun _ stores => stores.elim, by rintro wallet ⟨⟩⟩ (by rintro _ ⟨⟩) (by rintro ⟨⟩)
  cases stored : desk.2.db.createSubmission row with
  | none =>
      have refused : created = false := by
        rw [← Bool.not_eq_true, hears]
        exact fun both => both.2 stored
      have unchanged : (desk.2.next pool (.create row outcome)).db = desk.2.db := by
        simp [Service.next, Service.create, stored]
      rw [refused, unchanged]
      exact goesOn _ spoken.spares
  | some db =>
      have grows : ∀ requestId,
          (desk.2.next pool (.create row outcome)).db.ActiveRequest requestId →
            desk.2.db.ActiveRequest requestId ∨ requestId = row.requestId := by
        intro requestId active
        cases applies : outcome.applies with
        | false =>
            simp only [Service.next, Service.create, applies] at active
            exact .inl active
        | true =>
            simp only [Service.next, Service.create, applies, stored] at active
            exact (Database.activeRequest_createSubmission stored).mp active
      cases outcome with
      | done =>
          have told : created = true := hears.mpr ⟨rfl, by simp [stored]⟩
          rw [told]
          exact (spoken.spares.created parked).mono grows
      | unheard =>
          have untold : created = false := by
            rw [← Bool.not_eq_true, hears]
            rintro ⟨⟨⟩, -⟩
          have unassigned := guarded.heard row rfl
          have unprompted : desk.1.Unprompted row.requestId := by
            rcases spoken.spares.submitted _ _ submits with assigned | ⟨-, unprompted⟩
            · rw [unassigned] at assigned
              cases assigned
            · exact unprompted
          have unqueued : row.requestId ∉ desk.1.poll.queue := fun mem =>
            (spoken.spares.queued _ mem).2.2 _ submits
          rw [untold]
          exact (goesOn _ (spoken.spares.extend unassigned unprompted unqueued)).mono grows
      | failed =>
          have untold : created = false := by
            rw [← Bool.not_eq_true, hears]
            rintro ⟨⟨⟩, -⟩
          rw [untold]
          exact goesOn _ spoken.spares

theorem SpokenFor.next (spoken : desk.SpokenFor) (enabled : (system sha256 pool).enabled desk event)
    (guarded : desk.Guarded event) : ((system sha256 pool).next desk event).SpokenFor := by
  rcases enabled with ⟨couples, offered⟩
  cases event with
  | left stimulus =>
      refine ⟨spoken.sound, ?_⟩
      apply spoken.spares.next offered (guarded.careful stimulus rfl)
      · intro ticket isEvent
        rcases stimulus with ⟨registry, own⟩
        cases isEvent
        exact couples
      · intro isEvent
        rcases stimulus with ⟨registry, own⟩
        cases isEvent
        exact couples
  | right own =>
      refine ⟨spoken.sound.next offered, ?_⟩
      apply spoken.spares.mono
      intro requestId active
      apply spoken.sound.activeRequest_before pool _ active
      rintro row outcome rfl
      exact couples
  | both stimulus own =>
      refine ⟨spoken.sound.next offered.2, ?_⟩
      rcases stimulus with ⟨registry, first⟩
      cases first with
      | created ticket created =>
          cases own with
          | create row outcome => exact spoken.create sha256 guarded couples.1 couples.2
          | _ => exact couples.elim
      | restart => exact OpoiEngine.spares_of_fresh rfl rfl rfl rfl
      | _ => exact couples.elim

/-- Along every guarded run, a request that is spoken for is assigned to nobody,
and no line is sent for it. -/
theorem spoken_for_not_reassigned {events : List Event}
    (run : (system sha256 pool).RunWith Guarded new events desk) (requestId : RequestId)
    (active : desk.2.db.ActiveRequest requestId) :
    desk.1.assignments requestId = none ∧
      ∀ event, (system sha256 pool).enabled desk event →
        ¬ Sends sha256 pool desk event requestId := by
  have spoken : desk.SpokenFor := run.invariant spokenFor_new
    fun _ _ spoken enabled guarded => spoken.next enabled guarded
  refine ⟨spoken.spares.unassigned requestId active, ?_⟩
  rintro event enabled ⟨lines, assign, sends, mem, rfl⟩
  have offered : ∀ stimulus, event.first? = some stimulus → desk.1.enabled stimulus ∧
      ((system sha256 pool).next desk event).1 = OpoiEngine.next sha256 desk.1 stimulus := by
    intro stimulus isFirst
    cases event with
    | left own =>
        cases isFirst
        exact ⟨enabled.2, rfl⟩
    | right own => cases isFirst
    | both first second =>
        cases isFirst
        exact ⟨enabled.2.1, rfl⟩
  cases isFirst : event.first? with
  | none =>
      cases event with
      | left own => cases isFirst
      | right own =>
          have same : desk.1.lines = desk.1.lines ++ lines := sends
          rw [List.self_eq_append_right.mp same] at mem
          cases mem
      | both first second => cases isFirst
  | some stimulus =>
      obtain ⟨admitted, moved⟩ := offered stimulus isFirst
      obtain ⟨more, adds, change⟩ := OpoiEngine.next_explained sha256 admitted
      rw [moved, adds] at sends
      cases List.append_cancel_left sends
      obtain ⟨answer, rest, wallet, -, polling, -⟩ := change.of_line mem
      have queued : assign.requestId ∈ desk.1.poll.queue := by
        rw [polling]
        exact List.mem_cons_self
      exact (spoken.spares.queued _ queued).2.1 active

/-! ## An example deployment -/

/-- A response to request `"r"`, under a hash that leaves its bytes as they
are. -/
def soleParams : OpoiSubmitResultParams where
  requestId := "r"
  responseHash := "00"
  responseHex := "00"
  tokenCount := 1

/-- The row it is stored as. -/
def soleRow : NewSubmission where
  minerWallet := "miner"
  requestId := "r"
  model := some "model"
  promptHash := some "prompt-hash"
  responseHash := "00"
  responseHex := "00"
  tokenCount := 1

/-- A step of the engine, with one miner connected. -/
def ofEngine (event : Opoi.Event) : Event :=
  .left ⟨OpoiEngine.soleRegistry, event⟩

/-- A tick that finds request `"r"` listed and cached, and pushes it. -/
def pushingTick : List Event :=
  [ofEngine .pollBegin, ofEngine (.pollListing (some [OpoiEngine.soleTask])),
    ofEngine (.pollCandidates ["r"])]

/-- The answer of the tick's look at the manifest. -/
def pushing : Event :=
  ofEngine (.pollManifest (.error "manifest not found") true)

/-- The prompt of `"r"`, from its intake into the cache. -/
def intakeEvents (ticket : Ticket) : List Event :=
  [ofEngine (.receivePrompt "r" "00" none none),
    ofEngine (.fetched ticket (some OpoiEngine.soleTask))]

/-- The start, and request `"r"` up to its stored result. -/
def answeredEvents : List Event :=
  [.right (.boot []), .right .serve] ++ (intakeEvents 0 ++ (pushingTick ++
    [pushing, ofEngine (.submitResult "miner" soleParams), ofEngine (.checked 1 (some false)),
      .both ⟨OpoiEngine.soleRegistry, .created 1 true⟩ (.create soleRow .done)]))

/-- A step that stores no prompt, loses no wallet and inserts nothing. -/
theorem guarded_of_routine {own : Opoi.Event}
    (noPrompt : ∀ requestId, ¬ desk.1.StoresPrompt requestId own)
    (noLeave : ∀ wallet, own ≠ .disconnect wallet) : desk.Guarded (ofEngine own) where
  careful := by
    rintro _ ⟨⟩
    exact ⟨fun requestId stores => absurd stores (noPrompt requestId),
      fun wallet isEvent => absurd isEvent (noLeave wallet)⟩
  heard := by rintro row ⟨⟩

theorem guarded_right {own : Lifecycle.Event}
    (noCreate : ∀ row outcome, own ≠ .create row outcome) :
    desk.Guarded (.right own) where
  careful := by rintro _ ⟨⟩
  heard := by
    rintro row ⟨⟩
    exact absurd rfl (noCreate row .unheard)

/-- The first intake of the prompt: there is no row yet and no result under
way. -/
theorem guarded_first_intake {answer : Option TaskRequest}
    (unstored : ∀ id, desk.2.db.submissions.find? id = none)
    (unsubmitted : ∀ wallet requestId, ¬ desk.1.Submits wallet requestId) :
    desk.Guarded (ofEngine (.fetched 0 answer)) where
  careful := by
    rintro _ ⟨⟩
    constructor
    · intro requestId _
      constructor
      · rintro ⟨id, row, found, -⟩
        rw [unstored] at found
        cases found
      · exact fun wallet submits => absurd submits (unsubmitted wallet requestId)
    · rintro wallet ⟨⟩
  heard := by rintro row ⟨⟩

theorem answered_run :
    (system id Service.solePool).RunWith Guarded new answeredEvents
      ((system id Service.solePool).execute new answeredEvents) := by
  have routine : ∀ {desk : Desk} {own : Opoi.Event},
      (∀ requestId, ¬ desk.1.StoresPrompt requestId own) →
      (∀ wallet, own ≠ .disconnect wallet) → desk.Guarded (ofEngine own) := guarded_of_routine
  apply System.Admits.runWith
  refine ⟨⟨⟨trivial, rfl, .refl _⟩, guarded_right (by rintro _ _ ⟨⟩)⟩,
    ⟨⟨trivial, rfl, rfl⟩, guarded_right (by rintro _ _ ⟨⟩)⟩,
    ⟨⟨rfl, trivial⟩, routine ?_ (by rintro _ ⟨⟩)⟩,
    ⟨⟨rfl, _, _, _, _, rfl⟩, guarded_first_intake (fun _ => rfl) ?_⟩,
    ⟨⟨rfl, rfl⟩, routine (fun _ => id) (by rintro _ ⟨⟩)⟩,
    ⟨⟨rfl, rfl⟩, routine (fun _ => id) (by rintro _ ⟨⟩)⟩,
    ⟨⟨rfl, rfl, List.nodup_singleton _, OpoiEngine.mem_sole_iff rfl (by decide) rfl
        fun _ ne => PartialMap.insert_of_ne _ _ ne⟩,
      routine (fun _ => id) (by rintro _ ⟨⟩)⟩,
    ⟨⟨rfl, _, _, rfl⟩, routine (fun _ => id) (by rintro _ ⟨⟩)⟩,
    ⟨⟨rfl, trivial⟩, routine (fun _ => id) (by rintro _ ⟨⟩)⟩,
    ⟨⟨rfl, _, _, rfl⟩, routine (fun _ => id) (by rintro _ ⟨⟩)⟩,
    ⟨⟨⟨rfl, fun _ => ⟨rfl, ?_⟩, fun _ => rfl⟩, ⟨_, rfl⟩, rfl⟩, ?_⟩, trivial⟩
  · rintro _ ⟨rfl, cached⟩
    exact cached rfl
  · rintro wallet requestId ⟨ticket, call, parked, about⟩
    rcases ticket with _ | ticket
    · cases parked
      cases about
    · cases parked
  · rw [← Option.isSome_iff_ne_none]
    rfl
  · constructor
    · rintro _ ⟨⟩
      exact ⟨fun _ stores => stores.elim, by rintro _ ⟨⟩⟩
    · rintro row ⟨⟩

/-- An instance of `spoken_for_not_reassigned`: the request has its result. -/
theorem spoken_for_not_reassigned_answered :
    let desk := (system id Service.solePool).execute new answeredEvents
    desk.2.db.ActiveRequest "r" ∧ desk.1.assignments "r" = none ∧
      ¬ Sends id Service.solePool desk (ofEngine .pollBegin) "r" := by
  intro desk
  have active : desk.2.db.ActiveRequest "r" := ⟨1, _, rfl, rfl⟩
  have spoken := spoken_for_not_reassigned answered_run "r" active
  exact ⟨active, spoken.1, spoken.2 (ofEngine .pollBegin) ⟨rfl, rfl⟩⟩

/-- A second intake of the prompt gets a request pushed that has its result
already. -/
theorem reassigned_after_second_intake :
    ∃ events desk event, (system id Service.solePool).Run new events desk ∧
      (system id Service.solePool).enabled desk event ∧ desk.2.db.ActiveRequest "r" ∧
      Sends id Service.solePool desk event "r" := by
  have again : (system id Service.solePool).Admits (fun _ _ => True)
      ((system id Service.solePool).execute new answeredEvents)
      (intakeEvents 2 ++ pushingTick) :=
    ⟨⟨⟨rfl, trivial⟩, trivial⟩, ⟨⟨rfl, _, _, _, _, rfl⟩, trivial⟩, ⟨⟨rfl, rfl⟩, trivial⟩,
      ⟨⟨rfl, rfl⟩, trivial⟩,
      ⟨⟨rfl, rfl, List.nodup_singleton _, OpoiEngine.mem_sole_iff rfl (by decide) rfl
        fun _ ne => (PartialMap.insert_of_ne _ _ ne).trans
          ((PartialMap.remove_of_ne _ ne).trans (PartialMap.insert_of_ne _ _ ne))⟩, trivial⟩,
      trivial⟩
  exact ⟨_, _, pushing, answered_run.run.append again.runWith, ⟨rfl, _, _, rfl⟩,
    ⟨1, _, rfl, rfl⟩, [_], _, rfl, List.mem_singleton_self _, rfl⟩

end Desk

end StratumBridge.Opoi
