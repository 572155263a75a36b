import StratumBridge.Shard.Serial
import StratumBridge.Transition.Observe

/-!
# A request and the handler at work on it

Along a serial run a request has at most one handler parked, so that its
pipeline, its assignment and this handler are all there is to it.  `HandStep`
lists what one event does to the three of them, and an invariant of theirs holds
along every serial run if every `HandStep` keeps it.
-/

namespace StratumBridge.Shard

open Data Rpc Wire Transition

namespace ShardEngine

/-- The handler parked for a request, if there is one. -/
def InHand (engine : ShardEngine) (requestId : RequestId) (hand : Option Call) : Prop :=
  ∀ call, hand = some call ↔
    ∃ ticket, engine.calls ticket = some call ∧ call.requestId = requestId

/-- The outcomes of one serial event for one request: its pipeline, its
assignment and its handler, before and after, and the effects added to its
history. -/
inductive HandStep (sha256 : Digest) (engine : ShardEngine) (requestId : RequestId) :
    Stimulus → Option PipelineState → Option ShardAssignment → Option Call →
      Option PipelineState → Option ShardAssignment → Option Call → List Effect → Prop
  | idle {stimulus pipeline assigned left hand} (fewer : left = assigned ∨ left = none)
      (untouched : ∀ ticket, stimulus.event = .dropped ticket → ∀ call,
        engine.calls ticket = some call → call.requestId ≠ requestId) :
      HandStep sha256 engine requestId stimulus pipeline assigned hand pipeline left hand []
  | rejected {registry wallet result pipeline assigned hand error} :
      HandStep sha256 engine requestId ⟨registry, .shardResult wallet result⟩ pipeline assigned
        hand pipeline assigned hand [.rejected wallet requestId error]
  | delegated {registry pipeline assigned hand} :
      HandStep sha256 engine requestId ⟨registry, .pollClaim true true⟩ pipeline assigned hand
        pipeline assigned hand [.delegated requestId]
  | accepted {registry ticket wallet result pipeline} (about : result.requestId = requestId)
      (step : pipeline.stepKey? = some (answeredStep result)) :
      HandStep sha256 engine requestId ⟨registry, .shardResult wallet result⟩ (some pipeline)
        (some ⟨wallet, result.shardIndex, result.tokenIndex, result.moeLayerStep⟩) none
        (some pipeline) none (some (.resolving wallet result)) [.accepted ticket wallet result]
  | unresolved {registry ticket wallet result pipeline}
      (parked : engine.calls ticket = some (.resolving wallet result)) :
      HandStep sha256 engine requestId ⟨registry, .resolved ticket none⟩ (some pipeline) none
        (some (.resolving wallet result)) (some pipeline) none none
        [.rejected wallet requestId .unknownRequest]
  | ungrouped {registry ticket source wallet result pipeline}
      (parked : engine.calls ticket = some (.resolving wallet result)) :
      HandStep sha256 engine requestId ⟨registry, .resolved ticket (some source)⟩ (some pipeline)
        none (some (.resolving wallet result)) none none none [.dropped requestId]
  | interior {registry ticket source wallet result pipeline expertIds layerIdx later reparked
        emitted}
      (parked : engine.calls ticket = some (.resolving wallet result))
      (resumes : Resumes pipeline result) (layer : result.moeLayerStep = some layerIdx)
      (group : pipeline.expertGroupFor pipeline.pos = some expertIds)
      (outcome : ExpertOutcome true wallet result source expertIds layerIdx
        (contribute wallet pipeline) later reparked emitted) :
      HandStep sha256 engine requestId ⟨registry, .resolved ticket (some source)⟩ (some pipeline)
        none (some (.resolving wallet result)) later none reparked emitted
  | submitting {registry ticket source wallet result pipeline}
      (parked : engine.calls ticket = some (.resolving wallet result))
      (lastToken : isLastToken pipeline = true) (finishes : ¬ Resumes pipeline result) :
      HandStep sha256 engine requestId ⟨registry, .resolved ticket (some source)⟩ (some pipeline)
        none (some (.resolving wallet result)) (some (contribute wallet pipeline)) none
        (some (.submitting wallet result source))
        [.submitShard requestId result.shardIndex result.outputHash]
  | completed {registry last ticket source wallet result pipeline later assigned reparked emitted}
      (parked : engine.calls ticket = some (.resolving wallet result))
      (about : result.requestId = requestId) (notLastToken : isLastToken pipeline = false)
      (finishes : ¬ Resumes pipeline result)
      (outcome : StepOutcome sha256 registry last none ticket wallet result source false false
        (contribute wallet pipeline) later assigned reparked emitted) :
      HandStep sha256 engine requestId ⟨registry, .resolved ticket (some source)⟩ (some pipeline)
        none (some (.resolving wallet result)) later assigned reparked emitted
  | unsubmitted {registry ticket stored wallet result source pipeline}
      (parked : engine.calls ticket = some (.submitting wallet result source)) :
      HandStep sha256 engine requestId ⟨registry, .submitted ticket false stored⟩ (some pipeline)
        none (some (.submitting wallet result source)) (some pipeline) none none
        [.stalled requestId]
  | submitted {registry last ticket stored wallet result source pipeline later assigned reparked
        emitted}
      (parked : engine.calls ticket = some (.submitting wallet result source))
      (about : result.requestId = requestId)
      (outcome : StepOutcome sha256 registry last none ticket wallet result source true stored
        pipeline later assigned reparked emitted) :
      HandStep sha256 engine requestId ⟨registry, .submitted ticket true stored⟩ (some pipeline)
        none (some (.submitting wallet result source)) later assigned reparked emitted
  | sized {registry ticket minVramMb step pipeline}
      (parked : engine.calls ticket = some (.sizing step)) :
      HandStep sha256 engine requestId ⟨registry, .sized ticket minVramMb⟩ (some pipeline) none
        (some (.sizing step)) (some pipeline) (markedBy step (some pipeline) none)
        (some (.joining step)) [.joinRequested ticket (joinRequest step (minVramMb.getD 0))]
  | unjoined {registry ticket step pipeline assigned}
      (parked : engine.calls ticket = some (.joining step)) :
      HandStep sha256 engine requestId ⟨registry, .joined ticket none⟩ (some pipeline) assigned
        (some (.joining step)) (some pipeline) none none [.stalled requestId]
  | abandoned {registry ticket call pipeline assigned} (parked : engine.calls ticket = some call)
      (about : call.requestId = requestId) :
      HandStep sha256 engine requestId ⟨registry, .dropped ticket⟩ (some pipeline) assigned
        (some call) (some pipeline) assigned none []
  | walked {registry last ticket output step pipeline assigned}
      (parked : engine.calls ticket = some (.joining step)) (isInterior : step.interior = true) :
      HandStep sha256 engine requestId ⟨registry, .joined ticket (some output)⟩ (some pipeline)
        assigned (some (.joining step))
        (dispatched registry last (nextLayer pipeline step.layerIdx output))
        (assignedBy registry last assigned (nextLayer pipeline step.layerIdx output)) none
        (.walked ticket requestId ::
          dispatchLines registry last requestId step.source
            (nextLayer pipeline step.layerIdx output))
  | handedOver {registry last ticket output step pipeline assigned}
      (parked : engine.calls ticket = some (.joining step)) (isBoundary : step.interior = false) :
      HandStep sha256 engine requestId ⟨registry, .joined ticket (some output)⟩ (some pipeline)
        assigned (some (.joining step)) (dispatched registry last (nextShard pipeline output))
        (assignedBy registry last assigned (nextShard pipeline output)) none
        (.advanced ticket requestId ::
          dispatchLines registry last requestId step.source (nextShard pipeline output))
  | redispatched {registry last source pipeline} :
      HandStep sha256 engine requestId ⟨registry, .pollRetry (some source)⟩ (some pipeline) none
        none (dispatched registry last pipeline) (assignedBy registry last none pipeline) none
        (dispatchLines registry last requestId source pipeline)
  | started {registry last req rest manifest promptHex graph source}
      (polling : engine.poll = .claiming req rest manifest promptHex graph source)
      (about : req.requestId = requestId) (dense : denseShards graph ≠ []) :
      HandStep sha256 engine requestId ⟨registry, .pollClaim true false⟩ none none none
        (dispatched registry last (initialPipeline req manifest graph promptHex))
        (assignedBy registry last none (initialPipeline req manifest graph promptHex)) none
        (.started requestId ::
          dispatchLines registry last requestId source
            (initialPipeline req manifest graph promptHex))

section Hand

variable {sha256 : Digest} {engine after : ShardEngine} {requestId : RequestId}
variable {stimulus : Stimulus} {ticket : Ticket} {call : Call} {hand : Option Call}

theorem InHand.unique {other : Option Call} (one : engine.InHand requestId hand)
    (two : engine.InHand requestId other) : hand = other :=
  Option.ext fun call => (one call).trans (two call).symm

theorem inHand_none_iff : engine.InHand requestId none ↔ engine.Quiet requestId := by
  constructor
  · intro inHand ticket call parked about
    cases (inHand call).mpr ⟨ticket, parked, about⟩
  · intro quiet call
    constructor
    · rintro ⟨⟩
    · rintro ⟨ticket, parked, about⟩
      exact absurd about (quiet ticket call parked)

theorem Orderly.inHand (orderly : engine.Orderly requestId)
    (parked : engine.calls ticket = some call) (about : call.requestId = requestId) :
    engine.InHand requestId (some call) := by
  intro other
  constructor
  · rintro ⟨⟩
    exact ⟨ticket, parked, about⟩
  · rintro ⟨elsewhere, found, own⟩
    cases orderly.single elsewhere ticket other call found own parked about
    exact parked.symm.trans found

theorem Orderly.exists_inHand (orderly : engine.Orderly requestId) :
    ∃ hand, engine.InHand requestId hand := by
  by_cases quiet : engine.Quiet requestId
  · exact ⟨none, inHand_none_iff.mpr quiet⟩
  · rw [Quiet] at quiet
    push Not at quiet
    rcases quiet with ⟨ticket, call, parked, about⟩
    exact ⟨some call, orderly.inHand parked about⟩

/-- The handler parks again, or returns. -/
theorem Orderly.inHand_setCall (orderly : engine.Orderly requestId)
    (parked : engine.calls ticket = some call) (about : call.requestId = requestId)
    {reparked : Option Call} (calls : after.calls = setCall engine.calls ticket reparked)
    (own : ∀ next, reparked = some next → next.requestId = requestId) :
    after.InHand requestId reparked := by
  intro other
  constructor
  · intro isNext
    exact ⟨ticket, by rw [calls, setCall, Function.update_self, isNext], own other isNext⟩
  · rintro ⟨elsewhere, found, ofRequest⟩
    rw [calls, setCall] at found
    by_cases same : elsewhere = ticket
    · subst same
      rwa [Function.update_self] at found
    · rw [Function.update_of_ne same] at found
      exact absurd (orderly.single elsewhere ticket other call found ofRequest parked about) same

theorem InHand.kept (inHand : engine.InHand requestId hand)
    (calls : ∀ ticket call, call.requestId = requestId →
      (after.calls ticket = some call ↔ engine.calls ticket = some call)) :
    after.InHand requestId hand := by
  intro call
  rw [inHand call]
  constructor
  · rintro ⟨ticket, parked, about⟩
    exact ⟨ticket, (calls ticket call about).mpr parked, about⟩
  · rintro ⟨ticket, parked, about⟩
    exact ⟨ticket, (calls ticket call about).mp parked, about⟩

/-- One serial event, seen from one request. -/
theorem SequentialAt.handStep (sequential : engine.SequentialAt requestId)
    (enabled : engine.enabled stimulus) (serial : engine.SerialAt requestId stimulus) :
    ∃ hand later, engine.InHand requestId hand ∧
      (ShardEngine.next sha256 engine stimulus).InHand requestId later ∧
      HandStep sha256 engine requestId stimulus (engine.pipelines requestId)
        (engine.assignments requestId) hand
        ((ShardEngine.next sha256 engine stimulus).pipelines requestId)
        ((ShardEngine.next sha256 engine stimulus).assignments requestId) later
        (sent sha256 engine stimulus requestId) := by
  have orderly := sequential.orderly
  have orderlyAfter : (ShardEngine.next sha256 engine stimulus).Orderly requestId :=
    (sequential.next enabled serial).orderly
  have change := next_change_sent sha256 enabled sequential.fresh requestId
  rcases orderly.exists_inHand with ⟨hand, inHand⟩
  generalize sent sha256 engine stimulus requestId = emitted at change ⊢
  generalize before : engine.pipelines requestId = pipeline at change ⊢
  generalize kept : (ShardEngine.next sha256 engine stimulus).pipelines requestId = later
    at change ⊢
  generalize made : (ShardEngine.next sha256 engine stimulus).assignments requestId = assigned
    at change ⊢
  generalize moved : (ShardEngine.next sha256 engine stimulus).calls = calls at change
  have ended : ∀ ticket call, stimulus.event = .dropped ticket →
      (ShardEngine.next sha256 engine stimulus).calls ticket ≠ some call := by
    intro ticket call drops
    simp [ShardEngine.next, drops, dropCall, endCall]
  generalize ShardEngine.next sha256 engine stimulus = after at *
  have unmoved : calls = engine.calls → after.InHand requestId hand := by
    rintro rfl
    exact inHand.kept fun ticket call _ => by rw [moved]
  cases change with
  | idle fewer same =>
      refine ⟨hand, hand, inHand, inHand.kept ?_, .idle fewer ?_⟩
      · intro ticket call about
        rw [moved]
        exact same ticket call about
      · intro ticket drops call parked about
        rw [← moved] at same
        exact ended ticket call drops ((same ticket call about).mpr parked)
  | rejected about => exact ⟨hand, hand, inHand, unmoved rfl, .rejected⟩
  | orphaned about assigned =>
      cases (orderly.bare before).2.symm.trans assigned
  | @accepted registry wallet result pipeline about assigned =>
      have quiet : engine.Quiet requestId := about ▸ (serial about (about ▸ assigned)).1
      have parked : after.calls engine.nextTicket = some (.resolving wallet result) := by
        rw [moved, setCall, Function.update_self]
      obtain ⟨pipeline, present, handles⟩ := orderlyAfter.handled _ _ parked about
      cases kept.symm.trans present
      refine ⟨none, _, inHand_none_iff.mpr quiet, orderlyAfter.inHand parked about, ?_⟩
      rw [assigned]
      exact .accepted about handles.step
  | unresolved parked about =>
      obtain ⟨pipeline, present, -⟩ := orderly.handled _ _ parked about
      cases before.symm.trans present
      rw [orderly.unassigned parked about (by simp)]
      exact ⟨_, _, orderly.inHand parked about,
        orderly.inHand_setCall parked about moved (by simp), .unresolved parked⟩
  | lost parked about quiet =>
      obtain ⟨pipeline, present, -⟩ := orderly.handled _ _ parked about
      cases before.symm.trans present
  | misplaced parked about outside =>
      rw [List.getElem?_eq_none_iff] at outside
      exact absurd (orderly.inRange _ before) (Nat.not_lt.mpr outside)
  | ungrouped parked about resumes dense =>
      rw [orderly.unassigned parked about (by simp)]
      exact ⟨_, _, orderly.inHand parked about,
        orderly.inHand_setCall parked about moved (by simp), .ungrouped parked⟩
  | interior parked about layer found resumes group outcome =>
      rw [orderly.unassigned parked about (by simp)]
      refine ⟨_, _, orderly.inHand parked about, orderly.inHand_setCall parked about moved ?_,
        .interior parked ⟨_, _, layer, found, resumes⟩ layer group outcome⟩
      rintro _ rfl
      exact outcome.requestId.trans about
  | submitting parked about lastToken finishes =>
      rw [orderly.unassigned parked about (by simp)]
      refine ⟨_, _, orderly.inHand parked about, orderly.inHand_setCall parked about moved ?_,
        .submitting parked lastToken finishes⟩
      rintro _ ⟨⟩
      exact about
  | completed parked about notLastToken outcome finishes =>
      rw [orderly.unassigned parked about (by simp)] at outcome ⊢
      refine ⟨_, _, orderly.inHand parked about, orderly.inHand_setCall parked about moved ?_,
        .completed parked about notLastToken finishes outcome⟩
      rintro _ rfl
      exact outcome.requestId.trans about
  | unsubmitted parked about =>
      obtain ⟨pipeline, present, -⟩ := orderly.handled _ _ parked about
      cases before.symm.trans present
      rw [orderly.unassigned parked about (by simp)]
      exact ⟨_, _, orderly.inHand parked about,
        orderly.inHand_setCall parked about moved (by simp), .unsubmitted parked⟩
  | submitted parked about outcome =>
      rw [orderly.unassigned parked about (by simp)] at outcome ⊢
      refine ⟨_, _, orderly.inHand parked about, orderly.inHand_setCall parked about moved ?_,
        .submitted parked about outcome⟩
      rintro _ rfl
      exact outcome.requestId.trans about
  | sized parked about =>
      obtain ⟨pipeline, present, -⟩ := orderly.handled _ _ parked about
      cases before.symm.trans present
      rw [orderly.unassigned parked about (by simp)]
      refine ⟨_, _, orderly.inHand parked about, orderly.inHand_setCall parked about moved ?_,
        .sized parked⟩
      rintro _ ⟨⟩
      exact about
  | unjoined parked about =>
      obtain ⟨pipeline, present, -⟩ := orderly.handled _ _ parked about
      cases before.symm.trans present
      exact ⟨_, _, orderly.inHand parked about,
        orderly.inHand_setCall parked about moved (by simp), .unjoined parked⟩
  | abandoned parked about =>
      obtain ⟨pipeline, present, -⟩ := orderly.handled _ _ parked about
      cases before.symm.trans present
      exact ⟨_, _, orderly.inHand parked about,
        orderly.inHand_setCall parked about moved (by simp), .abandoned parked about⟩
  | walked parked about isInterior =>
      exact ⟨_, _, orderly.inHand parked about,
        orderly.inHand_setCall parked about moved (by simp), .walked parked isInterior⟩
  | handedOver parked about isBoundary =>
      exact ⟨_, _, orderly.inHand parked about,
        orderly.inHand_setCall parked about moved (by simp), .handedOver parked isBoundary⟩
  | redispatched polling =>
      rcases sequential.polls.waiting requestId (by simp [polling, Poll.stalled]) with
        ⟨quiet, unassigned⟩
      have idle := inHand_none_iff.mpr quiet
      rw [unassigned]
      exact ⟨none, none, idle, idle.unique inHand ▸ unmoved rfl, .redispatched⟩
  | delegated polling about => exact ⟨hand, hand, inHand, unmoved rfl, .delegated⟩
  | started polling about =>
      have absent := sequential.clear _ (by rw [polling]; rfl)
      rw [about] at absent
      obtain ⟨quiet, unassigned⟩ := orderly.bare absent
      have idle := inHand_none_iff.mpr quiet
      rw [← before, absent, unassigned]
      exact ⟨none, none, idle, idle.unique inHand ▸ unmoved rfl,
        .started polling about (sequential.polls.dense _ _ _ _ _ _ polling)⟩

/-- A request with its pipeline, its assignment and its handler, in an engine
that was run serially. -/
structure Holds (engine : ShardEngine) (requestId : RequestId) (pipeline : Option PipelineState)
    (assigned : Option ShardAssignment) (hand : Option Call) : Prop where
  sequential : engine.SequentialAt requestId
  pipeline : engine.pipelines requestId = pipeline
  assigned : engine.assignments requestId = assigned
  hand : engine.InHand requestId hand

theorem Holds.inRange {pipeline : PipelineState} {assigned : Option ShardAssignment}
    (holds : engine.Holds requestId (some pipeline) assigned hand) :
    pipeline.pos < pipeline.shards.length :=
  holds.sequential.orderly.inRange pipeline holds.pipeline

/-- The handler was given the result of the step its pipeline is at. -/
theorem Holds.step {pipeline : PipelineState} {assigned : Option ShardAssignment}
    (holds : engine.Holds requestId (some pipeline) assigned (some call)) :
    pipeline.stepKey? = some (answeredStep call.result) := by
  obtain ⟨ticket, parked, about⟩ := (holds.hand call).mp rfl
  rcases holds.sequential.orderly.handled ticket call parked about with
    ⟨current, present, handles⟩
  cases holds.pipeline.symm.trans present
  exact handles.step

/-- The handler was given the layer its pipeline awaits. -/
theorem Holds.walk {pipeline : PipelineState} {assigned : Option ShardAssignment}
    (holds : engine.Holds requestId (some pipeline) assigned (some call)) :
    pipeline.moeLayerWalk.map Prod.fst = call.result.moeLayerStep := by
  obtain ⟨shard, -, key⟩ := Option.map_eq_some_iff.mp holds.step
  exact congrArg StepKey.moeLayerStep key

/-- The invariant rule for a request: what an observer's record has to do with
the pipeline, the assignment and the handler of a request holds along every run
if it makes the steps of the request serial, holds before the request is known,
and every step keeps it. -/
theorem handed_of_run {ρ : Type} {guard : ShardEngine → Stimulus → Prop}
    {look : ShardEngine → ρ → Stimulus → ρ} {record : ρ} {events : List Stimulus}
    {I : ShardEngine → Option PipelineState → Option ShardAssignment → Option Call → ρ → Prop}
    (run : (system sha256).RunWith guard new events engine)
    (init : I new none none none record)
    (serial : ∀ engine stimulus seen pipeline assigned hand,
      engine.Holds requestId pipeline assigned hand → guard engine stimulus →
      I engine pipeline assigned hand seen → engine.SerialAt requestId stimulus)
    (step : ∀ engine stimulus seen pipeline assigned hand later left next,
      engine.Holds requestId pipeline assigned hand → engine.enabled stimulus →
      guard engine stimulus → I engine pipeline assigned hand seen →
      (ShardEngine.next sha256 engine stimulus).Holds requestId later left next →
      HandStep sha256 engine requestId stimulus pipeline assigned hand later left next
        (sent sha256 engine stimulus requestId) →
      I (ShardEngine.next sha256 engine stimulus) later left next (look engine seen stimulus)) :
    ∃ pipeline assigned hand, engine.Holds requestId pipeline assigned hand ∧
      I engine pipeline assigned hand
        (((system sha256).watched look).execute (new, record) events).2 := by
  have both := (run.watched look record).invariant
    (I := fun both => ∃ pipeline assigned hand,
      both.1.Holds requestId pipeline assigned hand ∧ I both.1 pipeline assigned hand both.2)
    ⟨none, none, none, ⟨sequentialAt_new requestId, rfl, rfl,
      inHand_none_iff.mpr fun _ _ parked => by cases parked⟩, init⟩
    (by
      rintro ⟨state, seen⟩ stimulus ⟨pipeline, assigned, hand, holds, kept⟩ enabled met
      have offered : state.enabled stimulus := enabled
      have inTurn := serial _ _ _ _ _ _ holds met kept
      obtain ⟨inHand, later, before, after, moves⟩ := holds.sequential.handStep offered inTurn
      cases holds.hand.unique before
      rw [holds.pipeline, holds.assigned] at moves
      have holdsAfter : (ShardEngine.next sha256 state stimulus).Holds requestId _ _ later :=
        ⟨holds.sequential.next offered inTurn, rfl, rfl, after⟩
      exact ⟨_, _, later, holdsAfter, step _ _ _ _ _ _ _ _ _ holds offered met kept holdsAfter
        moves⟩)
  exact both

end Hand

end ShardEngine

end StratumBridge.Shard
