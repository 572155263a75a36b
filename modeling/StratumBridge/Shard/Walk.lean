import StratumBridge.Shard.Drops
import StratumBridge.Shard.Plan
import StratumBridge.Shard.Serial
import StratumBridge.Shard.Sessions
import StratumBridge.Transition.Observe

/-!
# The walk through the layers

A shard whose layers have a group of experts is computed one layer at a time, on
one wallet: each layer's result goes through the experts, and their sum is the
input of the next layer.  While handlers run one after another and the pinned
wallet stays connected, every step of a request's walk follows its plan.  The
placeholder of a range that was left is for a layer before the range the
pipeline is at.
-/

namespace StratumBridge.Shard

open Data Rpc Wire Transition Sequence

namespace ShardEngine

/-- The marks an effect of one event leaves.  A result is applied by the join of
its experts, or else directly; on the last shard the latter takes a token. -/
def markOf (engine : ShardEngine) (requestId : RequestId) : Effect → List Mark
  | .shardAssign wallet _ assign =>
      [.sent wallet assign.tokenIndex (assign.layerStart, assign.layerEnd) assign.moeLayerStep]
  | .walked ticket _ | .advanced ticket _ =>
      match engine.calls ticket, engine.pipelines requestId with
      | some (.joining step), _ =>
          [.combined step.tokenIndex (step.layerStart, step.layerEnd) step.layerIdx]
      | some call, some pipeline =>
          if pipeline.pos + 1 = pipeline.shards.length then
            [.took pipeline.tokenIndex call.result.moeLayerStep]
          else
            []
      | _, _ => []
  | _ => []

/-- The trail of a request after one more event. -/
def trailNext (sha256 : Digest) (requestId : RequestId) (engine : ShardEngine)
    (trail : Option Trail) (stimulus : Stimulus) : Option Trail :=
  let effects := sent sha256 engine stimulus requestId
  let marks := effects.flatMap (markOf engine requestId)
  if .started requestId ∈ effects then
    ((next sha256 engine stimulus).pipelines requestId).map fun pipeline =>
      ⟨pipeline.manifest.numLayers, pipeline.plan, marks⟩
  else
    trail.map fun trail => trail.add marks

/-- The trail of a request along a run from the empty engine. -/
def trailOf (sha256 : Digest) (requestId : RequestId) (events : List Stimulus) : Option Trail :=
  (((system sha256).watched (trailNext sha256 requestId)).execute (new, none) events).2

/-! ## A dispatch -/

section Dispatch

variable {pipeline : PipelineState} {trail : Trail} {registry : MinerRegistry}

/-- Where layers are to be walked, a fresh dispatch opens the walk. -/
theorem exists_walk_openWalk (pipeline : PipelineState) (shard : ShardDescriptor)
    (wallet : Wallet)
    (group : ((openWalk pipeline shard wallet).expertGroupFor
      (openWalk pipeline shard wallet).pos).isSome = true) :
    ∃ layer, (openWalk pipeline shard wallet).moeLayerWalk = some (layer, wallet) := by
  revert group
  unfold openWalk
  split
  · exact fun _ => ⟨_, rfl⟩
  · rename_i ungrouped
    exact fun group => absurd group ungrouped

/-- What a dispatch leaves of a pipeline and its trail, and the assignment
before and after it. -/
structure Dispatches (pipeline after : PipelineState) (trail : Trail)
    (assigned made : Option ShardAssignment) : Prop where
  onWalk : OnWalk after trail
  lawful : trail.Lawful
  unopened : ∀ range, after.here? = some range → range.routed = true →
    after.moeLayerWalk = none → made = assigned
  leftover : ∀ assignment layer, after.moeLayerWalk = none → made = some assignment →
    assignment.moeLayerStep = some layer → after = pipeline ∧ assigned = some assignment

/-- A dispatch asks the pinned wallet for the layer awaited, and pins one where
layers are to be walked. -/
theorem dispatches (engine : ShardEngine) (requestId : RequestId) (on : OnWalk pipeline trail)
    (lawful : trail.Lawful)
    (connected : ∀ layer wallet, pipeline.moeLayerWalk = some (layer, wallet) →
      registry.Registered wallet)
    (last : Option Wallet) (assigned : Option ShardAssignment) (source : ModelSource) :
    ∃ after, dispatched registry last pipeline = some after ∧
      Dispatches pipeline after
        (trail.add ((dispatchLines registry last requestId source pipeline).flatMap
          (markOf engine requestId)))
        assigned (assignedBy registry last assigned pipeline) := by
  rcases on.exists_shard with ⟨shard, found⟩
  unfold dispatched dispatchLines assignedBy
  rw [found]
  dsimp only
  cases walk : pipeline.moeLayerWalk with
  | some at_layer =>
      rcases at_layer with ⟨layer, pinned⟩
      obtain ⟨tx, channel⟩ := connected layer pinned walk
      have here := here?_of_shard found
      have lawfulNow := on.sends_lawful lawful pinned here fun _ => ⟨layer, walk⟩
      have onNow := on.sends pinned here fun _ => ⟨layer, walk⟩
      rw [walk] at lawfulNow onNow
      dsimp only
      rw [channel]
      refine ⟨pipeline, rfl, onNow, lawfulNow, ?_, ?_⟩
      · intro range _ _ resting
        rw [walk] at resting
        cases resting
      · intro assignment at_layer resting
        rw [walk] at resting
        cases resting
  | none =>
      dsimp only
      cases picked : registry.pickNext last with
      | none =>
          refine ⟨pipeline, rfl, ?_, ?_, fun _ _ _ _ => rfl, fun _ _ _ made _ => ⟨rfl, made⟩⟩
          · simpa [Trail.add] using on
          · simpa [Trail.add] using lawful
      | some wallet =>
          obtain ⟨tx, channel⟩ := (MinerRegistry.eligible_of_pickNext picked).1
          simp only [Option.bind_some, channel, Option.map_some, Option.toList_some]
          have opens := on.opens walk found wallet
          have foundToo : (openWalk pipeline shard wallet).shards[
              (openWalk pipeline shard wallet).pos]? = some shard := by
            simpa using found
          have here := here?_of_shard foundToo
          have opened := exists_walk_openWalk pipeline shard wallet
          refine ⟨openWalk pipeline shard wallet, rfl, opens.sends wallet here opened,
            opens.sends_lawful lawful wallet here opened, ?_, ?_⟩
          · intro range hereToo routed resting
            cases here.symm.trans hereToo
            obtain ⟨layer, walks⟩ := opened routed
            rw [walks] at resting
            cases resting
          · intro assignment layer resting made isLayer
            cases made
            rw [resting] at isLayer
            cases isLayer

end Dispatch

/-! ## Where the experts are looked up -/

/-- An expert step is about the layer its result answers, in the range its
pipeline is at. -/
structure StepPlace (pipeline : PipelineState) (step : ExpertStep) (shard : ShardDescriptor) :
    Prop where
  found : pipeline.shards[pipeline.pos]? = some shard
  layerStart : step.layerStart = (layerRange shard).1
  layerEnd : step.layerEnd = (layerRange shard).2
  tokenIndex : step.tokenIndex = pipeline.tokenIndex
  layerIdx : step.layerIdx = step.result.moeLayerStep.getD ((layerRange shard).2 - 1)

section Sizing

variable {sha256 : Digest} {registry : MinerRegistry} {engine : ShardEngine}
variable {pipeline : PipelineState} {ticket : Ticket} {wallet : Wallet}
variable {result : OpoiShardResult} {source : ModelSource} {step : ExpertStep}

theorem dispatchCurrent_calls (registry : MinerRegistry) (requestId : RequestId)
    (source : ModelSource) (engine : ShardEngine) :
    (dispatchCurrent registry requestId source engine).calls = engine.calls := by
  unfold dispatchCurrent
  split
  · rfl
  · split
    · rfl
    · split
      · split <;> rfl
      · split
        · rfl
        · dsimp only
          split <;> rfl

theorem finalizePipeline_calls (sha256 : Digest) (requestId : RequestId) (stored : Bool)
    (engine : ShardEngine) :
    (finalizePipeline sha256 requestId stored engine).calls = engine.calls := by
  unfold finalizePipeline
  split
  · rfl
  · split <;> rfl

theorem not_sizing_of_ended (engine : ShardEngine) (ticket : Ticket) :
    (engine.endCall ticket).calls ticket ≠ some (.sizing step) := by
  simp [endCall]

theorem beginExpertStep_sizing {interior : Bool} {expertIds : List Nat} {layerIdx : Nat}
    (present : engine.pipelines result.requestId = some pipeline)
    (layer : ∀ shard, pipeline.shards[pipeline.pos]? = some shard →
      layerIdx = result.moeLayerStep.getD ((layerRange shard).2 - 1))
    (sizes : (beginExpertStep interior ticket wallet result source expertIds layerIdx
      engine).calls ticket = some (.sizing step)) : ∃ shard, StepPlace pipeline step shard := by
  unfold beginExpertStep at sizes
  cases verdict : routerVerdict expertIds result with
  | absent =>
      rw [verdict] at sizes
      exact absurd sizes (not_sizing_of_ended engine ticket)
  | malformed =>
      rw [verdict] at sizes
      exact absurd sizes (not_sizing_of_ended engine ticket)
  | selected experts =>
      simp only [verdict, present] at sizes
      cases found : pipeline.shards[pipeline.pos]? with
      | none =>
          rw [found] at sizes
          exact absurd sizes (not_sizing_of_ended engine ticket)
      | some shard =>
          simp only [found, park, PartialMap.insert_self, Option.some.injEq,
            Call.sizing.injEq] at sizes
          subst sizes
          exact ⟨shard, found, rfl, rfl, rfl, layer shard found⟩

theorem completeStep_sizing {lastToken stored : Bool}
    (present : engine.pipelines result.requestId = some pipeline)
    (sizes : (completeStep sha256 registry ticket wallet result source lastToken stored pipeline
      engine).calls ticket = some (.sizing step)) : ∃ shard, StepPlace pipeline step shard := by
  unfold completeStep at sizes
  split at sizes
  · split at sizes
    · exact absurd sizes (not_sizing_of_ended engine ticket)
    · dsimp only at sizes
      split at sizes
      · rw [finalizePipeline_calls] at sizes
        exact absurd sizes (not_sizing_of_ended engine ticket)
      · rw [dispatchCurrent_calls] at sizes
        exact absurd sizes (not_sizing_of_ended engine ticket)
  · split at sizes
    · apply beginExpertStep_sizing present _ sizes
      intro shard found
      rw [found]
      rfl
    · rw [dispatchCurrent_calls] at sizes
      exact absurd sizes (not_sizing_of_ended engine ticket)

theorem finishStep_sizing (present : engine.pipelines result.requestId = some pipeline)
    (sizes : (finishStep sha256 registry ticket wallet result source pipeline engine).calls ticket =
      some (.sizing step)) : ∃ shard, StepPlace pipeline step shard := by
  unfold finishStep at sizes
  split at sizes
  · simp [emit, park] at sizes
  · exact completeStep_sizing present sizes

theorem resumeResolved_sizing {found : Option ModelSource}
    (parked : engine.calls ticket = some (.resolving wallet result))
    (present : engine.pipelines result.requestId = some pipeline)
    (sizes : (resumeResolved sha256 registry ticket found engine).calls ticket =
      some (.sizing step)) : ∃ shard, StepPlace (contribute wallet pipeline) step shard := by
  have counted : (engine.setPipeline result.requestId (contribute wallet pipeline)).pipelines
      result.requestId = some (contribute wallet pipeline) := PartialMap.insert_self ..
  unfold resumeResolved at sizes
  rw [parked] at sizes
  dsimp only at sizes
  cases found with
  | none => exact absurd sizes (not_sizing_of_ended engine ticket)
  | some source =>
      simp only [present] at sizes
      cases walked : result.moeLayerStep with
      | none =>
          rw [walked] at sizes
          exact finishStep_sizing counted sizes
      | some layerIdx =>
          simp only [walked] at sizes
          split at sizes
          · exact absurd sizes (not_sizing_of_ended _ ticket)
          · split at sizes
            · split at sizes
              · exact absurd sizes (not_sizing_of_ended _ ticket)
              · apply beginExpertStep_sizing counted _ sizes
                intro shard _
                rw [walked]
                rfl
            · exact finishStep_sizing counted sizes

theorem resumeSubmitted_sizing {submitted stored : Bool}
    (parked : engine.calls ticket = some (.submitting wallet result source))
    (present : engine.pipelines result.requestId = some pipeline)
    (sizes : (resumeSubmitted sha256 registry ticket submitted stored engine).calls ticket =
      some (.sizing step)) : ∃ shard, StepPlace pipeline step shard := by
  unfold resumeSubmitted at sizes
  rw [parked] at sizes
  dsimp only at sizes
  split at sizes
  · rw [present] at sizes
    exact completeStep_sizing present sizes
  · exact absurd sizes (not_sizing_of_ended engine ticket)

end Sizing

/-! ## The invariant -/

/-- Handlers of one request run one after another: a result is accepted only
while no other is handled, and a tick that begins collects no request with a
parked handler. -/
def OneByOne (engine : ShardEngine) (stimulus : Stimulus) : Prop :=
  match stimulus.event with
  | .shardResult wallet result =>
      engine.assignments result.requestId =
          some ⟨wallet, result.shardIndex, result.tokenIndex, result.moeLayerStep⟩ →
        engine.Quiet result.requestId
  | .pollBegin stalled => ∀ requestId ∈ stalled, engine.Quiet requestId
  | _ => True

/-- Every wallet pinned by a walk is connected. -/
def PinnedConnected (engine : ShardEngine) (stimulus : Stimulus) : Prop :=
  ∀ requestId pipeline layer wallet, engine.pipelines requestId = some pipeline →
    pipeline.moeLayerWalk = some (layer, wallet) → stimulus.registry.Registered wallet

/-- The dense shards of a request that is claimed tile the model's layers. -/
def ClaimsTiled (engine : ShardEngine) (stimulus : Stimulus) : Prop :=
  ∀ claimed eligible req rest manifest promptHex graph source,
    stimulus.event = .pollClaim claimed eligible →
      engine.poll = .claiming req rest manifest promptHex graph source →
        Tiles LayerRange.bounds 0 (planOf (denseShards graph) (expertGroups graph))
          manifest.numLayers

/-- The circumstances of a walk: handlers run one after another, pinned wallets
stay connected, and the dense shards of a request that is started tile the
model's layers. -/
structure WalkPremises (engine : ShardEngine) (stimulus : Stimulus) : Prop where
  oneByOne : engine.OneByOne stimulus
  connected : engine.PinnedConnected stimulus
  tiled : engine.ClaimsTiled stimulus

/-- A result that is accepted for the request with a layer step finds its pipeline
walking the layers. -/
def AnswersWalk (requestId : RequestId) (engine : ShardEngine) (stimulus : Stimulus) : Prop :=
  ∀ wallet result, stimulus.event = .shardResult wallet result → result.requestId = requestId →
    engine.assignments result.requestId =
        some ⟨wallet, result.shardIndex, result.tokenIndex, result.moeLayerStep⟩ →
      result.moeLayerStep ≠ none → ∀ pipeline, engine.pipelines result.requestId = some pipeline →
        pipeline.moeLayerWalk ≠ none

theorem serialAt_of_answersWalk {engine : ShardEngine} {stimulus : Stimulus}
    {requestId : RequestId} (oneByOne : engine.OneByOne stimulus)
    (answers : engine.AnswersWalk requestId stimulus) : engine.SerialAt requestId stimulus := by
  rcases stimulus with ⟨registry, event⟩
  cases event with
  | shardResult wallet result =>
      exact fun about assigned => ⟨oneByOne assigned, answers wallet result rfl about assigned⟩
  | pollBegin stalled => exact oneByOne
  | _ => trivial

theorem OneByOne.collectsQuiet {engine : ShardEngine} {stimulus : Stimulus}
    (oneByOne : engine.OneByOne stimulus) : engine.CollectsQuiet stimulus := by
  rcases stimulus with ⟨registry, event⟩
  rintro stalled rfl
  exact oneByOne

theorem oneByOne_of_settled {engine : ShardEngine} {stimulus : Stimulus}
    (fresh : engine.TicketsFresh) (settled : engine.settled stimulus = true) :
    engine.OneByOne stimulus := by
  rcases stimulus with ⟨registry, event⟩
  cases event with
  | shardResult wallet result => exact fun _ => quiet_of_idle fresh settled _
  | pollBegin stalled => exact fun requestId _ => quiet_of_idle fresh settled requestId
  | _ => trivial

/-- An expert step stands where its pipeline does. -/
structure StepAt (pipeline : PipelineState) (step : ExpertStep) : Prop where
  place : ∃ shard, StepPlace pipeline step shard
  grouped : (pipeline.expertGroupFor pipeline.pos).isSome = true
  resumes : step.interior = true ↔ Resumes pipeline step.result

/-- A request, its pipeline on its walk, and its parked handler. -/
structure Walking (requestId : RequestId) (engine : ShardEngine) (trail : Option Trail) :
    Prop where
  lawful : ∀ left, trail = some left → left.Lawful
  onWalk : ∀ pipeline, engine.pipelines requestId = some pipeline →
    ∃ left, trail = some left ∧ OnWalk pipeline left
  opened : ∀ pipeline range, engine.pipelines requestId = some pipeline →
    pipeline.here? = some range → range.routed = true → pipeline.moeLayerWalk = none →
      engine.Quiet requestId ∧ ∀ assignment, engine.assignments requestId = some assignment →
        assignment.moeLayerStep ≠ none
  leftover : ∀ pipeline range assignment layer, engine.pipelines requestId = some pipeline →
    pipeline.here? = some range → pipeline.moeLayerWalk = none →
      engine.assignments requestId = some assignment → assignment.moeLayerStep = some layer →
        layer < range.bounds.1
  finishing : ∀ ticket wallet result source pipeline,
    engine.calls ticket = some (.submitting wallet result source) →
      result.requestId = requestId → engine.pipelines requestId = some pipeline →
        ¬ Resumes pipeline result
  stepping : ∀ ticket call step pipeline, engine.calls ticket = some call →
    call.step? = some step → call.requestId = requestId →
      engine.pipelines requestId = some pipeline → StepAt pipeline step

section Step

variable {sha256 : Digest} {engine after : ShardEngine} {requestId : RequestId}
variable {stimulus : Stimulus} {ticket : Ticket} {call : Call} {emitted : List Effect}
variable {trail : Option Trail} {pipeline counted : PipelineState}

theorem walking_new (requestId : RequestId) : Walking requestId new none where
  lawful := fun _ present => by cases present
  onWalk := fun _ present => by cases present
  opened := fun _ _ present => by cases present
  leftover := fun _ _ _ _ present => by cases present
  finishing := fun _ _ _ _ _ parked => by cases parked
  stepping := fun _ _ _ _ parked => by cases parked

/-- Without a pipeline only the trail is left. -/
theorem walking_of_none (absent : after.pipelines requestId = none)
    (lawful : ∀ left, trail = some left → left.Lawful) : Walking requestId after trail := by
  constructor
  · exact lawful
  · intro pipeline present
    cases absent.symm.trans present
  · intro pipeline range present
    cases absent.symm.trans present
  · intro pipeline range assignment layer present
    cases absent.symm.trans present
  · intro ticket wallet result source pipeline _ _ present
    cases absent.symm.trans present
  · intro ticket call step pipeline _ _ _ present
    cases absent.symm.trans present

theorem Resumes.of_same {result : OpoiShardResult} (same : SameWalk pipeline counted)
    (resumes : Resumes counted result) : Resumes pipeline result := by
  rcases resumes with ⟨layerIdx, shard, layer, found, routes⟩
  rw [same.shards, same.pos] at found
  rw [same.totalLayers] at routes
  exact ⟨layerIdx, shard, layer, found, routes⟩

theorem SameWalk.symm (same : SameWalk pipeline counted) : SameWalk counted pipeline :=
  ⟨same.shards.symm, same.groups.symm, same.totalLayers.symm, same.pos.symm,
    same.tokenIndex.symm, same.walk.symm⟩

/-- An event that leaves a request's pipeline where it is, and adds neither
handlers nor assignments. -/
theorem Walking.kept (walking : Walking requestId engine trail)
    (same : after.pipelines requestId = engine.pipelines requestId)
    (fewer : after.assignments requestId = engine.assignments requestId ∨
      after.assignments requestId = none)
    (calls : ∀ ticket call, call.requestId = requestId → after.calls ticket = some call →
      engine.calls ticket = some call) : Walking requestId after trail := by
  constructor
  · exact walking.lawful
  · rw [same]
    exact walking.onWalk
  · rw [same]
    intro pipeline range present here routed resting
    obtain ⟨quiet, stale⟩ := walking.opened pipeline range present here routed resting
    constructor
    · exact fun ticket call parked about => quiet ticket call (calls ticket call about parked) about
    · intro assignment now
      rcases fewer with equal | gone
      · exact stale assignment (equal.symm.trans now)
      · cases gone.symm.trans now
  · rw [same]
    intro pipeline range assignment layer present here resting now isLayer
    rcases fewer with equal | gone
    · exact walking.leftover pipeline range assignment layer present here resting
        (equal.symm.trans now) isLayer
    · cases gone.symm.trans now
  · rw [same]
    intro ticket wallet result source pipeline parked about
    exact walking.finishing ticket wallet result source pipeline (calls _ _ about parked) about
  · rw [same]
    intro ticket call step pipeline parked isStep about
    exact walking.stepping ticket call step pipeline (calls _ _ about parked) isStep about

/-- A parked handler goes on to its next call, or ends, with its pipeline still
at the same layer. -/
theorem Walking.handled (walking : Walking requestId engine trail)
    (orderly : engine.Orderly requestId) (parked : engine.calls ticket = some call)
    (about : call.requestId = requestId) {reparked : Option Call}
    (calls : after.calls = setCall engine.calls ticket reparked)
    (present : engine.pipelines requestId = some pipeline) (same : SameWalk pipeline counted)
    (stored : ∀ later, after.pipelines requestId = some later → later = counted)
    (marked : ∀ assignment, after.assignments requestId = some assignment →
      pipeline.moeLayerWalk ≠ none)
    (finishing : ∀ wallet result source, reparked = some (.submitting wallet result source) →
      ¬ Resumes counted result)
    (stepping : ∀ next step, reparked = some next → next.step? = some step →
      StepAt counted step) : Walking requestId after trail := by
  have only : ∀ other left, after.calls other = some left → left.requestId = requestId →
      reparked = some left := by
    intro other left found own
    rw [calls, setCall] at found
    by_cases here : other = ticket
    · subst here
      rwa [Function.update_self] at found
    · rw [Function.update_of_ne here] at found
      exact absurd (orderly.single other ticket left call found own parked about) here
  constructor
  · exact walking.lawful
  · intro later present'
    cases stored later present'
    obtain ⟨left, isTrail, on⟩ := walking.onWalk pipeline present
    exact ⟨left, isTrail, on.same same⟩
  · intro later range present' here routed resting
    cases stored later present'
    rw [same.here?] at here
    rw [same.walk] at resting
    exact absurd about ((walking.opened pipeline range present here routed resting).1 _ _ parked)
  · intro later range assignment layer present' _ resting now
    cases stored later present'
    rw [same.walk] at resting
    exact absurd resting (marked assignment now)
  · intro other wallet result source later found own present'
    cases stored later present'
    exact finishing wallet result source (only _ _ found own)
  · intro other left step later found isStep own present'
    cases stored later present'
    exact stepping left step (only _ _ found own) isStep

/-- A pipeline is dispatched, and no handler is parked. -/
theorem walking_dispatched {registry : MinerRegistry} {last : Option Wallet}
    {source : ModelSource} {assigned : Option ShardAssignment} {left : Trail}
    (on : OnWalk pipeline left) (lawful : left.Lawful)
    (connected : ∀ layer wallet, pipeline.moeLayerWalk = some (layer, wallet) →
      registry.Registered wallet)
    (stale : ∀ assignment, assigned = some assignment → ∃ layer,
      assignment.moeLayerStep = some layer ∧ ∀ range, pipeline.here? = some range →
        pipeline.moeLayerWalk = none → layer < range.bounds.1)
    (stored : after.pipelines requestId = dispatched registry last pipeline)
    (made : after.assignments requestId = assignedBy registry last assigned pipeline)
    (quiet : after.Quiet requestId) :
    Walking requestId after (some (left.add
      ((dispatchLines registry last requestId source pipeline).flatMap
        (markOf engine requestId)))) := by
  rcases dispatches engine requestId on lawful connected last assigned source with
    ⟨dispatchedTo, isDispatched, done⟩
  constructor
  · rintro _ ⟨⟩
    exact done.lawful
  · intro later present
    cases (stored.trans isDispatched).symm.trans present
    exact ⟨_, rfl, done.onWalk⟩
  · intro later range present here routed resting
    cases (stored.trans isDispatched).symm.trans present
    refine ⟨quiet, fun assignment now => ?_⟩
    rw [made, done.unopened range here routed resting] at now
    obtain ⟨layer, isLayer, -⟩ := stale assignment now
    simp [isLayer]
  · intro later range assignment layer present here resting now isLayer
    cases (stored.trans isDispatched).symm.trans present
    obtain ⟨same, before⟩ := done.leftover assignment layer resting (made.symm.trans now) isLayer
    subst same
    obtain ⟨past, isPast, below⟩ := stale assignment before
    cases isLayer.symm.trans isPast
    exact below range here resting
  · intro ticket wallet result source later parked about
    exact absurd about (quiet _ _ parked)
  · intro ticket call step later parked _ about
    exact absurd about (quiet _ _ parked)

/-- A parked handler was given the layer its pipeline awaits. -/
theorem Handles.moeLayerStep (handles : engine.Handles requestId pipeline ticket call) :
    call.result.moeLayerStep = pipeline.moeLayerWalk.map Prod.fst := by
  obtain ⟨shard, -, key⟩ := Option.map_eq_some_iff.mp handles.step
  exact (congrArg StepKey.moeLayerStep key).symm

/-- While a handler is parked, an assignment is a placeholder for a layer of a walk. -/
theorem Handles.walks (handles : engine.Handles requestId pipeline ticket call)
    {assignment : ShardAssignment} (assigned : engine.assignments requestId = some assignment) :
    pipeline.moeLayerWalk ≠ none := by
  obtain ⟨-, layer, waits⟩ := handles.placeholder assignment assigned
  intro resting
  rw [PipelineState.stepKey?, resting, Option.map_eq_some_iff] at waits
  obtain ⟨shard, -, key⟩ := waits
  exact layer (congrArg StepKey.moeLayerStep key).symm

/-- An assignment for the step a pipeline waits for is for the layer it awaits. -/
theorem moeLayerStep_of_waits {assignment : ShardAssignment} {layer : Nat} {wallet : Wallet}
    (waits : pipeline.stepKey? = some assignment.stepKey)
    (walk : pipeline.moeLayerWalk = some (layer, wallet)) :
    assignment.moeLayerStep = some layer := by
  obtain ⟨shard, -, key⟩ := Option.map_eq_some_iff.mp waits
  rw [walk] at key
  exact (congrArg StepKey.moeLayerStep key).symm

/-- Where layers are walked, a request with a parked handler is on its walk. -/
theorem Walking.exists_walk (walking : Walking requestId engine trail)
    (parked : engine.calls ticket = some call) (about : call.requestId = requestId)
    (present : engine.pipelines requestId = some pipeline) {range : LayerRange}
    (here : pipeline.here? = some range) (routed : range.routed = true) :
    ∃ layer wallet, pipeline.moeLayerWalk = some (layer, wallet) := by
  cases walk : pipeline.moeLayerWalk with
  | some at_layer => exact ⟨_, _, rfl⟩
  | none =>
      exact absurd about ((walking.opened pipeline range present here routed walk).1 _ _ parked)

/-- Where an expert step stands in the range of its pipeline. -/
structure Stands (pipeline : PipelineState) (step : ExpertStep) (range : LayerRange)
    (wallet : Wallet) : Prop where
  here : pipeline.here? = some range
  walk : pipeline.moeLayerWalk = some (step.layerIdx, wallet)
  bounds : (step.layerStart, step.layerEnd) = range.bounds
  token : step.tokenIndex = pipeline.tokenIndex
  before : step.layerIdx < range.bounds.2
  interior : step.interior = true →
    step.layerIdx + 1 = range.bounds.2 → range.bounds.2 = pipeline.manifest.numLayers
  boundary : step.interior = false →
    step.layerIdx + 1 = range.bounds.2 ∧ range.bounds.2 ≠ pipeline.manifest.numLayers

theorem Walking.stands (walking : Walking requestId engine trail)
    (orderly : engine.Orderly requestId) {step : ExpertStep}
    (parked : engine.calls ticket = some call) (isStep : call.step? = some step)
    (sameResult : call.result = step.result) (about : call.requestId = requestId)
    (present : engine.pipelines requestId = some pipeline) {left : Trail}
    (on : OnWalk pipeline left) : ∃ range wallet, Stands pipeline step range wallet := by
  rcases walking.stepping ticket call step pipeline parked isStep about present with
    ⟨⟨shard, place⟩, grouped, resumes⟩
  obtain ⟨_, found, handles⟩ := orderly.handled ticket call parked about
  cases present.symm.trans found
  have here := here?_of_shard place.found
  obtain ⟨layer, wallet, walk⟩ := walking.exists_walk parked about present here grouped
  have asked : step.result.moeLayerStep = some layer := by
    rw [← sameResult, handles.moeLayerStep, walk]
    rfl
  have isLayer : step.layerIdx = layer := by
    rw [place.layerIdx, asked, Option.getD_some]
  subst isLayer
  have inside := on.inside step.layerIdx wallet _ walk here
  obtain ⟨nonempty, total⟩ := on.bounds here
  have routes : Resumes pipeline step.result ↔
      resumesShard step.layerIdx (layerRange shard).2 pipeline.manifest.numLayers = true := by
    constructor
    · rintro ⟨layerIdx, other, sameLayer, sameShard, routed⟩
      cases asked.symm.trans sameLayer
      cases place.found.symm.trans sameShard
      exact routed
    · exact fun routed => ⟨step.layerIdx, shard, asked, place.found, routed⟩
  rw [routes] at resumes
  simp only [resumesShard, decide_eq_true_eq] at resumes
  have le_last := inside.le_last
  have finalizing := inside.finalizing
  dsimp only at nonempty total le_last finalizing
  have early : step.interior = false → (layerRange shard).2 ≠ pipeline.manifest.numLayers := by
    intro isBoundary same
    have more := (handles.experts step isStep).2 isBoundary
    have last := total.mp same
    omega
  refine ⟨_, wallet, here, walk, Prod.ext place.layerStart place.layerEnd, place.tokenIndex,
    ?_, ?_, ?_⟩
  · cases isInterior : step.interior with
    | true =>
        have routed := resumes.mp isInterior
        show step.layerIdx < (layerRange shard).2
        omega
    | false =>
        have notTotal := early isInterior
        show step.layerIdx < (layerRange shard).2
        omega
  · intro isInterior last
    have routed := resumes.mp isInterior
    show (layerRange shard).2 = _
    dsimp only at last
    omega
  · intro isBoundary
    have notTotal := early isBoundary
    have notRouted : ¬ step.interior = true := by simp [isBoundary]
    rw [resumes] at notRouted
    refine ⟨?_, notTotal⟩
    show step.layerIdx + 1 = (layerRange shard).2
    omega

@[simp]
theorem Trail.add_nil (left : Trail) : left.add [] = left := by
  simp [Trail.add]

theorem Trail.add_append (left : Trail) (marks more : List Mark) :
    left.add (marks ++ more) = (left.add marks).add more := by
  simp [Trail.add]

/-- A result applied directly takes a token on the last shard. -/
theorem markOf_advanced (parked : engine.calls ticket = some call)
    (notJoining : ∀ step, call ≠ .joining step)
    (present : engine.pipelines requestId = some pipeline) (about : RequestId) :
    markOf engine requestId (.advanced ticket about) =
      if pipeline.pos + 1 = pipeline.shards.length then
        [.took pipeline.tokenIndex call.result.moeLayerStep]
      else
        [] := by
  cases call with
  | joining step => exact absurd rfl (notJoining step)
  | _ => simp only [markOf, parked, present]

/-- A result that does not resume its shard completes the model's last range,
with the token it carries. -/
theorem Walking.takes (walking : Walking requestId engine trail)
    (orderly : engine.Orderly requestId) (parked : engine.calls ticket = some call)
    (about : call.requestId = requestId) (present : engine.pipelines requestId = some pipeline)
    {left : Trail} (on : OnWalk pipeline left) {range : LayerRange}
    (here : pipeline.here? = some range) (last : pipeline.pos + 1 = pipeline.shards.length)
    (finishes : ¬ Resumes pipeline call.result) :
    pipeline.layersDone ++ [.took pipeline.tokenIndex call.result.moeLayerStep] =
      rangeSteps pipeline.manifest.numLayers pipeline.tokenIndex range := by
  obtain ⟨_, found, handles⟩ := orderly.handled ticket call parked about
  cases present.symm.trans found
  have total := (on.bounds here).2.mpr last
  rw [handles.moeLayerStep]
  apply on.token_done here total
  intro routed
  obtain ⟨layer, wallet, walk⟩ := walking.exists_walk parked about present here routed
  have inside := (on.inside layer wallet range walk here).le_last
  rcases on.exists_shard with ⟨shard, atPos⟩
  cases here.symm.trans (here?_of_shard atPos)
  by_cases final : layer = (layerRange shard).2
  · exact ⟨wallet, final ▸ walk⟩
  · refine absurd ⟨layer, shard, by rw [handles.moeLayerStep, walk]; rfl, atPos, ?_⟩ finishes
    simp only [resumesShard, decide_eq_true_eq]
    dsimp only at total inside
    omega

/-- The look-up of experts keeps a request on its walk. -/
theorem Walking.looksUp (walking : Walking requestId engine trail)
    (orderly : engine.Orderly requestId) (parked : engine.calls ticket = some call)
    (about : call.requestId = requestId) {result : OpoiShardResult}
    (present : engine.pipelines requestId = some pipeline) (same : SameWalk pipeline counted)
    {interior : Bool} {wallet : Wallet} {source : ModelSource} {expertIds : List Nat}
    {layerIdx : Nat} (group : counted.expertGroupFor counted.pos = some expertIds)
    (routes : interior = true ↔ Resumes counted result) {reparked : Option Call}
    (sizes : ∀ step, reparked = some (.sizing step) → ∃ shard, StepPlace counted step shard)
    (calls : after.calls = setCall engine.calls ticket reparked)
    (vacant : after.assignments requestId = none)
    (outcome : ExpertOutcome interior wallet result source expertIds layerIdx counted
      (after.pipelines requestId) reparked emitted) :
    Walking requestId after
      (trail.map fun left => left.add (emitted.flatMap (markOf engine requestId))) := by
  have handled : after.pipelines requestId = some counted →
      (∀ next step, reparked = some next → next.step? = some step → StepAt counted step) →
      (∀ wallet result source, reparked ≠ some (.submitting wallet result source)) →
        Walking requestId after trail := by
    intro stored stepping notSubmitting
    apply walking.handled orderly parked about calls present same
    · exact fun later now => Option.some.inj (now.symm.trans stored)
    · exact fun assignment now => by cases vacant.symm.trans now
    · exact fun wallet result source now => absurd now (notSubmitting wallet result source)
    · exact stepping
  generalize kept : after.pipelines requestId = later at outcome handled
  cases outcome with
  | absent verdict => simpa [markOf] using handled rfl (by simp) (by simp)
  | malformed verdict =>
      apply walking_of_none kept
      intro left isTrail
      simp only [List.flatMap_singleton, markOf, Trail.add_nil, Option.map_id'] at isTrail
      exact walking.lawful left isTrail
  | panicked outside => simpa [markOf] using handled rfl (by simp) (by simp)
  | @sizing step isInterior sameWallet sameResult sameSource sameLayer verdict =>
      simp only [List.flatMap_nil, Trail.add_nil, Option.map_id']
      apply handled rfl _ (by simp)
      rintro _ _ ⟨⟩ ⟨⟩
      refine ⟨sizes step rfl, by rw [group]; rfl, ?_⟩
      rw [isInterior, sameResult]
      exact routes

/-- The completion of a step keeps a request on its walk. -/
theorem Walking.completes (walking : Walking requestId engine trail)
    (orderly : engine.Orderly requestId) (parked : engine.calls ticket = some call)
    (about : call.requestId = requestId) (notJoining : ∀ step, call ≠ .joining step)
    {result : OpoiShardResult} (ofResult : call.result = result)
    (present : engine.pipelines requestId = some pipeline) (same : SameWalk pipeline counted)
    (finishes : ¬ Resumes pipeline result) {reparked : Option Call}
    (sizes : ∀ step, reparked = some (.sizing step) → ∃ shard, StepPlace counted step shard)
    (calls : after.calls = setCall engine.calls ticket reparked)
    {registry : MinerRegistry} {last : Option Wallet} {wallet : Wallet} {source : ModelSource}
    {lastToken stored : Bool}
    (outcome : StepOutcome sha256 registry last (engine.assignments requestId) ticket wallet
      result source lastToken stored counted (after.pipelines requestId)
      (after.assignments requestId) reparked emitted) :
    Walking requestId after
      (trail.map fun left => left.add (emitted.flatMap (markOf engine requestId))) := by
  obtain ⟨left, rfl, on⟩ := walking.onWalk pipeline present
  have lawful := walking.lawful left rfl
  have onCounted := on.same same
  have sameId : result.requestId = requestId := by rw [← ofResult]; exact about
  have advances := markOf_advanced parked notJoining present result.requestId
  rw [ofResult, ← same.pos, ← same.shards, ← same.tokenIndex] at advances
  rcases onCounted.exists_here with ⟨range, here⟩
  have takes : counted.pos + 1 = counted.shards.length →
      counted.layersDone ++ [.took counted.tokenIndex result.moeLayerStep] =
        rangeSteps counted.manifest.numLayers counted.tokenIndex range := by
    intro lastShard
    rw [same.pos, same.shards] at lastShard
    rw [same.here?] at here
    rw [same.layersDone, same.tokenIndex, same.totalLayers, ← ofResult]
    exact walking.takes orderly parked about present on here lastShard (by rwa [ofResult])
  have vacant := orderly.unassigned parked about notJoining
  rw [vacant] at outcome
  have quiet : reparked = none → after.Quiet requestId := fun ended =>
    orderly.quiet_of_ended parked about (ended ▸ calls)
  generalize kept : after.pipelines requestId = later at outcome
  generalize made : after.assignments requestId = assigned at outcome
  cases outcome with
  | unanswered lastShard answer =>
      apply walking_of_none kept
      rintro _ ⟨⟩
      simpa [markOf] using lawful
  | finalized lastShard answer isLast wins =>
      apply walking_of_none kept
      rintro _ ⟨⟩
      rw [List.flatMap_cons, advances, if_pos lastShard]
      exact onCounted.takes_lawful lawful here (takes lastShard)
  | unattributed lastShard answer isLast nobody =>
      apply walking_of_none kept
      rintro _ ⟨⟩
      rw [List.flatMap_cons, advances, if_pos lastShard]
      exact onCounted.takes_lawful lawful here (takes lastShard)
  | nextToken lastShard answer notLast =>
      rw [Option.map_some, List.flatMap_cons, advances, if_pos lastShard, Trail.add_append, sameId]
      exact walking_dispatched
        (onCounted.nextToken here (by simp [Mark.isStep]) (takes lastShard) lastShard _)
        (onCounted.takes_lawful lawful here (takes lastShard)) (fun _ _ walk => by cases walk)
        (fun _ now => by cases now) kept made (quiet rfl)
  | nextShard notLastShard dense =>
      have unrouted : range.routed = false := by
        rcases onCounted.exists_shard with ⟨shard, found⟩
        cases here.symm.trans (here?_of_shard found)
        simp [dense]
      have done := onCounted.plain_done here unrouted
        (fun total => notLastShard ((onCounted.bounds here).2.mp total))
      rw [Option.map_some, List.flatMap_cons, advances, if_neg notLastShard, Trail.add_append,
        sameId]
      exact walking_dispatched (onCounted.nextShard here (by simp) done notLastShard _)
        (by rwa [Trail.add_nil]) (fun _ _ walk => by cases walk) (fun _ now => by cases now)
        kept made (quiet rfl)
  | experts notLastShard group outcome =>
      have routes : false = true ↔ Resumes counted result :=
        ⟨fun isTrue => (Bool.false_ne_true isTrue).elim,
          fun resumes => (finishes (resumes.of_same same)).elim⟩
      rw [← kept] at outcome
      exact walking.looksUp orderly parked about present same group routes sizes calls made outcome

/-- A result that is accepted answers a step of the walk, and is handled. -/
theorem Walking.accepted (walking : Walking requestId engine trail) {assignment : ShardAssignment}
    (assigned : engine.assignments requestId = some assignment)
    (accepts : assignment.moeLayerStep ≠ none → ∀ pipeline,
      engine.pipelines requestId = some pipeline → pipeline.moeLayerWalk ≠ none)
    (stored : after.pipelines requestId = engine.pipelines requestId)
    (vacant : after.assignments requestId = none) {wallet : Wallet} {result : OpoiShardResult}
    (calls : after.calls = setCall engine.calls ticket (some (.resolving wallet result))) :
    Walking requestId after trail := by
  have old : ∀ {other left}, (∀ wallet result, left ≠ .resolving wallet result) →
      after.calls other = some left → engine.calls other = some left := by
    intro other left notNew now
    rw [calls, setCall] at now
    by_cases here : other = ticket
    · subst here
      rw [Function.update_self] at now
      exact absurd (Option.some.inj now).symm (notNew wallet result)
    · rwa [Function.update_of_ne here] at now
  constructor
  · exact walking.lawful
  · rw [stored]
    exact walking.onWalk
  · rw [stored]
    intro current range present here routed resting
    have stale := (walking.opened current range present here routed resting).2 _ assigned
    exact absurd resting (accepts stale current present)
  · intro current range leftover layer _ _ _ now
    cases vacant.symm.trans now
  · rw [stored]
    intro other wallet result source current now own
    exact walking.finishing other wallet result source current (old (by simp) now) own
  · rw [stored]
    intro other left step current now isStep own
    refine walking.stepping other left step current (old ?_ now) isStep own
    rintro wallet result rfl
    cases isStep

/-- Every event that meets the premises, and accepts no result for a walk that
is over, keeps a request on its walk. -/
theorem Walking.next (walking : Walking requestId engine trail)
    (sequential : engine.SequentialAt requestId) (enabled : engine.enabled stimulus)
    (premises : engine.WalkPremises stimulus) (answers : engine.AnswersWalk requestId stimulus) :
    Walking requestId (next sha256 engine stimulus)
      (trailNext sha256 requestId engine trail stimulus) := by
  have orderly := sequential.orderly
  have change := next_change_sent sha256 enabled sequential.fresh requestId
  have connected := premises.connected requestId
  unfold trailNext
  generalize sent sha256 engine stimulus requestId = emitted at change ⊢
  generalize before : engine.pipelines requestId = earlier at change
  generalize kept : (ShardEngine.next sha256 engine stimulus).pipelines requestId = later
    at change ⊢
  generalize made : (ShardEngine.next sha256 engine stimulus).assignments requestId = assigned
    at change
  generalize moved : (ShardEngine.next sha256 engine stimulus).calls = calls at change
  have ended : ∀ {ticket call}, engine.calls ticket = some call → call.requestId = requestId →
      calls = setCall engine.calls ticket none →
        (ShardEngine.next sha256 engine stimulus).Quiet requestId :=
    fun parked about replaced => orderly.quiet_of_ended parked about (moved.trans replaced)
  have begins : .started requestId ∈ emitted →
      ∃ eligible, engine.Claims requestId eligible stimulus.event :=
    fun starts => change.claims_of_started (.inl starts)
  have goesOn : .started requestId ∉ emitted →
      Walking requestId (ShardEngine.next sha256 engine stimulus)
        (trail.map fun left => left.add (emitted.flatMap (markOf engine requestId))) →
      Walking requestId (ShardEngine.next sha256 engine stimulus)
        (if .started requestId ∈ emitted then
          later.map fun pipeline =>
            ⟨pipeline.manifest.numLayers, pipeline.plan,
              emitted.flatMap (markOf engine requestId)⟩
        else
          trail.map fun left => left.add (emitted.flatMap (markOf engine requestId))) := by
    intro absent marked
    rw [if_neg absent]
    exact marked
  have unmarked : emitted.flatMap (markOf engine requestId) = [] →
      Walking requestId (ShardEngine.next sha256 engine stimulus) trail →
        Walking requestId (ShardEngine.next sha256 engine stimulus)
          (trail.map fun left => left.add (emitted.flatMap (markOf engine requestId))) := by
    intro nothing same
    simp only [nothing, Trail.add_nil, Option.map_id']
    exact same
  have same : later = earlier → (assigned = engine.assignments requestId ∨ assigned = none) →
      calls = engine.calls → Walking requestId (ShardEngine.next sha256 engine stimulus) trail :=
    fun stored fewer unmoved => walking.kept (kept.trans (stored.trans before.symm))
      (by rwa [made]) (fun ticket call _ now => unmoved ▸ moved ▸ now)
  have stays : ∀ {ticket call pipeline counted}, engine.calls ticket = some call →
      call.requestId = requestId → calls = setCall engine.calls ticket none →
        earlier = some pipeline → SameWalk pipeline counted → later = some counted →
          (∀ assignment, assigned = some assignment → pipeline.moeLayerWalk ≠ none) →
            Walking requestId (ShardEngine.next sha256 engine stimulus) trail := by
    intro ticket call pipeline counted parked about replaced present same stored marked
    apply walking.handled orderly parked about (moved.trans replaced) (before.trans present) same
    · exact fun other now => Option.some.inj (now.symm.trans (kept.trans stored))
    · exact fun assignment now => marked assignment (made.symm.trans now)
    · simp
    · simp
  have halts : ∀ {ticket call}, engine.calls ticket = some call → call.requestId = requestId →
      later = earlier → (assigned = engine.assignments requestId ∨ assigned = none) →
        calls = setCall engine.calls ticket none →
          Walking requestId (ShardEngine.next sha256 engine stimulus) trail := by
    intro ticket call parked about stored fewer replaced
    obtain ⟨pipeline, present, handles⟩ := orderly.handled ticket call parked about
    have found := before.symm.trans present
    apply stays parked about replaced found (.refl _) (stored.trans found)
    intro assignment now
    rcases fewer with equal | gone
    · exact handles.walks (equal.symm.trans now)
    · cases gone.symm.trans now
  have parks : ∀ {ticket step}, calls = setCall engine.calls ticket (some (.sizing step)) →
      (ShardEngine.next sha256 engine stimulus).calls ticket = some (.sizing step) := by
    intro ticket step joined
    rw [moved, joined, setCall, Function.update_self]
  have leaves : later = none → Walking requestId (ShardEngine.next sha256 engine stimulus) trail :=
    fun gone => walking_of_none (kept.trans gone) walking.lawful
  cases change with
  | idle fewer same =>
      apply goesOn (by simp) (unmarked rfl _)
      exact walking.kept (kept.trans before.symm) (by rwa [made])
        (fun ticket call about now => (same ticket call about).mp (moved ▸ now))
  | rejected about => exact goesOn (by simp) (unmarked rfl (same rfl (.inl rfl) rfl))
  | orphaned about assigned => exact goesOn (by simp) (unmarked rfl (same rfl (.inr rfl) rfl))
  | delegated polling about => exact goesOn (by simp) (unmarked rfl (same rfl (.inl rfl) rfl))
  | @accepted registry wallet result pipeline about assigned =>
      have accepts := answers wallet result rfl about (about ▸ assigned)
      rw [about] at accepts
      exact goesOn (by simp) (unmarked rfl
        (walking.accepted assigned accepts (kept.trans before.symm) made moved))
  | unresolved parked about =>
      exact goesOn (by simp) (unmarked rfl (halts parked about rfl (.inl rfl) rfl))
  | lost parked about quiet =>
      rcases quiet with rfl | rfl
      · exact goesOn (by simp) (unmarked rfl (leaves rfl))
      · exact goesOn (by simp) (unmarked rfl (leaves rfl))
  | misplaced parked about outside =>
      have vacant := orderly.unassigned parked about (by simp)
      exact goesOn (by simp) (unmarked rfl
        (stays parked about rfl rfl (sameWalk_contribute ..) rfl
          fun _ now => by cases vacant.symm.trans now))
  | ungrouped parked about resumes dense => exact goesOn (by simp) (unmarked rfl (leaves rfl))
  | @interior registry ticket source wallet result pipeline shard layerIdx expertIds _ call _
      parked about layer found resumes group outcome =>
      have sizes : ∀ step, call = some (.sizing step) →
          ∃ shard, StepPlace (contribute wallet pipeline) step shard := by
        rintro step rfl
        exact resumeResolved_sizing parked (about ▸ before) (parks rfl)
      have routes : true = true ↔ Resumes (contribute wallet pipeline) result :=
        ⟨fun _ => ⟨layerIdx, shard, layer, found, resumes⟩, fun _ => rfl⟩
      apply goesOn
      · cases outcome <;> simp
      · exact walking.looksUp orderly parked about before (sameWalk_contribute ..) group routes
          sizes moved (made.trans (orderly.unassigned parked about (by simp))) (kept ▸ outcome)
  | submitting parked about lastToken finishes =>
      apply goesOn (by simp) (unmarked rfl _)
      apply walking.handled orderly parked about moved before (sameWalk_contribute ..)
      · exact fun other now => Option.some.inj (now.symm.trans kept)
      · have vacant := orderly.unassigned parked about (by simp)
        exact fun _ now => by cases vacant.symm.trans (made.symm.trans now)
      · rintro _ _ _ ⟨⟩ resumes
        exact finishes (resumes.of_same (sameWalk_contribute ..))
      · rintro _ _ ⟨⟩ isStep
        cases isStep
  | @completed registry ticket source wallet result pipeline _ _ call _ parked about notLastToken
      outcome finishes =>
      have sizes : ∀ step, call = some (.sizing step) →
          ∃ shard, StepPlace (contribute wallet pipeline) step shard := by
        rintro step rfl
        exact resumeResolved_sizing parked (about ▸ before) (parks rfl)
      apply goesOn
      · intro starts
        obtain ⟨_, claims, -⟩ := begins starts
        cases claims
      · exact walking.completes orderly parked about (by simp) rfl before
          (sameWalk_contribute ..) finishes sizes moved (kept ▸ made ▸ outcome)
  | unsubmitted parked about =>
      exact goesOn (by simp) (unmarked rfl (halts parked about rfl (.inl rfl) rfl))
  | @submitted registry ticket stored wallet result source pipeline _ _ call _ parked about
      outcome =>
      have finishes := walking.finishing ticket wallet result source pipeline parked about before
      have sizes : ∀ step, call = some (.sizing step) → ∃ shard, StepPlace pipeline step shard := by
        rintro step rfl
        exact resumeSubmitted_sizing parked (about ▸ before) (parks rfl)
      apply goesOn
      · intro starts
        obtain ⟨_, claims, -⟩ := begins starts
        cases claims
      · exact walking.completes orderly parked about (by simp) rfl before (.refl _) finishes sizes
          moved (kept ▸ made ▸ outcome)
  | @sized registry ticket minVramMb step pipeline parked about =>
      obtain ⟨current, present, -⟩ := orderly.handled _ _ parked about
      apply goesOn (by simp) (unmarked rfl _)
      apply walking.handled orderly parked about moved present (.refl current)
      · exact fun other now => Option.some.inj
          (now.symm.trans (kept.trans (before.symm.trans present)))
      · intro assignment now
        rw [made, orderly.unassigned parked about (by simp), markedBy, ← before, present] at now
        split at now
        · rename_i layer pinned walk
          exact ne_of_eq_of_ne walk (Option.some_ne_none _)
        · cases now
      · simp
      · rintro _ _ ⟨⟩ ⟨⟩
        exact walking.stepping ticket _ step current parked rfl about present
  | unjoined parked about =>
      exact goesOn (by simp) (unmarked rfl (halts parked about rfl (.inr rfl) rfl))
  | abandoned parked about =>
      exact goesOn (by simp) (unmarked rfl (halts parked about rfl (.inl rfl) rfl))
  | @walked registry ticket output step pipeline parked about isInterior =>
      obtain ⟨left, rfl, on⟩ := walking.onWalk pipeline before
      obtain ⟨current, present, handles⟩ := orderly.handled _ _ parked about
      obtain ⟨range, wallet, stands⟩ := walking.stands orderly parked rfl rfl about before on
      have combined : markOf engine requestId (.walked ticket requestId) =
          [.combined pipeline.tokenIndex range.bounds step.layerIdx] := by
        simp only [markOf, parked, stands.bounds, stands.token]
      apply goesOn (by simp)
      rw [Option.map_some, List.flatMap_cons, combined, Trail.add_append]
      apply walking_dispatched
        (on.nextLayer stands.walk stands.here stands.before (stands.interior isInterior) output)
        (on.combines_lawful (walking.lawful left rfl) stands.walk stands.here stands.before) _ _
        kept made (ended parked about rfl)
      · intro layer pinned walk
        simp only [nextLayer, stands.walk, Option.map_some, Option.some.injEq, Prod.mk.injEq]
          at walk
        rcases walk with ⟨-, rfl⟩
        exact connected pipeline step.layerIdx wallet before stands.walk
      · intro assignment now
        obtain ⟨layer, isLayer⟩ :=
          Option.ne_none_iff_exists'.mp (handles.placeholder assignment now).2.1
        refine ⟨layer, isLayer, fun _ _ resting => ?_⟩
        simp only [nextLayer, stands.walk, Option.map_some] at resting
        cases resting
  | @handedOver registry ticket output step pipeline parked about isBoundary =>
      obtain ⟨left, rfl, on⟩ := walking.onWalk pipeline before
      obtain ⟨current, present, handles⟩ := orderly.handled _ _ parked about
      cases before.symm.trans present
      obtain ⟨range, wallet, stands⟩ := walking.stands orderly parked rfl rfl about before on
      obtain ⟨lastLayer, notTotal⟩ := stands.boundary isBoundary
      have combined : markOf engine requestId (.advanced ticket requestId) =
          [.combined pipeline.tokenIndex range.bounds step.layerIdx] := by
        simp only [markOf, parked, stands.bounds, stands.token]
      have notLast := (handles.experts step rfl).notLast isBoundary
      apply goesOn (by simp)
      rw [Option.map_some, List.flatMap_cons, combined, Trail.add_append]
      apply walking_dispatched
        (on.nextShard stands.here (by simp [Mark.isStep])
          (on.boundary_done stands.walk stands.here lastLayer notTotal) (Nat.ne_of_lt notLast)
          output)
        (on.combines_lawful (walking.lawful left rfl) stands.walk stands.here stands.before)
        (fun _ _ walk => by cases walk) _ kept made (ended parked about rfl)
      -- The placeholder is for the last layer of the range that is left.
      intro assignment now
      obtain ⟨-, -, waits⟩ := handles.placeholder assignment now
      refine ⟨step.layerIdx, moeLayerStep_of_waits waits stands.walk, fun later found _ => ?_⟩
      have past := on.tiles.last_le (Nat.lt_succ_self pipeline.pos) stands.here found
      have before := stands.before
      omega
  | redispatched polling =>
      obtain ⟨left, rfl, on⟩ := walking.onWalk _ before
      rcases sequential.polls.waiting requestId (by simp [polling, Poll.stalled]) with
        ⟨quiet, unassigned⟩
      rw [unassigned] at made
      apply goesOn (by simp)
      exact walking_dispatched on (walking.lawful left rfl)
        (fun layer wallet walk => connected _ layer wallet before walk)
        (fun _ now => by cases now) kept made
        (fun ticket call parked => quiet ticket call (moved ▸ parked))
  | @started registry req rest manifest promptHex graph source _ polling about =>
      have absent := sequential.clear _ (by rw [polling]; rfl)
      rw [about] at absent
      obtain ⟨quiet, unassigned⟩ := orderly.bare absent
      rw [unassigned] at made
      have tiles := premises.tiled _ _ _ _ _ _ _ _ rfl polling
      have on : OnWalk (initialPipeline req manifest graph promptHex) ⟨_, _, []⟩ :=
        onWalk_initial (sequential.polls.dense _ _ _ _ _ _ polling) tiles
      have lawful := Trail.lawful_nil manifest.numLayers
        (initialPipeline req manifest graph promptHex).plan
      have connectedToo : ∀ layer wallet,
          (initialPipeline req manifest graph promptHex).moeLayerWalk = some (layer, wallet) →
            registry.Registered wallet := fun _ _ walk => by cases walk
      rcases dispatches engine requestId on lawful connectedToo engine.lastAssigned none source with
        ⟨begun, isBegun, done⟩
      rw [if_pos List.mem_cons_self, isBegun, Option.map_some, ← done.onWalk.plan,
        ← done.onWalk.totalLayers]
      exact walking_dispatched on lawful connectedToo (fun _ now => by cases now) kept made
        (fun ticket call parked => quiet ticket call (moved ▸ parked))

end Step

end ShardEngine

end StratumBridge.Shard
