import StratumBridge.Shard.Intake

/-!
# The order of shard steps

An assignment is removed when its result is accepted, long before the result is
applied, and the tick takes a request without an assignment for stalled.  While
nothing is dispatched or accepted for a request that has a handler parked, its
steps are applied once each and in order; two handlers of one request, or a
dispatch next to a parked handler, skip shards.
-/

namespace StratumBridge.Shard

open Data Rpc Wire Transition

/-- What a result and an assignment are matched by, the wallet aside. -/
structure StepKey where
  shardIndex : Nat
  tokenIndex : Nat
  moeLayerStep : Option Nat
  deriving DecidableEq

/-- The step a pipeline waits for. -/
def PipelineState.stepKey? (pipeline : PipelineState) : Option StepKey :=
  (pipeline.shards[pipeline.pos]?).map fun shard =>
    ⟨shard.shardIndex, pipeline.tokenIndex, pipeline.moeLayerWalk.map Prod.fst⟩

def ShardAssignment.stepKey (assignment : ShardAssignment) : StepKey :=
  ⟨assignment.shardIndex, assignment.tokenIndex, assignment.moeLayerStep⟩

/-- The step a result answers. -/
def answeredStep (result : OpoiShardResult) : StepKey :=
  ⟨result.shardIndex, result.tokenIndex, result.moeLayerStep⟩

/-- The expert step of a call on its way through the experts. -/
def Call.step? : Call → Option ExpertStep
  | sizing step => some step
  | joining step => some step
  | _ => none

/-- The ticket of a result that was applied to its pipeline. -/
def Effect.appliedBy : Effect → Option Ticket
  | advanced ticket _ => some ticket
  | walked ticket _ => some ticket
  | _ => none

namespace ShardEngine

/-- No handler of the request is parked. -/
def Quiet (engine : ShardEngine) (requestId : RequestId) : Prop :=
  ∀ ticket call, engine.calls ticket = some call → call.requestId ≠ requestId

/-- The tickets of the results applied to a request, oldest first. -/
def applied (engine : ShardEngine) (requestId : RequestId) : List Ticket :=
  (engine.history requestId).filterMap Effect.appliedBy

/-- The condition on an event under which steps stay in order: a result is
accepted only while no other is handled, and a layer's result only while layers
are walked; and a tick that begins collects no request with a parked
handler. -/
def Serial (engine : ShardEngine) (stimulus : Stimulus) : Prop :=
  match stimulus.event with
  | .shardResult wallet result =>
      engine.assignments result.requestId =
          some ⟨wallet, result.shardIndex, result.tokenIndex, result.moeLayerStep⟩ →
        engine.Quiet result.requestId ∧
          (result.moeLayerStep ≠ none → ∀ pipeline,
            engine.pipelines result.requestId = some pipeline → pipeline.moeLayerWalk ≠ none)
  | .pollBegin stalled => ∀ requestId ∈ stalled, engine.Quiet requestId
  | _ => True

/-- The same condition for the steps of one request. -/
def SerialAt (requestId : RequestId) (engine : ShardEngine) (stimulus : Stimulus) : Prop :=
  match stimulus.event with
  | .shardResult wallet result =>
      result.requestId = requestId → engine.assignments result.requestId =
          some ⟨wallet, result.shardIndex, result.tokenIndex, result.moeLayerStep⟩ →
        engine.Quiet result.requestId ∧
          (result.moeLayerStep ≠ none → ∀ pipeline,
            engine.pipelines result.requestId = some pipeline → pipeline.moeLayerWalk ≠ none)
  | .pollBegin stalled => ∀ other ∈ stalled, engine.Quiet other
  | _ => True

theorem serialAt_of_serial {engine : ShardEngine} {stimulus : Stimulus}
    (serial : engine.Serial stimulus) (requestId : RequestId) :
    engine.SerialAt requestId stimulus := by
  rcases stimulus with ⟨registry, event⟩
  cases event with
  | shardResult wallet result => exact fun _ => serial
  | pollBegin stalled => exact serial
  | _ => trivial

/-- A tick that begins collects no request with a parked handler. -/
def CollectsQuiet (engine : ShardEngine) (stimulus : Stimulus) : Prop :=
  ∀ stalled, stimulus.event = .pollBegin stalled →
    ∀ requestId ∈ stalled, engine.Quiet requestId

theorem SerialAt.collectsQuiet {engine : ShardEngine} {stimulus : Stimulus}
    {requestId : RequestId} (serial : engine.SerialAt requestId stimulus) :
    engine.CollectsQuiet stimulus := by
  rcases stimulus with ⟨registry, event⟩
  rintro stalled rfl
  exact serial

/-- An output derived from a result: its own, or the join of the experts its
output was sent to. -/
inductive DerivedFrom (engine : ShardEngine) (event : Event) (result : OpoiShardResult) :
    ShardOutputWire → Prop
  | own : DerivedFrom engine event result result.output
  | joined {ticket step output expertIds} (answer : event = .joined ticket (some output))
      (parked : engine.calls ticket = some (.joining step)) (of_result : step.result = result)
      (selected : routerVerdict expertIds result = .selected step.experts) :
      DerivedFrom engine event result output

/-- What one event may do to the place of a pipeline. -/
inductive InOrder (engine : ShardEngine) (requestId : RequestId) (event : Event)
    (pipeline after : PipelineState) : Prop
  | stays (shards : after.shards = pipeline.shards) (pos : after.pos = pipeline.pos)
      (token : after.tokenIndex = pipeline.tokenIndex) :
      InOrder engine requestId event pipeline after
  | nextShard {ticket wallet result output} (shards : after.shards = pipeline.shards)
      (accepted : .accepted ticket wallet result ∈ engine.history requestId)
      (unused : ticket ∉ engine.applied requestId)
      (step : pipeline.stepKey? = some (answeredStep result))
      (derived : DerivedFrom engine event result output)
      (pos : after.pos = pipeline.pos + 1) (token : after.tokenIndex = pipeline.tokenIndex)
      (input : after.currentInput = .tensor output.shape output.dataHex) :
      InOrder engine requestId event pipeline after
  | nextToken {ticket wallet result tokenId} (shards : after.shards = pipeline.shards)
      (accepted : .accepted ticket wallet result ∈ engine.history requestId)
      (unused : ticket ∉ engine.applied requestId)
      (step : pipeline.stepKey? = some (answeredStep result))
      (lastShard : pipeline.pos + 1 = pipeline.shards.length)
      (answer : result.nextTokenId = some tokenId)
      (pos : after.pos = 0) (token : after.tokenIndex = pipeline.tokenIndex + 1)
      (input : after.currentInput = .nextTokenId tokenId) :
      InOrder engine requestId event pipeline after

/-! ## A dispatch keeps the place -/

variable {registry : MinerRegistry} {last : Option Wallet} {assigned : Option ShardAssignment}
variable {pipeline : PipelineState}

theorem dispatched_cases (registry : MinerRegistry) (last : Option Wallet)
    (assigned : Option ShardAssignment) (inside : pipeline.pos < pipeline.shards.length) :
    (dispatched registry last pipeline = none ∧ assignedBy registry last assigned pipeline = none) ∨
      ∃ after, dispatched registry last pipeline = some after ∧ SamePlace pipeline after ∧
        ((after.moeLayerWalk = none ∧ assignedBy registry last assigned pipeline = assigned) ∨
          ∃ assignment, assignedBy registry last assigned pipeline = some assignment ∧
            after.stepKey? = some assignment.stepKey) := by
  have found : pipeline.shards[pipeline.pos]? = some pipeline.shards[pipeline.pos] :=
    List.getElem?_eq_getElem inside
  unfold dispatched assignedBy
  rw [found]
  dsimp only
  cases walk : pipeline.moeLayerWalk with
  | some layer =>
      dsimp only
      cases registry.get layer.2 with
      | none => exact .inl ⟨rfl, rfl⟩
      | some tx =>
          refine .inr ⟨pipeline, rfl, .refl pipeline, .inr ⟨_, rfl, ?_⟩⟩
          simp [PipelineState.stepKey?, ShardAssignment.stepKey, found, walk]
  | none =>
      dsimp only
      cases picked : registry.pickNext last with
      | none => exact .inr ⟨pipeline, rfl, .refl pipeline, .inl ⟨walk, rfl⟩⟩
      | some wallet =>
          obtain ⟨tx, channel⟩ := (MinerRegistry.eligible_of_pickNext picked).1
          dsimp only
          rw [channel]
          refine .inr ⟨openWalk pipeline pipeline.shards[pipeline.pos] wallet, rfl,
            ⟨openWalk_shards .., openWalk_pos .., openWalk_tokenIndex ..,
              openWalk_currentInput ..⟩, .inr ⟨_, rfl, ?_⟩⟩
          simp [PipelineState.stepKey?, ShardAssignment.stepKey, found]

/-! ## The invariant -/

/-- An expert step was made for the step its pipeline waits for. -/
structure ExpertsFor (pipeline : PipelineState) (step : ExpertStep) : Prop where
  selected : ∃ expertIds, routerVerdict expertIds step.result = .selected step.experts
  notLast : step.interior = false → pipeline.pos + 1 < pipeline.shards.length
  token : step.tokenIndex = pipeline.tokenIndex
  layer : ∀ asked, step.result.moeLayerStep = some asked → step.layerIdx = asked

theorem ExpertsFor.of_place {after : PipelineState} {step : ExpertStep}
    (experts : ExpertsFor pipeline step) (place : SamePlace pipeline after) :
    ExpertsFor after step where
  selected := experts.selected
  notLast := by
    rw [place.pos, place.shards]
    exact experts.notLast
  token := experts.token.trans place.tokenIndex.symm
  layer := experts.layer

/-- The placeholder of an expert step is for the step its pipeline waits for. -/
theorem ExpertsFor.stepKey_busyMarker {step : ExpertStep} (experts : ExpertsFor pipeline step)
    (waits : pipeline.stepKey? = some (answeredStep step.result)) {layer : Nat} {pinned : Wallet}
    (walk : pipeline.moeLayerWalk = some (layer, pinned)) :
    pipeline.stepKey? = some (busyMarker step pinned).stepKey := by
  obtain ⟨shard, found, key⟩ := Option.map_eq_some_iff.mp waits
  rw [walk] at key
  have asked : some layer = step.result.moeLayerStep := congrArg StepKey.moeLayerStep key
  have index : shard.shardIndex = step.result.shardIndex := congrArg StepKey.shardIndex key
  simp [PipelineState.stepKey?, found, walk, ShardAssignment.stepKey, busyMarker, index,
    experts.token, experts.layer layer asked.symm]

/-- A parked handler is the only one at work on its pipeline's step. -/
structure Handles (engine : ShardEngine) (requestId : RequestId) (pipeline : PipelineState)
    (ticket : Ticket) (call : Call) : Prop where
  step : pipeline.stepKey? = some (answeredStep call.result)
  accepted : .accepted ticket call.wallet call.result ∈ engine.history requestId
  unused : ticket ∉ engine.applied requestId
  placeholder : ∀ assignment, engine.assignments requestId = some assignment →
    (∃ step, call = .joining step) ∧ assignment.moeLayerStep ≠ none ∧
      pipeline.stepKey? = some assignment.stepKey
  experts : ∀ step, call.step? = some step → ExpertsFor pipeline step

/-- A pipeline in range, and an assignment for its step or a placeholder left
over from a walk that ended. -/
structure Fits (pipeline : Option PipelineState) (assigned : Option ShardAssignment) : Prop where
  inRange : ∀ current, pipeline = some current → current.pos < current.shards.length
  settled : ∀ assignment, assigned = some assignment → ∃ current, pipeline = some current ∧
    (current.stepKey? = some assignment.stepKey ∨
      assignment.moeLayerStep ≠ none ∧ current.moeLayerWalk = none)

theorem fits_none (assigned : Option ShardAssignment) (vacant : assigned = none) :
    Fits none assigned := by
  subst vacant
  exact ⟨nofun, nofun⟩

theorem fits_unassigned {pipeline : Option PipelineState}
    (inRange : ∀ current, pipeline = some current → current.pos < current.shards.length) :
    Fits pipeline none :=
  ⟨inRange, nofun⟩

/-- The invariant of one request. -/
structure Orderly (requestId : RequestId) (engine : ShardEngine) : Prop where
  inRange : ∀ pipeline, engine.pipelines requestId = some pipeline →
    pipeline.pos < pipeline.shards.length
  single : ∀ first second one two, engine.calls first = some one → one.requestId = requestId →
    engine.calls second = some two → two.requestId = requestId → first = second
  handled : ∀ ticket call, engine.calls ticket = some call → call.requestId = requestId →
    ∃ pipeline, engine.pipelines requestId = some pipeline ∧
      engine.Handles requestId pipeline ticket call
  fits : engine.Quiet requestId →
    Fits (engine.pipelines requestId) (engine.assignments requestId)
  once : (engine.applied requestId).Nodup
  given : ∀ ticket ∈ engine.applied requestId, ticket < engine.nextTicket

theorem orderly_new (requestId : RequestId) : new.Orderly requestId where
  inRange := fun _ present => by cases present
  single := fun _ _ _ _ parked => by cases parked
  handled := fun _ _ parked => by cases parked
  fits := fun _ => fits_none _ rfl
  once := List.nodup_nil
  given := fun _ mem => by cases mem

section Step

variable {sha256 : Digest} {engine after : ShardEngine} {requestId : RequestId}
variable {stimulus : Stimulus} {ticket : Ticket} {call : Call} {emitted : List Effect}

/-- A request without parked handlers is orderly once its place, its assignment
and its applied tickets are. -/
theorem orderly_of_quiet (quiet : after.Quiet requestId)
    (fits : Fits (after.pipelines requestId) (after.assignments requestId))
    (once : (after.applied requestId).Nodup)
    (given : ∀ ticket ∈ after.applied requestId, ticket < after.nextTicket) :
    after.Orderly requestId where
  inRange := fits.inRange
  single := fun first _ one _ parked about => absurd about (quiet first one parked)
  handled := fun ticket call parked about => absurd about (quiet ticket call parked)
  fits := fun _ => fits
  once := once
  given := given

theorem applied_of_history (extended : after.history requestId =
    engine.history requestId ++ emitted) :
    after.applied requestId =
      engine.applied requestId ++ emitted.filterMap Effect.appliedBy := by
  rw [applied, applied, extended, List.filterMap_append]

@[simp]
theorem appliedBy_dispatchLines (registry : MinerRegistry) (last : Option Wallet)
    (requestId : RequestId) (source : ModelSource) (pipeline : PipelineState) :
    (dispatchLines registry last requestId source pipeline).filterMap Effect.appliedBy = [] := by
  rw [List.filterMap_eq_nil_iff]
  intro effect mem
  have line := isLine_of_mem_dispatchLines mem
  cases effect <;> first | rfl | cases line

/-- Once the only handler of a request returns, none is parked. -/
theorem quiet_of_ended
    (single : ∀ other left, engine.calls other = some left → left.requestId = requestId →
      other = ticket)
    (ended : after.calls = setCall engine.calls ticket none) : after.Quiet requestId := by
  intro other left found own
  rw [ended, setCall] at found
  by_cases same : other = ticket
  · subst same
    rw [Function.update_self] at found
    cases found
  · rw [Function.update_of_ne same] at found
    exact same (single other left found own)

/-- The handler that returns was the only one. -/
theorem Orderly.quiet_of_ended (orderly : engine.Orderly requestId)
    (parked : engine.calls ticket = some call) (about : call.requestId = requestId)
    (ended : after.calls = setCall engine.calls ticket none) : after.Quiet requestId :=
  ShardEngine.quiet_of_ended
    (fun other left found own => orderly.single other ticket left call found own parked about) ended

/-- A handler that is parked has not been applied, so it may be applied once. -/
theorem Orderly.applied_next (orderly : engine.Orderly requestId) (fresh : engine.TicketsFresh)
    (parked : engine.calls ticket = some call) (about : call.requestId = requestId)
    (extended : after.history requestId = engine.history requestId ++ emitted)
    (tickets : engine.nextTicket ≤ after.nextTicket)
    (atMost : emitted.filterMap Effect.appliedBy = [] ∨
      emitted.filterMap Effect.appliedBy = [ticket]) :
    (after.applied requestId).Nodup ∧
      ∀ used ∈ after.applied requestId, used < after.nextTicket := by
  obtain ⟨pipeline, -, handles⟩ := orderly.handled ticket call parked about
  rw [applied_of_history extended]
  rcases atMost with nothing | applies
  · rw [nothing, List.append_nil]
    exact ⟨orderly.once, fun used mem => (orderly.given used mem).trans_le tickets⟩
  · rw [applies]
    constructor
    · rw [List.nodup_append]
      refine ⟨orderly.once, List.nodup_singleton ticket, ?_⟩
      rintro used mem other isTicket rfl
      rw [List.mem_singleton] at isTicket
      exact handles.unused (isTicket ▸ mem)
    · intro used mem
      rcases List.mem_append.mp mem with earlier | now
      · exact (orderly.given used earlier).trans_le tickets
      · rw [List.mem_singleton.mp now]
        exact (fresh.lt parked).trans_le tickets

/-- An event that leaves the request's pipeline and calls alone, and assigns
and applies nothing. -/
theorem Orderly.kept (orderly : engine.Orderly requestId)
    (extended : after.history requestId = engine.history requestId ++ emitted)
    (tickets : engine.nextTicket ≤ after.nextTicket)
    (same : after.pipelines requestId = engine.pipelines requestId)
    (fewer : after.assignments requestId = engine.assignments requestId ∨
      after.assignments requestId = none)
    (calls : ∀ ticket call, call.requestId = requestId →
      (after.calls ticket = some call ↔ engine.calls ticket = some call))
    (nothing : emitted.filterMap Effect.appliedBy = []) : after.Orderly requestId := by
  have applies : after.applied requestId = engine.applied requestId := by
    rw [applied_of_history extended, nothing, List.append_nil]
  have before : ∀ assignment, after.assignments requestId = some assignment →
      engine.assignments requestId = some assignment := by
    intro assignment now
    rcases fewer with equal | gone
    · rw [← equal]
      exact now
    · rw [gone] at now
      cases now
  constructor
  · rw [same]
    exact orderly.inRange
  · intro first second one two atFirst aboutOne atSecond aboutTwo
    exact orderly.single first second one two ((calls first one aboutOne).mp atFirst) aboutOne
      ((calls second two aboutTwo).mp atSecond) aboutTwo
  · intro ticket call parked about
    rcases orderly.handled ticket call ((calls ticket call about).mp parked) about with
      ⟨pipeline, present, handles⟩
    refine ⟨pipeline, by rw [same]; exact present, handles.step, ?_, ?_, ?_, handles.experts⟩
    · rw [extended]
      exact List.mem_append_left _ handles.accepted
    · rw [applies]
      exact handles.unused
    · exact fun assignment now => handles.placeholder assignment (before assignment now)
  · intro quiet
    have fits := orderly.fits fun ticket call parked about =>
      quiet ticket call ((calls ticket call about).mpr parked) about
    rw [same]
    exact ⟨fits.inRange, fun assignment now => fits.settled assignment (before assignment now)⟩
  · rw [applies]
    exact orderly.once
  · rw [applies]
    exact fun ticket mem => (orderly.given ticket mem).trans_le tickets

/-- A handler parks again with the same result, at the same step. -/
theorem Orderly.reparked (orderly : engine.Orderly requestId) {next : Call}
    {pipeline later : PipelineState}
    (extended : after.history requestId = engine.history requestId ++ emitted)
    (tickets : engine.nextTicket ≤ after.nextTicket)
    (parked : engine.calls ticket = some call) (about : call.requestId = requestId)
    (present : engine.pipelines requestId = some pipeline)
    (kept : after.pipelines requestId = some later) (place : SamePlace pipeline later)
    (step : later.stepKey? = pipeline.stepKey?)
    (calls : after.calls = setCall engine.calls ticket (some next))
    (result : next.result = call.result) (wallet : next.wallet = call.wallet)
    (nothing : emitted.filterMap Effect.appliedBy = [])
    (placeholder : ∀ assignment, after.assignments requestId = some assignment →
      (∃ step, next = .joining step) ∧ assignment.moeLayerStep ≠ none ∧
        pipeline.stepKey? = some assignment.stepKey)
    (experts : ∀ step, next.step? = some step → ExpertsFor pipeline step) :
    after.Orderly requestId := by
  have applies : after.applied requestId = engine.applied requestId := by
    rw [applied_of_history extended, nothing, List.append_nil]
  have here : after.calls ticket = some next := by
    rw [calls, setCall, Function.update_self]
  have nextAbout : next.requestId = requestId := by
    rw [← about, Call.requestId, Call.requestId, result]
  have only : ∀ other left, after.calls other = some left → left.requestId = requestId →
      other = ticket := by
    intro other left found own
    by_contra ne
    rw [calls, setCall, Function.update_of_ne ne] at found
    exact ne (orderly.single other ticket left call found own parked about)
  obtain ⟨current, found, handles⟩ := orderly.handled ticket call parked about
  rw [present] at found
  cases found
  constructor
  · intro other found
    rw [kept] at found
    cases found
    rw [place.pos, place.shards]
    exact orderly.inRange pipeline present
  · intro first second one two atFirst aboutOne atSecond aboutTwo
    rw [only first one atFirst aboutOne, only second two atSecond aboutTwo]
  · intro other left found own
    cases only other left found own
    rw [here] at found
    cases found
    refine ⟨later, kept, ?_, ?_, ?_, ?_,
      fun expert isStep => (experts expert isStep).of_place place⟩
    · rw [step, result]
      exact handles.step
    · rw [extended, result, wallet]
      exact List.mem_append_left _ handles.accepted
    · rw [applies]
      exact handles.unused
    · rw [step]
      exact placeholder
  · intro quiet
    exact absurd nextAbout (quiet ticket next here)
  · rw [applies]
    exact orderly.once
  · rw [applies]
    exact fun used mem => (orderly.given used mem).trans_le tickets

/-- What a dispatch leaves fits, if what was assigned before can only have been
a placeholder. -/
theorem fits_dispatched (registry : MinerRegistry) (last : Option Wallet)
    {assigned : Option ShardAssignment} {pipeline : PipelineState}
    (inside : pipeline.pos < pipeline.shards.length)
    (stale : ∀ assignment, assigned = some assignment → assignment.moeLayerStep ≠ none) :
    Fits (dispatched registry last pipeline) (assignedBy registry last assigned pipeline) := by
  rcases dispatched_cases registry last assigned inside with
    ⟨gone, unassigned⟩ | ⟨after, stored, place, outcome⟩
  · rw [gone]
    exact fits_none _ unassigned
  · rw [stored]
    constructor
    · rintro later ⟨⟩
      rw [place.pos, place.shards]
      exact inside
    · intro assignment now
      refine ⟨after, rfl, ?_⟩
      rcases outcome with ⟨resting, kept⟩ | ⟨fresh, made, step⟩
      · rw [kept] at now
        exact .inr ⟨stale assignment now, resting⟩
      · rw [made] at now
        cases now
        exact .inl step

/-- A handler returns, with its ticket applied at most once. -/
theorem Orderly.ended (orderly : engine.Orderly requestId) (fresh : engine.TicketsFresh)
    (extended : after.history requestId = engine.history requestId ++ emitted)
    (tickets : engine.nextTicket ≤ after.nextTicket)
    (parked : engine.calls ticket = some call) (about : call.requestId = requestId)
    (calls : after.calls = setCall engine.calls ticket none)
    (atMost : emitted.filterMap Effect.appliedBy = [] ∨
      emitted.filterMap Effect.appliedBy = [ticket])
    (fits : Fits (after.pipelines requestId) (after.assignments requestId)) :
    after.Orderly requestId := by
  have applied := orderly.applied_next fresh parked about extended tickets atMost
  exact orderly_of_quiet (orderly.quiet_of_ended parked about calls) fits applied.1 applied.2

@[simp]
theorem stepKey?_contribute (wallet : Wallet) (pipeline : PipelineState) :
    (contribute wallet pipeline).stepKey? = pipeline.stepKey? :=
  rfl

theorem samePlace_contribute (wallet : Wallet) (pipeline : PipelineState) :
    SamePlace pipeline (contribute wallet pipeline) :=
  ⟨rfl, rfl, rfl, rfl⟩

/-- A handler that is not joining has no assignment beside it. -/
theorem Orderly.unassigned (orderly : engine.Orderly requestId)
    (parked : engine.calls ticket = some call) (about : call.requestId = requestId)
    (notJoining : ∀ step, call ≠ .joining step) : engine.assignments requestId = none := by
  obtain ⟨pipeline, -, handles⟩ := orderly.handled ticket call parked about
  cases assigned : engine.assignments requestId with
  | none => rfl
  | some assignment =>
      obtain ⟨⟨step, joining⟩, -⟩ := handles.placeholder assignment assigned
      exact absurd joining (notJoining step)

section Handler

variable {pipeline counted : PipelineState} {result : OpoiShardResult} {wallet : Wallet}
variable {source : ModelSource} {reparked : Option Call}

/-- The look-up of experts keeps a request orderly. -/
theorem Orderly.expertStep (orderly : engine.Orderly requestId) (fresh : engine.TicketsFresh)
    (extended : after.history requestId = engine.history requestId ++ emitted)
    (tickets : engine.nextTicket ≤ after.nextTicket)
    (parked : engine.calls ticket = some call) (about : call.requestId = requestId)
    (notJoining : ∀ step, call ≠ .joining step)
    (ofWallet : call.wallet = wallet) (ofResult : call.result = result)
    (present : engine.pipelines requestId = some pipeline) (place : SamePlace pipeline counted)
    (step : counted.stepKey? = pipeline.stepKey?)
    (unchanged : after.assignments requestId = engine.assignments requestId)
    (calls : after.calls = setCall engine.calls ticket reparked)
    {interior : Bool} {expertIds : List Nat} {layerIdx : Nat}
    (boundary : interior = false → pipeline.pos + 1 < pipeline.shards.length)
    (layer : ∀ asked, result.moeLayerStep = some asked → layerIdx = asked)
    (outcome : ExpertOutcome interior wallet result source expertIds layerIdx counted
      (after.pipelines requestId) reparked emitted) : after.Orderly requestId := by
  have vacant : after.assignments requestId = none := by
    rw [unchanged]
    exact orderly.unassigned parked about notJoining
  have fits : Fits (some counted) none := by
    apply fits_unassigned
    rintro _ ⟨⟩
    rw [place.pos, place.shards]
    exact orderly.inRange pipeline present
  generalize stored : after.pipelines requestId = kept at outcome
  cases outcome with
  | absent verdict =>
      exact orderly.ended fresh extended tickets parked about calls (.inl rfl)
        (by rw [stored, vacant]; exact fits)
  | malformed verdict =>
      exact orderly.ended fresh extended tickets parked about calls (.inl rfl)
        (by rw [stored]; exact fits_none _ vacant)
  | panicked outside =>
      exact orderly.ended fresh extended tickets parked about calls (.inl rfl)
        (by rw [stored, vacant]; exact fits)
  | @sizing expert isInterior sameWallet sameResult sameSource sameLayer verdict sameToken =>
      apply orderly.reparked extended tickets parked about present stored place step calls
      · exact sameResult.trans ofResult.symm
      · exact sameWallet.trans ofWallet.symm
      · rfl
      · intro assignment now
        rw [vacant] at now
        cases now
      · rintro _ ⟨⟩
        refine ⟨⟨expertIds, by rw [sameResult]; exact verdict⟩, ?_,
          sameToken.trans place.tokenIndex, ?_⟩
        · rw [isInterior]
          exact boundary
        · rw [sameResult, sameLayer]
          exact layer

/-- The completion of a step keeps a request orderly. -/
theorem Orderly.completes (orderly : engine.Orderly requestId) (fresh : engine.TicketsFresh)
    (extended : after.history requestId = engine.history requestId ++ emitted)
    (tickets : engine.nextTicket ≤ after.nextTicket)
    (parked : engine.calls ticket = some call) (about : call.requestId = requestId)
    (notJoining : ∀ step, call ≠ .joining step)
    (ofWallet : call.wallet = wallet) (ofResult : call.result = result)
    (present : engine.pipelines requestId = some pipeline) (place : SamePlace pipeline counted)
    (step : counted.stepKey? = pipeline.stepKey?)
    (calls : after.calls = setCall engine.calls ticket reparked)
    {registry : MinerRegistry} {last : Option Wallet} {lastToken stored : Bool}
    (outcome : StepOutcome sha256 registry last (engine.assignments requestId) ticket wallet
      result source lastToken stored counted (after.pipelines requestId)
      (after.assignments requestId) reparked emitted) : after.Orderly requestId := by
  have inside : counted.pos < counted.shards.length := by
    rw [place.pos, place.shards]
    exact orderly.inRange pipeline present
  rw [orderly.unassigned parked about notJoining] at outcome
  have ends : ∀ {later : Option PipelineState} {assigned : Option ShardAssignment},
      after.pipelines requestId = later → after.assignments requestId = assigned →
      after.calls = setCall engine.calls ticket none →
      (emitted.filterMap Effect.appliedBy = [] ∨
        emitted.filterMap Effect.appliedBy = [ticket]) →
      Fits later assigned → after.Orderly requestId := by
    rintro _ _ rfl rfl ended atMost fits
    exact orderly.ended fresh extended tickets parked about ended atMost fits
  generalize kept : after.pipelines requestId = later at outcome
  generalize left : after.assignments requestId = assigned at outcome
  cases outcome with
  | unanswered lastShard answer => exact ends kept left calls (.inl rfl) (fits_none _ rfl)
  | finalized lastShard answer isLast wins =>
      exact ends kept left calls (.inr rfl) (fits_none _ rfl)
  | unattributed lastShard answer isLast nobody =>
      exact ends kept left calls (.inr rfl) (fits_none _ rfl)
  | nextToken lastShard answer notLast =>
      apply ends kept left calls (.inr (by simp [Effect.appliedBy]))
      exact fits_dispatched _ _ (by simp only [nextToken, recordToken]; omega)
        (fun _ now => by cases now)
  | nextShard notLastShard dense =>
      apply ends kept left calls (.inr (by simp [Effect.appliedBy]))
      exact fits_dispatched _ _ (by simp only [ShardEngine.nextShard]; omega)
        (fun _ now => by cases now)
  | experts notLastShard group outcome layer =>
      have unchanged : after.assignments requestId = engine.assignments requestId := by
        rw [left, orderly.unassigned parked about notJoining]
      apply orderly.expertStep fresh extended tickets parked about notJoining ofWallet ofResult
        present place step unchanged calls _ layer (kept ▸ outcome)
      intro _
      rw [place.pos, place.shards] at inside notLastShard
      omega

end Handler

/-- What a tick has collected waits for its dispatch undisturbed, and it only
claims requests with dense shards. -/
structure PollOrderly (engine : ShardEngine) : Prop where
  nodup : engine.poll.stalled.Nodup
  waiting : ∀ requestId ∈ engine.poll.stalled,
    engine.Quiet requestId ∧ engine.assignments requestId = none
  dense : ∀ req rest manifest promptHex graph source,
    engine.poll = .claiming req rest manifest promptHex graph source → denseShards graph ≠ []

/-- A request without a pipeline has neither handlers nor an assignment. -/
theorem Orderly.bare (orderly : engine.Orderly requestId)
    (absent : engine.pipelines requestId = none) :
    engine.Quiet requestId ∧ engine.assignments requestId = none := by
  have quiet : engine.Quiet requestId := by
    intro ticket call parked about
    obtain ⟨pipeline, present, -⟩ := orderly.handled ticket call parked about
    rw [absent] at present
    cases present
  refine ⟨quiet, ?_⟩
  cases assigned : engine.assignments requestId with
  | none => rfl
  | some assignment =>
      obtain ⟨pipeline, present, -⟩ := (orderly.fits quiet).settled assignment assigned
      rw [absent] at present
      cases present

/-- The handler of a result accepted while no other is at work. -/
theorem Orderly.accepts (orderly : engine.Orderly requestId) {wallet : Wallet}
    {result : OpoiShardResult} {pipeline : PipelineState} (about : result.requestId = requestId)
    (extended : after.history requestId =
      engine.history requestId ++ [.accepted engine.nextTicket wallet result])
    (tickets : engine.nextTicket ≤ after.nextTicket)
    (present : engine.pipelines requestId = some pipeline)
    (kept : after.pipelines requestId = some pipeline)
    (removed : after.assignments requestId = none)
    (calls : after.calls =
      setCall engine.calls engine.nextTicket (some (.resolving wallet result)))
    (assigned : engine.assignments requestId =
      some ⟨wallet, result.shardIndex, result.tokenIndex, result.moeLayerStep⟩)
    (quiet : engine.Quiet requestId)
    (walks : result.moeLayerStep ≠ none → pipeline.moeLayerWalk ≠ none) :
    after.Orderly requestId := by
  have applies : after.applied requestId = engine.applied requestId := by
    rw [applied_of_history extended]
    exact List.append_nil _
  have here : after.calls engine.nextTicket = some (.resolving wallet result) := by
    rw [calls, setCall, Function.update_self]
  have only : ∀ other left, after.calls other = some left → left.requestId = requestId →
      other = engine.nextTicket := by
    intro other left found own
    by_contra ne
    rw [calls, setCall, Function.update_of_ne ne] at found
    exact quiet other left found own
  have step : pipeline.stepKey? = some (answeredStep result) := by
    rcases (orderly.fits quiet).settled _ assigned with
      ⟨current, found, matching | ⟨walked, resting⟩⟩
    · rw [present] at found
      cases found
      exact matching
    · rw [present] at found
      cases found
      exact absurd resting (walks walked)
  constructor
  · rw [kept, ← present]
    exact orderly.inRange
  · intro first second one two atFirst aboutOne atSecond aboutTwo
    rw [only first one atFirst aboutOne, only second two atSecond aboutTwo]
  · intro other left found own
    cases only other left found own
    rw [here] at found
    cases found
    refine ⟨pipeline, kept, step, ?_, ?_, ?_, fun _ found => by cases found⟩
    · rw [extended]
      exact List.mem_append_right _ (List.mem_singleton.mpr rfl)
    · rw [applies]
      exact fun mem => absurd (orderly.given _ mem) (Nat.lt_irrefl _)
    · intro assignment now
      rw [removed] at now
      cases now
  · intro silent
    exact absurd about (silent _ _ here)
  · rw [applies]
    exact orderly.once
  · rw [applies]
    exact fun used mem => (orderly.given used mem).trans_le tickets

/-- A dispatch for a request that has neither handlers nor an assignment. -/
theorem Orderly.dispatches (orderly : engine.Orderly requestId) {registry : MinerRegistry}
    {last : Option Wallet} {pipeline : PipelineState}
    (extended : after.history requestId = engine.history requestId ++ emitted)
    (tickets : engine.nextTicket ≤ after.nextTicket)
    (quiet : engine.Quiet requestId) (unassigned : engine.assignments requestId = none)
    (calls : after.calls = engine.calls)
    (inside : pipeline.pos < pipeline.shards.length)
    (kept : after.pipelines requestId = dispatched registry last pipeline)
    (left : after.assignments requestId =
      assignedBy registry last (engine.assignments requestId) pipeline)
    (nothing : emitted.filterMap Effect.appliedBy = []) : after.Orderly requestId := by
  rw [unassigned] at left
  have applies : after.applied requestId = engine.applied requestId := by
    rw [applied_of_history extended, nothing, List.append_nil]
  apply orderly_of_quiet
  · rw [Quiet, calls]
    exact quiet
  · rw [kept, left]
    exact fits_dispatched registry last inside (fun _ now => by cases now)
  · rw [applies]
    exact orderly.once
  · rw [applies]
    exact fun used mem => (orderly.given used mem).trans_le tickets

/-- A serial event keeps every request orderly. -/
theorem Orderly.next (orderly : engine.Orderly requestId) (fresh : engine.TicketsFresh)
    (clear : engine.PollClear) (polls : engine.PollOrderly) (enabled : engine.enabled stimulus)
    (serial : engine.SerialAt requestId stimulus) :
    (next sha256 engine stimulus).Orderly requestId := by
  have tickets := nextTicket_le_next sha256 engine stimulus
  obtain ⟨emitted, extended, change⟩ := next_change sha256 enabled (fresh _ le_rfl) requestId
  generalize before : engine.pipelines requestId = pipeline at change
  generalize kept : (ShardEngine.next sha256 engine stimulus).pipelines requestId = later at change
  generalize left : (ShardEngine.next sha256 engine stimulus).assignments requestId = assigned
    at change
  generalize moved : (ShardEngine.next sha256 engine stimulus).calls = calls at change
  cases change with
  | idle fewer same =>
      exact orderly.kept extended tickets (kept.trans before.symm) (by rwa [left])
        (by rw [moved]; exact same) rfl
  | rejected about =>
      exact orderly.kept extended tickets (kept.trans before.symm) (.inl left)
        (fun ticket call _ => by rw [moved]) rfl
  | orphaned about assigned =>
      exact orderly.kept extended tickets (kept.trans before.symm) (.inr left)
        (fun ticket call _ => by rw [moved]) rfl
  | delegated polling about =>
      exact orderly.kept extended tickets (kept.trans before.symm) (.inl left)
        (fun ticket call _ => by rw [moved]) rfl
  | accepted about assigned =>
      rw [← about] at assigned before
      obtain ⟨quiet, walks⟩ := serial about assigned
      rw [about] at before assigned quiet
      exact orderly.accepts about extended tickets before kept left moved assigned quiet
        (fun walked => walks walked _ (about ▸ before))
  | unresolved parked about =>
      apply orderly.ended fresh extended tickets parked about moved (.inl rfl)
      rw [kept, left, orderly.unassigned parked about (by simp), ← before]
      exact fits_unassigned orderly.inRange
  | lost parked about quiet =>
      obtain ⟨pipeline, present, -⟩ := orderly.handled _ _ parked about
      rw [before] at present
      cases present
  | misplaced parked about outside =>
      have inside := orderly.inRange _ before
      rw [List.getElem?_eq_getElem inside] at outside
      cases outside
  | ungrouped parked about resumes dense =>
      apply orderly.ended fresh extended tickets parked about moved (.inl rfl)
      rw [kept, left]
      exact fits_none _ (orderly.unassigned parked about (by simp))
  | interior parked about layer found resumes group outcome =>
      exact orderly.expertStep fresh extended tickets parked about (by simp) rfl rfl before
        (samePlace_contribute ..) (stepKey?_contribute ..) left moved
        (fun same => by cases same)
        (fun asked isAsked => Option.some.inj (layer.symm.trans isAsked))
        (kept ▸ outcome)
  | submitting parked about lastToken =>
      apply orderly.reparked extended tickets parked about before kept (samePlace_contribute ..)
        (stepKey?_contribute ..) moved rfl rfl rfl
      · rw [left, orderly.unassigned parked about (by simp)]
        intro _ now
        cases now
      · intro _ found
        cases found
  | completed parked about notLastToken outcome =>
      exact orderly.completes fresh extended tickets parked about (by simp) rfl rfl before
        (samePlace_contribute ..) (stepKey?_contribute ..) moved (kept ▸ left ▸ outcome)
  | unsubmitted parked about =>
      apply orderly.ended fresh extended tickets parked about moved (.inl rfl)
      rw [kept, left, orderly.unassigned parked about (by simp), ← before]
      exact fits_unassigned orderly.inRange
  | submitted parked about outcome =>
      exact orderly.completes fresh extended tickets parked about (by simp) rfl rfl before
        (.refl _) rfl moved (kept ▸ left ▸ outcome)
  | sized parked about =>
      obtain ⟨current, present, handles⟩ := orderly.handled _ _ parked about
      rw [orderly.unassigned parked about (by simp)] at left
      apply orderly.reparked extended tickets parked about present
        (kept.trans (before.symm.trans present)) (.refl _) rfl moved rfl rfl rfl
      · intro assignment now
        rw [left, markedBy, ← before, present] at now
        split at now
        · rename_i layer pinned walk
          cases now
          exact ⟨⟨_, rfl⟩, by simp [busyMarker],
            (handles.experts _ rfl).stepKey_busyMarker handles.step walk⟩
        · cases now
      · rintro _ ⟨⟩
        exact handles.experts _ rfl
  | unjoined parked about =>
      apply orderly.ended fresh extended tickets parked about moved (.inl rfl)
      rw [kept, left, ← before]
      exact fits_unassigned orderly.inRange
  | walked parked about isInterior =>
      obtain ⟨current, present, handles⟩ := orderly.handled _ _ parked about
      rw [before] at present
      cases present
      have inside := orderly.inRange _ before
      apply orderly.ended fresh extended tickets parked about moved
        (.inr (by simp [Effect.appliedBy]))
      rw [kept, left]
      exact fits_dispatched _ _ inside
        (fun assignment now => (handles.placeholder assignment now).2.1)
  | handedOver parked about isBoundary =>
      obtain ⟨current, present, handles⟩ := orderly.handled _ _ parked about
      rw [before] at present
      cases present
      apply orderly.ended fresh extended tickets parked about moved
        (.inr (by simp [Effect.appliedBy]))
      rw [kept, left]
      exact fits_dispatched _ _ ((handles.experts _ rfl).notLast isBoundary)
        (fun assignment now => (handles.placeholder assignment now).2.1)
  | abandoned parked about =>
      obtain ⟨current, present, handles⟩ := orderly.handled _ _ parked about
      apply orderly.ended fresh extended tickets parked about moved (.inl rfl)
      rw [kept, left, ← before]
      exact ⟨orderly.inRange, fun assignment now =>
        ⟨current, present, .inl (handles.placeholder assignment now).2.2⟩⟩
  | redispatched polling =>
      obtain ⟨quiet, unassigned⟩ := polls.waiting requestId (by simp [polling, Poll.stalled])
      exact orderly.dispatches extended tickets quiet unassigned moved
        (orderly.inRange _ before) kept left (appliedBy_dispatchLines ..)
  | started polling about =>
      have absent := clear _ (by rw [polling]; rfl)
      rw [about] at absent
      obtain ⟨quiet, unassigned⟩ := orderly.bare absent
      have dense := polls.dense _ _ _ _ _ _ polling
      apply orderly.dispatches extended tickets quiet unassigned moved _ kept left
      · exact appliedBy_dispatchLines ..
      · exact List.length_pos_iff.mpr dense

/-- A request that has neither handlers nor an assignment stays so until it is
dispatched or started. -/
theorem Change.stays_bare {before later : Option PipelineState}
    {assigned : Option ShardAssignment} {calls : PartialMap Ticket Call}
    (change : Change sha256 engine requestId stimulus before later assigned calls emitted)
    (quiet : engine.Quiet requestId) (unassigned : engine.assignments requestId = none)
    (notRetried : ∀ source rest, stimulus.event = .pollRetry source →
      engine.poll ≠ .retrying requestId rest)
    (notClaimed : ∀ req rest manifest promptHex graph source,
      engine.poll ≠ .claiming req rest manifest promptHex graph source) :
    assigned = none ∧
      ∀ ticket call, calls ticket = some call → call.requestId ≠ requestId := by
  have nobody : ∀ {ticket call}, engine.calls ticket = some call → call.requestId = requestId →
      assigned = none ∧ ∀ ticket call, calls ticket = some call → call.requestId ≠ requestId :=
    fun parked about => absurd about (quiet _ _ parked)
  cases change with
  | idle fewer same =>
      refine ⟨?_, fun ticket call parked about => quiet ticket call
        ((same ticket call about).mp parked) about⟩
      rcases fewer with equal | gone
      · exact equal.trans unassigned
      · exact gone
  | rejected about => exact ⟨unassigned, quiet⟩
  | orphaned about assigned => simp [unassigned] at assigned
  | accepted about assigned => simp [unassigned] at assigned
  | redispatched polling => exact absurd polling (notRetried _ _ rfl)
  | delegated polling about => exact absurd polling (notClaimed _ _ _ _ _ _)
  | started polling about => exact absurd polling (notClaimed _ _ _ _ _ _)
  | unresolved parked about => exact nobody parked about
  | lost parked about quiet => exact nobody parked about
  | misplaced parked about outside => exact nobody parked about
  | ungrouped parked about resumes dense => exact nobody parked about
  | interior parked about layer found resumes group outcome => exact nobody parked about
  | submitting parked about lastToken => exact nobody parked about
  | completed parked about notLastToken outcome => exact nobody parked about
  | unsubmitted parked about => exact nobody parked about
  | submitted parked about outcome => exact nobody parked about
  | sized parked about => exact nobody parked about
  | unjoined parked about => exact nobody parked about
  | abandoned parked about => exact nobody parked about
  | walked parked about isInterior => exact nobody parked about
  | handedOver parked about isBoundary => exact nobody parked about

/-- What is left to retry has neither handlers nor an assignment, and the event
dispatches and claims none of it. -/
theorem PollOrderly.left (polls : engine.PollOrderly) (enabled : engine.enabled stimulus)
    (collects : engine.CollectsQuiet stimulus) :
    (leftToRetry engine stimulus).Nodup ∧
      ∀ requestId ∈ leftToRetry engine stimulus,
        (engine.Quiet requestId ∧ engine.assignments requestId = none) ∧
          (∀ source rest, stimulus.event = .pollRetry source →
            engine.poll ≠ .retrying requestId rest) ∧
          ∀ req rest manifest promptHex graph source,
            engine.poll ≠ .claiming req rest manifest promptHex graph source := by
  have others : (∀ source, stimulus.event ≠ .pollRetry source) →
      leftToRetry engine stimulus = engine.poll.stalled →
      (leftToRetry engine stimulus).Nodup ∧
        ∀ requestId ∈ leftToRetry engine stimulus,
          (engine.Quiet requestId ∧ engine.assignments requestId = none) ∧
            (∀ source rest, stimulus.event = .pollRetry source →
              engine.poll ≠ .retrying requestId rest) ∧
            ∀ req rest manifest promptHex graph source,
              engine.poll ≠ .claiming req rest manifest promptHex graph source := by
    intro notRetry same
    rw [same]
    refine ⟨polls.nodup, fun requestId mem => ⟨polls.waiting requestId mem, ?_, ?_⟩⟩
    · intro source _ retried
      exact absurd retried (notRetry source)
    · intro req rest manifest promptHex graph source claiming
      rw [claiming] at mem
      cases mem
  rcases stimulus with ⟨registry, event⟩
  cases event with
  | pollBegin stalled =>
      rcases enabled with ⟨idle, nodup, exactly⟩
      refine ⟨nodup, fun requestId mem => ⟨⟨collects stalled rfl requestId mem,
        ((exactly requestId).mp mem).2⟩,
        ?_, ?_⟩⟩
      · simp
      · simp [idle]
  | pollRetry source =>
      rcases enabled with ⟨current, rest, polling⟩
      have nodup := polls.nodup
      simp only [leftToRetry, polling, Poll.stalled, List.tail_cons, List.nodup_cons] at nodup ⊢
      refine ⟨nodup.2, fun requestId mem => ⟨polls.waiting requestId ?_, ?_, by simp⟩⟩
      · rw [polling]
        exact List.mem_cons_of_mem _ mem
      · rintro _ _ _ ⟨⟩
        exact nodup.1 mem
  | _ => exact others (by simp) rfl

theorem PollOrderly.next (polls : engine.PollOrderly) (fresh : engine.TicketsFresh)
    (enabled : engine.enabled stimulus) (collects : engine.CollectsQuiet stimulus) :
    (next sha256 engine stimulus).PollOrderly := by
  have suffix := next_poll_stalled sha256 enabled
  obtain ⟨nodup, bare⟩ := polls.left enabled collects
  constructor
  · exact suffix.sublist.nodup nodup
  · intro requestId mem
    obtain ⟨⟨quiet, unassigned⟩, notRetried, notClaimed⟩ := bare requestId (suffix.subset mem)
    obtain ⟨emitted, -, change⟩ := next_change sha256 enabled (fresh _ le_rfl) requestId
    exact (change.stays_bare quiet unassigned notRetried notClaimed).symm
  · intro req rest manifest promptHex graph source claims
    rcases next_poll_claiming sha256 enabled claims with before | dense
    · exact polls.dense req rest manifest promptHex graph source before
    · exact dense

end Step

/-! ## Runs -/

/-- The invariant of a serial run. -/
structure Sequential (engine : ShardEngine) : Prop where
  fresh : engine.TicketsFresh
  clear : engine.PollClear
  polls : engine.PollOrderly
  orderly : ∀ requestId, engine.Orderly requestId

theorem pollOrderly_new : new.PollOrderly where
  nodup := List.nodup_nil
  waiting := fun _ mem => by cases mem
  dense := fun _ _ _ _ _ _ claims => by cases claims

theorem sequential_new : new.Sequential where
  fresh := ticketsFresh_new
  clear := pollClear_new
  polls := pollOrderly_new
  orderly := orderly_new

/-- The invariant of one request along a run that is serial for it. -/
structure SequentialAt (requestId : RequestId) (engine : ShardEngine) : Prop where
  fresh : engine.TicketsFresh
  clear : engine.PollClear
  polls : engine.PollOrderly
  orderly : engine.Orderly requestId

theorem sequentialAt_new (requestId : RequestId) : new.SequentialAt requestId where
  fresh := ticketsFresh_new
  clear := pollClear_new
  polls := pollOrderly_new
  orderly := orderly_new requestId

theorem SequentialAt.next {sha256 : Digest} {engine : ShardEngine} {stimulus : Stimulus}
    {requestId : RequestId} (sequential : engine.SequentialAt requestId)
    (enabled : engine.enabled stimulus) (serial : engine.SerialAt requestId stimulus) :
    (next sha256 engine stimulus).SequentialAt requestId where
  fresh := sequential.fresh.next enabled
  clear := sequential.clear.next sequential.fresh enabled
  polls := sequential.polls.next sequential.fresh enabled serial.collectsQuiet
  orderly := sequential.orderly.next sequential.fresh sequential.clear sequential.polls enabled
    serial

theorem Sequential.next {sha256 : Digest} {engine : ShardEngine} {stimulus : Stimulus}
    (sequential : engine.Sequential) (enabled : engine.enabled stimulus)
    (serial : engine.Serial stimulus) : (next sha256 engine stimulus).Sequential where
  fresh := sequential.fresh.next enabled
  clear := sequential.clear.next sequential.fresh enabled
  polls := sequential.polls.next sequential.fresh enabled
    (serialAt_of_serial serial "").collectsQuiet
  orderly := fun requestId =>
    (sequential.orderly requestId).next sequential.fresh sequential.clear sequential.polls enabled
      (serialAt_of_serial serial requestId)

theorem sequential_of_run {sha256 : Digest} {events : List Stimulus} {engine : ShardEngine}
    (run : (system sha256).RunWith Serial new events engine) : engine.Sequential :=
  run.invariant sequential_new fun _ _ sequential enabled serial =>
    sequential.next enabled serial

/-! ## Steps in order -/

section Order

variable {sha256 : Digest} {engine : ShardEngine} {requestId : RequestId}
variable {stimulus : Stimulus} {ticket : Ticket} {call : Call} {pipeline after : PipelineState}

theorem ExpertOutcome.stays {interior : Bool} {wallet : Wallet} {result : OpoiShardResult}
    {source : ModelSource} {expertIds : List Nat} {layerIdx : Nat} {reparked : Option Call}
    {emitted : List Effect}
    (outcome : ExpertOutcome interior wallet result source expertIds layerIdx pipeline
      (some after) reparked emitted) : after = pipeline := by
  cases outcome <;> rfl

/-- The completion of a step moves a pipeline by one place at most, on the
result its handler was given. -/
theorem StepOutcome.inOrder {registry : MinerRegistry} {last : Option Wallet}
    {before assigned : Option ShardAssignment} {wallet : Wallet} {result : OpoiShardResult}
    {source : ModelSource} {lastToken stored : Bool} {reparked : Option Call}
    {emitted : List Effect} {counted : PipelineState}
    (handles : engine.Handles requestId pipeline ticket call) (ofResult : call.result = result)
    (place : SamePlace pipeline counted)
    (outcome : StepOutcome sha256 registry last before ticket wallet result source lastToken
      stored counted (some after) assigned reparked emitted) :
    InOrder engine requestId stimulus.event pipeline after := by
  have step := handles.step
  have accepted := handles.accepted
  rw [ofResult] at step accepted
  generalize kept : some after = later at outcome
  cases outcome with
  | unanswered lastShard answer => cases kept
  | finalized lastShard answer isLast wins => cases kept
  | unattributed lastShard answer isLast nobody => cases kept
  | nextToken lastShard answer notLast =>
      have same := samePlace_of_dispatched kept.symm
      rw [place.pos, place.shards] at lastShard
      exact .nextToken (same.shards.trans place.shards) accepted handles.unused step lastShard
        answer same.pos (same.tokenIndex.trans (congrArg (· + 1) place.tokenIndex))
        same.currentInput
  | nextShard notLastShard dense =>
      have same := samePlace_of_dispatched kept.symm
      exact .nextShard (same.shards.trans place.shards) accepted handles.unused step .own
        (same.pos.trans (congrArg (· + 1) place.pos)) (same.tokenIndex.trans place.tokenIndex)
        same.currentInput
  | experts notLastShard group outcome =>
      rw [← kept] at outcome
      rw [outcome.stays]
      exact .stays place.shards place.pos place.tokenIndex

/-- A serial event moves a pipeline in order. -/
theorem inOrder_next (sequential : engine.Sequential) (enabled : engine.enabled stimulus)
    (present : engine.pipelines requestId = some pipeline)
    (kept : (next sha256 engine stimulus).pipelines requestId = some after) :
    InOrder engine requestId stimulus.event pipeline after := by
  have orderly := sequential.orderly requestId
  have same : ∀ {later : PipelineState}, SamePlace pipeline later →
      InOrder engine requestId stimulus.event pipeline later :=
    fun place => .stays place.shards place.pos place.tokenIndex
  have handled : ∀ {ticket : Ticket} {call : Call}, engine.calls ticket = some call →
      call.requestId = requestId → engine.Handles requestId pipeline ticket call := by
    intro ticket call parked about
    obtain ⟨current, found, handles⟩ := orderly.handled ticket call parked about
    rw [present] at found
    cases found
    exact handles
  rcases next_change sha256 enabled (sequential.fresh _ le_rfl) requestId with
    ⟨emitted, -, change⟩
  rw [present, kept] at change
  generalize before : some pipeline = earlier at change
  generalize stored : some after = later at change
  generalize (next sha256 engine stimulus).assignments requestId = assigned at change
  generalize (next sha256 engine stimulus).calls = calls at change
  cases change with
  | idle fewer kept =>
      cases before.trans stored.symm
      exact same (.refl _)
  | rejected about =>
      cases before.trans stored.symm
      exact same (.refl _)
  | orphaned about assigned => cases before
  | accepted about assigned =>
      cases before.trans stored.symm
      exact same (.refl _)
  | unresolved parked about =>
      cases before.trans stored.symm
      exact same (.refl _)
  | lost parked about quiet => cases before
  | misplaced parked about outside =>
      cases before
      cases stored
      exact same (samePlace_contribute ..)
  | ungrouped parked about resumes dense => cases stored
  | interior parked about layer found resumes group outcome =>
      cases before
      rw [← stored] at outcome
      rw [outcome.stays]
      exact same (samePlace_contribute ..)
  | submitting parked about lastToken =>
      cases before
      cases stored
      exact same (samePlace_contribute ..)
  | completed parked about notLastToken outcome =>
      cases before
      rw [← stored] at outcome
      exact outcome.inOrder (handled parked about) rfl (samePlace_contribute ..)
  | unsubmitted parked about =>
      cases before.trans stored.symm
      exact same (.refl _)
  | submitted parked about outcome =>
      cases before
      rw [← stored] at outcome
      exact outcome.inOrder (handled parked about) rfl (.refl _)
  | sized parked about =>
      cases before.trans stored.symm
      exact same (.refl _)
  | unjoined parked about =>
      cases before.trans stored.symm
      exact same (.refl _)
  | abandoned parked about =>
      cases before.trans stored.symm
      exact same (.refl _)
  | walked parked about isInterior =>
      cases before
      have place := samePlace_of_dispatched stored.symm
      exact .stays place.shards place.pos place.tokenIndex
  | handedOver parked about isBoundary =>
      cases before
      have handles := handled parked about
      have place := samePlace_of_dispatched stored.symm
      obtain ⟨expertIds, selected⟩ := (handles.experts _ rfl).selected
      exact .nextShard place.shards handles.accepted handles.unused handles.step
        (.joined rfl parked rfl selected) place.pos place.tokenIndex place.currentInput
  | redispatched polling =>
      cases before
      exact same (samePlace_of_dispatched stored.symm)
  | delegated polling about =>
      cases before.trans stored.symm
      exact same (.refl _)
  | started polling about =>
      have absent := sequential.clear _ (by rw [polling]; rfl)
      rw [about, present] at absent
      cases absent

/-- Every pipeline moves by at most one place, on a result accepted for the
step it was at and not applied before, and a retry finds no handler parked. -/
def StepInOrder (sha256 : Digest) (engine : ShardEngine) (stimulus : Stimulus) : Prop :=
  ∀ requestId pipeline, engine.pipelines requestId = some pipeline →
    (∀ after, (next sha256 engine stimulus).pipelines requestId = some after →
      InOrder engine requestId stimulus.event pipeline after) ∧
    ∀ source rest, stimulus.event = .pollRetry source →
      engine.poll = .retrying requestId rest → engine.Quiet requestId

/-- Along every run whose steps are serial, pipelines stay in range, every
accepted result is applied at most once, and every step is in order. -/
theorem shard_steps_in_order {events : List Stimulus}
    (run : (system sha256).RunWith Serial new events engine) :
    (∀ requestId pipeline, engine.pipelines requestId = some pipeline →
      pipeline.pos < pipeline.shards.length) ∧
    (∀ requestId, (engine.applied requestId).Nodup) ∧
    ∀ stimulus, engine.enabled stimulus → engine.Serial stimulus →
      StepInOrder sha256 engine stimulus := by
  have sequential := sequential_of_run run
  refine ⟨fun requestId => (sequential.orderly requestId).inRange,
    fun requestId => (sequential.orderly requestId).once, ?_⟩
  intro stimulus enabled serial requestId pipeline present
  constructor
  · intro after kept
    exact inOrder_next sequential enabled present kept
  · intro source rest _ polling
    apply (sequential.polls.waiting requestId _).1
    simp [polling, Poll.stalled]

end Order

/-! ## Runs of one request -/

section Sole

variable {sha256 : Digest} {engine : ShardEngine} {requestId : RequestId}
variable {events : List Stimulus} {guard : ShardEngine → Stimulus → Prop}

/-- Every handler has returned. -/
def idle (engine : ShardEngine) : Bool :=
  (List.range engine.nextTicket).all fun ticket => (engine.calls ticket).isNone

/-- Every handler has returned when an event begins one, or begins a tick. -/
def settled (engine : ShardEngine) (stimulus : Stimulus) : Bool :=
  match stimulus.event with
  | .shardResult _ _ | .pollBegin _ => engine.idle
  | _ => true

theorem quiet_of_idle (fresh : engine.TicketsFresh) (ended : engine.idle = true)
    (requestId : RequestId) : engine.Quiet requestId := by
  intro ticket call parked
  have returned := List.all_eq_true.mp ended ticket (List.mem_range.mpr (fresh.lt parked))
  rw [parked] at returned
  cases returned

/-- A request has a pipeline only once it was started. -/
theorem started_of_run (run : (system sha256).RunWith guard new events engine)
    (present : engine.pipelines requestId ≠ none) :
    .started requestId ∈ engine.history requestId := by
  have both := run.invariant
    (I := fun engine => engine.TicketsFresh ∧
      (engine.pipelines requestId ≠ none → .started requestId ∈ engine.history requestId))
    ⟨ticketsFresh_new, fun absent => absurd rfl absent⟩
    (by
      rintro state stimulus ⟨fresh, started⟩ enabled -
      refine ⟨fresh.next enabled, fun now => ?_⟩
      obtain ⟨emitted, extended, change⟩ := next_change sha256 enabled (fresh _ le_rfl) requestId
      have mem := List.mem_append.mpr ((change.started_of_present now).imp_left started)
      rwa [← extended] at mem)
  exact both.2 present

/-- An effect starts no other request. -/
def startsOnly (requestId : RequestId) : Effect → Bool
  | .started about => about = requestId
  | _ => true

/-- Where no other request was started, no other one is stalled. -/
theorem stalled_singleton (run : (system sha256).RunWith guard new events engine)
    (only : engine.log.all (startsOnly requestId) = true) (stalled : engine.Stalled requestId)
    (other : RequestId) : other ∈ [requestId] ↔ engine.Stalled other := by
  rw [List.mem_singleton]
  constructor
  · rintro rfl
    exact stalled
  · rintro ⟨present, -⟩
    have logged := List.mem_of_mem_filter (started_of_run run present)
    exact of_decide_eq_true (List.all_eq_true.mp only _ logged)

end Sole

/-- The first token over two shards, up to the answer of the second. -/
def serialEvents : List Stimulus :=
  soleStart soleRegistry 2 9 ++ [soleAnswer 0 0 none, soleResolved 0, soleAnswer 1 0 (some 5)]

/-- An instance of `shard_steps_in_order`: the second shard's result starts the
second token. -/
theorem shard_steps_in_order_sole :
    (∃ pipeline, ((system id).execute new serialEvents).pipelines "r" = some pipeline ∧
      pipeline.pos = 1 ∧ pipeline.pos < pipeline.shards.length) ∧
    (((system id).execute new serialEvents).applied "r").Nodup ∧
    StepInOrder id ((system id).execute new serialEvents) (soleResolved 1) := by
  have run : (system id).RunWith Serial new serialEvents
      ((system id).execute new serialEvents) := by
    apply System.Admits.runWith
    refine ⟨⟨trivial, trivial⟩, ⟨⟨rfl, List.nodup_nil, nothing_stalled fun _ => rfl⟩, ?_⟩,
      ⟨rfl, trivial⟩,
      ⟨⟨_, _, rfl⟩, trivial⟩, ⟨⟨_, _, _, _, rfl⟩, trivial⟩, ⟨⟨_, _, _, _, _, rfl⟩, trivial⟩,
      ⟨⟨_, _, _, _, _, _, rfl⟩, trivial⟩, ⟨trivial, ?_⟩, ⟨⟨_, _, rfl⟩, trivial⟩, ⟨trivial, ?_⟩,
      trivial⟩
    · intro requestId mem
      cases mem
    · intro _
      refine ⟨?_, fun walked => absurd rfl walked⟩
      intro ticket call parked
      cases parked
    · intro _
      refine ⟨?_, fun walked => absurd rfl walked⟩
      intro ticket call parked
      obtain ⟨ne, before⟩ := PartialMap.of_remove_eq_some parked
      cases (PartialMap.insert_of_ne _ _ ne).symm.trans before
  obtain ⟨inRange, once, inOrder⟩ := shard_steps_in_order run
  exact ⟨⟨_, rfl, rfl, inRange "r" _ rfl⟩, once "r",
    inOrder (soleResolved 1) ⟨_, _, rfl⟩ trivial⟩

/-- Three shards; the tick collects the request while its first result is
handled, and the miner answers the first shard twice. -/
def doubledEvents : List Stimulus :=
  soleStart soleRegistry 3 9 ++ [soleAnswer 0 0 none, ⟨soleRegistry, .pollBegin ["r"]⟩,
    ⟨soleRegistry, .pollRetry (some soleSource)⟩, soleAnswer 0 0 none, soleResolved 0]

/-- An acceptance is of a result for the first shard. -/
def answersFirst : Effect → Bool
  | .accepted _ _ result => result.shardIndex = 0
  | _ => true

/-- A retry next to a parked handler lets two results of the first shard be
accepted: the second one takes the pipeline past the second shard, which never
computed. -/
theorem steps_out_of_order_when_retried_early :
    ∃ events engine, (system id).Run new events engine ∧
      ∃ stimulus, engine.enabled stimulus ∧ ¬ StepInOrder id engine stimulus := by
  refine ⟨doubledEvents, (system id).execute new doubledEvents, ?_, soleResolved 1,
    ⟨_, _, rfl⟩, ?_⟩
  · apply System.Admits.runWith
    refine ⟨⟨trivial, trivial⟩, ⟨⟨rfl, List.nodup_nil, nothing_stalled fun _ => rfl⟩, trivial⟩,
      ⟨rfl, trivial⟩,
      ⟨⟨_, _, rfl⟩, trivial⟩, ⟨⟨_, _, _, _, rfl⟩, trivial⟩, ⟨⟨_, _, _, _, _, rfl⟩, trivial⟩,
      ⟨⟨_, _, _, _, _, _, rfl⟩, trivial⟩, ⟨trivial, trivial⟩, ⟨⟨rfl, List.nodup_singleton _, ?_⟩,
        trivial⟩, ⟨⟨_, _, rfl⟩, trivial⟩, ⟨trivial, trivial⟩, ⟨⟨_, _, rfl⟩, trivial⟩, trivial⟩
    · intro requestId
      rw [List.mem_singleton]
      constructor
      · rintro rfl
        exact ⟨nofun, rfl⟩
      · rintro ⟨present, -⟩
        by_contra ne
        apply present
        show ((PartialMap.empty.insert "r" _).insert "r" _) requestId = none
        rw [PartialMap.insert_of_ne _ _ ne, PartialMap.insert_of_ne _ _ ne]
        rfl
  · intro inOrder
    obtain ⟨moves, -⟩ := inOrder "r" _ rfl
    have onlyFirst : (((system id).execute new doubledEvents).history "r").all answersFirst =
        true := by decide
    cases moves _ rfl with
    | stays shards pos token => cases pos
    | @nextShard _ _ result _ shards accepted unused step derived pos token input =>
        have first : decide (result.shardIndex = 0) = true :=
          List.all_eq_true.mp onlyFirst _ accepted
        have second : 1 = result.shardIndex := congrArg StepKey.shardIndex (Option.some.inj step)
        rw [← second] at first
        cases first
    | nextToken shards accepted unused step lastShard answer pos token input => cases pos

end ShardEngine

end StratumBridge.Shard
