import StratumBridge.Shard.Engine
import StratumBridge.Transition.History
import StratumBridge.Transition.Run

/-!
# Runs of the shard engine

The engine as a system of events, and the account of everything a single event
can do to one request: its pipeline, its parked calls and its history.
`Change` lists the outcomes; it is built from the outcomes of the two stretches
of code that several events share, the look-up of experts and the completion of
a step.
-/

namespace StratumBridge.Shard

open Data Rpc Wire Transition

/-- What can happen to the engine. -/
inductive Event
  | receivePrompt (requestId : RequestId) (promptHex : String)
  | shardResult (wallet : Wallet) (result : OpoiShardResult)
  | resolved (ticket : Ticket) (source : Option ModelSource)
  | submitted (ticket : Ticket) (submitted stored : Bool)
  | sized (ticket : Ticket) (minVramMb : Option Nat)
  | joined (ticket : Ticket) (output : Option ShardOutputWire)
  /-- The session of a parked handler ends, and the handler with it. -/
  | dropped (ticket : Ticket)
  | disconnect (wallet : Wallet)
  | pollBegin (stalled : List RequestId)
  | pollRetry (source : Option ModelSource)
  | pollListing (requests : Option (List OpoiRequest))
  | pollManifest (manifest : Option ModelManifest)
  | pollGraph (graph : Option ModelGraph)
  | pollSource (source : Option ModelSource)
  | pollClaim (claimed eligible : Bool)

/-- The events of the poll tick. -/
def Event.isPoll : Event → Bool
  | pollBegin _ | pollRetry _ | pollListing _ | pollManifest _ | pollGraph _ | pollSource _
  | pollClaim _ _ => true
  | _ => false

/-- An event together with the registry it finds. -/
structure Stimulus where
  registry : MinerRegistry
  event : Event

/-- The request an effect is about. -/
def Effect.requestId : Effect → RequestId
  | started requestId => requestId
  | delegated requestId => requestId
  | shardAssign _ _ assign => assign.requestId
  | accepted _ _ result => result.requestId
  | rejected _ requestId _ => requestId
  | submitShard requestId _ _ => requestId
  | joinRequested _ request => request.requestId
  | advanced _ requestId => requestId
  | walked _ requestId => requestId
  | stalled requestId => requestId
  | createSubmission row _ => row.requestId
  | dropped requestId => requestId
  | panicked requestId => requestId

/-- The effects a dispatch may leave. -/
def Effect.isLine : Effect → Bool
  | shardAssign _ _ _ | dropped _ | panicked _ => true
  | _ => false

/-- Two pipelines at the same place: dispatching may only have opened a
walk. -/
structure SamePlace (pipeline after : PipelineState) : Prop where
  shards : after.shards = pipeline.shards
  pos : after.pos = pipeline.pos
  tokenIndex : after.tokenIndex = pipeline.tokenIndex
  currentInput : after.currentInput = pipeline.currentInput

theorem SamePlace.refl (pipeline : PipelineState) : SamePlace pipeline pipeline :=
  ⟨rfl, rfl, rfl, rfl⟩

theorem SamePlace.trans {first second third : PipelineState} (one : SamePlace first second)
    (two : SamePlace second third) : SamePlace first third :=
  ⟨two.shards.trans one.shards, two.pos.trans one.pos, two.tokenIndex.trans one.tokenIndex,
    two.currentInput.trans one.currentInput⟩

namespace ShardEngine

/-- One event. -/
def next (sha256 : Digest) (engine : ShardEngine) (stimulus : Stimulus) : ShardEngine :=
  match stimulus.event with
  | .receivePrompt requestId promptHex => receivePrompt requestId promptHex engine
  | .shardResult wallet result => handleShardResult wallet result engine
  | .resolved ticket source => resumeResolved sha256 stimulus.registry ticket source engine
  | .submitted ticket submitted stored =>
      resumeSubmitted sha256 stimulus.registry ticket submitted stored engine
  | .sized ticket minVramMb => resumeSized ticket minVramMb engine
  | .joined ticket output => resumeJoined stimulus.registry ticket output engine
  | .dropped ticket => dropCall ticket engine
  | .disconnect wallet => onDisconnect wallet engine
  | .pollBegin stalled => beginPoll stalled engine
  | .pollRetry source => resumeRetry stimulus.registry source engine
  | .pollListing requests => resumeListing requests engine
  | .pollManifest manifest => resumeManifest manifest engine
  | .pollGraph graph => resumeGraph graph engine
  | .pollSource source => resumeSource source engine
  | .pollClaim claimed eligible => resumeClaim stimulus.registry claimed eligible engine

/-- An answer finds somebody who waits for it, experts answer only for a step that
passes the checks of their join, and a tick starts when the one before has ended,
with exactly the stalled requests. -/
def enabled (engine : ShardEngine) (stimulus : Stimulus) : Prop :=
  match stimulus.event with
  | .resolved ticket _ => ∃ wallet result, engine.calls ticket = some (.resolving wallet result)
  | .submitted ticket _ _ =>
      ∃ wallet result source, engine.calls ticket = some (.submitting wallet result source)
  | .sized ticket _ => ∃ step, engine.calls ticket = some (.sizing step)
  | .joined ticket output =>
      ∃ step, engine.calls ticket = some (.joining step) ∧ (output ≠ none → step.Joinable)
  | .dropped ticket => ∃ call, engine.calls ticket = some call
  | .pollBegin stalled =>
      engine.poll = .idle ∧ stalled.Nodup ∧
        ∀ requestId, requestId ∈ stalled ↔ engine.Stalled requestId
  | .pollRetry _ => ∃ requestId rest, engine.poll = .retrying requestId rest
  | .pollListing _ => engine.poll = .listing
  | .pollManifest _ => ∃ req rest, engine.poll = .manifest req rest
  | .pollGraph _ => ∃ req rest manifest promptHex, engine.poll = .graph req rest manifest promptHex
  | .pollSource _ =>
      ∃ req rest manifest promptHex graph, engine.poll = .source req rest manifest promptHex graph
  | .pollClaim _ _ =>
      ∃ req rest manifest promptHex graph source,
        engine.poll = .claiming req rest manifest promptHex graph source
  | _ => True

/-- The shard engine as a system of events. -/
def system (sha256 : Digest) : System ShardEngine Stimulus where
  enabled := enabled
  next := next sha256

/-- The effects that are about one request, oldest first. -/
def history (engine : ShardEngine) (requestId : RequestId) : List Effect :=
  historyOf Effect.requestId requestId engine.log

/-- The effects one event adds to a request's history. -/
def sent (sha256 : Digest) (engine : ShardEngine) (stimulus : Stimulus)
    (requestId : RequestId) : List Effect :=
  ((next sha256 engine stimulus).history requestId).drop (engine.history requestId).length

/-! ## The outcome of a dispatch -/

/-- The line `dispatchCurrent` sends. -/
def dispatchLines (registry : MinerRegistry) (last : Option Wallet) (requestId : RequestId)
    (source : ModelSource) (pipeline : PipelineState) : List Effect :=
  match pipeline.shards[pipeline.pos]? with
  | none => [.panicked requestId]
  | some shard =>
      match pipeline.moeLayerWalk with
      | some (layerIdx, pinned) =>
          match registry.get pinned with
          | none => [.dropped requestId]
          | some tx =>
              [.shardAssign pinned tx
                (shardAssignLine requestId pipeline shard source (some layerIdx))]
      | none =>
          ((registry.pickNext last).bind fun wallet =>
            (registry.get wallet).map fun tx =>
              .shardAssign wallet tx
                (shardAssignLine requestId (openWalk pipeline shard wallet) shard source
                  ((openWalk pipeline shard wallet).moeLayerWalk.map Prod.fst))).toList

/-- The pipeline after `dispatchCurrent`: dropped if its pinned wallet is gone,
with a walk opened if it needs one. -/
def dispatched (registry : MinerRegistry) (last : Option Wallet)
    (pipeline : PipelineState) : Option PipelineState :=
  match pipeline.shards[pipeline.pos]? with
  | none => some pipeline
  | some shard =>
      match pipeline.moeLayerWalk with
      | some (_, pinned) => if (registry.get pinned).isSome then some pipeline else none
      | none =>
          match registry.pickNext last with
          | none => some pipeline
          | some wallet => some (openWalk pipeline shard wallet)

theorem samePlace_of_dispatched {registry : MinerRegistry} {last : Option Wallet}
    {pipeline after : PipelineState}
    (stored : dispatched registry last pipeline = some after) : SamePlace pipeline after := by
  unfold dispatched at stored
  split at stored
  · cases stored
    exact .refl _
  · split at stored
    · split at stored
      · cases stored
        exact .refl _
      · cases stored
    · split at stored
      · cases stored
        exact .refl _
      · cases stored
        exact ⟨openWalk_shards .., openWalk_pos .., openWalk_tokenIndex ..,
          openWalk_currentInput ..⟩

/-- The assignment of the request after `dispatchCurrent`. -/
def assignedBy (registry : MinerRegistry) (last : Option Wallet)
    (assigned : Option ShardAssignment) (pipeline : PipelineState) : Option ShardAssignment :=
  match pipeline.shards[pipeline.pos]? with
  | none => assigned
  | some shard =>
      match pipeline.moeLayerWalk with
      | some (layerIdx, pinned) =>
          (registry.get pinned).map fun _ =>
            ⟨pinned, shard.shardIndex, pipeline.tokenIndex, some layerIdx⟩
      | none =>
          match registry.pickNext last with
          | none => assigned
          | some wallet =>
              match registry.get wallet with
              | none => assigned
              | some _ =>
                  some ⟨wallet, shard.shardIndex, pipeline.tokenIndex,
                    (openWalk pipeline shard wallet).moeLayerWalk.map Prod.fst⟩

theorem isLine_of_mem_dispatchLines {registry : MinerRegistry} {last : Option Wallet}
    {requestId : RequestId} {source : ModelSource} {pipeline : PipelineState} {effect : Effect}
    (mem : effect ∈ dispatchLines registry last requestId source pipeline) :
    effect.isLine = true := by
  unfold dispatchLines at mem
  split at mem
  · cases List.mem_singleton.mp mem
    rfl
  · split at mem
    · split at mem
      · cases List.mem_singleton.mp mem
        rfl
      · cases List.mem_singleton.mp mem
        rfl
    · simp only [Option.mem_toList, Option.bind_eq_some_iff, Option.map_eq_some_iff] at mem
      rcases mem with ⟨wallet, -, tx, -, rfl⟩
      rfl

/-- A dispatch leaves nothing else. -/
@[simp]
theorem notMem_dispatchLines {registry : MinerRegistry} {last : Option Wallet}
    {requestId : RequestId} {source : ModelSource} {pipeline : PipelineState} {effect : Effect}
    (unsent : ∀ wallet tx assign, effect ≠ .shardAssign wallet tx assign)
    (kept : ∀ about, effect ≠ .dropped about) (calm : ∀ about, effect ≠ .panicked about) :
    effect ∉ dispatchLines registry last requestId source pipeline := by
  intro mem
  have line := isLine_of_mem_dispatchLines mem
  cases effect with
  | shardAssign wallet tx assign => exact unsent wallet tx assign rfl
  | dropped about => exact kept about rfl
  | panicked about => exact calm about rfl
  | _ => cases line

/-! ## Outcomes of the shared stretches -/

/-- The outcomes of `beginExpertStep` for a stored pipeline: the pipeline, the
call and the effects it leaves. -/
inductive ExpertOutcome (interior : Bool) (wallet : Wallet) (result : OpoiShardResult)
    (source : ModelSource) (expertIds : List Nat) (layerIdx : Nat) (pipeline : PipelineState) :
    Option PipelineState → Option Call → List Effect → Prop
  | absent (verdict : routerVerdict expertIds result = .absent) :
      ExpertOutcome interior wallet result source expertIds layerIdx pipeline (some pipeline) none
        [.stalled result.requestId]
  | malformed (verdict : routerVerdict expertIds result = .malformed) :
      ExpertOutcome interior wallet result source expertIds layerIdx pipeline none none
        [.dropped result.requestId]
  | panicked (outside : pipeline.shards[pipeline.pos]? = none) :
      ExpertOutcome interior wallet result source expertIds layerIdx pipeline (some pipeline) none
        [.panicked result.requestId]
  | sizing {step : ExpertStep} (isInterior : step.interior = interior)
      (sameWallet : step.wallet = wallet) (sameResult : step.result = result)
      (sameSource : step.source = source) (sameLayer : step.layerIdx = layerIdx)
      (verdict : routerVerdict expertIds result = .selected step.experts)
      (sameToken : step.tokenIndex = pipeline.tokenIndex) :
      ExpertOutcome interior wallet result source expertIds layerIdx pipeline (some pipeline)
        (some (.sizing step)) []

/-- The outcomes of `completeStep` for a stored pipeline.  `assigned` is the
assignment of the request before. -/
inductive StepOutcome (sha256 : Digest) (registry : MinerRegistry) (last : Option Wallet)
    (assigned : Option ShardAssignment) (ticket : Ticket) (wallet : Wallet)
    (result : OpoiShardResult) (source : ModelSource) (lastToken stored : Bool)
    (pipeline : PipelineState) :
    Option PipelineState → Option ShardAssignment → Option Call → List Effect → Prop
  | unanswered (lastShard : pipeline.pos + 1 = pipeline.shards.length)
      (answer : result.nextTokenId = none) :
      StepOutcome sha256 registry last assigned ticket wallet result source lastToken stored
        pipeline none assigned none [.dropped result.requestId]
  | finalized {tokenId winner} (lastShard : pipeline.pos + 1 = pipeline.shards.length)
      (answer : result.nextTokenId = some tokenId) (isLast : lastToken = true)
      (wins : pipeline.contributions.winner = some winner) :
      StepOutcome sha256 registry last assigned ticket wallet result source lastToken stored
        pipeline none assigned none [.advanced ticket result.requestId,
          .createSubmission
            (finalRow sha256 result.requestId (recordToken pipeline tokenId) winner) stored]
  | unattributed {tokenId} (lastShard : pipeline.pos + 1 = pipeline.shards.length)
      (answer : result.nextTokenId = some tokenId) (isLast : lastToken = true)
      (nobody : pipeline.contributions.winner = none) :
      StepOutcome sha256 registry last assigned ticket wallet result source lastToken stored
        pipeline none assigned none
        [.advanced ticket result.requestId, .dropped result.requestId]
  | nextToken {tokenId} (lastShard : pipeline.pos + 1 = pipeline.shards.length)
      (answer : result.nextTokenId = some tokenId) (notLast : lastToken = false) :
      StepOutcome sha256 registry last assigned ticket wallet result source lastToken stored
        pipeline
        (dispatched registry last (nextToken (recordToken pipeline tokenId) tokenId))
        (assignedBy registry last assigned (nextToken (recordToken pipeline tokenId) tokenId)) none
        (.advanced ticket result.requestId ::
          dispatchLines registry last result.requestId source
            (nextToken (recordToken pipeline tokenId) tokenId))
  | nextShard (notLastShard : pipeline.pos + 1 ≠ pipeline.shards.length)
      (dense : pipeline.expertGroupFor pipeline.pos = none) :
      StepOutcome sha256 registry last assigned ticket wallet result source lastToken stored
        pipeline (dispatched registry last (nextShard pipeline result.output))
        (assignedBy registry last assigned (nextShard pipeline result.output)) none
        (.advanced ticket result.requestId ::
          dispatchLines registry last result.requestId source (nextShard pipeline result.output))
  | experts {expertIds layerIdx after call emitted}
      (notLastShard : pipeline.pos + 1 ≠ pipeline.shards.length)
      (group : pipeline.expertGroupFor pipeline.pos = some expertIds)
      (outcome : ExpertOutcome false wallet result source expertIds layerIdx pipeline after call
        emitted)
      (layer : ∀ asked, result.moeLayerStep = some asked → layerIdx = asked) :
      StepOutcome sha256 registry last assigned ticket wallet result source lastToken stored
        pipeline after assigned call emitted

/-! ## Everything a step can do to a request -/

/-- The calls after a handler ran: its own entry is replaced. -/
def setCall (calls : PartialMap Ticket Call) (ticket : Ticket) (call : Option Call) :
    PartialMap Ticket Call :=
  Function.update calls ticket call

/-- The placeholder `resumeSized` leaves, if the layer is walked. -/
def markedBy (step : ExpertStep) (pipeline : Option PipelineState)
    (assigned : Option ShardAssignment) : Option ShardAssignment :=
  match pipeline.bind PipelineState.moeLayerWalk with
  | some (_, pinned) => some (busyMarker step pinned)
  | none => assigned

/-- A result is routed to the resumption of the shard its pipeline is at. -/
def Resumes (pipeline : PipelineState) (result : OpoiShardResult) : Prop :=
  ∃ layerIdx shard, result.moeLayerStep = some layerIdx ∧
    pipeline.shards[pipeline.pos]? = some shard ∧
    resumesShard layerIdx (layerRange shard).2 pipeline.manifest.numLayers = true

/-- The outcomes of one event for one request: the pipeline before and after,
the assignment after, the calls after, and the effects added to the request's
history. -/
inductive Change (sha256 : Digest) (engine : ShardEngine) (requestId : RequestId) :
    Stimulus → Option PipelineState → Option PipelineState → Option ShardAssignment →
      PartialMap Ticket Call → List Effect → Prop
  | idle {stimulus pipeline assigned calls}
      (fewer : assigned = engine.assignments requestId ∨ assigned = none)
      (kept : ∀ ticket call, call.requestId = requestId →
        (calls ticket = some call ↔ engine.calls ticket = some call)) :
      Change sha256 engine requestId stimulus pipeline pipeline assigned calls []
  | rejected {registry wallet result pipeline error} (about : result.requestId = requestId) :
      Change sha256 engine requestId ⟨registry, .shardResult wallet result⟩ pipeline pipeline
        (engine.assignments requestId) engine.calls [.rejected wallet requestId error]
  | orphaned {registry wallet result} (about : result.requestId = requestId)
      (assigned : engine.assignments requestId =
        some ⟨wallet, result.shardIndex, result.tokenIndex, result.moeLayerStep⟩) :
      Change sha256 engine requestId ⟨registry, .shardResult wallet result⟩ none none none
        engine.calls
        [.accepted engine.nextTicket wallet result,
          .rejected wallet requestId .unknownRequest]
  | accepted {registry wallet result pipeline} (about : result.requestId = requestId)
      (assigned : engine.assignments requestId =
        some ⟨wallet, result.shardIndex, result.tokenIndex, result.moeLayerStep⟩) :
      Change sha256 engine requestId ⟨registry, .shardResult wallet result⟩ (some pipeline)
        (some pipeline) none
        (setCall engine.calls engine.nextTicket (some (.resolving wallet result)))
        [.accepted engine.nextTicket wallet result]
  | unresolved {registry ticket wallet result pipeline}
      (parked : engine.calls ticket = some (.resolving wallet result))
      (about : result.requestId = requestId) :
      Change sha256 engine requestId ⟨registry, .resolved ticket none⟩ pipeline pipeline
        (engine.assignments requestId) (setCall engine.calls ticket none)
        [.rejected wallet requestId .unknownRequest]
  | lost {stimulus ticket call emitted} (parked : engine.calls ticket = some call)
      (about : call.requestId = requestId)
      (quiet : emitted = [] ∨ emitted = [.rejected call.wallet requestId .unknownRequest]) :
      Change sha256 engine requestId stimulus none none (engine.assignments requestId)
        (setCall engine.calls ticket none) emitted
  | misplaced {registry ticket source wallet result pipeline}
      (parked : engine.calls ticket = some (.resolving wallet result))
      (about : result.requestId = requestId)
      (outside : pipeline.shards[pipeline.pos]? = none) :
      Change sha256 engine requestId ⟨registry, .resolved ticket (some source)⟩ (some pipeline)
        (some (contribute wallet pipeline)) (engine.assignments requestId)
        (setCall engine.calls ticket none) [.panicked requestId]
  | ungrouped {registry ticket source wallet result pipeline}
      (parked : engine.calls ticket = some (.resolving wallet result))
      (about : result.requestId = requestId) (resumes : Resumes pipeline result)
      (dense : pipeline.expertGroupFor pipeline.pos = none) :
      Change sha256 engine requestId ⟨registry, .resolved ticket (some source)⟩ (some pipeline)
        none (engine.assignments requestId) (setCall engine.calls ticket none)
        [.dropped requestId]
  | interior {registry ticket source wallet result pipeline shard layerIdx expertIds after call
        emitted}
      (parked : engine.calls ticket = some (.resolving wallet result))
      (about : result.requestId = requestId) (layer : result.moeLayerStep = some layerIdx)
      (found : pipeline.shards[pipeline.pos]? = some shard)
      (resumes : resumesShard layerIdx (layerRange shard).2 pipeline.manifest.numLayers = true)
      (group : pipeline.expertGroupFor pipeline.pos = some expertIds)
      (outcome : ExpertOutcome true wallet result source expertIds layerIdx
        (contribute wallet pipeline) after call emitted) :
      Change sha256 engine requestId ⟨registry, .resolved ticket (some source)⟩ (some pipeline)
        after (engine.assignments requestId) (setCall engine.calls ticket call) emitted
  | submitting {registry ticket source wallet result pipeline}
      (parked : engine.calls ticket = some (.resolving wallet result))
      (about : result.requestId = requestId) (lastToken : isLastToken pipeline = true)
      (finishes : ¬ Resumes pipeline result) :
      Change sha256 engine requestId ⟨registry, .resolved ticket (some source)⟩ (some pipeline)
        (some (contribute wallet pipeline)) (engine.assignments requestId)
        (setCall engine.calls ticket (some (.submitting wallet result source)))
        [.submitShard requestId result.shardIndex result.outputHash]
  | completed {registry ticket source wallet result pipeline after assigned call emitted}
      (parked : engine.calls ticket = some (.resolving wallet result))
      (about : result.requestId = requestId) (notLastToken : isLastToken pipeline = false)
      (outcome : StepOutcome sha256 registry engine.lastAssigned (engine.assignments requestId)
        ticket wallet result source false false (contribute wallet pipeline) after assigned call
        emitted) (finishes : ¬ Resumes pipeline result) :
      Change sha256 engine requestId ⟨registry, .resolved ticket (some source)⟩ (some pipeline)
        after assigned (setCall engine.calls ticket call) emitted
  | unsubmitted {registry ticket stored wallet result source pipeline}
      (parked : engine.calls ticket = some (.submitting wallet result source))
      (about : result.requestId = requestId) :
      Change sha256 engine requestId ⟨registry, .submitted ticket false stored⟩ pipeline pipeline
        (engine.assignments requestId) (setCall engine.calls ticket none) [.stalled requestId]
  | submitted {registry ticket stored wallet result source pipeline after assigned call emitted}
      (parked : engine.calls ticket = some (.submitting wallet result source))
      (about : result.requestId = requestId)
      (outcome : StepOutcome sha256 registry engine.lastAssigned (engine.assignments requestId)
        ticket wallet result source true stored pipeline after assigned call emitted) :
      Change sha256 engine requestId ⟨registry, .submitted ticket true stored⟩ (some pipeline)
        after assigned (setCall engine.calls ticket call) emitted
  | sized {registry ticket minVramMb step pipeline}
      (parked : engine.calls ticket = some (.sizing step))
      (about : step.result.requestId = requestId) :
      Change sha256 engine requestId ⟨registry, .sized ticket minVramMb⟩ pipeline pipeline
        (markedBy step pipeline (engine.assignments requestId))
        (setCall engine.calls ticket (some (.joining step)))
        [.joinRequested ticket (joinRequest step (minVramMb.getD 0))]
  | unjoined {registry ticket step pipeline}
      (parked : engine.calls ticket = some (.joining step))
      (about : step.result.requestId = requestId) :
      Change sha256 engine requestId ⟨registry, .joined ticket none⟩ pipeline pipeline none
        (setCall engine.calls ticket none) [.stalled requestId]
  | walked {registry ticket output step pipeline}
      (parked : engine.calls ticket = some (.joining step))
      (about : step.result.requestId = requestId) (isInterior : step.interior = true)
      (joinable : step.Joinable) :
      Change sha256 engine requestId ⟨registry, .joined ticket (some output)⟩ (some pipeline)
        (dispatched registry engine.lastAssigned (nextLayer pipeline step.layerIdx output))
        (assignedBy registry engine.lastAssigned (engine.assignments requestId)
          (nextLayer pipeline step.layerIdx output))
        (setCall engine.calls ticket none)
        (.walked ticket requestId ::
          dispatchLines registry engine.lastAssigned requestId step.source
            (nextLayer pipeline step.layerIdx output))
  | handedOver {registry ticket output step pipeline}
      (parked : engine.calls ticket = some (.joining step))
      (about : step.result.requestId = requestId) (isBoundary : step.interior = false)
      (joinable : step.Joinable) :
      Change sha256 engine requestId ⟨registry, .joined ticket (some output)⟩ (some pipeline)
        (dispatched registry engine.lastAssigned (nextShard pipeline output))
        (assignedBy registry engine.lastAssigned (engine.assignments requestId)
          (nextShard pipeline output))
        (setCall engine.calls ticket none)
        (.advanced ticket requestId ::
          dispatchLines registry engine.lastAssigned requestId step.source
            (nextShard pipeline output))
  | abandoned {registry ticket call pipeline} (parked : engine.calls ticket = some call)
      (about : call.requestId = requestId) :
      Change sha256 engine requestId ⟨registry, .dropped ticket⟩ pipeline pipeline
        (engine.assignments requestId) (setCall engine.calls ticket none) []
  | redispatched {registry source rest pipeline}
      (polling : engine.poll = .retrying requestId rest) :
      Change sha256 engine requestId ⟨registry, .pollRetry (some source)⟩ (some pipeline)
        (dispatched registry engine.lastAssigned pipeline)
        (assignedBy registry engine.lastAssigned (engine.assignments requestId) pipeline)
        engine.calls
        (dispatchLines registry engine.lastAssigned requestId source pipeline)
  | delegated {registry req rest manifest promptHex graph source pipeline}
      (polling : engine.poll = .claiming req rest manifest promptHex graph source)
      (about : req.requestId = requestId) :
      Change sha256 engine requestId ⟨registry, .pollClaim true true⟩ pipeline pipeline
        (engine.assignments requestId) engine.calls [.delegated requestId]
  | started {registry req rest manifest promptHex graph source before}
      (polling : engine.poll = .claiming req rest manifest promptHex graph source)
      (about : req.requestId = requestId) :
      Change sha256 engine requestId ⟨registry, .pollClaim true false⟩ before
        (dispatched registry engine.lastAssigned (initialPipeline req manifest graph promptHex))
        (assignedBy registry engine.lastAssigned (engine.assignments requestId)
          (initialPipeline req manifest graph promptHex))
        engine.calls
        (.started requestId ::
          dispatchLines registry engine.lastAssigned requestId source
            (initialPipeline req manifest graph promptHex))

/-! ## An example deployment -/

/-- Without pipelines nothing is stalled. -/
theorem nothing_stalled {engine : ShardEngine}
    (absent : ∀ requestId, engine.pipelines requestId = none) (requestId : RequestId) :
    requestId ∈ [] ↔ engine.Stalled requestId := by
  simp [Stalled, absent]

/-- One connected miner. -/
def soleRegistry : MinerRegistry :=
  MinerRegistry.new.register "miner" 0

def soleManifest : ModelManifest :=
  ⟨"model", "DENSE", 4, "root", "ACTIVE"⟩

def soleSource : ModelSource :=
  ⟨"gguf", "tokenizer", "tokenizer-hash"⟩

/-- A graph of dense shards. -/
def soleGraph (shards : Nat) : ModelGraph :=
  ⟨(List.range shards).map fun shardIndex => ⟨shardIndex, "DENSE", some 0, some 4, none⟩⟩

def soleRequest (maxTokens : UInt32) : OpoiRequest :=
  ⟨"r", "model", "prompt-hash", maxTokens⟩

/-- The intake of request `"r"` and the tick that starts it, over the given
number of shards. -/
def soleStart (registry : MinerRegistry) (shards : Nat) (maxTokens : UInt32) : List Stimulus :=
  [⟨registry, .receivePrompt "r" "00"⟩, ⟨registry, .pollBegin []⟩,
    ⟨registry, .pollListing (some [soleRequest maxTokens])⟩,
    ⟨registry, .pollManifest (some soleManifest)⟩, ⟨registry, .pollGraph (some (soleGraph shards))⟩,
    ⟨registry, .pollSource (some soleSource)⟩, ⟨registry, .pollClaim true false⟩]

/-- A result for one shard of `"r"`. -/
def soleResult (shardIndex tokenIndex : Nat) (nextTokenId : Option TokenId) : OpoiShardResult where
  requestId := "r"
  shardIndex := shardIndex
  tokenIndex := tokenIndex
  outputHash := ""
  output := ⟨[], ""⟩
  nextTokenId := nextTokenId
  nextTokenIds := none
  routerSelection := none
  moeLayerStep := none

/-- The miner's answer for one shard of `"r"`. -/
def soleAnswer (shardIndex tokenIndex : Nat) (nextTokenId : Option TokenId) : Stimulus :=
  ⟨soleRegistry, .shardResult "miner" (soleResult shardIndex tokenIndex nextTokenId)⟩

/-- The model source for the handler under a ticket. -/
def soleResolved (ticket : Ticket) : Stimulus :=
  ⟨soleRegistry, .resolved ticket (some soleSource)⟩

/-- The experts' answer, when the given miners are connected. -/
def walkJoined (registry : MinerRegistry) (ticket : Ticket) : Stimulus :=
  ⟨registry, .joined ticket (some ⟨[], ""⟩)⟩

end ShardEngine

end StratumBridge.Shard
