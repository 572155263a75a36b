import StratumBridge.Registry.Contributions
import StratumBridge.Registry.Core
import StratumBridge.Wire.Codec

/-!
# The shard engine

`ShardEngine` as a state with one function for each stretch of code between two
awaits.  A handler of `opoi.shard_result` may park four times: on the model
source, on the on-chain submission, on the memory estimate and on the expert
join; a parked handler is a `Call` that holds its locals.  The poll tick is a
single task, and `Poll` is where it stands.

What the engine sends, records and logs is appended to `log`, which nothing
reads back.
-/

namespace StratumBridge.Shard

open Data Rpc Wire

/-- `PipelineState`. -/
structure PipelineState where
  shards : List ShardDescriptor
  manifest : ModelManifest
  promptHash : String
  maxTokens : UInt32
  pos : Nat
  tokenIndex : Nat
  currentInput : ShardInputWire
  originalPromptHex : String
  generatedTokenIds : List TokenId
  contributions : Contributions
  expertGroups : PartialMap (Nat × Nat) (List Nat)
  moeLayerWalk : Option (Nat × Wallet)

/-- The layer range of a shard, with the defaults the engine uses. -/
def layerRange (shard : ShardDescriptor) : Nat × Nat :=
  (shard.layerStart.getD 0, shard.layerEnd.getD 0)

/-- `expert_group_for`. -/
def PipelineState.expertGroupFor (pipeline : PipelineState) (pos : Nat) : Option (List Nat) :=
  (pipeline.shards[pos]?).bind fun shard =>
    (pipeline.expertGroups (layerRange shard)).filter fun ids => ids ≠ []

/-- `ShardAssignment`. -/
structure ShardAssignment where
  wallet : Wallet
  shardIndex : Nat
  tokenIndex : Nat
  moeLayerStep : Option Nat
  deriving DecidableEq

/-- `SelectedExpert`. -/
structure SelectedExpert where
  expertId : Nat
  weight : F32
  shape : List Nat
  data : List F32
  deriving DecidableEq

/-- The locals of a handler on its way through the experts of one layer.  An
interior layer resumes the same shard, a boundary layer hands over to the
next. -/
structure ExpertStep where
  interior : Bool
  wallet : Wallet
  result : OpoiShardResult
  source : ModelSource
  expertIds : List Nat
  layerIdx : Nat
  layerStart : Nat
  layerEnd : Nat
  tokenIndex : Nat
  modelId : String
  ggufSha256 : String
  experts : List SelectedExpert
  deriving DecidableEq

/-- The checks `dispatch_and_join` makes before it looks for hosts: there is an
expert, and the layer is in its range. -/
def ExpertStep.Joinable (step : ExpertStep) : Prop :=
  step.experts ≠ [] ∧ step.layerStart ≤ step.layerIdx ∧ step.layerIdx < step.layerEnd

instance (step : ExpertStep) : Decidable step.Joinable :=
  inferInstanceAs (Decidable (_ ∧ _ ∧ _))

/-- A parked `handle_shard_result_inner`. -/
inductive Call
  | resolving (wallet : Wallet) (result : OpoiShardResult)
  | submitting (wallet : Wallet) (result : OpoiShardResult) (source : ModelSource)
  | sizing (step : ExpertStep)
  | joining (step : ExpertStep)
  deriving DecidableEq

namespace Call

/-- The result a call is about. -/
def result : Call → OpoiShardResult
  | resolving _ result => result
  | submitting _ result _ => result
  | sizing step => step.result
  | joining step => step.result

/-- The request a call is about. -/
def requestId (call : Call) : RequestId :=
  call.result.requestId

/-- The wallet that delivered the result. -/
def wallet : Call → Wallet
  | resolving wallet _ => wallet
  | submitting wallet _ _ => wallet
  | sizing step => step.wallet
  | joining step => step.wallet

end Call

/-- Where the poll tick stands.  A panic ends the task that runs it, and no tick
follows. -/
inductive Poll
  | idle
  | stopped
  | retrying (requestId : RequestId) (rest : List RequestId)
  | listing
  | manifest (req : OpoiRequest) (rest : List OpoiRequest)
  | graph (req : OpoiRequest) (rest : List OpoiRequest) (manifest : ModelManifest)
      (promptHex : String)
  | source (req : OpoiRequest) (rest : List OpoiRequest) (manifest : ModelManifest)
      (promptHex : String) (graph : ModelGraph)
  | claiming (req : OpoiRequest) (rest : List OpoiRequest) (manifest : ModelManifest)
      (promptHex : String) (graph : ModelGraph) (source : ModelSource)

/-- The arguments of `dispatch_and_join`. -/
structure JoinRequest where
  requestId : RequestId
  layerStart : Nat
  layerEnd : Nat
  layerIdx : Nat
  tokenIndex : Nat
  modelId : String
  ggufUrl : String
  ggufSha256 : String
  experts : List SelectedExpert
  minVramMb : Nat
  excludeWallets : List Wallet
  deriving DecidableEq

/-- What the engine does to its surroundings, and where a call leaves its
mark on the pipeline. -/
inductive Effect
  | started (requestId : RequestId)
  | delegated (requestId : RequestId)
  | shardAssign (wallet : Wallet) (tx : Channel) (assign : OpoiShardAssign)
  | accepted (ticket : Ticket) (wallet : Wallet) (result : OpoiShardResult)
  | rejected (wallet : Wallet) (requestId : RequestId) (error : AppError)
  | submitShard (requestId : RequestId) (shardIndex : Nat) (outputHash : String)
  | joinRequested (ticket : Ticket) (request : JoinRequest)
  | advanced (ticket : Ticket) (requestId : RequestId)
  | walked (ticket : Ticket) (requestId : RequestId)
  | stalled (requestId : RequestId)
  | createSubmission (row : NewSubmission) (stored : Bool)
  | dropped (requestId : RequestId)
  | panicked (requestId : RequestId)
  deriving DecidableEq

/-- `ShardEngine`, with its parked calls, its poll tick and its history. -/
structure ShardEngine where
  pipelines : PartialMap RequestId PipelineState
  assignments : PartialMap RequestId ShardAssignment
  lastAssigned : Option Wallet
  promptCache : PartialMap RequestId String
  calls : PartialMap Ticket Call
  nextTicket : Ticket
  poll : Poll
  log : List Effect

namespace ShardEngine

/-- `ShardEngine::new`. -/
def new : ShardEngine where
  pipelines := PartialMap.empty
  assignments := PartialMap.empty
  lastAssigned := none
  promptCache := PartialMap.empty
  calls := PartialMap.empty
  nextTicket := 0
  poll := .idle
  log := []

/-- Append to the history. -/
def emit (engine : ShardEngine) (effects : List Effect) : ShardEngine :=
  { engine with log := engine.log ++ effects }

/-- Store a pipeline. -/
def setPipeline (engine : ShardEngine) (requestId : RequestId) (pipeline : PipelineState) :
    ShardEngine :=
  { engine with pipelines := engine.pipelines.insert requestId pipeline }

/-- `self.pipelines.remove`, with the error line that goes with it. -/
def dropPipeline (engine : ShardEngine) (requestId : RequestId) : ShardEngine :=
  { engine with
    pipelines := engine.pipelines.remove requestId
    log := engine.log ++ [.dropped requestId] }

/-- A handler returns. -/
def endCall (engine : ShardEngine) (ticket : Ticket) : ShardEngine :=
  { engine with calls := engine.calls.remove ticket }

/-- A handler parks. -/
def park (engine : ShardEngine) (ticket : Ticket) (call : Call) : ShardEngine :=
  { engine with calls := engine.calls.insert ticket call }

/-- `receive_prompt`. -/
def receivePrompt (requestId : RequestId) (promptHex : String) (engine : ShardEngine) :
    ShardEngine :=
  { engine with promptCache := engine.promptCache.insert requestId promptHex }

/-! ## Dispatch -/

/-- The assignment line for a pipeline's current step. -/
def shardAssignLine (requestId : RequestId) (pipeline : PipelineState) (shard : ShardDescriptor)
    (source : ModelSource) (moeLayerStep : Option Nat) : OpoiShardAssign where
  requestId := requestId
  modelId := pipeline.manifest.modelId
  shardIndex := shard.shardIndex
  layerStart := shard.layerStart.getD 0
  layerEnd := shard.layerEnd.getD 0
  totalLayers := pipeline.manifest.numLayers
  tokenIndex := pipeline.tokenIndex
  maxTokens := pipeline.maxTokens
  input := pipeline.currentInput
  modelGgufUrl := source.ggufUrl
  modelGgufSha256 := pipeline.manifest.backbonePomRoot
  modelTokenizerUrl := if pipeline.pos = 0 then some source.tokenizerUrl else none
  modelTokenizerSha256 := if pipeline.pos = 0 then some source.tokenizerSha256 else none
  moeLayerStep := moeLayerStep

/-- The end of `dispatch_current`: record the assignment and send the line. -/
def sendStep (requestId : RequestId) (pipeline : PipelineState) (shard : ShardDescriptor)
    (source : ModelSource) (wallet : Wallet) (tx : Channel) (moeLayerStep : Option Nat)
    (engine : ShardEngine) : ShardEngine :=
  { engine with
    assignments := engine.assignments.insert requestId
      ⟨wallet, shard.shardIndex, pipeline.tokenIndex, moeLayerStep⟩
    log := engine.log ++
      [.shardAssign wallet tx (shardAssignLine requestId pipeline shard source moeLayerStep)] }

/-- The walk a fresh dispatch of a shard opens. -/
def openWalk (pipeline : PipelineState) (shard : ShardDescriptor) (wallet : Wallet) :
    PipelineState :=
  if (pipeline.expertGroupFor pipeline.pos).isSome then
    { pipeline with moeLayerWalk := some (shard.layerStart.getD 0, wallet) }
  else
    pipeline

section OpenWalk

variable (pipeline : PipelineState) (shard : ShardDescriptor) (wallet : Wallet)

@[simp]
theorem openWalk_shards : (openWalk pipeline shard wallet).shards = pipeline.shards := by
  unfold openWalk
  split <;> rfl

@[simp]
theorem openWalk_pos : (openWalk pipeline shard wallet).pos = pipeline.pos := by
  unfold openWalk
  split <;> rfl

@[simp]
theorem openWalk_tokenIndex :
    (openWalk pipeline shard wallet).tokenIndex = pipeline.tokenIndex := by
  unfold openWalk
  split <;> rfl

@[simp]
theorem openWalk_currentInput :
    (openWalk pipeline shard wallet).currentInput = pipeline.currentInput := by
  unfold openWalk
  split <;> rfl

end OpenWalk

/-- `dispatch_current`. -/
def dispatchCurrent (registry : MinerRegistry) (requestId : RequestId) (source : ModelSource)
    (engine : ShardEngine) : ShardEngine :=
  match engine.pipelines requestId with
  | none => engine
  | some pipeline =>
      match pipeline.shards[pipeline.pos]? with
      | none => engine.emit [.panicked requestId]
      | some shard =>
          match pipeline.moeLayerWalk with
          | some (layerIdx, pinned) =>
              match registry.get pinned with
              | none =>
                  { engine.dropPipeline requestId with
                    assignments := engine.assignments.remove requestId }
              | some tx =>
                  sendStep requestId pipeline shard source pinned tx (some layerIdx) engine
          | none =>
              match registry.pickNext engine.lastAssigned with
              | none => engine
              | some wallet =>
                  let opened := openWalk pipeline shard wallet
                  let moved :=
                    { engine.setPipeline requestId opened with lastAssigned := some wallet }
                  match registry.get wallet with
                  | none => moved
                  | some tx =>
                      sendStep requestId opened shard source wallet tx
                        (opened.moeLayerWalk.map Prod.fst) moved

/-! ## Finalization -/

/-- The row a finished pipeline is recorded as. -/
def finalRow (sha256 : Digest) (requestId : RequestId) (pipeline : PipelineState)
    (wallet : Wallet) : NewSubmission where
  minerWallet := wallet
  requestId := requestId
  model := some pipeline.manifest.modelId
  promptHash := some pipeline.promptHash
  responseHash := (buildResponse sha256 pipeline.generatedTokenIds).1
  responseHex := (buildResponse sha256 pipeline.generatedTokenIds).2
  tokenCount := pipeline.generatedTokenIds.length % 2 ^ 32

/-- `finalize_pipeline`.  `stored` is whether the database takes the row. -/
def finalizePipeline (sha256 : Digest) (requestId : RequestId) (stored : Bool)
    (engine : ShardEngine) : ShardEngine :=
  match engine.pipelines requestId with
  | none => engine
  | some pipeline =>
      match pipeline.contributions.winner with
      | none => engine.dropPipeline requestId
      | some wallet =>
          { engine with
            pipelines := engine.pipelines.remove requestId
            log := engine.log ++
              [.createSubmission (finalRow sha256 requestId pipeline wallet) stored] }

/-! ## Experts -/

/-- The experts a layer's router selected, each with the whole output. -/
def selectedExperts (selections : List RouterExpertChoice) (output : ShardOutputWire)
    (data : List F32) : List SelectedExpert :=
  selections.map fun choice => ⟨choice.expertId, choice.weight, output.shape, data⟩

/-- What the router selection and the output of a result amount to. -/
inductive RouterVerdict
  | absent
  | malformed
  | selected (experts : List SelectedExpert)
  deriving DecidableEq

/-- The checks `handle_expert_group_result` and `handle_moe_interior_layer_result`
make before they look for hosts. -/
def routerVerdict (expertIds : List Nat) (result : OpoiShardResult) : RouterVerdict :=
  match result.routerSelection with
  | none => .absent
  | some perLayer =>
      if perLayer = [] ∨ [] ∈ perLayer then
        .malformed
      else if ∃ layer ∈ perLayer, ∃ choice ∈ layer, choice.expertId ∉ expertIds then
        .malformed
      else
        match hexToF32 result.output.dataHex with
        | none => .malformed
        | some data => .selected (selectedExperts (perLayer.getLast?.getD []) result.output data)

/-- The common part of `handle_expert_group_result` and
`handle_moe_interior_layer_result` up to the memory estimate. -/
def beginExpertStep (interior : Bool) (ticket : Ticket) (wallet : Wallet)
    (result : OpoiShardResult) (source : ModelSource) (expertIds : List Nat) (layerIdx : Nat)
    (engine : ShardEngine) : ShardEngine :=
  match routerVerdict expertIds result with
  | .absent => (engine.endCall ticket).emit [.stalled result.requestId]
  | .malformed => (engine.endCall ticket).dropPipeline result.requestId
  | .selected experts =>
      match engine.pipelines result.requestId with
      | none => (engine.endCall ticket).emit [.rejected wallet result.requestId .unknownRequest]
      | some pipeline =>
          match pipeline.shards[pipeline.pos]? with
          | none => (engine.endCall ticket).emit [.panicked result.requestId]
          | some shard =>
              engine.park ticket <| .sizing
                { interior := interior
                  wallet := wallet
                  result := result
                  source := source
                  expertIds := expertIds
                  layerIdx := layerIdx
                  layerStart := (layerRange shard).1
                  layerEnd := (layerRange shard).2
                  tokenIndex := pipeline.tokenIndex
                  modelId := pipeline.manifest.modelId
                  ggufSha256 := pipeline.manifest.backbonePomRoot
                  experts := experts }

/-- The arguments `dispatch_and_join` is called with. -/
def joinRequest (step : ExpertStep) (minVramMb : Nat) : JoinRequest where
  requestId := step.result.requestId
  layerStart := step.layerStart
  layerEnd := step.layerEnd
  layerIdx := step.layerIdx
  tokenIndex := step.tokenIndex
  modelId := step.modelId
  ggufUrl := step.source.ggufUrl
  ggufSha256 := step.ggufSha256
  experts := step.experts
  minVramMb := minVramMb
  excludeWallets := [step.wallet]

/-- The placeholder assignment inserted while the experts compute. -/
def busyMarker (step : ExpertStep) (pinned : Wallet) : ShardAssignment :=
  ⟨pinned, step.result.shardIndex, step.tokenIndex, some step.layerIdx⟩

/-- After the memory estimate: insert the busy marker and start the join. -/
def resumeSized (ticket : Ticket) (minVramMb : Option Nat) (engine : ShardEngine) :
    ShardEngine :=
  match engine.calls ticket with
  | some (.sizing step) =>
      let marked :=
        match (engine.pipelines step.result.requestId).bind PipelineState.moeLayerWalk with
        | some (_, pinned) =>
            engine.assignments.insert step.result.requestId (busyMarker step pinned)
        | none => engine.assignments
      { engine with
        assignments := marked
        calls := engine.calls.insert ticket (.joining step)
        log := engine.log ++ [.joinRequested ticket (joinRequest step (minVramMb.getD 0))] }
  | _ => engine

/-- Hand the relay on to the next shard of the same token. -/
def nextShard (pipeline : PipelineState) (output : ShardOutputWire) : PipelineState :=
  { pipeline with
    pos := pipeline.pos + 1
    currentInput := .tensor output.shape output.dataHex
    moeLayerWalk := none }

/-- Feed the combined output of a layer back to the pinned wallet. -/
def nextLayer (pipeline : PipelineState) (layerIdx : Nat) (output : ShardOutputWire) :
    PipelineState :=
  { pipeline with
    currentInput := .tensor output.shape output.dataHex
    moeLayerWalk := pipeline.moeLayerWalk.map fun walk => (layerIdx + 1, walk.2) }

/-- Back to the first shard with the token just generated. -/
def nextToken (pipeline : PipelineState) (tokenId : TokenId) : PipelineState :=
  { pipeline with
    pos := 0
    tokenIndex := pipeline.tokenIndex + 1
    currentInput := .nextTokenId tokenId
    moeLayerWalk := none }

/-- After `dispatch_and_join` returned. -/
def resumeJoined (registry : MinerRegistry) (ticket : Ticket) (output : Option ShardOutputWire)
    (engine : ShardEngine) : ShardEngine :=
  match engine.calls ticket with
  | some (.joining step) =>
      let requestId := step.result.requestId
      let ended := engine.endCall ticket
      match output with
      | none =>
          { ended with
            assignments := ended.assignments.remove requestId
            log := ended.log ++ [.stalled requestId] }
      | some output =>
          match ended.pipelines requestId with
          | none => ended
          | some pipeline =>
              dispatchCurrent registry requestId step.source <|
                if step.interior then
                  (ended.setPipeline requestId (nextLayer pipeline step.layerIdx output)).emit
                    [.walked ticket requestId]
                else
                  (ended.setPipeline requestId (nextShard pipeline output)).emit
                    [.advanced ticket requestId]
  | _ => engine

/-! ## Results -/

/-- Count an accepted step for a wallet. -/
def contribute (wallet : Wallet) (pipeline : PipelineState) : PipelineState :=
  { pipeline with contributions := pipeline.contributions.credit wallet }

@[simp]
theorem contribute_shards (wallet : Wallet) (pipeline : PipelineState) :
    (contribute wallet pipeline).shards = pipeline.shards :=
  rfl

@[simp]
theorem contribute_pos (wallet : Wallet) (pipeline : PipelineState) :
    (contribute wallet pipeline).pos = pipeline.pos :=
  rfl

@[simp]
theorem contribute_expertGroupFor (wallet : Wallet) (pipeline : PipelineState) (pos : Nat) :
    (contribute wallet pipeline).expertGroupFor pos = pipeline.expertGroupFor pos :=
  rfl

/-- The next token id joins the response. -/
def recordToken (pipeline : PipelineState) (tokenId : TokenId) : PipelineState :=
  { pipeline with generatedTokenIds := pipeline.generatedTokenIds ++ [tokenId] }

/-- `handle_shard_result_inner` after the submission decision, for a pipeline
that is still there. -/
def completeStep (sha256 : Digest) (registry : MinerRegistry) (ticket : Ticket) (wallet : Wallet)
    (result : OpoiShardResult) (source : ModelSource) (isLastToken stored : Bool)
    (pipeline : PipelineState) (engine : ShardEngine) : ShardEngine :=
  if pipeline.pos + 1 = pipeline.shards.length then
    match result.nextTokenId with
    | none => (engine.endCall ticket).dropPipeline result.requestId
    | some tokenId =>
        let recorded := (((engine.endCall ticket).setPipeline result.requestId
          (recordToken pipeline tokenId)).emit [.advanced ticket result.requestId])
        if isLastToken then
          finalizePipeline sha256 result.requestId stored recorded
        else
          dispatchCurrent registry result.requestId source
            (recorded.setPipeline result.requestId
              (nextToken (recordToken pipeline tokenId) tokenId))
  else
    match pipeline.expertGroupFor pipeline.pos with
    | some expertIds =>
        let layerEnd := ((pipeline.shards[pipeline.pos]?).map fun shard => (layerRange shard).2)
        beginExpertStep false ticket wallet result source expertIds
          (result.moeLayerStep.getD (layerEnd.getD 0 - 1)) engine
    | none =>
        dispatchCurrent registry result.requestId source
          (((engine.endCall ticket).setPipeline result.requestId
            (nextShard pipeline result.output)).emit [.advanced ticket result.requestId])

/-- `is_last_token`. -/
def isLastToken (pipeline : PipelineState) : Bool :=
  pipeline.maxTokens.toNat ≤ pipeline.tokenIndex + 1

/-- Past the routing of interior layers: submit on-chain on the last token. -/
def finishStep (sha256 : Digest) (registry : MinerRegistry) (ticket : Ticket) (wallet : Wallet)
    (result : OpoiShardResult) (source : ModelSource) (pipeline : PipelineState)
    (engine : ShardEngine) : ShardEngine :=
  if isLastToken pipeline then
    (engine.park ticket (.submitting wallet result source)).emit
      [.submitShard result.requestId result.shardIndex result.outputHash]
  else
    completeStep sha256 registry ticket wallet result source false false pipeline engine

/-- Whether a layer step is routed to the resumption of its own shard: an
interior layer, or the boundary layer of the model's last range. -/
def resumesShard (layerIdx layerEnd totalLayers : Nat) : Bool :=
  layerEnd = 0 ∨ layerIdx + 1 < layerEnd ∨ layerIdx + 1 = layerEnd ∧ layerEnd = totalLayers

/-- After the model source is resolved. -/
def resumeResolved (sha256 : Digest) (registry : MinerRegistry) (ticket : Ticket)
    (source : Option ModelSource) (engine : ShardEngine) : ShardEngine :=
  match engine.calls ticket with
  | some (.resolving wallet result) =>
      match source with
      | none => (engine.endCall ticket).emit [.rejected wallet result.requestId .unknownRequest]
      | some source =>
          match engine.pipelines result.requestId with
          | none =>
              if result.moeLayerStep.isSome then
                (engine.endCall ticket).emit [.rejected wallet result.requestId .unknownRequest]
              else
                engine.endCall ticket
          | some pipeline =>
              let counted := contribute wallet pipeline
              let engine := engine.setPipeline result.requestId counted
              match result.moeLayerStep with
              | none => finishStep sha256 registry ticket wallet result source counted engine
              | some layerIdx =>
                  match counted.shards[counted.pos]? with
                  | none => (engine.endCall ticket).emit [.panicked result.requestId]
                  | some shard =>
                      if resumesShard layerIdx (layerRange shard).2 counted.manifest.numLayers then
                        match counted.expertGroupFor counted.pos with
                        | none => (engine.endCall ticket).dropPipeline result.requestId
                        | some expertIds =>
                            beginExpertStep true ticket wallet result source expertIds layerIdx
                              engine
                      else
                        finishStep sha256 registry ticket wallet result source counted engine
  | _ => engine

/-- After the on-chain submission was tried over the whole pool. -/
def resumeSubmitted (sha256 : Digest) (registry : MinerRegistry) (ticket : Ticket)
    (submitted stored : Bool) (engine : ShardEngine) : ShardEngine :=
  match engine.calls ticket with
  | some (.submitting wallet result source) =>
      if submitted then
        match engine.pipelines result.requestId with
        | none => engine.endCall ticket
        | some pipeline =>
            completeStep sha256 registry ticket wallet result source true stored pipeline engine
      else
        (engine.endCall ticket).emit [.stalled result.requestId]
  | _ => engine

/-- The start of `handle_shard_result_inner`, up to the model source. -/
def handleShardResult (wallet : Wallet) (result : OpoiShardResult) (engine : ShardEngine) :
    ShardEngine :=
  match engine.assignments result.requestId with
  | none => engine.emit [.rejected wallet result.requestId .unknownRequest]
  | some assignment =>
      if assignment = ⟨wallet, result.shardIndex, result.tokenIndex, result.moeLayerStep⟩ then
        let taken :=
          { engine with
            assignments := engine.assignments.remove result.requestId
            nextTicket := engine.nextTicket + 1
            log := engine.log ++ [Effect.accepted engine.nextTicket wallet result] }
        match engine.pipelines result.requestId with
        | none => taken.emit [.rejected wallet result.requestId .unknownRequest]
        | some _ => taken.park engine.nextTicket (.resolving wallet result)
      else
        engine.emit [.rejected wallet result.requestId .notAssignedToCaller]

/-- The session of a parked handler ends: `run_session` drops the handler where it
waits. -/
def dropCall (ticket : Ticket) (engine : ShardEngine) : ShardEngine :=
  engine.endCall ticket

/-- `on_disconnect`. -/
def onDisconnect (wallet : Wallet) (engine : ShardEngine) : ShardEngine :=
  { engine with
    assignments := engine.assignments.retain fun assignment => assignment.wallet ≠ wallet }

/-! ## The poll tick -/

/-- `split_model_execution_graph`: the dense nodes by shard index. -/
def denseShards (graph : ModelGraph) : List ShardDescriptor :=
  (graph.shards.filter fun shard => shard.shardType = "DENSE").insertionSort
    (fun first second => first.shardIndex ≤ second.shardIndex)

/-- `split_model_execution_graph`: the expert ids by layer range. -/
def expertGroups (graph : ModelGraph) : PartialMap (Nat × Nat) (List Nat) := fun range =>
  let members := graph.shards.filter fun shard =>
    shard.shardType = "EXPERT" ∧ layerRange shard = range
  if members = [] then none else some (members.map fun shard => shard.expertId.getD 0)

/-- A pipeline at its very beginning. -/
def initialPipeline (req : OpoiRequest) (manifest : ModelManifest) (graph : ModelGraph)
    (promptHex : String) : PipelineState where
  shards := denseShards graph
  manifest := manifest
  promptHash := req.promptHash
  maxTokens := req.maxTokens
  pos := 0
  tokenIndex := 0
  currentInput := .prompt promptHex
  originalPromptHex := promptHex
  generatedTokenIds := []
  contributions := ∅
  expertGroups := expertGroups graph
  moeLayerWalk := none

/-- A pipeline without a live assignment. -/
def Stalled (engine : ShardEngine) (requestId : RequestId) : Prop :=
  engine.pipelines requestId ≠ none ∧ engine.assignments requestId = none

/-- The next collected request that still has a pipeline. -/
def nextStalled (engine : ShardEngine) : List RequestId → Poll
  | [] => .listing
  | requestId :: rest =>
      if (engine.pipelines requestId).isSome then .retrying requestId rest
      else nextStalled engine rest

/-- The next listed request without a pipeline. -/
def nextRequest (engine : ShardEngine) : List OpoiRequest → Poll
  | [] => .idle
  | req :: rest =>
      if (engine.pipelines req.requestId).isSome then nextRequest engine rest
      else .manifest req rest

/-- The start of `poll_and_start_tick`, over the collected stalled requests. -/
def beginPoll (stalled : List RequestId) (engine : ShardEngine) : ShardEngine :=
  { engine with poll := nextStalled engine stalled }

/-- `dispatchCurrent` finds the pipeline past its last shard, and panics. -/
def dispatchPanics (engine : ShardEngine) (requestId : RequestId) : Bool :=
  (engine.pipelines requestId).any fun pipeline => (pipeline.shards[pipeline.pos]?).isNone

/-- After the source of a stalled request is resolved. -/
def resumeRetry (registry : MinerRegistry) (source : Option ModelSource) (engine : ShardEngine) :
    ShardEngine :=
  match engine.poll with
  | .retrying requestId rest =>
      match source with
      | none => { engine with poll := nextStalled engine rest }
      | some source =>
          let dispatched := dispatchCurrent registry requestId source engine
          { dispatched with
            poll :=
              if engine.dispatchPanics requestId then .stopped else nextStalled dispatched rest }
  | _ => engine

/-- After `list_pending_requests`. -/
def resumeListing (requests : Option (List OpoiRequest)) (engine : ShardEngine) : ShardEngine :=
  match engine.poll with
  | .listing => { engine with poll := nextRequest engine (requests.getD []) }
  | _ => engine

/-- After `get_model_manifest`. -/
def resumeManifest (manifest : Option ModelManifest) (engine : ShardEngine) : ShardEngine :=
  match engine.poll with
  | .manifest req rest =>
      match manifest, engine.promptCache req.requestId with
      | some manifest, some promptHex =>
          if manifest.status = "ACTIVE" then
            { engine with poll := .graph req rest manifest promptHex }
          else
            { engine with poll := nextRequest engine rest }
      | _, _ => { engine with poll := nextRequest engine rest }
  | _ => engine

/-- After `get_model_graph`. -/
def resumeGraph (graph : Option ModelGraph) (engine : ShardEngine) : ShardEngine :=
  match engine.poll with
  | .graph req rest manifest promptHex =>
      match graph with
      | none => { engine with poll := nextRequest engine rest }
      | some graph => { engine with poll := .source req rest manifest promptHex graph }
  | _ => engine

/-- After the model source is resolved: a graph without dense shards is
skipped. -/
def resumeSource (source : Option ModelSource) (engine : ShardEngine) : ShardEngine :=
  match engine.poll with
  | .source req rest manifest promptHex graph =>
      match source with
      | none => { engine with poll := nextRequest engine rest }
      | some source =>
          if denseShards graph = [] then
            { engine with poll := nextRequest engine rest }
          else
            { engine with poll := .claiming req rest manifest promptHex graph source }
  | _ => engine

/-- A request whose coordinator claim went through: the prompt leaves the
cache, and either this engine or the speculative one starts a pipeline. -/
def startRequest (registry : MinerRegistry) (eligible : Bool) (req : OpoiRequest)
    (source : ModelSource) (pipeline : PipelineState) (engine : ShardEngine) : ShardEngine :=
  let taken := { engine with promptCache := engine.promptCache.remove req.requestId }
  if eligible then
    taken.emit [.delegated req.requestId]
  else
    dispatchCurrent registry req.requestId source
      ((taken.setPipeline req.requestId pipeline).emit [.started req.requestId])

/-- After the coordinator claim was tried over the whole pool.  `eligible` is
the speculative engine's answer; when it takes the request, this engine only
forgets the prompt.  The pipeline has a shard, so its dispatch does not panic. -/
def resumeClaim (registry : MinerRegistry) (claimed eligible : Bool) (engine : ShardEngine) :
    ShardEngine :=
  match engine.poll with
  | .claiming req rest manifest promptHex graph source =>
      let begun :=
        if claimed then
          startRequest registry eligible req source (initialPipeline req manifest graph promptHex)
            engine
        else
          engine
      { begun with poll := nextRequest begun rest }
  | _ => engine

end ShardEngine

end StratumBridge.Shard
