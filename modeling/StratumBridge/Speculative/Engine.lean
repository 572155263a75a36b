import StratumBridge.Registry.Contributions
import StratumBridge.Registry.Core
import StratumBridge.Speculative.Round
import StratumBridge.Wire.Codec

/-!
# The speculative engine

`SpeculativeEngine` as a state with one function per entry point.  Each
function is the code between two suspension points; the only await at which a
handler really parks is the one on the tokenizer, and a parked handler is a
`TokenizeCall` kept under a ticket until its answer arrives, or its session ends.

What the engine sends, records and logs is appended to `log`, which nothing
reads back.  The registry is shared with the rest of the bridge and is passed
to every entry point.
-/

namespace StratumBridge.Speculative

open Data Rpc Wire

/-- `RollbackState`. -/
structure RollbackState where
  pending : Finset Nat
  acceptedCount : Nat
  kThisRound : Nat
  settleToken : TokenId
  keepLen : Nat
  isFinalizingRound : Bool

/-- `Phase`. -/
inductive Phase
  | promptProcessing (pos : Nat) (currentInput : ShardInputWire)
  | awaitingDraft
  | verifying (pos : Nat) (currentInput : ShardInputWire) (draftTokenIds : List TokenId)
  | awaitingRollback (state : RollbackState)

namespace Phase

/-- The position and input of the relay a phase is in, and whether it is the
prompt pass. -/
def relay : Phase → Option (Nat × ShardInputWire × Bool)
  | promptProcessing pos currentInput => some (pos, currentInput, true)
  | verifying pos currentInput _ => some (pos, currentInput, false)
  | _ => none

/-- Hand the relay on to the next shard. -/
def advance (newInput : ShardInputWire) : Phase → Phase
  | promptProcessing pos _ => promptProcessing (pos + 1) newInput
  | verifying pos _ draftTokenIds => verifying (pos + 1) newInput draftTokenIds
  | phase => phase

def isAwaitingDraft : Phase → Bool
  | awaitingDraft => true
  | _ => false

end Phase

/-- `SpecPipeline`. -/
structure SpecPipeline where
  shards : List ShardDescriptor
  manifest : ModelManifest
  source : ModelSource
  draftSource : DraftModelSource
  maxTokens : UInt32
  promptHash : String
  promptHex : String
  draftWallet : Option Wallet
  base : Nat
  carry : Option TokenId
  expected0 : TokenId
  k : Nat
  round : Nat
  phase : Phase
  generatedTokenIds : List TokenId
  contributions : Contributions

/-- `ShardStepAssignment`. -/
structure ShardStepAssignment where
  wallet : Wallet
  shardIndex : Nat
  deriving DecidableEq

/-- A handler parked on `count_prompt_tokens`. -/
structure TokenizeCall where
  requestId : RequestId
  t0 : TokenId
  tokenizerUrl : String
  tokenizerSha256 : String
  promptHex : String
  deriving DecidableEq

/-- What the engine does to its surroundings. -/
inductive Effect
  | started (requestId : RequestId)
  | shardAssign (wallet : Wallet) (tx : Channel) (assign : OpoiShardAssign)
  | draftGenerate (wallet : Wallet) (tx : Channel) (draft : OpoiDraftGenerate)
  | kvRollback (wallet : Wallet) (tx : Channel) (rollback : OpoiKvRollback)
  | accepted (wallet : Wallet) (result : OpoiShardResult)
  | rejected (wallet : Wallet) (requestId : RequestId) (error : AppError)
  | submitShard (requestId : RequestId) (shardIndex : Nat) (finalizedHash : String)
  | createSubmission (row : NewSubmission) (stored : Bool)
  | dropped (requestId : RequestId)
  | panicked (requestId : RequestId)
  deriving DecidableEq

/-- `SpeculativeEngine`, with its parked calls, its history and whether its interval
task lives: a tick that panics ends it. -/
structure SpeculativeEngine where
  draftSources : PartialMap String DraftModelSource
  pipelines : PartialMap RequestId SpecPipeline
  shardAssignments : PartialMap RequestId ShardStepAssignment
  draftAssignments : PartialMap RequestId Wallet
  lastShardWallet : Option Wallet
  calls : PartialMap Ticket TokenizeCall
  nextTicket : Ticket
  ticking : Bool
  log : List Effect

namespace SpeculativeEngine

/-- `SpeculativeEngine::new`. -/
def new (draftSources : PartialMap String DraftModelSource) : SpeculativeEngine where
  draftSources := draftSources
  pipelines := PartialMap.empty
  shardAssignments := PartialMap.empty
  draftAssignments := PartialMap.empty
  lastShardWallet := none
  calls := PartialMap.empty
  nextTicket := 0
  ticking := true
  log := []

/-- Append to the history. -/
def emit (engine : SpeculativeEngine) (effects : List Effect) : SpeculativeEngine :=
  { engine with log := engine.log ++ effects }

/-- Store a pipeline. -/
def setPipeline (engine : SpeculativeEngine) (requestId : RequestId) (pipeline : SpecPipeline) :
    SpeculativeEngine :=
  { engine with pipelines := engine.pipelines.insert requestId pipeline }

/-- `self.pipelines.remove`, with the error line that goes with it. -/
def dropPipeline (engine : SpeculativeEngine) (requestId : RequestId) : SpeculativeEngine :=
  { engine with
    pipelines := engine.pipelines.remove requestId
    log := engine.log ++ [.dropped requestId] }

/-- `is_eligible`. -/
def isEligible (registry : MinerRegistry) (engine : SpeculativeEngine)
    (targetModelId : String) : Bool :=
  (engine.draftSources targetModelId).isSome && (registry.pickDraftCapable none).isSome

/-- `has_pipeline`. -/
def hasPipeline (engine : SpeculativeEngine) (requestId : RequestId) : Bool :=
  (engine.pipelines requestId).isSome

/-! ## Dispatch -/

/-- The assignment line for one relay step.  The token index and the token
limit are fixed so that no miner finalizes on its own. -/
def shardAssignLine (requestId : RequestId) (pipeline : SpecPipeline) (shard : ShardDescriptor)
    (pos : Nat) (currentInput : ShardInputWire) (isPromptProcessing : Bool) : OpoiShardAssign where
  requestId := requestId
  modelId := pipeline.manifest.modelId
  shardIndex := shard.shardIndex
  layerStart := shard.layerStart.getD 0
  layerEnd := shard.layerEnd.getD 0
  totalLayers := pipeline.manifest.numLayers
  tokenIndex := 0
  maxTokens := u32Max
  input := currentInput
  modelGgufUrl := pipeline.source.ggufUrl
  modelGgufSha256 := pipeline.manifest.backbonePomRoot
  modelTokenizerUrl :=
    if pos = 0 ∧ isPromptProcessing then some pipeline.source.tokenizerUrl else none
  modelTokenizerSha256 :=
    if pos = 0 ∧ isPromptProcessing then some pipeline.source.tokenizerSha256 else none
  moeLayerStep := none

/-- `dispatch_shard_step`. -/
def dispatchShardStep (registry : MinerRegistry) (requestId : RequestId)
    (engine : SpeculativeEngine) : SpeculativeEngine :=
  match engine.pipelines requestId with
  | none => engine
  | some pipeline =>
      match pipeline.phase.relay with
      | none => engine
      | some (pos, currentInput, isPromptProcessing) =>
          match pipeline.shards[pos]? with
          | none => engine.emit [.panicked requestId]
          | some shard =>
              match registry.pickNext engine.lastShardWallet with
              | none => engine
              | some wallet =>
                  match registry.get wallet with
                  | none => { engine with lastShardWallet := some wallet }
                  | some tx =>
                      { engine with
                        lastShardWallet := some wallet
                        shardAssignments :=
                          engine.shardAssignments.insert requestId ⟨wallet, shard.shardIndex⟩
                        log := engine.log ++ [.shardAssign wallet tx
                          (shardAssignLine requestId pipeline shard pos currentInput
                            isPromptProcessing)] }

/-- The draft request for a pipeline's next round. -/
def draftGenerateLine (requestId : RequestId) (pipeline : SpecPipeline) : OpoiDraftGenerate where
  requestId := requestId
  modelId := pipeline.draftSource.draftModelId
  totalLayers := pipeline.draftSource.draftTotalLayers
  k := if pipeline.carry.isSome then max (pipeline.k - 1) 1 else pipeline.k
  input :=
    match pipeline.carry with
    | some token => .nextTokenId token
    | none => .prompt pipeline.promptHex
  modelGgufUrl := pipeline.draftSource.draftGgufUrl
  modelGgufSha256 := pipeline.draftSource.draftGgufSha256
  modelTokenizerUrl :=
    if pipeline.round = 0 then some pipeline.draftSource.draftTokenizerUrl else none
  modelTokenizerSha256 :=
    if pipeline.round = 0 then some pipeline.draftSource.draftTokenizerSha256 else none

/-- The draft wallet to use: the pinned one while it is connected, any draft
capable one otherwise. -/
def chooseDraftWallet (registry : MinerRegistry) (pipeline : SpecPipeline) : Option Wallet :=
  match pipeline.draftWallet with
  | some pinned =>
      if (registry.get pinned).isSome then some pinned else registry.pickDraftCapable none
  | none => registry.pickDraftCapable none

/-- `dispatch_draft`. -/
def dispatchDraft (registry : MinerRegistry) (requestId : RequestId)
    (engine : SpeculativeEngine) : SpeculativeEngine :=
  match engine.pipelines requestId with
  | none => engine
  | some pipeline =>
      if pipeline.phase.isAwaitingDraft then
        match chooseDraftWallet registry pipeline with
        | none => engine
        | some wallet =>
            let pinned := { pipeline with draftWallet := some wallet }
            match registry.get wallet with
            | none => engine.setPipeline requestId pinned
            | some tx =>
                { engine with
                  pipelines := engine.pipelines.insert requestId pinned
                  draftAssignments := engine.draftAssignments.insert requestId wallet
                  log := engine.log ++
                    [.draftGenerate wallet tx (draftGenerateLine requestId pinned)] }
      else
        engine

/-! ## Starting and retrying -/

/-- A pipeline at its very beginning. -/
def initialPipeline (manifest : ModelManifest) (shards : List ShardDescriptor)
    (maxTokens : UInt32) (promptHex promptHash : String) (source : ModelSource)
    (draftSource : DraftModelSource) : SpecPipeline where
  shards := shards.insertionSort (fun first second => first.shardIndex ≤ second.shardIndex)
  manifest := manifest
  source := source
  draftSource := draftSource
  maxTokens := maxTokens
  promptHash := promptHash
  promptHex := promptHex
  draftWallet := none
  base := 0
  carry := none
  expected0 := 0
  k := 4
  round := 0
  phase := .promptProcessing 0 (.prompt promptHex)
  generatedTokenIds := []
  contributions := ∅

/-- `start_pipeline`. -/
def startPipeline (registry : MinerRegistry) (requestId : RequestId) (manifest : ModelManifest)
    (shards : List ShardDescriptor) (maxTokens : UInt32) (promptHex promptHash : String)
    (source : ModelSource) (engine : SpeculativeEngine) : SpeculativeEngine :=
  match engine.draftSources manifest.modelId with
  | none => engine
  | some draftSource =>
      dispatchShardStep registry requestId
        ((engine.setPipeline requestId
          (initialPipeline manifest shards maxTokens promptHex promptHash source draftSource)).emit
          [.started requestId])

/-- A relay phase with nothing in flight. -/
def StalledShard (engine : SpeculativeEngine) (requestId : RequestId) : Prop :=
  ∃ pipeline, engine.pipelines requestId = some pipeline ∧ pipeline.phase.relay ≠ none ∧
    engine.shardAssignments requestId = none

/-- A wait for a draft with nothing in flight. -/
def StalledDraft (engine : SpeculativeEngine) (requestId : RequestId) : Prop :=
  ∃ pipeline, engine.pipelines requestId = some pipeline ∧ pipeline.phase = .awaitingDraft ∧
    engine.draftAssignments requestId = none

/-- A dispatch of the request's shard step panics: its pipeline is past its shards. -/
def dispatchPanics (engine : SpeculativeEngine) (requestId : RequestId) : Bool :=
  match engine.pipelines requestId with
  | none => false
  | some pipeline =>
      match pipeline.phase.relay with
      | none => false
      | some (pos, _, _) => (pipeline.shards[pos]?).isNone

/-- The first loop of `retry_stalled_tick`, over the collected keys. -/
def retryShards (registry : MinerRegistry) (stalled : List RequestId)
    (engine : SpeculativeEngine) : SpeculativeEngine :=
  stalled.foldl (fun engine requestId => dispatchShardStep registry requestId engine) engine

/-- The keys the first loop comes to: a dispatch that panics is its last. -/
def reached (engine : SpeculativeEngine) : List RequestId → List RequestId
  | [] => []
  | requestId :: rest =>
      if engine.dispatchPanics requestId then [requestId] else requestId :: engine.reached rest

/-- The second loop of `retry_stalled_tick`. -/
def retryDrafts (registry : MinerRegistry) (stalled : List RequestId)
    (engine : SpeculativeEngine) : SpeculativeEngine :=
  stalled.foldl (fun engine requestId => dispatchDraft registry requestId engine) engine

/-- `retry_stalled_tick`, given the two collections in iteration order.  A panic in the
first loop ends the tick, and the task it runs in. -/
def retryStalledTick (registry : MinerRegistry) (stalledShard stalledDraft : List RequestId)
    (engine : SpeculativeEngine) : SpeculativeEngine :=
  let retried := retryShards registry (engine.reached stalledShard) engine
  if stalledShard.any engine.dispatchPanics then
    { retried with ticking := false }
  else
    retryDrafts registry stalledDraft retried

/-! ## Rollback -/

/-- The rollback lines of one round: one for each shard, to whichever wallet
follows the cursor, and one for the draft's session. -/
def rollbackLines (registry : MinerRegistry) (requestId : RequestId) (pipeline : SpecPipeline)
    (last : Option Wallet) (keepLen : Nat) (isFinalizingRound : Bool) : List Effect :=
  let shardLines := pipeline.shards.filterMap fun shard =>
    (registry.pickNext last).bind fun wallet =>
      (registry.get wallet).map fun tx =>
        .kvRollback wallet tx
          { requestId := requestId
            shardIndex := shard.shardIndex
            keepUntilPos := keepLen % 2 ^ 32
            finalize := isFinalizingRound }
  let draftLine := pipeline.draftWallet.bind fun wallet =>
    (registry.get wallet).map fun tx =>
      .kvRollback wallet tx
        { requestId := requestId
          shardIndex := draftSessionShardIndex
          keepUntilPos := keepLen % 2 ^ 32
          finalize := false }
  shardLines ++ draftLine.toList

/-- The wait for every shard and the draft to acknowledge a rollback. -/
def rollbackState (pipeline : SpecPipeline) (outcome : RoundOutcome) (keepLen kThisRound : Nat)
    (isFinalizingRound : Bool) : RollbackState where
  pending := insert draftSessionShardIndex
    (pipeline.shards.map ShardDescriptor.shardIndex).toFinset
  acceptedCount := outcome.acceptedCount
  kThisRound := kThisRound
  settleToken := outcome.settleToken
  keepLen := keepLen
  isFinalizingRound := isFinalizingRound

/-- `begin_rollback`. -/
def beginRollback (registry : MinerRegistry) (requestId : RequestId) (outcome : RoundOutcome)
    (keepLen kThisRound : Nat) (isFinalizingRound : Bool) (engine : SpeculativeEngine) :
    SpeculativeEngine :=
  match engine.pipelines requestId with
  | none => engine
  | some pipeline =>
      { engine with
        pipelines := engine.pipelines.insert requestId
          { pipeline with
            phase := .awaitingRollback
              (rollbackState pipeline outcome keepLen kThisRound isFinalizingRound) }
        log := engine.log ++ rollbackLines registry requestId pipeline engine.lastShardWallet
          keepLen isFinalizingRound }

/-! ## Finalization -/

/-- The row a finished pipeline is recorded as. -/
def finalRow (sha256 : Digest) (requestId : RequestId) (pipeline : SpecPipeline)
    (wallet : Wallet) : NewSubmission where
  minerWallet := wallet
  requestId := requestId
  model := some pipeline.manifest.modelId
  promptHash := some pipeline.promptHash
  responseHash := (buildResponse sha256 pipeline.generatedTokenIds).1
  responseHex := (buildResponse sha256 pipeline.generatedTokenIds).2
  tokenCount := pipeline.generatedTokenIds.length % 2 ^ 32

/-- `finalize_pipeline`.  `stored` is whether the database takes the row. -/
def finalizePipeline (sha256 : Digest) (requestId : RequestId) (stored : Bool)
    (engine : SpeculativeEngine) : SpeculativeEngine :=
  match engine.pipelines requestId with
  | none => engine
  | some pipeline =>
      match pipeline.contributions.winner with
      | none => engine.dropPipeline requestId
      | some wallet =>
          { engine with
            pipelines := engine.pipelines.remove requestId
            log := engine.log ++
              [.createSubmission (finalRow sha256 requestId pipeline wallet) stored] }

/-! ## Results of shards -/

/-- Count an accepted step for a wallet. -/
def contribute (wallet : Wallet) (pipeline : SpecPipeline) : SpecPipeline :=
  { pipeline with contributions := pipeline.contributions.credit wallet }

/-- The end of the prompt pass: the handler parks on the tokenizer with the
input the phase holds at this point. -/
def finishPromptPass (requestId : RequestId) (pipeline : SpecPipeline)
    (currentInput : ShardInputWire) (result : OpoiShardResult) (engine : SpeculativeEngine) :
    SpeculativeEngine :=
  match result.nextTokenId with
  | none => engine.dropPipeline requestId
  | some t0 =>
      let promptHex :=
        match currentInput with
        | .prompt promptHex => promptHex
        | _ => ""
      { engine with
        calls := engine.calls.insert engine.nextTicket
          { requestId := requestId
            t0 := t0
            tokenizerUrl := pipeline.source.tokenizerUrl
            tokenizerSha256 := pipeline.source.tokenizerSha256
            promptHex := promptHex }
        nextTicket := engine.nextTicket + 1 }

/-- Whether the round that accepted `acceptedCount` tokens is the last. -/
def isFinalizingRound (base acceptedCount : Nat) (maxTokens : UInt32) : Bool :=
  maxTokens.toNat ≤ (base + acceptedCount + 1) % 2 ^ 32

/-- The accepted part of the draft and the settle token join the response. -/
def recordOutcome (pipeline : SpecPipeline) (draftTokenIds : List TokenId)
    (outcome : RoundOutcome) : SpecPipeline :=
  { pipeline with
    generatedTokenIds := pipeline.generatedTokenIds ++
      draftTokenIds.take outcome.acceptedCount ++ [outcome.settleToken] }

/-- The end of a verify pass. -/
def finishVerifyPass (registry : MinerRegistry) (requestId : RequestId) (pipeline : SpecPipeline)
    (draftTokenIds : List TokenId) (result : OpoiShardResult) (engine : SpeculativeEngine) :
    SpeculativeEngine :=
  match result.nextTokenIds with
  | none => engine.dropPipeline requestId
  | some targetLogits =>
      match greedyVerifyRound pipeline.carry pipeline.expected0 draftTokenIds targetLogits with
      | none => engine.emit [.panicked requestId]
      | some outcome =>
          beginRollback registry requestId outcome
            (kvKeepLen pipeline.base pipeline.carry outcome.acceptedCount) draftTokenIds.length
            (isFinalizingRound pipeline.base outcome.acceptedCount pipeline.maxTokens)
            (engine.setPipeline requestId (recordOutcome pipeline draftTokenIds outcome))

/-- The output of one shard becomes the input of the next. -/
def relayOutput (pipeline : SpecPipeline) (result : OpoiShardResult) : SpecPipeline :=
  { pipeline with
    phase := pipeline.phase.advance (.tensor result.output.shape result.output.dataHex) }

/-- `handle_shard_result` once the result is accepted and counted. -/
def continueRelay (registry : MinerRegistry) (requestId : RequestId) (pipeline : SpecPipeline)
    (result : OpoiShardResult) (engine : SpeculativeEngine) : SpeculativeEngine :=
  match pipeline.phase.relay with
  | none => engine
  | some (pos, currentInput, _) =>
      if pos + 1 = pipeline.shards.length then
        match pipeline.phase with
        | .verifying _ _ draftTokenIds =>
            finishVerifyPass registry requestId pipeline draftTokenIds result engine
        | _ => finishPromptPass requestId pipeline currentInput result engine
      else
        dispatchShardStep registry requestId
          (engine.setPipeline requestId (relayOutput pipeline result))

/-- `handle_shard_result`, up to the point where it returns or parks. -/
def handleShardResult (registry : MinerRegistry) (wallet : Wallet) (result : OpoiShardResult)
    (engine : SpeculativeEngine) : SpeculativeEngine :=
  match engine.shardAssignments result.requestId with
  | none => engine.emit [.rejected wallet result.requestId .unknownRequest]
  | some assignment =>
      if assignment.wallet = wallet ∧ assignment.shardIndex = result.shardIndex then
        let taken :=
          { engine with
            shardAssignments := engine.shardAssignments.remove result.requestId
            log := engine.log ++ [Effect.accepted wallet result] }
        match engine.pipelines result.requestId with
        | none => taken.emit [.rejected wallet result.requestId .unknownRequest]
        | some pipeline =>
            continueRelay registry result.requestId (contribute wallet pipeline) result
              (taken.setPipeline result.requestId (contribute wallet pipeline))
      else
        engine.emit [.rejected wallet result.requestId .notAssignedToCaller]

/-- The prompt pass is over and the first round may begin. -/
def seedRounds (pipeline : SpecPipeline) (base : Nat) (t0 : TokenId) : SpecPipeline :=
  { pipeline with
    base := base
    expected0 := t0
    phase := .awaitingDraft }

/-- The rest of `handle_shard_result` after `count_prompt_tokens` returned. -/
def resumeTokenized (registry : MinerRegistry) (ticket : Ticket) (tokenCount : Option Nat)
    (engine : SpeculativeEngine) : SpeculativeEngine :=
  match engine.calls ticket with
  | none => engine
  | some call =>
      let resumed := { engine with calls := engine.calls.remove ticket }
      match tokenCount with
      | none => resumed.dropPipeline call.requestId
      | some base =>
          match resumed.pipelines call.requestId with
          | none => resumed
          | some pipeline =>
              dispatchDraft registry call.requestId
                (resumed.setPipeline call.requestId (seedRounds pipeline base call.t0))

/-! ## Drafts, acknowledgements, disconnects -/

/-- The verify batch of a round: the carried token, then the draft. -/
def beginVerify (pipeline : SpecPipeline) (draftTokenIds : List TokenId) : SpecPipeline :=
  { pipeline with
    round := pipeline.round + 1
    phase := .verifying 0 (.tokenIds (pipeline.carry.toList ++ draftTokenIds)) draftTokenIds }

/-- `handle_draft_result`. -/
def handleDraftResult (registry : MinerRegistry) (wallet : Wallet) (result : OpoiDraftResult)
    (engine : SpeculativeEngine) : SpeculativeEngine :=
  if engine.draftAssignments result.requestId = some wallet then
    let taken :=
      { engine with draftAssignments := engine.draftAssignments.remove result.requestId }
    if result.draftTokenIds = [] then
      taken
    else
      match engine.pipelines result.requestId with
      | none => taken
      | some pipeline =>
          dispatchShardStep registry result.requestId
            (taken.setPipeline result.requestId (beginVerify pipeline result.draftTokenIds))
  else
    engine

/-- The on-chain submission an acknowledgement triggers. -/
def ackSubmission (requestId : RequestId) (state : RollbackState) (ack : OpoiKvRollbackAck) :
    List Effect :=
  match ack.finalizedHash with
  | some hash =>
      if ack.shardIndex ≠ draftSessionShardIndex ∧ state.isFinalizingRound then
        [.submitShard requestId ack.shardIndex hash]
      else
        []
  | none => []

/-- One session less to wait for. -/
def acknowledge (pipeline : SpecPipeline) (state : RollbackState) (shardIndex : Nat) :
    SpecPipeline :=
  { pipeline with
    phase := .awaitingRollback { state with pending := state.pending.erase shardIndex } }

/-- The pipeline with which the round after `state` starts. -/
def nextRound (pipeline : SpecPipeline) (state : RollbackState) : SpecPipeline :=
  { pipeline with
    base := state.keepLen
    carry := some state.settleToken
    expected0 := state.settleToken
    k := nextK pipeline.k state.acceptedCount state.kThisRound
    phase := .awaitingDraft }

/-- `handle_kv_rollback_ack`.  `stored` is what a finalization's row insert
returns. -/
def handleKvRollbackAck (sha256 : Digest) (registry : MinerRegistry) (ack : OpoiKvRollbackAck)
    (stored : Bool) (engine : SpeculativeEngine) : SpeculativeEngine :=
  match engine.pipelines ack.requestId with
  | none => engine
  | some pipeline =>
      match pipeline.phase with
      | .awaitingRollback state =>
          let noted :=
            { engine with
              pipelines := engine.pipelines.insert ack.requestId
                (acknowledge pipeline state ack.shardIndex)
              log := engine.log ++ ackSubmission ack.requestId state ack }
          if state.pending.erase ack.shardIndex = ∅ then
            if state.isFinalizingRound then
              finalizePipeline sha256 ack.requestId stored noted
            else
              dispatchDraft registry ack.requestId
                (noted.setPipeline ack.requestId (nextRound pipeline state))
          else
            noted
      | _ => engine

/-- The session of a parked handler ends: `run_session` drops the handler where it
waits. -/
def dropCall (ticket : Ticket) (engine : SpeculativeEngine) : SpeculativeEngine :=
  { engine with calls := engine.calls.remove ticket }

/-- `on_disconnect`. -/
def onDisconnect (wallet : Wallet) (engine : SpeculativeEngine) : SpeculativeEngine :=
  { engine with
    shardAssignments := engine.shardAssignments.retain fun assignment =>
      assignment.wallet ≠ wallet
    draftAssignments := engine.draftAssignments.retain fun holder => holder ≠ wallet
    pipelines := engine.pipelines.retain fun pipeline =>
      pipeline.draftWallet ≠ some wallet }

end SpeculativeEngine

end StratumBridge.Speculative
