import StratumBridge.Speculative.Engine
import StratumBridge.Transition.History
import StratumBridge.Transition.Run

/-!
# Runs of the speculative engine

The engine as a system of events, and the account of everything a single event
can do to one request: `Change` lists the possible outcomes with their guards
and the effects they leave in the request's history.  Invariants are proved by
cases on `Change` and never unfold the engine.
-/

namespace StratumBridge.Speculative

open Data Rpc Wire Transition

/-- What can happen to the engine. -/
inductive Event
  | startPipeline (requestId : RequestId) (manifest : ModelManifest)
      (shards : List ShardDescriptor) (maxTokens : UInt32) (promptHex promptHash : String)
      (source : ModelSource)
  | shardResult (wallet : Wallet) (result : OpoiShardResult)
  | tokenized (ticket : Ticket) (tokenCount : Option Nat)
  | dropped (ticket : Ticket)
  | draftResult (wallet : Wallet) (result : OpoiDraftResult)
  | kvRollbackAck (ack : OpoiKvRollbackAck) (stored : Bool)
  | retryStalledTick (stalledShard stalledDraft : List RequestId)
  | disconnect (wallet : Wallet)

/-- An event together with the registry it finds. -/
structure Stimulus where
  registry : MinerRegistry
  event : Event

/-- The event starts a pipeline for a request. -/
def Event.Starts (requestId : RequestId) : Event → Prop
  | .startPipeline target _ _ _ _ _ _ => target = requestId
  | _ => False

/-- The request an effect is about. -/
def Effect.requestId : Effect → RequestId
  | started requestId => requestId
  | shardAssign _ _ assign => assign.requestId
  | draftGenerate _ _ draft => draft.requestId
  | kvRollback _ _ rollback => rollback.requestId
  | accepted _ result => result.requestId
  | rejected _ requestId _ => requestId
  | submitShard requestId _ _ => requestId
  | createSubmission row _ => row.requestId
  | dropped requestId => requestId
  | panicked requestId => requestId

/-- The effect belongs to a dispatch: a line for a miner, or the panic of a
handler that finds no shard. -/
def Effect.isLine : Effect → Bool
  | shardAssign _ _ _ | draftGenerate _ _ _ | kvRollback _ _ _ | panicked _ => true
  | _ => false

namespace SpeculativeEngine

/-- One event. -/
def next (sha256 : Digest) (engine : SpeculativeEngine) (stimulus : Stimulus) :
    SpeculativeEngine :=
  match stimulus.event with
  | .startPipeline requestId manifest shards maxTokens promptHex promptHash source =>
      startPipeline stimulus.registry requestId manifest shards maxTokens promptHex promptHash
        source engine
  | .shardResult wallet result => handleShardResult stimulus.registry wallet result engine
  | .tokenized ticket tokenCount => resumeTokenized stimulus.registry ticket tokenCount engine
  | .dropped ticket => dropCall ticket engine
  | .draftResult wallet result => handleDraftResult stimulus.registry wallet result engine
  | .kvRollbackAck ack stored => handleKvRollbackAck sha256 stimulus.registry ack stored engine
  | .retryStalledTick stalledShard stalledDraft =>
      retryStalledTick stimulus.registry stalledShard stalledDraft engine
  | .disconnect wallet => onDisconnect wallet engine

/-- A tokenizer answers calls that wait for it, a session ends handlers that are
parked, and the tick walks exactly the stalled requests while its task lives. -/
def enabled (engine : SpeculativeEngine) (stimulus : Stimulus) : Prop :=
  match stimulus.event with
  | .tokenized ticket _ => engine.calls ticket ≠ none
  | .dropped ticket => engine.calls ticket ≠ none
  | .retryStalledTick stalledShard stalledDraft =>
      engine.ticking = true ∧
      (stalledShard.Nodup ∧ ∀ requestId, requestId ∈ stalledShard ↔
        engine.StalledShard requestId) ∧
      (stalledDraft.Nodup ∧ ∀ requestId, requestId ∈ stalledDraft ↔
        (retryShards stimulus.registry stalledShard engine).StalledDraft requestId)
  | _ => True

/-- The speculative engine as a system of events. -/
def system (sha256 : Digest) : System SpeculativeEngine Stimulus where
  enabled := enabled
  next := next sha256

/-- The effects that are about one request, oldest first. -/
def history (engine : SpeculativeEngine) (requestId : RequestId) : List Effect :=
  historyOf Effect.requestId requestId engine.log

/-- The effects one event adds to a request's history. -/
def sent (sha256 : Digest) (engine : SpeculativeEngine) (stimulus : Stimulus)
    (requestId : RequestId) : List Effect :=
  ((next sha256 engine stimulus).history requestId).drop (engine.history requestId).length

/-! ## What the dispatches emit -/

/-- The line `dispatchShardStep` sends. -/
def stepLines (registry : MinerRegistry) (last : Option Wallet) (requestId : RequestId)
    (pipeline : SpecPipeline) : List Effect :=
  match pipeline.phase.relay with
  | none => []
  | some (pos, currentInput, isPromptProcessing) =>
      match pipeline.shards[pos]? with
      | none => [.panicked requestId]
      | some shard =>
          ((registry.pickNext last).bind fun wallet =>
            (registry.get wallet).map fun tx =>
              .shardAssign wallet tx
                (shardAssignLine requestId pipeline shard pos currentInput
                  isPromptProcessing)).toList

/-- The line `dispatchDraft` sends. -/
def draftLines (registry : MinerRegistry) (requestId : RequestId)
    (pipeline : SpecPipeline) : List Effect :=
  ((chooseDraftWallet registry pipeline).bind fun wallet =>
    (registry.get wallet).map fun tx =>
      .draftGenerate wallet tx (draftGenerateLine requestId pipeline)).toList

/-- The pipeline after `dispatchDraft` pinned a draft wallet. -/
def repin (registry : MinerRegistry) (pipeline : SpecPipeline) : SpecPipeline :=
  { pipeline with
    draftWallet := (chooseDraftWallet registry pipeline).or pipeline.draftWallet }

theorem about_stepLines (registry : MinerRegistry) (last : Option Wallet)
    (requestId : RequestId) (pipeline : SpecPipeline) :
    About Effect.requestId requestId (stepLines registry last requestId pipeline) := by
  unfold stepLines
  split
  · exact about_nil
  · split
    · exact about_singleton rfl
    · intro effect mem
      simp only [Option.mem_toList, Option.bind_eq_some_iff, Option.map_eq_some_iff] at mem
      obtain ⟨wallet, -, tx, -, rfl⟩ := mem
      rfl

theorem about_rollbackLines (registry : MinerRegistry) (requestId : RequestId)
    (pipeline : SpecPipeline) (last : Option Wallet) (keepLen : Nat) (finalizing : Bool) :
    About Effect.requestId requestId
      (rollbackLines registry requestId pipeline last keepLen finalizing) := by
  apply About.append
  · intro effect mem
    simp only [List.mem_filterMap, Option.bind_eq_some_iff, Option.map_eq_some_iff] at mem
    obtain ⟨shard, -, wallet, -, tx, -, rfl⟩ := mem
    rfl
  · intro effect mem
    simp only [Option.mem_toList, Option.bind_eq_some_iff, Option.map_eq_some_iff] at mem
    obtain ⟨wallet, -, tx, -, rfl⟩ := mem
    rfl

theorem about_ackSubmission (requestId : RequestId) (state : RollbackState)
    (ack : OpoiKvRollbackAck) :
    About Effect.requestId requestId (ackSubmission requestId state ack) := by
  unfold ackSubmission
  split
  · split
    · exact about_singleton rfl
    · exact about_nil
  · exact about_nil

/-! ### Which lines are rollbacks, and which record a row -/

section Lists

variable {registry : MinerRegistry} {last : Option Wallet} {requestId : RequestId}
  {pipeline : SpecPipeline} {keepLen : Nat} {finalizing : Bool} {state : RollbackState}
  {ack : OpoiKvRollbackAck} {effect : Effect}

theorem eq_of_mem_stepLines (mem : effect ∈ stepLines registry last requestId pipeline) :
    (∃ wallet tx assign, effect = .shardAssign wallet tx assign) ∨
      effect = .panicked requestId := by
  unfold stepLines at mem
  split at mem
  · cases mem
  · split at mem
    · exact .inr (List.mem_singleton.mp mem)
    · simp only [Option.mem_toList, Option.bind_eq_some_iff, Option.map_eq_some_iff] at mem
      rcases mem with ⟨wallet, -, tx, -, rfl⟩
      exact .inl ⟨wallet, tx, _, rfl⟩

theorem eq_of_mem_draftLines (mem : effect ∈ draftLines registry requestId pipeline) :
    ∃ wallet tx draft, effect = .draftGenerate wallet tx draft := by
  simp only [draftLines, Option.mem_toList, Option.bind_eq_some_iff,
    Option.map_eq_some_iff] at mem
  rcases mem with ⟨wallet, -, tx, -, rfl⟩
  exact ⟨wallet, tx, _, rfl⟩

theorem eq_of_mem_rollbackLines
    (mem : effect ∈ rollbackLines registry requestId pipeline last keepLen finalizing) :
    ∃ wallet tx rollback, effect = .kvRollback wallet tx rollback := by
  rw [rollbackLines] at mem
  rcases List.mem_append.mp mem with forShard | forDraft
  · simp only [List.mem_filterMap, Option.bind_eq_some_iff, Option.map_eq_some_iff] at forShard
    rcases forShard with ⟨shard, -, wallet, -, tx, -, rfl⟩
    exact ⟨wallet, tx, _, rfl⟩
  · simp only [Option.mem_toList, Option.bind_eq_some_iff, Option.map_eq_some_iff] at forDraft
    rcases forDraft with ⟨wallet, -, tx, -, rfl⟩
    exact ⟨wallet, tx, _, rfl⟩

theorem eq_of_mem_ackSubmission (mem : effect ∈ ackSubmission requestId state ack) :
    ∃ hash, effect = .submitShard requestId ack.shardIndex hash := by
  unfold ackSubmission at mem
  split at mem
  · split at mem
    · exact ⟨_, List.mem_singleton.mp mem⟩
    · cases mem
  · cases mem

/-- Nothing else stands in these lists. -/
@[simp]
theorem notMem_stepLines (other : ∀ wallet tx assign, effect ≠ .shardAssign wallet tx assign)
    (calm : effect ≠ .panicked requestId) :
    effect ∉ stepLines registry last requestId pipeline := by
  intro mem
  rcases eq_of_mem_stepLines mem with ⟨wallet, tx, assign, same⟩ | same
  · exact other wallet tx assign same
  · exact calm same

@[simp]
theorem notMem_draftLines (other : ∀ wallet tx draft, effect ≠ .draftGenerate wallet tx draft) :
    effect ∉ draftLines registry requestId pipeline := by
  intro mem
  obtain ⟨wallet, tx, draft, same⟩ := eq_of_mem_draftLines mem
  exact other wallet tx draft same

@[simp]
theorem notMem_rollbackLines
    (other : ∀ wallet tx rollback, effect ≠ .kvRollback wallet tx rollback) :
    effect ∉ rollbackLines registry requestId pipeline last keepLen finalizing := by
  intro mem
  obtain ⟨wallet, tx, rollback, same⟩ := eq_of_mem_rollbackLines mem
  exact other wallet tx rollback same

@[simp]
theorem notMem_ackSubmission
    (other : ∀ hash, effect ≠ .submitShard requestId ack.shardIndex hash) :
    effect ∉ ackSubmission requestId state ack := by
  intro mem
  obtain ⟨hash, same⟩ := eq_of_mem_ackSubmission mem
  exact other hash same

theorem isLine_of_mem_stepLines (mem : effect ∈ stepLines registry last requestId pipeline) :
    effect.isLine = true := by
  rcases eq_of_mem_stepLines mem with ⟨wallet, tx, assign, rfl⟩ | rfl <;> rfl

theorem isLine_of_mem_draftLines (mem : effect ∈ draftLines registry requestId pipeline) :
    effect.isLine = true := by
  obtain ⟨wallet, tx, draft, rfl⟩ := eq_of_mem_draftLines mem
  rfl

theorem isLine_of_mem_rollbackLines
    (mem : effect ∈ rollbackLines registry requestId pipeline last keepLen finalizing) :
    effect.isLine = true := by
  obtain ⟨wallet, tx, rollback, rfl⟩ := eq_of_mem_rollbackLines mem
  rfl

end Lists

/-- Every rollback of a round asks for the same position. -/
theorem keepUntilPos_of_mem_rollbackLines {registry : MinerRegistry} {requestId : RequestId}
    {pipeline : SpecPipeline} {last : Option Wallet} {keepLen : Nat} {finalizing : Bool}
    {wallet : Wallet} {tx : Channel} {rollback : OpoiKvRollback}
    (mem : .kvRollback wallet tx rollback ∈
      rollbackLines registry requestId pipeline last keepLen finalizing) :
    rollback.keepUntilPos = keepLen % 2 ^ 32 := by
  rw [rollbackLines] at mem
  rcases List.mem_append.mp mem with forShard | forDraft
  · simp only [List.mem_filterMap, Option.bind_eq_some_iff, Option.map_eq_some_iff] at forShard
    rcases forShard with ⟨shard, -, picked, -, channel, -, sent⟩
    cases sent
    rfl
  · simp only [Option.mem_toList, Option.bind_eq_some_iff, Option.map_eq_some_iff] at forDraft
    rcases forDraft with ⟨pinned, -, channel, -, sent⟩
    cases sent
    rfl

/-! ## Acting on one request -/

/-- `after` differs from `before` only in the pipeline of one request, and in
effects about that request. -/
structure ActsOn (requestId : RequestId) (before after : SpeculativeEngine)
    (pipeline : Option SpecPipeline) (emitted : List Effect) : Prop where
  pipelines : after.pipelines = Function.update before.pipelines requestId pipeline
  log : after.log = before.log ++ emitted
  about : About Effect.requestId requestId emitted

namespace ActsOn

variable {requestId other : RequestId} {before middle after : SpeculativeEngine}
variable {pipeline later : Option SpecPipeline} {emitted more : List Effect}

theorem pipelines_self (acts : ActsOn requestId before after pipeline emitted) :
    after.pipelines requestId = pipeline := by
  rw [acts.pipelines, Function.update_self]

theorem pipelines_of_ne (acts : ActsOn requestId before after pipeline emitted)
    (ne : other ≠ requestId) : after.pipelines other = before.pipelines other := by
  rw [acts.pipelines, Function.update_of_ne ne]

theorem history_self (acts : ActsOn requestId before after pipeline emitted) :
    after.history requestId = before.history requestId ++ emitted := by
  rw [history, acts.log]
  exact historyOf_append_self acts.about

theorem history_of_ne (acts : ActsOn requestId before after pipeline emitted)
    (ne : other ≠ requestId) : after.history other = before.history other := by
  rw [history, acts.log]
  exact historyOf_append_of_ne acts.about ne

theorem trans (first : ActsOn requestId before middle pipeline emitted)
    (second : ActsOn requestId middle after later more) :
    ActsOn requestId before after later (emitted ++ more) where
  pipelines := by rw [second.pipelines, first.pipelines, Function.update_idem]
  log := by rw [second.log, first.log, List.append_assoc]
  about := first.about.append second.about

/-- Nothing happened. -/
theorem refl (requestId : RequestId) (engine : SpeculativeEngine) :
    ActsOn requestId engine engine (engine.pipelines requestId) [] where
  pipelines := (Function.update_eq_self requestId engine.pipelines).symm
  log := (List.append_nil _).symm
  about := about_nil

end ActsOn

theorem dispatchShardStep_actsOn (registry : MinerRegistry) {requestId : RequestId}
    {engine : SpeculativeEngine} {pipeline : SpecPipeline}
    (present : engine.pipelines requestId = some pipeline) :
    ActsOn requestId engine (dispatchShardStep registry requestId engine) (some pipeline)
      (stepLines registry engine.lastShardWallet requestId pipeline) where
  pipelines := by
    rw [← present, Function.update_eq_self]
    unfold dispatchShardStep
    (repeat' split) <;> rfl
  log := by
    simp only [dispatchShardStep, stepLines, present]
    cases pipeline.phase.relay with
    | none => simp
    | some step =>
        obtain ⟨pos, currentInput, isPromptProcessing⟩ := step
        dsimp only
        cases pipeline.shards[pos]? with
        | none => rfl
        | some shard =>
            cases registry.pickNext engine.lastShardWallet with
            | none => simp
            | some wallet => cases found : registry.get wallet <;> simp [found]
  about := about_stepLines _ _ _ _

theorem dispatchDraft_actsOn (registry : MinerRegistry) {requestId : RequestId}
    {engine : SpeculativeEngine} {pipeline : SpecPipeline}
    (present : engine.pipelines requestId = some pipeline)
    (awaiting : pipeline.phase = .awaitingDraft) :
    ActsOn requestId engine (dispatchDraft registry requestId engine)
      (some (repin registry pipeline)) (draftLines registry requestId pipeline) := by
  have waits : pipeline.phase.isAwaitingDraft = true := by rw [awaiting]; rfl
  simp only [dispatchDraft, draftLines, repin, present, waits, if_true]
  cases chooseDraftWallet registry pipeline with
  | none =>
      simp only [Option.none_or, Option.bind_none, Option.toList_none, ← present]
      exact ActsOn.refl requestId engine
  | some wallet =>
      simp only [Option.some_or, Option.bind_some]
      cases registry.get wallet with
      | none => exact ⟨rfl, (List.append_nil _).symm, about_nil⟩
      | some tx => exact ⟨rfl, rfl, about_singleton rfl⟩

/-! ## Everything a step can do to a request -/

/-- A pipeline after a verify pass: the outcome is recorded and the rollback
awaited. -/
def settlePipeline (pipeline : SpecPipeline) (draftTokenIds : List TokenId)
    (outcome : RoundOutcome) : SpecPipeline :=
  { recordOutcome pipeline draftTokenIds outcome with
    phase := .awaitingRollback
      (rollbackState (recordOutcome pipeline draftTokenIds outcome) outcome
        (kvKeepLen pipeline.base pipeline.carry outcome.acceptedCount) draftTokenIds.length
        (isFinalizingRound pipeline.base outcome.acceptedCount pipeline.maxTokens)) }

/-- The outcomes of one event for one request: the pipeline before, the pipeline
after, and the effects added to the request's history. -/
inductive Change (sha256 : Digest) (engine : SpeculativeEngine) (requestId : RequestId) :
    Stimulus → Option SpecPipeline → Option SpecPipeline → List Effect → Prop
  | idle {stimulus pipeline} : Change sha256 engine requestId stimulus pipeline pipeline []
  | started {registry manifest shards maxTokens promptHex promptHash source draftSource before}
      (configured : engine.draftSources manifest.modelId = some draftSource) :
      Change sha256 engine requestId
        ⟨registry, .startPipeline requestId manifest shards maxTokens promptHex promptHash source⟩
        before
        (some (initialPipeline manifest shards maxTokens promptHex promptHash source draftSource))
        (.started requestId :: stepLines registry engine.lastShardWallet requestId
          (initialPipeline manifest shards maxTokens promptHex promptHash source draftSource))
  | rejected {registry wallet result pipeline error} (about : result.requestId = requestId) :
      Change sha256 engine requestId ⟨registry, .shardResult wallet result⟩ pipeline pipeline
        [.rejected wallet requestId error]
  | orphaned {registry wallet result} (about : result.requestId = requestId)
      (assigned : engine.shardAssignments requestId = some ⟨wallet, result.shardIndex⟩) :
      Change sha256 engine requestId ⟨registry, .shardResult wallet result⟩ none none
        [.accepted wallet result, .rejected wallet requestId .unknownRequest]
  | stale {registry wallet result pipeline} (about : result.requestId = requestId)
      (assigned : engine.shardAssignments requestId = some ⟨wallet, result.shardIndex⟩)
      (idle : pipeline.phase.relay = none) :
      Change sha256 engine requestId ⟨registry, .shardResult wallet result⟩ (some pipeline)
        (some (contribute wallet pipeline)) [.accepted wallet result]
  | relayed {registry wallet result pipeline pos currentInput isPromptProcessing}
      (about : result.requestId = requestId)
      (assigned : engine.shardAssignments requestId = some ⟨wallet, result.shardIndex⟩)
      (relaying : pipeline.phase.relay = some (pos, currentInput, isPromptProcessing))
      (notLast : pos + 1 ≠ pipeline.shards.length) :
      Change sha256 engine requestId ⟨registry, .shardResult wallet result⟩ (some pipeline)
        (some (relayOutput (contribute wallet pipeline) result))
        (.accepted wallet result :: stepLines registry engine.lastShardWallet requestId
          (relayOutput (contribute wallet pipeline) result))
  | parked {registry wallet result pipeline pos currentInput t0}
      (about : result.requestId = requestId)
      (assigned : engine.shardAssignments requestId = some ⟨wallet, result.shardIndex⟩)
      (prompting : pipeline.phase = .promptProcessing pos currentInput)
      (last : pos + 1 = pipeline.shards.length) (answered : result.nextTokenId = some t0) :
      Change sha256 engine requestId ⟨registry, .shardResult wallet result⟩ (some pipeline)
        (some (contribute wallet pipeline)) [.accepted wallet result]
  | promptUnanswered {registry wallet result pipeline pos currentInput}
      (about : result.requestId = requestId)
      (assigned : engine.shardAssignments requestId = some ⟨wallet, result.shardIndex⟩)
      (prompting : pipeline.phase = .promptProcessing pos currentInput)
      (last : pos + 1 = pipeline.shards.length) (unanswered : result.nextTokenId = none) :
      Change sha256 engine requestId ⟨registry, .shardResult wallet result⟩ (some pipeline) none
        [.accepted wallet result, .dropped requestId]
  | verifyUnanswered {registry wallet result pipeline pos currentInput draft}
      (about : result.requestId = requestId)
      (assigned : engine.shardAssignments requestId = some ⟨wallet, result.shardIndex⟩)
      (verifying : pipeline.phase = .verifying pos currentInput draft)
      (last : pos + 1 = pipeline.shards.length) (unanswered : result.nextTokenIds = none) :
      Change sha256 engine requestId ⟨registry, .shardResult wallet result⟩ (some pipeline) none
        [.accepted wallet result, .dropped requestId]
  | panicked {registry wallet result pipeline pos currentInput draft logits}
      (about : result.requestId = requestId)
      (assigned : engine.shardAssignments requestId = some ⟨wallet, result.shardIndex⟩)
      (verifying : pipeline.phase = .verifying pos currentInput draft)
      (last : pos + 1 = pipeline.shards.length) (answered : result.nextTokenIds = some logits)
      (failed : greedyVerifyRound pipeline.carry pipeline.expected0 draft logits = none) :
      Change sha256 engine requestId ⟨registry, .shardResult wallet result⟩ (some pipeline)
        (some (contribute wallet pipeline)) [.accepted wallet result, .panicked requestId]
  | verified {registry wallet result pipeline pos currentInput draft logits outcome}
      (about : result.requestId = requestId)
      (assigned : engine.shardAssignments requestId = some ⟨wallet, result.shardIndex⟩)
      (verifying : pipeline.phase = .verifying pos currentInput draft)
      (last : pos + 1 = pipeline.shards.length) (answered : result.nextTokenIds = some logits)
      (verified : greedyVerifyRound pipeline.carry pipeline.expected0 draft logits =
        some outcome) :
      Change sha256 engine requestId ⟨registry, .shardResult wallet result⟩ (some pipeline)
        (some (settlePipeline (contribute wallet pipeline) draft outcome))
        (.accepted wallet result ::
          rollbackLines registry requestId (contribute wallet pipeline) engine.lastShardWallet
            (kvKeepLen pipeline.base pipeline.carry outcome.acceptedCount)
            (isFinalizingRound pipeline.base outcome.acceptedCount pipeline.maxTokens))
  | uncounted {registry ticket call pipeline} (parked : engine.calls ticket = some call)
      (about : call.requestId = requestId) :
      Change sha256 engine requestId ⟨registry, .tokenized ticket none⟩ pipeline none
        [.dropped requestId]
  | counted {registry ticket call base pipeline} (parked : engine.calls ticket = some call)
      (about : call.requestId = requestId) :
      Change sha256 engine requestId ⟨registry, .tokenized ticket (some base)⟩ (some pipeline)
        (some (repin registry (seedRounds pipeline base call.t0)))
        (draftLines registry requestId (seedRounds pipeline base call.t0))
  | drafted {registry wallet result pipeline} (about : result.requestId = requestId)
      (assigned : engine.draftAssignments requestId = some wallet)
      (nonempty : result.draftTokenIds ≠ []) :
      Change sha256 engine requestId ⟨registry, .draftResult wallet result⟩ (some pipeline)
        (some (beginVerify pipeline result.draftTokenIds))
        (stepLines registry engine.lastShardWallet requestId
          (beginVerify pipeline result.draftTokenIds))
  | acked {registry ack stored pipeline state} (about : ack.requestId = requestId)
      (awaiting : pipeline.phase = .awaitingRollback state)
      (left : (state.pending.erase ack.shardIndex).Nonempty) :
      Change sha256 engine requestId ⟨registry, .kvRollbackAck ack stored⟩ (some pipeline)
        (some (acknowledge pipeline state ack.shardIndex))
        (ackSubmission requestId state ack)
  | roundCompleted {registry ack stored pipeline state} (about : ack.requestId = requestId)
      (awaiting : pipeline.phase = .awaitingRollback state)
      (complete : state.pending.erase ack.shardIndex = ∅)
      (notFinal : state.isFinalizingRound = false) :
      Change sha256 engine requestId ⟨registry, .kvRollbackAck ack stored⟩ (some pipeline)
        (some (repin registry (nextRound pipeline state)))
        (ackSubmission requestId state ack ++
          draftLines registry requestId (nextRound pipeline state))
  | finalized {registry ack stored pipeline state wallet} (about : ack.requestId = requestId)
      (awaiting : pipeline.phase = .awaitingRollback state)
      (complete : state.pending.erase ack.shardIndex = ∅)
      (final : state.isFinalizingRound = true)
      (winner : pipeline.contributions.winner = some wallet) :
      Change sha256 engine requestId ⟨registry, .kvRollbackAck ack stored⟩ (some pipeline) none
        (ackSubmission requestId state ack ++
          [.createSubmission (finalRow sha256 requestId pipeline wallet) stored])
  | unattributed {registry ack stored pipeline state} (about : ack.requestId = requestId)
      (awaiting : pipeline.phase = .awaitingRollback state)
      (complete : state.pending.erase ack.shardIndex = ∅)
      (final : state.isFinalizingRound = true)
      (noWinner : pipeline.contributions.winner = none) :
      Change sha256 engine requestId ⟨registry, .kvRollbackAck ack stored⟩ (some pipeline) none
        (ackSubmission requestId state ack ++ [.dropped requestId])
  | redispatched {registry stalledShard stalledDraft pipeline last}
      (stalled : engine.StalledShard requestId) :
      Change sha256 engine requestId ⟨registry, .retryStalledTick stalledShard stalledDraft⟩
        (some pipeline) (some pipeline) (stepLines registry last requestId pipeline)
  | redrafted {registry stalledShard stalledDraft pipeline}
      (awaiting : pipeline.phase = .awaitingDraft)
      (unassigned : engine.draftAssignments requestId = none) :
      Change sha256 engine requestId ⟨registry, .retryStalledTick stalledShard stalledDraft⟩
        (some pipeline) (some (repin registry pipeline))
        (draftLines registry requestId pipeline)
  | disconnected {registry wallet pipeline} (pinned : pipeline.draftWallet = some wallet) :
      Change sha256 engine requestId ⟨registry, .disconnect wallet⟩ (some pipeline) none []

/-- The parts of a pipeline that are fixed when it is started. -/
structure SameJob (before after : SpecPipeline) : Prop where
  shards : after.shards = before.shards
  manifest : after.manifest = before.manifest
  source : after.source = before.source
  draftSource : after.draftSource = before.draftSource
  maxTokens : after.maxTokens = before.maxTokens
  promptHash : after.promptHash = before.promptHash
  promptHex : after.promptHex = before.promptHex

theorem SameJob.refl (pipeline : SpecPipeline) : SameJob pipeline pipeline :=
  ⟨rfl, rfl, rfl, rfl, rfl, rfl, rfl⟩

/-- A pipeline found after an event was started by it, or was there before with
the same job. -/
theorem Change.origin {sha256 : Digest} {engine : SpeculativeEngine} {requestId : RequestId}
    {stimulus : Stimulus} {before : Option SpecPipeline} {after : SpecPipeline}
    {emitted : List Effect}
    (change : Change sha256 engine requestId stimulus before (some after) emitted) :
    stimulus.event.Starts requestId ∨ ∃ pipeline, before = some pipeline ∧
      SameJob pipeline after := by
  generalize found : some after = outcome at change
  cases change with
  | idle => exact .inr ⟨after, found.symm, .refl after⟩
  | rejected => exact .inr ⟨after, found.symm, .refl after⟩
  | started => exact .inl rfl
  | redispatched => cases found; exact .inr ⟨_, rfl, .refl _⟩
  | stale | relayed | parked | panicked | verified | counted | drafted | acked |
      roundCompleted | redrafted =>
      cases found
      exact .inr ⟨_, rfl, ⟨rfl, rfl, rfl, rfl, rfl, rfl, rfl⟩⟩
  | _ => cases found

/-! ## Fresh requests -/

/-- The engine holds nothing of a request. -/
structure Fresh (engine : SpeculativeEngine) (requestId : RequestId) : Prop where
  pipeline : engine.pipelines requestId = none
  shardAssignment : engine.shardAssignments requestId = none
  draftAssignment : engine.draftAssignments requestId = none
  calls : ∀ ticket call, engine.calls ticket = some call → call.requestId ≠ requestId

theorem fresh_new (draftSources : PartialMap String DraftModelSource)
    (requestId : RequestId) : (new draftSources).Fresh requestId :=
  ⟨rfl, rfl, rfl, fun _ _ parked => by simp [new] at parked⟩

/-! ## A small deployment

One connected miner and one model, for the instances of the theorems about
runs.
-/

/-- A registry with one miner that can also draft. -/
def soleRegistry : MinerRegistry :=
  (MinerRegistry.new.register "miner" 0).markDraftCapable "miner"

def soleManifest : ModelManifest :=
  ⟨"model", "dense", 4, "root", "ACTIVE"⟩

def soleSource : ModelSource :=
  ⟨"gguf", "tokenizer", "tokenizer-hash"⟩

def soleDraftSource : DraftModelSource :=
  ⟨"draft", "draft-gguf", "draft-hash", "draft-tokenizer", "draft-tokenizer-hash", 2⟩

/-- The engine before any event, with a draft for the model. -/
def soleEngine : SpeculativeEngine :=
  new (PartialMap.empty.insert "model" soleDraftSource)

/-- The start of request `"r"` over the given number of shards. -/
def soleStart (shards : Nat) (maxTokens : UInt32) : Stimulus :=
  ⟨soleRegistry, .startPipeline "r" soleManifest
    ((List.range shards).map fun shardIndex => ⟨shardIndex, "DENSE", some 0, some 4, none⟩)
    maxTokens "00" "prompt-hash" soleSource⟩

/-- A result for one shard of `"r"`. -/
def soleResult (shardIndex : Nat) (nextTokenId : Option TokenId)
    (nextTokenIds : Option (List TokenId)) : OpoiShardResult where
  requestId := "r"
  shardIndex := shardIndex
  tokenIndex := 0
  outputHash := ""
  output := ⟨[], ""⟩
  nextTokenId := nextTokenId
  nextTokenIds := nextTokenIds
  routerSelection := none
  moeLayerStep := none

/-- The miner's answer for one shard of `"r"`. -/
def soleAnswer (shardIndex : Nat) (nextTokenId : Option TokenId)
    (nextTokenIds : Option (List TokenId)) : Stimulus :=
  ⟨soleRegistry, .shardResult "miner" (soleResult shardIndex nextTokenId nextTokenIds)⟩

/-- The tokenizer's answer to the call under a ticket. -/
def soleTokenized (ticket : Ticket) (tokenCount : Nat) : Stimulus :=
  ⟨soleRegistry, .tokenized ticket (some tokenCount)⟩

/-- A tokenizer with one token for the beginning of the text and one for every
two hex digits. -/
def soleCount (promptHex : String) : Nat :=
  1 + (promptHex.length + 1) / 2

/-- The miner's draft for `"r"`. -/
def soleDraft (draftTokenIds : List TokenId) : Stimulus :=
  ⟨soleRegistry, .draftResult "miner" ⟨"r", draftTokenIds⟩⟩

/-- An acknowledgement of one rolled back session of `"r"`. -/
def soleAck (shardIndex : Nat) : Stimulus :=
  ⟨soleRegistry, .kvRollbackAck ⟨"r", shardIndex, true, none⟩ true⟩

end SpeculativeEngine

end StratumBridge.Speculative
