import StratumBridge.Speculative.Outcomes
import StratumBridge.Transition.Custody

/-!
# How the speculative engine lets go of a request

The places at which a pipeline is removed without a row for its request: an
answer is missing, the tokenizer failed, the draft wallet disconnected, or the
final row is not stored.
-/

namespace StratumBridge.Speculative

open Data Rpc Wire Transition

/-- The row an effect asks the database for, and whether it is stored. -/
def Effect.insertion : Effect → Option (NewSubmission × Bool)
  | createSubmission row stored => some (row, stored)
  | _ => none

namespace SpeculativeEngine

/-- The step removes the request's pipeline and leaves no row for it. -/
inductive Drops (engine : SpeculativeEngine) (requestId : RequestId) : Stimulus → Prop
  | promptUnanswered {registry wallet result pipeline pos currentInput}
      (about : result.requestId = requestId)
      (assigned : engine.shardAssignments requestId = some ⟨wallet, result.shardIndex⟩)
      (present : engine.pipelines requestId = some pipeline)
      (prompting : pipeline.phase = .promptProcessing pos currentInput)
      (last : pos + 1 = pipeline.shards.length) (unanswered : result.nextTokenId = none) :
      Drops engine requestId ⟨registry, .shardResult wallet result⟩
  | verifyUnanswered {registry wallet result pipeline pos currentInput draft}
      (about : result.requestId = requestId)
      (assigned : engine.shardAssignments requestId = some ⟨wallet, result.shardIndex⟩)
      (present : engine.pipelines requestId = some pipeline)
      (verifying : pipeline.phase = .verifying pos currentInput draft)
      (last : pos + 1 = pipeline.shards.length) (unanswered : result.nextTokenIds = none) :
      Drops engine requestId ⟨registry, .shardResult wallet result⟩
  | uncounted {registry ticket call pipeline} (parked : engine.calls ticket = some call)
      (about : call.requestId = requestId)
      (present : engine.pipelines requestId = some pipeline) :
      Drops engine requestId ⟨registry, .tokenized ticket none⟩
  | unfinished {registry ack stored pipeline state} (about : ack.requestId = requestId)
      (present : engine.pipelines requestId = some pipeline)
      (awaiting : pipeline.phase = .awaitingRollback state)
      (complete : state.pending.erase ack.shardIndex = ∅)
      (final : state.isFinalizingRound = true)
      (cause : pipeline.contributions.winner = none ∨ stored = false) :
      Drops engine requestId ⟨registry, .kvRollbackAck ack stored⟩
  | disconnected {registry wallet pipeline}
      (present : engine.pipelines requestId = some pipeline)
      (pinned : pipeline.draftWallet = some wallet) :
      Drops engine requestId ⟨registry, .disconnect wallet⟩

variable {sha256 : Digest} {engine : SpeculativeEngine} {requestId : RequestId}
variable {stimulus : Stimulus} {emitted : List Effect}

/-- A line asks for no row. -/
theorem insertion_of_isLine {effect : Effect} (line : effect.isLine = true) :
    effect.insertion = none := by
  cases effect with
  | createSubmission => cases line
  | _ => rfl

@[simp]
theorem insertion_stepLines (registry : MinerRegistry) (last : Option Wallet)
    (requestId : RequestId) (pipeline : SpecPipeline) :
    (stepLines registry last requestId pipeline).filterMap Effect.insertion = [] :=
  List.filterMap_eq_nil_iff.mpr fun _ mem => insertion_of_isLine (isLine_of_mem_stepLines mem)

@[simp]
theorem insertion_draftLines (registry : MinerRegistry) (requestId : RequestId)
    (pipeline : SpecPipeline) :
    (draftLines registry requestId pipeline).filterMap Effect.insertion = [] :=
  List.filterMap_eq_nil_iff.mpr fun _ mem => insertion_of_isLine (isLine_of_mem_draftLines mem)

@[simp]
theorem insertion_rollbackLines (registry : MinerRegistry) (requestId : RequestId)
    (pipeline : SpecPipeline) (last : Option Wallet) (keepLen : Nat) (finalizing : Bool) :
    (rollbackLines registry requestId pipeline last keepLen finalizing).filterMap
      Effect.insertion = [] :=
  List.filterMap_eq_nil_iff.mpr fun _ mem =>
    insertion_of_isLine (isLine_of_mem_rollbackLines mem)

@[simp]
theorem insertion_ackSubmission (requestId : RequestId) (state : RollbackState)
    (ack : OpoiKvRollbackAck) :
    (ackSubmission requestId state ack).filterMap Effect.insertion = [] := by
  unfold ackSubmission
  split
  · split <;> rfl
  · rfl

/-- What a change amounts to for the custody of its request. -/
theorem Change.turn {before after : Option SpecPipeline}
    (change : Change sha256 engine requestId stimulus before after emitted)
    (present : engine.pipelines requestId = before) :
    Turn (stimulus.event.Starts requestId) (engine.Drops requestId stimulus) before after
      (emitted.filterMap Effect.insertion) := by
  have onwards : ∀ {held later : SpecPipeline} {effects : List Effect},
      effects.filterMap Effect.insertion = [] →
      Turn (stimulus.event.Starts requestId) (engine.Drops requestId stimulus) (some held)
        (some later) (effects.filterMap Effect.insertion) := by
    intro held later effects silent
    rw [silent]
    exact .stays rfl
  cases change with
  | idle => exact .stays rfl
  | started configured =>
      rw [List.filterMap_cons_none rfl, insertion_stepLines]
      exact .starts rfl
  | rejected about => exact .stays rfl
  | orphaned about assigned => exact .stays rfl
  | stale about assigned idle => exact onwards rfl
  | relayed about assigned relaying notLast =>
      apply onwards
      rw [List.filterMap_cons_none rfl, insertion_stepLines]
  | parked about assigned prompting last answered => exact onwards rfl
  | promptUnanswered about assigned prompting last unanswered =>
      exact .drops (.promptUnanswered about assigned present prompting last unanswered)
  | verifyUnanswered about assigned verifying last unanswered =>
      exact .drops (.verifyUnanswered about assigned present verifying last unanswered)
  | panicked about assigned verifying last answered failed => exact onwards rfl
  | verified about assigned verifying last answered verified =>
      apply onwards
      rw [List.filterMap_cons_none rfl, insertion_rollbackLines]
  | uncounted parked about =>
      cases before with
      | none => exact .stays rfl
      | some held => exact .drops (.uncounted parked about present)
  | counted parked about => exact onwards (insertion_draftLines ..)
  | drafted about assigned nonempty => exact onwards (insertion_stepLines ..)
  | acked about awaiting left => exact onwards (insertion_ackSubmission ..)
  | roundCompleted about awaiting complete notFinal =>
      apply onwards
      rw [List.filterMap_append, insertion_ackSubmission, insertion_draftLines, List.append_nil]
  | finalized about awaiting complete final winner =>
      rw [List.filterMap_append, insertion_ackSubmission]
      exact .finishes fun unstored =>
        .unfinished about present awaiting complete final (.inr unstored)
  | unattributed about awaiting complete final noWinner =>
      rw [List.filterMap_append, insertion_ackSubmission]
      exact .drops (.unfinished about present awaiting complete final (.inl noWinner))
  | redispatched stalled => exact onwards (insertion_stepLines ..)
  | redrafted awaiting unassigned => exact onwards (insertion_draftLines ..)
  | disconnected pinned => exact .drops (.disconnected present pinned)

/-- An eligible model has a draft, so its request is started. -/
theorem isSome_startPipeline {registry : MinerRegistry} (requestId : RequestId)
    {manifest : ModelManifest} (eligible : isEligible registry engine manifest.modelId = true)
    (shards : List ShardDescriptor)
    (maxTokens : UInt32) (promptHex promptHash : String) (source : ModelSource) :
    ((startPipeline registry requestId manifest shards maxTokens promptHex promptHash source
      engine).pipelines requestId).isSome = true := by
  have drafts := (Bool.and_eq_true_iff.mp eligible).1
  obtain ⟨draftSource, configured⟩ := Option.isSome_iff_exists.mp drafts
  simp only [startPipeline, configured, dispatchShardStep_pipelines]
  exact congrArg Option.isSome (PartialMap.insert_self ..)

end SpeculativeEngine

end StratumBridge.Speculative
