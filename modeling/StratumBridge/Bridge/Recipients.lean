import StratumBridge.Audit.System
import StratumBridge.Expert.System
import StratumBridge.Opoi.System
import StratumBridge.Shard.Sessions
import StratumBridge.Speculative.Sessions

/-!
# Whom the lines are for

Every line that asks a miner to work goes to a wallet that was selected for it
just then, or to a wallet that was kept from before: the wallet a layer walk is
pinned to, the draft wallet of a pipeline, the host planned for an expert.  One
account for each engine.
-/

namespace StratumBridge.Opoi

open Data Rpc Wire Transition

/-- The wallet an effect asks to work. -/
def Effect.assignee : Effect → Option Wallet
  | assigned wallet _ _ => some wallet
  | _ => none

namespace OpoiEngine

variable {sha256 : Digest} {engine : OpoiEngine} {stimulus : Stimulus}
variable {allowed : Wallet → Prop}

theorem nextCandidate_grows (engine : OpoiEngine) (candidates : List RequestId) :
    Grows Effect.assignee allowed engine.log (nextCandidate engine candidates).log := by
  induction candidates with
  | nil => exact .refl _
  | cons requestId rest ih =>
      simp only [nextCandidate]
      split
      · exact ih
      · split
        · exact grows_of_none _ rfl
        · exact .refl _

theorem pushAssign_grows (registry : MinerRegistry) (assign : OpoiAssign) (wallet : Wallet)
    (delivered : Bool) (engine : OpoiEngine) (picked : allowed wallet) :
    Grows Effect.assignee allowed engine.log
      (pushAssign registry assign wallet delivered engine).log := by
  unfold pushAssign
  split
  · exact .refl _
  · split
    · rename_i tx connected
      split
      · refine ⟨[.assigned wallet tx assign], rfl, ?_⟩
        intro entry mem someone addressed
        cases List.mem_singleton.mp mem
        cases addressed
        exact picked
      · exact .refl _
    · exact .refl _

/-- An assignment goes to the wallet after the cursor. -/
theorem next_recipients (engine : OpoiEngine) (stimulus : Stimulus) :
    Grows Effect.assignee
      (fun wallet => stimulus.registry.pickNext engine.lastAssigned = some wallet) engine.log
      (next sha256 engine stimulus).log := by
  rcases stimulus with ⟨registry, event⟩
  cases event with
  | receivePrompt requestId promptHex model maxTokens =>
      simp only [next, receivePrompt]
      split
      · exact grows_of_none _ rfl
      · exact .refl _
  | fetched ticket answer =>
      simp only [next, resumeFetched]
      split
      · split
        · exact grows_of_none _ rfl
        · exact grows_of_none _ rfl
      · exact .refl _
  | submitResult wallet params =>
      simp only [next, handleSubmitResult]
      split
      · exact grows_of_none _ rfl
      · split
        · exact grows_of_none _ rfl
        · exact .refl _
  | checked ticket active =>
      simp only [next, resumeChecked]
      split
      · split
        · exact .refl _
        · exact grows_of_none _ rfl
      · exact .refl _
  | created ticket created =>
      simp only [next, resumeCreated]
      split
      · split
        · exact grows_of_none _ rfl
        · exact grows_of_none _ rfl
      · exact .refl _
  | dropped ticket => exact .refl _
  | disconnect wallet => exact .refl _
  | pollBegin => exact .refl _
  | pollListing requests =>
      simp only [next, resumeListing]
      split
      · split <;> exact .refl _
      · exact .refl _
  | pollListed active =>
      simp only [next, resumeListed, cache]
      split
      · split
        · exact .refl _
        · exact .refl _
        · split <;> exact .refl _
      · exact .refl _
  | pollCandidates candidates =>
      simp only [next, resumeCollecting]
      split
      · exact nextCandidate_grows engine candidates
      · exact .refl _
  | pollManifest answer delivered =>
      simp only [next, resumeManifest]
      split
      · rename_i assign rest polling
        split
        · split
          · exact .refl _
          · rename_i wallet picked
            exact (pushAssign_grows registry assign wallet delivered
              { engine with lastAssigned := some wallet } picked).trans
                (nextCandidate_grows _ rest)
        · exact nextCandidate_grows engine rest
      · exact .refl _
  | restart => exact .refl _

end OpoiEngine

end StratumBridge.Opoi

namespace StratumBridge.Expert

open Data Wire Transition

/-- The wallet an entry asks to work. -/
def Entry.assignee : Entry → Option Wallet
  | assigned dispatch => some dispatch.wallet
  | _ => none

namespace ExpertDispatcher

variable {sha256 : Digest} {arith : Arithmetic} {dispatcher : ExpertDispatcher}
variable {stimulus : Stimulus}

/-- An expert's line goes to the host of the member it is for. -/
theorem next_recipients (enabled : dispatcher.enabled stimulus) :
    Grows Entry.assignee
      (fun wallet => ∃ ticket index call member,
        stimulus.event = .dispatchOne ticket index true ∧
          dispatcher.Stands ticket index call member ∧
          stimulus.registry.Registered member.wallet ∧ member.wallet = wallet)
      dispatcher.log (next sha256 arith dispatcher stimulus).log := by
  have step : Step sha256 arith dispatcher stimulus (next sha256 arith dispatcher stimulus) :=
    step_next enabled
  rcases step.adds with ⟨entries, logged, adds⟩
  refine ⟨entries, logged, ?_⟩
  intro entry mem someone addressed
  cases adds entry mem with
  | assigned sends advanced logged =>
      cases addressed
      exact ⟨_, _, _, _, sends.event, sends.stands, ⟨_, sends.connected⟩, sends.wallet.symm⟩
  | refused event refusal advanced logged calls isNew =>
      rcases isNew with rfl | rfl
      · cases addressed
      · cases addressed
  | _ => cases addressed

end ExpertDispatcher

end StratumBridge.Expert

namespace StratumBridge.Audit

open Data Wire Transition

/-- The wallet an effect asks to work. -/
def Effect.assignee : Effect → Option Wallet
  | auditAssign wallet _ _ => some wallet
  | _ => none

/-- An audit's line goes to a trusted auditor other than the audited miner. -/
theorem B3LiteAuditor.next_recipients {auditor : B3LiteAuditor} {stimulus : Stimulus}
    (enabled : auditor.enabled stimulus) :
    Grows Effect.assignee
      (fun wallet => ∃ audited,
        stimulus.registry.pickAuditorCapable auditor.trustedWallets audited = some wallet)
      auditor.log (next auditor stimulus).log := by
  obtain ⟨emitted, logged, sends⟩ := next_adds enabled
  refine ⟨emitted, logged, ?_⟩
  intro effect mem someone addressed
  cases effect with
  | auditAssign wallet tx assign =>
      cases addressed
      cases sends _ mem rfl with
      | intro resolving prepared picked connected => exact ⟨_, picked⟩
  | _ => cases addressed

end StratumBridge.Audit

namespace StratumBridge.Shard

open Data Rpc Wire Transition

/-- The wallet an effect asks to work. -/
def Effect.assignee : Effect → Option Wallet
  | shardAssign wallet _ _ => some wallet
  | _ => none

namespace ShardEngine

variable {sha256 : Digest} {engine : ShardEngine} {stimulus : Stimulus} {requestId : RequestId}

theorem registered_of_mem_dispatchLines {registry : MinerRegistry} {last : Option Wallet}
    {source : ModelSource} {pipeline : PipelineState} {wallet : Wallet} {tx : Channel}
    {assign : OpoiShardAssign}
    (mem : .shardAssign wallet tx assign ∈
      dispatchLines registry last requestId source pipeline) : registry.Registered wallet := by
  unfold dispatchLines at mem
  split at mem
  · cases List.mem_singleton.mp mem
  · split at mem
    · rename_i layerIdx pinned walk
      cases connected : registry.get pinned with
      | none =>
          rw [connected] at mem
          cases List.mem_singleton.mp mem
      | some channel =>
          rw [connected] at mem
          cases List.mem_singleton.mp mem
          exact ⟨_, connected⟩
    · simp only [Option.mem_toList, Option.bind_eq_some_iff, Option.map_eq_some_iff] at mem
      rcases mem with ⟨picked, -, channel, connected, line⟩
      cases line
      exact ⟨_, connected⟩

/-- A shard's line goes to a connected wallet, to one that is not banned or to the
one that the dispatched pipeline is pinned to. -/
theorem next_recipients (fresh : engine.TicketsFresh) (enabled : engine.enabled stimulus)
    (requestId : RequestId) :
    Grows Effect.assignee
      (fun wallet => stimulus.registry.Registered wallet ∧
        (wallet ∉ stimulus.registry.banned ∨
          ∃ pipeline layerIdx, Dispatching engine requestId stimulus.event pipeline ∧
            pipeline.moeLayerWalk = some (layerIdx, wallet)))
      (engine.history requestId) ((next sha256 engine stimulus).history requestId) := by
  obtain ⟨emitted, extended, change⟩ := next_change sha256 enabled (fresh _ le_rfl) requestId
  refine ⟨emitted, extended, ?_⟩
  have session := change.sessionChange rfl
  have ofLine : ∀ {pipeline source wallet tx assign},
      Dispatching engine requestId stimulus.event pipeline →
      .shardAssign wallet tx assign ∈
        dispatchLines stimulus.registry engine.lastAssigned requestId source pipeline →
      stimulus.registry.Registered wallet ∧
        (wallet ∉ stimulus.registry.banned ∨
          ∃ pipeline layerIdx, Dispatching engine requestId stimulus.event pipeline ∧
            pipeline.moeLayerWalk = some (layerIdx, wallet)) := by
    intro pipeline source wallet tx assign dispatching line
    constructor
    · exact registered_of_mem_dispatchLines line
    · rcases shardAssign_mem_dispatchLines line with
        ⟨shard, -, -, -, ⟨layerIdx, walking⟩ | ⟨-, eligible⟩⟩
      · exact .inr ⟨pipeline, layerIdx, dispatching, walking⟩
      · exact .inl eligible.2
  intro effect mem someone addressed
  cases effect with
  | shardAssign wallet tx assign =>
      cases addressed
      generalize (next sha256 engine stimulus).pipelines requestId = later at session
      cases session with
      | quiet silent unmarked same => exact absurd mem (silent _ tx assign)
      | dispatched dispatching notAssign marked =>
          rcases List.mem_cons.mp mem with same | line
          · exact absurd same.symm (notAssign _ tx assign)
          · exact ofLine dispatching line
      | redispatched dispatching => exact ofLine dispatching mem
  | _ => cases addressed

end ShardEngine

end StratumBridge.Shard

namespace StratumBridge.Speculative

open Data Rpc Wire Transition

/-- The wallet an effect asks to work.  A rollback asks for no work. -/
def Effect.assignee : Effect → Option Wallet
  | shardAssign wallet _ _ => some wallet
  | draftGenerate wallet _ _ => some wallet
  | _ => none

namespace SpeculativeEngine

/-- The event makes the engine ask for a draft for this pipeline. -/
inductive Drafting (engine : SpeculativeEngine) (requestId : RequestId) :
    Event → SpecPipeline → Prop
  | firstRound {ticket call base pipeline} (parked : engine.calls ticket = some call)
      (about : call.requestId = requestId)
      (present : engine.pipelines requestId = some pipeline) :
      Drafting engine requestId (.tokenized ticket (some base))
        (seedRounds pipeline base call.t0)
  | nextRound {ack stored pipeline state} (about : ack.requestId = requestId)
      (present : engine.pipelines requestId = some pipeline)
      (awaiting : pipeline.phase = .awaitingRollback state)
      (complete : state.pending.erase ack.shardIndex = ∅)
      (notFinal : state.isFinalizingRound = false) :
      Drafting engine requestId (.kvRollbackAck ack stored) (nextRound pipeline state)
  | retried {stalledShard stalledDraft pipeline}
      (present : engine.pipelines requestId = some pipeline)
      (awaiting : pipeline.phase = .awaitingDraft)
      (unassigned : engine.draftAssignments requestId = none) :
      Drafting engine requestId (.retryStalledTick stalledShard stalledDraft) pipeline

variable {sha256 : Digest} {engine : SpeculativeEngine} {stimulus : Stimulus}
variable {requestId : RequestId} {registry : MinerRegistry} {pipeline : SpecPipeline}

/-- A shard's line goes to an eligible wallet. -/
theorem eligible_of_mem_stepLines {last : Option Wallet} {effect : Effect} {wallet : Wallet}
    (mem : effect ∈ stepLines registry last requestId pipeline)
    (addressed : effect.assignee = some wallet) : registry.Eligible wallet := by
  unfold stepLines at mem
  split at mem
  · cases mem
  · split at mem
    · cases List.mem_singleton.mp mem
      cases addressed
    · simp only [Option.mem_toList, Option.bind_eq_some_iff, Option.map_eq_some_iff] at mem
      rcases mem with ⟨picked, next, tx, -, rfl⟩
      cases addressed
      exact MinerRegistry.eligible_of_pickNext next

/-- A draft's line goes to the draft wallet of the pipeline while that is connected,
or to an eligible one. -/
theorem of_mem_draftLines {effect : Effect} {wallet : Wallet}
    (mem : effect ∈ draftLines registry requestId pipeline)
    (addressed : effect.assignee = some wallet) :
    registry.Eligible wallet ∨
      registry.Registered wallet ∧ pipeline.draftWallet = some wallet := by
  simp only [draftLines, Option.mem_toList, Option.bind_eq_some_iff,
    Option.map_eq_some_iff] at mem
  rcases mem with ⟨picked, chosen, tx, connected, rfl⟩
  cases addressed
  unfold chooseDraftWallet at chosen
  split at chosen
  · rename_i pinned isPinned
    split at chosen
    · cases chosen
      exact .inr ⟨⟨tx, connected⟩, isPinned⟩
    · exact .inl (MinerRegistry.eligible_of_pickDraftCapable chosen).1
  · exact .inl (MinerRegistry.eligible_of_pickDraftCapable chosen).1

theorem assignee_of_mem_rollbackLines {last : Option Wallet} {keepLen : Nat} {finalizing : Bool}
    {effect : Effect}
    (mem : effect ∈ rollbackLines registry requestId pipeline last keepLen finalizing) :
    effect.assignee = none := by
  rw [rollbackLines] at mem
  rcases List.mem_append.mp mem with forShard | forDraft
  · simp only [List.mem_filterMap, Option.bind_eq_some_iff, Option.map_eq_some_iff] at forShard
    rcases forShard with ⟨shard, -, wallet, -, tx, -, rfl⟩
    rfl
  · simp only [Option.mem_toList, Option.bind_eq_some_iff, Option.map_eq_some_iff] at forDraft
    rcases forDraft with ⟨wallet, -, tx, -, rfl⟩
    rfl

theorem assignee_of_mem_ackSubmission {state : RollbackState} {ack : OpoiKvRollbackAck}
    {effect : Effect} (mem : effect ∈ ackSubmission requestId state ack) :
    effect.assignee = none := by
  unfold ackSubmission at mem
  split at mem
  · split at mem
    · cases List.mem_singleton.mp mem
      rfl
    · cases mem
  · cases mem

/-- The wallets a change asks to work. -/
theorem Change.recipients {before later : Option SpecPipeline} {emitted : List Effect}
    (change : Change sha256 engine requestId stimulus before later emitted)
    (present : engine.pipelines requestId = before) {effect : Effect} (mem : effect ∈ emitted)
    {wallet : Wallet} (addressed : effect.assignee = some wallet) :
    stimulus.registry.Eligible wallet ∨
      stimulus.registry.Registered wallet ∧
        ∃ pipeline, Drafting engine requestId stimulus.event pipeline ∧
          pipeline.draftWallet = some wallet := by
  have unaddressed : effect.assignee ≠ none := by simp [addressed]
  cases change with
  | idle => cases mem
  | disconnected pinned => cases mem
  | started configured =>
      rcases List.mem_cons.mp mem with rfl | line
      · cases addressed
      · exact .inl (eligible_of_mem_stepLines line addressed)
  | relayed about assigned relaying notLast =>
      rcases List.mem_cons.mp mem with rfl | line
      · cases addressed
      · exact .inl (eligible_of_mem_stepLines line addressed)
  | verified about assigned verifying last answered verified =>
      rcases List.mem_cons.mp mem with rfl | line
      · cases addressed
      · exact absurd (assignee_of_mem_rollbackLines line) unaddressed
  | counted parked about =>
      rcases of_mem_draftLines mem addressed with eligible | ⟨registered, pinned⟩
      · exact .inl eligible
      · exact .inr ⟨registered, _, .firstRound parked about present, pinned⟩
  | drafted about assigned nonempty => exact .inl (eligible_of_mem_stepLines mem addressed)
  | acked about awaiting left =>
      exact absurd (assignee_of_mem_ackSubmission mem) unaddressed
  | roundCompleted about awaiting complete notFinal =>
      rcases List.mem_append.mp mem with submits | line
      · exact absurd (assignee_of_mem_ackSubmission submits) unaddressed
      · rcases of_mem_draftLines line addressed with eligible | ⟨registered, pinned⟩
        · exact .inl eligible
        · exact .inr ⟨registered, _, .nextRound about present awaiting complete notFinal, pinned⟩
  | finalized about awaiting complete final winner =>
      rcases List.mem_append.mp mem with submits | creates
      · exact absurd (assignee_of_mem_ackSubmission submits) unaddressed
      · cases List.mem_singleton.mp creates
        cases addressed
  | unattributed about awaiting complete final noWinner =>
      rcases List.mem_append.mp mem with submits | drops
      · exact absurd (assignee_of_mem_ackSubmission submits) unaddressed
      · cases List.mem_singleton.mp drops
        cases addressed
  | redispatched stalled => exact .inl (eligible_of_mem_stepLines mem addressed)
  | redrafted awaiting unassigned =>
      rcases of_mem_draftLines mem addressed with eligible | ⟨registered, pinned⟩
      · exact .inl eligible
      · exact .inr ⟨registered, _, .retried present awaiting unassigned, pinned⟩
  | rejected | stale | parked | uncounted =>
      cases List.mem_singleton.mp mem
      cases addressed
  | orphaned | promptUnanswered | verifyUnanswered | panicked =>
      rcases List.mem_pair.mp mem with rfl | rfl
      · cases addressed
      · cases addressed

/-- A line goes to an eligible wallet, or to the draft wallet of a pipeline a draft
is asked for while that is connected. -/
theorem next_recipients (enabled : engine.enabled stimulus) (requestId : RequestId) :
    Grows Effect.assignee
      (fun wallet => stimulus.registry.Eligible wallet ∨
        stimulus.registry.Registered wallet ∧
          ∃ pipeline, Drafting engine requestId stimulus.event pipeline ∧
            pipeline.draftWallet = some wallet)
      (engine.history requestId) ((next sha256 engine stimulus).history requestId) := by
  obtain ⟨emitted, extended, change⟩ := next_change sha256 enabled requestId
  exact ⟨emitted, extended, fun effect mem wallet addressed =>
    change.recipients rfl mem addressed⟩

end SpeculativeEngine

end StratumBridge.Speculative
