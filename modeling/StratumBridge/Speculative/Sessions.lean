import StratumBridge.Speculative.Outcomes

/-!
# Open sessions of the speculative engine

Every verify dispatch and every rollback relies on the session that some miner
holds for a shard: the one that computed the shard last, which is the pass
before for a dispatch and the pass being settled for a rollback.  Both go to
whichever wallet follows the cursor.
-/

namespace StratumBridge.Speculative

open Data Rpc Wire Transition

/-- A request's history starts over. -/
def Effect.isStarted : Effect → Bool
  | started _ => true
  | _ => false

/-- The wallet of an accepted result for a shard. -/
def Effect.deliveredFor (shardIndex : Nat) : Effect → Option Wallet
  | accepted wallet result => if result.shardIndex = shardIndex then some wallet else none
  | _ => none

/-- The wallet that computed a shard last since the request was last
started. -/
def lastComputed (history : List Effect) (shardIndex : Nat) : Option Wallet :=
  (sinceLast Effect.isStarted history).reverse.findSome? (Effect.deliveredFor shardIndex)

/-- Effects that accept nothing and start nothing leave the holders alone. -/
theorem lastComputed_append {lines : List Effect} (history : List Effect) (shardIndex : Nat)
    (unmarked : ∀ effect ∈ lines, effect.isStarted = false)
    (silent : ∀ effect ∈ lines, effect.deliveredFor shardIndex = none) :
    lastComputed (history ++ lines) shardIndex = lastComputed history shardIndex := by
  have nobody : lines.reverse.findSome? (Effect.deliveredFor shardIndex) = none :=
    List.findSome?_eq_none_iff.mpr fun effect mem => silent effect (List.mem_reverse.mp mem)
  rw [lastComputed, sinceLast_append _ unmarked, List.reverse_append, List.findSome?_append, nobody,
    Option.none_or]
  rfl

namespace SpeculativeEngine

/-- The event makes the engine send a message that relies on the open session
of a shard; `heard` are the results it accepts first. -/
inductive Relies (engine : SpeculativeEngine) (requestId : RequestId) :
    Event → List Effect → ShardDescriptor → Prop
  | relayed {wallet result pipeline pos currentInput draft shard}
      (about : result.requestId = requestId)
      (assigned : engine.shardAssignments requestId = some ⟨wallet, result.shardIndex⟩)
      (present : engine.pipelines requestId = some pipeline)
      (verifying : pipeline.phase = .verifying pos currentInput draft)
      (notLast : pos + 1 ≠ pipeline.shards.length)
      (found : pipeline.shards[pos + 1]? = some shard) :
      Relies engine requestId (.shardResult wallet result) [.accepted wallet result] shard
  | settled {wallet result pipeline pos currentInput draft logits shard}
      (about : result.requestId = requestId)
      (assigned : engine.shardAssignments requestId = some ⟨wallet, result.shardIndex⟩)
      (present : engine.pipelines requestId = some pipeline)
      (verifying : pipeline.phase = .verifying pos currentInput draft)
      (last : pos + 1 = pipeline.shards.length) (answered : result.nextTokenIds = some logits)
      (mem : shard ∈ pipeline.shards) :
      Relies engine requestId (.shardResult wallet result) [.accepted wallet result] shard
  | drafted {wallet result pipeline shard} (about : result.requestId = requestId)
      (assigned : engine.draftAssignments requestId = some wallet)
      (nonempty : result.draftTokenIds ≠ [])
      (present : engine.pipelines requestId = some pipeline)
      (found : pipeline.shards[0]? = some shard) :
      Relies engine requestId (.draftResult wallet result) [] shard
  | retried {stalledShard stalledDraft pipeline pos currentInput draft shard}
      (stalled : engine.StalledShard requestId)
      (present : engine.pipelines requestId = some pipeline)
      (verifying : pipeline.phase = .verifying pos currentInput draft)
      (found : pipeline.shards[pos]? = some shard) :
      Relies engine requestId (.retryStalledTick stalledShard stalledDraft) [] shard

/-- The condition on a step under which messages reach the sessions they rely
on: every eligible wallet holds the session. -/
def SessionGuard (requestId : RequestId) (engine : SpeculativeEngine) (stimulus : Stimulus) :
    Prop :=
  ∀ heard shard, Relies engine requestId stimulus.event heard shard →
    ∀ other, stimulus.registry.Eligible other →
      lastComputed (engine.history requestId ++ heard) shard.shardIndex = some other

variable {sha256 : Digest} {engine : SpeculativeEngine} {requestId : RequestId}
variable {stimulus : Stimulus} {wallet : Wallet} {tx : Channel}

/-! ## The lines -/

/-- The line of a shard dispatch goes to an eligible wallet. -/
theorem shardAssign_mem_stepLines {registry : MinerRegistry} {last : Option Wallet}
    {pipeline : SpecPipeline} {assign : OpoiShardAssign}
    (mem : .shardAssign wallet tx assign ∈ stepLines registry last requestId pipeline) :
    ∃ pos currentInput isPrompt shard,
      pipeline.phase.relay = some (pos, currentInput, isPrompt) ∧
      pipeline.shards[pos]? = some shard ∧ assign.shardIndex = shard.shardIndex ∧
      registry.Eligible wallet := by
  unfold stepLines at mem
  split at mem
  · simp at mem
  · rename_i pos currentInput isPrompt relaying
    split at mem
    · simp at mem
    · rename_i shard found
      simp only [Option.mem_toList, Option.bind_eq_some_iff, Option.map_eq_some_iff] at mem
      rcases mem with ⟨picked, next, channel, -, line⟩
      cases line
      exact ⟨pos, currentInput, isPrompt, shard, relaying, found, rfl,
        MinerRegistry.eligible_of_pickNext next⟩

/-- The rollback of a shard goes to an eligible wallet. -/
theorem kvRollback_mem_rollbackLines {registry : MinerRegistry} {last : Option Wallet}
    {pipeline : SpecPipeline} {keepLen : Nat} {finalizing : Bool} {rollback : OpoiKvRollback}
    (mem : .kvRollback wallet tx rollback ∈
      rollbackLines registry requestId pipeline last keepLen finalizing)
    (ofShard : rollback.shardIndex ≠ draftSessionShardIndex) :
    ∃ shard ∈ pipeline.shards, rollback.shardIndex = shard.shardIndex ∧
      registry.Eligible wallet := by
  rw [rollbackLines] at mem
  rcases List.mem_append.mp mem with forShard | forDraft
  · simp only [List.mem_filterMap, Option.bind_eq_some_iff, Option.map_eq_some_iff] at forShard
    rcases forShard with ⟨shard, inShards, picked, next, channel, -, line⟩
    cases line
    exact ⟨shard, inShards, rfl, MinerRegistry.eligible_of_pickNext next⟩
  · simp only [Option.mem_toList, Option.bind_eq_some_iff, Option.map_eq_some_iff] at forDraft
    rcases forDraft with ⟨pinned, -, channel, -, line⟩
    cases line
    exact absurd rfl ofShard

/-- A shard dispatch reaches a set of wallets at every position of the cursor
exactly when all eligible wallets are in it. -/
theorem stepLines_reach_iff {registry : MinerRegistry} {pipeline : SpecPipeline} {pos : Nat}
    {currentInput : ShardInputWire} {isPrompt : Bool} {shard : ShardDescriptor}
    {holders : Wallet → Prop}
    (relaying : pipeline.phase.relay = some (pos, currentInput, isPrompt))
    (found : pipeline.shards[pos]? = some shard) :
    (∀ last wallet tx assign, .shardAssign wallet tx assign ∈
        stepLines registry last requestId pipeline → holders wallet) ↔
      ∀ wallet, registry.Eligible wallet → holders wallet := by
  constructor
  · intro reaches wallet eligible
    obtain ⟨last, picked⟩ := MinerRegistry.exists_pickNext_iff.mpr eligible
    rcases eligible.1 with ⟨tx, channel⟩
    apply reaches last wallet tx
    simp only [stepLines, relaying, found, picked, channel, Option.bind_some, Option.map_some,
      Option.toList_some]
    exact List.mem_singleton_self _
  · intro all last wallet tx assign line
    obtain ⟨_, _, _, _, _, _, _, eligible⟩ := shardAssign_mem_stepLines line
    exact all wallet eligible

/-- The rollbacks of shards reach a set of wallets at every position of the
cursor exactly when all eligible wallets are in it. -/
theorem rollbackLines_reach_iff {registry : MinerRegistry} {pipeline : SpecPipeline}
    {keepLen : Nat} {finalizing : Bool} {shard : ShardDescriptor} {holders : Wallet → Prop}
    (inShards : shard ∈ pipeline.shards) (ofShard : shard.shardIndex ≠ draftSessionShardIndex) :
    (∀ last wallet tx rollback, .kvRollback wallet tx rollback ∈
        rollbackLines registry requestId pipeline last keepLen finalizing →
      rollback.shardIndex ≠ draftSessionShardIndex → holders wallet) ↔
      ∀ wallet, registry.Eligible wallet → holders wallet := by
  constructor
  · intro reaches wallet eligible
    obtain ⟨last, picked⟩ := MinerRegistry.exists_pickNext_iff.mpr eligible
    rcases eligible.1 with ⟨tx, channel⟩
    apply reaches last wallet tx ⟨requestId, shard.shardIndex, keepLen % 2 ^ 32, finalizing⟩ _
      ofShard
    apply List.mem_append_left
    rw [List.mem_filterMap]
    exact ⟨shard, inShards, by simp [picked, channel]⟩
  · intro all last wallet tx rollback line isShard
    obtain ⟨_, _, _, eligible⟩ := kvRollback_mem_rollbackLines line isShard
    exact all wallet eligible

/-- A line accepts and starts nothing. -/
theorem quiet_of_isLine {effect : Effect} (line : effect.isLine = true) :
    effect.isStarted = false ∧ ∀ shardIndex, effect.deliveredFor shardIndex = none := by
  cases effect with
  | shardAssign | draftGenerate | kvRollback | panicked => exact ⟨rfl, fun _ => rfl⟩
  | _ => cases line

/-- The lines of a dispatch accept and start nothing. -/
theorem quiet_stepLines (registry : MinerRegistry) (last : Option Wallet)
    (requestId : RequestId) (pipeline : SpecPipeline) :
    ∀ effect ∈ stepLines registry last requestId pipeline,
      effect.isStarted = false ∧ ∀ shardIndex, effect.deliveredFor shardIndex = none :=
  fun _ mem => quiet_of_isLine (isLine_of_mem_stepLines mem)

/-- The lines of a rollback accept and start nothing. -/
theorem quiet_rollbackLines (registry : MinerRegistry) (requestId : RequestId)
    (pipeline : SpecPipeline) (last : Option Wallet) (keepLen : Nat) (finalizing : Bool) :
    ∀ effect ∈ rollbackLines registry requestId pipeline last keepLen finalizing,
      effect.isStarted = false ∧ ∀ shardIndex, effect.deliveredFor shardIndex = none :=
  fun _ mem => quiet_of_isLine (isLine_of_mem_rollbackLines mem)

/-! ## Steps -/

/-- What an event sends after the results it accepts leaves the holders alone. -/
theorem lastComputed_next (heard : List Effect) {lines : List Effect}
    (enabled : engine.enabled stimulus)
    (effects : sent sha256 engine stimulus requestId = heard ++ lines)
    (quiet : ∀ effect ∈ lines, effect.isStarted = false ∧
      ∀ shardIndex, effect.deliveredFor shardIndex = none) (shardIndex : Nat) :
    lastComputed ((next sha256 engine stimulus).history requestId) shardIndex =
      lastComputed (engine.history requestId ++ heard) shardIndex := by
  obtain ⟨emitted, extended, -⟩ := next_change sha256 enabled requestId
  have same : emitted = heard ++ lines := by
    rw [← effects, sent, extended, List.drop_left]
  rw [extended, same, ← List.append_assoc]
  exact lastComputed_append _ _ (fun effect mem => (quiet effect mem).1)
    (fun effect mem => (quiet effect mem).2 shardIndex)

/-- The verify dispatches of a guarded step go to the holders. -/
theorem lastComputed_of_shardAssign (enabled : engine.enabled stimulus)
    (guarded : SessionGuard requestId engine stimulus) {assign : OpoiShardAssign}
    {after : SpecPipeline} {pos : Nat} {currentInput : ShardInputWire} {draft : List TokenId}
    (kept : (next sha256 engine stimulus).pipelines requestId = some after)
    (verifies : after.phase = .verifying pos currentInput draft)
    (mem : .shardAssign wallet tx assign ∈ sent sha256 engine stimulus requestId) :
    lastComputed ((next sha256 engine stimulus).history requestId) assign.shardIndex =
      some wallet := by
  have change := next_change_sent sha256 enabled requestId
  have holds : ∀ (heard : List Effect) {lines : List Effect} {shard : ShardDescriptor},
      sent sha256 engine stimulus requestId = heard ++ lines →
      (∀ effect ∈ lines, effect.isStarted = false ∧
        ∀ shardIndex, effect.deliveredFor shardIndex = none) →
      Relies engine requestId stimulus.event heard shard → assign.shardIndex = shard.shardIndex →
      stimulus.registry.Eligible wallet →
      lastComputed ((next sha256 engine stimulus).history requestId) assign.shardIndex =
        some wallet := by
    intro heard lines shard effects quiet relies same eligible
    rw [lastComputed_next heard enabled effects quiet, same]
    exact guarded heard shard relies wallet eligible
  generalize present : engine.pipelines requestId = before at change
  generalize effects : sent sha256 engine stimulus requestId = emitted at change mem
  rw [kept] at change
  generalize stored : some after = later at change
  cases change with
  | @relayed registry sender result pipeline place input isPrompt about assigned relaying notLast =>
      cases stored
      rcases List.mem_cons.mp mem with isAccepted | line
      · cases isAccepted
      · rcases shardAssign_mem_stepLines line with
          ⟨here, _, _, shard, onward, found, same, eligible⟩
        cases phase : pipeline.phase with
        | verifying was given tokens =>
            rw [phase] at relaying
            cases relaying
            have moved : (relayOutput (contribute sender pipeline) result).phase =
                .verifying (place + 1) (.tensor result.output.shape result.output.dataHex)
                  tokens := by
              simp only [relayOutput, contribute, phase, Phase.advance]
            rw [moved] at onward
            cases onward
            have quiet := quiet_stepLines registry engine.lastShardWallet requestId
              (relayOutput (contribute sender pipeline) result)
            exact holds [.accepted sender result] effects quiet
              (.relayed about assigned present phase notLast found) same eligible
        | promptProcessing was given =>
            simp [relayOutput, contribute, phase, Phase.advance] at verifies
        | awaitingDraft => simp [phase, Phase.relay] at relaying
        | awaitingRollback state => simp [phase, Phase.relay] at relaying
  | @drafted registry sender result pipeline about assigned nonempty =>
      cases stored
      obtain ⟨here, _, _, shard, onward, found, same, eligible⟩ := shardAssign_mem_stepLines mem
      cases onward
      have quiet := quiet_stepLines registry engine.lastShardWallet requestId
        (beginVerify pipeline result.draftTokenIds)
      exact holds [] effects quiet (.drafted about assigned nonempty present found) same eligible
  | @redispatched registry stalledShard stalledDraft pipeline last stalled =>
      cases stored
      obtain ⟨here, _, _, shard, onward, found, same, eligible⟩ := shardAssign_mem_stepLines mem
      rw [verifies] at onward
      cases onward
      have quiet := quiet_stepLines registry last requestId after
      exact holds [] effects quiet
        (.retried stalled present verifies found) same eligible
  | started configured =>
      cases stored
      cases verifies
  | _ => simp at mem

/-- The rollbacks of a guarded step go to the holders. -/
theorem lastComputed_of_kvRollback (enabled : engine.enabled stimulus)
    (guarded : SessionGuard requestId engine stimulus) {rollback : OpoiKvRollback}
    (ofShard : rollback.shardIndex ≠ draftSessionShardIndex)
    (mem : .kvRollback wallet tx rollback ∈ sent sha256 engine stimulus requestId) :
    lastComputed ((next sha256 engine stimulus).history requestId) rollback.shardIndex =
      some wallet := by
  have change := next_change_sent sha256 enabled requestId
  generalize present : engine.pipelines requestId = before at change
  generalize effects : sent sha256 engine stimulus requestId = emitted at change mem
  generalize (next sha256 engine stimulus).pipelines requestId = later at change
  cases change with
  | @verified registry sender result pipeline pos input draft logits outcome about assigned
      verifying last answered verified =>
      rcases List.mem_cons.mp mem with isAccepted | line
      · cases isAccepted
      · obtain ⟨shard, inShards, same, eligible⟩ := kvRollback_mem_rollbackLines line ofShard
        have quiet := quiet_rollbackLines registry requestId (contribute sender pipeline)
          engine.lastShardWallet
          (kvKeepLen pipeline.base pipeline.carry outcome.acceptedCount)
          (isFinalizingRound pipeline.base outcome.acceptedCount pipeline.maxTokens)
        rw [lastComputed_next [.accepted sender result] enabled effects quiet, same]
        exact guarded _ shard
          (.settled about assigned present verifying last answered inShards) wallet eligible
  | _ => simp at mem

/-- A step's verify dispatches and rollbacks go to the wallets that computed
their shards last. -/
def ReachesSessions (sha256 : Digest) (requestId : RequestId) (engine : SpeculativeEngine)
    (stimulus : Stimulus) : Prop :=
  (∀ after pos currentInput draft wallet tx assign,
      (next sha256 engine stimulus).pipelines requestId = some after →
      after.phase = .verifying pos currentInput draft →
      .shardAssign wallet tx assign ∈ sent sha256 engine stimulus requestId →
      lastComputed ((next sha256 engine stimulus).history requestId) assign.shardIndex =
        some wallet) ∧
    ∀ wallet tx rollback,
      .kvRollback wallet tx rollback ∈ sent sha256 engine stimulus requestId →
      rollback.shardIndex ≠ draftSessionShardIndex →
      lastComputed ((next sha256 engine stimulus).history requestId) rollback.shardIndex =
        some wallet

theorem reachesSessions_of_guard (enabled : engine.enabled stimulus)
    (guarded : SessionGuard requestId engine stimulus) :
    ReachesSessions sha256 requestId engine stimulus := by
  constructor
  · intro after pos currentInput draft wallet tx assign kept verifies mem
    exact lastComputed_of_shardAssign enabled guarded kept verifies mem
  · intro wallet tx rollback mem ofShard
    exact lastComputed_of_kvRollback enabled guarded ofShard mem

end SpeculativeEngine

end StratumBridge.Speculative
