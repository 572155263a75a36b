import StratumBridge.Shard.Intake

/-!
# Open sessions of the shard engine

From the second token on, a dispatch continues the session that the miner of
the token before holds for the shard.  `dispatchCurrent` pins the wallet within
a layer walk and otherwise takes whichever wallet follows the cursor, so a
continuation reaches a holder of the session for every position of the cursor
exactly when all eligible wallets hold it.
-/

namespace StratumBridge.Shard

open Data Rpc Wire Transition

/-- A request's history starts over. -/
def Effect.isStarted : Effect → Bool
  | started _ => true
  | _ => false

namespace ShardEngine

/-- The wallet delivered an accepted result for the shard and the token since
the request was last started. -/
def Computed (engine : ShardEngine) (requestId : RequestId) (wallet : Wallet)
    (shardIndex tokenIndex : Nat) : Prop :=
  ∃ ticket result,
    .accepted ticket wallet result ∈ sinceLast Effect.isStarted (engine.history requestId) ∧
      result.shardIndex = shardIndex ∧ result.tokenIndex = tokenIndex

/-- The event makes the engine dispatch the current step of this pipeline. -/
inductive Dispatching (engine : ShardEngine) (requestId : RequestId) :
    Event → PipelineState → Prop
  | nextToken {ticket wallet result source pipeline tokenId}
      (parked : engine.calls ticket = some (.resolving wallet result))
      (about : result.requestId = requestId)
      (present : engine.pipelines requestId = some pipeline)
      (notLastToken : isLastToken pipeline = false)
      (lastShard : pipeline.pos + 1 = pipeline.shards.length)
      (answer : result.nextTokenId = some tokenId) :
      Dispatching engine requestId (.resolved ticket (some source))
        (nextToken (recordToken (contribute wallet pipeline) tokenId) tokenId)
  | nextShard {ticket wallet result source pipeline}
      (parked : engine.calls ticket = some (.resolving wallet result))
      (about : result.requestId = requestId)
      (present : engine.pipelines requestId = some pipeline)
      (notLastToken : isLastToken pipeline = false)
      (notLastShard : pipeline.pos + 1 ≠ pipeline.shards.length)
      (dense : pipeline.expertGroupFor pipeline.pos = none) :
      Dispatching engine requestId (.resolved ticket (some source))
        (nextShard (contribute wallet pipeline) result.output)
  | submitted {ticket wallet result source pipeline stored}
      (parked : engine.calls ticket = some (.submitting wallet result source))
      (about : result.requestId = requestId)
      (present : engine.pipelines requestId = some pipeline)
      (notLastShard : pipeline.pos + 1 ≠ pipeline.shards.length)
      (dense : pipeline.expertGroupFor pipeline.pos = none) :
      Dispatching engine requestId (.submitted ticket true stored)
        (nextShard pipeline result.output)
  | walked {ticket step pipeline output}
      (parked : engine.calls ticket = some (.joining step))
      (about : step.result.requestId = requestId)
      (present : engine.pipelines requestId = some pipeline) (isInterior : step.interior = true) :
      Dispatching engine requestId (.joined ticket (some output))
        (nextLayer pipeline step.layerIdx output)
  | handedOver {ticket step pipeline output}
      (parked : engine.calls ticket = some (.joining step))
      (about : step.result.requestId = requestId)
      (present : engine.pipelines requestId = some pipeline) (isBoundary : step.interior = false) :
      Dispatching engine requestId (.joined ticket (some output)) (nextShard pipeline output)
  | retried {rest source pipeline} (polling : engine.poll = .retrying requestId rest)
      (present : engine.pipelines requestId = some pipeline) :
      Dispatching engine requestId (.pollRetry (some source)) pipeline
  | started {req rest manifest promptHex graph source}
      (polling : engine.poll = .claiming req rest manifest promptHex graph source)
      (about : req.requestId = requestId) :
      Dispatching engine requestId (.pollClaim true false)
        (initialPipeline req manifest graph promptHex)

/-- The condition on a step under which continuations reach their sessions:
where a pipeline beyond its first token is dispatched outside a walk, every
eligible wallet holds the session of the shard. -/
def SessionGuard (requestId : RequestId) (engine : ShardEngine) (stimulus : Stimulus) : Prop :=
  ∀ pipeline shard, Dispatching engine requestId stimulus.event pipeline →
    pipeline.moeLayerWalk = none → 0 < pipeline.tokenIndex →
    pipeline.shards[pipeline.pos]? = some shard →
    ∀ other, stimulus.registry.Eligible other →
      engine.Computed requestId other shard.shardIndex (pipeline.tokenIndex - 1)

variable {sha256 : Digest} {engine after : ShardEngine} {requestId : RequestId}
variable {stimulus : Stimulus} {emitted : List Effect}

/-! ## Dispatches -/

/-- The line of a dispatch goes to the pinned wallet, or to an eligible one. -/
theorem shardAssign_mem_dispatchLines {registry : MinerRegistry} {last : Option Wallet}
    {source : ModelSource} {pipeline : PipelineState} {wallet : Wallet} {tx : Channel}
    {assign : OpoiShardAssign}
    (mem : .shardAssign wallet tx assign ∈
      dispatchLines registry last requestId source pipeline) :
    ∃ shard, pipeline.shards[pipeline.pos]? = some shard ∧
      assign.shardIndex = shard.shardIndex ∧ assign.tokenIndex = pipeline.tokenIndex ∧
      ((∃ layerIdx, pipeline.moeLayerWalk = some (layerIdx, wallet)) ∨
        pipeline.moeLayerWalk = none ∧ registry.Eligible wallet) := by
  unfold dispatchLines at mem
  split at mem
  · simp at mem
  · rename_i shard found
    split at mem
    · rename_i layerIdx pinned walk
      split at mem
      · simp at mem
      · cases List.mem_singleton.mp mem
        exact ⟨shard, found, rfl, rfl, .inl ⟨layerIdx, walk⟩⟩
    · rename_i walk
      simp only [Option.mem_toList, Option.bind_eq_some_iff, Option.map_eq_some_iff] at mem
      rcases mem with ⟨picked, next, channel, -, line⟩
      cases line
      exact ⟨shard, found, rfl, openWalk_tokenIndex .., .inr ⟨walk,
        MinerRegistry.eligible_of_pickNext next⟩⟩

/-- Outside a walk, a dispatch reaches a set of wallets at every position of
the cursor exactly when all eligible wallets are in it. -/
theorem dispatchLines_reach_iff {registry : MinerRegistry} {source : ModelSource}
    {pipeline : PipelineState} {shard : ShardDescriptor} {holders : Wallet → Prop}
    (found : pipeline.shards[pipeline.pos]? = some shard)
    (resting : pipeline.moeLayerWalk = none) :
    (∀ last wallet tx assign, .shardAssign wallet tx assign ∈
        dispatchLines registry last requestId source pipeline → holders wallet) ↔
      ∀ wallet, registry.Eligible wallet → holders wallet := by
  constructor
  · intro reaches wallet eligible
    obtain ⟨last, picked⟩ := MinerRegistry.exists_pickNext_iff.mpr eligible
    rcases eligible.1 with ⟨tx, channel⟩
    apply reaches last wallet tx
    simp only [dispatchLines, found, resting, picked, channel, Option.bind_some, Option.map_some,
      Option.toList_some]
    exact List.mem_singleton_self _
  · intro all last wallet tx assign line
    rcases shardAssign_mem_dispatchLines line with
      ⟨_, _, _, _, ⟨layerIdx, walking⟩ | ⟨_, eligible⟩⟩
    · rw [resting] at walking
      cases walking
    · exact all wallet eligible

/-- A walk found after a dispatch was under way, or was opened for an eligible
wallet. -/
theorem moeLayerWalk_of_dispatched {registry : MinerRegistry} {last : Option Wallet}
    {pipeline later : PipelineState} {layerIdx : Nat} {pinned : Wallet}
    (stored : dispatched registry last pipeline = some later)
    (walk : later.moeLayerWalk = some (layerIdx, pinned)) :
    later = pipeline ∨ pipeline.moeLayerWalk = none ∧ registry.Eligible pinned := by
  unfold dispatched at stored
  split at stored
  · cases stored
    exact .inl rfl
  · split at stored
    · split at stored
      · cases stored
        exact .inl rfl
      · cases stored
    · rename_i resting
      split at stored
      · cases stored
        exact .inl rfl
      · rename_i wallet picked
        cases stored
        unfold openWalk at walk
        split at walk
        · cases walk
          exact .inr ⟨resting, MinerRegistry.eligible_of_pickNext picked⟩
        · rw [resting] at walk
          cases walk

/-- Two pipelines on one shard and token, pinned to one wallet if any. -/
structure SameSession (earlier later : PipelineState) : Prop where
  shards : later.shards = earlier.shards
  pos : later.pos = earlier.pos
  tokenIndex : later.tokenIndex = earlier.tokenIndex
  pinned : later.moeLayerWalk.map Prod.snd = earlier.moeLayerWalk.map Prod.snd

theorem SameSession.refl (pipeline : PipelineState) : SameSession pipeline pipeline :=
  ⟨rfl, rfl, rfl, rfl⟩

theorem sameSession_contribute (wallet : Wallet) (pipeline : PipelineState) :
    SameSession pipeline (contribute wallet pipeline) :=
  ⟨rfl, rfl, rfl, rfl⟩

/-- A pipeline that is dispatched within a walk was in that walk before. -/
theorem Dispatching.sameSession {event : Event} {pipeline : PipelineState}
    (dispatching : Dispatching engine requestId event pipeline)
    (walking : pipeline.moeLayerWalk ≠ none) :
    ∃ earlier, engine.pipelines requestId = some earlier ∧ SameSession earlier pipeline := by
  cases dispatching with
  | nextToken => exact absurd rfl walking
  | nextShard => exact absurd rfl walking
  | submitted => exact absurd rfl walking
  | handedOver => exact absurd rfl walking
  | started => exact absurd rfl walking
  | retried polling present => exact ⟨pipeline, present, .refl pipeline⟩
  | @walked ticket step earlier output parked about present isInterior =>
      refine ⟨earlier, present, rfl, rfl, rfl, ?_⟩
      rw [nextLayer, Option.map_map]
      rfl

/-- A change leaves the session of a request alone and assigns nothing, or it
dispatches a pipeline. -/
inductive SessionChange (engine : ShardEngine) (requestId : RequestId) (stimulus : Stimulus) :
    Option PipelineState → List Effect → Prop
  | quiet {later emitted}
      (silent : ∀ wallet tx assign, .shardAssign wallet tx assign ∉ emitted)
      (unmarked : ∀ effect ∈ emitted, effect.isStarted = false)
      (same : ∀ pipeline, later = some pipeline → ∃ earlier,
        engine.pipelines requestId = some earlier ∧ SameSession earlier pipeline) :
      SessionChange engine requestId stimulus later emitted
  | dispatched {pipeline source mark}
      (dispatching : Dispatching engine requestId stimulus.event pipeline)
      (notAssign : ∀ wallet tx assign, mark ≠ .shardAssign wallet tx assign)
      (marked : mark.isStarted = true → pipeline.tokenIndex = 0) :
      SessionChange engine requestId stimulus
        (dispatched stimulus.registry engine.lastAssigned pipeline)
        (mark :: dispatchLines stimulus.registry engine.lastAssigned requestId source pipeline)
  | redispatched {pipeline source}
      (dispatching : Dispatching engine requestId stimulus.event pipeline) :
      SessionChange engine requestId stimulus
        (dispatched stimulus.registry engine.lastAssigned pipeline)
        (dispatchLines stimulus.registry engine.lastAssigned requestId source pipeline)

theorem ExpertOutcome.sessionChange {interior : Bool} {wallet : Wallet}
    {result : OpoiShardResult} {source : ModelSource} {expertIds : List Nat} {layerIdx : Nat}
    {pipeline counted : PipelineState} {later : Option PipelineState} {reparked : Option Call}
    (present : engine.pipelines requestId = some pipeline)
    (session : SameSession pipeline counted)
    (outcome : ExpertOutcome interior wallet result source expertIds layerIdx counted later
      reparked emitted) : SessionChange engine requestId stimulus later emitted := by
  have stays : ∀ kept, some counted = some kept → ∃ earlier,
      engine.pipelines requestId = some earlier ∧ SameSession earlier kept := by
    rintro _ ⟨⟩
    exact ⟨pipeline, present, session⟩
  cases outcome with
  | absent verdict => exact .quiet (by simp) (by simp [Effect.isStarted]) stays
  | malformed verdict => exact .quiet (by simp) (by simp [Effect.isStarted]) nofun
  | panicked outside => exact .quiet (by simp) (by simp [Effect.isStarted]) stays
  | sizing isInterior sameWallet sameResult sameSource sameLayer verdict =>
      exact .quiet (by simp) (by simp) stays

theorem Change.sessionChange {before later : Option PipelineState}
    {assigned : Option ShardAssignment} {calls : PartialMap Ticket Call}
    (change : Change sha256 engine requestId stimulus before later assigned calls emitted)
    (present : engine.pipelines requestId = before) :
    SessionChange engine requestId stimulus later emitted := by
  have stays : ∀ kept, before = some kept → ∃ earlier,
      engine.pipelines requestId = some earlier ∧ SameSession earlier kept :=
    fun kept same => ⟨kept, present.trans same, .refl kept⟩
  cases change with
  | idle fewer kept => exact .quiet (by simp) (by simp) stays
  | rejected about => exact .quiet (by simp) (by simp [Effect.isStarted]) stays
  | orphaned about assigned => exact .quiet (by simp) (by simp [Effect.isStarted]) nofun
  | accepted about assigned => exact .quiet (by simp) (by simp [Effect.isStarted]) stays
  | unresolved parked about => exact .quiet (by simp) (by simp [Effect.isStarted]) stays
  | lost parked about quiet =>
      rcases quiet with rfl | rfl
      · exact .quiet (by simp) (by simp) nofun
      · exact .quiet (by simp) (by simp [Effect.isStarted]) nofun
  | misplaced parked about outside =>
      refine .quiet (by simp) (by simp [Effect.isStarted]) ?_
      rintro _ ⟨⟩
      exact ⟨_, present, sameSession_contribute ..⟩
  | ungrouped parked about resumes dense =>
      exact .quiet (by simp) (by simp [Effect.isStarted]) nofun
  | interior parked about layer found resumes group outcome =>
      exact outcome.sessionChange present (sameSession_contribute ..)
  | submitting parked about lastToken =>
      refine .quiet (by simp) (by simp [Effect.isStarted]) ?_
      rintro _ ⟨⟩
      exact ⟨_, present, sameSession_contribute ..⟩
  | completed parked about notLastToken outcome =>
      cases outcome with
      | unanswered lastShard answer => exact .quiet (by simp) (by simp [Effect.isStarted]) nofun
      | finalized lastShard answer isLast wins => cases isLast
      | unattributed lastShard answer isLast nobody => cases isLast
      | nextToken lastShard answer notLast =>
          rw [about]
          exact .dispatched (.nextToken parked about present notLastToken lastShard answer)
            (by simp) nofun
      | nextShard notLastShard dense =>
          rw [about]
          exact .dispatched (.nextShard parked about present notLastToken notLastShard dense)
            (by simp) nofun
      | experts notLastShard group outcome =>
          exact outcome.sessionChange present (sameSession_contribute ..)
  | unsubmitted parked about => exact .quiet (by simp) (by simp [Effect.isStarted]) stays
  | submitted parked about outcome =>
      cases outcome with
      | unanswered lastShard answer => exact .quiet (by simp) (by simp [Effect.isStarted]) nofun
      | finalized lastShard answer isLast wins =>
          exact .quiet (by simp) (by simp [Effect.isStarted]) nofun
      | unattributed lastShard answer isLast nobody =>
          exact .quiet (by simp) (by simp [Effect.isStarted]) nofun
      | nextToken lastShard answer notLast => cases notLast
      | nextShard notLastShard dense =>
          rw [about]
          exact .dispatched (.submitted parked about present notLastShard dense) (by simp) nofun
      | experts notLastShard group outcome => exact outcome.sessionChange present (.refl _)
  | sized parked about => exact .quiet (by simp) (by simp [Effect.isStarted]) stays
  | unjoined parked about => exact .quiet (by simp) (by simp [Effect.isStarted]) stays
  | abandoned parked about => exact .quiet (by simp) (by simp [Effect.isStarted]) stays
  | walked parked about isInterior =>
      exact .dispatched (.walked parked about present isInterior) (by simp) nofun
  | handedOver parked about isBoundary =>
      exact .dispatched (.handedOver parked about present isBoundary) (by simp) nofun
  | redispatched polling => exact .redispatched (.retried polling present)
  | delegated polling about => exact .quiet (by simp) (by simp [Effect.isStarted]) stays
  | started polling about => exact .dispatched (.started polling about) (by simp) (fun _ => rfl)

/-! ## Runs -/

/-- A pipeline in a walk beyond its first token is pinned to a wallet that
holds the session of its shard. -/
def Pinned (requestId : RequestId) (engine : ShardEngine) : Prop :=
  ∀ pipeline pinned shard, engine.pipelines requestId = some pipeline →
    pipeline.moeLayerWalk.map Prod.snd = some pinned →
    pipeline.shards[pipeline.pos]? = some shard → 0 < pipeline.tokenIndex →
    engine.Computed requestId pinned shard.shardIndex (pipeline.tokenIndex - 1)

theorem pinned_new (requestId : RequestId) : new.Pinned requestId := by
  intro pipeline pinned shard present
  cases present

/-- What was computed stays computed while the request is not started anew. -/
theorem Computed.mono {wallet : Wallet} {shardIndex tokenIndex : Nat}
    (computed : engine.Computed requestId wallet shardIndex tokenIndex)
    (extended : after.history requestId = engine.history requestId ++ emitted)
    (unmarked : ∀ effect ∈ emitted, effect.isStarted = false) :
    after.Computed requestId wallet shardIndex tokenIndex := by
  rcases computed with ⟨ticket, result, mem, shard, token⟩
  refine ⟨ticket, result, ?_, shard, token⟩
  rw [extended, sinceLast_append _ unmarked]
  exact List.mem_append_left _ mem

theorem isStarted_dispatchLines {registry : MinerRegistry} {last : Option Wallet}
    {source : ModelSource} {pipeline : PipelineState} :
    ∀ effect ∈ dispatchLines registry last requestId source pipeline,
      effect.isStarted = false := by
  unfold dispatchLines
  split
  · simp [Effect.isStarted]
  · split
    · split <;> simp [Effect.isStarted]
    · intro effect mem
      simp only [Option.mem_toList, Option.bind_eq_some_iff, Option.map_eq_some_iff] at mem
      rcases mem with ⟨wallet, -, tx, -, rfl⟩
      rfl

/-- A dispatched pipeline that is pinned beyond its first token is pinned to a
holder of the session. -/
theorem Dispatching.computed {pipeline later : PipelineState} {pinned : Wallet}
    {shard : ShardDescriptor} (dispatching : Dispatching engine requestId stimulus.event pipeline)
    (held : engine.Pinned requestId) (guarded : SessionGuard requestId engine stimulus)
    (stored : dispatched stimulus.registry engine.lastAssigned pipeline = some later)
    (walk : later.moeLayerWalk.map Prod.snd = some pinned)
    (found : later.shards[later.pos]? = some shard) (beyond : 0 < later.tokenIndex) :
    engine.Computed requestId pinned shard.shardIndex (later.tokenIndex - 1) := by
  obtain ⟨⟨layerIdx, _⟩, walking, rfl⟩ := Option.map_eq_some_iff.mp walk
  have place := samePlace_of_dispatched stored
  rcases moeLayerWalk_of_dispatched stored walking with rfl | ⟨resting, eligible⟩
  · rcases dispatching.sameSession (by simp [walking]) with
      ⟨earlier, was, shards, pos, tokenIndex, pin⟩
    rw [shards, pos] at found
    rw [tokenIndex] at beyond ⊢
    exact held earlier _ shard was (pin.symm.trans walk) found beyond
  · rw [place.shards, place.pos] at found
    rw [place.tokenIndex] at beyond ⊢
    exact guarded pipeline shard dispatching resting beyond found _ eligible

theorem Pinned.next (held : engine.Pinned requestId) (fresh : engine.TicketsFresh)
    (enabled : engine.enabled stimulus) (guarded : SessionGuard requestId engine stimulus) :
    (next sha256 engine stimulus).Pinned requestId := by
  obtain ⟨emitted, extended, change⟩ := next_change sha256 enabled (fresh _ le_rfl) requestId
  have session := change.sessionChange rfl
  intro pipeline pinned shard present walk found beyond
  rw [present] at session
  generalize stored : some pipeline = later at session
  cases session with
  | quiet silent unmarked same =>
      obtain ⟨earlier, was, shards, pos, tokenIndex, pin⟩ := same pipeline stored.symm
      rw [shards, pos] at found
      rw [tokenIndex] at beyond ⊢
      exact (held earlier pinned shard was (pin.symm.trans walk) found beyond).mono extended
        unmarked
  | @dispatched current source mark dispatching notAssign marked =>
      apply (dispatching.computed held guarded stored.symm walk found beyond).mono extended
      intro effect mem
      rcases List.mem_cons.mp mem with rfl | line
      · by_contra starts
        have first := marked (Bool.eq_true_of_not_eq_false starts)
        rw [(samePlace_of_dispatched stored.symm).tokenIndex, first] at beyond
        exact absurd beyond (Nat.lt_irrefl 0)
      · exact isStarted_dispatchLines effect line
  | redispatched dispatching =>
      exact (dispatching.computed held guarded stored.symm walk found beyond).mono extended
        isStarted_dispatchLines

/-- The lines of a guarded step continue sessions at their holders. -/
theorem computed_of_sent (held : engine.Pinned requestId) (fresh : engine.TicketsFresh)
    (enabled : engine.enabled stimulus) (guarded : SessionGuard requestId engine stimulus)
    {wallet : Wallet} {tx : Channel} {assign : OpoiShardAssign}
    (mem : .shardAssign wallet tx assign ∈ sent sha256 engine stimulus requestId)
    (beyond : 0 < assign.tokenIndex) :
    engine.Computed requestId wallet assign.shardIndex (assign.tokenIndex - 1) := by
  have follows : ∀ {pipeline source}, Dispatching engine requestId stimulus.event pipeline →
      .shardAssign wallet tx assign ∈
        dispatchLines stimulus.registry engine.lastAssigned requestId source pipeline →
      engine.Computed requestId wallet assign.shardIndex (assign.tokenIndex - 1) := by
    intro pipeline source dispatching line
    rcases shardAssign_mem_dispatchLines line with
      ⟨shard, found, shardIndex, token, ⟨layerIdx, walking⟩ | ⟨resting, eligible⟩⟩
    · rcases dispatching.sameSession (by simp [walking]) with
        ⟨earlier, was, shards, pos, tokenIndex, pin⟩
      rw [shards, pos] at found
      rw [token, tokenIndex] at beyond ⊢
      rw [shardIndex]
      apply held earlier wallet shard was _ found beyond
      rw [← pin, walking]
      rfl
    · rw [token] at beyond ⊢
      rw [shardIndex]
      exact guarded pipeline shard dispatching resting beyond found wallet eligible
  have session := (next_change_sent sha256 enabled fresh requestId).sessionChange rfl
  generalize sent sha256 engine stimulus requestId = emitted at session mem
  generalize (next sha256 engine stimulus).pipelines requestId = later at session
  cases session with
  | quiet silent unmarked same => exact absurd mem (silent wallet tx assign)
  | dispatched dispatching notAssign marked =>
      rcases List.mem_cons.mp mem with same | line
      · exact absurd same.symm (notAssign wallet tx assign)
      · exact follows dispatching line
  | redispatched dispatching => exact follows dispatching mem

/-- A step's continuations go to wallets that computed the shard for the token
before. -/
def ContinuesSessions (sha256 : Digest) (requestId : RequestId) (engine : ShardEngine)
    (stimulus : Stimulus) : Prop :=
  ∀ wallet tx assign, .shardAssign wallet tx assign ∈ sent sha256 engine stimulus requestId →
    0 < assign.tokenIndex →
    engine.Computed requestId wallet assign.shardIndex (assign.tokenIndex - 1)

theorem pinned_of_run {events : List Stimulus}
    (run : (system sha256).RunWith (SessionGuard requestId) new events engine) :
    engine.TicketsFresh ∧ engine.Pinned requestId := by
  apply run.invariant (I := fun engine => engine.TicketsFresh ∧ engine.Pinned requestId)
  · exact ⟨ticketsFresh_new, pinned_new requestId⟩
  · rintro state stimulus ⟨fresh, held⟩ enabled guarded
    exact ⟨fresh.next enabled, held.next fresh enabled guarded⟩

/-- In a run of guarded steps every further guarded step continues sessions at
their holders. -/
theorem continuesSessions_of_run {events : List Stimulus}
    (run : (system sha256).RunWith (SessionGuard requestId) new events engine)
    (enabled : engine.enabled stimulus) (guarded : SessionGuard requestId engine stimulus) :
    ContinuesSessions sha256 requestId engine stimulus := by
  obtain ⟨fresh, held⟩ := pinned_of_run run
  intro wallet tx assign mem beyond
  exact computed_of_sent held fresh enabled guarded mem beyond

end ShardEngine

end StratumBridge.Shard
