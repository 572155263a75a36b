import StratumBridge.Expert.Topology
import StratumBridge.Shard.Dense
import StratumBridge.Shard.Sessions

/-!
# The dense parts of the topology report

A pipeline logs every line that `dispatch_current` sends for it, and the report names the
last wallet logged for a shard.  Along a serial run the last entry of the log is about the
shard the pipeline is at and names the wallet that is at work on it; the shards it has
passed are all in the log.
-/

namespace StratumBridge.Shard

open Data Rpc Wire Transition
open Expert (PrimaryDispatchRecord PartStatus TopologyPart TopologySnapshot densePart shardParts
  partStatus topologySnapshot)

/-- What is logged of a line that is sent. -/
def Effect.dispatchRecord : Effect → Option PrimaryDispatchRecord
  | shardAssign wallet _ assign =>
      some
        { shardIndex := assign.shardIndex
          layerStart := assign.layerStart
          layerEnd := assign.layerEnd
          moeLayerStep := assign.moeLayerStep
          wallet := wallet
          tokenIndex := assign.tokenIndex }
  | _ => none

/-- `PipelineState::dispatch_log`: empty in a new pipeline, then one record a line. -/
def logOf (history : List Effect) : List PrimaryDispatchRecord :=
  (sinceLast Effect.isStarted history).filterMap Effect.dispatchRecord

namespace ShardEngine

/-- The `dispatch_log` of the pipeline of a request. -/
def dispatchLog (engine : ShardEngine) (requestId : RequestId) : List PrimaryDispatchRecord :=
  logOf (engine.history requestId)

/-! ## The log of a pipeline -/

/-- The last line was for the shard a pipeline is at, and went to the wallet. -/
def LastSent (log : List PrimaryDispatchRecord) (pipeline : PipelineState) (wallet : Wallet) :
    Prop :=
  ∃ record shard, log.getLast? = some record ∧
    pipeline.shards[pipeline.pos]? = some shard ∧ record.shardIndex = shard.shardIndex ∧
    record.wallet = wallet

/-- The log has every shard the pipeline has passed, and ends with the wallet that walks the
layers of the one it is at. -/
structure Travelled (log : List PrimaryDispatchRecord) (pipeline : PipelineState) : Prop where
  passed : ∀ idx shard, pipeline.shards[idx]? = some shard →
    idx < pipeline.pos ∨ 0 < pipeline.tokenIndex →
      ∃ record ∈ log, record.shardIndex = shard.shardIndex
  pinned : ∀ layerIdx wallet, pipeline.moeLayerWalk = some (layerIdx, wallet) →
    LastSent log pipeline wallet

/-- The log ends with the wallet that the pipeline waits for, or whose result is handled. -/
structure Logged (log : List PrimaryDispatchRecord) (pipeline : PipelineState)
    (assigned : Option ShardAssignment) (hand : Option Call) : Prop where
  travelled : Travelled log pipeline
  awaited : ∀ assignment, assigned = some assignment →
    pipeline.stepKey? = some assignment.stepKey → LastSent log pipeline assignment.wallet
  delivered : ∀ call, hand = some call → LastSent log pipeline call.wallet

variable {log : List PrimaryDispatchRecord} {pipeline after : PipelineState}
  {assigned : Option ShardAssignment} {hand : Option Call} {registry : MinerRegistry}
  {last : Option Wallet} {requestId : RequestId} {source : ModelSource} {call : Call}

theorem LastSent.at_place {wallet : Wallet} (lastSent : LastSent log pipeline wallet)
    (shards : after.shards = pipeline.shards) (pos : after.pos = pipeline.pos) :
    LastSent log after wallet := by
  obtain ⟨record, shard, ends, found, index, name⟩ := lastSent
  exact ⟨record, shard, ends, by rw [shards, pos, found], index, name⟩

/-- A pipeline at the same place, with the same walk. -/
theorem Travelled.at_place (travelled : Travelled log pipeline)
    (shards : after.shards = pipeline.shards) (pos : after.pos = pipeline.pos)
    (token : after.tokenIndex = pipeline.tokenIndex)
    (walk : after.moeLayerWalk.map Prod.snd = pipeline.moeLayerWalk.map Prod.snd) :
    Travelled log after where
  passed idx shard found before := by
    rw [shards] at found
    rw [pos, token] at before
    exact travelled.passed idx shard found before
  pinned layerIdx wallet walking := by
    rw [walking] at walk
    obtain ⟨layer, walked, rfl⟩ := Option.map_eq_some_iff.mp walk.symm
    exact (travelled.pinned layer.1 layer.2 walked).at_place shards pos

/-- A line is sent for the step a pipeline is at. -/
theorem Travelled.sends (travelled : Travelled log pipeline) {record : PrimaryDispatchRecord}
    {shard : ShardDescriptor} (found : pipeline.shards[pipeline.pos]? = some shard)
    (index : record.shardIndex = shard.shardIndex) (place : SamePlace pipeline after)
    (walk : ∀ layerIdx wallet, after.moeLayerWalk = some (layerIdx, wallet) →
      wallet = record.wallet)
    {assignment : ShardAssignment} (assignee : assignment.wallet = record.wallet) :
    Logged (log ++ [record]) after (some assignment) none := by
  have lastSent : LastSent (log ++ [record]) after record.wallet := by
    refine ⟨record, shard, List.getLast?_concat, ?_, index, rfl⟩
    rw [place.shards, place.pos, found]
  constructor
  · constructor
    · intro idx shard held before
      rw [place.shards] at held
      rw [place.pos, place.tokenIndex] at before
      obtain ⟨old, mem, same⟩ := travelled.passed idx shard held before
      exact ⟨old, List.mem_append_left _ mem, same⟩
    · intro layerIdx wallet walking
      rw [walk layerIdx wallet walking]
      exact lastSent
  · rintro _ ⟨⟩ _
    rw [assignee]
    exact lastSent
  · rintro _ ⟨⟩

/-- After a dispatch the log ends with the wallet that is waited for.  An assignment from
before must be a leftover: nothing replaces it while no miner is connected. -/
theorem Travelled.dispatched (travelled : Travelled log pipeline)
    (inside : pipeline.pos < pipeline.shards.length)
    (leftover : ∀ assignment, assigned = some assignment → assignment.moeLayerStep ≠ none)
    (stored : dispatched registry last pipeline = some after) :
    Logged (log ++ (dispatchLines registry last requestId source pipeline).filterMap
      Effect.dispatchRecord) after (assignedBy registry last assigned pipeline) none := by
  have found : pipeline.shards[pipeline.pos]? = some pipeline.shards[pipeline.pos] :=
    List.getElem?_eq_getElem inside
  unfold ShardEngine.dispatched at stored
  unfold dispatchLines assignedBy
  rw [found] at stored ⊢
  dsimp only at stored ⊢
  cases walk : pipeline.moeLayerWalk with
  | some layer =>
      rw [walk] at stored
      dsimp only at stored ⊢
      cases channel : registry.get layer.2 with
      | none =>
          rw [channel] at stored
          cases stored
      | some tx =>
          rw [channel] at stored
          cases stored
          apply travelled.sends found rfl (.refl pipeline)
          · intro layerIdx wallet walking
            cases walk.symm.trans walking
            rfl
          · rfl
  | none =>
      rw [walk] at stored
      dsimp only at stored ⊢
      cases picked : registry.pickNext last with
      | none =>
          rw [picked] at stored
          cases stored
          rw [Option.bind_none, Option.toList_none, List.filterMap_nil, List.append_nil]
          refine ⟨travelled, ?_, nofun⟩
          intro assignment is step
          rw [PipelineState.stepKey?, found, walk] at step
          exact absurd (congrArg StepKey.moeLayerStep (Option.some.inj step)).symm
            (leftover assignment is)
      | some wallet =>
          rw [picked] at stored
          cases stored
          obtain ⟨tx, channel⟩ := (MinerRegistry.eligible_of_pickNext picked).1
          dsimp only
          rw [Option.bind_some, channel]
          apply travelled.sends found rfl ⟨openWalk_shards .., openWalk_pos ..,
            openWalk_tokenIndex .., openWalk_currentInput ..⟩
          · intro layerIdx other walking
            unfold openWalk at walking
            split at walking
            · cases walking
              rfl
            · cases walk.symm.trans walking
          · rfl

/-! ## One event -/

/-- The effect neither starts a pipeline nor is a line. -/
def Unlogged (effect : Effect) : Prop :=
  effect.isStarted = false ∧ effect.dispatchRecord = none

theorem logOf_quiet {emitted : List Effect} (history : List Effect)
    (quiet : ∀ effect ∈ emitted, Unlogged effect) :
    logOf (history ++ emitted) = logOf history := by
  have silent : emitted.filterMap Effect.dispatchRecord = [] :=
    List.filterMap_eq_nil_iff.mpr fun effect mem => (quiet effect mem).2
  rw [logOf, sinceLast_append _ fun effect mem => (quiet effect mem).1, List.filterMap_append,
    silent, List.append_nil]
  rfl

theorem logOf_dispatch {mark : Effect} (history : List Effect) (unlogged : Unlogged mark) :
    logOf (history ++ mark :: dispatchLines registry last requestId source pipeline) =
      logOf history ++ (dispatchLines registry last requestId source pipeline).filterMap
        Effect.dispatchRecord := by
  rw [List.append_cons, logOf, sinceLast_append _ isStarted_dispatchLines, List.filterMap_append]
  congr 1
  exact logOf_quiet history fun effect mem => List.mem_singleton.mp mem ▸ unlogged

theorem logOf_redispatch (history : List Effect) :
    logOf (history ++ dispatchLines registry last requestId source pipeline) =
      logOf history ++ (dispatchLines registry last requestId source pipeline).filterMap
        Effect.dispatchRecord := by
  rw [logOf, sinceLast_append _ isStarted_dispatchLines, List.filterMap_append]
  rfl

theorem logOf_started (history : List Effect) :
    logOf (history ++ .started requestId ::
        dispatchLines registry last requestId source pipeline) =
      (dispatchLines registry last requestId source pipeline).filterMap
        Effect.dispatchRecord := by
  rw [logOf, sinceLast_mark history rfl isStarted_dispatchLines]

/-- The pipeline there is, if there is one, agrees with the log. -/
def Reports (history : List Effect) (pipeline : Option PipelineState)
    (assigned : Option ShardAssignment) (hand : Option Call) : Prop :=
  ∀ current, pipeline = some current → Logged (logOf history) current assigned hand

theorem reports_none (history : List Effect) (assigned : Option ShardAssignment)
    (hand : Option Call) : Reports history none assigned hand := by
  rintro current ⟨⟩

variable {history emitted : List Effect}

/-- Nothing is sent, and no wallet is at work that was not before. -/
theorem Logged.reports (logged : Logged (logOf history) pipeline assigned hand)
    (quiet : ∀ effect ∈ emitted, Unlogged effect) (place : SameWalk pipeline after)
    {left : Option ShardAssignment} {next : Option Call}
    (awaited : ∀ assignment, left = some assignment →
      pipeline.stepKey? = some assignment.stepKey →
        LastSent (logOf history) pipeline assignment.wallet)
    (delivered : ∀ call, next = some call → LastSent (logOf history) pipeline call.wallet) :
    Reports (history ++ emitted) (some after) left next := by
  rintro _ ⟨⟩
  have step : after.stepKey? = pipeline.stepKey? := by
    rw [PipelineState.stepKey?, PipelineState.stepKey?, place.shards, place.pos, place.tokenIndex,
      place.walk]
  rw [logOf_quiet history quiet]
  constructor
  · exact logged.travelled.at_place place.shards place.pos place.tokenIndex
      (congrArg (Option.map Prod.snd) place.walk)
  · intro assignment is own
    rw [step] at own
    exact (awaited assignment is own).at_place place.shards place.pos
  · intro call is
    exact (delivered call is).at_place place.shards place.pos

/-- The relay is handed on by the wallet that was last sent a line. -/
theorem Travelled.nextShard {wallet : Wallet} (travelled : Travelled log pipeline)
    (lastSent : LastSent log pipeline wallet) (output : ShardOutputWire) :
    Travelled log (nextShard pipeline output) where
  passed idx shard found before := by
    by_cases here : idx = pipeline.pos
    · obtain ⟨record, current, ends, at', index, -⟩ := lastSent
      subst here
      cases found.symm.trans at'
      exact ⟨record, List.mem_of_getLast? ends, index⟩
    · apply travelled.passed idx shard found
      have : idx < pipeline.pos + 1 ∨ 0 < pipeline.tokenIndex := before
      omega
  pinned _ _ walking := by cases walking

theorem Travelled.nextToken {wallet : Wallet} (travelled : Travelled log pipeline)
    (lastSent : LastSent log pipeline wallet)
    (lastShard : pipeline.pos + 1 = pipeline.shards.length) (tokenId : TokenId) :
    Travelled log (nextToken (recordToken pipeline tokenId) tokenId) where
  passed idx shard found before := by
    apply (travelled.nextShard lastSent ⟨[], ""⟩).passed idx shard found
    have listed : idx < pipeline.shards.length := (List.getElem?_eq_some_iff.mp found).1
    rw [← lastShard] at listed
    exact .inl listed
  pinned _ _ walking := by cases walking

/-- A dispatch after a mark. -/
theorem Travelled.reports {mark : Effect} (travelled : Travelled (logOf history) pipeline)
    (unlogged : Unlogged mark) (inside : pipeline.pos < pipeline.shards.length)
    (leftover : ∀ assignment, assigned = some assignment → assignment.moeLayerStep ≠ none) :
    Reports (history ++ mark :: dispatchLines registry last requestId source pipeline)
      (ShardEngine.dispatched registry last pipeline)
      (assignedBy registry last assigned pipeline) none := by
  intro current stored
  rw [logOf_dispatch history unlogged]
  exact travelled.dispatched inside leftover stored

/-- The look-up of experts. -/
theorem Logged.looksUp (logged : Logged (logOf history) pipeline assigned hand)
    (place : SameWalk pipeline after) (inside : pipeline.pos < pipeline.shards.length)
    {wallet : Wallet} (lastSent : LastSent (logOf history) pipeline wallet) {interior : Bool}
    {result : OpoiShardResult} {expertIds : List Nat} {layerIdx : Nat}
    {kept : Option PipelineState} {reparked : Option Call}
    (outcome : ExpertOutcome interior wallet result source expertIds layerIdx after kept reparked
      emitted) : Reports (history ++ emitted) kept none reparked := by
  cases outcome with
  | absent verdict =>
      have quiet : ∀ effect ∈ [Effect.stalled result.requestId], Unlogged effect := by
        simp [Unlogged, Effect.isStarted, Effect.dispatchRecord]
      exact logged.reports quiet place (by rintro _ ⟨⟩) (by rintro _ ⟨⟩)
  | malformed verdict => exact reports_none _ _ _
  | panicked outside =>
      rw [place.shards, place.pos, List.getElem?_eq_getElem inside] at outside
      cases outside
  | @sizing step isInterior sameWallet sameResult sameSource sameLayer verdict =>
      apply logged.reports (by simp) place (by rintro _ ⟨⟩)
      rintro _ ⟨⟩
      change LastSent _ _ step.wallet
      rw [sameWallet]
      exact lastSent

/-- The completion of a step. -/
theorem Logged.completes (logged : Logged (logOf history) pipeline assigned hand)
    (place : SameWalk pipeline after) (inside : pipeline.pos < pipeline.shards.length)
    {wallet : Wallet} (lastSent : LastSent (logOf history) pipeline wallet) {sha256 : Digest}
    {ticket : Ticket} {result : OpoiShardResult} {lastToken stored : Bool}
    {kept : Option PipelineState} {left : Option ShardAssignment} {reparked : Option Call}
    (outcome : StepOutcome sha256 registry last none ticket wallet result source lastToken stored
      after kept left reparked emitted) : Reports (history ++ emitted) kept left reparked := by
  have travelled : Travelled (logOf history) after :=
    logged.travelled.at_place place.shards place.pos place.tokenIndex
      (congrArg (Option.map Prod.snd) place.walk)
  have here : LastSent (logOf history) after wallet := lastSent.at_place place.shards place.pos
  have within : after.pos < after.shards.length := by
    rw [place.shards, place.pos]
    exact inside
  cases outcome with
  | unanswered lastShard answer => exact reports_none _ _ _
  | finalized lastShard answer isLast wins => exact reports_none _ _ _
  | unattributed lastShard answer isLast nobody => exact reports_none _ _ _
  | @nextToken tokenId lastShard answer notLast =>
      apply (travelled.nextToken here lastShard tokenId).reports ⟨rfl, rfl⟩
      · exact Nat.zero_lt_of_lt within
      · rintro _ ⟨⟩
  | nextShard notLastShard dense =>
      apply (travelled.nextShard here result.output).reports ⟨rfl, rfl⟩
      · exact Nat.lt_of_le_of_ne within notLastShard
      · rintro _ ⟨⟩
  | experts notLastShard group outcome => exact logged.looksUp place inside lastSent outcome

/-! ## Who ran the shards that are done -/

/-- The wallet of the last line logged for a shard. -/
def lastWallet (log : List PrimaryDispatchRecord) (shardIndex : Nat) : Option Wallet :=
  (log.reverse.find? fun record => record.shardIndex = shardIndex).map
    PrimaryDispatchRecord.wallet

/-- A result of the wallet was accepted for the shard and the token since the pipeline was
started. -/
def RanBy (history : List Effect) (wallet : Wallet) (shardIndex tokenIndex : Nat) : Prop :=
  ∃ ticket result, .accepted ticket wallet result ∈ sinceLast Effect.isStarted history ∧
    result.shardIndex = shardIndex ∧ result.tokenIndex = tokenIndex

/-- Every shard a pipeline has passed was run by the wallet last sent a line for it. -/
def Ran (history : List Effect) (pipeline : PipelineState) : Prop :=
  ∀ idx shard, pipeline.shards[idx]? = some shard → idx < pipeline.pos →
    ∃ wallet, lastWallet (logOf history) shard.shardIndex = some wallet ∧
      RanBy history wallet shard.shardIndex pipeline.tokenIndex

/-- A request, the results accepted for its parked handler and for the shards passed, if
its shards are told apart by their indexes. -/
structure Attributed (history : List Effect) (pipeline : PipelineState) (hand : Option Call) :
    Prop where
  ran : (pipeline.shards.map ShardDescriptor.shardIndex).Nodup → Ran history pipeline
  given : ∀ call, hand = some call →
    ∃ ticket, .accepted ticket call.wallet call.result ∈ sinceLast Effect.isStarted history

/-- The pipeline there is, if there is one, is attributed. -/
def Attributes (history : List Effect) (pipeline : Option PipelineState) (hand : Option Call) :
    Prop :=
  ∀ current, pipeline = some current → Attributed history current hand

theorem lastWallet_append {records : List PrimaryDispatchRecord} {shardIndex : Nat}
    (others : ∀ record ∈ records, record.shardIndex ≠ shardIndex) :
    lastWallet (log ++ records) shardIndex = lastWallet log shardIndex := by
  have nothing : (records.reverse.find? fun record => record.shardIndex = shardIndex) = none := by
    rw [List.find?_eq_none]
    intro record mem
    simpa using others record (List.mem_reverse.mp mem)
  rw [lastWallet, List.reverse_append, List.find?_append, nothing, Option.none_or]
  rfl

theorem lastWallet_of_lastSent {wallet : Wallet} {shard : ShardDescriptor}
    (lastSent : LastSent log pipeline wallet)
    (found : pipeline.shards[pipeline.pos]? = some shard) :
    lastWallet log shard.shardIndex = some wallet := by
  obtain ⟨record, current, ends, here, index, rfl⟩ := lastSent
  cases found.symm.trans here
  obtain ⟨earlier, rfl⟩ := List.getLast?_eq_some_iff.mp ends
  simp [lastWallet, index]

theorem RanBy.append {wallet : Wallet} {shardIndex tokenIndex : Nat}
    (ranBy : RanBy history wallet shardIndex tokenIndex)
    (unmarked : ∀ effect ∈ emitted, effect.isStarted = false) :
    RanBy (history ++ emitted) wallet shardIndex tokenIndex := by
  obtain ⟨ticket, result, mem, same⟩ := ranBy
  refine ⟨ticket, result, ?_, same⟩
  rw [sinceLast_append _ unmarked]
  exact List.mem_append_left _ mem

theorem Ran.at_place (ran : Ran history pipeline) (shards : after.shards = pipeline.shards)
    (pos : after.pos = pipeline.pos) (token : after.tokenIndex = pipeline.tokenIndex) :
    Ran history after := by
  intro idx shard found before
  rw [shards] at found
  rw [pos] at before
  rw [token]
  exact ran idx shard found before

theorem Ran.quiet (ran : Ran history pipeline) (quiet : ∀ effect ∈ emitted, Unlogged effect) :
    Ran (history ++ emitted) pipeline := by
  intro idx shard found before
  obtain ⟨wallet, last, ranBy⟩ := ran idx shard found before
  exact ⟨wallet, by rwa [logOf_quiet history quiet],
    ranBy.append fun effect mem => (quiet effect mem).1⟩

/-- Lines for the shard a pipeline is at leave those it has passed alone. -/
theorem Ran.dispatched (ran : Ran history pipeline)
    (distinct : (pipeline.shards.map ShardDescriptor.shardIndex).Nodup) :
    Ran (history ++ dispatchLines registry last requestId source pipeline) pipeline := by
  intro idx shard found before
  obtain ⟨wallet, isLast, ranBy⟩ := ran idx shard found before
  refine ⟨wallet, ?_, ranBy.append isStarted_dispatchLines⟩
  rw [logOf_redispatch, lastWallet_append, isLast]
  intro record mem same
  obtain ⟨effect, line, isRecord⟩ := List.mem_filterMap.mp mem
  cases effect with
  | shardAssign sentTo tx assign =>
      cases isRecord
      obtain ⟨current, here, index, -⟩ := shardAssign_mem_dispatchLines line
      have indexes : (pipeline.shards.map ShardDescriptor.shardIndex)[idx]? =
          (pipeline.shards.map ShardDescriptor.shardIndex)[pipeline.pos]? := by
        rw [List.getElem?_map, List.getElem?_map, found, here]
        exact congrArg some (same.symm.trans index)
      have listed : idx < (pipeline.shards.map ShardDescriptor.shardIndex).length := by
        rw [List.length_map]
        exact (List.getElem?_eq_some_iff.mp found).1
      exact absurd ((List.getElem?_inj listed distinct).mp indexes) (Nat.ne_of_lt before)
  | _ => cases isRecord

/-- The relay is handed on after a result for the shard was accepted. -/
theorem Ran.nextShard {call : Call} (ran : Ran history pipeline)
    (lastSent : LastSent (logOf history) pipeline call.wallet)
    (given : ∃ ticket, .accepted ticket call.wallet call.result ∈
      sinceLast Effect.isStarted history)
    (step : pipeline.stepKey? = some (answeredStep call.result)) (output : ShardOutputWire) :
    Ran history (nextShard pipeline output) := by
  intro idx shard found before
  rcases Nat.lt_succ_iff_lt_or_eq.mp before with earlier | rfl
  · exact ran idx shard found earlier
  · obtain ⟨current, here, key⟩ := Option.map_eq_some_iff.mp step
    cases Eq.trans (Eq.symm found) here
    obtain ⟨ticket, accepted⟩ := given
    exact ⟨call.wallet, lastWallet_of_lastSent lastSent found, ticket, call.result, accepted,
      (congrArg StepKey.shardIndex key).symm, (congrArg StepKey.tokenIndex key).symm⟩

/-- An event that sends nothing. -/
theorem Attributed.quiet (attributed : Attributed history pipeline hand)
    (quiet : ∀ effect ∈ emitted, Unlogged effect) (place : SamePlace pipeline after)
    {next : Option Call}
    (given : ∀ call, next = some call → ∃ ticket, .accepted ticket call.wallet call.result ∈
      sinceLast Effect.isStarted (history ++ emitted)) :
    Attributes (history ++ emitted) (some after) next := by
  rintro _ ⟨⟩
  refine ⟨fun distinct => ?_, given⟩
  rw [place.shards] at distinct
  exact ((attributed.ran distinct).at_place place.shards place.pos place.tokenIndex).quiet quiet

theorem attributes_none (history : List Effect) (hand : Option Call) :
    Attributes history none hand := by
  rintro current ⟨⟩

/-- A dispatch after a mark. -/
theorem attributes_dispatched {mark : Effect} (unlogged : Unlogged mark)
    (ran : (pipeline.shards.map ShardDescriptor.shardIndex).Nodup → Ran history pipeline) :
    Attributes (history ++ mark :: dispatchLines registry last requestId source pipeline)
      (ShardEngine.dispatched registry last pipeline) none := by
  intro current stored
  have place := samePlace_of_dispatched stored
  refine ⟨fun distinct => ?_, by rintro _ ⟨⟩⟩
  rw [place.shards] at distinct
  have marked : Ran (history ++ [mark]) pipeline := (ran distinct).quiet fun effect mem =>
    List.mem_singleton.mp mem ▸ unlogged
  rw [List.append_cons]
  exact (marked.dispatched distinct).at_place place.shards place.pos place.tokenIndex

/-- The look-up of experts. -/
theorem Attributed.looksUp (attributed : Attributed history pipeline (some call))
    (place : SamePlace pipeline after) (inside : pipeline.pos < pipeline.shards.length)
    {interior : Bool} {expertIds : List Nat} {layerIdx : Nat} {kept : Option PipelineState}
    {reparked : Option Call}
    (outcome : ExpertOutcome interior call.wallet call.result source expertIds layerIdx after kept
      reparked emitted) : Attributes (history ++ emitted) kept reparked := by
  cases outcome with
  | absent verdict =>
      have quiet : ∀ effect ∈ [Effect.stalled call.result.requestId], Unlogged effect := by
        simp [Unlogged, Effect.isStarted, Effect.dispatchRecord]
      exact attributed.quiet quiet place (by rintro _ ⟨⟩)
  | malformed verdict => exact attributes_none _ _
  | panicked outside =>
      rw [place.shards, place.pos, List.getElem?_eq_getElem inside] at outside
      cases outside
  | @sizing step isInterior sameWallet sameResult sameSource sameLayer verdict sameToken =>
      apply attributed.quiet (by simp) place
      rintro _ ⟨⟩
      rw [List.append_nil, Call.wallet, Call.result, sameWallet, sameResult]
      exact attributed.given call rfl

/-- The completion of a step. -/
theorem Attributed.completes (attributed : Attributed history pipeline (some call))
    (lastSent : LastSent (logOf history) pipeline call.wallet)
    (step : pipeline.stepKey? = some (answeredStep call.result))
    (place : SameWalk pipeline after) (same : SamePlace pipeline after)
    (inside : pipeline.pos < pipeline.shards.length) {sha256 : Digest} {ticket : Ticket}
    {lastToken stored : Bool} {kept : Option PipelineState} {left : Option ShardAssignment}
    {reparked : Option Call}
    (outcome : StepOutcome sha256 registry last none ticket call.wallet call.result source
      lastToken stored after kept left reparked emitted) :
    Attributes (history ++ emitted) kept reparked := by
  have waits : after.stepKey? = some (answeredStep call.result) := by
    rw [← step, PipelineState.stepKey?, PipelineState.stepKey?, place.shards, place.pos,
      place.tokenIndex, place.walk]
  have here : LastSent (logOf history) after call.wallet :=
    lastSent.at_place place.shards place.pos
  cases outcome with
  | unanswered lastShard answer => exact attributes_none _ _
  | finalized lastShard answer isLast wins => exact attributes_none _ _
  | unattributed lastShard answer isLast nobody => exact attributes_none _ _
  | nextToken lastShard answer notLast =>
      apply attributes_dispatched ⟨rfl, rfl⟩
      exact fun _ idx shard _ before => absurd before (Nat.not_lt_zero idx)
  | nextShard notLastShard dense =>
      apply attributes_dispatched ⟨rfl, rfl⟩
      intro distinct
      have apart : (pipeline.shards.map ShardDescriptor.shardIndex).Nodup := by
        rw [← place.shards]
        exact distinct
      exact ((attributed.ran apart).at_place place.shards place.pos place.tokenIndex).nextShard here
        (attributed.given call rfl) waits _
  | experts notLastShard group outcome => exact attributed.looksUp same inside outcome

section Step

variable {sha256 : Digest} {engine : ShardEngine} {stimulus : Stimulus} {step : ExpertStep}
  {present later : Option PipelineState} {left : Option ShardAssignment} {handed : Option Call}

/-- While experts are asked, an assignment is a placeholder for a layer, and there is a shard
after a boundary layer. -/
theorem Holds.joining (holds : engine.Holds requestId (some pipeline) assigned
      (some (.joining step))) :
    (∀ assignment, assigned = some assignment → assignment.moeLayerStep ≠ none) ∧
      (step.interior = false → pipeline.pos + 1 < pipeline.shards.length) := by
  obtain ⟨ticket, parked, about⟩ := (holds.hand (.joining step)).mp rfl
  obtain ⟨current, found, handles⟩ := holds.sequential.orderly.handled ticket _ parked about
  cases holds.pipeline.symm.trans found
  constructor
  · intro assignment is
    exact (handles.placeholder assignment (holds.assigned.trans is)).2.1
  · exact (handles.experts step rfl).notLast

/-- One serial event keeps the log in agreement with the pipeline. -/
theorem Reports.next (reports : Reports (engine.history requestId) present assigned hand)
    (holds : engine.Holds requestId present assigned hand)
    (moves : HandStep sha256 engine requestId stimulus present assigned hand later left handed
      emitted) : Reports (engine.history requestId ++ emitted) later left handed := by
  cases moves with
  | idle fewer =>
      intro current is
      obtain ⟨travelled, awaited, delivered⟩ := reports current is
      rw [List.append_nil]
      refine ⟨travelled, ?_, delivered⟩
      rintro assignment rfl
      rcases fewer with same | none
      · exact awaited assignment same.symm
      · cases none
  | rejected =>
      intro current is
      rw [logOf_quiet _ (by simp [Unlogged, Effect.isStarted, Effect.dispatchRecord])]
      exact reports current is
  | delegated =>
      intro current is
      rw [logOf_quiet _ (by simp [Unlogged, Effect.isStarted, Effect.dispatchRecord])]
      exact reports current is
  | @accepted registry ticket wallet result pipeline about step =>
      have logged := reports pipeline rfl
      apply logged.reports _ (.refl pipeline) (by rintro _ ⟨⟩)
      · rintro _ ⟨⟩
        exact logged.awaited _ rfl step
      · simp [Unlogged, Effect.isStarted, Effect.dispatchRecord]
  | @unresolved registry ticket wallet result pipeline parked =>
      apply (reports pipeline rfl).reports _ (.refl pipeline) (by rintro _ ⟨⟩) (by rintro _ ⟨⟩)
      simp [Unlogged, Effect.isStarted, Effect.dispatchRecord]
  | ungrouped parked => exact reports_none _ _ _
  | @interior registry ticket source wallet result pipeline expertIds layerIdx kept reparked emitted
      parked resumes layer group outcome =>
      have logged := reports pipeline rfl
      exact logged.looksUp (sameWalk_contribute wallet pipeline) holds.inRange
        (logged.delivered _ rfl) outcome
  | @submitting registry ticket source wallet result pipeline parked lastToken finishes =>
      have logged := reports pipeline rfl
      apply logged.reports _ (sameWalk_contribute wallet pipeline) (by rintro _ ⟨⟩)
      · rintro _ ⟨⟩
        exact logged.delivered (.resolving wallet result) rfl
      · simp [Unlogged, Effect.isStarted, Effect.dispatchRecord]
  | @completed registry last ticket source wallet result pipeline kept assigned reparked emitted
      parked about notLastToken finishes outcome =>
      have logged := reports pipeline rfl
      exact logged.completes (sameWalk_contribute wallet pipeline) holds.inRange
        (logged.delivered _ rfl) outcome
  | @unsubmitted registry ticket stored wallet result source pipeline parked =>
      apply (reports pipeline rfl).reports _ (.refl pipeline) (by rintro _ ⟨⟩) (by rintro _ ⟨⟩)
      simp [Unlogged, Effect.isStarted, Effect.dispatchRecord]
  | @submitted registry last ticket stored wallet result source pipeline kept assigned reparked
      emitted parked about outcome =>
      have logged := reports pipeline rfl
      exact logged.completes (.refl pipeline) holds.inRange (logged.delivered _ rfl) outcome
  | @sized registry ticket minVramMb step pipeline parked =>
      have logged := reports pipeline rfl
      apply logged.reports _ (.refl pipeline)
      · intro assignment is own
        -- the placeholder is for the wallet that walks the layers
        rw [markedBy, Option.bind_some] at is
        cases walk : pipeline.moeLayerWalk with
        | none =>
            rw [walk] at is
            cases is
        | some layer =>
            rw [walk] at is
            cases is
            exact logged.travelled.pinned _ _ walk
      · rintro _ ⟨⟩
        exact logged.delivered (.sizing step) rfl
      · simp [Unlogged, Effect.isStarted, Effect.dispatchRecord]
  | @unjoined registry ticket step pipeline assigned parked =>
      apply (reports pipeline rfl).reports _ (.refl pipeline) (by rintro _ ⟨⟩) (by rintro _ ⟨⟩)
      simp [Unlogged, Effect.isStarted, Effect.dispatchRecord]
  | @abandoned registry ticket call pipeline assigned parked about =>
      have logged := reports pipeline rfl
      exact logged.reports (by simp) (.refl pipeline) logged.awaited (by rintro _ ⟨⟩)
  | @walked registry last ticket output step pipeline assigned parked isInterior =>
      have travelled : Travelled (logOf (engine.history requestId))
          (nextLayer pipeline step.layerIdx output) := by
        refine (reports pipeline rfl).travelled.at_place rfl rfl rfl ?_
        rw [nextLayer, Option.map_map]
        rfl
      exact travelled.reports ⟨rfl, rfl⟩ holds.inRange holds.joining.1
  | @handedOver registry last ticket output step pipeline assigned parked isBoundary =>
      have logged := reports pipeline rfl
      exact (logged.travelled.nextShard (logged.delivered _ rfl) output).reports ⟨rfl, rfl⟩
        (holds.joining.2 isBoundary) holds.joining.1
  | @redispatched registry last source pipeline =>
      intro current stored
      rw [logOf_redispatch]
      exact (reports pipeline rfl).travelled.dispatched holds.inRange (by rintro _ ⟨⟩) stored
  | @started registry last req rest manifest promptHex graph source polling about dense =>
      intro current stored
      rw [logOf_started]
      have travelled : Travelled [] (initialPipeline req manifest graph promptHex) := by
        constructor
        · rintro idx shard - (before | before)
          · exact absurd before (Nat.not_lt_zero idx)
          · exact absurd before (Nat.lt_irrefl 0)
        · rintro _ _ ⟨⟩
      exact travelled.dispatched (List.length_pos_iff.mpr dense) (by rintro _ ⟨⟩) stored

/-- One serial event keeps every shard that is done attributed. -/
theorem Attributes.next (attributes : Attributes (engine.history requestId) present hand)
    (reports : Reports (engine.history requestId) present assigned hand)
    (holds : engine.Holds requestId present assigned hand)
    (moves : HandStep sha256 engine requestId stimulus present assigned hand later left handed
      emitted) : Attributes (engine.history requestId ++ emitted) later handed := by
  cases moves with
  | idle fewer =>
      rw [List.append_nil]
      exact attributes
  | rejected =>
      intro current is
      apply (attributes current is).quiet _ (.refl current) _ current rfl
      · simp [Unlogged, Effect.isStarted, Effect.dispatchRecord]
      · intro call parked
        rw [sinceLast_append _ (by simp [Effect.isStarted])]
        exact ((attributes current is).given call parked).imp fun _ => List.mem_append_left _
  | delegated =>
      intro current is
      apply (attributes current is).quiet _ (.refl current) _ current rfl
      · simp [Unlogged, Effect.isStarted, Effect.dispatchRecord]
      · intro call parked
        rw [sinceLast_append _ (by simp [Effect.isStarted])]
        exact ((attributes current is).given call parked).imp fun _ => List.mem_append_left _
  | @accepted registry ticket wallet result pipeline about step =>
      apply (attributes pipeline rfl).quiet _ (.refl pipeline)
      · rintro _ ⟨⟩
        rw [sinceLast_append _ (by simp [Effect.isStarted])]
        exact ⟨ticket, List.mem_append_right _ (List.mem_singleton.mpr rfl)⟩
      · simp [Unlogged, Effect.isStarted, Effect.dispatchRecord]
  | @unresolved registry ticket wallet result pipeline parked =>
      apply (attributes pipeline rfl).quiet _ (.refl pipeline) (by rintro _ ⟨⟩)
      simp [Unlogged, Effect.isStarted, Effect.dispatchRecord]
  | ungrouped parked => exact attributes_none _ _
  | @interior registry ticket source wallet result pipeline expertIds layerIdx kept reparked emitted
      parked resumes layer group outcome =>
      exact (attributes pipeline rfl).looksUp (samePlace_contribute wallet pipeline) holds.inRange
        outcome
  | @submitting registry ticket source wallet result pipeline parked lastToken finishes =>
      apply (attributes pipeline rfl).quiet _ (samePlace_contribute wallet pipeline)
      · rintro _ ⟨⟩
        rw [sinceLast_append _ (by simp [Effect.isStarted])]
        exact ((attributes pipeline rfl).given _ rfl).imp fun _ => List.mem_append_left _
      · simp [Unlogged, Effect.isStarted, Effect.dispatchRecord]
  | @completed registry last ticket source wallet result pipeline kept assigned reparked emitted
      parked about notLastToken finishes outcome =>
      exact (attributes pipeline rfl).completes ((reports pipeline rfl).delivered _ rfl) holds.step
        (sameWalk_contribute wallet pipeline) (samePlace_contribute wallet pipeline) holds.inRange
        outcome
  | @unsubmitted registry ticket stored wallet result source pipeline parked =>
      apply (attributes pipeline rfl).quiet _ (.refl pipeline) (by rintro _ ⟨⟩)
      simp [Unlogged, Effect.isStarted, Effect.dispatchRecord]
  | @submitted registry last ticket stored wallet result source pipeline kept assigned reparked
      emitted parked about outcome =>
      exact (attributes pipeline rfl).completes ((reports pipeline rfl).delivered _ rfl) holds.step
        (.refl pipeline) (.refl pipeline) holds.inRange outcome
  | @sized registry ticket minVramMb step pipeline parked =>
      apply (attributes pipeline rfl).quiet _ (.refl pipeline)
      · rintro _ ⟨⟩
        rw [sinceLast_append _ (by simp [Effect.isStarted])]
        exact ((attributes pipeline rfl).given _ rfl).imp fun _ => List.mem_append_left _
      · simp [Unlogged, Effect.isStarted, Effect.dispatchRecord]
  | @unjoined registry ticket step pipeline assigned parked =>
      apply (attributes pipeline rfl).quiet _ (.refl pipeline) (by rintro _ ⟨⟩)
      simp [Unlogged, Effect.isStarted, Effect.dispatchRecord]
  | @abandoned registry ticket call pipeline assigned parked about =>
      exact (attributes pipeline rfl).quiet (by simp) (.refl pipeline) (by rintro _ ⟨⟩)
  | @walked registry last ticket output step pipeline assigned parked isInterior =>
      exact attributes_dispatched ⟨rfl, rfl⟩ fun distinct =>
        ((attributes pipeline rfl).ran distinct).at_place rfl rfl rfl
  | @handedOver registry last ticket output step pipeline assigned parked isBoundary =>
      exact attributes_dispatched ⟨rfl, rfl⟩ fun distinct =>
        ((attributes pipeline rfl).ran distinct).nextShard ((reports pipeline rfl).delivered _ rfl)
          ((attributes pipeline rfl).given _ rfl) holds.step output
  | @redispatched registry last source pipeline =>
      intro current stored
      have place := samePlace_of_dispatched stored
      refine ⟨fun distinct => ?_, by rintro _ ⟨⟩⟩
      rw [place.shards] at distinct
      exact (((attributes pipeline rfl).ran distinct).dispatched distinct).at_place place.shards
        place.pos place.tokenIndex
  | @started registry last req rest manifest promptHex graph source polling about dense =>
      intro current stored
      refine ⟨fun _ idx shard _ before => ?_, by rintro _ ⟨⟩⟩
      rw [(samePlace_of_dispatched stored).pos] at before
      exact absurd before (Nat.not_lt_zero idx)

end Step

/-! ## Runs -/

/-- Two connected miners. -/
def pairRegistry : MinerRegistry :=
  (MinerRegistry.new.register "first" 0).register "second" 1

/-- The first of two shards is answered by one miner, and the other one is asked for the
second. -/
def pairEvents : List Stimulus :=
  soleStart pairRegistry 2 2 ++ [⟨pairRegistry, .shardResult "first" (soleResult 0 0 none)⟩,
    ⟨pairRegistry, .resolved 0 (some soleSource)⟩]

end ShardEngine

end StratumBridge.Shard
