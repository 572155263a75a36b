import StratumBridge.Speculative.Acks
import StratumBridge.Speculative.Panics

/-!
# Outstanding steps of the speculative engine

A relay waits for the wallet its step was assigned to, a round for the wallet
that drafts it, and a rollback for everybody it was sent to.  The tick
dispatches what has no assignment.  It never looks at a rollback: a shard whose
rollback was sent to nobody, or to a wallet that went away, stays pending.
-/

namespace StratumBridge.Speculative

open Data Rpc Wire Transition

/-- The index of the shard a relay is at. -/
def SpecPipeline.step? (pipeline : SpecPipeline) : Option Nat :=
  pipeline.phase.relay.bind fun relay =>
    (pipeline.shards[relay.1]?).map ShardDescriptor.shardIndex

theorem SpecPipeline.Placed.step?_ne_none {pipeline : SpecPipeline} (placed : pipeline.Placed)
    (relaying : pipeline.phase.relay ≠ none) : ∃ shardIndex, pipeline.step? = some shardIndex := by
  obtain ⟨⟨pos, currentInput, isPrompt⟩, relay⟩ := Option.ne_none_iff_exists'.mp relaying
  have within := placed.within pos currentInput isPrompt relay
  refine ⟨pipeline.shards[pos].shardIndex, ?_⟩
  simp [SpecPipeline.step?, relay, List.getElem?_eq_getElem within]

/-- A result or a tick continues what is under way; the other events open a
relay. -/
def Event.opensRelay : Event → Bool
  | startPipeline _ _ _ _ _ _ _ | draftResult _ _ => true
  | _ => false

/-- The events that open a round. -/
def Event.opensRound : Event → Bool
  | tokenized _ _ | kvRollbackAck _ _ => true
  | _ => false

namespace SpeculativeEngine

/-- The event dispatches a relay step of the request. -/
inductive Relays (engine : SpeculativeEngine) (requestId : RequestId) : Event → Prop
  | started {manifest shards maxTokens promptHex promptHash source draftSource}
      (configured : engine.draftSources manifest.modelId = some draftSource) :
      Relays engine requestId
        (.startPipeline requestId manifest shards maxTokens promptHex promptHash source)
  | relayed {wallet result pipeline pos currentInput isPromptProcessing}
      (about : result.requestId = requestId)
      (assigned : engine.shardAssignments requestId = some ⟨wallet, result.shardIndex⟩)
      (present : engine.pipelines requestId = some pipeline)
      (relaying : pipeline.phase.relay = some (pos, currentInput, isPromptProcessing))
      (notLast : pos + 1 ≠ pipeline.shards.length) :
      Relays engine requestId (.shardResult wallet result)
  | drafted {wallet result pipeline} (about : result.requestId = requestId)
      (assigned : engine.draftAssignments requestId = some wallet)
      (nonempty : result.draftTokenIds ≠ [])
      (present : engine.pipelines requestId = some pipeline) :
      Relays engine requestId (.draftResult wallet result)
  | retried {stalledShard stalledDraft} (stalled : engine.StalledShard requestId) :
      Relays engine requestId (.retryStalledTick stalledShard stalledDraft)

/-- The event dispatches the draft of the request's pipeline. -/
inductive Drafts (engine : SpeculativeEngine) (requestId : RequestId) :
    Event → SpecPipeline → Prop
  | counted {ticket call base pipeline} (parked : engine.calls ticket = some call)
      (about : call.requestId = requestId)
      (present : engine.pipelines requestId = some pipeline) :
      Drafts engine requestId (.tokenized ticket (some base)) pipeline
  | settled {ack stored pipeline state} (about : ack.requestId = requestId)
      (present : engine.pipelines requestId = some pipeline)
      (awaiting : pipeline.phase = .awaitingRollback state)
      (complete : state.pending.erase ack.shardIndex = ∅)
      (notFinal : state.isFinalizingRound = false) :
      Drafts engine requestId (.kvRollbackAck ack stored) pipeline
  | retried {stalledShard stalledDraft pipeline}
      (present : engine.pipelines requestId = some pipeline)
      (awaiting : pipeline.phase = .awaitingDraft)
      (unassigned : engine.draftAssignments requestId = none) :
      Drafts engine requestId (.retryStalledTick stalledShard stalledDraft) pipeline

/-- The event ends a verify pass and begins the rollback of its round. -/
inductive Settles (engine : SpeculativeEngine) (requestId : RequestId) :
    Event → SpecPipeline → Prop
  | verified {wallet result pipeline pos currentInput draft logits outcome}
      (about : result.requestId = requestId)
      (assigned : engine.shardAssignments requestId = some ⟨wallet, result.shardIndex⟩)
      (present : engine.pipelines requestId = some pipeline)
      (verifying : pipeline.phase = .verifying pos currentInput draft)
      (last : pos + 1 = pipeline.shards.length) (answered : result.nextTokenIds = some logits)
      (verified : greedyVerifyRound pipeline.carry pipeline.expected0 draft logits =
        some outcome) :
      Settles engine requestId (.shardResult wallet result) pipeline

/-- The wallet that the event picks for a relay step of the request.  Within a tick the
cursor has moved on by the time it comes to the request. -/
def Picks (engine : SpeculativeEngine) (registry : MinerRegistry) (requestId : RequestId)
    (wallet : Wallet) : Event → Prop
  | .retryStalledTick stalledShard _ =>
      ∃ earlier later, stalledShard = earlier ++ requestId :: later ∧
        registry.pickNext (retryShards registry earlier engine).lastShardWallet = some wallet
  | _ => registry.pickNext engine.lastShardWallet = some wallet

/-- The conditions on a step under which its steps go to wallets that are
served: whoever is picked is; where nobody is picked, no assignment of an
earlier step is left behind; and a rollback finds a wallet for the shards and
the drafting one. -/
structure TendGuard (served : Wallet → Prop) (requestId : RequestId)
    (engine : SpeculativeEngine) (stimulus : Stimulus) : Prop where
  relays : engine.Relays requestId stimulus.event →
    ∀ wallet, engine.Picks stimulus.registry requestId wallet stimulus.event → served wallet
  opens : stimulus.event.opensRelay = true → engine.Relays requestId stimulus.event →
    stimulus.registry.pickNext engine.lastShardWallet = none →
      engine.shardAssignments requestId = none
  drafts : ∀ pipeline, engine.Drafts requestId stimulus.event pipeline →
    ∀ wallet, chooseDraftWallet stimulus.registry pipeline = some wallet → served wallet
  rounds : stimulus.event.opensRound = true →
    ∀ pipeline, engine.Drafts requestId stimulus.event pipeline →
      chooseDraftWallet stimulus.registry pipeline = none →
        engine.draftAssignments requestId = none
  settles : ∀ pipeline, engine.Settles requestId stimulus.event pipeline →
    (∃ wallet, stimulus.registry.pickNext engine.lastShardWallet = some wallet ∧
      served wallet) ∧
      ∃ wallet, pipeline.draftWallet = some wallet ∧ stimulus.registry.Registered wallet ∧
        served wallet

/-- A relay step that is assigned is the current one, at a wallet that is
served. -/
def RelayTended (served : Wallet → Prop) (engine : SpeculativeEngine)
    (requestId : RequestId) : Prop :=
  ∀ pipeline assignment, engine.pipelines requestId = some pipeline →
    pipeline.phase.relay ≠ none → engine.shardAssignments requestId = some assignment →
    served assignment.wallet ∧ pipeline.step? = some assignment.shardIndex

/-- A draft that is awaited and assigned is at a wallet that is served. -/
def DraftTended (served : Wallet → Prop) (engine : SpeculativeEngine)
    (requestId : RequestId) : Prop :=
  ∀ pipeline wallet, engine.pipelines requestId = some pipeline →
    pipeline.phase = .awaitingDraft → engine.draftAssignments requestId = some wallet →
    served wallet

/-- Every session a rollback waits for was asked at a wallet that is served. -/
def RollbackTended (served : Wallet → Prop) (engine : SpeculativeEngine)
    (requestId : RequestId) (wait : Wait) : Prop :=
  ∀ state, engine.awaited requestId = some state → ∀ shardIndex ∈ state.pending,
    ∃ wallet, wait.Addressed shardIndex wallet ∧ served wallet

/-- What is out for a request is at wallets that are served, a relay is at one of the
shards, and a rollback waits for somebody. -/
structure Tended (served : Wallet → Prop) (engine : SpeculativeEngine) (requestId : RequestId)
    (wait : Wait) : Prop where
  placed : ∀ pipeline, engine.pipelines requestId = some pipeline → pipeline.Placed
  relay : engine.RelayTended served requestId
  draft : engine.DraftTended served requestId
  rollback : engine.RollbackTended served requestId wait
  pends : engine.Pends requestId

/-- The request waits for the wallet. -/
inductive Engaged (engine : SpeculativeEngine) (requestId : RequestId) (wait : Wait)
    (wallet : Wallet) : Prop
  | relay {pipeline assignment} (present : engine.pipelines requestId = some pipeline)
      (relaying : pipeline.phase.relay ≠ none)
      (assigned : engine.shardAssignments requestId = some assignment)
      (holder : assignment.wallet = wallet) : Engaged engine requestId wait wallet
  | draft {pipeline} (present : engine.pipelines requestId = some pipeline)
      (awaiting : pipeline.phase = .awaitingDraft)
      (assigned : engine.draftAssignments requestId = some wallet) :
      Engaged engine requestId wait wallet
  | rollback {state shardIndex} (awaits : engine.awaited requestId = some state)
      (pending : shardIndex ∈ state.pending) (addressed : wait.Addressed shardIndex wallet) :
      Engaged engine requestId wait wallet

/-- No handler of the request is parked. -/
def Quiet (engine : SpeculativeEngine) (requestId : RequestId) : Prop :=
  ∀ ticket call, engine.calls ticket = some call → call.requestId ≠ requestId

variable {sha256 : Digest} {registry : MinerRegistry} {served : Wallet → Prop}
variable {engine after : SpeculativeEngine} {requestId target : RequestId}
variable {stimulus : Stimulus} {pipeline : SpecPipeline}

/-! ## Relay steps -/

theorem RelayTended.of_same (tended : engine.RelayTended served requestId)
    (pipelines : after.pipelines requestId = engine.pipelines requestId)
    (assignments : after.shardAssignments requestId = engine.shardAssignments requestId) :
    after.RelayTended served requestId := by
  intro pipeline assignment present relaying assigned
  exact tended pipeline assignment (pipelines.symm.trans present) relaying
    (assignments.symm.trans assigned)

theorem relayTended_of_unassigned (unassigned : engine.shardAssignments requestId = none) :
    engine.RelayTended served requestId := by
  intro pipeline assignment present relaying assigned
  rw [unassigned] at assigned
  cases assigned

theorem dispatchShardStep_shardAssignments_of_ne (ne : requestId ≠ target) :
    (dispatchShardStep registry target engine).shardAssignments requestId =
      engine.shardAssignments requestId := by
  unfold dispatchShardStep
  (repeat' split) <;> first | rfl | exact PartialMap.insert_of_ne _ _ ne

/-- A relay dispatch assigns the current step to the wallet it picks. -/
theorem dispatchShardStep_shardAssignments_self {shardIndex : Nat}
    (present : engine.pipelines requestId = some pipeline)
    (step : pipeline.step? = some shardIndex) :
    (dispatchShardStep registry requestId engine).shardAssignments requestId =
      ((registry.pickNext engine.lastShardWallet).map fun wallet => ⟨wallet, shardIndex⟩).or
        (engine.shardAssignments requestId) := by
  obtain ⟨⟨pos, currentInput, isPrompt⟩, relay, atShard⟩ := Option.bind_eq_some_iff.mp step
  obtain ⟨shard, found, rfl⟩ := Option.map_eq_some_iff.mp atShard
  dsimp only at found
  simp only [dispatchShardStep, present, relay, found]
  cases picked : registry.pickNext engine.lastShardWallet with
  | none => rfl
  | some wallet =>
      obtain ⟨tx, channel⟩ := (MinerRegistry.eligible_of_pickNext picked).1
      simp only [channel]
      exact PartialMap.insert_self ..

/-- A relay dispatch leaves the request tended if whoever is picked is served,
and nothing is assigned where nobody is. -/
theorem dispatchShardStep_relayTended
    (placed : ∀ pipeline, engine.pipelines requestId = some pipeline → pipeline.Placed)
    (picked : ∀ wallet, registry.pickNext engine.lastShardWallet = some wallet → served wallet)
    (vacant : registry.pickNext engine.lastShardWallet = none →
      engine.shardAssignments requestId = none) :
    (dispatchShardStep registry requestId engine).RelayTended served requestId := by
  intro pipeline assignment present relaying assigned
  rw [dispatchShardStep_pipelines] at present
  obtain ⟨shardIndex, step⟩ := (placed pipeline present).step?_ne_none relaying
  rw [dispatchShardStep_shardAssignments_self present step] at assigned
  cases next : registry.pickNext engine.lastShardWallet with
  | none =>
      rw [next, vacant next] at assigned
      cases assigned
  | some wallet =>
      rw [next] at assigned
      cases assigned
      exact ⟨picked wallet next, step⟩

theorem RelayTended.dispatchShardStep_of_ne (tended : engine.RelayTended served requestId)
    (ne : requestId ≠ target) :
    (dispatchShardStep registry target engine).RelayTended served requestId :=
  tended.of_same (by rw [dispatchShardStep_pipelines])
    (dispatchShardStep_shardAssignments_of_ne ne)

@[simp]
theorem dispatchDraft_shardAssignments :
    (dispatchDraft registry target engine).shardAssignments = engine.shardAssignments := by
  unfold dispatchDraft
  (repeat' split) <;> rfl

@[simp]
theorem retryDrafts_shardAssignments (stalled : List RequestId) :
    (retryDrafts registry stalled engine).shardAssignments = engine.shardAssignments := by
  induction stalled generalizing engine with
  | nil => rfl
  | cons first rest ih =>
      exact Eq.trans ih dispatchDraft_shardAssignments

@[simp]
theorem finalizePipeline_shardAssignments (stored : Bool) :
    (finalizePipeline sha256 target stored engine).shardAssignments =
      engine.shardAssignments := by
  unfold finalizePipeline
  (repeat' split) <;> rfl

@[simp]
theorem finishPromptPass_shardAssignments (currentInput : ShardInputWire)
    (result : OpoiShardResult) :
    (finishPromptPass target pipeline currentInput result engine).shardAssignments =
      engine.shardAssignments := by
  unfold finishPromptPass
  split <;> rfl

@[simp]
theorem finishVerifyPass_shardAssignments (draftTokenIds : List TokenId)
    (result : OpoiShardResult) :
    (finishVerifyPass registry target pipeline draftTokenIds result engine).shardAssignments =
      engine.shardAssignments := by
  simp only [finishVerifyPass, beginRollback]
  (repeat' split) <;> rfl

/-- After an accepted result, the request has no assignment, or the one of the
next step. -/
theorem continueRelay_relayTended {wallet : Wallet} {result : OpoiShardResult}
    (unassigned : engine.shardAssignments requestId = none) (placed : pipeline.Placed)
    (picked : ∀ pos currentInput isPrompt,
      pipeline.phase.relay = some (pos, currentInput, isPrompt) →
      pos + 1 ≠ pipeline.shards.length →
      ∀ wallet, registry.pickNext engine.lastShardWallet = some wallet → served wallet) :
    (continueRelay registry requestId (contribute wallet pipeline) result
      engine).RelayTended served requestId := by
  unfold continueRelay
  cases relaying : (contribute wallet pipeline).phase.relay with
  | none => exact relayTended_of_unassigned unassigned
  | some step =>
      rcases step with ⟨pos, currentInput, isPrompt⟩
      dsimp only
      by_cases last : pos + 1 = (contribute wallet pipeline).shards.length
      · rw [if_pos last]
        apply relayTended_of_unassigned
        split
        · rw [finishVerifyPass_shardAssignments, unassigned]
        · rw [finishPromptPass_shardAssignments, unassigned]
      · rw [if_neg last]
        apply dispatchShardStep_relayTended
        · intro stored present
          cases (PartialMap.insert_self ..).symm.trans present
          exact placed.relayOutput relaying last
        · exact picked pos currentInput isPrompt relaying last
        · exact fun _ => unassigned

/-- What a result for another request leaves. -/
theorem handleShardResult_shardAssignments_of_ne {wallet : Wallet} {result : OpoiShardResult}
    (ne : requestId ≠ result.requestId) :
    (handleShardResult registry wallet result engine).shardAssignments requestId =
      engine.shardAssignments requestId := by
  have removed : (engine.shardAssignments.remove result.requestId) requestId =
      engine.shardAssignments requestId := PartialMap.remove_of_ne _ ne
  unfold handleShardResult
  split
  · rfl
  · split
    · dsimp only
      split
      · exact removed
      · unfold continueRelay
        split
        · exact removed
        · split
          · split
            · rwa [finishVerifyPass_shardAssignments]
            · rwa [finishPromptPass_shardAssignments]
          · rwa [dispatchShardStep_shardAssignments_of_ne ne]
    · rfl

/-- The first loop of the tick dispatches a stalled request once. -/
theorem RelayTended.retryShards (tended : engine.RelayTended served requestId)
    (placed : ∀ pipeline, engine.pipelines requestId = some pipeline → pipeline.Placed)
    {stalled : List RequestId} (nodup : stalled.Nodup)
    (unassigned : requestId ∈ stalled → engine.shardAssignments requestId = none)
    (picked : ∀ earlier later wallet, stalled = earlier ++ requestId :: later →
      registry.pickNext (retryShards registry earlier engine).lastShardWallet = some wallet →
        served wallet) :
    (retryShards registry stalled engine).RelayTended served requestId := by
  induction stalled generalizing engine with
  | nil => exact tended
  | cons first rest ih =>
      obtain ⟨notRest, restNodup⟩ := List.nodup_cons.mp nodup
      have stillPlaced : ∀ pipeline,
          (dispatchShardStep registry first engine).pipelines requestId = some pipeline →
            pipeline.Placed := by
        rw [dispatchShardStep_pipelines]
        exact placed
      have pickedLater : ∀ earlier later wallet, rest = earlier ++ requestId :: later →
          registry.pickNext (SpeculativeEngine.retryShards registry earlier
            (dispatchShardStep registry first engine)).lastShardWallet = some wallet →
          served wallet :=
        fun earlier later wallet split =>
          picked (first :: earlier) later wallet (congrArg (first :: ·) split)
      by_cases same : requestId = first
      · subst same
        apply ih _ stillPlaced restNodup (fun mem => absurd mem notRest) pickedLater
        apply dispatchShardStep_relayTended placed
        · exact fun wallet => picked [] rest wallet rfl
        · exact fun _ => unassigned (List.mem_cons_self ..)
      · apply ih (tended.dispatchShardStep_of_ne same) stillPlaced restNodup _ pickedLater
        intro mem
        rw [dispatchShardStep_shardAssignments_of_ne same]
        exact unassigned (List.mem_cons_of_mem _ mem)

/-- A draft dispatch touches no pipeline in a relay. -/
theorem dispatchDraft_relay (found : (dispatchDraft registry target engine).pipelines requestId =
    some pipeline) (relaying : pipeline.phase.relay ≠ none) :
    engine.pipelines requestId = some pipeline := by
  unfold dispatchDraft at found
  split at found
  · exact found
  · rename_i current present
    split at found
    · rename_i awaiting
      have resting : current.phase.relay = none := by
        cases phase : current.phase with
        | awaitingDraft => rfl
        | _ => simp [phase, Phase.isAwaitingDraft] at awaiting
      split at found
      · exact found
      · rename_i wallet chosen
        have stored : (engine.pipelines.insert target
            { current with draftWallet := some wallet }) requestId = some pipeline := by
          split at found <;> exact found
        by_cases same : requestId = target
        · rw [same, PartialMap.insert_self] at stored
          cases stored
          exact absurd resting relaying
        · rwa [PartialMap.insert_of_ne _ _ same] at stored
    · exact found

theorem retryDrafts_relay {stalled : List RequestId}
    (found : (retryDrafts registry stalled engine).pipelines requestId = some pipeline)
    (relaying : pipeline.phase.relay ≠ none) :
    engine.pipelines requestId = some pipeline := by
  induction stalled generalizing engine with
  | nil => exact found
  | cons first rest ih => exact dispatchDraft_relay (ih found) relaying

/-- A step that touches no assignment keeps a relay tended if every relay it
leaves was there. -/
theorem RelayTended.of_fewer (tended : engine.RelayTended served requestId)
    (relays : ∀ pipeline, after.pipelines requestId = some pipeline →
      pipeline.phase.relay ≠ none → engine.pipelines requestId = some pipeline)
    (fewer : ∀ assignment, after.shardAssignments requestId = some assignment →
      engine.shardAssignments requestId = some assignment) :
    after.RelayTended served requestId := by
  intro pipeline assignment present relaying assigned
  exact tended pipeline assignment (relays pipeline present relaying) relaying
    (fewer assignment assigned)

/-- The events that neither open nor continue a relay. -/
def keepsRelays : Event → Bool
  | .tokenized _ _ | .kvRollbackAck _ _ | .disconnect _ => true
  | _ => false

/-- A relay found after such an event was there before. -/
theorem Change.relay_kept {before : Option SpecPipeline} {emitted : List Effect}
    (change : Change sha256 engine requestId stimulus before (some pipeline) emitted)
    (keeps : keepsRelays stimulus.event = true) (relaying : pipeline.phase.relay ≠ none) :
    before = some pipeline := by
  generalize found : some pipeline = outcome at change
  cases change with
  | idle => rfl
  | counted | acked | roundCompleted =>
      cases found
      exact absurd rfl relaying
  | uncounted | finalized | unattributed | disconnected => cases found
  | _ => cases keeps

/-- Every guarded event keeps the relay of a request tended. -/
theorem RelayTended.next (tended : engine.RelayTended served requestId)
    (placed : ∀ pipeline, engine.pipelines requestId = some pipeline → pipeline.Placed)
    (enabled : engine.enabled stimulus) (hasShards : HasShards engine stimulus)
    (guarded : TendGuard served requestId engine stimulus) :
    (next sha256 engine stimulus).RelayTended served requestId := by
  have change := next_change_sent sha256 enabled requestId
  have relays : keepsRelays stimulus.event = true → ∀ pipeline,
      (SpeculativeEngine.next sha256 engine stimulus).pipelines requestId = some pipeline →
        pipeline.phase.relay ≠ none → engine.pipelines requestId = some pipeline := by
    intro keeps pipeline present relaying
    rw [present] at change
    exact change.relay_kept keeps relaying
  rcases stimulus with ⟨registry, event⟩
  cases event with
  | startPipeline target manifest shards maxTokens promptHex promptHash source =>
      simp only [SpeculativeEngine.next, startPipeline]
      cases configured : engine.draftSources manifest.modelId with
      | none => exact tended
      | some draftSource =>
          dsimp only
          by_cases same : requestId = target
          · subst same
            have started : engine.Relays requestId
              (.startPipeline requestId manifest shards maxTokens promptHex promptHash source) :=
                .started configured
            apply dispatchShardStep_relayTended
            · intro pipeline present
              cases (PartialMap.insert_self ..).symm.trans present
              have opens : Change sha256 engine requestId ⟨registry, .startPipeline requestId
                  manifest shards maxTokens promptHex promptHash source⟩
                  (engine.pipelines requestId) (some (initialPipeline manifest shards maxTokens
                    promptHex promptHash source draftSource)) _ := .started configured
              exact opens.placed placed hasShards
            · exact guarded.relays started
            · exact guarded.opens rfl started
          · apply RelayTended.dispatchShardStep_of_ne _ same
            exact tended.of_same (PartialMap.insert_of_ne _ _ same) rfl
  | shardResult wallet result =>
      by_cases same : requestId = result.requestId
      · subst same
        simp only [SpeculativeEngine.next, handleShardResult]
        cases assigned : engine.shardAssignments result.requestId with
        | none => exact tended.of_same rfl rfl
        | some assignment =>
            dsimp only
            by_cases expected : assignment.wallet = wallet ∧
                assignment.shardIndex = result.shardIndex
            · rw [if_pos expected]
              cases present : engine.pipelines result.requestId with
              | none => exact relayTended_of_unassigned (PartialMap.remove_self ..)
              | some pipeline =>
                  apply continueRelay_relayTended (PartialMap.remove_self ..)
                    (placed pipeline present)
                  intro pos currentInput isPrompt relaying notLast
                  rcases assignment with ⟨holder, shardIndex⟩
                  rcases expected with ⟨rfl, rfl⟩
                  exact guarded.relays (.relayed rfl assigned present relaying notLast)
            · rw [if_neg expected]
              exact tended.of_same rfl rfl
      · obtain ⟨_, _, acts, -⟩ : ∃ after emitted, ActsOn result.requestId engine
            (handleShardResult registry wallet result engine) after emitted ∧
            Change sha256 engine result.requestId ⟨registry, .shardResult wallet result⟩
              (engine.pipelines result.requestId) after emitted :=
          handleShardResult_change wallet result
        exact tended.of_same (acts.pipelines_of_ne same)
          (handleShardResult_shardAssignments_of_ne same)
  | tokenized ticket tokenCount =>
      apply tended.of_fewer (relays rfl)
      intro assignment assigned
      simp only [SpeculativeEngine.next, resumeTokenized] at assigned
      split at assigned
      · exact assigned
      · split at assigned
        · exact assigned
        · split at assigned
          · exact assigned
          · rwa [dispatchDraft_shardAssignments] at assigned
  | draftResult wallet result =>
      simp only [SpeculativeEngine.next, handleDraftResult]
      by_cases assigned : engine.draftAssignments result.requestId = some wallet
      · rw [if_pos assigned]
        by_cases nothing : result.draftTokenIds = []
        · rw [if_pos nothing]
          exact tended.of_same rfl rfl
        · rw [if_neg nothing]
          cases present : engine.pipelines result.requestId with
          | none => exact tended.of_same rfl rfl
          | some pipeline =>
              dsimp only
              by_cases same : requestId = result.requestId
              · subst same
                have drafted : engine.Relays result.requestId (.draftResult wallet result) :=
                  .drafted rfl assigned nothing present
                apply dispatchShardStep_relayTended
                · intro stored found
                  cases (PartialMap.insert_self ..).symm.trans found
                  refine .of_first (placed pipeline present).nonempty ?_
                  rintro pos currentInput isPrompt ⟨⟩
                  rfl
                · exact guarded.relays drafted
                · exact guarded.opens rfl drafted
              · apply RelayTended.dispatchShardStep_of_ne _ same
                exact tended.of_same (PartialMap.insert_of_ne _ _ same) rfl
      · rw [if_neg assigned]
        exact tended
  | kvRollbackAck ack stored =>
      apply tended.of_fewer (relays rfl)
      intro assignment assigned
      simp only [SpeculativeEngine.next, handleKvRollbackAck] at assigned
      split at assigned
      · exact assigned
      · split at assigned
        · split at assigned
          · split at assigned
            · rwa [finalizePipeline_shardAssignments] at assigned
            · rwa [dispatchDraft_shardAssignments] at assigned
          · exact assigned
        · exact assigned
  | retryStalledTick stalledShard stalledDraft =>
      rcases enabled with ⟨-, ⟨nodup, stalled⟩, -⟩
      have retried : ∀ reached, reached <+: stalledShard →
          (SpeculativeEngine.retryShards registry reached engine).RelayTended served
            requestId := by
        rintro reached ⟨others, whole⟩
        subst whole
        apply tended.retryShards placed (List.nodup_append.mp nodup).1
        · intro mem
          obtain ⟨_, -, -, unassigned⟩ :=
            (stalled requestId).mp (List.mem_append_left _ mem)
          exact unassigned
        · intro earlier later wallet split picked
          have mem : requestId ∈ reached ++ others := by
            rw [split]
            exact List.mem_append_left _ (List.mem_append_right _ (List.mem_cons_self ..))
          apply guarded.relays (.retried ((stalled requestId).mp mem)) wallet
          exact ⟨earlier, later ++ others, by rw [split, List.append_assoc, List.cons_append],
            picked⟩
      rcases retryStalledTick_cases registry stalledShard stalledDraft engine with
        ⟨-, dies⟩ | ⟨-, ends⟩
      · simp only [SpeculativeEngine.next, dies]
        exact (retried _ (engine.reached_prefix stalledShard)).of_same rfl rfl
      · simp only [SpeculativeEngine.next, ends]
        apply (retried _ List.prefix_rfl).of_fewer
        · exact fun pipeline found relaying => retryDrafts_relay found relaying
        · exact fun assignment assigned =>
            (congrFun (retryDrafts_shardAssignments stalledDraft) requestId).symm.trans assigned
  | dropped ticket => exact tended.of_same rfl rfl
  | disconnect wallet =>
      apply tended.of_fewer (relays rfl)
      exact fun assignment assigned => (PartialMap.retain_eq_some_iff.mp assigned).1

/-! ## Drafts -/

theorem DraftTended.of_fewer (tended : engine.DraftTended served requestId)
    (waits : ∀ pipeline, after.pipelines requestId = some pipeline →
      pipeline.phase = .awaitingDraft → engine.AwaitsDraft requestId)
    (fewer : ∀ wallet, after.draftAssignments requestId = some wallet →
      engine.draftAssignments requestId = some wallet) :
    after.DraftTended served requestId := by
  intro pipeline wallet present awaiting assigned
  obtain ⟨earlier, was, waited⟩ := waits pipeline present awaiting
  exact tended earlier wallet was waited (fewer wallet assigned)

theorem DraftTended.of_same (tended : engine.DraftTended served requestId)
    (pipelines : after.pipelines requestId = engine.pipelines requestId)
    (assignments : after.draftAssignments requestId = engine.draftAssignments requestId) :
    after.DraftTended served requestId := by
  apply tended.of_fewer
  · exact fun pipeline present awaiting => ⟨pipeline, pipelines.symm.trans present, awaiting⟩
  · exact fun wallet assigned => assignments.symm.trans assigned

/-- The wallet chosen for a draft is connected. -/
theorem registered_of_chooseDraftWallet {wallet : Wallet}
    (chosen : chooseDraftWallet registry pipeline = some wallet) :
    registry.Registered wallet := by
  have capable : ∀ {wallet}, registry.pickDraftCapable none = some wallet →
      registry.Registered wallet :=
    fun picked => (MinerRegistry.eligible_of_pickDraftCapable picked).1.1
  unfold chooseDraftWallet at chosen
  split at chosen
  · split at chosen
    · rename_i connected
      cases chosen
      exact Option.isSome_iff_exists.mp connected
    · exact capable chosen
  · exact capable chosen

/-- A draft dispatch leaves the other requests alone. -/
theorem dispatchDraft_of_ne (registry : MinerRegistry) (engine : SpeculativeEngine)
    (ne : requestId ≠ target) :
    (dispatchDraft registry target engine).pipelines requestId = engine.pipelines requestId ∧
      (dispatchDraft registry target engine).draftAssignments requestId =
        engine.draftAssignments requestId := by
  unfold dispatchDraft
  (repeat' split) <;>
    first
      | exact ⟨rfl, rfl⟩
      | exact ⟨PartialMap.insert_of_ne _ _ ne, rfl⟩
      | exact ⟨PartialMap.insert_of_ne _ _ ne, PartialMap.insert_of_ne _ _ ne⟩

/-- A draft dispatch leaves the request tended if whoever is chosen is served,
and nothing is assigned where nobody is. -/
theorem dispatchDraft_draftTended
    (chosen : ∀ pipeline, engine.pipelines requestId = some pipeline →
      ∀ wallet, chooseDraftWallet registry pipeline = some wallet → served wallet)
    (vacant : ∀ pipeline, engine.pipelines requestId = some pipeline →
      chooseDraftWallet registry pipeline = none → engine.draftAssignments requestId = none) :
    (dispatchDraft registry requestId engine).DraftTended served requestId := by
  intro pipeline wallet present awaiting assigned
  cases before : engine.pipelines requestId with
  | none => simp [dispatchDraft, before] at present
  | some earlier =>
      cases waits : earlier.phase.isAwaitingDraft with
      | false =>
          simp only [dispatchDraft, before, waits, Bool.false_eq_true, if_false] at present
          cases present
          simp [awaiting, Phase.isAwaitingDraft] at waits
      | true =>
          simp only [dispatchDraft, before, waits, if_true] at assigned
          cases choice : chooseDraftWallet registry earlier with
          | none =>
              rw [choice] at assigned
              rw [vacant earlier before choice] at assigned
              cases assigned
          | some picked =>
              obtain ⟨tx, channel⟩ := registered_of_chooseDraftWallet choice
              simp only [choice, channel, PartialMap.insert_self] at assigned
              cases assigned
              exact chosen earlier before wallet choice

/-- The second loop of the tick drafts a stalled request once. -/
theorem DraftTended.retryDrafts (tended : engine.DraftTended served requestId)
    {stalled : List RequestId} (nodup : stalled.Nodup)
    (unassigned : requestId ∈ stalled → engine.draftAssignments requestId = none)
    (chosen : requestId ∈ stalled → ∀ pipeline, engine.pipelines requestId = some pipeline →
      ∀ wallet, chooseDraftWallet registry pipeline = some wallet → served wallet) :
    (retryDrafts registry stalled engine).DraftTended served requestId := by
  induction stalled generalizing engine with
  | nil => exact tended
  | cons first rest ih =>
      obtain ⟨notRest, restNodup⟩ := List.nodup_cons.mp nodup
      by_cases same : requestId = first
      · subst same
        apply ih _ restNodup
        · exact fun mem => absurd mem notRest
        · exact fun mem => absurd mem notRest
        · apply dispatchDraft_draftTended
          · exact chosen (List.mem_cons_self ..)
          · exact fun _ _ _ => unassigned (List.mem_cons_self ..)
      · have others := dispatchDraft_of_ne registry engine same
        apply ih (tended.of_same others.1 others.2) restNodup
        · intro mem
          rw [others.2]
          exact unassigned (List.mem_cons_of_mem _ mem)
        · intro mem
          rw [others.1]
          exact chosen (List.mem_cons_of_mem _ mem)

/-- The events after which nobody waits for a draft who did not before. -/
def keepsDrafts : Event → Bool
  | .tokenized _ _ | .kvRollbackAck _ _ | .retryStalledTick _ _ => false
  | _ => true

/-- A wait for a draft found after such an event was under way before. -/
theorem Change.awaiting_kept {before : Option SpecPipeline} {emitted : List Effect}
    (change : Change sha256 engine requestId stimulus before (some pipeline) emitted)
    (keeps : keepsDrafts stimulus.event = true) (awaiting : pipeline.phase = .awaitingDraft) :
    ∃ earlier, before = some earlier ∧ earlier.phase = .awaitingDraft := by
  generalize found : some pipeline = outcome at change
  cases change with
  | idle | rejected => exact ⟨pipeline, found.symm, awaiting⟩
  | stale | parked | panicked =>
      cases found
      exact ⟨_, rfl, awaiting⟩
  | @relayed _ wallet result earlier pos input isPrompt about assigned relaying =>
      cases found
      cases phase : earlier.phase <;>
        simp [relayOutput, contribute, phase, Phase.advance, Phase.relay] at awaiting relaying
  | started | verified | drafted =>
      cases found
      cases awaiting
  | orphaned | promptUnanswered | verifyUnanswered | disconnected => cases found
  | _ => cases keeps

/-- Such an event assigns no draft. -/
theorem draftAssignments_of_keepsDrafts (sha256 : Digest)
    (keeps : keepsDrafts stimulus.event = true) {wallet : Wallet}
    (assigned : (next sha256 engine stimulus).draftAssignments requestId = some wallet) :
    engine.draftAssignments requestId = some wallet := by
  rcases stimulus with ⟨registry, event⟩
  cases event with
  | startPipeline target manifest shards maxTokens promptHex promptHash source =>
      simp only [next, startPipeline] at assigned
      split at assigned
      · exact assigned
      · rwa [dispatchShardStep_draftAssignments] at assigned
  | shardResult sender result =>
      rwa [next, handleShardResult_draftAssignments] at assigned
  | draftResult sender result =>
      simp only [next, handleDraftResult] at assigned
      split at assigned
      · have left : (engine.draftAssignments.remove result.requestId) requestId =
            some wallet := by
          split at assigned
          · exact assigned
          · split at assigned
            · exact assigned
            · rwa [dispatchShardStep_draftAssignments] at assigned
        exact (PartialMap.of_remove_eq_some left).2
      · exact assigned
  | dropped ticket => exact assigned
  | disconnect gone => exact (PartialMap.retain_eq_some_iff.mp assigned).1
  | _ => cases keeps

theorem finalizePipeline_pipelines (stored : Bool) :
    (finalizePipeline sha256 target stored engine).pipelines target = none := by
  unfold finalizePipeline
  split
  · assumption
  · split <;> exact PartialMap.remove_self ..

/-- What an acknowledgement for another request leaves. -/
theorem handleKvRollbackAck_draftAssignments_of_ne {ack : OpoiKvRollbackAck} {stored : Bool}
    (ne : requestId ≠ ack.requestId) :
    (handleKvRollbackAck sha256 registry ack stored engine).draftAssignments requestId =
      engine.draftAssignments requestId := by
  unfold handleKvRollbackAck
  split
  · rfl
  · split
    · split
      · split
        · rw [finalizePipeline_draftAssignments]
        · exact (dispatchDraft_of_ne _ _ ne).2
      · rfl
    · rfl

/-- Every guarded event keeps the draft of a request tended. -/
theorem DraftTended.next (tended : engine.DraftTended served requestId)
    (enabled : engine.enabled stimulus)
    (guarded : TendGuard served requestId engine stimulus) :
    (next sha256 engine stimulus).DraftTended served requestId := by
  have change := next_change_sent sha256 enabled requestId
  have waits : keepsDrafts stimulus.event = true → ∀ pipeline,
      (SpeculativeEngine.next sha256 engine stimulus).pipelines requestId = some pipeline →
        pipeline.phase = .awaitingDraft → engine.AwaitsDraft requestId := by
    intro keeps pipeline present awaiting
    rw [present] at change
    exact change.awaiting_kept keeps awaiting
  have fewer : keepsDrafts stimulus.event = true → ∀ wallet,
      (SpeculativeEngine.next sha256 engine stimulus).draftAssignments requestId = some wallet →
        engine.draftAssignments requestId = some wallet :=
    fun keeps wallet => draftAssignments_of_keepsDrafts sha256 keeps
  rcases stimulus with ⟨registry, event⟩
  cases event with
  | tokenized ticket tokenCount =>
      simp only [SpeculativeEngine.next, resumeTokenized]
      cases parked : engine.calls ticket with
      | none => exact tended
      | some call =>
          dsimp only
          cases tokenCount with
          | none =>
              by_cases same : requestId = call.requestId
              · subst same
                intro pipeline wallet present
                cases (PartialMap.remove_self ..).symm.trans present
              · exact tended.of_same (PartialMap.remove_of_ne _ same) rfl
          | some base =>
              dsimp only
              cases present : engine.pipelines call.requestId with
              | none => exact tended.of_same rfl rfl
              | some pipeline =>
                  dsimp only
                  by_cases same : requestId = call.requestId
                  · subst same
                    have counts : engine.Drafts call.requestId (.tokenized ticket (some base))
                      pipeline := .counted parked rfl present
                    apply dispatchDraft_draftTended
                    · intro stored found
                      cases (PartialMap.insert_self ..).symm.trans found
                      exact guarded.drafts pipeline counts
                    · intro stored found
                      cases (PartialMap.insert_self ..).symm.trans found
                      exact guarded.rounds rfl pipeline counts
                  · have others := dispatchDraft_of_ne registry
                      ({ engine with calls := engine.calls.remove ticket }.setPipeline
                        call.requestId (seedRounds pipeline base call.t0)) same
                    exact tended.of_same
                      (others.1.trans (PartialMap.insert_of_ne _ _ same)) others.2
  | kvRollbackAck ack stored =>
      by_cases same : requestId = ack.requestId
      · subst same
        simp only [SpeculativeEngine.next, handleKvRollbackAck]
        cases present : engine.pipelines ack.requestId with
        | none => exact tended
        | some pipeline =>
            dsimp only
            cases awaiting : pipeline.phase with
            | awaitingRollback state =>
                dsimp only
                split
                · rename_i complete
                  cases notFinal : state.isFinalizingRound with
                  | true =>
                      intro later wallet found
                      cases finalizePipeline_pipelines stored |>.symm.trans found
                  | false =>
                      have settles : engine.Drafts ack.requestId (.kvRollbackAck ack stored)
                        pipeline := .settled rfl present awaiting complete notFinal
                      apply dispatchDraft_draftTended
                      · intro later found
                        cases (PartialMap.insert_self ..).symm.trans found
                        exact guarded.drafts pipeline settles
                      · intro later found
                        cases (PartialMap.insert_self ..).symm.trans found
                        exact guarded.rounds rfl pipeline settles
                · intro later wallet found waiting
                  cases (PartialMap.insert_self ..).symm.trans found
                  cases waiting
            | _ => exact tended
      · obtain ⟨_, _, acts, -⟩ : ∃ after emitted, ActsOn ack.requestId engine
            (handleKvRollbackAck sha256 registry ack stored engine) after emitted ∧
            Change sha256 engine ack.requestId ⟨registry, .kvRollbackAck ack stored⟩
              (engine.pipelines ack.requestId) after emitted :=
          handleKvRollbackAck_change ack stored
        exact tended.of_same (acts.pipelines_of_ne same)
          (handleKvRollbackAck_draftAssignments_of_ne same)
  | retryStalledTick stalledShard stalledDraft =>
      rcases enabled with ⟨-, -, nodup, stalled⟩
      have relayed : ∀ reached,
          (retryShards registry reached engine).DraftTended served requestId := by
        intro reached
        apply tended.of_same
        · rw [retryShards_pipelines]
        · rw [retryShards_draftAssignments]
      rcases retryStalledTick_cases registry stalledShard stalledDraft engine with
        ⟨-, dies⟩ | ⟨-, ends⟩
      · simp only [SpeculativeEngine.next, dies]
        exact (relayed _).of_same rfl rfl
      · simp only [SpeculativeEngine.next, ends]
        apply (relayed _).retryDrafts nodup
        · intro mem
          obtain ⟨_, -, -, unassigned⟩ := (stalled requestId).mp mem
          exact unassigned
        · intro mem pipeline present
          obtain ⟨waiting, found, awaiting, unassigned⟩ := (stalled requestId).mp mem
          cases found.symm.trans present
          rw [retryShards_pipelines] at present
          rw [retryShards_draftAssignments] at unassigned
          exact guarded.drafts _ (.retried present awaiting unassigned)
  | _ => exact tended.of_fewer (waits rfl) (fewer rfl)

/-! ## Rollbacks -/

/-- During a wait the observer keeps its lines. -/
theorem addressed_attend {wait : Wait} {state : RollbackState} (sha256 : Digest)
    (stimulus : Stimulus) (awaits : engine.awaited requestId = some state) {shardIndex : Nat}
    {wallet : Wallet} (addressed : wait.Addressed shardIndex wallet) :
    (attend sha256 requestId engine wait stimulus).Addressed shardIndex wallet := by
  rw [attend, awaits, Option.isSome_some, if_pos rfl]
  exact addressed

/-- Where a wallet is picked for the shards and the drafting one is connected,
every pending session is asked. -/
theorem kvRollback_mem_of_pending (requestId : RequestId) {last : Option Wallet}
    {outcome : RoundOutcome} {keepLen kThisRound : Nat} {finalizing : Bool} {shardIndex : Nat}
    {picked drafting : Wallet}
    (next : registry.pickNext last = some picked)
    (pinned : pipeline.draftWallet = some drafting) (connected : registry.Registered drafting)
    (pending : shardIndex ∈
      (rollbackState pipeline outcome keepLen kThisRound finalizing).pending) :
    ∃ wallet tx rollback, (wallet = picked ∨ wallet = drafting) ∧
      .kvRollback wallet tx rollback ∈
        rollbackLines registry requestId pipeline last keepLen finalizing ∧
      rollback.shardIndex = shardIndex := by
  rcases Finset.mem_insert.mp pending with rfl | ofShard
  · rcases connected with ⟨tx, channel⟩
    refine ⟨drafting, tx, ⟨requestId, draftSessionShardIndex, keepLen % 2 ^ 32, false⟩,
      .inr rfl, List.mem_append_right _ ?_, rfl⟩
    simp [pinned, channel]
  · obtain ⟨shard, inShards, rfl⟩ := List.mem_map.mp (List.mem_toFinset.mp ofShard)
    obtain ⟨tx, channel⟩ := (MinerRegistry.eligible_of_pickNext next).1
    refine ⟨picked, tx,
      ⟨requestId, shard.shardIndex, keepLen % 2 ^ 32, finalizing⟩, .inl rfl,
      List.mem_append_left _ ?_, rfl⟩
    rw [List.mem_filterMap]
    exact ⟨shard, inShards, by simp [next, channel]⟩

/-- Every guarded event keeps the rollback of a request tended. -/
theorem RollbackTended.next {wait : Wait}
    (tended : engine.RollbackTended served requestId wait) (enabled : engine.enabled stimulus)
    (guarded : TendGuard served requestId engine stimulus) :
    (next sha256 engine stimulus).RollbackTended served requestId
      (attend sha256 requestId engine wait stimulus) := by
  intro state awaits shardIndex pending
  obtain ⟨later, found, phase⟩ := awaited_eq_some_iff.mp awaits
  have change := next_change_sent sha256 enabled requestId
  have goesOn : ∀ {earlier : SpecPipeline} {before : RollbackState},
      engine.pipelines requestId = some earlier → earlier.phase = .awaitingRollback before →
      shardIndex ∈ before.pending → ∃ wallet,
        (attend sha256 requestId engine wait stimulus).Addressed shardIndex wallet ∧
          served wallet := by
    intro earlier before present was asked
    have waited := awaited_eq_some_iff.mpr ⟨earlier, present, was⟩
    obtain ⟨wallet, addressed, isServed⟩ := tended before waited shardIndex asked
    exact ⟨wallet, addressed_attend sha256 stimulus waited addressed, isServed⟩
  generalize beforeEq : engine.pipelines requestId = before at change
  rw [found] at change
  generalize afterEq : some later = after at change
  generalize effects : sent sha256 engine stimulus requestId = emitted at change
  cases change with
  | idle | rejected => exact goesOn (beforeEq.trans afterEq.symm) phase pending
  | stale | parked | panicked | redispatched | redrafted =>
      cases afterEq
      exact goesOn beforeEq phase pending
  | started | counted | drafted | roundCompleted => cases afterEq; cases phase
  | @relayed registry wallet result earlier pos input isPrompt about assigned relaying =>
      cases afterEq
      cases given : earlier.phase <;>
        simp [relayOutput, contribute, given, Phase.advance, Phase.relay] at phase relaying
  | acked about awaiting left =>
      cases afterEq
      cases phase
      exact goesOn beforeEq awaiting (Finset.mem_of_mem_erase pending)
  | @verified registry wallet result earlier pos input draft logits outcome about assigned
      verifying last answered verified =>
      cases afterEq
      cases phase
      have settles : engine.Settles requestId (.shardResult wallet result) earlier :=
        .verified about assigned beforeEq verifying last answered verified
      rcases guarded.settles earlier settles with
        ⟨⟨picked, next, pickedServed⟩, drafting, pinned, connected, draftingServed⟩
      have resting : engine.awaited requestId = none := by
        simp [awaited, beforeEq, verifying, Phase.rollback]
      have drafts : (contribute wallet earlier).draftWallet = some drafting := pinned
      rcases kvRollback_mem_of_pending requestId next drafts connected pending with
        ⟨recipient, tx, rollback, who, line, same⟩
      refine ⟨recipient, ?_, ?_⟩
      · rw [attend, resting, Option.isSome_none, if_neg (by simp), effects]
        exact ⟨tx, rollback, List.mem_cons_of_mem _ line, same⟩
      · rcases who with rfl | rfl
        · exact pickedServed
        · exact draftingServed
  | _ => cases afterEq

/-! ## All of it -/

theorem Tended.next {wait : Wait} (tended : engine.Tended served requestId wait)
    (enabled : engine.enabled stimulus) (hasShards : HasShards engine stimulus)
    (guarded : TendGuard served requestId engine stimulus) :
    (next sha256 engine stimulus).Tended served requestId
      (attend sha256 requestId engine wait stimulus) where
  placed := fun pipeline present => by
    have change := next_change_sent sha256 enabled requestId
    rw [present] at change
    exact change.placed tended.placed hasShards
  relay := tended.relay.next tended.placed enabled hasShards guarded
  draft := tended.draft.next enabled guarded
  rollback := tended.rollback.next enabled guarded
  pends := tended.pends.next enabled

/-- A handler that is dropped leaves everything that is out. -/
theorem Tended.dropCall {wait : Wait} (tended : engine.Tended served requestId wait)
    (ticket : Ticket) : (dropCall ticket engine).Tended served requestId wait where
  placed := tended.placed
  relay := tended.relay
  draft := tended.draft
  rollback := tended.rollback
  pends := tended.pends

/-- Other wallets may be served, as long as those at work still are. -/
theorem Tended.of_engaged {wait : Wait} (tended : engine.Tended served requestId wait)
    {reachable : Wallet → Prop}
    (engaged : ∀ wallet, engine.Engaged requestId wait wallet → served wallet →
      reachable wallet) : engine.Tended reachable requestId wait where
  placed := tended.placed
  relay := by
    intro pipeline assignment present relaying assigned
    obtain ⟨reached, current⟩ := tended.relay pipeline assignment present relaying assigned
    exact ⟨engaged _ (.relay present relaying assigned rfl) reached, current⟩
  draft := by
    intro pipeline wallet present awaiting assigned
    exact engaged wallet (.draft present awaiting assigned)
      (tended.draft pipeline wallet present awaiting assigned)
  rollback := by
    intro state awaits shardIndex pending
    obtain ⟨wallet, addressed, reached⟩ := tended.rollback state awaits shardIndex pending
    exact ⟨wallet, addressed, engaged wallet (.rollback awaits pending addressed) reached⟩
  pends := tended.pends

/-! ## The tick goes on -/

theorem dispatchPanics_of_placed
    (placed : ∀ pipeline, engine.pipelines requestId = some pipeline → pipeline.Placed) :
    engine.dispatchPanics requestId = false := by
  unfold dispatchPanics
  cases present : engine.pipelines requestId with
  | none => rfl
  | some pipeline =>
      dsimp only
      cases relaying : pipeline.phase.relay with
      | none => rfl
      | some step =>
          rcases step with ⟨pos, currentInput, isPromptProcessing⟩
          have found :=
            (placed pipeline present).within pos currentInput isPromptProcessing relaying
          simp [List.getElem?_eq_getElem found]

@[simp]
theorem dispatchShardStep_ticking (registry : MinerRegistry) (requestId : RequestId)
    (engine : SpeculativeEngine) :
    (dispatchShardStep registry requestId engine).ticking = engine.ticking := by
  unfold dispatchShardStep
  (repeat' split) <;> rfl

@[simp]
theorem dispatchDraft_ticking (registry : MinerRegistry) (requestId : RequestId)
    (engine : SpeculativeEngine) :
    (dispatchDraft registry requestId engine).ticking = engine.ticking := by
  unfold dispatchDraft
  (repeat' split) <;> rfl

theorem retryShards_ticking (registry : MinerRegistry) (stalled : List RequestId)
    (engine : SpeculativeEngine) :
    (retryShards registry stalled engine).ticking = engine.ticking := by
  induction stalled generalizing engine with
  | nil => rfl
  | cons first rest ih => exact (ih _).trans (dispatchShardStep_ticking ..)

theorem retryDrafts_ticking (registry : MinerRegistry) (stalled : List RequestId)
    (engine : SpeculativeEngine) :
    (retryDrafts registry stalled engine).ticking = engine.ticking := by
  induction stalled generalizing engine with
  | nil => rfl
  | cons first rest ih => exact (ih _).trans (dispatchDraft_ticking ..)

/-- While no dispatch panics, the interval task lives on. -/
theorem next_ticking (sha256 : Digest) (stimulus : Stimulus)
    (calm : ∀ other, engine.dispatchPanics other = false) :
    (next sha256 engine stimulus).ticking = engine.ticking := by
  rcases stimulus with ⟨registry, event⟩
  cases event with
  | startPipeline requestId manifest shards maxTokens promptHex promptHash source =>
      simp only [next, startPipeline]
      split
      · rfl
      · exact dispatchShardStep_ticking ..
  | shardResult wallet result =>
      simp only [next, handleShardResult, continueRelay, finishVerifyPass, finishPromptPass,
        beginRollback]
      (repeat' split) <;> simp [emit, setPipeline, dropPipeline]
  | tokenized ticket tokenCount =>
      simp only [next, resumeTokenized]
      (repeat' split) <;> simp [setPipeline, dropPipeline]
  | draftResult wallet result =>
      simp only [next, handleDraftResult]
      (repeat' split) <;> simp [setPipeline]
  | kvRollbackAck ack stored =>
      simp only [next, handleKvRollbackAck, finalizePipeline]
      (repeat' split) <;> simp [setPipeline, dropPipeline]
  | retryStalledTick stalledShard stalledDraft =>
      rcases retryStalledTick_cases registry stalledShard stalledDraft engine with
        ⟨panics, -⟩ | ⟨-, ends⟩
      · obtain ⟨other, -, panicked⟩ := List.any_eq_true.mp panics
        cases panicked.symm.trans (calm other)
      · simp only [next, ends]
        exact (retryDrafts_ticking ..).trans (retryShards_ticking ..)
  | dropped ticket => rfl
  | disconnect wallet => rfl

end SpeculativeEngine

end StratumBridge.Speculative
