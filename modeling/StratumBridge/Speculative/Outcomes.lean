import StratumBridge.Speculative.System

/-!
# The outcomes of an event

Every enabled event changes every request as `Change` lists.  The proofs follow
the entry points; the tick, which acts on many requests in one event, is an
induction over the requests it collected.
-/

namespace StratumBridge.Speculative

open Data Rpc Wire Transition

namespace SpeculativeEngine

variable {sha256 : Digest} {registry : MinerRegistry} {engine : SpeculativeEngine}

/-- An event that acts on one request changes that request and no other. -/
theorem Change.of_actsOn {stimulus : Stimulus} {target : RequestId}
    {after : Option SpecPipeline} {emitted : List Effect} {result : SpeculativeEngine}
    (acts : ActsOn target engine result after emitted)
    (change : Change sha256 engine target stimulus (engine.pipelines target) after emitted)
    (requestId : RequestId) :
    ∃ emitted, result.history requestId = engine.history requestId ++ emitted ∧
      Change sha256 engine requestId stimulus (engine.pipelines requestId)
        (result.pipelines requestId) emitted := by
  by_cases same : requestId = target
  · subst same
    exact ⟨emitted, acts.history_self, by rw [acts.pipelines_self]; exact change⟩
  · refine ⟨[], by rw [acts.history_of_ne same, List.append_nil], ?_⟩
    rw [acts.pipelines_of_ne same]
    exact .idle

/-- Storing a pipeline acts on its request. -/
theorem setPipeline_actsOn (engine : SpeculativeEngine) (requestId : RequestId)
    (pipeline : SpecPipeline) :
    ActsOn requestId engine (engine.setPipeline requestId pipeline) (some pipeline) [] :=
  ⟨rfl, (List.append_nil _).symm, about_nil⟩

theorem startPipeline_change (sha256 : Digest) (registry : MinerRegistry) (requestId : RequestId)
    (manifest : ModelManifest)
    (shards : List ShardDescriptor) (maxTokens : UInt32) (promptHex promptHash : String)
    (source : ModelSource) :
    ∃ after emitted,
      ActsOn requestId engine (startPipeline registry requestId manifest shards maxTokens
        promptHex promptHash source engine) after emitted ∧
      Change sha256 engine requestId
        ⟨registry, .startPipeline requestId manifest shards maxTokens promptHex promptHash source⟩
        (engine.pipelines requestId) after emitted := by
  unfold startPipeline
  cases configured : engine.draftSources manifest.modelId with
  | none => exact ⟨_, _, ActsOn.refl requestId engine, .idle⟩
  | some draftSource =>
      let pipeline :=
        initialPipeline manifest shards maxTokens promptHex promptHash source draftSource
      have stored : ActsOn requestId engine
          ((engine.setPipeline requestId pipeline).emit [.started requestId]) (some pipeline)
          [.started requestId] :=
        ⟨rfl, rfl, about_singleton rfl⟩
      exact ⟨_, _, stored.trans (dispatchShardStep_actsOn registry stored.pipelines_self),
        .started configured⟩

theorem dropPipeline_actsOn (engine : SpeculativeEngine) (requestId : RequestId) :
    ActsOn requestId engine (engine.dropPipeline requestId) none [.dropped requestId] :=
  ⟨rfl, rfl, about_singleton rfl⟩

/-- Emitting acts on the request the effects are about. -/
theorem emit_actsOn (engine : SpeculativeEngine) {requestId : RequestId} {effects : List Effect}
    (about : About Effect.requestId requestId effects) :
    ActsOn requestId engine (engine.emit effects) (engine.pipelines requestId) effects :=
  ⟨(Function.update_eq_self requestId engine.pipelines).symm, rfl, about⟩

theorem beginRollback_actsOn (registry : MinerRegistry) {requestId : RequestId}
    {pipeline : SpecPipeline}
    (present : engine.pipelines requestId = some pipeline) (outcome : RoundOutcome)
    (keepLen kThisRound : Nat) (finalizing : Bool) :
    ActsOn requestId engine
      (beginRollback registry requestId outcome keepLen kThisRound finalizing engine)
      (some { pipeline with
        phase := .awaitingRollback
          (rollbackState pipeline outcome keepLen kThisRound finalizing) })
      (rollbackLines registry requestId pipeline engine.lastShardWallet keepLen finalizing) := by
  simp only [beginRollback, present]
  exact ⟨rfl, rfl, about_rollbackLines _ _ _ _ _ _⟩

/-- The part of `handleShardResult` after a result was accepted and counted,
as seen from the engine before it. -/
theorem continueRelay_change (sha256 : Digest) (registry : MinerRegistry)
    {counted : SpeculativeEngine} {wallet : Wallet}
    {result : OpoiShardResult} {pipeline : SpecPipeline}
    (assigned : engine.shardAssignments result.requestId = some ⟨wallet, result.shardIndex⟩)
    (stored : counted.pipelines result.requestId = some (contribute wallet pipeline))
    (cursor : counted.lastShardWallet = engine.lastShardWallet) :
    ∃ after emitted,
      ActsOn result.requestId counted
        (continueRelay registry result.requestId (contribute wallet pipeline) result counted)
        after emitted ∧
      Change sha256 engine result.requestId ⟨registry, .shardResult wallet result⟩
        (some pipeline) after (.accepted wallet result :: emitted) := by
  unfold continueRelay
  cases relaying : (contribute wallet pipeline).phase.relay with
  | none =>
      refine ⟨_, [], ActsOn.refl result.requestId counted, ?_⟩
      rw [stored]
      exact .stale rfl assigned relaying
  | some step =>
      obtain ⟨pos, currentInput, isPromptProcessing⟩ := step
      dsimp only
      by_cases last : pos + 1 = (contribute wallet pipeline).shards.length
      · rw [if_pos last]
        cases phase : pipeline.phase with
        | promptProcessing phasePos phaseInput =>
            have samePos : phasePos = pos := by
              have seen :
                  (phasePos, phaseInput, true) = (pos, currentInput, isPromptProcessing) := by
                simpa [contribute, phase, Phase.relay] using relaying
              exact (Prod.ext_iff.mp seen).1
            subst samePos
            simp only [contribute, phase, finishPromptPass]
            cases answered : result.nextTokenId with
            | none =>
                exact ⟨_, _, dropPipeline_actsOn _ _,
                  .promptUnanswered rfl assigned phase last answered⟩
            | some t0 =>
                refine ⟨some (contribute wallet pipeline), [], ?_,
                  .parked rfl assigned phase last answered⟩
                rw [← stored]
                exact ⟨(Function.update_eq_self ..).symm, (List.append_nil _).symm, about_nil⟩
        | verifying phasePos phaseInput draft =>
            have samePos : phasePos = pos := by
              have seen :
                  (phasePos, phaseInput, false) = (pos, currentInput, isPromptProcessing) := by
                simpa [contribute, phase, Phase.relay] using relaying
              exact (Prod.ext_iff.mp seen).1
            subst samePos
            have phase' :
                (contribute wallet pipeline).phase = .verifying phasePos phaseInput draft := phase
            rw [phase']
            simp only [finishVerifyPass]
            cases answered : result.nextTokenIds with
            | none =>
                exact ⟨_, _, dropPipeline_actsOn _ _,
                  .verifyUnanswered rfl assigned phase last answered⟩
            | some logits =>
                dsimp only
                cases verified : greedyVerifyRound (contribute wallet pipeline).carry
                    (contribute wallet pipeline).expected0 draft logits with
                | none =>
                    refine ⟨_, _, emit_actsOn _ (about_singleton rfl), ?_⟩
                    rw [stored]
                    exact .panicked rfl assigned phase last answered verified
                | some outcome =>
                    have recorded := setPipeline_actsOn counted result.requestId
                      (recordOutcome (contribute wallet pipeline) draft outcome)
                    have rolled := beginRollback_actsOn registry
                      recorded.pipelines_self outcome
                      (kvKeepLen pipeline.base pipeline.carry outcome.acceptedCount) draft.length
                      (isFinalizingRound pipeline.base outcome.acceptedCount pipeline.maxTokens)
                    refine ⟨_, _, recorded.trans rolled, ?_⟩
                    have change : Change sha256 engine result.requestId
                        ⟨registry, .shardResult wallet result⟩ (some pipeline) _ _ :=
                      .verified rfl assigned phase last answered verified
                    rw [← cursor] at change
                    exact change
        | awaitingDraft => simp [contribute, phase, Phase.relay] at relaying
        | awaitingRollback state => simp [contribute, phase, Phase.relay] at relaying
      · rw [if_neg last]
        have relayed := setPipeline_actsOn counted result.requestId
          (relayOutput (contribute wallet pipeline) result)
        refine ⟨_, _, relayed.trans (dispatchShardStep_actsOn registry relayed.pipelines_self), ?_⟩
        have relayingBefore : pipeline.phase.relay =
            some (pos, currentInput, isPromptProcessing) := relaying
        have change : Change sha256 engine result.requestId
            ⟨registry, .shardResult wallet result⟩ (some pipeline) _ _ :=
          .relayed rfl assigned relayingBefore last
        rw [← cursor] at change
        exact change

theorem handleShardResult_change (wallet : Wallet) (result : OpoiShardResult) :
    ∃ after emitted,
      ActsOn result.requestId engine (handleShardResult registry wallet result engine) after
        emitted ∧
      Change sha256 engine result.requestId ⟨registry, .shardResult wallet result⟩
        (engine.pipelines result.requestId) after emitted := by
  unfold handleShardResult
  cases found : engine.shardAssignments result.requestId with
  | none => exact ⟨_, _, emit_actsOn _ (about_singleton rfl), .rejected rfl⟩
  | some assignment =>
      dsimp only
      by_cases mine : assignment.wallet = wallet ∧ assignment.shardIndex = result.shardIndex
      · rw [if_pos mine]
        have assigned : engine.shardAssignments result.requestId =
            some ⟨wallet, result.shardIndex⟩ := by
          rw [found, ← mine.1, ← mine.2]
        let taken : SpeculativeEngine :=
          { engine with
            shardAssignments := engine.shardAssignments.remove result.requestId
            log := engine.log ++ [.accepted wallet result] }
        have accepts : ActsOn result.requestId engine taken
            (engine.pipelines result.requestId) [.accepted wallet result] :=
          ⟨(Function.update_eq_self ..).symm, rfl, about_singleton rfl⟩
        cases present : engine.pipelines result.requestId with
        | none =>
            rw [present] at accepts
            have rejects : ActsOn result.requestId taken _ _
                [.rejected wallet result.requestId .unknownRequest] :=
              emit_actsOn taken (about_singleton rfl)
            rw [accepts.pipelines_self] at rejects
            exact ⟨_, _, accepts.trans rejects, .orphaned rfl assigned⟩
        | some pipeline =>
            have counts := accepts.trans
              (setPipeline_actsOn _ result.requestId (contribute wallet pipeline))
            obtain ⟨after, emitted, acts, change⟩ :=
              continueRelay_change sha256 registry assigned counts.pipelines_self rfl
            exact ⟨after, _, counts.trans acts, change⟩
      · rw [if_neg mine]
        exact ⟨_, _, emit_actsOn _ (about_singleton rfl), .rejected rfl⟩

theorem resumeTokenized_change {ticket : Ticket} {call : TokenizeCall}
    (parked : engine.calls ticket = some call) (tokenCount : Option Nat) :
    ∃ after emitted,
      ActsOn call.requestId engine (resumeTokenized registry ticket tokenCount engine) after
        emitted ∧
      Change sha256 engine call.requestId ⟨registry, .tokenized ticket tokenCount⟩
        (engine.pipelines call.requestId) after emitted := by
  let resumed : SpeculativeEngine := { engine with calls := engine.calls.remove ticket }
  have removes : ActsOn call.requestId engine resumed (engine.pipelines call.requestId) [] :=
    ⟨(Function.update_eq_self ..).symm, (List.append_nil _).symm, about_nil⟩
  simp only [resumeTokenized, parked]
  cases tokenCount with
  | none =>
      exact ⟨_, _, removes.trans (dropPipeline_actsOn resumed _), .uncounted parked rfl⟩
  | some base =>
      dsimp only
      cases present : engine.pipelines call.requestId with
      | none =>
          rw [present] at removes
          exact ⟨_, _, removes, .idle⟩
      | some pipeline =>
          have seeds := removes.trans
            (setPipeline_actsOn _ call.requestId (seedRounds pipeline base call.t0))
          exact ⟨_, _, seeds.trans (dispatchDraft_actsOn registry seeds.pipelines_self rfl),
            .counted parked rfl⟩

theorem handleDraftResult_change (wallet : Wallet) (result : OpoiDraftResult) :
    ∃ after emitted,
      ActsOn result.requestId engine (handleDraftResult registry wallet result engine) after
        emitted ∧
      Change sha256 engine result.requestId ⟨registry, .draftResult wallet result⟩
        (engine.pipelines result.requestId) after emitted := by
  unfold handleDraftResult
  by_cases assigned : engine.draftAssignments result.requestId = some wallet
  · rw [if_pos assigned]
    let taken : SpeculativeEngine :=
      { engine with draftAssignments := engine.draftAssignments.remove result.requestId }
    have takes : ActsOn result.requestId engine taken (engine.pipelines result.requestId) [] :=
      ⟨(Function.update_eq_self ..).symm, (List.append_nil _).symm, about_nil⟩
    by_cases empty : result.draftTokenIds = []
    · simp only [empty, if_true]
      exact ⟨_, _, takes, .idle⟩
    · simp only [empty, if_false]
      cases present : engine.pipelines result.requestId with
      | none =>
          rw [present] at takes
          exact ⟨_, _, takes, .idle⟩
      | some pipeline =>
          have drafts := takes.trans
            (setPipeline_actsOn _ result.requestId (beginVerify pipeline result.draftTokenIds))
          exact ⟨_, _, drafts.trans (dispatchShardStep_actsOn registry drafts.pipelines_self),
            .drafted rfl assigned empty⟩
  · rw [if_neg assigned]
    exact ⟨_, _, ActsOn.refl _ _, .idle⟩

/-- A finished pipeline leaves the map, with its row or without a winner. -/
theorem finalizePipeline_actsOn (sha256 : Digest) {requestId : RequestId} {pipeline : SpecPipeline}
    (present : engine.pipelines requestId = some pipeline) (stored : Bool) :
    ∃ after emitted,
      ActsOn requestId engine (finalizePipeline sha256 requestId stored engine) after emitted ∧
      (pipeline.contributions.winner = none ∧ after = none ∧
          emitted = [.dropped requestId] ∨
        ∃ wallet, pipeline.contributions.winner = some wallet ∧ after = none ∧
          emitted =
            [.createSubmission (finalRow sha256 requestId pipeline wallet) stored]) := by
  simp only [finalizePipeline, present]
  cases winner : pipeline.contributions.winner with
  | none => exact ⟨_, _, dropPipeline_actsOn _ requestId, .inl ⟨rfl, rfl, rfl⟩⟩
  | some wallet =>
      exact ⟨none, _, ⟨rfl, rfl, about_singleton rfl⟩, .inr ⟨wallet, rfl, rfl, rfl⟩⟩

theorem handleKvRollbackAck_change (ack : OpoiKvRollbackAck) (stored : Bool) :
    ∃ after emitted,
      ActsOn ack.requestId engine (handleKvRollbackAck sha256 registry ack stored engine) after
        emitted ∧
      Change sha256 engine ack.requestId ⟨registry, .kvRollbackAck ack stored⟩
        (engine.pipelines ack.requestId) after emitted := by
  unfold handleKvRollbackAck
  cases present : engine.pipelines ack.requestId with
  | none => exact ⟨_, _, ActsOn.refl _ _, by rw [present]; exact .idle⟩
  | some pipeline =>
      dsimp only
      cases phase : pipeline.phase with
      | awaitingRollback state =>
          let noted : SpeculativeEngine :=
            { engine with
              pipelines := engine.pipelines.insert ack.requestId
                (acknowledge pipeline state ack.shardIndex)
              log := engine.log ++ ackSubmission ack.requestId state ack }
          have notes : ActsOn ack.requestId engine noted
              (some (acknowledge pipeline state ack.shardIndex))
              (ackSubmission ack.requestId state ack) :=
            ⟨rfl, rfl, about_ackSubmission _ _ _⟩
          by_cases complete : state.pending.erase ack.shardIndex = ∅
          · simp only [complete, if_true]
            cases final : state.isFinalizingRound with
            | true =>
                simp only [if_true]
                obtain ⟨after, emitted, acts, ended⟩ :=
                  finalizePipeline_actsOn sha256 notes.pipelines_self stored
                refine ⟨_, _, notes.trans acts, ?_⟩
                rcases ended with ⟨noWinner, rfl, rfl⟩ | ⟨wallet, winner, rfl, rfl⟩
                · exact .unattributed rfl phase complete final noWinner
                · exact .finalized rfl phase complete final winner
            | false =>
                have rounds := notes.trans
                  (setPipeline_actsOn _ ack.requestId (nextRound pipeline state))
                rw [List.append_nil] at rounds
                exact ⟨_, _, rounds.trans (dispatchDraft_actsOn registry rounds.pipelines_self rfl),
                  .roundCompleted rfl phase complete final⟩
          · simp only [complete, if_false]
            exact ⟨_, _, notes, .acked rfl phase (Finset.nonempty_iff_ne_empty.mpr complete)⟩
      | promptProcessing pos currentInput =>
          exact ⟨_, _, ActsOn.refl _ _, by rw [present]; exact .idle⟩
      | awaitingDraft => exact ⟨_, _, ActsOn.refl _ _, by rw [present]; exact .idle⟩
      | verifying pos currentInput draft =>
          exact ⟨_, _, ActsOn.refl _ _, by rw [present]; exact .idle⟩

/-! ### Draft assignments -/

@[simp]
theorem dispatchShardStep_draftAssignments (registry : MinerRegistry) (requestId : RequestId)
    (engine : SpeculativeEngine) :
    (dispatchShardStep registry requestId engine).draftAssignments = engine.draftAssignments := by
  unfold dispatchShardStep
  (repeat' split) <;> rfl

@[simp]
theorem beginRollback_draftAssignments (registry : MinerRegistry) (requestId : RequestId)
    (outcome : RoundOutcome) (keepLen kThisRound : Nat) (finalizing : Bool)
    (engine : SpeculativeEngine) :
    (beginRollback registry requestId outcome keepLen kThisRound finalizing
      engine).draftAssignments = engine.draftAssignments := by
  unfold beginRollback
  split <;> rfl

@[simp]
theorem finalizePipeline_draftAssignments (sha256 : Digest) (requestId : RequestId)
    (stored : Bool) (engine : SpeculativeEngine) :
    (finalizePipeline sha256 requestId stored engine).draftAssignments =
      engine.draftAssignments := by
  unfold finalizePipeline
  (repeat' split) <;> rfl

@[simp]
theorem handleShardResult_draftAssignments (registry : MinerRegistry) (wallet : Wallet)
    (result : OpoiShardResult) (engine : SpeculativeEngine) :
    (handleShardResult registry wallet result engine).draftAssignments =
      engine.draftAssignments := by
  simp only [handleShardResult, continueRelay, finishVerifyPass, finishPromptPass]
  (repeat' split) <;> simp [emit, setPipeline, dropPipeline]

@[simp]
theorem retryShards_draftAssignments (registry : MinerRegistry) (stalled : List RequestId)
    (engine : SpeculativeEngine) :
    (retryShards registry stalled engine).draftAssignments = engine.draftAssignments := by
  induction stalled generalizing engine with
  | nil => rfl
  | cons first rest ih =>
      exact (ih (dispatchShardStep registry first engine)).trans
        (dispatchShardStep_draftAssignments ..)

/-! ### The tick and the disconnect

These two act on many requests at once.
-/

@[simp]
theorem dispatchShardStep_pipelines (registry : MinerRegistry) (requestId : RequestId)
    (engine : SpeculativeEngine) :
    (dispatchShardStep registry requestId engine).pipelines = engine.pipelines := by
  cases present : engine.pipelines requestId with
  | none => simp [dispatchShardStep, present]
  | some pipeline =>
      rw [(dispatchShardStep_actsOn registry present).pipelines, ← present,
        Function.update_eq_self]

@[simp]
theorem retryShards_pipelines (registry : MinerRegistry) (stalled : List RequestId)
    (engine : SpeculativeEngine) :
    (retryShards registry stalled engine).pipelines = engine.pipelines := by
  induction stalled generalizing engine with
  | nil => rfl
  | cons first rest ih =>
      have later := ih (dispatchShardStep registry first engine)
      rw [dispatchShardStep_pipelines] at later
      exact later

/-- Requests that are not collected are left alone by the first loop. -/
theorem history_retryShards_of_notMem (registry : MinerRegistry) {stalled : List RequestId}
    {requestId : RequestId}
    (notMem : requestId ∉ stalled) (engine : SpeculativeEngine)
    (live : ∀ other ∈ stalled, engine.pipelines other ≠ none) :
    (retryShards registry stalled engine).history requestId = engine.history requestId := by
  induction stalled generalizing engine with
  | nil => rfl
  | cons first rest ih =>
      rw [List.mem_cons, not_or] at notMem
      obtain ⟨pipeline, present⟩ := Option.ne_none_iff_exists'.mp (live first List.mem_cons_self)
      have dispatched := dispatchShardStep_actsOn registry present
      have later := ih notMem.2 (dispatchShardStep registry first engine) (by
        intro other mem
        rw [dispatchShardStep_pipelines]
        exact live other (List.mem_cons_of_mem _ mem))
      exact later.trans (dispatched.history_of_ne notMem.1)

/-- A collected request is dispatched once by the first loop. -/
theorem history_retryShards_of_mem (registry : MinerRegistry) {stalled : List RequestId}
    {requestId : RequestId}
    {pipeline : SpecPipeline} (mem : requestId ∈ stalled) (nodup : stalled.Nodup)
    (engine : SpeculativeEngine) (live : ∀ other ∈ stalled, engine.pipelines other ≠ none)
    (present : engine.pipelines requestId = some pipeline) :
    ∃ last, (retryShards registry stalled engine).history requestId =
      engine.history requestId ++ stepLines registry last requestId pipeline := by
  induction stalled generalizing engine with
  | nil => simp at mem
  | cons first rest ih =>
      rw [List.nodup_cons] at nodup
      obtain ⟨firstPipeline, firstPresent⟩ :=
        Option.ne_none_iff_exists'.mp (live first List.mem_cons_self)
      have dispatched := dispatchShardStep_actsOn registry firstPresent
      have restLive : ∀ other ∈ rest,
          (dispatchShardStep registry first engine).pipelines other ≠ none := by
        intro other otherMem
        rw [dispatchShardStep_pipelines]
        exact live other (List.mem_cons_of_mem _ otherMem)
      by_cases same : requestId = first
      · subst same
        rw [present] at firstPresent
        cases firstPresent
        have later := history_retryShards_of_notMem registry nodup.1 _ restLive
        exact ⟨engine.lastShardWallet, later.trans dispatched.history_self⟩
      · obtain ⟨last, later⟩ := ih ((List.mem_cons.mp mem).resolve_left same) nodup.2 _ restLive
          (by rw [dispatchShardStep_pipelines]; exact present)
        rw [dispatched.history_of_ne same] at later
        exact ⟨last, later⟩

/-- The engine's requests after the second loop: each collected one is drafted
once, the others are left alone. -/
theorem retryDrafts_cases (registry : MinerRegistry) {stalled : List RequestId}
    (nodup : stalled.Nodup)
    (engine : SpeculativeEngine)
    (live : ∀ other ∈ stalled, ∃ pipeline, engine.pipelines other = some pipeline ∧
      pipeline.phase = .awaitingDraft) (requestId : RequestId) :
    (requestId ∉ stalled →
      (retryDrafts registry stalled engine).pipelines requestId = engine.pipelines requestId ∧
      (retryDrafts registry stalled engine).history requestId = engine.history requestId) ∧
    (∀ pipeline, requestId ∈ stalled → engine.pipelines requestId = some pipeline →
      (retryDrafts registry stalled engine).pipelines requestId =
        some (repin registry pipeline) ∧
      (retryDrafts registry stalled engine).history requestId =
        engine.history requestId ++ draftLines registry requestId pipeline) := by
  induction stalled generalizing engine with
  | nil => simp [retryDrafts]
  | cons first rest ih =>
      rw [List.nodup_cons] at nodup
      obtain ⟨firstPipeline, firstPresent, firstAwaiting⟩ := live first List.mem_cons_self
      have drafted := dispatchDraft_actsOn registry firstPresent firstAwaiting
      have restLive : ∀ other ∈ rest, ∃ pipeline,
          (dispatchDraft registry first engine).pipelines other = some pipeline ∧
            pipeline.phase = .awaitingDraft := by
        intro other otherMem
        have ne : other ≠ first := fun same => nodup.1 (same ▸ otherMem)
        rw [drafted.pipelines_of_ne ne]
        exact live other (List.mem_cons_of_mem _ otherMem)
      have later := ih nodup.2 (dispatchDraft registry first engine) restLive
      constructor
      · intro notMem
        rw [List.mem_cons, not_or] at notMem
        rw [← drafted.pipelines_of_ne notMem.1, ← drafted.history_of_ne notMem.1]
        exact later.1 notMem.2
      · intro pipeline mem present
        by_cases same : requestId = first
        · subst same
          rw [present] at firstPresent
          cases firstPresent
          rw [← drafted.pipelines_self, ← drafted.history_self]
          exact later.1 nodup.1
        · rw [← drafted.pipelines_of_ne same] at present
          rw [← drafted.history_of_ne same]
          exact later.2 pipeline ((List.mem_cons.mp mem).resolve_left same) present

theorem reached_prefix (engine : SpeculativeEngine) (stalled : List RequestId) :
    engine.reached stalled <+: stalled := by
  induction stalled with
  | nil => exact List.nil_prefix
  | cons first rest ih =>
      rw [reached]
      split
      · exact (List.prefix_cons_inj first).mpr List.nil_prefix
      · exact (List.prefix_cons_inj first).mpr ih

theorem reached_of_calm {stalled : List RequestId}
    (calm : stalled.any engine.dispatchPanics = false) : engine.reached stalled = stalled := by
  induction stalled with
  | nil => rfl
  | cons first rest ih =>
      rw [List.any_cons, Bool.or_eq_false_iff] at calm
      rw [reached, if_neg (by simp [calm.1]), ih calm.2]

/-- A tick dies in its first loop, or comes to the end of both. -/
theorem retryStalledTick_cases (registry : MinerRegistry)
    (stalledShard stalledDraft : List RequestId) (engine : SpeculativeEngine) :
    stalledShard.any engine.dispatchPanics = true ∧
      retryStalledTick registry stalledShard stalledDraft engine =
        { retryShards registry (engine.reached stalledShard) engine with ticking := false } ∨
    stalledShard.any engine.dispatchPanics = false ∧
      retryStalledTick registry stalledShard stalledDraft engine =
        retryDrafts registry stalledDraft (retryShards registry stalledShard engine) := by
  unfold retryStalledTick
  cases panics : stalledShard.any engine.dispatchPanics with
  | true => exact .inl ⟨rfl, rfl⟩
  | false =>
      rw [reached_of_calm panics]
      exact .inr ⟨rfl, rfl⟩

/-- The first loop dispatches the requests it comes to, and leaves the others alone. -/
theorem retryShards_change {stalledShard stalledDraft reached : List RequestId}
    (nodup : reached.Nodup) (stalled : ∀ other ∈ reached, engine.StalledShard other)
    (requestId : RequestId) :
    ∃ emitted, (retryShards registry reached engine).history requestId =
        engine.history requestId ++ emitted ∧
      Change sha256 engine requestId ⟨registry, .retryStalledTick stalledShard stalledDraft⟩
        (engine.pipelines requestId) (engine.pipelines requestId) emitted := by
  have live : ∀ other ∈ reached, engine.pipelines other ≠ none := by
    intro other mem
    obtain ⟨pipeline, present, -⟩ := stalled other mem
    simp [present]
  by_cases among : requestId ∈ reached
  · obtain ⟨pipeline, present, -⟩ := stalled requestId among
    obtain ⟨last, dispatched⟩ := history_retryShards_of_mem registry among nodup engine live present
    refine ⟨_, dispatched, ?_⟩
    rw [present]
    exact .redispatched (stalled requestId among)
  · refine ⟨[], ?_, .idle⟩
    rw [List.append_nil]
    exact history_retryShards_of_notMem registry among engine live

theorem retryStalledTick_change {stalledShard stalledDraft : List RequestId}
    (walks : enabled engine ⟨registry, .retryStalledTick stalledShard stalledDraft⟩)
    (requestId : RequestId) :
    ∃ emitted,
      (retryStalledTick registry stalledShard stalledDraft engine).history requestId =
        engine.history requestId ++ emitted ∧
      Change sha256 engine requestId ⟨registry, .retryStalledTick stalledShard stalledDraft⟩
        (engine.pipelines requestId)
        ((retryStalledTick registry stalledShard stalledDraft engine).pipelines requestId)
        emitted := by
  obtain ⟨-, ⟨shardNodup, shardMem⟩, draftNodup, draftMem⟩ := walks
  rcases retryStalledTick_cases registry stalledShard stalledDraft engine with
    ⟨-, dies⟩ | ⟨-, ends⟩
  · have sublist := (engine.reached_prefix stalledShard).sublist
    rw [dies]
    show ∃ emitted, (retryShards registry (engine.reached stalledShard) engine).history requestId =
      _ ∧ Change _ _ _ _ _
        ((retryShards registry (engine.reached stalledShard) engine).pipelines requestId) _
    rw [retryShards_pipelines]
    exact retryShards_change (shardNodup.sublist sublist)
      (fun other mem => (shardMem other).mp (sublist.subset mem)) requestId
  · rw [ends]
    have draftLive : ∀ other ∈ stalledDraft, ∃ pipeline,
        (retryShards registry stalledShard engine).pipelines other = some pipeline ∧
          pipeline.phase = .awaitingDraft := by
      intro other mem
      obtain ⟨pipeline, present, awaiting, -⟩ := (draftMem other).mp mem
      exact ⟨pipeline, present, awaiting⟩
    obtain ⟨left, drafted⟩ := retryDrafts_cases registry draftNodup _ draftLive requestId
    rw [retryShards_pipelines] at left drafted
    by_cases inDrafts : requestId ∈ stalledDraft
    · obtain ⟨pipeline, present, awaiting, unassigned⟩ := (draftMem requestId).mp inDrafts
      rw [retryShards_pipelines] at present
      rw [retryShards_draftAssignments] at unassigned
      have notShard : requestId ∉ stalledShard := by
        intro inShards
        obtain ⟨other, otherPresent, relaying, -⟩ := (shardMem requestId).mp inShards
        cases present.symm.trans otherPresent
        exact relaying (by rw [awaiting]; rfl)
      have untouched := history_retryShards_of_notMem registry notShard engine (by
        intro other mem
        obtain ⟨otherPipeline, otherPresent, -⟩ := (shardMem other).mp mem
        simp [otherPresent])
      obtain ⟨pinned, lines⟩ := drafted pipeline inDrafts present
      refine ⟨_, by rw [← untouched]; exact lines, ?_⟩
      rw [pinned, present]
      exact .redrafted awaiting unassigned
    · rw [(left inDrafts).1, (left inDrafts).2]
      exact retryShards_change shardNodup (fun other => (shardMem other).mp) requestId

theorem onDisconnect_change (wallet : Wallet) (requestId : RequestId) :
    ∃ emitted, (onDisconnect wallet engine).history requestId =
        engine.history requestId ++ emitted ∧
      Change sha256 engine requestId ⟨registry, .disconnect wallet⟩
        (engine.pipelines requestId) ((onDisconnect wallet engine).pipelines requestId)
        emitted := by
  refine ⟨[], (List.append_nil _).symm, ?_⟩
  cases present : engine.pipelines requestId with
  | none =>
      have absent : (onDisconnect wallet engine).pipelines requestId = none :=
        PartialMap.retain_eq_none_of_eq_none present
      rw [absent]
      exact .idle
  | some pipeline =>
      by_cases pinned : pipeline.draftWallet = some wallet
      · have lost : (onDisconnect wallet engine).pipelines requestId = none := by
          simp [onDisconnect, PartialMap.retain_apply, present, pinned]
        rw [lost]
        exact .disconnected pinned
      · have kept : (onDisconnect wallet engine).pipelines requestId = some pipeline := by
          simp [onDisconnect, present, pinned]
        rw [kept]
        exact .idle

/-- The inversion rule: one enabled event leaves every request as some outcome
of `Change` says. -/
theorem next_change (sha256 : Digest) {stimulus : Stimulus} (enabled : engine.enabled stimulus)
    (requestId : RequestId) :
    ∃ emitted, (next sha256 engine stimulus).history requestId =
        engine.history requestId ++ emitted ∧
      Change sha256 engine requestId stimulus (engine.pipelines requestId)
        ((next sha256 engine stimulus).pipelines requestId) emitted := by
  obtain ⟨registry, event⟩ := stimulus
  cases event with
  | startPipeline target manifest shards maxTokens promptHex promptHash source =>
      obtain ⟨_, _, acts, change⟩ := startPipeline_change sha256 registry target
        manifest shards maxTokens promptHex promptHash source
      exact change.of_actsOn acts requestId
  | shardResult wallet result =>
      obtain ⟨_, _, acts, change⟩ := handleShardResult_change wallet result
      exact change.of_actsOn acts requestId
  | tokenized ticket tokenCount =>
      obtain ⟨call, parked⟩ := Option.ne_none_iff_exists'.mp enabled
      obtain ⟨_, _, acts, change⟩ := resumeTokenized_change parked tokenCount
      exact change.of_actsOn acts requestId
  | dropped ticket => exact ⟨[], (List.append_nil _).symm, .idle⟩
  | draftResult wallet result =>
      obtain ⟨_, _, acts, change⟩ := handleDraftResult_change wallet result
      exact change.of_actsOn acts requestId
  | kvRollbackAck ack stored =>
      obtain ⟨_, _, acts, change⟩ := handleKvRollbackAck_change ack stored
      exact change.of_actsOn acts requestId
  | retryStalledTick stalledShard stalledDraft => exact retryStalledTick_change enabled requestId
  | disconnect wallet => exact onDisconnect_change wallet requestId

/-- The inversion rule for the effects an event adds. -/
theorem next_change_sent (sha256 : Digest) {stimulus : Stimulus}
    (enabled : engine.enabled stimulus) (requestId : RequestId) :
    Change sha256 engine requestId stimulus (engine.pipelines requestId)
      ((next sha256 engine stimulus).pipelines requestId)
      (sent sha256 engine stimulus requestId) := by
  obtain ⟨emitted, extended, change⟩ := next_change sha256 enabled requestId
  rw [sent, extended, List.drop_left]
  exact change

/-! ### Requests that wait for a draft -/

/-- The request waits for a draft. -/
def AwaitsDraft (engine : SpeculativeEngine) (requestId : RequestId) : Prop :=
  ∃ pipeline, engine.pipelines requestId = some pipeline ∧ pipeline.phase = .awaitingDraft

/-- Whatever a draft dispatch assigns waits for a draft, and so does what
waited before. -/
theorem dispatchDraft_draftAssignments {target requestId : RequestId} {wallet : Wallet}
    (assigned : (dispatchDraft registry target engine).draftAssignments requestId = some wallet) :
    (dispatchDraft registry target engine).AwaitsDraft requestId ∨
      engine.draftAssignments requestId = some wallet := by
  cases present : engine.pipelines target with
  | none =>
      right
      simpa [dispatchDraft, present] using assigned
  | some pipeline =>
      cases phase : pipeline.phase with
      | awaitingDraft =>
          by_cases same : requestId = target
          · subst same
            have acts := dispatchDraft_actsOn registry present phase
            exact .inl ⟨_, acts.pipelines_self, phase⟩
          · right
            simp only [dispatchDraft, present, phase, Phase.isAwaitingDraft, if_true] at assigned
            split at assigned
            · exact assigned
            · split at assigned
              · exact assigned
              · simpa [same] using assigned
      | promptProcessing pos currentInput =>
          right
          simpa [dispatchDraft, present, phase, Phase.isAwaitingDraft] using assigned
      | verifying pos currentInput draft =>
          right
          simpa [dispatchDraft, present, phase, Phase.isAwaitingDraft] using assigned
      | awaitingRollback state =>
          right
          simpa [dispatchDraft, present, phase, Phase.isAwaitingDraft] using assigned

/-- A draft dispatch keeps waiting requests waiting. -/
theorem AwaitsDraft.dispatchDraft {requestId : RequestId} (waits : engine.AwaitsDraft requestId)
    (target : RequestId) : (dispatchDraft registry target engine).AwaitsDraft requestId := by
  obtain ⟨pipeline, present, awaiting⟩ := waits
  by_cases same : requestId = target
  · subst same
    have acts := dispatchDraft_actsOn registry present awaiting
    exact ⟨_, acts.pipelines_self, awaiting⟩
  · refine ⟨pipeline, ?_, awaiting⟩
    cases targetPresent : engine.pipelines target with
    | none => simpa [SpeculativeEngine.dispatchDraft, targetPresent] using present
    | some other =>
        simp only [SpeculativeEngine.dispatchDraft, targetPresent]
        (repeat' split) <;> simpa [setPipeline, same] using present

theorem retryDrafts_draftAssignments {stalled : List RequestId} {requestId : RequestId}
    {wallet : Wallet}
    (assigned : (retryDrafts registry stalled engine).draftAssignments requestId = some wallet) :
    (retryDrafts registry stalled engine).AwaitsDraft requestId ∨
      engine.draftAssignments requestId = some wallet := by
  have keeps : ∀ stalled engine, AwaitsDraft engine requestId →
      (retryDrafts registry stalled engine).AwaitsDraft requestId := by
    intro stalled
    induction stalled with
    | nil => exact fun _ waits => waits
    | cons first rest ih => exact fun engine waits => ih _ (waits.dispatchDraft first)
  induction stalled generalizing engine with
  | nil => exact .inr assigned
  | cons first rest ih =>
      rcases @ih (dispatchDraft registry first engine) assigned with waits | before
      · exact .inl waits
      · rcases dispatchDraft_draftAssignments before with waits | earlier
        · exact .inl (keeps rest _ waits)
        · exact .inr earlier

/-- A draft assignment found after an event belongs to a request that waits for
its draft, or was there before and is not the one the event answered. -/
theorem next_draftAssignments (sha256 : Digest) {stimulus : Stimulus} {requestId : RequestId}
    {wallet : Wallet}
    (assigned : (next sha256 engine stimulus).draftAssignments requestId = some wallet) :
    (next sha256 engine stimulus).AwaitsDraft requestId ∨
      engine.draftAssignments requestId = some wallet ∧
        ∀ result, stimulus.event = .draftResult wallet result → result.requestId ≠ requestId := by
  obtain ⟨registry, event⟩ := stimulus
  cases event with
  | startPipeline target manifest shards maxTokens promptHex promptHash source =>
      right
      simp only [next, startPipeline] at assigned
      split at assigned
      · exact ⟨assigned, by simp⟩
      · rw [dispatchShardStep_draftAssignments] at assigned
        exact ⟨assigned, by simp⟩
  | shardResult sender result =>
      right
      simp only [next, handleShardResult_draftAssignments] at assigned
      exact ⟨assigned, by simp⟩
  | tokenized ticket tokenCount =>
      simp only [next, resumeTokenized] at assigned ⊢
      split at assigned
      · exact .inr ⟨assigned, by simp⟩
      · cases tokenCount with
        | none => exact .inr ⟨assigned, by simp⟩
        | some base =>
            simp only at assigned ⊢
            split at assigned
            · exact .inr ⟨assigned, by simp⟩
            · rcases dispatchDraft_draftAssignments assigned with waits | before
              · exact .inl waits
              · exact .inr ⟨before, by simp⟩
  | dropped ticket => exact .inr ⟨assigned, by simp⟩
  | draftResult sender result =>
      right
      simp only [next, handleDraftResult] at assigned
      by_cases answered : engine.draftAssignments result.requestId = some sender
      · rw [if_pos answered] at assigned
        have kept : (engine.draftAssignments.remove result.requestId) requestId = some wallet := by
          split at assigned
          · exact assigned
          · split at assigned
            · exact assigned
            · rwa [dispatchShardStep_draftAssignments] at assigned
        obtain ⟨ne, before⟩ := PartialMap.of_remove_eq_some kept
        refine ⟨before, ?_⟩
        rintro _ ⟨rfl, rfl⟩
        exact ne.symm
      · rw [if_neg answered] at assigned
        refine ⟨assigned, ?_⟩
        intro other same about
        cases same
        exact answered (about ▸ assigned)
  | kvRollbackAck ack stored =>
      simp only [next, handleKvRollbackAck] at assigned ⊢
      split at assigned
      · exact .inr ⟨assigned, by simp⟩
      · split at assigned
        · split at assigned
          · split at assigned
            · rw [finalizePipeline_draftAssignments] at assigned
              exact .inr ⟨assigned, by simp⟩
            · rcases dispatchDraft_draftAssignments assigned with waits | before
              · left
                simp_all
              · exact .inr ⟨before, by simp⟩
          · exact .inr ⟨assigned, by simp⟩
        · exact .inr ⟨assigned, by simp⟩
  | retryStalledTick stalledShard stalledDraft =>
      simp only [next] at assigned ⊢
      rcases retryStalledTick_cases registry stalledShard stalledDraft engine with
        ⟨-, dies⟩ | ⟨-, ends⟩
      · rw [dies] at assigned
        exact .inr ⟨(congrFun (retryShards_draftAssignments ..) requestId).symm.trans assigned,
          by simp⟩
      · rw [ends] at assigned ⊢
        rcases retryDrafts_draftAssignments assigned with waits | before
        · exact .inl waits
        · rw [retryShards_draftAssignments] at before
          exact .inr ⟨before, by simp⟩
  | disconnect gone =>
      right
      have kept := PartialMap.retain_eq_some_iff.mp assigned
      exact ⟨kept.1, by simp⟩

/-- Only requests that wait for a draft have a draft in flight. -/
def DraftsAwaited (engine : SpeculativeEngine) (requestId : RequestId) : Prop :=
  ∀ wallet pipeline, engine.draftAssignments requestId = some wallet →
    engine.pipelines requestId = some pipeline → pipeline.phase = .awaitingDraft

/-- A wait for a draft ends with the draft or with the pipeline. -/
theorem Change.awaitingDraft {requestId : RequestId} {stimulus : Stimulus}
    {pipeline after : SpecPipeline} {emitted : List Effect}
    (change : Change sha256 engine requestId stimulus (some pipeline) (some after) emitted)
    (awaiting : pipeline.phase = .awaitingDraft) (notStart : ¬ stimulus.event.Starts requestId) :
    after.phase = .awaitingDraft ∨ ∃ wallet result,
      stimulus.event = .draftResult wallet result ∧ result.requestId = requestId ∧
        engine.draftAssignments requestId = some wallet := by
  cases change with
  | idle => exact .inl awaiting
  | rejected => exact .inl awaiting
  | redispatched => exact .inl awaiting
  | redrafted => exact .inl awaiting
  | stale => exact .inl awaiting
  | counted => exact .inl rfl
  | started => exact absurd rfl notStart
  | relayed about assigned relaying => simp [awaiting, Phase.relay] at relaying
  | parked about assigned prompting => simp [awaiting] at prompting
  | panicked about assigned verifying => simp [awaiting] at verifying
  | verified about assigned verifying => simp [awaiting] at verifying
  | drafted about assigned => exact .inr ⟨_, _, rfl, about, assigned⟩
  | acked about rollback => simp [awaiting] at rollback
  | roundCompleted about rollback => simp [awaiting] at rollback

theorem DraftsAwaited.next {requestId : RequestId} {stimulus : Stimulus}
    (awaited : engine.DraftsAwaited requestId) (enabled : engine.enabled stimulus)
    (undrafted : stimulus.event.Starts requestId → engine.draftAssignments requestId = none) :
    (next sha256 engine stimulus).DraftsAwaited requestId := by
  intro wallet after assigned present
  obtain ⟨emitted, -, change⟩ := next_change sha256 enabled requestId
  rw [present] at change
  rcases next_draftAssignments sha256 assigned with ⟨other, otherPresent, awaiting⟩ | before
  · rw [present] at otherPresent
    cases otherPresent
    exact awaiting
  · obtain ⟨before, unanswered⟩ := before
    by_cases starts : stimulus.event.Starts requestId
    · rw [undrafted starts] at before
      contradiction
    · obtain ⟨pipeline, earlier, -⟩ := change.origin.resolve_left starts
      rw [earlier] at change
      rcases change.awaitingDraft (awaited wallet pipeline before earlier) starts with
        awaiting | ⟨sender, result, isDraft, about, answered⟩
      · exact awaiting
      · rw [before] at answered
        cases answered
        exact absurd about (unanswered result isDraft)

/-- The result that ends a verify pass settles the round. -/
theorem pipelines_of_verified {wallet : Wallet} {result : OpoiShardResult}
    {pipeline : SpecPipeline} {pos : Nat} {currentInput : ShardInputWire}
    {draft logits : List TokenId} {outcome : RoundOutcome}
    (assigned : engine.shardAssignments result.requestId = some ⟨wallet, result.shardIndex⟩)
    (present : engine.pipelines result.requestId = some pipeline)
    (verifying : pipeline.phase = .verifying pos currentInput draft)
    (last : pos + 1 = pipeline.shards.length) (answered : result.nextTokenIds = some logits)
    (verified : greedyVerifyRound pipeline.carry pipeline.expected0 draft logits = some outcome) :
    (next sha256 engine ⟨registry, .shardResult wallet result⟩).pipelines result.requestId =
      some (settlePipeline (contribute wallet pipeline) draft outcome) := by
  have counted : (contribute wallet pipeline).phase = .verifying pos currentInput draft := verifying
  have carried : greedyVerifyRound (contribute wallet pipeline).carry
    (contribute wallet pipeline).expected0 draft logits = some outcome := verified
  have lastShard : pos + 1 = (contribute wallet pipeline).shards.length := last
  simp only [next, handleShardResult, assigned, and_self, if_true, present, continueRelay,
    counted, Phase.relay, if_pos lastShard, finishVerifyPass, answered, carried, beginRollback,
    setPipeline, PartialMap.insert_self]
  rfl

/-! ### Parked calls -/

/-- The call parked by the result that ends a prompt pass. -/
inductive Parks (engine : SpeculativeEngine) : Stimulus → TokenizeCall → Prop
  | intro {registry wallet result pipeline pos currentInput t0}
      (assigned : engine.shardAssignments result.requestId = some ⟨wallet, result.shardIndex⟩)
      (present : engine.pipelines result.requestId = some pipeline)
      (prompting : pipeline.phase = .promptProcessing pos currentInput)
      (last : pos + 1 = pipeline.shards.length) (answered : result.nextTokenId = some t0) :
      Parks engine ⟨registry, .shardResult wallet result⟩
        { requestId := result.requestId
          t0 := t0
          tokenizerUrl := pipeline.source.tokenizerUrl
          tokenizerSha256 := pipeline.source.tokenizerSha256
          promptHex :=
            match currentInput with
            | .prompt promptHex => promptHex
            | _ => "" }

@[simp]
theorem dispatchShardStep_calls (registry : MinerRegistry) (requestId : RequestId)
    (engine : SpeculativeEngine) :
    (dispatchShardStep registry requestId engine).calls = engine.calls := by
  unfold dispatchShardStep
  (repeat' split) <;> rfl

@[simp]
theorem dispatchDraft_calls (registry : MinerRegistry) (requestId : RequestId)
    (engine : SpeculativeEngine) :
    (dispatchDraft registry requestId engine).calls = engine.calls := by
  unfold dispatchDraft
  (repeat' split) <;> rfl

@[simp]
theorem beginRollback_calls (registry : MinerRegistry) (requestId : RequestId)
    (outcome : RoundOutcome) (keepLen kThisRound : Nat) (finalizing : Bool)
    (engine : SpeculativeEngine) :
    (beginRollback registry requestId outcome keepLen kThisRound finalizing engine).calls =
      engine.calls := by
  unfold beginRollback
  split <;> rfl

@[simp]
theorem finalizePipeline_calls (sha256 : Digest) (requestId : RequestId) (stored : Bool)
    (engine : SpeculativeEngine) :
    (finalizePipeline sha256 requestId stored engine).calls = engine.calls := by
  unfold finalizePipeline
  (repeat' split) <;> rfl

@[simp]
theorem retryStalledTick_calls (registry : MinerRegistry)
    (stalledShard stalledDraft : List RequestId) (engine : SpeculativeEngine) :
    (retryStalledTick registry stalledShard stalledDraft engine).calls = engine.calls := by
  have drafts : ∀ stalled engine, (retryDrafts registry stalled engine).calls = engine.calls := by
    intro stalled
    induction stalled with
    | nil => exact fun _ => rfl
    | cons first rest ih =>
        intro engine
        exact (ih (dispatchDraft registry first engine)).trans (dispatchDraft_calls ..)
  have shards : ∀ stalled engine, (retryShards registry stalled engine).calls = engine.calls := by
    intro stalled
    induction stalled with
    | nil => exact fun _ => rfl
    | cons first rest ih =>
        intro engine
        exact (ih (dispatchShardStep registry first engine)).trans (dispatchShardStep_calls ..)
  rcases retryStalledTick_cases registry stalledShard stalledDraft engine with
    ⟨-, dies⟩ | ⟨-, ends⟩
  · rw [dies]
    exact shards ..
  · rw [ends]
    exact (drafts ..).trans (shards ..)

/-- A call is parked only by a result that ends a prompt pass, under the next
ticket. -/
theorem next_calls (sha256 : Digest) {stimulus : Stimulus} {ticket : Ticket}
    {call : TokenizeCall} (parked : (next sha256 engine stimulus).calls ticket = some call) :
    engine.calls ticket = some call ∨ ticket = engine.nextTicket ∧ Parks engine stimulus call := by
  obtain ⟨registry, event⟩ := stimulus
  cases event with
  | startPipeline requestId manifest shards maxTokens promptHex promptHash source =>
      left
      simp only [next, startPipeline] at parked
      split at parked
      · exact parked
      · rwa [dispatchShardStep_calls] at parked
  | shardResult wallet result =>
      simp only [next, handleShardResult] at parked
      cases found : engine.shardAssignments result.requestId with
      | none =>
          rw [found] at parked
          exact .inl parked
      | some assignment =>
          simp only [found] at parked
          by_cases mine : assignment.wallet = wallet ∧ assignment.shardIndex = result.shardIndex
          · rw [if_pos mine] at parked
            have assigned : engine.shardAssignments result.requestId =
                some ⟨wallet, result.shardIndex⟩ := by
              rw [found, ← mine.1, ← mine.2]
            cases present : engine.pipelines result.requestId with
            | none =>
                simp only [present] at parked
                exact .inl parked
            | some pipeline =>
                simp only [present, continueRelay] at parked
                cases phase : pipeline.phase with
                | awaitingDraft =>
                    simp only [contribute, phase, Phase.relay] at parked
                    exact .inl parked
                | awaitingRollback state =>
                    simp only [contribute, phase, Phase.relay] at parked
                    exact .inl parked
                | verifying pos currentInput draft =>
                    left
                    simp only [contribute, phase, Phase.relay, finishVerifyPass] at parked
                    split at parked
                    · split at parked
                      · exact parked
                      · split at parked
                        · exact parked
                        · rwa [beginRollback_calls] at parked
                    · rwa [dispatchShardStep_calls] at parked
                | promptProcessing pos currentInput =>
                    simp only [contribute, phase, Phase.relay, finishPromptPass] at parked
                    split at parked
                    · rename_i last
                      split at parked
                      · exact .inl parked
                      · rename_i t0 answered
                        simp only [PartialMap.insert_apply] at parked
                        split at parked
                        · rename_i here
                          cases parked
                          exact .inr ⟨here, .intro assigned present phase last answered⟩
                        · exact .inl parked
                    · rw [dispatchShardStep_calls] at parked
                      exact .inl parked
          · rw [if_neg mine] at parked
            exact .inl parked
  | tokenized answered tokenCount =>
      left
      simp only [next, resumeTokenized] at parked
      split at parked
      · exact parked
      · have kept : (engine.calls.remove answered) ticket = some call := by
          cases tokenCount with
          | none => exact parked
          | some base =>
              simp only at parked
              split at parked
              · exact parked
              · rwa [dispatchDraft_calls] at parked
        exact (PartialMap.of_remove_eq_some kept).2
  | dropped ended => exact .inl (PartialMap.of_remove_eq_some parked).2
  | draftResult wallet result =>
      left
      simp only [next, handleDraftResult] at parked
      split at parked
      · split at parked
        · exact parked
        · split at parked
          · exact parked
          · rwa [dispatchShardStep_calls] at parked
      · exact parked
  | kvRollbackAck ack stored =>
      left
      simp only [next, handleKvRollbackAck] at parked
      split at parked
      · exact parked
      · split at parked
        · split at parked
          · split at parked
            · rwa [finalizePipeline_calls] at parked
            · rwa [dispatchDraft_calls] at parked
          · exact parked
        · exact parked
  | retryStalledTick stalledShard stalledDraft =>
      left
      rwa [next, retryStalledTick_calls] at parked
  | disconnect wallet => exact .inl parked

end SpeculativeEngine

end StratumBridge.Speculative
