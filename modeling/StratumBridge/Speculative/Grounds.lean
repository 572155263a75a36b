import StratumBridge.Speculative.Outstanding

/-!
# What the speculative engine rests on

Whatever miners answer and however their answers interleave, no drafted token
reaches a response by itself: every token of a recorded response was predicted
by a shard result that was accepted, from a wallet that was sent a line of the
request, and the row goes to such a wallet.  Only a pipeline started while a
draft for an older one is in flight may take that draft for its own, before it
knows its first token.
-/

namespace StratumBridge.Speculative

open Data Rpc Wire Transition Sequence

/-- A wallet was sent a line of a shard. -/
def Asked (history : List Effect) (wallet : Wallet) : Prop :=
  ∃ tx assign, .shardAssign wallet tx assign ∈ history

/-- A token was predicted by an accepted result. -/
def Predicted (history : List Effect) (tokenId : TokenId) : Prop :=
  ∃ wallet result, .accepted wallet result ∈ history ∧
    tokenId ∈ result.nextTokenId.toList ++ result.nextTokenIds.getD []

/-- A row pays a wallet of which a result was accepted, for a response of tokens
that were predicted. -/
structure RowGrounded (sha256 : Digest) (history : List Effect) (row : NewSubmission) : Prop where
  earned : ∃ result, .accepted row.minerWallet result ∈ history
  response : ∃ tokenIds, (row.responseHash, row.responseHex) = buildResponse sha256 tokenIds ∧
    row.tokenCount = tokenIds.length % 2 ^ 32 ∧ ∀ tokenId ∈ tokenIds, Predicted history tokenId

/-- What an effect rests on in the history before it. -/
def Effect.RestsOn (sha256 : Digest) : Effect → List Effect → Prop
  | accepted wallet _, earlier => Asked earlier wallet
  | createSubmission row _, earlier => RowGrounded sha256 earlier row
  | _, _ => True

/-- The wallets and tokens of a pipeline come from its history: those generated,
the one a round begins with, and the one a round ends with. -/
structure SpecPipeline.Grounded (pipeline : SpecPipeline) (history : List Effect) : Prop where
  counted : ∀ wallet ∈ pipeline.contributions, ∃ result, .accepted wallet result ∈ history
  tokens : ∀ tokenId ∈ pipeline.generatedTokenIds, Predicted history tokenId
  expected : (∀ pos currentInput, pipeline.phase ≠ .promptProcessing pos currentInput) →
    Predicted history pipeline.expected0
  settled : ∀ state, pipeline.phase = .awaitingRollback state →
    Predicted history state.settleToken

/-! ## A longer history -/

section Longer

variable {history longer : List Effect}

theorem Asked.mono {wallet : Wallet} (asked : Asked history wallet) (grown : history ⊆ longer) :
    Asked longer wallet := by
  rcases asked with ⟨tx, assign, mem⟩
  exact ⟨tx, assign, grown mem⟩

theorem Predicted.mono {tokenId : TokenId} (predicted : Predicted history tokenId)
    (grown : history ⊆ longer) : Predicted longer tokenId := by
  rcases predicted with ⟨wallet, result, mem, token⟩
  exact ⟨wallet, result, grown mem, token⟩

theorem SpecPipeline.Grounded.mono {pipeline : SpecPipeline}
    (grounded : pipeline.Grounded history) (grown : history ⊆ longer) :
    pipeline.Grounded longer := by
  constructor
  · intro wallet mem
    rcases grounded.counted wallet mem with ⟨result, delivered⟩
    exact ⟨result, grown delivered⟩
  · exact fun tokenId mem => (grounded.tokens tokenId mem).mono grown
  · exact fun seeded => (grounded.expected seeded).mono grown
  · exact fun state settling => (grounded.settled state settling).mono grown

end Longer

/-! ## Steps of a pipeline -/

namespace SpecPipeline

open SpeculativeEngine

variable {history : List Effect} {pipeline : SpecPipeline}

theorem grounded_initialPipeline (manifest : ModelManifest) (shards : List ShardDescriptor)
    (maxTokens : UInt32) (promptHex promptHash : String) (source : ModelSource)
    (draftSource : DraftModelSource) :
    (initialPipeline manifest shards maxTokens promptHex promptHash source draftSource).Grounded
      history := by
  constructor
  · exact fun wallet mem => absurd mem Std.TreeMap.not_mem_emptyc
  · rintro tokenId ⟨⟩
  · exact fun seeded => absurd rfl (seeded 0 (.prompt promptHex))
  · rintro state ⟨⟩

/-- The wallet of an accepted result may be counted. -/
theorem Grounded.contribute {wallet : Wallet} {result : OpoiShardResult}
    (grounded : pipeline.Grounded history) (delivered : .accepted wallet result ∈ history) :
    (contribute wallet pipeline).Grounded history := by
  constructor
  · intro other mem
    rcases Contributions.mem_credit.mp mem with rfl | counted
    · exact ⟨result, delivered⟩
    · exact grounded.counted other counted
  · exact grounded.tokens
  · exact grounded.expected
  · exact grounded.settled

theorem Grounded.relayOutput (grounded : pipeline.Grounded history) (result : OpoiShardResult) :
    (relayOutput pipeline result).Grounded history := by
  constructor
  · exact grounded.counted
  · exact grounded.tokens
  · intro seeded
    apply grounded.expected
    intro pos currentInput prompting
    exact seeded (pos + 1) (.tensor result.output.shape result.output.dataHex)
      (by rw [SpeculativeEngine.relayOutput, prompting]; rfl)
  · intro state settling
    apply grounded.settled state
    cases phase : pipeline.phase with
    | awaitingRollback other =>
        rw [SpeculativeEngine.relayOutput, phase] at settling
        exact settling
    | _ =>
        rw [SpeculativeEngine.relayOutput, phase] at settling
        cases settling

/-- The first token of a pipeline is the answer of its prompt pass. -/
theorem Grounded.seedRounds {t0 : TokenId} (grounded : pipeline.Grounded history)
    (answered : Predicted history t0) (base : Nat) :
    (seedRounds pipeline base t0).Grounded history := by
  constructor
  · exact grounded.counted
  · exact grounded.tokens
  · exact fun _ => answered
  · rintro state ⟨⟩

theorem Grounded.repin (grounded : pipeline.Grounded history) (registry : MinerRegistry) :
    (repin registry pipeline).Grounded history :=
  ⟨grounded.counted, grounded.tokens, grounded.expected, grounded.settled⟩

/-- A pipeline that waited for a draft knows the first token it expects. -/
theorem Grounded.beginVerify (grounded : pipeline.Grounded history)
    (awaiting : pipeline.phase = .awaitingDraft) (draft : List TokenId) :
    (beginVerify pipeline draft).Grounded history := by
  constructor
  · exact grounded.counted
  · exact grounded.tokens
  · intro _
    apply grounded.expected
    intro pos currentInput prompting
    rw [awaiting] at prompting
    cases prompting
  · rintro state ⟨⟩

theorem Grounded.acknowledge {state : RollbackState} (grounded : pipeline.Grounded history)
    (awaiting : pipeline.phase = .awaitingRollback state) (shardIndex : Nat) :
    (acknowledge pipeline state shardIndex).Grounded history := by
  constructor
  · exact grounded.counted
  · exact grounded.tokens
  · intro _
    apply grounded.expected
    intro pos currentInput prompting
    rw [awaiting] at prompting
    cases prompting
  · rintro other ⟨⟩
    exact grounded.settled state awaiting

theorem Grounded.nextRound {state : RollbackState} (grounded : pipeline.Grounded history)
    (awaiting : pipeline.phase = .awaitingRollback state) :
    (nextRound pipeline state).Grounded history := by
  constructor
  · exact grounded.counted
  · exact grounded.tokens
  · exact fun _ => grounded.settled state awaiting
  · rintro other ⟨⟩

/-- A round adds predictions only: the part of the draft that agrees with them,
and the first that it does not confirm. -/
theorem Grounded.settlePipeline {wallet : Wallet} {result : OpoiShardResult} {pos : Nat}
    {currentInput : ShardInputWire} {draft logits : List TokenId} {outcome : RoundOutcome}
    (grounded : pipeline.Grounded history)
    (verifying : pipeline.phase = .verifying pos currentInput draft)
    (delivered : .accepted wallet result ∈ history) (answered : result.nextTokenIds = some logits)
    (verified : greedyVerifyRound pipeline.carry pipeline.expected0 draft logits = some outcome) :
    (settlePipeline pipeline draft outcome).Grounded history := by
  have expected : Predicted history pipeline.expected0 := by
    apply grounded.expected
    intro pos currentInput prompting
    rw [verifying] at prompting
    cases prompting
  have along : ∀ tokenId ∈ expectedAlong pipeline.carry pipeline.expected0 logits,
      Predicted history tokenId := by
    intro tokenId mem
    have predicted : tokenId ∈ logits → Predicted history tokenId := by
      intro inLogits
      refine ⟨wallet, result, delivered, List.mem_append_right _ ?_⟩
      rwa [answered]
    unfold expectedAlong at mem
    split at mem
    · exact predicted mem
    · rcases List.mem_cons.mp mem with rfl | inLogits
      · exact expected
      · exact predicted inLogits
  obtain ⟨count, settle⟩ := outcome_of_greedyVerifyRound verified
  have settled : Predicted history outcome.settleToken :=
    along _ (List.mem_of_getElem? settle)
  constructor
  · exact grounded.counted
  · intro tokenId mem
    simp only [SpeculativeEngine.settlePipeline, recordOutcome, List.mem_append,
      List.mem_singleton] at mem
    rcases mem with (earlier | drafted) | rfl
    · exact grounded.tokens tokenId earlier
    · rw [count, take_agreement] at drafted
      exact along tokenId (List.mem_of_mem_take drafted)
    · exact settled
  · exact fun _ => expected
  · rintro state ⟨⟩
    exact settled

end SpecPipeline

namespace SpeculativeEngine

variable {sha256 : Digest} {engine after : SpeculativeEngine} {requestId : RequestId}
variable {stimulus : Stimulus}

/-! ## Assignments -/

/-- Whoever is assigned a step was sent a line for it. -/
def AsksFirst (engine : SpeculativeEngine) : Prop :=
  ∀ requestId assignment, engine.shardAssignments requestId = some assignment →
    Asked (engine.history requestId) assignment.wallet

theorem history_subset (grown : engine.log ⊆ after.log) (requestId : RequestId) :
    engine.history requestId ⊆ after.history requestId :=
  List.filter_subset _ grown

/-- Assignments may go, and histories may grow. -/
theorem AsksFirst.of_fewer (first : engine.AsksFirst)
    (fewer : ∀ requestId assignment, after.shardAssignments requestId = some assignment →
      engine.shardAssignments requestId = some assignment)
    (grown : ∀ requestId, engine.history requestId ⊆ after.history requestId) :
    after.AsksFirst := by
  intro requestId assignment assigned
  exact (first requestId assignment (fewer requestId assignment assigned)).mono (grown requestId)

theorem AsksFirst.of_same (first : engine.AsksFirst)
    (same : after.shardAssignments = engine.shardAssignments) (grown : engine.log ⊆ after.log) :
    after.AsksFirst :=
  first.of_fewer (fun _ _ assigned => same ▸ assigned) (history_subset grown)

/-- A relay dispatch sends its line before it assigns. -/
theorem AsksFirst.dispatchShardStep (first : engine.AsksFirst) (registry : MinerRegistry)
    (target : RequestId) : (dispatchShardStep registry target engine).AsksFirst := by
  have grows : ∀ effect, engine.log ⊆ engine.log ++ [effect] :=
    fun effect => List.subset_append_left ..
  unfold SpeculativeEngine.dispatchShardStep
  split
  · exact first
  · split
    · exact first
    · split
      · exact first.of_same rfl (grows _)
      · split
        · exact first
        · split
          · exact first
          · intro requestId assignment assigned
            by_cases same : requestId = target
            · subst same
              cases (PartialMap.insert_self ..).symm.trans assigned
              refine ⟨_, _, List.mem_filter.mpr ⟨List.mem_append_right _ List.mem_cons_self, ?_⟩⟩
              exact decide_eq_true rfl
            · have kept := (PartialMap.insert_of_ne _ _ same).symm.trans assigned
              exact (first requestId assignment kept).mono (history_subset (grows _) requestId)

theorem AsksFirst.retryShards (first : engine.AsksFirst) (registry : MinerRegistry)
    (stalled : List RequestId) : (retryShards registry stalled engine).AsksFirst := by
  induction stalled generalizing engine with
  | nil => exact first
  | cons requestId rest ih => exact ih (first.dispatchShardStep registry requestId)

theorem AsksFirst.retryDrafts (first : engine.AsksFirst) (registry : MinerRegistry)
    (stalled : List RequestId) : (retryDrafts registry stalled engine).AsksFirst := by
  induction stalled generalizing engine with
  | nil => exact first
  | cons requestId rest ih =>
      apply ih
      apply first.of_same dispatchDraft_shardAssignments
      unfold dispatchDraft
      (repeat' split) <;> first | exact List.Subset.refl _ | exact List.subset_append_left ..

/-- A result ends its assignment, and may be relayed to the next shard. -/
theorem AsksFirst.handleShardResult (first : engine.AsksFirst) (registry : MinerRegistry)
    (wallet : Wallet) (result : OpoiShardResult)
    (grown : ∀ requestId, engine.history requestId ⊆
      (handleShardResult registry wallet result engine).history requestId) :
    (handleShardResult registry wallet result engine).AsksFirst := by
  have removed : ∀ requestId assignment,
      (engine.shardAssignments.remove result.requestId) requestId = some assignment →
        engine.shardAssignments requestId = some assignment :=
    fun _ _ kept => (PartialMap.of_remove_eq_some kept).2
  revert grown
  unfold SpeculativeEngine.handleShardResult
  split
  · exact fun grown => first.of_fewer (fun _ _ assigned => assigned) grown
  · split
    · dsimp only
      split
      · exact fun grown => first.of_fewer removed grown
      · rename_i pipeline present
        unfold continueRelay
        split
        · exact fun grown => first.of_fewer removed grown
        · split
          · split
            · intro grown
              apply first.of_fewer _ grown
              rw [finishVerifyPass_shardAssignments]
              exact removed
            · intro grown
              apply first.of_fewer _ grown
              rw [finishPromptPass_shardAssignments]
              exact removed
          · intro _
            apply AsksFirst.dispatchShardStep
            exact first.of_fewer removed (history_subset (List.subset_append_left ..))
    · exact fun grown => first.of_fewer (fun _ _ assigned => assigned) grown

theorem AsksFirst.next (first : engine.AsksFirst) (enabled : engine.enabled stimulus) :
    (next sha256 engine stimulus).AsksFirst := by
  have grown : ∀ requestId, engine.history requestId ⊆
      (SpeculativeEngine.next sha256 engine stimulus).history requestId := by
    intro requestId
    obtain ⟨emitted, extended, -⟩ := next_change sha256 enabled requestId
    rw [extended]
    exact List.subset_append_left ..
  rcases stimulus with ⟨registry, event⟩
  cases event with
  | startPipeline target manifest shards maxTokens promptHex promptHash source =>
      simp only [SpeculativeEngine.next, startPipeline]
      split
      · exact first
      · apply AsksFirst.dispatchShardStep
        exact first.of_same rfl (List.subset_append_left ..)
  | shardResult wallet result => exact first.handleShardResult registry wallet result grown
  | tokenized ticket tokenCount =>
      apply first.of_fewer _ grown
      intro requestId assignment assigned
      simp only [SpeculativeEngine.next, resumeTokenized] at assigned
      split at assigned
      · exact assigned
      · split at assigned
        · exact assigned
        · split at assigned
          · exact assigned
          · rwa [dispatchDraft_shardAssignments] at assigned
  | draftResult wallet result =>
      simp only [SpeculativeEngine.next, handleDraftResult]
      split
      · split
        · exact first
        · split
          · exact first
          · apply AsksFirst.dispatchShardStep
            exact first.of_same rfl (List.Subset.refl _)
      · exact first
  | kvRollbackAck ack stored =>
      apply first.of_fewer _ grown
      intro requestId assignment assigned
      simp only [SpeculativeEngine.next, handleKvRollbackAck] at assigned
      split at assigned
      · exact assigned
      · split at assigned
        · split at assigned
          · split at assigned
            · rwa [finalizePipeline_shardAssignments] at assigned
            · rwa [dispatchDraft_shardAssignments] at assigned
          · exact assigned
        · exact assigned
  | retryStalledTick stalledShard stalledDraft =>
      rcases retryStalledTick_cases registry stalledShard stalledDraft engine with
        ⟨-, dies⟩ | ⟨-, ends⟩
      · simp only [SpeculativeEngine.next, dies]
        exact (first.retryShards registry _).of_same rfl (List.Subset.refl _)
      · simp only [SpeculativeEngine.next, ends]
        exact (first.retryShards registry stalledShard).retryDrafts registry stalledDraft
  | dropped ticket => exact first.of_same rfl (List.Subset.refl _)
  | disconnect wallet =>
      apply first.of_fewer _ grown
      exact fun requestId assignment assigned => (PartialMap.retain_eq_some_iff.mp assigned).1

/-! ## Steps of a request -/

/-- What the engine keeps about a request comes from its history. -/
structure RequestGrounded (sha256 : Digest) (engine : SpeculativeEngine) (requestId : RequestId) :
    Prop where
  asks : engine.AsksFirst
  justified : Justified (Effect.RestsOn sha256) (engine.history requestId)
  pipeline : ∀ pipeline, engine.pipelines requestId = some pipeline →
    pipeline.Grounded (engine.history requestId)
  calls : ∀ ticket call, engine.calls ticket = some call → call.requestId = requestId →
    Predicted (engine.history requestId) call.t0
  awaited : engine.DraftsAwaited requestId

/-- A pipeline is not started while a draft for its request is in flight. -/
def Undrafted (requestId : RequestId) (engine : SpeculativeEngine) (stimulus : Stimulus) : Prop :=
  stimulus.event.Starts requestId → engine.draftAssignments requestId = none

section Steps

variable {history emitted : List Effect} {before later : Option SpecPipeline}
variable {wallet : Wallet} {result : OpoiShardResult} {lines : List Effect}

theorem restsOn_of_isLine {effect : Effect} (line : effect.isLine = true)
    (earlier : List Effect) : effect.RestsOn sha256 earlier := by
  cases effect with
  | shardAssign => trivial
  | draftGenerate => trivial
  | kvRollback => trivial
  | panicked => trivial
  | _ => cases line

theorem restsOn_of_mem_ackSubmission {state : RollbackState} {ack : OpoiKvRollbackAck}
    {effect : Effect} (mem : effect ∈ ackSubmission requestId state ack)
    (earlier : List Effect) : effect.RestsOn sha256 earlier := by
  unfold ackSubmission at mem
  split at mem
  · split at mem
    · cases List.mem_singleton.mp mem
      trivial
    · cases mem
  · cases mem

/-- An accepted result, and what is sent on account of it. -/
theorem justified_accepted (justified : Justified (Effect.RestsOn sha256) history)
    (asked : Asked history wallet)
    (needless : ∀ effect ∈ lines, ∀ earlier, effect.RestsOn sha256 earlier) :
    Justified (Effect.RestsOn sha256) (history ++ .accepted wallet result :: lines) := by
  have accepted : Justified (Effect.RestsOn sha256) (history ++ [.accepted wallet result]) :=
    justified.snoc asked
  rw [List.append_cons]
  exact accepted.append needless

/-- Every event adds only effects that have their reason. -/
theorem Change.justified
    (change : Change sha256 engine requestId stimulus before later emitted)
    (present : engine.pipelines requestId = before)
    (grounded : engine.RequestGrounded sha256 requestId) :
    Justified (Effect.RestsOn sha256) (engine.history requestId ++ emitted) := by
  have justified := grounded.justified
  have step : ∀ pipeline, ∀ effect ∈
      stepLines stimulus.registry engine.lastShardWallet requestId pipeline,
      ∀ earlier, effect.RestsOn sha256 earlier :=
    fun pipeline effect mem => restsOn_of_isLine (isLine_of_mem_stepLines mem)
  cases change with
  | idle => exact justified.append (by simp)
  | started configured =>
      have begun : Justified (Effect.RestsOn sha256)
          (engine.history requestId ++ [.started requestId]) := justified.snoc trivial
      rw [List.append_cons]
      exact begun.append (step _)
  | rejected about => exact justified.snoc trivial
  | orphaned about assigned =>
      apply justified_accepted justified (grounded.asks requestId _ assigned)
      simp [Effect.RestsOn]
  | stale about assigned idle =>
      exact justified_accepted justified (grounded.asks requestId _ assigned) (by simp)
  | relayed about assigned relaying notLast =>
      exact justified_accepted justified (grounded.asks requestId _ assigned) (step _)
  | parked about assigned prompting last answered =>
      exact justified_accepted justified (grounded.asks requestId _ assigned) (by simp)
  | promptUnanswered about assigned prompting last unanswered =>
      apply justified_accepted justified (grounded.asks requestId _ assigned)
      simp [Effect.RestsOn]
  | verifyUnanswered about assigned verifying last unanswered =>
      apply justified_accepted justified (grounded.asks requestId _ assigned)
      simp [Effect.RestsOn]
  | panicked about assigned verifying last answered failed =>
      apply justified_accepted justified (grounded.asks requestId _ assigned)
      simp [Effect.RestsOn]
  | verified about assigned verifying last answered verified =>
      apply justified_accepted justified (grounded.asks requestId _ assigned)
      exact fun effect mem => restsOn_of_isLine (isLine_of_mem_rollbackLines mem)
  | uncounted parked about => exact justified.snoc trivial
  | counted parked about =>
      exact justified.append fun effect mem => restsOn_of_isLine (isLine_of_mem_draftLines mem)
  | drafted about assigned nonempty => exact justified.append (step _)
  | acked about awaiting left =>
      exact justified.append fun effect mem => restsOn_of_mem_ackSubmission mem
  | roundCompleted about awaiting complete notFinal =>
      rw [← List.append_assoc]
      apply (justified.append fun effect mem => restsOn_of_mem_ackSubmission mem).append
      exact fun effect mem => restsOn_of_isLine (isLine_of_mem_draftLines mem)
  | finalized about awaiting complete final winner =>
      rename_i registry ack stored pipeline state wallet
      rw [← List.append_assoc]
      apply (justified.append fun effect mem => restsOn_of_mem_ackSubmission mem).snoc
      have known := (grounded.pipeline pipeline present).mono
        (List.subset_append_left _ (ackSubmission requestId state ack))
      exact ⟨known.counted wallet (Contributions.mem_of_winner winner),
        pipeline.generatedTokenIds, rfl, rfl, known.tokens⟩
  | unattributed about awaiting complete final noWinner =>
      rw [← List.append_assoc]
      exact (justified.append fun effect mem => restsOn_of_mem_ackSubmission mem).snoc trivial
  | redispatched stalled =>
      exact justified.append fun effect mem => restsOn_of_isLine (isLine_of_mem_stepLines mem)
  | redrafted awaiting unassigned =>
      exact justified.append fun effect mem => restsOn_of_isLine (isLine_of_mem_draftLines mem)
  | disconnected pinned => exact justified.append (by simp)

/-- What a pipeline keeps after an event comes from the longer history. -/
theorem Change.pipelineGrounded {pipeline : SpecPipeline}
    (change : Change sha256 engine requestId stimulus before (some pipeline) emitted)
    (present : engine.pipelines requestId = before)
    (grounded : engine.RequestGrounded sha256 requestId) :
    pipeline.Grounded (engine.history requestId ++ emitted) := by
  have grown : engine.history requestId ⊆ engine.history requestId ++ emitted :=
    List.subset_append_left ..
  have known : ∀ current, engine.pipelines requestId = some current →
      current.Grounded (engine.history requestId ++ emitted) :=
    fun current found => (grounded.pipeline current found).mono grown
  have heard : ∀ {wallet result lines}, emitted = .accepted wallet result :: lines →
      .accepted wallet result ∈ engine.history requestId ++ emitted := by
    rintro wallet result lines rfl
    exact List.mem_append_right _ List.mem_cons_self
  cases change with
  | idle => exact known pipeline present
  | started configured => exact SpecPipeline.grounded_initialPipeline ..
  | rejected about => exact known pipeline present
  | stale about assigned idle => exact (known _ present).contribute (heard rfl)
  | relayed about assigned relaying notLast =>
      exact ((known _ present).contribute (heard rfl)).relayOutput _
  | parked about assigned prompting last answered =>
      exact (known _ present).contribute (heard rfl)
  | panicked about assigned verifying last answered failed =>
      exact (known _ present).contribute (heard rfl)
  | verified about assigned verifying last answered verified =>
      exact ((known _ present).contribute (heard rfl)).settlePipeline verifying (heard rfl)
        answered verified
  | counted parked about =>
      have answered := (grounded.calls _ _ parked about).mono grown
      exact ((known _ present).seedRounds answered _).repin _
  | drafted about assigned nonempty =>
      exact (known _ present).beginVerify (grounded.awaited _ _ assigned present) _
  | acked about awaiting left => exact (known _ present).acknowledge awaiting _
  | roundCompleted about awaiting complete notFinal =>
      exact ((known _ present).nextRound awaiting).repin _
  | redispatched stalled => exact known pipeline present
  | redrafted awaiting unassigned => exact (known _ present).repin _

end Steps

/-! ## Runs -/

/-- The first token a tokenizer is parked with is the answer that ended the
prompt pass. -/
theorem predicted_of_parks {call : TokenizeCall} (parks : Parks engine stimulus call) :
    Predicted ((next sha256 engine stimulus).history call.requestId) call.t0 := by
  cases parks with
  | intro assigned present prompting last answered =>
      rename_i registry wallet result pipeline pos currentInput t0
      have counted : (contribute wallet pipeline).phase = .promptProcessing pos currentInput :=
        prompting
      have lastShard : pos + 1 = (contribute wallet pipeline).shards.length := last
      have log : (next sha256 engine ⟨registry, .shardResult wallet result⟩).log =
          engine.log ++ [.accepted wallet result] := by
        simp only [next, handleShardResult, assigned, and_self, if_true, present, continueRelay,
          counted, Phase.relay, if_pos lastShard, finishPromptPass, answered]
        rfl
      refine ⟨wallet, result, ?_, ?_⟩
      · rw [history, log]
        refine List.mem_filter.mpr ⟨List.mem_append_right _ List.mem_cons_self, ?_⟩
        exact decide_eq_true rfl
      · rw [answered]
        exact List.mem_append_left _ List.mem_cons_self

theorem RequestGrounded.next (grounded : engine.RequestGrounded sha256 requestId)
    (enabled : engine.enabled stimulus) (undrafted : Undrafted requestId engine stimulus) :
    (next sha256 engine stimulus).RequestGrounded sha256 requestId := by
  obtain ⟨emitted, extended, change⟩ := next_change sha256 enabled requestId
  constructor
  · exact grounded.asks.next enabled
  · rw [extended]
    exact change.justified rfl grounded
  · intro pipeline present
    rw [present] at change
    rw [extended]
    exact change.pipelineGrounded rfl grounded
  · intro ticket call parked about
    rw [extended]
    rcases next_calls sha256 parked with older | ⟨-, parks⟩
    · exact (grounded.calls ticket call older about).mono (List.subset_append_left ..)
    · rw [← extended, ← about]
      exact predicted_of_parks parks
  · exact grounded.awaited.next enabled undrafted

section Runs

variable {draftSources : PartialMap String DraftModelSource} {events : List Stimulus}

theorem requestGrounded_of_run
    (run : (system sha256).RunWith (Undrafted requestId) (new draftSources) events engine) :
    engine.RequestGrounded sha256 requestId := by
  apply run.invariant (I := fun engine => engine.RequestGrounded sha256 requestId)
  · constructor
    · rintro other assignment ⟨⟩
    · exact justified_nil
    · rintro pipeline ⟨⟩
    · rintro ticket call ⟨⟩
    · rintro wallet pipeline ⟨⟩
  · exact fun state stimulus grounded enabled undrafted => grounded.next enabled undrafted

/-- While no pipeline is started before the draft for an older one has come
back, whatever miners answer: results are accepted only of wallets that were
asked, and every token of a recorded response was predicted by an accepted
result. -/
theorem predicted_of_run
    (run : (system sha256).RunWith (Undrafted requestId) (new draftSources) events engine) :
    Justified (Effect.RestsOn sha256) (engine.history requestId) :=
  (requestGrounded_of_run run).justified

/-- One round over one shard, up to the row. -/
def roundEvents : List Stimulus :=
  [soleStart 1 1, soleAnswer 0 (some 2) none, soleTokenized 0 2, soleDraft [2],
    soleAnswer 0 none (some [3]), soleAck 0, soleAck draftSessionShardIndex]

/-- An instance of `predicted_of_run`: the row of the request, and the miner it
goes to. -/
theorem predicted_of_run_sole :
    ∃ row earlier, ((system id).execute soleEngine roundEvents).history "r" =
        earlier ++ [.createSubmission row true] ∧
      row.minerWallet = "miner" ∧ RowGrounded id earlier row := by
  have run : (system id).RunWith (Undrafted "r") soleEngine roundEvents
      ((system id).execute soleEngine roundEvents) := by
    apply System.Admits.runWith
    refine ⟨⟨trivial, fun _ => rfl⟩, ⟨trivial, nofun⟩, ⟨nofun, nofun⟩, ⟨trivial, nofun⟩,
      ⟨trivial, nofun⟩, ⟨trivial, nofun⟩, ⟨trivial, nofun⟩, trivial⟩
  have recorded : ∃ row earlier, ((system id).execute soleEngine roundEvents).history "r" =
      earlier ++ [.createSubmission row true] ∧ row.minerWallet = "miner" :=
    ⟨_, [_, _, _, _, _, _, _, _], rfl, rfl⟩
  rcases recorded with ⟨row, earlier, history, paid⟩
  exact ⟨row, earlier, history, paid, predicted_of_run run earlier _ [] history⟩

/-- The tokens an accepted result predicts. -/
def Effect.predictions : Effect → List TokenId
  | .accepted _ result => result.nextTokenId.toList ++ result.nextTokenIds.getD []
  | _ => []

/-- A request started again while its draft is in flight: the new pipeline takes
the draft before its prompt is processed. -/
def restartEvents : List Stimulus :=
  [soleStart 1 1, soleAnswer 0 (some 2) none, soleTokenized 0 2, soleStart 1 1, soleDraft [0],
    soleAnswer 0 none (some [9])]

/-- The guard of `predicted_of_run` is needed: after such a restart a drafted
token joins the response that nobody predicted. -/
theorem unpredicted_after_restart :
    ∃ pipeline, ((system id).execute soleEngine restartEvents).pipelines "r" = some pipeline ∧
      0 ∈ pipeline.generatedTokenIds ∧
      ¬ Predicted (((system id).execute soleEngine restartEvents).history "r") 0 := by
  refine ⟨_, rfl, by decide, ?_⟩
  rintro ⟨wallet, result, mem, token⟩
  have predictions : 0 ∉ (((system id).execute soleEngine restartEvents).history "r").flatMap
      Effect.predictions := by
    decide
  exact predictions (List.mem_flatMap.mpr ⟨_, mem, token⟩)

end Runs

end SpeculativeEngine

end StratumBridge.Speculative
