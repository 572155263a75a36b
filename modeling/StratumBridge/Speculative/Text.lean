import StratumBridge.Speculative.Phases

/-!
# Speculation does not change the text

An honest target answers every prompt pass with the first token of the greedy
continuation and every verify batch with its predictions after each position of
the batch.  Against such a target the tokens a pipeline has generated are at
all times the greedy continuation of the prompt, whatever was drafted, as long as the
prompt pass is not completed a second time while a settled round waits for its rollbacks:
the round that follows would be verified against the first token once more.
-/

namespace StratumBridge.Speculative

open Data Rpc Wire Transition Sequence

variable {g : List TokenId → TokenId} {prompt : List TokenId}

/-! ## Honest answers -/

/-- The predictions after each position of a batch that follows a context. -/
def answers (g : List TokenId → TokenId) (context batch : List TokenId) : List TokenId :=
  (List.range batch.length).map fun i => g (context ++ batch.take (i + 1))

/-- The prompt and the generated tokens, the carried one excepted. -/
def committedContext (prompt : List TokenId) (pipeline : SpecPipeline) : List TokenId :=
  prompt ++
    if pipeline.carry.isSome then pipeline.generatedTokenIds.dropLast
    else pipeline.generatedTokenIds

theorem cons_answers (context draft : List TokenId) :
    g context :: answers g context draft = predictions g context draft := by
  rw [predictions_eq_map_range, List.range_succ_eq_map, List.map_cons, List.map_map]
  simp [answers, Function.comp_def]

theorem answers_cons (context draft : List TokenId) (token : TokenId) :
    answers g context (token :: draft) = predictions g (context ++ [token]) draft := by
  rw [predictions_eq_map_range]
  simp [answers]

/-- The last shard of a pass answers as the next-token function dictates. -/
def HonestAnswer (g : List TokenId → TokenId) (prompt : List TokenId) (pipeline : SpecPipeline)
    (result : OpoiShardResult) : Prop :=
  match pipeline.phase with
  | .promptProcessing pos _ =>
      pos + 1 = pipeline.shards.length →
        ∀ t0, result.nextTokenId = some t0 → t0 = g prompt
  | .verifying pos _ draftTokenIds =>
      pos + 1 = pipeline.shards.length →
        ∀ tokenIds, result.nextTokenIds = some tokenIds →
          tokenIds = answers g (committedContext prompt pipeline)
            (pipeline.carry.toList ++ draftTokenIds)
  | _ => True

/-- The results accepted for the request are honest. -/
def Honest (g : List TokenId → TokenId) (tokenize : String → List TokenId)
    (requestId : RequestId) (engine : SpeculativeEngine) (stimulus : Stimulus) : Prop :=
  match stimulus.event with
  | .shardResult wallet result =>
      ∀ pipeline, result.requestId = requestId →
        engine.shardAssignments requestId = some ⟨wallet, result.shardIndex⟩ →
        engine.pipelines requestId = some pipeline →
        HonestAnswer g (tokenize pipeline.promptHex) pipeline result
  | _ => True

/-- The conditions on a step under which the prompt pass of a request comes before its
rounds: its pipeline is started afresh, and no call of the tokenizer returns while a settled
round waits for its rollbacks. -/
structure Undisturbed (requestId : RequestId) (engine : SpeculativeEngine)
    (stimulus : Stimulus) : Prop where
  fresh : stimulus.event.Starts requestId → engine.Fresh requestId
  counted : ∀ ticket base call pipeline state, stimulus.event = .tokenized ticket (some base) →
    engine.calls ticket = some call → call.requestId = requestId →
    engine.pipelines requestId = some pipeline → pipeline.phase ≠ .awaitingRollback state

/-! ## The invariant -/

/-- The link between the carried token, the expected token and the tokens
generated so far, at the start of a round. -/
def Seeded (g : List TokenId → TokenId) (prompt : List TokenId) (pipeline : SpecPipeline) : Prop :=
  (pipeline.carry = none ∧ pipeline.generatedTokenIds = [] ∧ pipeline.expected0 = g prompt) ∨
    ∃ earlier token, pipeline.carry = some token ∧
      pipeline.generatedTokenIds = earlier ++ [token]

/-- A pipeline's generated tokens are greedy, and its phase agrees with
them. -/
structure PipelineText (g : List TokenId → TokenId) (prompt : List TokenId)
    (pipeline : SpecPipeline) : Prop where
  greedy : IsGreedy g prompt pipeline.generatedTokenIds
  prompting : ∀ pos currentInput, pipeline.phase = .promptProcessing pos currentInput →
    pipeline.carry = none ∧ pipeline.generatedTokenIds = []
  drafting : pipeline.phase = .awaitingDraft → Seeded g prompt pipeline
  verifying : ∀ pos currentInput draftTokenIds,
    pipeline.phase = .verifying pos currentInput draftTokenIds →
      Seeded g prompt pipeline ∧ draftTokenIds ≠ [] ∧
        (pos = 0 → currentInput = .tokenIds (pipeline.carry.toList ++ draftTokenIds))
  settling : ∀ state, pipeline.phase = .awaitingRollback state →
    ∃ earlier, pipeline.generatedTokenIds = earlier ++ [state.settleToken]

/-- With a seeded round and an honest verify answer, the predictions the draft
is compared with are those of the plain continuation. -/
theorem expectedAlong_answers {pipeline : SpecPipeline} (seeded : Seeded g prompt pipeline)
    (draft : List TokenId) :
    expectedAlong pipeline.carry pipeline.expected0
        (answers g (committedContext prompt pipeline) (pipeline.carry.toList ++ draft)) =
      predictions g (prompt ++ pipeline.generatedTokenIds) draft := by
  rcases seeded with ⟨noCarry, nothing, expected⟩ | ⟨earlier, token, carried, generated⟩
  · simp [expectedAlong, committedContext, noCarry, nothing, expected, cons_answers]
  · simp [expectedAlong, committedContext, carried, generated, answers_cons]

/-- The accepted count of an honest round, as agreement with the predictions of
the plain continuation. -/
theorem acceptedCount_eq_agreement {pipeline : SpecPipeline} {draft : List TokenId}
    {outcome : RoundOutcome} (seeded : Seeded g prompt pipeline)
    (verified : greedyVerifyRound pipeline.carry pipeline.expected0 draft
      (answers g (committedContext prompt pipeline) (pipeline.carry.toList ++ draft)) =
        some outcome) :
    outcome.acceptedCount =
        agreement draft (predictions g (prompt ++ pipeline.generatedTokenIds) draft) ∧
      (predictions g (prompt ++ pipeline.generatedTokenIds) draft)[outcome.acceptedCount]? =
        some outcome.settleToken := by
  obtain ⟨count, settle⟩ := outcome_of_greedyVerifyRound verified
  rw [expectedAlong_answers seeded] at count settle
  exact ⟨count, settle⟩

/-- An honest round extends greedy tokens to greedy tokens. -/
theorem isGreedy_recordOutcome {pipeline : SpecPipeline} {draft : List TokenId}
    {outcome : RoundOutcome} (greedy : IsGreedy g prompt pipeline.generatedTokenIds)
    (seeded : Seeded g prompt pipeline)
    (verified : greedyVerifyRound pipeline.carry pipeline.expected0 draft
      (answers g (committedContext prompt pipeline) (pipeline.carry.toList ++ draft)) =
        some outcome) :
    IsGreedy g prompt
      (SpeculativeEngine.recordOutcome pipeline draft outcome).generatedTokenIds := by
  obtain ⟨count, settle⟩ := acceptedCount_eq_agreement seeded verified
  have round := isGreedy_take_agreement g (prompt ++ pipeline.generatedTokenIds) draft
  rw [← count, settle] at round
  rw [SpeculativeEngine.recordOutcome, List.append_assoc]
  exact greedy.append round

namespace SpeculativeEngine

variable {tokenize : String → List TokenId} {requestId : RequestId} {sha256 : Digest}
variable {engine : SpeculativeEngine}

/-- The invariant of one request: the text of its pipeline, the first token
held by each of its parked calls, and the place of its draft in flight. -/
structure RequestText (g : List TokenId → TokenId) (tokenize : String → List TokenId)
    (requestId : RequestId) (engine : SpeculativeEngine) : Prop where
  pipeline : ∀ pipeline, engine.pipelines requestId = some pipeline →
    PipelineText g (tokenize pipeline.promptHex) pipeline
  calls : ∀ ticket call pipeline, engine.calls ticket = some call → call.requestId = requestId →
    engine.pipelines requestId = some pipeline → call.t0 = g (tokenize pipeline.promptHex)
  awaited : engine.DraftsAwaited requestId

theorem pipelineText_initialPipeline (manifest : ModelManifest) (shards : List ShardDescriptor)
    (maxTokens : UInt32) (promptHex promptHash : String) (source : ModelSource)
    (draftSource : DraftModelSource) :
    PipelineText g prompt
      (initialPipeline manifest shards maxTokens promptHex promptHash source draftSource) where
  greedy := .nil g prompt
  prompting _ _ _ := ⟨rfl, rfl⟩
  drafting phase := by simp [initialPipeline] at phase
  verifying _ _ _ phase := by simp [initialPipeline] at phase
  settling _ phase := by simp [initialPipeline] at phase

/-- Handing the relay on keeps the text. -/
theorem pipelineText_relayOutput {pipeline : SpecPipeline} (text : PipelineText g prompt pipeline)
    (result : OpoiShardResult) : PipelineText g prompt (relayOutput pipeline result) := by
  cases phase : pipeline.phase with
  | promptProcessing pos currentInput =>
      have facts := text.prompting pos currentInput phase
      exact ⟨text.greedy, fun _ _ _ => facts, by simp [relayOutput, phase, Phase.advance],
        by simp [relayOutput, phase, Phase.advance], by simp [relayOutput, phase, Phase.advance]⟩
  | verifying pos currentInput draft =>
      obtain ⟨seeded, nonempty, -⟩ := text.verifying pos currentInput draft phase
      refine ⟨text.greedy, by simp [relayOutput, phase, Phase.advance],
        by simp [relayOutput, phase, Phase.advance], ?_,
        by simp [relayOutput, phase, Phase.advance]⟩
      intro newPos newInput newDraft newPhase
      simp only [relayOutput, phase, Phase.advance, Phase.verifying.injEq] at newPhase
      obtain ⟨rfl, rfl, rfl⟩ := newPhase
      exact ⟨seeded, nonempty, by simp⟩
  | awaitingDraft =>
      have same : relayOutput pipeline result = pipeline := by
        simp only [relayOutput, phase, Phase.advance]
        rw [← phase]
      rwa [same]
  | awaitingRollback state =>
      have same : relayOutput pipeline result = pipeline := by
        simp only [relayOutput, phase, Phase.advance]
        rw [← phase]
      rwa [same]

/-- A pipeline that waits for a draft has a good text once its round is
seeded. -/
theorem pipelineText_of_awaitingDraft {pipeline : SpecPipeline}
    (greedy : IsGreedy g prompt pipeline.generatedTokenIds)
    (awaiting : pipeline.phase = .awaitingDraft) (seeded : Seeded g prompt pipeline) :
    PipelineText g prompt pipeline :=
  ⟨greedy, by simp [awaiting], fun _ => seeded, by simp [awaiting], by simp [awaiting]⟩

/-- Everything but a start keeps the text of a pipeline. -/
theorem pipelineText_change {stimulus : Stimulus} {pipeline after : SpecPipeline}
    {emitted : List Effect} (text : PipelineText g (tokenize pipeline.promptHex) pipeline)
    (present : engine.pipelines requestId = some pipeline)
    (calls : ∀ ticket call, engine.calls ticket = some call → call.requestId = requestId →
      call.t0 = g (tokenize pipeline.promptHex))
    (awaited : engine.DraftsAwaited requestId)
    (honest : Honest g tokenize requestId engine stimulus)
    (undisturbed : Undisturbed requestId engine stimulus)
    (notStart : ¬ stimulus.event.Starts requestId)
    (change : Change sha256 engine requestId stimulus (some pipeline) (some after) emitted) :
    PipelineText g (tokenize pipeline.promptHex) after := by
  cases change with
  | idle => exact text
  | rejected => exact text
  | redispatched => exact text
  | started => exact absurd rfl notStart
  | stale => exact ⟨text.greedy, text.prompting, text.drafting, text.verifying, text.settling⟩
  | @relayed _ wallet result _ _ _ _ about assigned relaying notLast =>
      have counted : PipelineText g (tokenize pipeline.promptHex) (contribute wallet pipeline) :=
        ⟨text.greedy, text.prompting, text.drafting, text.verifying, text.settling⟩
      exact pipelineText_relayOutput counted result
  | parked => exact ⟨text.greedy, text.prompting, text.drafting, text.verifying, text.settling⟩
  | panicked => exact ⟨text.greedy, text.prompting, text.drafting, text.verifying, text.settling⟩
  | redrafted => exact ⟨text.greedy, text.prompting, text.drafting, text.verifying, text.settling⟩
  | @verified _ wallet result _ pos currentInput draft logits outcome about assigned verifying last
      answered verified =>
      obtain ⟨seeded, -, -⟩ := text.verifying pos currentInput draft verifying
      have answer := honest pipeline about assigned present
      simp only [HonestAnswer, verifying] at answer
      rw [answer last logits answered] at verified
      exact
        { greedy := isGreedy_recordOutcome text.greedy seeded verified
          prompting := by simp [settlePipeline]
          drafting := by simp [settlePipeline]
          verifying := by simp [settlePipeline]
          settling := by
            intro state phase
            cases phase
            exact ⟨_, rfl⟩ }
  | @counted registry _ call base _ parked about =>
      have first := calls _ _ parked about
      have reseeded : Seeded g (tokenize pipeline.promptHex) pipeline →
          PipelineText g (tokenize pipeline.promptHex)
            (repin registry (seedRounds pipeline base call.t0)) := by
        rintro (⟨noCarry, nothing, -⟩ | carried)
        · exact pipelineText_of_awaitingDraft text.greedy rfl (.inl ⟨noCarry, nothing, first⟩)
        · exact pipelineText_of_awaitingDraft text.greedy rfl (.inr carried)
      cases phase : pipeline.phase with
      | promptProcessing pos currentInput =>
          obtain ⟨noCarry, nothing⟩ := text.prompting pos currentInput phase
          exact pipelineText_of_awaitingDraft text.greedy rfl (.inl ⟨noCarry, nothing, first⟩)
      | awaitingDraft => exact reseeded (text.drafting phase)
      | verifying pos currentInput draft =>
          exact reseeded (text.verifying pos currentInput draft phase).1
      | awaitingRollback state =>
          exact absurd phase (undisturbed.counted _ _ call pipeline state rfl parked about present)
  | @drafted _ _ result _ about assigned nonempty =>
      have seeded := text.drafting (awaited _ pipeline assigned present)
      refine ⟨text.greedy, by simp [beginVerify], by simp [beginVerify], ?_, by simp [beginVerify]⟩
      intro pos currentInput draft phase
      cases phase
      exact ⟨seeded, nonempty, fun _ => rfl⟩
  | @acked _ _ _ _ state about awaiting left =>
      refine ⟨text.greedy, by simp [acknowledge], by simp [acknowledge], by simp [acknowledge], ?_⟩
      intro later phase
      cases phase
      exact text.settling state awaiting
  | @roundCompleted _ ack _ _ state about awaiting complete notFinal =>
      obtain ⟨earlier, generated⟩ := text.settling state awaiting
      exact pipelineText_of_awaitingDraft text.greedy rfl
        (.inr ⟨earlier, state.settleToken, rfl, generated⟩)

/-- One honest step keeps the invariant. -/
theorem RequestText.next {stimulus : Stimulus}
    (text : RequestText g tokenize requestId engine) (enabled : engine.enabled stimulus)
    (honest : Honest g tokenize requestId engine stimulus)
    (undisturbed : Undisturbed requestId engine stimulus) :
    RequestText g tokenize requestId (next sha256 engine stimulus) := by
  obtain ⟨emitted, -, change⟩ := next_change sha256 enabled requestId
  refine ⟨?_, ?_, text.awaited.next enabled fun starts =>
    (undisturbed.fresh starts).draftAssignment⟩
  · intro after present
    rw [present] at change
    by_cases starts : stimulus.event.Starts requestId
    · rw [(undisturbed.fresh starts).pipeline] at change
      cases change with
      | started => exact pipelineText_initialPipeline _ _ _ _ _ _ _
    · obtain ⟨pipeline, before, job⟩ := change.origin.resolve_left starts
      rw [before] at change
      rw [job.promptHex]
      exact pipelineText_change (text.pipeline pipeline before) before
        (fun ticket call parked about => text.calls ticket call pipeline parked about before)
        text.awaited honest undisturbed starts change
  · intro ticket call after parked about present
    rw [present] at change
    rcases next_calls sha256 parked with earlier | ⟨-, parks⟩
    · by_cases starts : stimulus.event.Starts requestId
      · exact absurd about ((undisturbed.fresh starts).calls ticket call earlier)
      · obtain ⟨pipeline, before, job⟩ := change.origin.resolve_left starts
        rw [job.promptHex]
        exact text.calls ticket call pipeline earlier about before
    · cases parks with
      | @intro registry wallet result pipeline pos currentInput t0 assigned before prompting last
          answered =>
          cases about
          obtain ⟨origin, originPresent, job⟩ := change.origin.resolve_left id
          rw [before] at originPresent
          cases originPresent
          have answer := honest pipeline rfl assigned before
          simp only [HonestAnswer, prompting] at answer
          rw [job.promptHex]
          exact answer last t0 answered

/-- The invariant holds of every request along every honest run. -/
theorem requestText_of_run {draftSources : PartialMap String DraftModelSource}
    {events : List Stimulus}
    (run : (system sha256).RunWith (fun engine stimulus =>
      Honest g tokenize requestId engine stimulus ∧ Undisturbed requestId engine stimulus)
      (new draftSources) events engine) :
    RequestText g tokenize requestId engine :=
  run.invariant
    ⟨fun _ present => by simp [new] at present, fun _ _ _ parked => by simp [new] at parked,
      fun _ _ assigned => by simp [new] at assigned⟩
    (fun _ _ text enabled guarded => text.next enabled guarded.1 guarded.2)

/-- Speculative decoding does not change the text while the prompt pass stays undisturbed.
Along every such honest run the generated tokens of a pipeline are the first tokens of the
greedy continuation of its prompt, whatever was drafted; and the result that ends a verify pass
accepts exactly the longest prefix of the draft that agrees with that
continuation and adds at least one token. -/
theorem speculation_keeps_text {draftSources : PartialMap String DraftModelSource}
    {events : List Stimulus} {pipeline : SpecPipeline}
    (run : (system sha256).RunWith (fun engine stimulus =>
      Honest g tokenize requestId engine stimulus ∧ Undisturbed requestId engine stimulus)
      (new draftSources) events engine)
    (present : engine.pipelines requestId = some pipeline) :
    IsGreedy g (tokenize pipeline.promptHex) pipeline.generatedTokenIds ∧
      (∀ currentInput draft, pipeline.phase = .verifying 0 currentInput draft →
        draft ≠ [] ∧ currentInput = .tokenIds (pipeline.carry.toList ++ draft)) ∧
      ∀ registry wallet result pos currentInput draft,
        result.requestId = requestId →
        engine.shardAssignments requestId = some ⟨wallet, result.shardIndex⟩ →
        pipeline.phase = .verifying pos currentInput draft →
        pos + 1 = pipeline.shards.length →
        result.nextTokenIds = some (answers g
          (committedContext (tokenize pipeline.promptHex) pipeline)
          (pipeline.carry.toList ++ draft)) →
        ∃ after state,
          (next sha256 engine ⟨registry, .shardResult wallet result⟩).pipelines requestId =
            some after ∧
          after.phase = .awaitingRollback state ∧
          IsGreedy g (tokenize pipeline.promptHex) after.generatedTokenIds ∧
          pipeline.generatedTokenIds.length < after.generatedTokenIds.length ∧
          IsGreatest {n | n ≤ draft.length ∧ draft.take n =
            (greedy g (tokenize pipeline.promptHex)
              (pipeline.generatedTokenIds.length + n)).drop pipeline.generatedTokenIds.length}
            state.acceptedCount := by
  have text := (requestText_of_run run).pipeline pipeline present
  refine ⟨text.greedy, fun currentInput draft phase => ?_, ?_⟩
  · obtain ⟨-, nonempty, batch⟩ := text.verifying 0 currentInput draft phase
    exact ⟨nonempty, batch rfl⟩
  · intro registry wallet result pos currentInput draft about assigned verifying last answered
    subst about
    obtain ⟨seeded, -, -⟩ := text.verifying pos currentInput draft verifying
    have sized : (answers g (committedContext (tokenize pipeline.promptHex) pipeline)
        (pipeline.carry.toList ++ draft)).length = draft.length + carryLen pipeline.carry := by
      cases pipeline.carry <;> simp [answers, carryLen]
    obtain ⟨outcome, verified, -⟩ := greedyVerifyRound_eq_some pipeline.expected0 sized
    refine ⟨_, _, pipelines_of_verified assigned present verifying last answered verified, rfl,
      isGreedy_recordOutcome text.greedy seeded verified, ?_, ?_⟩
    · simp [settlePipeline, recordOutcome, contribute]
    · have count := (acceptedCount_eq_agreement seeded verified).1
      have continuation : ∀ n, (greedy g (tokenize pipeline.promptHex)
          (pipeline.generatedTokenIds.length + n)).drop pipeline.generatedTokenIds.length =
            greedy g (tokenize pipeline.promptHex ++ pipeline.generatedTokenIds) n := by
        intro n
        rw [greedy_add, ← text.greedy]
        simp
      simp only [continuation]
      rw [show (rollbackState _ outcome _ _ _).acceptedCount = outcome.acceptedCount from rfl,
        count]
      exact isGreatest_agreement_predictions g _ draft

/-- A next-token function for the instance below. -/
def lengthToken (context : List TokenId) : TokenId :=
  UInt32.ofNat context.length

/-- A prompt pass over one shard, a round whose draft is wrong, its rollbacks, and the draft
of a second round, up to the verify dispatch. -/
def textEvents : List Stimulus :=
  [soleStart 1 9, soleAnswer 0 (some 2) none, soleTokenized 0 2, soleDraft [9],
    soleAnswer 0 none (some [3]), soleAck 0, soleAck draftSessionShardIndex, soleDraft [3, 4, 9]]

/-- The target's answer to the second round. -/
def textAnswer : Stimulus :=
  soleAnswer 0 none (some [3, 4, 5, 6])

theorem undisturbed_of_plain {stimulus : Stimulus}
    (plain : ¬ stimulus.event.Starts requestId)
    (uncounted : ∀ ticket base, stimulus.event ≠ .tokenized ticket (some base)) :
    Undisturbed requestId engine stimulus :=
  ⟨fun starts => absurd starts plain,
    fun ticket base _ _ _ counted => absurd counted (uncounted ticket base)⟩

/-- An instance of `speculation_keeps_text`: the second round of a request, whose draft is
right in two places out of three. -/
theorem speculation_keeps_text_sole :
    ∃ after state,
      (next id ((system id).execute soleEngine textEvents) textAnswer).pipelines "r" =
        some after ∧
      after.phase = .awaitingRollback state ∧
      IsGreedy lengthToken [7, 8] after.generatedTokenIds ∧
      IsGreatest {n | n ≤ 3 ∧ [3, 4, 9].take n = (greedy lengthToken [7, 8] (1 + n)).drop 1}
        state.acceptedCount := by
  have run : (system id).RunWith (fun engine stimulus =>
      Honest lengthToken (fun _ => [7, 8]) "r" engine stimulus ∧
        Undisturbed "r" engine stimulus) soleEngine textEvents
      ((system id).execute soleEngine textEvents) := by
    apply System.Admits.runWith
    refine ⟨⟨trivial, trivial, fun _ => fresh_new _ _, nofun⟩,
      ⟨trivial, ?_, undisturbed_of_plain id nofun⟩, ⟨nofun, trivial, nofun, ?_⟩,
      ⟨trivial, trivial, undisturbed_of_plain id nofun⟩,
      ⟨trivial, ?_, undisturbed_of_plain id nofun⟩,
      ⟨trivial, trivial, undisturbed_of_plain id nofun⟩,
      ⟨trivial, trivial, undisturbed_of_plain id nofun⟩,
      ⟨trivial, trivial, undisturbed_of_plain id nofun⟩, trivial⟩
    · rintro pipeline - - ⟨⟩ - t0 ⟨⟩
      rfl
    · rintro _ _ call pipeline state ⟨⟩ ⟨⟩ - ⟨⟩ ⟨⟩
    · rintro pipeline - - ⟨⟩ - tokenIds ⟨⟩
      rfl
  obtain ⟨after, state, stored, settling, greedy, -, greatest⟩ :=
    (speculation_keeps_text run rfl).2.2 soleRegistry "miner"
      (soleResult 0 none (some [3, 4, 5, 6])) 0 (.tokenIds [2, 3, 4, 9]) [3, 4, 9] rfl rfl rfl rfl
      rfl
  exact ⟨after, state, stored, settling, greedy, greatest⟩

/-- The prompt pass is sent out again while its first handler waits for the tokenizer, and
the second handler resumes while the first round waits for its rollbacks. -/
def repeatEvents : List Stimulus :=
  [soleStart 1 9, soleAnswer 0 (some 2) none, soleTick, soleAnswer 0 (some 2) none,
    soleTokenized 0 2, soleDraft [9], soleAnswer 0 none (some [3]), soleTokenized 1 2,
    soleDraft [9], soleAnswer 0 none (some [4])]

/-- Every answer is honest, and the response has its first token twice. -/
theorem first_token_repeated :
    (system id).RunWith (Honest lengthToken (fun _ => [7, 8]) "r") soleEngine repeatEvents
        ((system id).execute soleEngine repeatEvents) ∧
      ∃ pipeline, ((system id).execute soleEngine repeatEvents).pipelines "r" = some pipeline ∧
        pipeline.generatedTokenIds = [2, 2] ∧
        greedy lengthToken [7, 8] 2 = [2, 3] ∧
        ¬ IsGreedy lengthToken [7, 8] pipeline.generatedTokenIds := by
  constructor
  · apply System.Admits.runWith
    refine ⟨⟨trivial, trivial⟩, ⟨trivial, ?_⟩, ⟨enabled_soleTick, trivial⟩, ⟨trivial, ?_⟩,
      ⟨nofun, trivial⟩, ⟨trivial, trivial⟩, ⟨trivial, ?_⟩, ⟨nofun, trivial⟩, ⟨trivial, trivial⟩,
      ⟨trivial, ?_⟩, trivial⟩
    · rintro pipeline - - ⟨⟩ - t0 ⟨⟩
      rfl
    · rintro pipeline - - ⟨⟩ - t0 ⟨⟩
      rfl
    · rintro pipeline - - ⟨⟩ - tokenIds ⟨⟩
      rfl
    · rintro pipeline - - ⟨⟩ - tokenIds ⟨⟩
      rfl
  · have repeated : ([2, 2] : List TokenId) ≠ [2, 3] := by decide
    exact ⟨_, rfl, rfl, rfl, repeated⟩

end SpeculativeEngine

end StratumBridge.Speculative
