import StratumBridge.Speculative.Text

/-!
# The length of a response

A round is marked as the last by comparing the key-value position after it with
the token limit, while the response is as long as the list of generated tokens.
The two tests agree in a verify pass exactly when `StopsInTime` holds of it, and
a pipeline whose verify passes all satisfy it finalizes with exactly as many
tokens as were asked for.
-/

namespace StratumBridge.Speculative

open Data Rpc Wire Transition

/-- The number of tokens a verify pass adds: the agreed part of the draft and
one more. -/
def tokensAdded (pipeline : SpecPipeline) (draft logits : List TokenId) : Nat :=
  Sequence.agreement draft (expectedAlong pipeline.carry pipeline.expected0 logits) + 1

/-- Either the pass brings the response to its limit and the key-value position
to at least as much, or it brings the response to another length and leaves the
position below the limit. -/
def StopsInTime (pipeline : SpecPipeline) (draft logits : List TokenId) : Prop :=
  let reached := pipeline.generatedTokenIds.length + tokensAdded pipeline draft logits
  let position := (pipeline.base + tokensAdded pipeline draft logits) % 2 ^ 32
  (reached = pipeline.maxTokens.toNat ∧ pipeline.maxTokens.toNat ≤ position) ∨
    (reached ≠ pipeline.maxTokens.toNat ∧ position < pipeline.maxTokens.toNat)

/-- A settled round is marked as the last exactly when it brought the response
to its limit. -/
def MarkedInTime (pipeline : SpecPipeline) : Prop :=
  ∀ state, pipeline.phase = .awaitingRollback state →
    (state.isFinalizingRound = true ↔
      pipeline.generatedTokenIds.length = pipeline.maxTokens.toNat)

namespace SpeculativeEngine

variable {requestId : RequestId} {sha256 : Digest} {engine : SpeculativeEngine}

/-- Every verify pass of the request stops in time. -/
def LengthGuard (requestId : RequestId) (engine : SpeculativeEngine) (stimulus : Stimulus) : Prop :=
  ∀ wallet result pipeline pos currentInput draft logits,
    stimulus.event = .shardResult wallet result → result.requestId = requestId →
    engine.shardAssignments requestId = some ⟨wallet, result.shardIndex⟩ →
    engine.pipelines requestId = some pipeline →
    pipeline.phase = .verifying pos currentInput draft → pos + 1 = pipeline.shards.length →
    result.nextTokenIds = some logits →
    greedyVerifyRound pipeline.carry pipeline.expected0 draft logits ≠ none →
    StopsInTime pipeline draft logits

/-- Exactness: one verify pass marks its round correctly if and only if it stops
in time. -/
theorem markedInTime_settlePipeline_iff {pipeline : SpecPipeline} {draft logits : List TokenId}
    {outcome : RoundOutcome}
    (verified : greedyVerifyRound pipeline.carry pipeline.expected0 draft logits =
      some outcome) :
    MarkedInTime (settlePipeline pipeline draft outcome) ↔ StopsInTime pipeline draft logits := by
  have count := (outcome_of_greedyVerifyRound verified).1
  have bound := acceptedCount_le verified
  have grown : (settlePipeline pipeline draft outcome).generatedTokenIds.length =
      pipeline.generatedTokenIds.length + tokensAdded pipeline draft logits := by
    simp only [settlePipeline, recordOutcome, List.length_append, List.length_take,
      List.length_singleton, tokensAdded, ← count]
    omega
  have marked : (isFinalizingRound pipeline.base outcome.acceptedCount pipeline.maxTokens = true) ↔
      pipeline.maxTokens.toNat ≤
        (pipeline.base + tokensAdded pipeline draft logits) % 2 ^ 32 := by
    rw [isFinalizingRound, decide_eq_true_iff, tokensAdded, ← count, Nat.add_assoc]
  have unfolded : MarkedInTime (settlePipeline pipeline draft outcome) ↔
      (isFinalizingRound pipeline.base outcome.acceptedCount pipeline.maxTokens = true ↔
        (settlePipeline pipeline draft outcome).generatedTokenIds.length =
          pipeline.maxTokens.toNat) := by
    constructor
    · intro correct
      exact correct _ rfl
    · rintro correct state ⟨⟩
      exact correct
  rw [unfolded, marked, grown, StopsInTime]
  omega

/-- One guarded step keeps every mark correct. -/
theorem markedInTime_next {stimulus : Stimulus}
    (marked : ∀ pipeline, engine.pipelines requestId = some pipeline → MarkedInTime pipeline)
    (enabled : engine.enabled stimulus) (guarded : LengthGuard requestId engine stimulus)
    {after : SpecPipeline}
    (present : (next sha256 engine stimulus).pipelines requestId = some after) :
    MarkedInTime after := by
  have change := next_change_sent sha256 enabled requestId
  rw [present] at change
  generalize beforeEq : engine.pipelines requestId = before at change
  generalize sent sha256 engine stimulus requestId = emitted at change
  generalize afterEq : some after = outcome at change
  cases change with
  | idle => exact marked after (beforeEq.trans afterEq.symm)
  | rejected => exact marked after (beforeEq.trans afterEq.symm)
  | redispatched => cases afterEq; exact marked after beforeEq
  | stale => cases afterEq; exact fun state phase => marked _ beforeEq state phase
  | parked => cases afterEq; exact fun state phase => marked _ beforeEq state phase
  | panicked => cases afterEq; exact fun state phase => marked _ beforeEq state phase
  | redrafted => cases afterEq; exact fun state phase => marked _ beforeEq state phase
  | started => cases afterEq; rintro state ⟨⟩
  | counted => cases afterEq; rintro state ⟨⟩
  | drafted => cases afterEq; rintro state ⟨⟩
  | roundCompleted => cases afterEq; rintro state ⟨⟩
  | @relayed _ wallet result pipeline pos currentInput isPrompt about assigned relaying =>
      cases afterEq
      intro state phase
      cases before : pipeline.phase with
      | promptProcessing => simp [relayOutput, contribute, before, Phase.advance] at phase
      | verifying => simp [relayOutput, contribute, before, Phase.advance] at phase
      | awaitingDraft => simp [before, Phase.relay] at relaying
      | awaitingRollback => simp [before, Phase.relay] at relaying
  | @verified _ wallet result pipeline pos currentInput draft logits outcome about assigned
      verifying last answered verified =>
      cases afterEq
      have stops := guarded wallet result pipeline pos currentInput draft logits rfl about assigned
        beforeEq verifying last answered (by simp [verified])
      have counted : greedyVerifyRound (contribute wallet pipeline).carry
        (contribute wallet pipeline).expected0 draft logits = some outcome := verified
      exact (markedInTime_settlePipeline_iff counted).mpr stops
  | @acked _ _ _ pipeline state about awaiting left =>
      cases afterEq
      rintro later ⟨⟩
      exact marked pipeline beforeEq state awaiting
  | _ => cases afterEq

/-- The row a step records for a request carries the length of the response its
marked round reached. -/
theorem tokenCount_of_sent {stimulus : Stimulus} {pipeline : SpecPipeline}
    (present : engine.pipelines requestId = some pipeline) (marked : MarkedInTime pipeline)
    (enabled : engine.enabled stimulus) {row : NewSubmission} {stored : Bool}
    (mem : .createSubmission row stored ∈ sent sha256 engine stimulus requestId) :
    pipeline.generatedTokenIds.length = pipeline.maxTokens.toNat ∧
      row.tokenCount = pipeline.maxTokens.toNat := by
  have change := next_change_sent sha256 enabled requestId
  rw [present] at change
  generalize (next sha256 engine stimulus).pipelines requestId = after at change
  generalize sent sha256 engine stimulus requestId = emitted at change mem
  cases change with
  | @finalized _ ack _ _ state wallet about awaiting complete final winner =>
      have reached := (marked state awaiting).mp final
      refine ⟨reached, ?_⟩
      rcases List.mem_append.mp mem with inAck | isRow
      · simp at inAck
      · cases List.mem_singleton.mp isRow
        rw [finalRow, reached]
        exact Nat.mod_eq_of_lt pipeline.maxTokens.toNat_lt
  | _ => simp at mem

/-- Along every run in which each verify pass stops in time, a round is marked
as the last exactly when it brought the response to its limit, and every
pipeline that finalizes commits exactly as many tokens as were asked for. -/
theorem finalizes_with_maxTokens {draftSources : PartialMap String DraftModelSource}
    {events : List Stimulus}
    (run : (system sha256).RunWith (LengthGuard requestId) (new draftSources) events engine)
    {pipeline : SpecPipeline} (present : engine.pipelines requestId = some pipeline) :
    (∀ state, pipeline.phase = .awaitingRollback state →
      (state.isFinalizingRound = true ↔
        pipeline.generatedTokenIds.length = pipeline.maxTokens.toNat)) ∧
      ∀ stimulus row stored, engine.enabled stimulus →
        .createSubmission row stored ∈ sent sha256 engine stimulus requestId →
        pipeline.generatedTokenIds.length = pipeline.maxTokens.toNat ∧
          row.tokenCount = pipeline.maxTokens.toNat := by
  have marked : ∀ pipeline, engine.pipelines requestId = some pipeline → MarkedInTime pipeline := by
    apply run.invariant (I := fun engine => ∀ pipeline,
      engine.pipelines requestId = some pipeline → MarkedInTime pipeline)
    · intro pipeline present
      simp [new] at present
    · intro state stimulus marked enabled guarded after present
      exact markedInTime_next marked enabled guarded present
  constructor
  · exact marked pipeline present
  · intro stimulus row stored enabled mem
    exact tokenCount_of_sent present (marked pipeline present) enabled mem

/-- The digest of the twelve bytes of the response `[2, 5, 6]`. -/
def digestOfThree : Digest := fun _ =>
  [127, 80, 128, 183, 215, 139, 194, 61, 110, 100, 104, 2, 240, 56, 162, 18,
    103, 66, 213, 247, 111, 203, 169, 229, 72, 239, 180, 3, 37, 143, 131, 82]

/-- Two rounds over one shard for a request of three tokens after a prompt of one, up to the
last acknowledgement of the shard. -/
def lengthEvents : List Stimulus :=
  [soleStart 1 3, soleAnswer 0 (some 2) none, soleTokenized 0 1, soleDraft [9],
    soleAnswer 0 none (some [3]), soleAck 0, soleAck draftSessionShardIndex, soleDraft [5, 9],
    soleAnswer 0 none (some [5, 6, 7]), soleAck 0]

theorem lengthGuard_of_plain {stimulus : Stimulus}
    (plain : ∀ wallet result, stimulus.event ≠ .shardResult wallet result) :
    LengthGuard requestId engine stimulus :=
  fun wallet result _ _ _ _ _ isResult => absurd isResult (plain wallet result)

/-- An instance of `finalizes_with_maxTokens`: the acknowledgement of the draft
session finalizes a request for three tokens with three tokens. -/
theorem finalizes_with_maxTokens_sole :
    ∃ row, .createSubmission row true ∈ sent digestOfThree
        ((system digestOfThree).execute soleEngine lengthEvents)
        (soleAck draftSessionShardIndex) "r" ∧ row.tokenCount = 3 := by
  have run : (system digestOfThree).RunWith (LengthGuard "r") soleEngine lengthEvents
      ((system digestOfThree).execute soleEngine lengthEvents) := by
    apply System.Admits.runWith
    refine ⟨⟨trivial, lengthGuard_of_plain nofun⟩, ⟨trivial, ?_⟩,
      ⟨nofun, lengthGuard_of_plain nofun⟩, ⟨trivial, lengthGuard_of_plain nofun⟩,
      ⟨trivial, ?_⟩, ⟨trivial, lengthGuard_of_plain nofun⟩,
      ⟨trivial, lengthGuard_of_plain nofun⟩, ⟨trivial, lengthGuard_of_plain nofun⟩,
      ⟨trivial, ?_⟩, ⟨trivial, lengthGuard_of_plain nofun⟩, trivial⟩
    · rintro wallet result pipeline pos currentInput draft logits ⟨⟩ - - ⟨⟩ ⟨⟩
    · rintro wallet result pipeline pos currentInput draft logits ⟨⟩ - - ⟨⟩ ⟨⟩ - ⟨⟩ -
      exact .inr (by decide)
    · rintro wallet result pipeline pos currentInput draft logits ⟨⟩ - - ⟨⟩ ⟨⟩ - ⟨⟩ -
      exact .inl (by decide)
  have recorded : .createSubmission
      ⟨"miner", "r", some "model", some "prompt-hash",
        "7f5080b7d78bc23d6e646802f038a2126742d5f76fcba9e548efb403258f8352",
        "020000000500000006000000", 3⟩ true ∈
      sent digestOfThree ((system digestOfThree).execute soleEngine lengthEvents)
        (soleAck draftSessionShardIndex) "r" := by
    decide
  exact ⟨_, recorded, ((finalizes_with_maxTokens run rfl).2 (soleAck draftSessionShardIndex) _ true
    trivial recorded).2⟩

/-- The digest of the four bytes of the response `[2]`. -/
def digestOfTwo : Digest := fun _ =>
  [38, 178, 93, 69, 117, 151, 167, 176, 70, 63, 150, 32, 246, 102, 221, 16,
    170, 44, 67, 115, 165, 5, 150, 124, 124, 141, 112, 146, 42, 45, 110, 206]

/-- One round over one shard for a request of four tokens after a prompt of
five, up to its last acknowledgement. -/
def shortEvents : List Stimulus :=
  [soleStart 1 4, soleAnswer 0 (some 2) none, soleTokenized 0 5, soleDraft [9],
    soleAnswer 0 none (some [7]), soleAck 0, soleAck draftSessionShardIndex]

/-- A next-token function that continues contexts of five tokens with `2` and
all others with `7`. -/
def fiveToken (context : List TokenId) : TokenId :=
  if context.length = 5 then 2 else 7

/-- A prompt longer than the limit ends the response after one round: an
honestly served request for four tokens is finalized with one. -/
theorem finalizes_short_after_long_prompt :
    (system digestOfTwo).RunWith (fun engine stimulus =>
        Honest fiveToken (fun _ => [0, 1, 2, 3, 4]) "r" engine stimulus ∧
          Undisturbed "r" engine stimulus) soleEngine
        shortEvents ((system digestOfTwo).execute soleEngine shortEvents) ∧
      ∃ row, .createSubmission row true ∈
          ((system digestOfTwo).execute soleEngine shortEvents).history "r" ∧
        row.tokenCount = 1 ∧ row.tokenCount ≠ (4 : UInt32).toNat := by
  constructor
  · apply System.Admits.runWith
    refine ⟨⟨trivial, trivial, fun _ => fresh_new _ _, nofun⟩,
      ⟨trivial, ?_, undisturbed_of_plain id nofun⟩, ⟨nofun, trivial, nofun, ?_⟩,
      ⟨trivial, trivial, undisturbed_of_plain id nofun⟩,
      ⟨trivial, ?_, undisturbed_of_plain id nofun⟩,
      ⟨trivial, trivial, undisturbed_of_plain id nofun⟩,
      ⟨trivial, trivial, undisturbed_of_plain id nofun⟩, trivial⟩
    · rintro pipeline - - ⟨⟩ - t0 ⟨⟩
      rfl
    · rintro _ _ call pipeline state ⟨⟩ ⟨⟩ - ⟨⟩ ⟨⟩
    · rintro pipeline - - ⟨⟩ - tokenIds ⟨⟩
      rfl
  · refine ⟨⟨"miner", "r", some "model", some "prompt-hash",
      "26b25d457597a7b0463f9620f666dd10aa2c4373a505967c7c8d70922a2d6ece", "02000000", 1⟩, ?_⟩
    decide

end SpeculativeEngine

end StratumBridge.Speculative
