import StratumBridge.Speculative.Outcomes

/-!
# Key-value positions

A pipeline's `base` counts the positions of the key-value cache that are
committed before a round.  It is seeded with a token count of whatever input
the prompt phase holds when its last shard answers, which is the prompt only if
that shard is also the first.  Where the seed is the prompt's own count, every
round keeps `base` in step with the prompt and the generated tokens, and every
rollback asks for the right position.
-/

namespace StratumBridge.Speculative

open Data Rpc Wire Transition

/-- The tokens generated before the current round. -/
def committedBefore (pipeline : SpecPipeline) : Nat :=
  match pipeline.phase with
  | .awaitingRollback state => pipeline.generatedTokenIds.length - (state.acceptedCount + 1)
  | _ => pipeline.generatedTokenIds.length

/-- After the prompt phase, base and carry account for the prompt and for all
tokens generated before the current round. -/
def PositionsAgree (count : String → Nat) (pipeline : SpecPipeline) : Prop :=
  (∀ pos currentInput, pipeline.phase ≠ .promptProcessing pos currentInput) →
    pipeline.base + carryLen pipeline.carry =
      count pipeline.promptHex + committedBefore pipeline

/-- A rollback keeps the prompt and all generated tokens but the last. -/
def RollbackAgrees (count : String → Nat) (pipeline : SpecPipeline)
    (rollback : OpoiKvRollback) : Prop :=
  rollback.keepUntilPos = count pipeline.promptHex + pipeline.generatedTokenIds.length - 1

namespace SpeculativeEngine

variable {count : String → Nat} {requestId : RequestId} {sha256 : Digest}
variable {engine : SpeculativeEngine}

/-- The tokenizer is a fixed function of the prompt. -/
def Tokenizes (count : String → Nat) (engine : SpeculativeEngine) (stimulus : Stimulus) : Prop :=
  ∀ ticket tokenCount call, stimulus.event = .tokenized ticket (some tokenCount) →
    engine.calls ticket = some call → tokenCount = count call.promptHex

/-- The conditions on a step under which the positions of one request stay
right: its pipeline is started afresh, with one shard or without a prompt; its
prompt pass completes before its first round does; and the position kept by a
verify pass fits the wire. -/
def PositionGuard (requestId : RequestId) (engine : SpeculativeEngine) (stimulus : Stimulus) :
    Prop :=
  match stimulus.event with
  | .startPipeline target _ shards _ promptHex _ _ =>
      target = requestId → engine.Fresh requestId ∧ (shards.length = 1 ∨ promptHex = "")
  | .tokenized ticket _ =>
      ∀ call pipeline, engine.calls ticket = some call → call.requestId = requestId →
        engine.pipelines requestId = some pipeline → pipeline.generatedTokenIds = []
  | .shardResult _ result =>
      ∀ pipeline pos currentInput draft logits, result.requestId = requestId →
        engine.pipelines requestId = some pipeline →
        pipeline.phase = .verifying pos currentInput draft →
        result.nextTokenIds = some logits →
        kvKeepLen pipeline.base pipeline.carry
          (Sequence.agreement draft (expectedAlong pipeline.carry pipeline.expected0 logits)) <
            2 ^ 32
  | _ => True

/-! ## The invariant -/

/-- The positions of a pipeline, phase by phase. -/
structure PipelinePosition (count : String → Nat) (pipeline : SpecPipeline) : Prop where
  seedable : pipeline.shards.length = 1 ∨ pipeline.promptHex = ""
  carried : pipeline.carry.isSome → pipeline.generatedTokenIds ≠ []
  prompting : ∀ pos currentInput, pipeline.phase = .promptProcessing pos currentInput →
    pipeline.generatedTokenIds = [] ∧
      (∀ promptHex, currentInput = .prompt promptHex → promptHex = pipeline.promptHex) ∧
      (pos = 0 → currentInput = .prompt pipeline.promptHex)
  rounds : pipeline.phase = .awaitingDraft ∨
      (∃ pos currentInput draft, pipeline.phase = .verifying pos currentInput draft) →
    pipeline.base + carryLen pipeline.carry =
      count pipeline.promptHex + pipeline.generatedTokenIds.length
  settling : ∀ state, pipeline.phase = .awaitingRollback state →
    state.keepLen = pipeline.base + carryLen pipeline.carry + state.acceptedCount ∧
      state.keepLen + 1 = count pipeline.promptHex + pipeline.generatedTokenIds.length ∧
      state.acceptedCount + 1 ≤ pipeline.generatedTokenIds.length

theorem PipelinePosition.agree {pipeline : SpecPipeline}
    (position : PipelinePosition count pipeline) : PositionsAgree count pipeline := by
  intro notPrompting
  cases phase : pipeline.phase with
  | promptProcessing pos currentInput => exact absurd phase (notPrompting pos currentInput)
  | awaitingDraft =>
      rw [committedBefore, phase]
      exact position.rounds (.inl phase)
  | verifying pos currentInput draft =>
      rw [committedBefore, phase]
      exact position.rounds (.inr ⟨pos, currentInput, draft, phase⟩)
  | awaitingRollback state =>
      obtain ⟨kept, total, enough⟩ := position.settling state phase
      simp only [committedBefore, phase]
      omega

/-- The invariant of one request: the position of its pipeline, the prompt held
by each of its parked calls, and the place of its draft in flight. -/
structure RequestPosition (count : String → Nat) (requestId : RequestId)
    (engine : SpeculativeEngine) : Prop where
  pipeline : ∀ pipeline, engine.pipelines requestId = some pipeline →
    PipelinePosition count pipeline
  calls : ∀ ticket call pipeline, engine.calls ticket = some call → call.requestId = requestId →
    engine.pipelines requestId = some pipeline → call.promptHex = pipeline.promptHex
  awaited : engine.DraftsAwaited requestId

theorem pipelinePosition_initialPipeline {manifest : ModelManifest}
    {shards : List ShardDescriptor} {maxTokens : UInt32} {promptHex promptHash : String}
    {source : ModelSource} {draftSource : DraftModelSource}
    (seedable : shards.length = 1 ∨ promptHex = "") :
    PipelinePosition count
      (initialPipeline manifest shards maxTokens promptHex promptHash source draftSource) where
  seedable := by simpa [initialPipeline] using seedable
  carried := by simp [initialPipeline]
  prompting := by
    rintro pos currentInput ⟨⟩
    exact ⟨rfl, fun _ same => by cases same; rfl, fun _ => rfl⟩
  rounds := by simp [initialPipeline]
  settling := by simp [initialPipeline]

/-- What a step leaves alone leaves the position alone. -/
theorem PipelinePosition.of_same {pipeline after : SpecPipeline}
    (position : PipelinePosition count pipeline) (job : SameJob pipeline after)
    (base : after.base = pipeline.base) (carry : after.carry = pipeline.carry)
    (phase : after.phase = pipeline.phase)
    (generated : after.generatedTokenIds = pipeline.generatedTokenIds) :
    PipelinePosition count after := by
  constructor
  · rw [job.shards, job.promptHex]
    exact position.seedable
  · rw [carry, generated]
    exact position.carried
  · rw [phase, generated, job.promptHex]
    exact position.prompting
  · rw [phase, base, carry, generated, job.promptHex]
    exact position.rounds
  · rw [phase, base, carry, generated, job.promptHex]
    exact position.settling

/-- Handing the relay on keeps the position. -/
theorem pipelinePosition_relayOutput {pipeline : SpecPipeline}
    (position : PipelinePosition count pipeline) (result : OpoiShardResult) :
    PipelinePosition count (relayOutput pipeline result) := by
  cases phase : pipeline.phase with
  | promptProcessing pos currentInput =>
      obtain ⟨nothing, -, -⟩ := position.prompting pos currentInput phase
      constructor
      · exact position.seedable
      · exact position.carried
      · intro newPos newInput newPhase
        simp only [relayOutput, phase, Phase.advance, Phase.promptProcessing.injEq] at newPhase
        rcases newPhase with ⟨rfl, rfl⟩
        exact ⟨nothing, by simp, by simp⟩
      · simp [relayOutput, phase, Phase.advance]
      · simp [relayOutput, phase, Phase.advance]
  | verifying pos currentInput draft =>
      constructor
      · exact position.seedable
      · exact position.carried
      · simp [relayOutput, phase, Phase.advance]
      · exact fun _ => position.rounds (.inr ⟨pos, currentInput, draft, phase⟩)
      · simp [relayOutput, phase, Phase.advance]
  | awaitingDraft =>
      exact position.of_same ⟨rfl, rfl, rfl, rfl, rfl, rfl, rfl⟩ rfl rfl
        (by simp [relayOutput, phase, Phase.advance]) rfl
  | awaitingRollback state =>
      exact position.of_same ⟨rfl, rfl, rfl, rfl, rfl, rfl, rfl⟩ rfl rfl
        (by simp [relayOutput, phase, Phase.advance]) rfl

/-- A pipeline that waits for a draft is positioned once its base and carry
account for everything generated. -/
theorem pipelinePosition_of_awaitingDraft {pipeline : SpecPipeline}
    (awaiting : pipeline.phase = .awaitingDraft)
    (seedable : pipeline.shards.length = 1 ∨ pipeline.promptHex = "")
    (carried : pipeline.carry.isSome → pipeline.generatedTokenIds ≠ [])
    (total : pipeline.base + carryLen pipeline.carry =
      count pipeline.promptHex + pipeline.generatedTokenIds.length) :
    PipelinePosition count pipeline :=
  ⟨seedable, carried, by simp [awaiting], fun _ => total, by simp [awaiting]⟩

/-- A verify pass that starts in position ends in position. -/
theorem pipelinePosition_settlePipeline {pipeline : SpecPipeline} {draft logits : List TokenId}
    {outcome : RoundOutcome} {pos : Nat} {currentInput : ShardInputWire}
    (position : PipelinePosition count pipeline)
    (verifying : pipeline.phase = .verifying pos currentInput draft)
    (verified : greedyVerifyRound pipeline.carry pipeline.expected0 draft logits =
      some outcome) :
    PipelinePosition count (settlePipeline pipeline draft outcome) := by
  have total := position.rounds (.inr ⟨pos, currentInput, draft, verifying⟩)
  have bound := acceptedCount_le verified
  have grown : (settlePipeline pipeline draft outcome).generatedTokenIds.length =
      pipeline.generatedTokenIds.length + outcome.acceptedCount + 1 := by
    simp only [settlePipeline, recordOutcome, List.length_append, List.length_take,
      List.length_singleton]
    omega
  constructor
  · exact position.seedable
  · intro _ nothing
    rw [nothing] at grown
    simp at grown
  · simp [settlePipeline]
  · simp [settlePipeline]
  · intro state phase
    cases phase
    refine ⟨rfl, ?_, ?_⟩
    · rw [grown]
      simp only [settlePipeline, recordOutcome, rollbackState, kvKeepLen]
      omega
    · rw [grown]
      simp only [rollbackState]
      omega

/-- Everything but a start keeps the position of a pipeline. -/
theorem pipelinePosition_change {stimulus : Stimulus} {pipeline after : SpecPipeline}
    {emitted : List Effect} (position : PipelinePosition count pipeline)
    (present : engine.pipelines requestId = some pipeline)
    (calls : ∀ ticket call, engine.calls ticket = some call → call.requestId = requestId →
      call.promptHex = pipeline.promptHex)
    (awaited : engine.DraftsAwaited requestId)
    (tokenizes : Tokenizes count engine stimulus)
    (guarded : PositionGuard requestId engine stimulus)
    (notStart : ¬ stimulus.event.Starts requestId)
    (change : Change sha256 engine requestId stimulus (some pipeline) (some after) emitted) :
    PipelinePosition count after := by
  have unmoved : ∀ wallet, PipelinePosition count (contribute wallet pipeline) := fun _ =>
    position.of_same ⟨rfl, rfl, rfl, rfl, rfl, rfl, rfl⟩ rfl rfl rfl rfl
  cases change with
  | idle => exact position
  | rejected => exact position
  | redispatched => exact position
  | started => exact absurd rfl notStart
  | stale => exact unmoved _
  | relayed => exact pipelinePosition_relayOutput (unmoved _) _
  | parked => exact unmoved _
  | panicked => exact unmoved _
  | redrafted => exact position.of_same ⟨rfl, rfl, rfl, rfl, rfl, rfl, rfl⟩ rfl rfl rfl rfl
  | @verified _ wallet _ _ _ _ _ _ _ about assigned verifying last answered verified =>
      exact pipelinePosition_settlePipeline (unmoved wallet) verifying verified
  | @counted _ ticket call base _ parked about =>
      have nothing := guarded call pipeline parked about present
      have noCarry : pipeline.carry = none := by
        cases carry : pipeline.carry with
        | none => rfl
        | some token => exact absurd nothing (position.carried (by simp [carry]))
      apply pipelinePosition_of_awaitingDraft
      · rfl
      · exact position.seedable
      · exact position.carried
      · simp only [repin, seedRounds, noCarry, nothing, carryLen_none, List.length_nil]
        rw [tokenizes ticket base call rfl parked, calls ticket call parked about]
  | @drafted _ _ result _ about assigned nonempty =>
      have total := position.rounds (.inl (awaited _ pipeline assigned present))
      exact ⟨position.seedable, position.carried, by simp [beginVerify], fun _ => total,
        by simp [beginVerify]⟩
  | @acked _ _ _ _ state about awaiting left =>
      refine ⟨position.seedable, position.carried, by simp [acknowledge], by simp [acknowledge], ?_⟩
      intro later phase
      cases phase
      exact position.settling state awaiting
  | @roundCompleted _ _ _ _ state about awaiting complete notFinal =>
      obtain ⟨kept, total, enough⟩ := position.settling state awaiting
      apply pipelinePosition_of_awaitingDraft
      · rfl
      · exact position.seedable
      · intro _ nothing
        have none : pipeline.generatedTokenIds = [] := nothing
        simp [none] at enough
      · exact total

/-- The prompt held by a call that a guarded step parks is the pipeline's. -/
theorem promptHex_of_parks {stimulus : Stimulus} {call : TokenizeCall}
    {pipeline : SpecPipeline} (position : PipelinePosition count pipeline)
    (present : engine.pipelines call.requestId = some pipeline)
    (parks : Parks engine stimulus call) :
    call.promptHex = pipeline.promptHex := by
  cases parks with
  | @intro registry wallet result found pos currentInput t0 assigned before prompting last
      answered =>
      rw [before] at present
      cases present
      obtain ⟨-, same, first⟩ := position.prompting pos currentInput prompting
      cases currentInput with
      | prompt promptHex => exact same promptHex rfl
      | _ =>
          rcases position.seedable with oneShard | noPrompt
          · have start := first (by omega)
            cases start
          · exact noPrompt.symm

/-- One guarded step keeps the invariant. -/
theorem RequestPosition.next {stimulus : Stimulus}
    (position : RequestPosition count requestId engine) (enabled : engine.enabled stimulus)
    (tokenizes : Tokenizes count engine stimulus)
    (guarded : PositionGuard requestId engine stimulus) :
    RequestPosition count requestId (next sha256 engine stimulus) := by
  obtain ⟨emitted, -, change⟩ := next_change sha256 enabled requestId
  have fresh : stimulus.event.Starts requestId → engine.Fresh requestId := by
    rcases stimulus with ⟨registry, event⟩
    intro starts
    cases event with
    | startPipeline target => exact (guarded starts).1
    | _ => exact absurd starts id
  constructor
  · intro after present
    rw [present] at change
    by_cases starts : stimulus.event.Starts requestId
    · rw [(fresh starts).pipeline] at change
      cases change with
      | started => exact pipelinePosition_initialPipeline (guarded rfl).2
    · obtain ⟨pipeline, before, -⟩ := change.origin.resolve_left starts
      rw [before] at change
      exact pipelinePosition_change (position.pipeline pipeline before) before
        (fun ticket call parked about => position.calls ticket call pipeline parked about before)
        position.awaited tokenizes guarded starts change
  · intro ticket call after parked about present
    rw [present] at change
    rcases next_calls sha256 parked with earlier | ⟨-, parks⟩
    · by_cases starts : stimulus.event.Starts requestId
      · exact absurd about ((fresh starts).calls ticket call earlier)
      · obtain ⟨pipeline, before, job⟩ := change.origin.resolve_left starts
        rw [job.promptHex]
        exact position.calls ticket call pipeline earlier about before
    · have notStart : ¬ stimulus.event.Starts requestId := by
        cases parks
        exact id
      obtain ⟨pipeline, before, job⟩ := change.origin.resolve_left notStart
      rw [job.promptHex]
      cases about
      exact promptHex_of_parks (position.pipeline pipeline before) before parks
  · exact position.awaited.next enabled fun starts => (fresh starts).draftAssignment

theorem requestPosition_of_run {draftSources : PartialMap String DraftModelSource}
    {events : List Stimulus}
    (run : (system sha256).RunWith
      (fun engine stimulus => Tokenizes count engine stimulus ∧
        PositionGuard requestId engine stimulus) (new draftSources) events engine) :
    RequestPosition count requestId engine := by
  apply run.invariant
  · exact ⟨fun _ present => by simp [new] at present, fun _ _ _ parked => by simp [new] at parked,
      fun _ _ assigned => by simp [new] at assigned⟩
  · rintro state stimulus position enabled ⟨tokenizes, guarded⟩
    exact position.next enabled tokenizes guarded

/-- The rollbacks a guarded step sends ask for the right position. -/
theorem rollbackAgrees_of_sent {stimulus : Stimulus}
    (position : RequestPosition count requestId engine) (enabled : engine.enabled stimulus)
    (guarded : PositionGuard requestId engine stimulus) {wallet : Wallet} {tx : Channel}
    {rollback : OpoiKvRollback}
    (mem : .kvRollback wallet tx rollback ∈ sent sha256 engine stimulus requestId) :
    ∃ after, (next sha256 engine stimulus).pipelines requestId = some after ∧
      RollbackAgrees count after rollback := by
  have change := next_change_sent sha256 enabled requestId
  generalize beforeEq : engine.pipelines requestId = before at change
  generalize afterEq : (next sha256 engine stimulus).pipelines requestId = after at change
  generalize sent sha256 engine stimulus requestId = emitted at change mem
  cases change with
  | @verified _ sender result pipeline pos currentInput draft logits outcome about assigned
      verifying last answered verified =>
      rcases List.mem_cons.mp mem with isAccepted | inLines
      · cases isAccepted
      · refine ⟨_, rfl, ?_⟩
        have fits :=
          guarded pipeline pos currentInput draft logits about beforeEq verifying answered
        rw [← (outcome_of_greedyVerifyRound verified).1] at fits
        have counted : PipelinePosition count (contribute sender pipeline) :=
          (position.pipeline pipeline beforeEq).of_same ⟨rfl, rfl, rfl, rfl, rfl, rfl, rfl⟩
            rfl rfl rfl rfl
        have settled := pipelinePosition_settlePipeline counted verifying verified
        obtain ⟨-, total, -⟩ := settled.settling _ rfl
        rw [RollbackAgrees, keepUntilPos_of_mem_rollbackLines inLines, Nat.mod_eq_of_lt fits,
          ← total]
        rfl
  | _ => simp at mem

/-- Along every run whose steps meet `PositionGuard`, with a tokenizer that is a
function of the prompt, the positions of a pipeline agree with its prompt and
its tokens, and so does every rollback it sends. -/
theorem positions_agree {draftSources : PartialMap String DraftModelSource}
    {events : List Stimulus}
    (run : (system sha256).RunWith
      (fun engine stimulus => Tokenizes count engine stimulus ∧
        PositionGuard requestId engine stimulus) (new draftSources) events engine) :
    (∀ pipeline, engine.pipelines requestId = some pipeline → PositionsAgree count pipeline) ∧
      ∀ stimulus wallet tx rollback, engine.enabled stimulus →
        PositionGuard requestId engine stimulus →
        .kvRollback wallet tx rollback ∈ sent sha256 engine stimulus requestId →
        ∃ after, (next sha256 engine stimulus).pipelines requestId = some after ∧
          RollbackAgrees count after rollback := by
  have position := requestPosition_of_run run
  constructor
  · intro pipeline present
    exact (position.pipeline pipeline present).agree
  · intro stimulus wallet tx rollback enabled guarded mem
    exact rollbackAgrees_of_sent position enabled guarded mem

/-- A prompt pass over one shard and a draft, up to the verify dispatch. -/
def positionEvents : List Stimulus :=
  [soleStart 1 9, soleAnswer 0 (some 2) none, soleTokenized 0 2, soleDraft [2, 3, 9]]

/-- An instance of `positions_agree`: the first rollback of a request over one
shard, with two prompt tokens and three generated ones. -/
theorem positions_agree_sole :
    (∃ pipeline, ((system id).execute soleEngine positionEvents).pipelines "r" = some pipeline ∧
      PositionsAgree soleCount pipeline) ∧
      ∃ after, (next id ((system id).execute soleEngine positionEvents)
          (soleAnswer 0 none (some [3, 4, 5]))).pipelines "r" = some after ∧
        RollbackAgrees soleCount after ⟨"r", 0, 4, false⟩ := by
  have run : (system id).RunWith
      (fun engine stimulus => Tokenizes soleCount engine stimulus ∧
        PositionGuard "r" engine stimulus) soleEngine positionEvents
      ((system id).execute soleEngine positionEvents) := by
    apply System.Admits.runWith
    refine ⟨⟨trivial, by rintro _ _ _ ⟨⟩, fun _ => ⟨fresh_new _ _, .inl rfl⟩⟩,
      ⟨trivial, by rintro _ _ _ ⟨⟩, ?_⟩, ⟨nofun, ?_, ?_⟩,
      ⟨trivial, by rintro _ _ _ ⟨⟩, trivial⟩, trivial⟩
    · rintro pipeline pos currentInput draft logits - ⟨⟩ ⟨⟩
    · rintro ticket tokenCount call ⟨⟩ ⟨⟩
      rfl
    · rintro call pipeline ⟨⟩ - ⟨⟩
      rfl
  constructor
  · exact ⟨_, rfl, (positions_agree run).1 _ rfl⟩
  · apply (positions_agree run).2 (soleAnswer 0 none (some [3, 4, 5])) "miner" 0
      ⟨"r", 0, 4, false⟩ trivial
    · rintro pipeline pos currentInput draft logits - ⟨⟩ ⟨⟩ ⟨⟩
      decide
    · decide

/-- A prompt pass over two shards, up to the draft dispatch. -/
def twoShardEvents : List Stimulus :=
  [soleStart 2 9, soleAnswer 0 none none, soleAnswer 1 (some 2) none, soleTokenized 0 1]

/-- With two shards the last one answers for a tensor, so the base is seeded
with the count of the empty text and not with the count of the prompt. -/
theorem positions_disagree_over_two_shards :
    (∀ promptHex, promptHex ≠ "" → soleCount "" < soleCount promptHex) ∧
      ∃ events engine pipeline,
        (system id).RunWith
          (fun engine stimulus => Tokenizes soleCount engine stimulus ∧
            (stimulus.event.Starts "r" → engine.Fresh "r")) soleEngine events engine ∧
        engine.pipelines "r" = some pipeline ∧ ¬ PositionsAgree soleCount pipeline := by
  constructor
  · intro promptHex nonempty
    have positive : 0 < promptHex.length := by
      rw [Nat.pos_iff_ne_zero]
      intro zero
      exact nonempty (String.length_eq_zero_iff.mp zero)
    simp only [soleCount, String.length_empty]
    omega
  · refine ⟨twoShardEvents, (system id).execute soleEngine twoShardEvents, _, ?_, rfl, ?_⟩
    · apply System.Admits.runWith
      refine ⟨⟨trivial, by rintro _ _ _ ⟨⟩, fun _ => fresh_new _ _⟩,
        ⟨trivial, by rintro _ _ _ ⟨⟩, nofun⟩, ⟨trivial, by rintro _ _ _ ⟨⟩, nofun⟩,
        ⟨nofun, ?_, nofun⟩, trivial⟩
      rintro ticket tokenCount call ⟨⟩ ⟨⟩
      rfl
    · intro agree
      have wrong := agree (by rintro _ _ ⟨⟩)
      exact absurd wrong (by decide)

end SpeculativeEngine

end StratumBridge.Speculative
