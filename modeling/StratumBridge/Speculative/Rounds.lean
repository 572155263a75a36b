import StratumBridge.Speculative.Phases

/-!
# The number of rounds

A draft may be worthless, and still its round moves the request on: the token that
settles the round is the target's own.  As long as the phases stay in order and no
position outgrows 32 bits, a request is therefore through after one round more than
the tokens it asks for, however bad the drafts are.
-/

namespace StratumBridge.Speculative

open Data Rpc Wire Transition

namespace SpecPipeline

/-- The positions that are settled when a round begins: those of the cache, and the
carried token. -/
def settled (pipeline : SpecPipeline) : Nat :=
  pipeline.base + carryLen pipeline.carry

/-- So many rounds are over, and the next may begin. -/
structure Completed (pipeline : SpecPipeline) (rounds : Nat) : Prop where
  generated : rounds ≤ pipeline.generatedTokenIds.length
  settled : rounds ≤ pipeline.settled
  limit : rounds ≠ 0 → pipeline.settled ≤ pipeline.maxTokens.toNat

/-- A verify pass has ended a round, and its rollback is under way. -/
structure Settling (pipeline : SpecPipeline) (state : RollbackState) : Prop where
  generated : pipeline.round ≤ pipeline.generatedTokenIds.length
  kept : pipeline.round ≤ state.keepLen + 1
  limit : pipeline.round ≤ pipeline.maxTokens.toNat + 1
  goesOn : state.isFinalizingRound = false → state.keepLen + 1 ≤ pipeline.maxTokens.toNat

/-- The invariant: how many rounds a pipeline has seen, phase by phase. -/
structure Paced (pipeline : SpecPipeline) : Prop where
  prompting : pipeline.phase.isPrompting = true → pipeline.round = 0 ∧ pipeline.carry = none
  waiting : pipeline.phase = .awaitingDraft → pipeline.Completed pipeline.round
  verifying : ∀ pos currentInput draft, pipeline.phase = .verifying pos currentInput draft →
    ∃ before, pipeline.round = before + 1 ∧ pipeline.Completed before
  settling : ∀ state, pipeline.phase = .awaitingRollback state → pipeline.Settling state

variable {pipeline after : SpecPipeline}

theorem Completed.le_limit {rounds : Nat} (completed : pipeline.Completed rounds) :
    rounds ≤ pipeline.maxTokens.toNat := by
  by_cases none : rounds = 0
  · omega
  · exact completed.settled.trans (completed.limit none)

/-- What a pacing says about the number of rounds. -/
theorem Paced.round_le (paced : pipeline.Paced) :
    pipeline.round ≤ pipeline.generatedTokenIds.length + 1 ∧
      pipeline.round ≤ pipeline.maxTokens.toNat + 1 := by
  cases phase : pipeline.phase with
  | promptProcessing pos currentInput =>
      rw [(paced.prompting (by rw [phase]; rfl)).1]
      exact ⟨Nat.zero_le _, Nat.zero_le _⟩
  | awaitingDraft =>
      have completed := paced.waiting phase
      exact ⟨completed.generated.trans (Nat.le_succ _), completed.le_limit.trans (Nat.le_succ _)⟩
  | verifying pos currentInput draft =>
      obtain ⟨before, round, completed⟩ := paced.verifying pos currentInput draft phase
      rw [round]
      exact ⟨Nat.succ_le_succ completed.generated, Nat.succ_le_succ completed.le_limit⟩
  | awaitingRollback state =>
      have settling := paced.settling state phase
      exact ⟨settling.generated.trans (Nat.le_succ _), settling.limit⟩

/-- A pipeline with the same rounds and tokens in the same phase is paced alike. -/
theorem Paced.of_same (paced : pipeline.Paced)
    (positions : after.base = pipeline.base ∧ after.carry = pipeline.carry)
    (asked : after.maxTokens = pipeline.maxTokens) (round : after.round = pipeline.round)
    (generated : after.generatedTokenIds = pipeline.generatedTokenIds)
    (phase : after.phase = pipeline.phase) : after.Paced := by
  have completed {rounds : Nat} (before : pipeline.Completed rounds) : after.Completed rounds := by
    have same : after.settled = pipeline.settled := by
      rw [settled, settled, positions.1, positions.2]
    constructor
    · rw [generated]
      exact before.generated
    · rw [same]
      exact before.settled
    · rw [same, asked]
      exact before.limit
  constructor
  · rw [phase, round, positions.2]
    exact paced.prompting
  · intro waiting
    rw [round]
    exact completed (paced.waiting (phase.symm.trans waiting))
  · intro pos currentInput draft verifying
    obtain ⟨before, seen, ended⟩ :=
      paced.verifying pos currentInput draft (phase.symm.trans verifying)
    exact ⟨before, round.trans seen, completed ended⟩
  · intro state settling
    obtain ⟨grown, kept, limit, goesOn⟩ := paced.settling state (phase.symm.trans settling)
    constructor
    · rw [round, generated]
      exact grown
    · rw [round]
      exact kept
    · rw [round, asked]
      exact limit
    · rw [asked]
      exact goesOn

/-- Only the phase with which a pipeline is paced needs a look. -/
theorem paced_of_prompting (prompting : pipeline.phase.isPrompting = true)
    (unused : pipeline.round = 0 ∧ pipeline.carry = none) : pipeline.Paced := by
  constructor
  · exact fun _ => unused
  · intro waiting
    rw [waiting] at prompting
    cases prompting
  · intro pos currentInput draft verifying
    rw [verifying] at prompting
    cases prompting
  · intro state settling
    rw [settling] at prompting
    cases prompting

theorem paced_of_waiting (waiting : pipeline.phase = .awaitingDraft)
    (completed : pipeline.Completed pipeline.round) : pipeline.Paced := by
  constructor
  · intro prompting
    rw [waiting] at prompting
    cases prompting
  · exact fun _ => completed
  · intro pos currentInput draft verifying
    rw [waiting] at verifying
    cases verifying
  · intro state settling
    rw [waiting] at settling
    cases settling

theorem paced_of_verifying {pos before : Nat} {currentInput : ShardInputWire}
    {draft : List TokenId} (verifying : pipeline.phase = .verifying pos currentInput draft)
    (round : pipeline.round = before + 1) (completed : pipeline.Completed before) :
    pipeline.Paced := by
  constructor
  · intro prompting
    rw [verifying] at prompting
    cases prompting
  · intro waiting
    rw [verifying] at waiting
    cases waiting
  · intro _ _ _ _
    exact ⟨before, round, completed⟩
  · intro state settling
    rw [verifying] at settling
    cases settling

theorem paced_of_settling {state : RollbackState}
    (settling : pipeline.phase = .awaitingRollback state) (held : pipeline.Settling state) :
    pipeline.Paced := by
  constructor
  · intro prompting
    rw [settling] at prompting
    cases prompting
  · intro waiting
    rw [settling] at waiting
    cases waiting
  · intro pos currentInput draft verifying
    rw [settling] at verifying
    cases verifying
  · intro later same
    rw [settling] at same
    cases same
    exact held

end SpecPipeline

namespace SpeculativeEngine

variable {sha256 : Digest} {engine : SpeculativeEngine} {requestId : RequestId}
variable {stimulus : Stimulus}

/-- No draft of the request reaches beyond the positions that 32 bits can count. -/
def DraftsFit (requestId : RequestId) (engine : SpeculativeEngine) : Prop :=
  ∀ pipeline pos currentInput draft, engine.pipelines requestId = some pipeline →
    pipeline.phase = .verifying pos currentInput draft →
    pipeline.base + draft.length + 1 < 2 ^ 32

/-- The relay's next step stays in its round. -/
theorem paced_relayOutput {pipeline : SpecPipeline} (paced : pipeline.Paced)
    (result : OpoiShardResult) :
    (relayOutput pipeline result).Paced := by
  cases phase : pipeline.phase with
  | promptProcessing pos currentInput =>
      apply SpecPipeline.paced_of_prompting
      · rw [relayOutput, phase]
        rfl
      · exact paced.prompting (by rw [phase]; rfl)
  | awaitingDraft =>
      have same : (relayOutput pipeline result).phase = pipeline.phase := by
        rw [relayOutput, phase]
        rfl
      exact paced.of_same ⟨rfl, rfl⟩ rfl rfl rfl same
  | verifying pos currentInput draft =>
      obtain ⟨before, round, completed⟩ := paced.verifying pos currentInput draft phase
      apply SpecPipeline.paced_of_verifying
      · rw [relayOutput, phase]
        rfl
      · exact round
      · exact ⟨completed.generated, completed.settled, completed.limit⟩
  | awaitingRollback state =>
      have same : (relayOutput pipeline result).phase = pipeline.phase := by
        rw [relayOutput, phase]
        rfl
      exact paced.of_same ⟨rfl, rfl⟩ rfl rfl rfl same

/-- A verify pass adds a token to the response and to the positions. -/
theorem paced_settlePipeline {pipeline : SpecPipeline} (paced : pipeline.Paced) {pos : Nat}
    {currentInput : ShardInputWire} {draft logits : List TokenId} {outcome : RoundOutcome}
    (verifying : pipeline.phase = .verifying pos currentInput draft)
    (verified : greedyVerifyRound pipeline.carry pipeline.expected0 draft logits = some outcome)
    (fits : pipeline.base + draft.length + 1 < 2 ^ 32) :
    (settlePipeline pipeline draft outcome).Paced := by
  obtain ⟨before, round, completed⟩ := paced.verifying pos currentInput draft verifying
  have accepted := acceptedCount_le verified
  have grown : (settlePipeline pipeline draft outcome).generatedTokenIds.length =
      pipeline.generatedTokenIds.length + outcome.acceptedCount + 1 := by
    simp only [settlePipeline, recordOutcome, List.length_append, List.length_take,
      List.length_singleton]
    omega
  have kept : kvKeepLen pipeline.base pipeline.carry outcome.acceptedCount =
      pipeline.settled + outcome.acceptedCount := rfl
  have one : carryLen pipeline.carry ≤ 1 := by
    rw [carryLen]
    split <;> omega
  apply SpecPipeline.paced_of_settling rfl
  constructor
  · rw [grown]
    have generated := completed.generated
    change pipeline.round ≤ _
    omega
  · have settled := completed.settled
    change pipeline.round ≤ kvKeepLen pipeline.base pipeline.carry outcome.acceptedCount + 1
    omega
  · have limit := completed.le_limit
    change pipeline.round ≤ pipeline.maxTokens.toNat + 1
    omega
  · intro goesOn
    change isFinalizingRound pipeline.base outcome.acceptedCount pipeline.maxTokens = false
      at goesOn
    change kvKeepLen pipeline.base pipeline.carry outcome.acceptedCount + 1 ≤
      pipeline.maxTokens.toNat
    rw [isFinalizingRound, decide_eq_false_iff_not, Nat.mod_eq_of_lt (by omega)] at goesOn
    rw [kept, SpecPipeline.settled]
    omega

/-- Every event keeps the pace of a pipeline. -/
theorem Change.paced {count : Nat} (phased : Phased requestId engine count)
    (fit : DraftsFit requestId engine) {before after : SpecPipeline} {emitted : List Effect}
    (present : engine.pipelines requestId = some before) (paced : before.Paced)
    (change : Change sha256 engine requestId stimulus (some before) (some after) emitted) :
    after.Paced := by
  have counted : ∀ wallet, (contribute wallet before).Paced := fun _ =>
    paced.of_same ⟨rfl, rfl⟩ rfl rfl rfl rfl
  cases change with
  | idle | rejected | redispatched => exact paced
  | started => exact SpecPipeline.paced_of_prompting rfl ⟨rfl, rfl⟩
  | stale | parked | panicked => exact counted _
  | relayed => exact paced_relayOutput (counted _) _
  | redrafted => exact paced.of_same ⟨rfl, rfl⟩ rfl rfl rfl rfl
  | verified about assigned verifying last answered verified =>
      exact paced_settlePipeline (counted _) verifying verified (fit before _ _ _ present verifying)
  | counted parked about =>
      obtain ⟨round, carry⟩ := paced.prompting (phased.parked _ _ _ parked about present)
      apply SpecPipeline.paced_of_waiting rfl
      change SpecPipeline.Completed _ before.round
      rw [round]
      exact ⟨Nat.zero_le _, Nat.zero_le _, fun some => absurd rfl some⟩
  | drafted about assigned =>
      have completed := paced.waiting (phased.drafts _ _ assigned present)
      apply SpecPipeline.paced_of_verifying rfl rfl
      exact ⟨completed.generated, completed.settled, completed.limit⟩
  | acked about awaiting =>
      have settling := paced.settling _ awaiting
      apply SpecPipeline.paced_of_settling rfl
      exact ⟨settling.generated, settling.kept, settling.limit, settling.goesOn⟩
  | roundCompleted about awaiting complete notFinal =>
      have settling := paced.settling _ awaiting
      apply SpecPipeline.paced_of_waiting rfl
      exact ⟨settling.generated, settling.kept,
        fun _ => settling.goesOn notFinal⟩

theorem phased_new (draftSources : PartialMap String DraftModelSource) :
    Phased requestId (new draftSources) 0 := by
  constructor
  · rintro wallet pipeline ⟨⟩
  · rintro ticket other call twin ⟨⟩
  · rintro ticket call pipeline ⟨⟩
  · rintro pipeline ⟨⟩
  · exact Nat.zero_le 1

/-- Every pipeline of the request is paced. -/
def AllPaced (requestId : RequestId) (engine : SpeculativeEngine) : Prop :=
  ∀ pipeline, engine.pipelines requestId = some pipeline → pipeline.Paced

theorem AllPaced.next {count : Nat} (paced : AllPaced requestId engine)
    (phased : Phased requestId engine count) (fit : DraftsFit requestId engine)
    (enabled : engine.enabled stimulus) :
    AllPaced requestId (next sha256 engine stimulus) := by
  intro after found
  have change := next_change_sent sha256 enabled requestId
  generalize sent sha256 engine stimulus requestId = emitted at change
  rw [found] at change
  cases before : engine.pipelines requestId with
  | none =>
      rw [before] at change
      cases change with
      | started => exact SpecPipeline.paced_of_prompting rfl ⟨rfl, rfl⟩
  | some earlier =>
      rw [before] at change
      exact change.paced phased fit before (paced earlier before)

/-- In every run in which the phases of a request stay in order and its drafts fit, its
pipeline has never begun more rounds than there are tokens in its response, and one;
nor more than the tokens it was asked for, and one. -/
theorem rounds_bounded {draftSources : PartialMap String DraftModelSource}
    {events : List Stimulus}
    (run : (system sha256).RunWith
      (fun engine stimulus => PhaseGuard requestId engine stimulus ∧ DraftsFit requestId engine)
      (new draftSources) events engine)
    {pipeline : SpecPipeline} (present : engine.pipelines requestId = some pipeline) :
    pipeline.round ≤ pipeline.generatedTokenIds.length + 1 ∧
      pipeline.round ≤ pipeline.maxTokens.toNat + 1 := by
  have kept : (∃ count, Phased requestId engine count) ∧ AllPaced requestId engine := by
    apply run.invariant (I := fun engine =>
      (∃ count, Phased requestId engine count) ∧ AllPaced requestId engine)
    · exact ⟨⟨0, phased_new draftSources⟩, by rintro pipeline ⟨⟩⟩
    · rintro state stimulus ⟨⟨count, phased⟩, paced⟩ enabled ⟨ordered, fit⟩
      exact ⟨⟨_, phased.next enabled ordered⟩, paced.next phased fit enabled⟩
  exact (kept.2 pipeline present).round_le

/-- Two rounds over one shard: the first ends with its rollback, the second is being
verified. -/
def twoRounds : List Stimulus :=
  [soleStart 1 9, soleAnswer 0 (some 2) none, soleTokenized 0 2, soleDraft [5],
    soleAnswer 0 none (some [7]), soleAck 0, soleAck draftSessionShardIndex, soleDraft [5]]

/-- An instance of `rounds_bounded`: the second round of the sole engine. -/
theorem rounds_bounded_sole :
    ∃ pipeline, ((system id).execute soleEngine twoRounds).pipelines "r" = some pipeline ∧
      pipeline.round = 2 ∧ pipeline.round ≤ pipeline.generatedTokenIds.length + 1 ∧
      pipeline.round ≤ pipeline.maxTokens.toNat + 1 := by
  have run : (system id).RunWith
      (fun engine stimulus => PhaseGuard "r" engine stimulus ∧ DraftsFit "r" engine) soleEngine
      twoRounds ((system id).execute soleEngine twoRounds) := by
    apply System.Admits.runWith
    refine ⟨⟨trivial, ⟨?_, fun _ => rfl⟩, ?_⟩, ⟨trivial, ⟨?_, nofun⟩, ?_⟩,
      ⟨nofun, ⟨nofun, nofun⟩, ?_⟩, ⟨trivial, ⟨nofun, nofun⟩, ?_⟩,
      ⟨trivial, ⟨?_, nofun⟩, ?_⟩, ⟨trivial, ⟨nofun, nofun⟩, ?_⟩, ⟨trivial, ⟨nofun, nofun⟩, ?_⟩,
      ⟨trivial, ⟨nofun, nofun⟩, ?_⟩, trivial⟩
    · rintro call ⟨⟩
    · rintro pipeline pos currentInput draft ⟨⟩
    · rintro call - - ticket other ⟨⟩
    · rintro pipeline pos currentInput draft ⟨⟩ ⟨⟩
    · rintro pipeline pos currentInput draft ⟨⟩ ⟨⟩
    · rintro pipeline pos currentInput draft ⟨⟩ ⟨⟩
    · rintro call parks
      cases parks with
      | intro assigned present prompting last answered => cases answered
    · rintro pipeline pos currentInput draft ⟨⟩ ⟨⟩
      decide
    · rintro pipeline pos currentInput draft ⟨⟩ ⟨⟩
    · rintro pipeline pos currentInput draft ⟨⟩ ⟨⟩
    · rintro pipeline pos currentInput draft ⟨⟩ ⟨⟩
  exact ⟨_, rfl, rfl, rounds_bounded run rfl⟩

end SpeculativeEngine

end StratumBridge.Speculative
