import StratumBridge.Speculative.Outcomes

/-!
# Replies that panic

A reply to the last shard of a verify pass carries the target's predictions, and
`greedy_verify_round` asserts that there is one for each position of the batch.  The
handler only looks whether they are there.  Everything else that a reply can make the
engine index lies within bounds: a relay is always at one of the shards, and no more
tokens are accepted than were drafted.
-/

namespace StratumBridge.Speculative

open Data Rpc Wire Transition

/-- A pipeline has shards, and its relay is at one of them. -/
structure SpecPipeline.Placed (pipeline : SpecPipeline) : Prop where
  nonempty : pipeline.shards ≠ []
  within : ∀ pos currentInput isPromptProcessing,
    pipeline.phase.relay = some (pos, currentInput, isPromptProcessing) →
      pos < pipeline.shards.length

theorem SpecPipeline.Placed.of_first {pipeline : SpecPipeline} (nonempty : pipeline.shards ≠ [])
    (first : ∀ pos currentInput isPromptProcessing,
      pipeline.phase.relay = some (pos, currentInput, isPromptProcessing) → pos = 0) :
    pipeline.Placed where
  nonempty := nonempty
  within pos currentInput isPromptProcessing relaying := by
    rw [first pos currentInput isPromptProcessing relaying]
    exact List.length_pos_iff.mpr nonempty

/-- A relay that is not at the last shard can be handed on. -/
theorem SpecPipeline.Placed.relayOutput {pipeline : SpecPipeline} (placed : pipeline.Placed)
    {wallet : Wallet} {result : OpoiShardResult} {pos : Nat} {currentInput : ShardInputWire}
    {isPromptProcessing : Bool}
    (relaying : pipeline.phase.relay = some (pos, currentInput, isPromptProcessing))
    (notLast : pos + 1 ≠ pipeline.shards.length) :
    (SpeculativeEngine.relayOutput (SpeculativeEngine.contribute wallet pipeline)
      result).Placed where
  nonempty := placed.nonempty
  within later laterInput prompting found := by
    have bound := placed.within pos currentInput isPromptProcessing relaying
    change ((pipeline.phase.advance _).relay) = _ at found
    change later < pipeline.shards.length
    cases phase : pipeline.phase with
    | promptProcessing at_ input =>
        rw [phase] at relaying found
        cases relaying
        cases found
        omega
    | verifying at_ input draft =>
        rw [phase] at relaying found
        cases relaying
        cases found
        omega
    | awaitingDraft =>
        rw [phase] at relaying
        cases relaying
    | awaitingRollback state =>
        rw [phase] at relaying
        cases relaying

namespace SpeculativeEngine

/-- The caller of `start_pipeline` passes over graphs without dense shards. -/
def HasShards (_ : SpeculativeEngine) (stimulus : Stimulus) : Prop :=
  match stimulus.event with
  | .startPipeline _ _ shards _ _ _ _ => shards ≠ []
  | _ => True

/-- What a reply may leave of the pipeline it is about. -/
inductive Leaves (wallet : Wallet) (result : OpoiShardResult) (pipeline : SpecPipeline) :
    Option SpecPipeline → Prop
  | removed : Leaves wallet result pipeline none
  | untouched : Leaves wallet result pipeline (some pipeline)
  | handedOn : Leaves wallet result pipeline
      (some (relayOutput (contribute wallet pipeline) result))
  | settled {pos currentInput draft outcome}
      (verifying : pipeline.phase = .verifying pos currentInput draft)
      (drafted : outcome.acceptedCount ≤ draft.length) :
      Leaves wallet result pipeline
        (some (settlePipeline (contribute wallet pipeline) draft outcome))

/-- The reply does not panic, and its pipeline goes on, stays or is removed. -/
structure Harmless (sha256 : Digest) (engine : SpeculativeEngine) (registry : MinerRegistry)
    (wallet : Wallet) (result : OpoiShardResult) (pipeline : SpecPipeline) : Prop where
  returns : .panicked result.requestId ∉
    sent sha256 engine ⟨registry, .shardResult wallet result⟩ result.requestId
  leaves : Leaves wallet result pipeline
    ((next sha256 engine ⟨registry, .shardResult wallet result⟩).pipelines result.requestId)

/-- A reply for the last shard of the pass carries no predictions, or one for each
position of the batch. -/
def FitsBatch (assignment : ShardStepAssignment) (result : OpoiShardResult)
    (pipeline : SpecPipeline) (pos : Nat) (draft : List TokenId) : Prop :=
  assignment.shardIndex = result.shardIndex → pos + 1 = pipeline.shards.length →
    ∀ logits, result.nextTokenIds = some logits →
      logits.length = draft.length + carryLen pipeline.carry

variable {sha256 : Digest} {engine : SpeculativeEngine} {requestId : RequestId}
  {stimulus : Stimulus} {pipeline : SpecPipeline}

/-! ## Bounds -/

/-- Every event keeps relays at shards. -/
theorem Change.placed {before : Option SpecPipeline} {after : SpecPipeline}
    {emitted : List Effect}
    (change : Change sha256 engine requestId stimulus before (some after) emitted)
    (placed : ∀ pipeline, before = some pipeline → pipeline.Placed)
    (shards : HasShards engine stimulus) : after.Placed := by
  generalize found : some after = outcome at change
  cases change with
  | idle => exact placed after found.symm
  | rejected => exact placed after found.symm
  | @started registry manifest given maxTokens promptHex promptHash source draftSource before
      configured =>
      cases found
      refine .of_first ?_ fun pos currentInput isPromptProcessing relaying => by
        cases relaying
        rfl
      intro none
      have length := List.length_insertionSort
        (fun first second : ShardDescriptor => first.shardIndex ≤ second.shardIndex) given
      have sorted : given.insertionSort
          (fun first second => first.shardIndex ≤ second.shardIndex) = [] := none
      rw [sorted] at length
      exact shards (List.eq_nil_of_length_eq_zero length.symm)
  | redispatched =>
      cases found
      exact placed _ rfl
  | stale | parked | panicked | redrafted =>
      cases found
      exact ⟨(placed _ rfl).nonempty, (placed _ rfl).within⟩
  | relayed about assigned relaying notLast =>
      cases found
      exact (placed _ rfl).relayOutput relaying notLast
  | drafted =>
      cases found
      refine .of_first (placed _ rfl).nonempty
        fun pos currentInput isPromptProcessing relaying => ?_
      cases relaying
      rfl
  | verified | counted | acked | roundCompleted =>
      cases found
      refine .of_first (placed _ rfl).nonempty
        fun pos currentInput isPromptProcessing relaying => ?_
      cases relaying
  | _ => cases found

theorem placed_next (kept : ∀ requestId pipeline, engine.pipelines requestId = some pipeline →
      pipeline.Placed) (enabled : engine.enabled stimulus) (shards : HasShards engine stimulus)
    (requestId : RequestId) (pipeline : SpecPipeline)
    (present : (next sha256 engine stimulus).pipelines requestId = some pipeline) :
    pipeline.Placed := by
  have change := next_change_sent sha256 enabled requestId
  rw [present] at change
  exact change.placed (kept requestId) shards

/-- Every pipeline that is reached is placed. -/
theorem placed_of_run {draftSources : PartialMap String DraftModelSource}
    {events : List Stimulus}
    (run : (system sha256).RunWith HasShards (new draftSources) events engine) :
    ∀ requestId pipeline, engine.pipelines requestId = some pipeline → pipeline.Placed := by
  apply run.invariant (I := fun engine => ∀ requestId pipeline,
    engine.pipelines requestId = some pipeline → pipeline.Placed)
  · rintro requestId pipeline ⟨⟩
  · exact fun _ _ kept enabled shards => placed_next kept enabled shards

/-! ## Panics -/

theorem panicked_notMem_stepLines (placed : pipeline.Placed) (registry : MinerRegistry)
    (last : Option Wallet) (requestId : RequestId) :
    .panicked requestId ∉ stepLines registry last requestId pipeline := by
  unfold stepLines
  split
  · exact List.not_mem_nil
  · rename_i pos currentInput isPromptProcessing relaying
    have bound := placed.within pos currentInput isPromptProcessing relaying
    rw [List.getElem?_eq_getElem bound]
    simp [Option.bind_eq_some_iff]

theorem greedyVerifyRound_ne_none {carry : Option TokenId} {expected0 : TokenId}
    {draft logits : List TokenId} (sized : logits.length = draft.length + carryLen carry) :
    greedyVerifyRound carry expected0 draft logits ≠ none := by
  obtain ⟨outcome, verified, -⟩ := greedyVerifyRound_eq_some expected0 sized
  rw [verified]
  exact Option.some_ne_none outcome

variable {registry : MinerRegistry} {wallet : Wallet} {result : OpoiShardResult} {pos : Nat}
  {currentInput : ShardInputWire} {draft : List TokenId} {assignment : ShardStepAssignment}

/-- A reply with too many or too few predictions panics. -/
theorem panicked_mem_sent (assigned : engine.shardAssignments result.requestId = some assignment)
    (holder : assignment.wallet = wallet) (index : assignment.shardIndex = result.shardIndex)
    (present : engine.pipelines result.requestId = some pipeline)
    (verifying : pipeline.phase = .verifying pos currentInput draft)
    (last : pos + 1 = pipeline.shards.length) {logits : List TokenId}
    (answered : result.nextTokenIds = some logits)
    (mismatch : logits.length ≠ draft.length + carryLen pipeline.carry) :
    .panicked result.requestId ∈
      sent sha256 engine ⟨registry, .shardResult wallet result⟩ result.requestId := by
  have failed : greedyVerifyRound pipeline.carry pipeline.expected0 draft logits = none := by
    rw [greedyVerifyRound, if_neg mismatch]
  have phase : (contribute wallet pipeline).phase = .verifying pos currentInput draft := verifying
  have atEnd : pos + 1 = (contribute wallet pipeline).shards.length := last
  have alsoFailed : greedyVerifyRound (contribute wallet pipeline).carry
      (contribute wallet pipeline).expected0 draft logits = none := failed
  have log : (next sha256 engine ⟨registry, .shardResult wallet result⟩).log =
      engine.log ++ [.accepted wallet result] ++ [.panicked result.requestId] := by
    change (handleShardResult registry wallet result engine).log = _
    simp only [handleShardResult, assigned, holder, index, and_self, if_true, present,
      continueRelay, phase, Phase.relay, atEnd, finishVerifyPass, answered, alsoFailed]
    rfl
  have about : About Effect.requestId result.requestId
      [.accepted wallet result, .panicked result.requestId] := by
    intro effect mem
    simp only [List.mem_cons, List.not_mem_nil, or_false] at mem
    rcases mem with rfl | rfl
    · rfl
    · rfl
  have extended : (next sha256 engine ⟨registry, .shardResult wallet result⟩).history
      result.requestId = engine.history result.requestId ++
        [.accepted wallet result, .panicked result.requestId] := by
    rw [history, log, List.append_assoc]
    exact historyOf_append_self about
  rw [sent, extended, List.drop_left]
  exact List.mem_cons_of_mem _ List.mem_cons_self

/-- A reply that fits the batch does not panic. -/
theorem Change.harmless {after : Option SpecPipeline} {emitted : List Effect}
    (change : Change sha256 engine result.requestId ⟨registry, .shardResult wallet result⟩
      (some pipeline) after emitted)
    (placed : pipeline.Placed)
    (assigned : engine.shardAssignments result.requestId = some assignment)
    (verifying : pipeline.phase = .verifying pos currentInput draft)
    (fits : FitsBatch assignment result pipeline pos draft) :
    .panicked result.requestId ∉ emitted ∧ Leaves wallet result pipeline after := by
  cases change with
  | idle => exact ⟨List.not_mem_nil, .untouched⟩
  | rejected => exact ⟨by simp, .untouched⟩
  | stale about held idle =>
      rw [verifying] at idle
      cases idle
  | relayed about held relaying notLast =>
      have later : (relayOutput (contribute wallet pipeline) result).Placed :=
        placed.relayOutput relaying notLast
      have quiet := panicked_notMem_stepLines later registry engine.lastShardWallet
        result.requestId
      exact ⟨by simp [quiet], .handedOn⟩
  | parked about held prompting =>
      rw [verifying] at prompting
      cases prompting
  | promptUnanswered about held prompting =>
      rw [verifying] at prompting
      cases prompting
  | verifyUnanswered => exact ⟨by simp, .removed⟩
  | panicked about held phase last answered failed =>
      cases Option.some.inj (assigned.symm.trans held)
      cases verifying.symm.trans phase
      exact absurd failed (greedyVerifyRound_ne_none (fits rfl last _ answered))
  | verified about held phase last answered verified =>
      exact ⟨by simp, .settled phase (acceptedCount_le verified)⟩

/-- In every state that is reached, a reply of the assigned wallet to a verify pass is
harmless just where it fits the batch. -/
theorem verify_reply_harmless_iff {draftSources : PartialMap String DraftModelSource}
    {events : List Stimulus}
    (run : (system sha256).RunWith HasShards (new draftSources) events engine)
    (assigned : engine.shardAssignments result.requestId = some assignment)
    (holder : assignment.wallet = wallet)
    (present : engine.pipelines result.requestId = some pipeline)
    (verifying : pipeline.phase = .verifying pos currentInput draft)
    (registry : MinerRegistry) :
    Harmless sha256 engine registry wallet result pipeline ↔
      FitsBatch assignment result pipeline pos draft := by
  constructor
  · intro harmless index last logits answered
    by_contra mismatch
    exact harmless.returns
      (panicked_mem_sent assigned holder index present verifying last answered mismatch)
  · intro fits
    have placed := placed_of_run run result.requestId pipeline present
    have enabled : engine.enabled ⟨registry, .shardResult wallet result⟩ := trivial
    have change := next_change_sent sha256 enabled result.requestId
    rw [present] at change
    have outcome := change.harmless placed assigned verifying fits
    exact ⟨outcome.1, outcome.2⟩

/-! ### One prediction short -/

/-- A request over one shard up to the verify pass of its first draft. -/
def verifyingEvents : List Stimulus :=
  [soleStart 1 9, soleAnswer 0 (some 2) none, soleTokenized 0 2, soleDraft [2, 5]]

/-- The engine after these events. -/
def verifyingEngine : SpeculativeEngine :=
  (system id).execute soleEngine verifyingEvents

theorem verifyingEngine_run :
    (system id).RunWith HasShards soleEngine verifyingEvents verifyingEngine := by
  apply System.Admits.runWith
  exact ⟨⟨trivial, nofun⟩, ⟨trivial, trivial⟩, ⟨nofun, trivial⟩, ⟨trivial, trivial⟩, trivial⟩

/-- Its pipeline. -/
def verifyingPipeline : SpecPipeline :=
  let started := initialPipeline soleManifest [⟨0, "DENSE", some 0, some 4, none⟩] 9 "00"
    "prompt-hash" soleSource soleDraftSource
  beginVerify (repin soleRegistry (seedRounds (contribute "miner" started) 2 2)) [2, 5]

/-- A reply without predictions to a batch of two positions. -/
theorem verify_reply_panics :
    (system id).RunWith HasShards soleEngine verifyingEvents verifyingEngine ∧
      verifyingEngine.shardAssignments "r" = some ⟨"miner", 0⟩ ∧
      verifyingEngine.pipelines "r" = some verifyingPipeline ∧
      ¬ Harmless id verifyingEngine soleRegistry "miner" (soleResult 0 none (some []))
        verifyingPipeline := by
  have assigned : verifyingEngine.shardAssignments (soleResult 0 none (some [])).requestId =
      some ⟨"miner", 0⟩ := rfl
  refine ⟨verifyingEngine_run, assigned, rfl, fun harmless => harmless.returns ?_⟩
  exact panicked_mem_sent assigned rfl rfl rfl rfl rfl rfl (by decide)

/-- An instance of `verify_reply_harmless_iff`: a reply with two predictions. -/
theorem verify_reply_harmless_sole :
    Harmless id verifyingEngine soleRegistry "miner" (soleResult 0 none (some [7, 9]))
      verifyingPipeline := by
  have assigned : verifyingEngine.shardAssignments (soleResult 0 none (some [7, 9])).requestId =
      some ⟨"miner", 0⟩ := rfl
  have present : verifyingEngine.pipelines (soleResult 0 none (some [7, 9])).requestId =
      some verifyingPipeline := rfl
  have verifying : verifyingPipeline.phase = .verifying 0 (.tokenIds [2, 5]) [2, 5] := rfl
  refine (verify_reply_harmless_iff verifyingEngine_run assigned rfl present verifying
    soleRegistry).mpr ?_
  rintro - - logits answered
  cases answered
  rfl

end SpeculativeEngine

end StratumBridge.Speculative
