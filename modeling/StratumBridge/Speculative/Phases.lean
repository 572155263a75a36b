import StratumBridge.Speculative.Outcomes
import StratumBridge.Transition.Observe

/-!
# The order of the phases

A pipeline goes from the prompt pass to a draft, from the draft to its
verification, from there to the rollback and on to the next draft.  The handler
that ends the prompt pass lets go of its assignment before it parks on the
tokenizer and looks at no phase when it resumes; the order rests on there being
one such handler for a request at a time.
-/

namespace StratumBridge.Speculative

open Data Rpc Wire Transition

/-- A phase goes on, or the phase that follows it begins. -/
inductive Phase.Follows : Phase → Phase → Prop
  | prompting {pos onward input given} (step : onward = pos ∨ onward = pos + 1) :
      Follows (.promptProcessing pos input) (.promptProcessing onward given)
  | prompted {pos input} : Follows (.promptProcessing pos input) .awaitingDraft
  | waiting : Follows .awaitingDraft .awaitingDraft
  | drafted {input draft} : Follows .awaitingDraft (.verifying 0 input draft)
  | verifying {pos onward input given draft} (step : onward = pos ∨ onward = pos + 1) :
      Follows (.verifying pos input draft) (.verifying onward given draft)
  | verified {pos input draft state} :
      Follows (.verifying pos input draft) (.awaitingRollback state)
  | settling {state pending} (fewer : pending ⊆ state.pending) :
      Follows (.awaitingRollback state) (.awaitingRollback { state with pending := pending })
  | settled {state} : Follows (.awaitingRollback state) .awaitingDraft

theorem Phase.Follows.refl (phase : Phase) : phase.Follows phase := by
  cases phase with
  | promptProcessing => exact .prompting (.inl rfl)
  | awaitingDraft => exact .waiting
  | verifying => exact .verifying (.inl rfl)
  | awaitingRollback state => exact .settling (Finset.Subset.refl state.pending)

/-- The relay's next step goes on in its phase. -/
theorem Phase.follows_advance (phase : Phase) (newInput : ShardInputWire) :
    phase.Follows (phase.advance newInput) := by
  cases phase with
  | promptProcessing => exact .prompting (.inr rfl)
  | awaitingDraft => exact .waiting
  | verifying => exact .verifying (.inr rfl)
  | awaitingRollback state => exact .settling (Finset.Subset.refl state.pending)

/-- The prompt pass is not over. -/
def Phase.isPrompting : Phase → Bool
  | promptProcessing _ _ => true
  | _ => false

/-- Nothing leads back to the prompt pass. -/
theorem Phase.Follows.isPrompting {before after : Phase} (follows : before.Follows after)
    (prompting : after.isPrompting = true) : before.isPrompting = true := by
  cases follows with
  | prompting => rfl
  | _ => cases prompting

/-- A pipeline moves on: its phase goes on or is followed, and the position and
the token expected next change only when a wait for a draft begins. -/
structure SpecPipeline.MovesOn (before after : SpecPipeline) : Prop where
  phase : before.phase.Follows after.phase
  seed : after.base = before.base ∧ after.expected0 = before.expected0 ∨
    before.phase ≠ .awaitingDraft ∧ after.phase = .awaitingDraft

namespace SpeculativeEngine

variable {sha256 : Digest} {engine : SpeculativeEngine} {requestId : RequestId}
variable {stimulus : Stimulus}

/-- The event completes the prompt pass of a request's pipeline. -/
def completes (engine : SpeculativeEngine) (requestId : RequestId) (stimulus : Stimulus) : Bool :=
  match stimulus.event with
  | .tokenized ticket (some _) =>
      match engine.calls ticket with
      | some call => call.requestId = requestId ∧ (engine.pipelines requestId).isSome
      | none => false
  | _ => false

/-- The observer that counts how often the prompt pass of a request was
completed since the request was last started. -/
def countCompletions (sha256 : Digest) (requestId : RequestId) (engine : SpeculativeEngine)
    (count : Nat) (stimulus : Stimulus) : Nat :=
  if .started requestId ∈ sent sha256 engine stimulus requestId then
    0
  else if engine.completes requestId stimulus then
    count + 1
  else
    count

/-- The step moves a pipeline on, unless it starts or ends it. -/
def InOrder (sha256 : Digest) (requestId : RequestId) (engine : SpeculativeEngine)
    (stimulus : Stimulus) : Prop :=
  ∀ before after, engine.pipelines requestId = some before →
    (next sha256 engine stimulus).pipelines requestId = some after →
    .started requestId ∉ sent sha256 engine stimulus requestId → before.MovesOn after

/-- The conditions on a step under which the phases of a request stay in order:
a result does not end a prompt pass while a handler of the request is parked on
the tokenizer, and the request is not started while a draft is out for it. -/
def PhaseGuard (requestId : RequestId) (engine : SpeculativeEngine) (stimulus : Stimulus) :
    Prop :=
  (∀ call, Parks engine stimulus call → call.requestId = requestId →
      ∀ ticket other, engine.calls ticket = some other → other.requestId ≠ requestId) ∧
    (stimulus.event.Starts requestId → engine.draftAssignments requestId = none)

/-- Which handlers and drafts of a request are out, phase by phase. -/
structure Phased (requestId : RequestId) (engine : SpeculativeEngine) (count : Nat) : Prop where
  drafts : engine.DraftsAwaited requestId
  sole : ∀ ticket other call twin, engine.calls ticket = some call →
    engine.calls other = some twin → call.requestId = requestId → twin.requestId = requestId →
    ticket = other
  parked : ∀ ticket call pipeline, engine.calls ticket = some call → call.requestId = requestId →
    engine.pipelines requestId = some pipeline → pipeline.phase.isPrompting = true
  prompting : ∀ pipeline, engine.pipelines requestId = some pipeline →
    pipeline.phase.isPrompting = true → count = 0
  once : count ≤ 1

/-- Every event that does not start a request moves its pipeline on. -/
theorem Change.movesOn {count : Nat} (phased : Phased requestId engine count)
    {before after : SpecPipeline} {emitted : List Effect}
    (present : engine.pipelines requestId = some before)
    (change : Change sha256 engine requestId stimulus (some before) (some after) emitted)
    (notStarted : .started requestId ∉ emitted) : before.MovesOn after := by
  have stays : ∀ {later : SpecPipeline}, later.phase = before.phase →
      later.base = before.base → later.expected0 = before.expected0 → before.MovesOn later := by
    intro later phase base expected0
    exact ⟨phase ▸ .refl before.phase, .inl ⟨base, expected0⟩⟩
  cases change with
  | idle | rejected | redispatched => exact stays rfl rfl rfl
  | stale | parked | panicked | redrafted => exact stays rfl rfl rfl
  | started => exact absurd (List.mem_cons_self ..) notStarted
  | relayed => exact ⟨Phase.follows_advance _ _, .inl ⟨rfl, rfl⟩⟩
  | verified about assigned verifying =>
      constructor
      · rw [verifying]
        exact .verified
      · exact .inl ⟨rfl, rfl⟩
  | counted parked about =>
      have prompting := phased.parked _ _ _ parked about present
      cases phase : before.phase with
      | promptProcessing pos input =>
          constructor
          · rw [phase]
            exact .prompted
          · exact .inr ⟨by simp [phase], rfl⟩
      | _ => simp [phase, Phase.isPrompting] at prompting
  | drafted about assigned =>
      have awaiting := phased.drafts _ _ assigned present
      constructor
      · rw [awaiting]
        exact .drafted
      · exact .inl ⟨rfl, rfl⟩
  | acked about awaiting =>
      constructor
      · rw [awaiting]
        exact .settling (Finset.erase_subset ..)
      · exact .inl ⟨rfl, rfl⟩
  | roundCompleted about awaiting =>
      constructor
      · rw [awaiting]
        exact .settled
      · exact .inr ⟨by simp [awaiting], rfl⟩

/-- A prompt pass goes on until a tokenizer's answer or a draft ends it. -/
theorem Change.isPrompting {before after : SpecPipeline} {emitted : List Effect}
    (change : Change sha256 engine requestId stimulus (some before) (some after) emitted)
    (prompting : before.phase.isPrompting = true) :
    after.phase.isPrompting = true ∨
      (∃ ticket tokenCount call, stimulus.event = .tokenized ticket tokenCount ∧
        engine.calls ticket = some call ∧ call.requestId = requestId) ∨
      ∃ wallet, engine.draftAssignments requestId = some wallet := by
  cases change with
  | idle | rejected | redispatched => exact .inl prompting
  | stale | parked | panicked | redrafted => exact .inl prompting
  | started => exact .inl rfl
  | @relayed _ wallet result =>
      left
      cases phase : before.phase with
      | promptProcessing => simp [relayOutput, contribute, phase, Phase.advance, Phase.isPrompting]
      | _ => simp [phase, Phase.isPrompting] at prompting
  | verified about assigned verifying => simp [verifying, Phase.isPrompting] at prompting
  | counted parked about => exact .inr (.inl ⟨_, _, _, rfl, parked, about⟩)
  | drafted about assigned => exact .inr (.inr ⟨_, assigned⟩)
  | acked about awaiting => simp [awaiting, Phase.isPrompting] at prompting
  | roundCompleted about awaiting => simp [awaiting, Phase.isPrompting] at prompting

/-- A pipeline that is there after an event was started by it, or was there
before. -/
theorem Change.held {before : Option SpecPipeline} {after : SpecPipeline} {emitted : List Effect}
    (change : Change sha256 engine requestId stimulus before (some after) emitted) :
    .started requestId ∈ emitted ∧ after.phase.isPrompting = true ∨
      ∃ earlier, before = some earlier := by
  cases before with
  | some earlier => exact .inr ⟨earlier, rfl⟩
  | none =>
      cases change with
      | started => exact .inl ⟨List.mem_cons_self .., rfl⟩

/-- An answered call is no longer parked. -/
theorem calls_of_tokenized {registry : MinerRegistry} {ticket : Ticket} {call : TokenizeCall}
    (parked : engine.calls ticket = some call) (tokenCount : Option Nat) :
    (next sha256 engine ⟨registry, .tokenized ticket tokenCount⟩).calls ticket = none := by
  simp only [next, resumeTokenized, parked]
  cases tokenCount with
  | none => exact PartialMap.remove_self ..
  | some base =>
      dsimp only
      split
      · exact PartialMap.remove_self ..
      · rw [dispatchDraft_calls]
        exact PartialMap.remove_self ..

/-- A completed prompt pass waits for its draft. -/
theorem awaitsDraft_of_completes (sha256 : Digest)
    (completed : engine.completes requestId stimulus = true) :
    ∃ ticket tokenCount call pipeline, stimulus.event = .tokenized ticket (some tokenCount) ∧
      engine.calls ticket = some call ∧ call.requestId = requestId ∧
      engine.pipelines requestId = some pipeline ∧
      (next sha256 engine stimulus).AwaitsDraft requestId := by
  rcases stimulus with ⟨registry, event⟩
  unfold completes at completed
  split at completed
  · rename_i ticket tokenCount isAnswer
    cases isAnswer
    split at completed
    · rename_i call parked
      obtain ⟨about, live⟩ := of_decide_eq_true completed
      obtain ⟨pipeline, present⟩ := Option.isSome_iff_exists.mp live
      refine ⟨ticket, tokenCount, call, pipeline, rfl, parked, about, present, ?_⟩
      subst about
      simp only [next, resumeTokenized, parked, present]
      have seeded : ({ engine with calls := engine.calls.remove ticket }.setPipeline
          call.requestId (seedRounds pipeline tokenCount call.t0)).AwaitsDraft call.requestId :=
        ⟨_, PartialMap.insert_self .., rfl⟩
      exact seeded.dispatchDraft call.requestId
    · cases completed
  · cases completed

theorem Phased.next {count : Nat} (phased : Phased requestId engine count)
    (enabled : engine.enabled stimulus) (guarded : PhaseGuard requestId engine stimulus) :
    Phased requestId (next sha256 engine stimulus)
      (countCompletions sha256 requestId engine count stimulus) := by
  have change := next_change_sent sha256 enabled requestId
  constructor
  · exact phased.drafts.next enabled guarded.2
  · intro ticket other call twin callParked twinParked callAbout twinAbout
    rcases next_calls sha256 callParked with callBefore | ⟨callTicket, callParks⟩
    · rcases next_calls sha256 twinParked with twinBefore | ⟨-, twinParks⟩
      · exact phased.sole ticket other call twin callBefore twinBefore callAbout twinAbout
      · exact absurd callAbout (guarded.1 twin twinParks twinAbout ticket call callBefore)
    · rcases next_calls sha256 twinParked with twinBefore | ⟨twinTicket, -⟩
      · exact absurd twinAbout (guarded.1 call callParks callAbout other twin twinBefore)
      · rw [callTicket, twinTicket]
  · intro ticket call later parked about found
    rw [found] at change
    rcases change.held with ⟨-, prompting⟩ | ⟨earlier, present⟩
    · exact prompting
    · have wasPrompting : earlier.phase.isPrompting = true := by
        rcases next_calls sha256 parked with before | ⟨-, parks⟩
        · exact phased.parked ticket call earlier before about present
        · cases parks with
          | intro assigned there prompting =>
              cases about
              rw [there] at present
              cases present
              rw [prompting]
              rfl
      rw [present] at change
      rcases change.isPrompting wasPrompting with
        prompting | ⟨answered, tokenCount, other, isAnswer, otherParked, otherAbout⟩ |
          ⟨wallet, drafted⟩
      · exact prompting
      · rcases stimulus with ⟨registry, event⟩
        cases isAnswer
        rcases next_calls sha256 parked with before | ⟨-, parks⟩
        · cases phased.sole ticket answered call other before otherParked about otherAbout
          rw [calls_of_tokenized otherParked] at parked
          cases parked
        · cases parks
      · rw [phased.drafts wallet earlier drafted present] at wasPrompting
        cases wasPrompting
  · intro later found prompting
    by_cases started : .started requestId ∈ sent sha256 engine stimulus requestId
    · exact if_pos started
    · rw [found] at change
      rcases change.held with ⟨starts, -⟩ | ⟨earlier, present⟩
      · exact absurd starts started
      · rw [present] at change
        have wasPrompting :=
          (change.movesOn phased present started).phase.isPrompting prompting
        rw [countCompletions, if_neg started, phased.prompting earlier present wasPrompting,
          if_neg]
        intro completed
        rcases awaitsDraft_of_completes sha256 completed with
          ⟨_, _, _, _, _, _, _, _, waiting, there, awaits⟩
        rw [found] at there
        cases there
        rw [awaits] at prompting
        cases prompting
  · rw [countCompletions]
    split
    · exact Nat.zero_le 1
    · split
      · rename_i completed
        rcases awaitsDraft_of_completes sha256 completed with
          ⟨ticket, _, call, pipeline, _, parked, about, present, _⟩
        have zero := phased.prompting pipeline present
          (phased.parked ticket call pipeline parked about present)
        exact Nat.le_of_eq (congrArg (· + 1) zero)
      · exact phased.once

/-- In every run whose steps meet `PhaseGuard`, the prompt pass of a pipeline is
completed at most once, and every further such step moves the pipeline on. -/
theorem phases_in_order {draftSources : PartialMap String DraftModelSource}
    {events : List Stimulus} {count : Nat}
    (run : ((system sha256).watched (countCompletions sha256 requestId)).RunWith
      (fun both stimulus => PhaseGuard requestId both.1 stimulus) (new draftSources, 0) events
      (engine, count)) :
    count ≤ 1 ∧ ∀ stimulus, engine.enabled stimulus → PhaseGuard requestId engine stimulus →
      InOrder sha256 requestId engine stimulus := by
  have phased : Phased requestId engine count := by
    apply run.invariant (I := fun both => Phased requestId both.1 both.2)
    · constructor
      · rintro wallet pipeline ⟨⟩
      · rintro ticket other call twin ⟨⟩
      · rintro ticket call pipeline ⟨⟩
      · rintro pipeline ⟨⟩
      · exact Nat.zero_le 1
    · rintro ⟨state, seen⟩ stimulus phased enabled guarded
      exact phased.next enabled guarded
  refine ⟨phased.once, ?_⟩
  intro stimulus enabled guarded before after present found notStarted
  have change := next_change_sent sha256 enabled requestId
  rw [present, found] at change
  exact change.movesOn phased present notStarted

/-- A tick that finds the request of the sole engine stalled in a relay. -/
def soleTick : Stimulus :=
  ⟨soleRegistry, .retryStalledTick ["r"] []⟩

/-- The sole engine with a handler parked at the end of the prompt pass. -/
def soleParked : SpeculativeEngine :=
  (system id).execute soleEngine [soleStart 1 9, soleAnswer 0 (some 2) none]

theorem soleParked_pipelines {other : RequestId} (ne : other ≠ "r") :
    soleParked.pipelines other = none :=
  (PartialMap.insert_of_ne _ _ ne).trans ((PartialMap.insert_of_ne _ _ ne).trans rfl)

/-- The tick finds the request whose handler is parked. -/
theorem enabled_soleTick : soleParked.enabled soleTick := by
  refine ⟨rfl, ?_, ?_⟩
  · refine ⟨by decide, ?_⟩
    intro requestId
    constructor
    · intro mem
      cases List.mem_singleton.mp mem
      exact ⟨_, rfl, by decide, rfl⟩
    · rintro ⟨pipeline, present, -⟩
      by_contra other
      rw [soleParked_pipelines (by simpa using other)] at present
      cases present
  · refine ⟨by decide, ?_⟩
    intro requestId
    simp only [List.not_mem_nil, false_iff]
    rintro ⟨pipeline, present, awaiting, -⟩
    rw [retryShards_pipelines] at present
    by_cases same : requestId = "r"
    · cases same
      cases present
      cases awaiting
    · rw [soleParked_pipelines same] at present
      cases present

/-- A prompt pass whose last result is handled twice: the first handler is
parked when the tick sends the pass out again. -/
def promptTwice : List Stimulus :=
  [soleStart 1 9, soleAnswer 0 (some 2) none, soleTick, soleAnswer 0 (some 2) none,
    soleTokenized 0 2, soleDraft [5]]

/-- The second handler resumes while the first draft is verified: the pipeline
goes back to wait for a draft, with its prompt pass completed twice. -/
theorem prompt_completed_twice :
    ∃ events engine, ((system id).watched (countCompletions id "r")).Run (soleEngine, 0) events
        (engine, 1) ∧
      engine.enabled (soleTokenized 1 2) ∧ ¬ InOrder id "r" engine (soleTokenized 1 2) ∧
      countCompletions id "r" engine 1 (soleTokenized 1 2) = 2 := by
  refine ⟨promptTwice, (system id).execute soleEngine promptTwice, ?_, nofun, ?_, by decide⟩
  · apply System.Admits.runWith
    exact ⟨⟨trivial, trivial⟩, ⟨trivial, trivial⟩, ⟨enabled_soleTick, trivial⟩,
      ⟨trivial, trivial⟩, ⟨nofun, trivial⟩, ⟨trivial, trivial⟩, trivial⟩
  · intro inOrder
    have moves := inOrder _ _ rfl rfl (by decide)
    cases moves.phase

/-- An instance of `phases_in_order`: the draft for the first round. -/
theorem phases_in_order_sole :
    InOrder id "r" ((system id).execute soleParked [soleTokenized 0 2]) (soleDraft [5]) := by
  have run : ((system id).watched (countCompletions id "r")).RunWith
      (fun both stimulus => PhaseGuard "r" both.1 stimulus) (soleEngine, 0)
      [soleStart 1 9, soleAnswer 0 (some 2) none, soleTokenized 0 2]
      ((system id).execute soleParked [soleTokenized 0 2], 1) := by
    apply System.Admits.runWith
    refine ⟨⟨trivial, ?_, fun _ => rfl⟩, ⟨trivial, ?_, nofun⟩, ⟨nofun, nofun, nofun⟩, trivial⟩
    · rintro call ⟨⟩
    · rintro call - - ticket other ⟨⟩
  apply (phases_in_order run).2 (soleDraft [5]) trivial
  exact ⟨nofun, nofun⟩

end SpeculativeEngine

end StratumBridge.Speculative
