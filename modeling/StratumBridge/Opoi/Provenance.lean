import StratumBridge.Opoi.System

/-!
# Where the prompts of a whole-model assignment come from

A prompt that reaches a miner in an `opoi.assign` line was taken in for the request of
the line: it is kept with a parked look-up, then in the cache, then with the candidate
under way.
-/

namespace StratumBridge.Opoi.OpoiEngine

open Data Rpc Wire Transition

/-- Every prompt that the engine holds, or has sent, was posted for its request. -/
structure Vouched (posted : RequestId → String → Prop) (engine : OpoiEngine) : Prop where
  calls : ∀ ticket requestId promptHex model maxTokens,
    engine.calls ticket = some (.fetching requestId promptHex model maxTokens) →
      posted requestId promptHex
  pending : ∀ requestId entry promptHex, engine.pending requestId = some entry →
    entry.promptHex = some promptHex → posted requestId promptHex
  poll : ∀ assign rest, engine.poll = .manifest assign rest →
    posted assign.requestId assign.promptHex
  lines : ∀ assign ∈ engine.lines, posted assign.requestId assign.promptHex

variable {posted later : RequestId → String → Prop} {engine after : OpoiEngine}
  {sha256 : Digest} {stimulus : Stimulus}

theorem vouched_new : new.Vouched posted where
  calls _ _ _ _ _ parked := absurd parked (Option.some_ne_none _).symm
  pending _ _ _ found := absurd found (Option.some_ne_none _).symm
  poll _ _ polling := by cases polling
  lines _ mem := absurd mem List.not_mem_nil

theorem Vouched.mono (vouched : engine.Vouched posted)
    (grows : ∀ requestId promptHex, posted requestId promptHex → later requestId promptHex) :
    engine.Vouched later where
  calls ticket requestId promptHex model maxTokens parked :=
    grows _ _ (vouched.calls ticket requestId promptHex model maxTokens parked)
  pending requestId entry promptHex found held :=
    grows _ _ (vouched.pending requestId entry promptHex found held)
  poll assign rest polling := grows _ _ (vouched.poll assign rest polling)
  lines assign mem := grows _ _ (vouched.lines assign mem)

/-! ## Events that bring no prompt -/

/-- No look-up was parked, no prompt was cached and no line was sent. -/
structure Keeps (engine after : OpoiEngine) : Prop where
  calls : ∀ ticket requestId promptHex model maxTokens,
    after.calls ticket = some (.fetching requestId promptHex model maxTokens) →
      engine.calls ticket = some (.fetching requestId promptHex model maxTokens)
  pending : ∀ requestId entry promptHex, after.pending requestId = some entry →
    entry.promptHex = some promptHex → engine.pending requestId = some entry
  lines : after.lines = engine.lines

/-- The tick has no candidate, or one that was under way. -/
theorem Vouched.of_keeps (vouched : engine.Vouched posted) (keeps : engine.Keeps after)
    (poll : ∀ assign rest, after.poll = .manifest assign rest →
      posted assign.requestId assign.promptHex) : after.Vouched posted where
  calls ticket requestId promptHex model maxTokens parked :=
    vouched.calls ticket requestId promptHex model maxTokens
      (keeps.calls ticket requestId promptHex model maxTokens parked)
  pending requestId entry promptHex found held :=
    vouched.pending requestId entry promptHex
      (keeps.pending requestId entry promptHex found held) held
  poll := poll
  lines assign mem := vouched.lines assign (keeps.lines ▸ mem)

theorem keeps_endCall (engine : OpoiEngine) (ticket : Ticket) :
    engine.Keeps (engine.endCall ticket) where
  calls _ _ _ _ _ parked := (PartialMap.of_remove_eq_some parked).2
  pending _ _ _ found _ := found
  lines := rfl

theorem Keeps.emit {effects : List Effect} (keeps : engine.Keeps after)
    (silent : effects.filterMap Effect.line = []) : engine.Keeps (after.emit effects) where
  calls := keeps.calls
  pending := keeps.pending
  lines := (lines_emit silent).trans keeps.lines

/-- A parked result is no look-up. -/
theorem keeps_insert_call {ticket : Ticket} {call : Call}
    (other : ∀ requestId promptHex model maxTokens,
      call ≠ .fetching requestId promptHex model maxTokens) :
    engine.Keeps { engine with calls := engine.calls.insert ticket call } where
  calls _ _ _ _ _ parked := by
    rcases PartialMap.of_insert_eq_some parked with ⟨-, same⟩ | ⟨-, parked⟩
    · exact absurd same (other _ _ _ _)
    · exact parked
  pending _ _ _ found _ := found
  lines := rfl

theorem Vouched.handleSubmitResult (vouched : engine.Vouched posted) {wallet : Wallet}
    {params : OpoiSubmitResultParams} :
    (handleSubmitResult wallet params engine).Vouched posted := by
  have refl : engine.Keeps engine := ⟨fun _ _ _ _ _ => id, fun _ _ _ found _ => found, rfl⟩
  unfold OpoiEngine.handleSubmitResult
  split
  · exact vouched.of_keeps (refl.emit rfl) vouched.poll
  · split
    · exact vouched.of_keeps (refl.emit rfl) vouched.poll
    · have inserted : engine.Keeps { engine with
          calls := engine.calls.insert engine.nextTicket (.checking wallet params) } :=
        keeps_insert_call (by intros; simp)
      have keeps : engine.Keeps (engine.park (.checking wallet params)) :=
        ⟨inserted.calls, inserted.pending, inserted.lines⟩
      exact vouched.of_keeps keeps vouched.poll

theorem Vouched.resumeChecked (vouched : engine.Vouched posted) {ticket : Ticket}
    {active : Option Bool} : (resumeChecked sha256 ticket active engine).Vouched posted := by
  unfold OpoiEngine.resumeChecked
  split
  · split
    · exact vouched.of_keeps (keeps_insert_call (by intros; simp)) vouched.poll
    · exact vouched.of_keeps ((keeps_endCall engine ticket).emit rfl) vouched.poll
  · exact vouched

theorem Vouched.resumeCreated (vouched : engine.Vouched posted) {ticket : Ticket}
    {created : Bool} : (resumeCreated ticket created engine).Vouched posted := by
  unfold OpoiEngine.resumeCreated
  split
  · split
    · refine vouched.of_keeps ⟨(keeps_endCall engine ticket).calls, ?_, ?_⟩ vouched.poll
      · exact fun _ _ _ found _ => (PartialMap.of_remove_eq_some found).2
      · exact lines_emit rfl
    · exact vouched.of_keeps ((keeps_endCall engine ticket).emit rfl) vouched.poll
  · exact vouched

/-! ## Intake -/

theorem Vouched.receivePrompt (vouched : engine.Vouched posted) {requestId : RequestId}
    {promptHex : String} {model : Option String} {maxTokens : Option UInt32}
    (post : posted requestId promptHex) :
    (receivePrompt requestId promptHex model maxTokens engine).Vouched posted := by
  unfold OpoiEngine.receivePrompt
  split
  · refine ⟨vouched.calls, ?_, vouched.poll, ?_⟩
    · intro other entry held found same
      rcases PartialMap.of_insert_eq_some found with ⟨rfl, rfl⟩ | ⟨-, found⟩
      · cases same
        exact post
      · exact vouched.pending other entry held found same
    · rw [lines_emit rfl]
      exact vouched.lines
  · refine ⟨?_, vouched.pending, vouched.poll, vouched.lines⟩
    intro ticket other held name tokens parked
    rcases PartialMap.of_insert_eq_some parked with ⟨-, same⟩ | ⟨-, parked⟩
    · cases same
      exact post
    · exact vouched.calls ticket other held name tokens parked

theorem Vouched.resumeFetched (vouched : engine.Vouched posted) {ticket : Ticket}
    {answer : Option TaskRequest} : (resumeFetched ticket answer engine).Vouched posted := by
  unfold OpoiEngine.resumeFetched
  split
  · rename_i requestId promptHex model maxTokens parked
    split
    · rename_i entry fetched
      refine ⟨?_, ?_, vouched.poll, ?_⟩
      · intro other target held name tokens stillParked
        exact vouched.calls other target held name tokens
          (PartialMap.of_remove_eq_some stillParked).2
      · intro other stored held found same
        rcases PartialMap.of_insert_eq_some found with ⟨rfl, rfl⟩ | ⟨-, found⟩
        · cases (prompt_fetchedEntry fetched).symm.trans same
          exact vouched.calls ticket _ promptHex model maxTokens parked
        · exact vouched.pending other stored held found same
      · rw [lines_emit rfl]
        exact vouched.lines
    · exact vouched.of_keeps ((keeps_endCall engine ticket).emit rfl) vouched.poll
  · exact vouched

/-! ## The tick -/

theorem not_manifest_nextListed (engine : OpoiEngine) (requests : List TaskRequest)
    (assign : OpoiAssign) (rest : List RequestId) :
    nextListed engine requests ≠ .manifest assign rest := by
  induction requests with
  | nil => simp [nextListed]
  | cons req requests ih =>
      unfold nextListed
      split
      · exact ih
      · simp

/-- A candidate has its prompt from the cache. -/
theorem Vouched.nextCandidate (vouched : engine.Vouched posted) (candidates : List RequestId) :
    (nextCandidate engine candidates).Vouched posted := by
  obtain ⟨-, pending, calls, lines⟩ := nextCandidate_keeps engine candidates
  have keeps : engine.Keeps (OpoiEngine.nextCandidate engine candidates) :=
    ⟨fun _ _ _ _ _ parked => calls ▸ parked, fun _ _ _ found _ => pending ▸ found, lines⟩
  refine vouched.of_keeps keeps ?_
  clear keeps pending calls lines
  intro assign rest polling
  induction candidates with
  | nil => cases polling
  | cons requestId candidates ih =>
      unfold OpoiEngine.nextCandidate at polling
      split at polling
      · exact ih polling
      · rename_i entry found
        split at polling
        · cases polling
        · rename_i promptHex held
          cases polling
          exact vouched.pending requestId entry promptHex found held

theorem Vouched.resumeListed (vouched : engine.Vouched posted) {active : Option Bool} :
    (resumeListed active engine).Vouched posted := by
  unfold OpoiEngine.resumeListed
  split
  · rename_i req rest polling
    split
    · exact ⟨vouched.calls, vouched.pending, nofun, vouched.lines⟩
    · exact ⟨vouched.calls, vouched.pending, fun assign rest same =>
        absurd same (not_manifest_nextListed _ _ assign rest), vouched.lines⟩
    · have cached : (cache req engine).Vouched posted := by
        unfold cache
        split
        · exact vouched
        · refine ⟨vouched.calls, ?_, vouched.poll, vouched.lines⟩
          intro other entry promptHex found held
          rcases PartialMap.of_insert_eq_some found with ⟨-, rfl⟩ | ⟨-, found⟩
          · cases held
          · exact vouched.pending other entry promptHex found held
      exact ⟨cached.calls, cached.pending, fun assign rest same =>
        absurd same (not_manifest_nextListed _ _ assign rest), cached.lines⟩
  · exact vouched

theorem Vouched.resumeListing (vouched : engine.Vouched posted)
    {requests : Option (List TaskRequest)} :
    (resumeListing requests engine).Vouched posted := by
  unfold OpoiEngine.resumeListing
  split
  · split
    · exact ⟨vouched.calls, vouched.pending, nofun, vouched.lines⟩
    · exact ⟨vouched.calls, vouched.pending, fun assign rest same =>
        absurd same (not_manifest_nextListed _ _ assign rest), vouched.lines⟩
  · exact vouched

theorem Vouched.pushAssign (vouched : engine.Vouched posted) {registry : MinerRegistry}
    {assign : OpoiAssign} {wallet : Wallet} {delivered : Bool}
    (post : posted assign.requestId assign.promptHex) :
    (pushAssign registry assign wallet delivered engine).Vouched posted := by
  unfold OpoiEngine.pushAssign
  split
  · exact vouched
  · split
    · split
      · refine ⟨vouched.calls, vouched.pending, vouched.poll, ?_⟩
        intro line mem
        rw [OpoiEngine.lines, List.filterMap_append] at mem
        rcases List.mem_append.mp mem with old | new
        · exact vouched.lines line old
        · cases List.mem_singleton.mp new
          exact post
      · exact ⟨vouched.calls, vouched.pending, vouched.poll, vouched.lines⟩
    · exact ⟨vouched.calls, vouched.pending, vouched.poll, vouched.lines⟩

theorem Vouched.resumeManifest (vouched : engine.Vouched posted) {registry : MinerRegistry}
    {answer : Except String ModelManifest} {delivered : Bool} :
    (resumeManifest registry answer delivered engine).Vouched posted := by
  unfold OpoiEngine.resumeManifest
  split
  · rename_i assign rest polling
    split
    · split
      · exact ⟨vouched.calls, vouched.pending, nofun, vouched.lines⟩
      · refine Vouched.nextCandidate (Vouched.pushAssign ?_ ?_) rest
        · exact ⟨vouched.calls, vouched.pending, vouched.poll, vouched.lines⟩
        · exact vouched.poll assign rest polling
    · exact vouched.nextCandidate rest
  · exact vouched

/-! ## Every event -/

/-- A prompt that an event takes in was posted. -/
def BringsPosted (posted : RequestId → String → Prop) : Event → Prop
  | .receivePrompt requestId promptHex _ _ => posted requestId promptHex
  | _ => True

theorem Vouched.next (vouched : engine.Vouched posted)
    (brings : BringsPosted posted stimulus.event) :
    (next sha256 engine stimulus).Vouched posted := by
  rcases stimulus with ⟨registry, event⟩
  cases event with
  | receivePrompt requestId promptHex model maxTokens => exact vouched.receivePrompt brings
  | fetched ticket answer => exact vouched.resumeFetched
  | submitResult wallet params => exact vouched.handleSubmitResult
  | checked ticket active => exact vouched.resumeChecked
  | created ticket created => exact vouched.resumeCreated
  | dropped ticket => exact vouched.of_keeps (keeps_endCall engine ticket) vouched.poll
  | disconnect wallet => exact ⟨vouched.calls, vouched.pending, vouched.poll, vouched.lines⟩
  | pollBegin => exact ⟨vouched.calls, vouched.pending, nofun, vouched.lines⟩
  | pollListing requests => exact vouched.resumeListing
  | pollListed active => exact vouched.resumeListed
  | pollCandidates candidates =>
      change (resumeCollecting candidates engine).Vouched posted
      unfold resumeCollecting
      split
      · exact vouched.nextCandidate candidates
      · exact vouched
  | pollManifest answer delivered => exact vouched.resumeManifest
  | restart =>
      exact ⟨vouched_new.calls, vouched_new.pending, vouched_new.poll, vouched.lines⟩

/-- The prompt was taken in along the events. -/
def TakenIn (events : List Stimulus) (requestId : RequestId) (promptHex : String) : Prop :=
  ∃ stimulus ∈ events, ∃ model maxTokens,
    stimulus.event = .receivePrompt requestId promptHex model maxTokens

/-- In a run, the engine holds and sends only prompts that were taken in. -/
theorem vouched_of_run {events : List Stimulus} (run : (system sha256).Run new events engine) :
    engine.Vouched (TakenIn events) := by
  induction run with
  | nil => exact vouched_new
  | @snoc events state stimulus _ _ _ ih =>
      have before : state.Vouched (TakenIn (events ++ [stimulus])) :=
        ih.mono fun _ _ ⟨taken, mem, how⟩ => ⟨taken, List.mem_append_left _ mem, how⟩
      apply before.next
      unfold BringsPosted
      split
      · rename_i requestId promptHex model maxTokens isEvent
        exact ⟨stimulus, List.mem_append_right _ List.mem_cons_self, model, maxTokens, isEvent⟩
      · trivial

end StratumBridge.Opoi.OpoiEngine
