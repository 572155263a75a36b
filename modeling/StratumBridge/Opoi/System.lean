import StratumBridge.Opoi.Engine
import StratumBridge.Transition.Run

/-!
# Runs of the whole-model engine

The engine as a system of events, and the account of everything one event can
do to the assignments, the cached requests, the candidates of the tick and the
lines sent.
-/

namespace StratumBridge.Opoi

open Data Rpc Wire Transition

/-- What can happen to the engine. -/
inductive Event
  | receivePrompt (requestId : RequestId) (promptHex : String) (model : Option String)
      (maxTokens : Option UInt32)
  | fetched (ticket : Ticket) (answer : Option TaskRequest)
  | submitResult (wallet : Wallet) (params : OpoiSubmitResultParams)
  | checked (ticket : Ticket) (active : Option Bool)
  | created (ticket : Ticket) (created : Bool)
  /-- The future of a parked handler is dropped with its connection. -/
  | dropped (ticket : Ticket)
  | disconnect (wallet : Wallet)
  | pollBegin
  | pollListing (requests : Option (List TaskRequest))
  | pollListed (active : Option Bool)
  | pollCandidates (candidates : List RequestId)
  | pollManifest (answer : Except String ModelManifest) (delivered : Bool)
  /-- The process starts anew. -/
  | restart

/-- An event together with the registry it finds. -/
structure Stimulus where
  registry : MinerRegistry
  event : Event

/-- The candidates a tick still has to deal with, the one under way first. -/
def Poll.queue : Poll → List RequestId
  | manifest assign rest => assign.requestId :: rest
  | _ => []

/-- The wallet and the request of a parked result. -/
def Call.submission : Call → Option (Wallet × RequestId)
  | fetching _ _ _ _ => none
  | checking wallet params => some (wallet, params.requestId)
  | creating row => some (row.minerWallet, row.requestId)

/-- The assignment line of an effect. -/
def Effect.line : Effect → Option OpoiAssign
  | assigned _ _ assign => some assign
  | _ => none

namespace OpoiEngine

/-- One event. -/
def next (sha256 : Digest) (engine : OpoiEngine) (stimulus : Stimulus) : OpoiEngine :=
  match stimulus.event with
  | .receivePrompt requestId promptHex model maxTokens =>
      receivePrompt requestId promptHex model maxTokens engine
  | .fetched ticket answer => resumeFetched ticket answer engine
  | .submitResult wallet params => handleSubmitResult wallet params engine
  | .checked ticket active => resumeChecked sha256 ticket active engine
  | .created ticket created => resumeCreated ticket created engine
  | .dropped ticket => engine.endCall ticket
  | .disconnect wallet => onDisconnect wallet engine
  | .pollBegin => { engine with poll := .listing }
  | .pollListing requests => resumeListing requests engine
  | .pollListed active => resumeListed active engine
  | .pollCandidates candidates => resumeCollecting candidates engine
  | .pollManifest answer delivered =>
      resumeManifest stimulus.registry answer delivered engine
  | .restart => { new with log := engine.log }

/-- An answer finds somebody who waits for it, a tick starts when the one
before has ended, and it collects exactly the candidates. -/
def enabled (engine : OpoiEngine) (stimulus : Stimulus) : Prop :=
  match stimulus.event with
  | .fetched ticket _ =>
      ∃ requestId promptHex model maxTokens,
        engine.calls ticket = some (.fetching requestId promptHex model maxTokens)
  | .checked ticket _ => ∃ wallet params, engine.calls ticket = some (.checking wallet params)
  | .created ticket _ => ∃ row, engine.calls ticket = some (.creating row)
  | .dropped ticket => ∃ call, engine.calls ticket = some call
  | .pollBegin => engine.poll = .idle
  | .pollListing _ => engine.poll = .listing
  | .pollListed _ => ∃ req rest, engine.poll = .checking req rest
  | .pollCandidates candidates =>
      engine.poll = .collecting ∧ candidates.Nodup ∧
        ∀ requestId, requestId ∈ candidates ↔ engine.Candidate requestId
  | .pollManifest _ _ => ∃ assign rest, engine.poll = .manifest assign rest
  | _ => True

/-- The whole-model engine as a system of events. -/
def system (sha256 : Digest) : System OpoiEngine Stimulus where
  enabled := enabled
  next := next sha256

/-- The `opoi.assign` lines sent so far. -/
def lines (engine : OpoiEngine) : List OpoiAssign :=
  engine.log.filterMap Effect.line

/-- A result for the request is being handled for the wallet. -/
def Submits (engine : OpoiEngine) (wallet : Wallet) (requestId : RequestId) : Prop :=
  ∃ ticket call, engine.calls ticket = some call ∧ call.submission = some (wallet, requestId)

/-- The event stores a prompt for the request. -/
def StoresPrompt (engine : OpoiEngine) (requestId : RequestId) : Event → Prop
  | .receivePrompt target _ _ _ => target = requestId ∧ engine.pending requestId ≠ none
  | .fetched ticket answer =>
      ∃ promptHex model maxTokens,
        engine.calls ticket = some (.fetching requestId promptHex model maxTokens) ∧
          fetchedEntry requestId promptHex model maxTokens answer ≠ none
  | _ => False

variable {sha256 : Digest} {engine : OpoiEngine} {stimulus : Stimulus}

/-! ## What an event changes -/

/-- Everything an event can do: the assignments, the cache, the candidates and
the new lines it leaves. -/
inductive Change (engine : OpoiEngine) (stimulus : Stimulus) :
    AssignmentTracker → PartialMap RequestId PendingRequest → List RequestId →
      List OpoiAssign → Prop
  | quiet {queue} (fewer : queue.Sublist engine.poll.queue) :
      Change engine stimulus engine.assignments engine.pending queue []
  | prompted {requestId entry} (stores : engine.StoresPrompt requestId stimulus.event)
      (prompt : entry.promptHex ≠ none) :
      Change engine stimulus engine.assignments (engine.pending.insert requestId entry)
        engine.poll.queue []
  | created {ticket row} (isEvent : stimulus.event = .created ticket true)
      (parked : engine.calls ticket = some (.creating row)) :
      Change engine stimulus (engine.assignments.remove row.requestId)
        (engine.pending.remove row.requestId) engine.poll.queue []
  | released {wallet} (isEvent : stimulus.event = .disconnect wallet) :
      Change engine stimulus (engine.assignments.releaseForWallet wallet) engine.pending
        engine.poll.queue []
  | cached {req : TaskRequest} (absent : engine.pending req.requestId = none) :
      Change engine stimulus engine.assignments
        (engine.pending.insert req.requestId ⟨req, none⟩) [] []
  | collected {candidates queue} (fewer : queue.Sublist candidates)
      (unique : candidates.Nodup)
      (exact : ∀ requestId ∈ candidates, engine.Candidate requestId) :
      Change engine stimulus engine.assignments engine.pending queue []
  | pushed {answer assign rest queue wallet}
      (isEvent : stimulus.event = .pollManifest answer true)
      (polling : engine.poll = .manifest assign rest) (plain : isPlain answer = true)
      (picked : stimulus.registry.pickNext engine.lastAssigned = some wallet)
      (unassigned : engine.assignments assign.requestId = none)
      (fewer : queue.Sublist rest) :
      Change engine stimulus (engine.assignments.insert assign.requestId wallet) engine.pending
        queue [assign]
  | restarted (isEvent : stimulus.event = .restart) :
      Change engine stimulus PartialMap.empty PartialMap.empty [] []

/-- A line goes out only for the candidate under way, after a plain answer and
while nobody has the request. -/
theorem Change.of_line {assignments : AssignmentTracker}
    {pending : PartialMap RequestId PendingRequest} {queue : List RequestId}
    {lines : List OpoiAssign} {assign : OpoiAssign}
    (change : Change engine stimulus assignments pending queue lines) (mem : assign ∈ lines) :
    ∃ answer rest wallet, stimulus.event = .pollManifest answer true ∧
      engine.poll = .manifest assign rest ∧ isPlain answer = true ∧
      stimulus.registry.pickNext engine.lastAssigned = some wallet ∧
      engine.assignments assign.requestId = none := by
  cases change with
  | pushed isEvent polling plain picked unassigned fewer =>
      cases List.mem_singleton.mp mem
      exact ⟨_, _, _, isEvent, polling, plain, picked, unassigned⟩
  | _ => cases mem

/-- The outcome of an event. -/
def Explained (engine : OpoiEngine) (stimulus : Stimulus) (after : OpoiEngine) : Prop :=
  ∃ lines, after.lines = engine.lines ++ lines ∧
    Change engine stimulus after.assignments after.pending after.poll.queue lines

/-- A new entry of the log that is no line. -/
theorem lines_emit {effects : List Effect} (silent : effects.filterMap Effect.line = []) :
    (engine.emit effects).lines = engine.lines := by
  rw [lines, emit, List.filterMap_append, silent, List.append_nil]
  rfl

/-- What leaves assignments, cache and lines alone is quiet. -/
theorem Explained.of_same {after : OpoiEngine}
    (assignments : after.assignments = engine.assignments)
    (pending : after.pending = engine.pending) (silent : after.lines = engine.lines)
    (fewer : after.poll.queue.Sublist engine.poll.queue) : Explained engine stimulus after := by
  refine ⟨[], by rw [silent, List.append_nil], ?_⟩
  rw [assignments, pending]
  exact .quiet fewer

/-! ## The candidates -/

section Candidates

variable (engine) (candidates : List RequestId)

/-- Going on to the next candidate touches the tick alone. -/
theorem nextCandidate_keeps :
    (nextCandidate engine candidates).assignments = engine.assignments ∧
      (nextCandidate engine candidates).pending = engine.pending ∧
      (nextCandidate engine candidates).calls = engine.calls ∧
      (nextCandidate engine candidates).lines = engine.lines := by
  induction candidates with
  | nil => exact ⟨rfl, rfl, rfl, rfl⟩
  | cons requestId rest ih =>
      simp only [nextCandidate]
      split
      · exact ih
      · split
        · exact ⟨rfl, rfl, rfl, lines_emit rfl⟩
        · exact ⟨rfl, rfl, rfl, rfl⟩

theorem queue_nextCandidate : (nextCandidate engine candidates).poll.queue.Sublist candidates := by
  induction candidates with
  | nil => exact List.Sublist.refl _
  | cons requestId rest ih =>
      simp only [nextCandidate]
      split
      · exact ih.trans (List.sublist_cons_self requestId rest)
      · split
        · exact List.nil_sublist _
        · exact List.Sublist.refl _

@[simp]
theorem queue_nextListed (requests : List TaskRequest) :
    (nextListed engine requests).queue = [] := by
  induction requests with
  | nil => rfl
  | cons req rest ih =>
      unfold nextListed
      split
      · exact ih
      · rfl

end Candidates

/-! ## Each event -/

theorem receivePrompt_explained {registry : MinerRegistry} {requestId : RequestId}
    {promptHex : String} {model : Option String} {maxTokens : Option UInt32} :
    Explained engine ⟨registry, .receivePrompt requestId promptHex model maxTokens⟩
      (receivePrompt requestId promptHex model maxTokens engine) := by
  unfold receivePrompt
  split
  · rename_i entry found
    refine ⟨[], by rw [lines_emit rfl, List.append_nil]; rfl, ?_⟩
    apply Change.prompted
    · exact ⟨rfl, by simp [found]⟩
    · simp
  · exact .of_same rfl rfl rfl (List.Sublist.refl _)

theorem prompt_fetchedEntry {requestId : RequestId} {promptHex : String} {model : Option String}
    {maxTokens : Option UInt32} {answer : Option TaskRequest} {entry : PendingRequest}
    (made : fetchedEntry requestId promptHex model maxTokens answer = some entry) :
    entry.promptHex = some promptHex := by
  unfold fetchedEntry at made
  (repeat' split at made) <;> cases made <;> rfl

theorem resumeFetched_explained {registry : MinerRegistry} {ticket : Ticket}
    {answer : Option TaskRequest} :
    Explained engine ⟨registry, .fetched ticket answer⟩ (resumeFetched ticket answer engine) := by
  unfold resumeFetched
  split
  · rename_i requestId promptHex model maxTokens parked
    split
    · rename_i entry made
      refine ⟨[], by rw [lines_emit rfl, List.append_nil]; rfl, ?_⟩
      apply Change.prompted
      · exact ⟨promptHex, model, maxTokens, parked, by simp [made]⟩
      · simp [prompt_fetchedEntry made]
    · exact .of_same rfl rfl (lines_emit rfl) (List.Sublist.refl _)
  · exact .of_same rfl rfl rfl (List.Sublist.refl _)

theorem handleSubmitResult_explained {wallet : Wallet} {params : OpoiSubmitResultParams} :
    Explained engine stimulus (handleSubmitResult wallet params engine) := by
  unfold handleSubmitResult
  split
  · exact .of_same rfl rfl (lines_emit rfl) (List.Sublist.refl _)
  · split
    · exact .of_same rfl rfl (lines_emit rfl) (List.Sublist.refl _)
    · exact .of_same rfl rfl rfl (List.Sublist.refl _)

theorem resumeChecked_explained {ticket : Ticket} {active : Option Bool} :
    Explained engine stimulus (resumeChecked sha256 ticket active engine) := by
  unfold resumeChecked
  split
  · split
    · exact .of_same rfl rfl rfl (List.Sublist.refl _)
    · exact .of_same rfl rfl (lines_emit rfl) (List.Sublist.refl _)
  · exact .of_same rfl rfl rfl (List.Sublist.refl _)

theorem resumeCreated_explained {registry : MinerRegistry} {ticket : Ticket} {created : Bool} :
    Explained engine ⟨registry, .created ticket created⟩
      (resumeCreated ticket created engine) := by
  unfold resumeCreated
  split
  · rename_i row parked
    split
    · rename_i stored
      subst stored
      refine ⟨[], ?_, .created rfl parked⟩
      rw [List.append_nil]
      exact lines_emit rfl
    · exact .of_same rfl rfl (lines_emit rfl) (List.Sublist.refl _)
  · exact .of_same rfl rfl rfl (List.Sublist.refl _)

/-- The tick over the listed requests has no candidates. -/
theorem explained_nextListed (requests : List TaskRequest) :
    Explained engine stimulus { engine with poll := nextListed engine requests } := by
  have fewer : (nextListed engine requests).queue.Sublist engine.poll.queue := by
    rw [queue_nextListed]
    exact List.nil_sublist _
  exact .of_same rfl rfl rfl fewer

theorem resumeListing_explained {requests : Option (List TaskRequest)}
    (polling : engine.poll = .listing) :
    Explained engine stimulus (resumeListing requests engine) := by
  simp only [resumeListing, polling]
  split
  · exact .of_same rfl rfl rfl (List.nil_sublist _)
  · exact explained_nextListed _

theorem resumeListed_explained {active : Option Bool} {req : TaskRequest}
    {rest : List TaskRequest} (polling : engine.poll = .checking req rest) :
    Explained engine stimulus (resumeListed active engine) := by
  simp only [resumeListed, polling]
  split
  · exact .of_same rfl rfl rfl (List.nil_sublist _)
  · exact explained_nextListed _
  · unfold cache
    split
    · exact explained_nextListed rest
    · rename_i absent
      refine ⟨[], by rw [List.append_nil]; rfl, ?_⟩
      rw [queue_nextListed]
      exact .cached absent

theorem resumeCollecting_explained {candidates : List RequestId}
    (polling : engine.poll = .collecting) (unique : candidates.Nodup)
    (exact : ∀ requestId, requestId ∈ candidates ↔ engine.Candidate requestId) :
    Explained engine stimulus (resumeCollecting candidates engine) := by
  simp only [resumeCollecting, polling]
  obtain ⟨assignments, pending, -, silent⟩ := nextCandidate_keeps engine candidates
  refine ⟨[], by rw [silent, List.append_nil], ?_⟩
  rw [assignments, pending]
  exact .collected (queue_nextCandidate engine candidates) unique fun requestId mem =>
    (exact requestId).mp mem

/-- Either a line goes out for a request nobody had, or nothing changes. -/
theorem pushAssign_cases (registry : MinerRegistry) (assign : OpoiAssign) (wallet : Wallet)
    (delivered : Bool) (engine : OpoiEngine) :
    (pushAssign registry assign wallet delivered engine).pending = engine.pending ∧
      (pushAssign registry assign wallet delivered engine).calls = engine.calls ∧
      ((pushAssign registry assign wallet delivered engine).assignments = engine.assignments ∧
          (pushAssign registry assign wallet delivered engine).lines = engine.lines ∨
        engine.assignments assign.requestId = none ∧ delivered = true ∧
          (pushAssign registry assign wallet delivered engine).assignments =
            engine.assignments.insert assign.requestId wallet ∧
          (pushAssign registry assign wallet delivered engine).lines =
            engine.lines ++ [assign]) := by
  unfold pushAssign AssignmentTracker.tryAssign
  cases held : engine.assignments assign.requestId with
  | some other => exact ⟨rfl, rfl, .inl ⟨rfl, rfl⟩⟩
  | none =>
      have undone : (engine.assignments.insert assign.requestId wallet).remove assign.requestId =
          engine.assignments := by
        funext other
        by_cases same : other = assign.requestId
        · subst same
          rw [PartialMap.remove_self, held]
        · rw [PartialMap.remove_of_ne _ same, PartialMap.insert_of_ne _ _ same]
      dsimp only
      cases registry.get wallet with
      | none => exact ⟨rfl, rfl, .inl ⟨undone, rfl⟩⟩
      | some tx =>
          cases delivered with
          | false => exact ⟨rfl, rfl, .inl ⟨undone, rfl⟩⟩
          | true =>
              exact ⟨rfl, rfl, .inr ⟨rfl, rfl, rfl, List.filterMap_append⟩⟩

/-- The rest of the tick after a plain answer, from where the cursor has moved
to. -/
theorem pushAssign_explained {registry : MinerRegistry} {answer : Except String ModelManifest}
    {delivered : Bool} {assign : OpoiAssign} {rest : List RequestId} {wallet : Wallet}
    {moved : OpoiEngine} (polling : engine.poll = .manifest assign rest)
    (plain : isPlain answer = true)
    (picked : registry.pickNext engine.lastAssigned = some wallet)
    (sameAssignments : moved.assignments = engine.assignments)
    (samePending : moved.pending = engine.pending) (sameLines : moved.lines = engine.lines) :
    Explained engine ⟨registry, .pollManifest answer delivered⟩
      (nextCandidate (pushAssign registry assign wallet delivered moved) rest) := by
  have ahead := queue_nextCandidate (pushAssign registry assign wallet delivered moved) rest
  rcases nextCandidate_keeps (pushAssign registry assign wallet delivered moved) rest with
    ⟨keptAssignments, keptPending, -, keptLines⟩
  rcases pushAssign_cases registry assign wallet delivered moved with
    ⟨pending, -, ⟨assignments, silent⟩ | ⟨unassigned, rfl, assignments, sends⟩⟩
  · apply Explained.of_same (keptAssignments.trans (assignments.trans sameAssignments))
      (keptPending.trans (pending.trans samePending)) (keptLines.trans (silent.trans sameLines))
    rw [polling]
    exact ahead.trans (List.sublist_cons_self _ rest)
  · refine ⟨[assign], keptLines.trans (sends.trans (by rw [sameLines])), ?_⟩
    rw [keptAssignments, assignments, sameAssignments, keptPending, pending, samePending]
    exact .pushed rfl polling plain picked (sameAssignments ▸ unassigned) ahead

theorem resumeManifest_explained {registry : MinerRegistry}
    {answer : Except String ModelManifest} {delivered : Bool} {assign : OpoiAssign}
    {rest : List RequestId} (polling : engine.poll = .manifest assign rest) :
    Explained engine ⟨registry, .pollManifest answer delivered⟩
      (resumeManifest registry answer delivered engine) := by
  unfold resumeManifest
  split
  · rename_i current others found
    cases polling.symm.trans found
    split
    · rename_i plain
      split
      · exact .of_same rfl rfl rfl (List.nil_sublist _)
      · rename_i wallet picked
        exact pushAssign_explained polling plain picked rfl rfl rfl
    · obtain ⟨assignments, pending, -, silent⟩ := nextCandidate_keeps engine rest
      apply Explained.of_same assignments pending silent
      rw [polling]
      exact (queue_nextCandidate engine rest).trans (List.sublist_cons_self _ rest)
  · exact .of_same rfl rfl rfl (List.Sublist.refl _)

/-- The account of an event. -/
theorem next_explained (sha256 : Digest) (enabled : engine.enabled stimulus) :
    Explained engine stimulus (next sha256 engine stimulus) := by
  rcases stimulus with ⟨registry, event⟩
  cases event with
  | receivePrompt requestId promptHex model maxTokens => exact receivePrompt_explained
  | fetched ticket answer => exact resumeFetched_explained
  | submitResult wallet params => exact handleSubmitResult_explained
  | checked ticket active => exact resumeChecked_explained
  | created ticket created => exact resumeCreated_explained
  | dropped ticket => exact .of_same rfl rfl rfl (List.Sublist.refl _)
  | disconnect wallet => exact ⟨[], (List.append_nil _).symm, .released rfl⟩
  | pollBegin => exact .of_same rfl rfl rfl (List.nil_sublist _)
  | pollListing requests => exact resumeListing_explained enabled
  | pollListed active =>
      rcases enabled with ⟨req, rest, polling⟩
      exact resumeListed_explained polling
  | pollCandidates candidates =>
      rcases enabled with ⟨polling, unique, exact⟩
      exact resumeCollecting_explained polling unique exact
  | pollManifest answer delivered =>
      rcases enabled with ⟨assign, rest, polling⟩
      exact resumeManifest_explained polling
  | restart => exact ⟨[], (List.append_nil _).symm, .restarted rfl⟩

/-! ## Results under way -/

/-- The row of a result is the row of its wallet and request. -/
theorem row_of_verdict {wallet : Wallet} {params : OpoiSubmitResultParams}
    {entry : Option PendingRequest} {active : Option Bool} {row : NewSubmission}
    (passes : verdict sha256 wallet params entry active = .ok row) :
    row = submissionRow wallet params entry := by
  unfold verdict at passes
  (repeat' split at passes) <;> cases passes
  rfl

/-- Fewer parked handlers, fewer results under way. -/
theorem Submits.mono {after : OpoiEngine} {wallet : Wallet} {requestId : RequestId}
    (submits : after.Submits wallet requestId)
    (fewer : ∀ ticket call, after.calls ticket = some call → engine.calls ticket = some call) :
    engine.Submits wallet requestId := by
  rcases submits with ⟨ticket, call, parked, about⟩
  exact ⟨ticket, call, fewer ticket call parked, about⟩

/-- A handler that parks or goes on under its ticket. -/
theorem Submits.of_insert {after : OpoiEngine} {wallet : Wallet} {requestId : RequestId}
    {ticket : Ticket} {call : Call} (submits : after.Submits wallet requestId)
    (calls : after.calls = engine.calls.insert ticket call) :
    engine.Submits wallet requestId ∨ call.submission = some (wallet, requestId) := by
  rcases submits with ⟨other, parked, found, about⟩
  rw [calls, PartialMap.insert_apply] at found
  split at found
  · cases found
    exact .inr about
  · exact .inl ⟨other, parked, found, about⟩

theorem calls_of_endCall {ticket other : Ticket} {call : Call}
    (parked : (engine.endCall ticket).calls other = some call) :
    engine.calls other = some call :=
  (PartialMap.of_remove_eq_some parked).2

/-- A result gets under way only from the wallet that has the request. -/
theorem next_submits (sha256 : Digest) {wallet : Wallet} {requestId : RequestId}
    (submits : (next sha256 engine stimulus).Submits wallet requestId) :
    engine.Submits wallet requestId ∨ engine.assignments requestId = some wallet ∧
      ∃ params, stimulus.event = .submitResult wallet params := by
  have same : ∀ {after : OpoiEngine}, after.Submits wallet requestId →
      after.calls = engine.calls → engine.Submits wallet requestId ∨
        engine.assignments requestId = some wallet ∧
          ∃ params, stimulus.event = .submitResult wallet params :=
    fun submits calls => .inl (submits.mono fun _ _ parked => calls ▸ parked)
  rcases stimulus with ⟨registry, event⟩
  cases event with
  | receivePrompt target promptHex model maxTokens =>
      simp only [next, receivePrompt] at submits
      split at submits
      · exact same submits rfl
      · rcases submits.of_insert rfl with was | isNew
        · exact .inl was
        · cases isNew
  | fetched ticket answer =>
      simp only [next, resumeFetched] at submits
      split at submits
      · split at submits
        · exact .inl (submits.mono fun _ _ => calls_of_endCall)
        · exact .inl (submits.mono fun _ _ => calls_of_endCall)
      · exact same submits rfl
  | submitResult sender params =>
      simp only [next, handleSubmitResult] at submits
      split at submits
      · exact same submits rfl
      · rename_i assigned held
        split at submits
        · exact same submits rfl
        · rename_i own
          rcases submits.of_insert rfl with was | isNew
          · exact .inl was
          · cases isNew
            rw [ne_eq, not_not] at own
            subst own
            exact .inr ⟨held, params, rfl⟩
  | checked ticket active =>
      simp only [next, resumeChecked] at submits
      split at submits
      · rename_i sender params parked
        split at submits
        · rename_i row ok
          rcases submits.of_insert rfl with was | isNew
          · exact .inl was
          · refine .inl ⟨ticket, _, parked, ?_⟩
            rw [← isNew, row_of_verdict ok]
            rfl
        · exact .inl (submits.mono fun _ _ => calls_of_endCall)
      · exact same submits rfl
  | created ticket created =>
      simp only [next, resumeCreated] at submits
      split at submits
      · split at submits
        · exact .inl (submits.mono fun _ _ => calls_of_endCall)
        · exact .inl (submits.mono fun _ _ => calls_of_endCall)
      · exact same submits rfl
  | dropped ticket => exact .inl (submits.mono fun _ _ => calls_of_endCall)
  | disconnect wallet => exact same submits rfl
  | pollBegin => exact same submits rfl
  | pollListing requests =>
      simp only [next, resumeListing] at submits
      (repeat' split at submits) <;> exact same submits rfl
  | pollListed active =>
      simp only [next, resumeListed, cache] at submits
      (repeat' split at submits) <;> exact same submits rfl
  | pollCandidates candidates =>
      simp only [next, resumeCollecting] at submits
      split at submits
      · exact same submits (nextCandidate_keeps engine candidates).2.2.1
      · exact same submits rfl
  | pollManifest answer delivered =>
      simp only [next, resumeManifest] at submits
      split at submits
      · rename_i assign rest polling
        split at submits
        · split at submits
          · exact same submits rfl
          · exact same submits ((nextCandidate_keeps _ rest).2.2.1.trans
              (pushAssign_cases registry assign _ delivered _).2.1)
        · exact same submits (nextCandidate_keeps engine rest).2.2.1
      · exact same submits rfl
  | restart =>
      rcases submits with ⟨ticket, call, parked, -⟩
      cases parked

/-! ## An example deployment -/

/-- One connected miner. -/
def soleRegistry : MinerRegistry :=
  MinerRegistry.new.register "miner" 0

/-- A request as the daemon lists it. -/
def soleTask : TaskRequest where
  requestId := "r"
  model := "model"
  promptHash := "prompt-hash"
  maxTokens := 9
  payment := 9
  feePerToken := 0
  taskType := none
  taskClass := none

/-- The only cached request is the only candidate. -/
theorem mem_sole_iff {engine : OpoiEngine} {entry : PendingRequest}
    (cached : engine.pending "r" = some entry) (prompt : entry.promptHex ≠ none)
    (unassigned : engine.assignments "r" = none)
    (only : ∀ requestId, requestId ≠ "r" → engine.pending requestId = none)
    (requestId : RequestId) : requestId ∈ ["r"] ↔ engine.Candidate requestId := by
  rw [List.mem_singleton]
  constructor
  · rintro rfl
    exact ⟨⟨entry, cached, prompt⟩, unassigned⟩
  · rintro ⟨⟨found, isFound, -⟩, -⟩
    by_contra ne
    rw [only requestId ne] at isFound
    cases isFound

end OpoiEngine

end StratumBridge.Opoi
