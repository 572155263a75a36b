import StratumBridge.Opoi.System

/-!
# Provisional entries

A prompt that comes in ahead of its request is stored under a provisional one, made
of the caller's model and token limit.  The tick skips every request that is cached,
so the provisional one is never replaced, and a result is stored with what it says.
-/

namespace StratumBridge.Opoi

open Data Rpc Wire Transition

/-- The listed requests that a tick still has to deal with. -/
def Poll.listed : Poll → List TaskRequest
  | checking req rest => req :: rest
  | _ => []

/-- The row that an effect stores. -/
def Effect.row : Effect → Option NewSubmission
  | accepted row => some row
  | _ => none

/-- An event of the tick. -/
def Event.isTick : Event → Bool
  | pollBegin | pollListing _ | pollListed _ | pollCandidates _ | pollManifest _ _ => true
  | _ => false

/-- The row has the model and the prompt hash of the request. -/
def Carries (request : TaskRequest) (row : NewSubmission) : Prop :=
  row.model = some request.model ∧ row.promptHash = some request.promptHash

namespace OpoiEngine

/-- The rows stored so far. -/
def rows (engine : OpoiEngine) : List NewSubmission :=
  engine.log.filterMap Effect.row

/-- The daemon answers with the requests of the chain. -/
def Tells (chain : RequestId → Option TaskRequest) (engine : OpoiEngine) : Event → Prop
  | .fetched ticket answer =>
      ∀ requestId promptHex model maxTokens,
        engine.calls ticket = some (.fetching requestId promptHex model maxTokens) →
          ∀ request, answer = some request → chain requestId = some request
  | .pollListing requests =>
      ∀ listed, requests = some listed → ∀ req ∈ listed, chain req.requestId = some req
  | _ => True

/-- A provisional request is made only where the chain has the very same one, and a
result is checked only while its request is cached. -/
def Faithful (chain : RequestId → Option TaskRequest) (engine : OpoiEngine) : Event → Prop
  | .fetched ticket none =>
      ∀ requestId promptHex model maxTokens,
        engine.calls ticket = some (.fetching requestId promptHex (some model) (some maxTokens)) →
          ∀ request, chain requestId = some request →
            (provisional requestId promptHex model maxTokens).request = request
  | .checked ticket _ =>
      ∀ wallet params, engine.calls ticket = some (.checking wallet params) →
        engine.pending params.requestId ≠ none
  | _ => True

/-- The event neither stores the request anew nor ends it. -/
def Leaves (requestId : RequestId) (engine : OpoiEngine) : Event → Prop
  | .fetched ticket answer =>
      ∀ promptHex model maxTokens,
        engine.calls ticket = some (.fetching requestId promptHex model maxTokens) →
          fetchedEntry requestId promptHex model maxTokens answer = none
  | .created ticket created =>
      ∀ row, engine.calls ticket = some (.creating row) → created = true →
        row.requestId ≠ requestId
  | .restart => False
  | _ => True

variable {sha256 : Digest} {engine after : OpoiEngine} {stimulus : Stimulus}
variable {chain : RequestId → Option TaskRequest}

/-! ## What the cache keeps -/

/-- An entry stays unless a prompt is stored for its request, a result for it is
stored, or the process starts anew. -/
theorem pending_next {requestId : RequestId} {entry : PendingRequest}
    (enabled : engine.enabled stimulus) (cached : engine.pending requestId = some entry) :
    (next sha256 engine stimulus).pending requestId = some entry ∨
      engine.StoresPrompt requestId stimulus.event ∨
      (∃ ticket row, stimulus.event = .created ticket true ∧
        engine.calls ticket = some (.creating row) ∧ row.requestId = requestId) ∨
      stimulus.event = .restart := by
  obtain ⟨lines, -, change⟩ := next_explained sha256 enabled
  generalize (next sha256 engine stimulus).assignments = assignments at change
  generalize (next sha256 engine stimulus).pending = pending at change ⊢
  generalize (next sha256 engine stimulus).poll.queue = queue at change
  cases change with
  | quiet fewer => exact .inl cached
  | @prompted target stored stores prompt =>
      by_cases same : requestId = target
      · exact .inr (.inl (same ▸ stores))
      · exact .inl ((PartialMap.insert_of_ne _ _ same).trans cached)
  | @created ticket row isEvent parked =>
      by_cases same : requestId = row.requestId
      · exact .inr (.inr (.inl ⟨ticket, row, isEvent, parked, same.symm⟩))
      · exact .inl ((PartialMap.remove_of_ne _ same).trans cached)
  | released isEvent => exact .inl cached
  | @cached req absent =>
      have other : requestId ≠ req.requestId := by
        rintro rfl
        rw [cached] at absent
        cases absent
      exact .inl ((PartialMap.insert_of_ne _ _ other).trans cached)
  | collected fewer unique exact => exact .inl cached
  | pushed isEvent polling plain picked unassigned fewer => exact .inl cached
  | restarted isEvent => exact .inr (.inr (.inr isEvent))

/-- The tick leaves what is cached as it is. -/
theorem pending_of_tick {requestId : RequestId} {entry : PendingRequest}
    (tick : stimulus.event.isTick = true) (enabled : engine.enabled stimulus)
    (cached : engine.pending requestId = some entry) :
    (next sha256 engine stimulus).pending requestId = some entry := by
  rcases pending_next enabled cached with kept | stores | ⟨_, _, isEvent, -⟩ | isEvent
  · exact kept
  · rcases stimulus with ⟨registry, event⟩
    cases event with
    | receivePrompt | fetched => cases tick
    | _ => exact stores.elim
  · rw [isEvent] at tick
    cases tick
  · rw [isEvent] at tick
    cases tick

/-- The request is cached with a prompt, and as the one given. -/
def CachedAs (requestId : RequestId) (request : TaskRequest) (engine : OpoiEngine) : Prop :=
  ∃ entry, engine.pending requestId = some entry ∧ entry.promptHex ≠ none ∧
    entry.request = request

theorem CachedAs.next {requestId : RequestId} {request : TaskRequest}
    (cached : engine.CachedAs requestId request) (enabled : engine.enabled stimulus)
    (leaves : engine.Leaves requestId stimulus.event) :
    (OpoiEngine.next sha256 engine stimulus).CachedAs requestId request := by
  rcases cached with ⟨entry, found, prompt, same⟩
  rcases pending_next enabled found with kept | stores | ⟨ticket, row, isEvent, parked, isRow⟩ |
    isEvent
  · exact ⟨entry, kept, prompt, same⟩
  · rcases stimulus with ⟨registry, event⟩
    cases event with
    | receivePrompt target promptHex model maxTokens =>
        rcases stores with ⟨rfl, -⟩
        simp only [OpoiEngine.next, receivePrompt, found]
        exact ⟨_, PartialMap.insert_self .., Option.some_ne_none _, same⟩
    | fetched ticket answer =>
        rcases stores with ⟨promptHex, model, maxTokens, parked, made⟩
        exact absurd (leaves promptHex model maxTokens parked) made
    | _ => exact stores.elim
  · rw [isEvent] at leaves
    exact absurd isRow (leaves row parked rfl)
  · rw [isEvent] at leaves
    exact leaves.elim

theorem CachedAs.run {requestId : RequestId} {request : TaskRequest} {events : List Stimulus}
    (cached : engine.CachedAs requestId request)
    (run : (system sha256).RunWith (fun engine stimulus => engine.Leaves requestId stimulus.event)
      engine events after) : after.CachedAs requestId request :=
  run.invariant cached fun _ _ cached enabled leaves => cached.next enabled leaves

/-! ## What is stored -/

theorem rows_emit {effects : List Effect} (silent : effects.filterMap Effect.row = []) :
    (engine.emit effects).rows = engine.rows := by
  rw [rows, emit, List.filterMap_append, silent, List.append_nil]
  rfl

theorem listed_nextListed {req : TaskRequest} {requests : List TaskRequest}
    (mem : req ∈ (nextListed engine requests).listed) : req ∈ requests := by
  induction requests with
  | nil => cases mem
  | cons first rest ih =>
      unfold nextListed at mem
      split at mem
      · exact List.mem_cons_of_mem first (ih mem)
      · exact mem

/-- The rest of a tick stores no row and looks at no listed request. -/
theorem rows_nextCandidate (engine : OpoiEngine) (candidates : List RequestId) :
    (nextCandidate engine candidates).rows = engine.rows ∧
      (nextCandidate engine candidates).poll.listed = [] := by
  induction candidates with
  | nil => exact ⟨rfl, rfl⟩
  | cons requestId rest ih =>
      simp only [nextCandidate]
      split
      · exact ih
      · split
        · exact ⟨rows_emit rfl, rfl⟩
        · exact ⟨rfl, rfl⟩

theorem rows_pushAssign (registry : MinerRegistry) (assign : OpoiAssign) (wallet : Wallet)
    (delivered : Bool) (engine : OpoiEngine) :
    (pushAssign registry assign wallet delivered engine).rows = engine.rows ∧
      (pushAssign registry assign wallet delivered engine).poll = engine.poll := by
  unfold pushAssign
  split
  · exact ⟨rfl, rfl⟩
  · split
    · split
      · exact ⟨rows_emit rfl, rfl⟩
      · exact ⟨rfl, rfl⟩
    · exact ⟨rfl, rfl⟩

/-- The cache, the listed requests and the rows that are made agree with the chain. -/
structure Agrees (chain : RequestId → Option TaskRequest) (engine : OpoiEngine) : Prop where
  cached : ∀ requestId entry request, engine.pending requestId = some entry →
    chain requestId = some request → entry.request = request
  listed : ∀ req ∈ engine.poll.listed, chain req.requestId = some req
  made : ∀ ticket row request, engine.calls ticket = some (.creating row) →
    chain row.requestId = some request → Carries request row
  stored : ∀ row ∈ engine.rows, ∀ request, chain row.requestId = some request →
    Carries request row

theorem agrees_new : new.Agrees chain where
  cached := fun _ _ _ found => nomatch found
  listed := fun _ mem => nomatch mem
  made := fun _ _ _ parked => nomatch parked
  stored := fun _ mem => nomatch mem

/-- What adds nothing agrees as well. -/
theorem Agrees.of_fewer (agrees : engine.Agrees chain) (pending : after.pending = engine.pending)
    (listed : ∀ req ∈ after.poll.listed, chain req.requestId = some req)
    (calls : ∀ ticket row, after.calls ticket = some (.creating row) →
      engine.calls ticket = some (.creating row))
    (rows : after.rows = engine.rows) : after.Agrees chain where
  cached := by
    rw [pending]
    exact agrees.cached
  listed := listed
  made := fun ticket row request parked => agrees.made ticket row request (calls ticket row parked)
  stored := by
    rw [rows]
    exact agrees.stored

/-- An entry that agrees may be added. -/
theorem Agrees.setPending {requestId : RequestId} {entry : PendingRequest}
    (agrees : engine.Agrees chain)
    (same : ∀ request, chain requestId = some request → entry.request = request) :
    (engine.setPending requestId entry).Agrees chain where
  cached := by
    intro other found request isFound known
    simp only [OpoiEngine.setPending, PartialMap.insert_apply] at isFound
    split at isFound
    · rename_i isOther
      cases isFound
      exact same request (isOther ▸ known)
    · exact agrees.cached other found request isFound known
  listed := agrees.listed
  made := agrees.made
  stored := agrees.stored

/-- A handler may park before it makes a row. -/
theorem Agrees.park {call : Call} (agrees : engine.Agrees chain)
    (noRow : ∀ row, call ≠ .creating row) : (engine.park call).Agrees chain := by
  refine agrees.of_fewer rfl agrees.listed (fun ticket row parked => ?_) rfl
  simp only [OpoiEngine.park, PartialMap.insert_apply] at parked
  split at parked
  · exact absurd (Option.some.inj parked) (noRow row)
  · exact parked

theorem Agrees.emit {effects : List Effect} (agrees : engine.Agrees chain)
    (silent : effects.filterMap Effect.row = []) : (engine.emit effects).Agrees chain :=
  agrees.of_fewer rfl agrees.listed (fun _ _ => id) (rows_emit silent)

theorem Agrees.endCall (agrees : engine.Agrees chain) (ticket : Ticket) :
    (engine.endCall ticket).Agrees chain :=
  agrees.of_fewer rfl agrees.listed (fun _ _ => calls_of_endCall) rfl

/-- A row made from a cached request carries what the chain has. -/
theorem carries_of_verdict {wallet : Wallet} {params : OpoiSubmitResultParams}
    {entry : PendingRequest} {active : Option Bool} {row : NewSubmission} {request : TaskRequest}
    (made : verdict sha256 wallet params (some entry) active = .ok row)
    (same : entry.request = request) : Carries request row := by
  rw [row_of_verdict made, ← same]
  exact ⟨rfl, rfl⟩

/-! ## Each event -/

/-- The tick after the listed requests, or a part of them. -/
theorem Agrees.nextListed {requests : List TaskRequest} (agrees : engine.Agrees chain)
    (told : ∀ req ∈ requests, chain req.requestId = some req) :
    ({ engine with poll := OpoiEngine.nextListed engine requests } : OpoiEngine).Agrees chain :=
  agrees.of_fewer rfl (fun req mem => told req (listed_nextListed mem)) (fun _ _ => id) rfl

theorem Agrees.nextCandidate (agrees : engine.Agrees chain) (candidates : List RequestId) :
    (OpoiEngine.nextCandidate engine candidates).Agrees chain := by
  obtain ⟨-, pending, calls, -⟩ := nextCandidate_keeps engine candidates
  obtain ⟨rows, unlisted⟩ := rows_nextCandidate engine candidates
  refine agrees.of_fewer pending ?_ ?_ rows
  · rw [unlisted]
    exact List.forall_mem_nil _
  · rw [calls]
    exact fun _ _ => id

theorem Agrees.resumeFetched {ticket : Ticket} {answer : Option TaskRequest}
    (agrees : engine.Agrees chain) (tells : engine.Tells chain (.fetched ticket answer))
    (faithful : engine.Faithful chain (.fetched ticket answer)) :
    (OpoiEngine.resumeFetched ticket answer engine).Agrees chain := by
  unfold OpoiEngine.resumeFetched
  split
  · rename_i requestId promptHex model maxTokens parked
    split
    · rename_i entry made
      refine Agrees.emit (Agrees.setPending (agrees.endCall ticket) ?_) rfl
      intro request known
      cases answer with
      | some told =>
          cases made
          exact Option.some.inj ((tells _ _ _ _ parked told rfl).symm.trans known)
      | none =>
          simp only [fetchedEntry] at made
          split at made
          · cases made
            exact faithful _ _ _ _ parked request known
          · cases made
    · exact Agrees.emit (agrees.endCall ticket) rfl
  · exact agrees

theorem Agrees.resumeChecked {ticket : Ticket} {active : Option Bool}
    (agrees : engine.Agrees chain) (faithful : engine.Faithful chain (.checked ticket active)) :
    (OpoiEngine.resumeChecked sha256 ticket active engine).Agrees chain := by
  unfold OpoiEngine.resumeChecked
  split
  · rename_i wallet params parked
    split
    · rename_i row passed
      refine ⟨agrees.cached, agrees.listed, fun other made request isMade known => ?_,
        agrees.stored⟩
      simp only [PartialMap.insert_apply] at isMade
      split at isMade
      · cases isMade
        obtain ⟨entry, found⟩ := Option.ne_none_iff_exists'.mp (faithful wallet params parked)
        rw [found] at passed
        have isRow : row.requestId = params.requestId := by
          rw [row_of_verdict passed]
          rfl
        rw [isRow] at known
        exact carries_of_verdict passed (agrees.cached _ _ _ found known)
      · exact agrees.made other made request isMade known
    · exact Agrees.emit (agrees.endCall ticket) rfl
  · exact agrees

theorem Agrees.resumeCreated {ticket : Ticket} {created : Bool} (agrees : engine.Agrees chain) :
    (OpoiEngine.resumeCreated ticket created engine).Agrees chain := by
  unfold OpoiEngine.resumeCreated
  split
  · rename_i row parked
    split
    · constructor
      · intro requestId entry request found known
        exact agrees.cached _ _ _ (PartialMap.of_remove_eq_some found).2 known
      · exact agrees.listed
      · intro other made request isMade known
        exact agrees.made _ _ _ (calls_of_endCall isMade) known
      · intro stored mem request known
        rw [rows, List.filterMap_append] at mem
        rcases List.mem_append.mp mem with before | isRow
        · exact agrees.stored stored before request known
        · cases List.mem_singleton.mp isRow
          exact agrees.made ticket row request parked known
    · exact Agrees.emit (agrees.endCall ticket) rfl
  · exact agrees

theorem Agrees.resumeListed {active : Option Bool} (agrees : engine.Agrees chain) :
    (OpoiEngine.resumeListed active engine).Agrees chain := by
  unfold OpoiEngine.resumeListed
  split
  · rename_i req rest polling
    have told : ∀ listed ∈ req :: rest, chain listed.requestId = some listed := by
      intro listed mem
      apply agrees.listed
      rw [polling]
      exact mem
    have others : ∀ listed ∈ rest, chain listed.requestId = some listed :=
      fun listed mem => told listed (List.mem_cons_of_mem req mem)
    split
    · exact agrees.of_fewer rfl (fun _ mem => nomatch mem) (fun _ _ => id) rfl
    · exact agrees.nextListed others
    · unfold cache
      split
      · exact agrees.nextListed others
      · have isReq := told req List.mem_cons_self
        exact (agrees.setPending fun request known =>
          Option.some.inj (isReq.symm.trans known)).nextListed others
  · exact agrees

theorem Agrees.resumeManifest {registry : MinerRegistry} {answer : Except String ModelManifest}
    {delivered : Bool} (agrees : engine.Agrees chain) :
    (OpoiEngine.resumeManifest registry answer delivered engine).Agrees chain := by
  unfold OpoiEngine.resumeManifest
  split
  · rename_i assign rest polling
    split
    · split
      · exact agrees.of_fewer rfl (fun _ mem => nomatch mem) (fun _ _ => id) rfl
      · rename_i wallet picked
        apply Agrees.nextCandidate
        rcases pushAssign_cases registry assign wallet delivered
          { engine with lastAssigned := some wallet } with ⟨pending, calls, -⟩
        rcases rows_pushAssign registry assign wallet delivered
          { engine with lastAssigned := some wallet } with ⟨rows, poll⟩
        refine agrees.of_fewer pending ?_ ?_ rows
        · rw [poll]
          exact agrees.listed
        · rw [calls]
          exact fun _ _ => id
    · exact agrees.nextCandidate rest
  · exact agrees

theorem Agrees.next (agrees : engine.Agrees chain) (tells : engine.Tells chain stimulus.event)
    (faithful : engine.Faithful chain stimulus.event) :
    (OpoiEngine.next sha256 engine stimulus).Agrees chain := by
  rcases stimulus with ⟨registry, event⟩
  cases event with
  | receivePrompt requestId promptHex model maxTokens =>
      simp only [OpoiEngine.next, receivePrompt]
      split
      · rename_i entry found
        exact Agrees.emit (agrees.setPending (agrees.cached requestId entry · found)) rfl
      · exact agrees.park (by rintro _ ⟨⟩)
  | fetched ticket answer => exact agrees.resumeFetched tells faithful
  | submitResult wallet params =>
      simp only [OpoiEngine.next, handleSubmitResult]
      split
      · exact agrees.emit rfl
      · split
        · exact agrees.emit rfl
        · exact agrees.park (by rintro _ ⟨⟩)
  | checked ticket active => exact agrees.resumeChecked faithful
  | created ticket created => exact agrees.resumeCreated
  | dropped ticket => exact agrees.endCall ticket
  | disconnect wallet => exact agrees.of_fewer rfl agrees.listed (fun _ _ => id) rfl
  | pollBegin => exact agrees.of_fewer rfl (List.forall_mem_nil _) (fun _ _ => id) rfl
  | pollListing requests =>
      simp only [OpoiEngine.next, resumeListing]
      split
      · split
        · exact agrees.of_fewer rfl (List.forall_mem_nil _) (fun _ _ => id) rfl
        · exact agrees.nextListed (tells _ rfl)
      · exact agrees
  | pollListed active => exact agrees.resumeListed
  | pollCandidates candidates =>
      simp only [OpoiEngine.next, resumeCollecting]
      split
      · exact agrees.nextCandidate candidates
      · exact agrees
  | pollManifest answer delivered => exact agrees.resumeManifest
  | restart => exact ⟨agrees_new.cached, agrees_new.listed, agrees_new.made, agrees.stored⟩

/-! ## Convergence -/

/-- The cache and the stored rows say what the chain says as long as every provisional
request is the chain's own and no result outlives its entry.  A provisional request
that is not the chain's stays, whatever the tick finds. -/
theorem agrees_of_faithful (sha256 : Digest) (chain : RequestId → Option TaskRequest) :
    (∀ events engine, (system sha256).RunWith (fun engine stimulus =>
        engine.Tells chain stimulus.event ∧ engine.Faithful chain stimulus.event)
        new events engine →
      (∀ requestId entry request, engine.pending requestId = some entry →
        chain requestId = some request → entry.request = request) ∧
      (∀ row ∈ engine.rows, ∀ request, chain row.requestId = some request →
        Carries request row) ∧
      ∀ stimulus, stimulus.event.isTick = true → engine.enabled stimulus →
        ∀ requestId entry, engine.pending requestId = some entry →
          (next sha256 engine stimulus).pending requestId = some entry) ∧
    (∀ requestId promptHex model maxTokens request events engine after,
      engine.pending requestId = some (provisional requestId promptHex model maxTokens) →
      (system sha256).RunWith (fun engine stimulus => engine.Leaves requestId stimulus.event)
        engine events after →
      ∃ entry, after.pending requestId = some entry ∧ entry.promptHex ≠ none ∧
        (entry.request = request ↔
          (provisional requestId promptHex model maxTokens).request = request)) := by
  constructor
  · intro events engine run
    have agrees : engine.Agrees chain := run.invariant agrees_new
      fun _ _ agrees _ met => agrees.next met.1 met.2
    exact ⟨agrees.cached, agrees.stored, fun _ tick enabled _ _ => pending_of_tick tick enabled⟩
  · intro requestId promptHex model maxTokens request events engine after cached run
    have stays : engine.CachedAs requestId
        (provisional requestId promptHex model maxTokens).request :=
      ⟨_, cached, Option.some_ne_none _, rfl⟩
    obtain ⟨entry, found, prompt, same⟩ := stays.run run
    exact ⟨entry, found, prompt, by rw [same]⟩

/-- A step with one miner connected. -/
def withMiner (event : Event) : Stimulus :=
  ⟨soleRegistry, event⟩

/-- The prompt of request `"r"` comes in before the request, and a whole tick that
lists the request then. -/
def intakeAndTick : List Stimulus :=
  [withMiner (.receivePrompt "r" "00" (some "model") (some 9)), withMiner (.fetched 0 none),
    withMiner .pollBegin, withMiner (.pollListing (some [soleTask])),
    withMiner (.pollCandidates ["r"]),
    withMiner (.pollManifest (.error "manifest not found") true)]

/-- The result for it. -/
def resultEvents : List Stimulus :=
  [withMiner (.submitResult "miner" ⟨"r", "00", "00", 1⟩), withMiner (.checked 1 (some false)),
    withMiner (.created 1 true)]

/-- The only request of the chain. -/
def soleChain (requestId : RequestId) : Option TaskRequest :=
  if requestId = "r" then some soleTask else none

theorem soleChain_listed : ∀ req ∈ [soleTask], soleChain req.requestId = some req := by
  intro req mem
  cases List.mem_singleton.mp mem
  exact if_pos rfl

/-- The prompt comes in, csd knows the request, a tick assigns it, and its result is
stored. -/
def knownEvents : List Stimulus :=
  withMiner (.receivePrompt "r" "00" (some "model") (some 9)) ::
    withMiner (.fetched 0 (some soleTask)) :: (intakeAndTick.drop 2 ++ resultEvents)

/-- An instance of `agrees_of_faithful`: a request that csd knows is stored as it is, and
one that it did not know stays provisional over a tick. -/
theorem agrees_of_faithful_sole :
    (∃ row ∈ ((system id).execute new knownEvents).rows, Carries soleTask row) ∧
      ∃ entry, ((system id).execute new intakeAndTick).pending "r" = some entry ∧
        entry.request ≠ soleTask := by
  have known : (system id).Admits (fun engine stimulus =>
      engine.Tells soleChain stimulus.event ∧ engine.Faithful soleChain stimulus.event)
      new knownEvents := by
    refine ⟨⟨trivial, trivial, trivial⟩, ⟨⟨_, _, _, _, rfl⟩, ?_, trivial⟩,
      ⟨rfl, trivial, trivial⟩, ⟨rfl, ?_, trivial⟩, ⟨⟨rfl, List.nodup_singleton _, ?_⟩, trivial,
      trivial⟩, ⟨⟨_, _, rfl⟩, trivial, trivial⟩, ⟨trivial, trivial, trivial⟩,
      ⟨⟨_, _, rfl⟩, trivial, ?_⟩, ⟨⟨_, rfl⟩, trivial, trivial⟩, trivial⟩
    · rintro _ _ _ _ ⟨rfl⟩ _ ⟨rfl⟩
      exact if_pos rfl
    · rintro _ ⟨rfl⟩
      exact soleChain_listed
    · exact mem_sole_iff rfl (Option.some_ne_none _) rfl fun _ ne => PartialMap.insert_of_ne _ _ ne
    · rintro _ _ ⟨rfl⟩
      exact Option.some_ne_none _
  have ticked : (system id).Admits (fun engine stimulus => engine.Leaves "r" stimulus.event)
      ((system id).execute new (intakeAndTick.take 2)) (intakeAndTick.drop 2) :=
    ⟨⟨rfl, trivial⟩, ⟨rfl, trivial⟩, ⟨⟨rfl, List.nodup_singleton _,
      mem_sole_iff rfl (Option.some_ne_none _) rfl fun _ ne => PartialMap.insert_of_ne _ _ ne⟩,
      trivial⟩, ⟨⟨_, _, rfl⟩, trivial⟩, trivial⟩
  obtain ⟨agrees, stays⟩ := agrees_of_faithful id soleChain
  constructor
  · obtain ⟨-, carries, -⟩ := agrees _ _ known.runWith
    have stored : ((system id).execute new knownEvents).rows.map (·.requestId) = ["r"] := rfl
    obtain ⟨row, mem, same⟩ := List.mem_map.mp (stored ▸ List.mem_singleton_self "r")
    exact ⟨row, mem, carries row mem soleTask (by rw [same]; rfl)⟩
  · obtain ⟨entry, found, -, same⟩ := stays "r" "00" "model" 9 soleTask _ _ _ rfl ticked.runWith
    refine ⟨entry, found, fun isTask => ?_⟩
    exact absurd (same.mp isTask) (by decide)

/-- After the tick the cached request is still the provisional one, and its row gets an
empty prompt hash. -/
theorem intakeAndTick_keeps_provisional :
    let engine := (system id).execute new intakeAndTick
    let after := (system id).execute engine resultEvents
    (system id).RunWith (fun engine stimulus =>
        engine.Tells (fun requestId => if requestId = "r" then some soleTask else none)
          stimulus.event) new intakeAndTick engine ∧
      engine.poll = .idle ∧ engine.rows = [] ∧
      engine.pending "r" = some (provisional "r" "00" "model" 9) ∧
      (provisional "r" "00" "model" 9).request ≠ soleTask ∧
      (system id).Run engine resultEvents after ∧
      after.rows.map (·.promptHash) = [some ""] ∧ ¬ ∃ row ∈ after.rows, Carries soleTask row := by
  intro engine after
  have ticked : (system id).Admits (fun engine stimulus =>
      engine.Tells (fun requestId => if requestId = "r" then some soleTask else none)
        stimulus.event) new intakeAndTick := by
    refine ⟨⟨trivial, trivial⟩, ⟨⟨_, _, _, _, rfl⟩, ?_⟩, ⟨rfl, trivial⟩, ⟨rfl, ?_⟩,
      ⟨⟨rfl, List.nodup_singleton _, ?_⟩, trivial⟩, ⟨⟨_, _, rfl⟩, trivial⟩, trivial⟩
    · rintro _ _ _ _ _ _ ⟨⟩
    · rintro _ ⟨⟩
      exact soleChain_listed
    · exact mem_sole_iff rfl (Option.some_ne_none _) rfl fun _ ne => PartialMap.insert_of_ne _ _ ne
  have answered : (system id).Admits (fun _ _ => True) engine resultEvents :=
    ⟨⟨trivial, trivial⟩, ⟨⟨_, _, rfl⟩, trivial⟩, ⟨⟨_, rfl⟩, trivial⟩, trivial⟩
  have hashes : after.rows.map (·.promptHash) = [some ""] := rfl
  refine ⟨ticked.runWith, rfl, rfl, rfl, by decide, answered.runWith, hashes, ?_⟩
  rintro ⟨row, mem, -, carried⟩
  have listed := List.mem_map_of_mem (f := (·.promptHash)) mem
  rw [hashes, List.mem_singleton, carried] at listed
  exact absurd listed (by decide)

end OpoiEngine

end StratumBridge.Opoi
