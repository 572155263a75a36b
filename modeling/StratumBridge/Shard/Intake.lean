import StratumBridge.Shard.Outcomes

/-!
# Tickets and the poll tick

Every handler gets a ticket of its own, and the request a poll tick works on
has no pipeline: only the tick itself starts one.
-/

namespace StratumBridge.Shard

open Data Rpc Wire Transition

/-- The listed request a tick is about to start. -/
def Poll.request : Poll → Option OpoiRequest
  | manifest req _ => some req
  | graph req _ _ _ => some req
  | source req _ _ _ _ => some req
  | claiming req _ _ _ _ _ => some req
  | _ => none

/-- The collected requests a tick has not dispatched yet. -/
def Poll.stalled : Poll → List RequestId
  | retrying requestId rest => requestId :: rest
  | _ => []

/-- The request whose prompt a tick has read. -/
def Poll.captured : Poll → Option RequestId
  | graph req _ _ _ => some req.requestId
  | source req _ _ _ _ => some req.requestId
  | claiming req _ _ _ _ _ => some req.requestId
  | _ => none

namespace ShardEngine

variable {sha256 : Digest} {engine : ShardEngine} {stimulus : Stimulus} {requestId : RequestId}

/-! ## Tickets -/

/-- No handler is parked under a ticket not given out yet. -/
def TicketsFresh (engine : ShardEngine) : Prop :=
  ∀ ticket, engine.nextTicket ≤ ticket → engine.calls ticket = none

theorem ticketsFresh_new : new.TicketsFresh :=
  fun _ _ => rfl

theorem TicketsFresh.lt {ticket : Ticket} {call : Call} (fresh : engine.TicketsFresh)
    (parked : engine.calls ticket = some call) : ticket < engine.nextTicket := by
  by_contra beyond
  rw [fresh ticket (Nat.not_lt.mp beyond)] at parked
  cases parked

/-- A call found after an event was parked before it, replaces a call of its
request, or is the handler of a result just accepted. -/
theorem Change.calls_cases {before after : Option PipelineState}
    {assigned : Option ShardAssignment} {calls : PartialMap Ticket Call} {emitted : List Effect}
    (change : Change sha256 engine requestId stimulus before after assigned calls emitted)
    {ticket : Ticket} {call : Call} (found : calls ticket = some call)
    (about : call.requestId = requestId) :
    engine.calls ticket = some call ∨
      (∃ parked, engine.calls ticket = some parked ∧ parked.requestId = requestId) ∨
      ∃ registry wallet result, stimulus = ⟨registry, .shardResult wallet result⟩ ∧
        ticket = engine.nextTicket ∧ call = .resolving wallet result := by
  have replaced : ∀ {at_ticket : Ticket} {new : Option Call} {parked : Call},
      engine.calls at_ticket = some parked → parked.requestId = requestId →
        setCall engine.calls at_ticket new ticket = some call →
        engine.calls ticket = some call ∨
          ∃ parked, engine.calls ticket = some parked ∧ parked.requestId = requestId := by
    intro at_ticket new parked was own now
    by_cases same : ticket = at_ticket
    · subst same
      exact .inr ⟨parked, was, own⟩
    · rw [setCall, Function.update_of_ne same] at now
      exact .inl now
  cases change with
  | idle fewer kept => exact .inl ((kept ticket call about).mp found)
  | rejected about => exact .inl found
  | orphaned about assigned => exact .inl found
  | accepted about assigned =>
      by_cases same : ticket = engine.nextTicket
      · subst same
        rw [setCall, Function.update_self] at found
        cases found
        exact .inr (.inr ⟨_, _, _, rfl, rfl, rfl⟩)
      · rw [setCall, Function.update_of_ne same] at found
        exact .inl found
  | redispatched polling => exact .inl found
  | delegated polling about => exact .inl found
  | started polling about => exact .inl found
  | unresolved parked own => exact (replaced parked own found).imp_right .inl
  | lost parked own quiet => exact (replaced parked own found).imp_right .inl
  | misplaced parked own outside => exact (replaced parked own found).imp_right .inl
  | ungrouped parked own resumes dense => exact (replaced parked own found).imp_right .inl
  | interior parked own layer inside resumes group outcome =>
      exact (replaced parked own found).imp_right .inl
  | submitting parked own lastToken => exact (replaced parked own found).imp_right .inl
  | completed parked own notLastToken outcome =>
      exact (replaced parked own found).imp_right .inl
  | unsubmitted parked own => exact (replaced parked own found).imp_right .inl
  | submitted parked own outcome => exact (replaced parked own found).imp_right .inl
  | sized parked own => exact (replaced parked own found).imp_right .inl
  | unjoined parked own => exact (replaced parked own found).imp_right .inl
  | abandoned parked own => exact (replaced parked own found).imp_right .inl
  | walked parked own isInterior => exact (replaced parked own found).imp_right .inl
  | handedOver parked own isBoundary => exact (replaced parked own found).imp_right .inl

/-- Away from intake, results and claims, tickets and prompts stay. -/
theorem next_intake (sha256 : Digest) (engine : ShardEngine) (stimulus : Stimulus)
    (notIntake : ∀ requestId promptHex, stimulus.event ≠ .receivePrompt requestId promptHex)
    (notDelivery : ∀ wallet result, stimulus.event ≠ .shardResult wallet result)
    (notClaim : ∀ claimed eligible, stimulus.event ≠ .pollClaim claimed eligible) :
    (next sha256 engine stimulus).nextTicket = engine.nextTicket ∧
      (next sha256 engine stimulus).promptCache = engine.promptCache := by
  have both : ∀ {after : ShardEngine}, SameIntake engine after →
      after.nextTicket = engine.nextTicket ∧ after.promptCache = engine.promptCache :=
    fun same => ⟨same.nextTicket, same.promptCache⟩
  rcases stimulus with ⟨registry, event⟩
  cases event with
  | receivePrompt target promptHex => exact absurd rfl (notIntake target promptHex)
  | shardResult wallet result => exact absurd rfl (notDelivery wallet result)
  | resolved ticket source => exact both (resumeResolved_intake ..)
  | submitted ticket submitted stored => exact both (resumeSubmitted_intake ..)
  | sized ticket minVramMb => exact both (resumeSized_intake ..)
  | joined ticket output => exact both (resumeJoined_intake ..)
  | dropped ticket => exact ⟨rfl, rfl⟩
  | disconnect wallet => exact ⟨rfl, rfl⟩
  | pollBegin stalled => exact ⟨rfl, rfl⟩
  | pollRetry source =>
      simp only [next, resumeRetry]
      split
      · split
        · exact ⟨rfl, rfl⟩
        · rename_i requestId rest polling _ source
          have same := dispatchCurrent_intake registry engine requestId source
          exact ⟨same.nextTicket, same.promptCache⟩
      · exact ⟨rfl, rfl⟩
  | pollListing requests =>
      simp only [next, resumeListing]
      split <;> exact ⟨rfl, rfl⟩
  | pollManifest manifest =>
      simp only [next, resumeManifest]
      (repeat' split) <;> exact ⟨rfl, rfl⟩
  | pollGraph graph =>
      simp only [next, resumeGraph]
      (repeat' split) <;> exact ⟨rfl, rfl⟩
  | pollSource source =>
      simp only [next, resumeSource]
      (repeat' split) <;> exact ⟨rfl, rfl⟩
  | pollClaim claimed eligible => exact absurd rfl (notClaim claimed eligible)

/-- A claimed request loses its prompt from the cache and no other does. -/
theorem startRequest_intake (registry : MinerRegistry) (eligible : Bool) (req : OpoiRequest)
    (source : ModelSource) (pipeline : PipelineState) (engine : ShardEngine) :
    (startRequest registry eligible req source pipeline engine).nextTicket = engine.nextTicket ∧
      (startRequest registry eligible req source pipeline engine).promptCache =
        engine.promptCache.remove req.requestId := by
  unfold startRequest
  dsimp only
  split
  · exact ⟨rfl, rfl⟩
  · have same := dispatchCurrent_intake registry
      ((({ engine with promptCache := engine.promptCache.remove req.requestId } :
        ShardEngine).setPipeline req.requestId pipeline).emit [.started req.requestId])
      req.requestId source
    exact ⟨same.nextTicket, same.promptCache⟩

/-- Only a result takes a ticket. -/
theorem next_nextTicket (sha256 : Digest) (engine : ShardEngine) (stimulus : Stimulus)
    (notDelivery : ∀ wallet result, stimulus.event ≠ .shardResult wallet result) :
    (next sha256 engine stimulus).nextTicket = engine.nextTicket := by
  rcases stimulus with ⟨registry, event⟩
  cases event with
  | receivePrompt target promptHex => rfl
  | pollClaim claimed eligible =>
      simp only [next, resumeClaim]
      split
      · split
        · exact (startRequest_intake ..).1
        · rfl
      · rfl
  | _ => exact (next_intake sha256 engine _ (by simp) notDelivery (by simp)).1

/-- An accepted result takes a ticket, and any other leaves the calls alone. -/
theorem handleShardResult_nextTicket (wallet : Wallet) (result : OpoiShardResult)
    (engine : ShardEngine) :
    (handleShardResult wallet result engine).nextTicket = engine.nextTicket + 1 ∨
      (handleShardResult wallet result engine).nextTicket = engine.nextTicket ∧
        (handleShardResult wallet result engine).calls = engine.calls := by
  unfold handleShardResult
  repeat' split
  all_goals first
    | exact .inl rfl
    | exact .inr ⟨rfl, rfl⟩

theorem nextTicket_le_next (sha256 : Digest) (engine : ShardEngine) (stimulus : Stimulus) :
    engine.nextTicket ≤ (next sha256 engine stimulus).nextTicket := by
  by_cases delivery : ∃ wallet result, stimulus.event = .shardResult wallet result
  · rcases stimulus with ⟨registry, event⟩
    rcases delivery with ⟨wallet, result, rfl⟩
    rcases handleShardResult_nextTicket wallet result engine with taken | ⟨kept, -⟩
    · exact taken ▸ Nat.le_succ _
    · exact kept.ge
  · push Not at delivery
    exact (next_nextTicket sha256 engine stimulus delivery).ge

theorem TicketsFresh.next (fresh : engine.TicketsFresh) (enabled : engine.enabled stimulus) :
    (next sha256 engine stimulus).TicketsFresh := by
  intro ticket unused
  by_contra parked
  obtain ⟨call, found⟩ := Option.ne_none_iff_exists'.mp parked
  have older : ∀ other, engine.calls ticket ≠ some other := by
    intro other was
    have below := (fresh.lt was).trans_le (nextTicket_le_next sha256 engine stimulus)
    exact absurd unused (Nat.not_le.mpr below)
  obtain ⟨emitted, -, change⟩ := next_change sha256 enabled (fresh _ le_rfl) call.requestId
  rcases change.calls_cases found rfl with was | ⟨other, was, -⟩ |
    ⟨registry, wallet, result, rfl, rfl, rfl⟩
  · exact older call was
  · exact older other was
  · rcases handleShardResult_nextTicket wallet result engine with taken | ⟨-, kept⟩
    · rw [show (ShardEngine.next sha256 engine ⟨registry, .shardResult wallet result⟩).nextTicket =
        engine.nextTicket + 1 from taken] at unused
      exact absurd unused (Nat.not_succ_le_self _)
    · rw [show (ShardEngine.next sha256 engine ⟨registry, .shardResult wallet result⟩).calls =
        engine.calls from kept] at found
      exact older _ found

/-- The effects of an event are what it adds to the history. -/
theorem next_change_sent (sha256 : Digest) (enabled : engine.enabled stimulus)
    (fresh : engine.TicketsFresh) (requestId : RequestId) :
    Change sha256 engine requestId stimulus (engine.pipelines requestId)
      ((next sha256 engine stimulus).pipelines requestId)
      ((next sha256 engine stimulus).assignments requestId)
      (next sha256 engine stimulus).calls (sent sha256 engine stimulus requestId) := by
  obtain ⟨emitted, extended, change⟩ := next_change sha256 enabled (fresh _ le_rfl) requestId
  rw [sent, extended, List.drop_left]
  exact change

/-- A pipeline was there before the event, or is started by it. -/
theorem Change.started_of_present {before later : Option PipelineState}
    {assigned : Option ShardAssignment} {calls : PartialMap Ticket Call} {emitted : List Effect}
    (change : Change sha256 engine requestId stimulus before later assigned calls emitted)
    (present : later ≠ none) : before ≠ none ∨ .started requestId ∈ emitted := by
  cases change with
  | started polling about => exact .inr List.mem_cons_self
  | orphaned about assigned => exact absurd rfl present
  | lost parked about quiet => exact absurd rfl present
  | _ => first | exact .inl present | exact .inl (Option.some_ne_none _)

/-! ## The poll tick -/

@[simp]
theorem request_nextStalled (engine : ShardEngine) (stalled : List RequestId) :
    (nextStalled engine stalled).request = none := by
  induction stalled with
  | nil => rfl
  | cons requestId rest ih =>
      unfold nextStalled
      split
      · rfl
      · exact ih

/-- The tick skips collected requests, it adds none. -/
theorem stalled_nextStalled_suffix (engine : ShardEngine) (stalled : List RequestId) :
    (nextStalled engine stalled).stalled <:+ stalled := by
  induction stalled with
  | nil => exact List.suffix_refl []
  | cons requestId rest ih =>
      unfold nextStalled
      split
      · exact List.suffix_refl _
      · exact ih.trans (List.suffix_cons requestId rest)

@[simp]
theorem stalled_nextRequest (engine : ShardEngine) (requests : List OpoiRequest) :
    (nextRequest engine requests).stalled = [] := by
  induction requests with
  | nil => rfl
  | cons req rest ih =>
      unfold nextRequest
      split
      · exact ih
      · rfl

/-- The tick takes up a listed request only while it has no pipeline. -/
theorem pipelines_of_nextRequest {requests : List OpoiRequest} {req : OpoiRequest}
    (taken : (nextRequest engine requests).request = some req) :
    engine.pipelines req.requestId = none := by
  induction requests with
  | nil => cases taken
  | cons first rest ih =>
      unfold nextRequest at taken
      split at taken
      · exact ih taken
      · rename_i absent
        cases taken
        simpa using absent

/-- A pipeline appears only when the tick starts it. -/
theorem Change.started_of_none {after : Option PipelineState}
    {assigned : Option ShardAssignment} {calls : PartialMap Ticket Call} {emitted : List Effect}
    (change : Change sha256 engine requestId stimulus none after assigned calls emitted)
    (appears : after ≠ none) :
    ∃ registry req rest manifest promptHex graph source,
      stimulus = ⟨registry, .pollClaim true false⟩ ∧
      engine.poll = .claiming req rest manifest promptHex graph source ∧
      req.requestId = requestId := by
  cases change with
  | started polling about => exact ⟨_, _, _, _, _, _, _, rfl, polling, about⟩
  | idle fewer kept => exact absurd rfl appears
  | rejected about => exact absurd rfl appears
  | orphaned about assigned => exact absurd rfl appears
  | unresolved parked about => exact absurd rfl appears
  | lost parked about quiet => exact absurd rfl appears
  | unsubmitted parked about => exact absurd rfl appears
  | sized parked about => exact absurd rfl appears
  | unjoined parked about => exact absurd rfl appears
  | abandoned parked about => exact absurd rfl appears
  | delegated polling about => exact absurd rfl appears

/-- The request the tick is about to start has no pipeline. -/
def PollClear (engine : ShardEngine) : Prop :=
  ∀ req, engine.poll.request = some req → engine.pipelines req.requestId = none

theorem pollClear_new : new.PollClear :=
  nofun

/-- An event that is not the tick's leaves the tick where it stands. -/
theorem next_poll (sha256 : Digest) (engine : ShardEngine) (stimulus : Stimulus)
    (other : stimulus.event.isPoll = false) :
    (next sha256 engine stimulus).poll = engine.poll := by
  rcases stimulus with ⟨registry, event⟩
  cases event with
  | receivePrompt target promptHex => rfl
  | shardResult wallet result =>
      simp only [next, handleShardResult]
      (repeat' split) <;> rfl
  | resolved ticket source => exact (resumeResolved_intake ..).poll
  | submitted ticket submitted stored => exact (resumeSubmitted_intake ..).poll
  | sized ticket minVramMb => exact (resumeSized_intake ..).poll
  | joined ticket output => exact (resumeJoined_intake ..).poll
  | dropped ticket => rfl
  | disconnect wallet => rfl
  | _ => cases other

/-- The request whose model an event reports as ACTIVE, while the engine has a
prompt for it. -/
def activeVerdict (engine : ShardEngine) (event : Event) : Option RequestId :=
  match event, engine.poll with
  | .pollManifest (some manifest), .manifest req _ =>
      if manifest.status = "ACTIVE" ∧ (engine.promptCache req.requestId).isSome then
        some req.requestId
      else
        none
  | _, _ => none

theorem cached_of_activeVerdict {event : Event}
    (active : engine.activeVerdict event = some requestId) :
    engine.promptCache requestId ≠ none := by
  unfold activeVerdict at active
  split at active
  · split at active
    · rename_i held
      cases active
      exact Option.isSome_iff_ne_none.mp held.2
    · cases active
  · cases active

section Answers

variable {req : OpoiRequest} {rest : List OpoiRequest} {manifest : ModelManifest}
variable {promptHex : String} {graph : ModelGraph}

/-- A retry carries the tick on to what is left, unless it dies of it. -/
theorem resumeRetry_poll (registry : MinerRegistry) {left : List RequestId}
    (polling : engine.poll = .retrying requestId left) (answer : Option ModelSource) :
    (resumeRetry registry answer engine).poll = .stopped ∨
      ∃ after, (resumeRetry registry answer engine).poll = nextStalled after left := by
  simp only [resumeRetry, polling]
  cases answer with
  | none => exact .inr ⟨engine, rfl⟩
  | some source =>
      dsimp only
      split
      · exact .inl rfl
      · exact .inr ⟨_, rfl⟩

/-- A manifest carries the tick on only if it is ACTIVE and the prompt is in
the cache. -/
theorem resumeManifest_poll (polling : engine.poll = .manifest req rest)
    (answer : Option ModelManifest) :
    (resumeManifest answer engine).pipelines = engine.pipelines ∧
      ((resumeManifest answer engine).poll = nextRequest engine rest ∨
        engine.activeVerdict (.pollManifest answer) = some req.requestId ∧
          ∃ manifest promptHex,
            (resumeManifest answer engine).poll = .graph req rest manifest promptHex) := by
  simp only [resumeManifest, activeVerdict, polling]
  cases answer with
  | none => exact ⟨rfl, .inl rfl⟩
  | some manifest =>
      cases cached : engine.promptCache req.requestId with
      | none => exact ⟨rfl, .inl rfl⟩
      | some promptHex =>
          dsimp only
          split
          · rename_i active
            exact ⟨rfl, .inr ⟨if_pos ⟨active, by simp [cached]⟩, manifest, promptHex, rfl⟩⟩
          · exact ⟨rfl, .inl rfl⟩

theorem resumeGraph_poll (polling : engine.poll = .graph req rest manifest promptHex)
    (answer : Option ModelGraph) :
    (resumeGraph answer engine).pipelines = engine.pipelines ∧
      ((resumeGraph answer engine).poll = nextRequest engine rest ∨
        ∃ graph, (resumeGraph answer engine).poll = .source req rest manifest promptHex graph) := by
  simp only [resumeGraph, polling]
  cases answer with
  | none => exact ⟨rfl, .inl rfl⟩
  | some graph => exact ⟨rfl, .inr ⟨graph, rfl⟩⟩

/-- A source carries the tick on only for a graph with dense shards. -/
theorem resumeSource_poll (polling : engine.poll = .source req rest manifest promptHex graph)
    (answer : Option ModelSource) :
    (resumeSource answer engine).pipelines = engine.pipelines ∧
      ((resumeSource answer engine).poll = nextRequest engine rest ∨
        denseShards graph ≠ [] ∧ ∃ source,
          (resumeSource answer engine).poll =
            .claiming req rest manifest promptHex graph source) := by
  simp only [resumeSource, polling]
  cases answer with
  | none => exact ⟨rfl, .inl rfl⟩
  | some source =>
      dsimp only
      split
      · exact ⟨rfl, .inl rfl⟩
      · rename_i dense
        exact ⟨rfl, .inr ⟨dense, source, rfl⟩⟩

end Answers

/-- A tick turns to a request it did not work on before only if that has no
pipeline, and it leaves a request when the claim for it is answered. -/
theorem next_poll_request {req : OpoiRequest} (enabled : engine.enabled stimulus)
    (works : (next sha256 engine stimulus).poll.request = some req) :
    (next sha256 engine stimulus).pipelines req.requestId = none ∨
      engine.poll.request = some req ∧
        ∀ claimed eligible, stimulus.event ≠ .pollClaim claimed eligible := by
  cases isPoll : stimulus.event.isPoll with
  | false =>
      right
      rw [next_poll sha256 engine stimulus isPoll] at works
      refine ⟨works, ?_⟩
      rintro claimed eligible same
      rw [same] at isPoll
      cases isPoll
  | true =>
      have turns : ∀ {after : ShardEngine} {requests : List OpoiRequest},
          after.pipelines = engine.pipelines → after.poll = nextRequest engine requests →
            after.poll.request = some req → after.pipelines req.requestId = none := by
        intro after requests same turned works
        rw [same]
        exact pipelines_of_nextRequest (turned ▸ works)
      rcases stimulus with ⟨registry, event⟩
      cases event with
      | pollBegin stalled =>
          rw [show (next sha256 engine ⟨registry, .pollBegin stalled⟩).poll.request = none from
            request_nextStalled engine stalled] at works
          cases works
      | pollRetry source =>
          rcases enabled with ⟨requestId, rest, polling⟩
          rcases resumeRetry_poll registry polling source with stops | ⟨_, goesOn⟩
          · cases (congrArg Poll.request stops).symm.trans works
          · cases (request_nextStalled ..).symm.trans
              ((congrArg Poll.request goesOn).symm.trans works)
      | pollListing requests =>
          have polling : engine.poll = .listing := enabled
          simp only [next, resumeListing, polling] at works ⊢
          exact .inl (pipelines_of_nextRequest works)
      | pollManifest manifest =>
          rcases enabled with ⟨current, rest, polling⟩
          rcases resumeManifest_poll polling manifest with ⟨same, turned | ⟨-, _, _, on⟩⟩
          · exact .inl (turns same turned works)
          · right
            rw [polling]
            refine ⟨(congrArg Poll.request on).symm.trans works, ?_⟩
            rintro _ _ same
            cases same
      | pollGraph graph =>
          rcases enabled with ⟨current, rest, manifest, promptHex, polling⟩
          rcases resumeGraph_poll polling graph with ⟨same, turned | ⟨_, on⟩⟩
          · exact .inl (turns same turned works)
          · right
            rw [polling]
            refine ⟨(congrArg Poll.request on).symm.trans works, ?_⟩
            rintro _ _ same
            cases same
      | pollSource source =>
          rcases enabled with ⟨current, rest, manifest, promptHex, graph, polling⟩
          rcases resumeSource_poll polling source with ⟨same, turned | ⟨-, _, on⟩⟩
          · exact .inl (turns same turned works)
          · right
            rw [polling]
            refine ⟨(congrArg Poll.request on).symm.trans works, ?_⟩
            rintro _ _ same
            cases same
      | pollClaim claimed eligible =>
          rcases enabled with ⟨current, rest, manifest, promptHex, graph, source, polling⟩
          left
          simp only [next, resumeClaim, polling] at works ⊢
          exact pipelines_of_nextRequest works
      | _ => cases isPoll

/-- The collected requests that are left after an event's own has been dealt
with. -/
def leftToRetry (engine : ShardEngine) (stimulus : Stimulus) : List RequestId :=
  match stimulus.event with
  | .pollBegin stalled => stalled
  | .pollRetry _ => engine.poll.stalled.tail
  | _ => engine.poll.stalled

theorem next_poll_stalled (sha256 : Digest) (enabled : engine.enabled stimulus) :
    (next sha256 engine stimulus).poll.stalled <:+ leftToRetry engine stimulus := by
  cases isPoll : stimulus.event.isPoll with
  | false =>
      rw [next_poll sha256 engine stimulus isPoll]
      rcases stimulus with ⟨registry, event⟩
      cases event with
      | pollBegin stalled => cases isPoll
      | pollRetry source => cases isPoll
      | _ => exact List.suffix_refl _
  | true =>
      rcases stimulus with ⟨registry, event⟩
      cases event with
      | pollBegin stalled => exact stalled_nextStalled_suffix engine stalled
      | pollRetry source =>
          rcases enabled with ⟨requestId, rest, polling⟩
          rcases resumeRetry_poll registry polling source with stops | ⟨_, goesOn⟩
          · simp only [next, stops, Poll.stalled, List.nil_suffix]
          · simp only [next, goesOn, leftToRetry, polling]
            exact stalled_nextStalled_suffix _ rest
      | pollListing requests =>
          have polling : engine.poll = .listing := enabled
          simp only [next, resumeListing, polling, stalled_nextRequest]
          exact List.nil_suffix
      | pollManifest manifest =>
          rcases enabled with ⟨current, rest, polling⟩
          rcases resumeManifest_poll polling manifest with ⟨-, turned | ⟨-, _, _, on⟩⟩
          · simp only [next, turned, stalled_nextRequest, List.nil_suffix]
          · simp only [next, on, Poll.stalled, List.nil_suffix]
      | pollGraph graph =>
          rcases enabled with ⟨current, rest, manifest, promptHex, polling⟩
          rcases resumeGraph_poll polling graph with ⟨-, turned | ⟨_, on⟩⟩
          · simp only [next, turned, stalled_nextRequest, List.nil_suffix]
          · simp only [next, on, Poll.stalled, List.nil_suffix]
      | pollSource source =>
          rcases enabled with ⟨current, rest, manifest, promptHex, graph, polling⟩
          rcases resumeSource_poll polling source with ⟨-, turned | ⟨-, _, on⟩⟩
          · simp only [next, turned, stalled_nextRequest, List.nil_suffix]
          · simp only [next, on, Poll.stalled, List.nil_suffix]
      | pollClaim claimed eligible =>
          rcases enabled with ⟨current, rest, manifest, promptHex, graph, source, polling⟩
          simp only [next, resumeClaim, polling, stalled_nextRequest]
          exact List.nil_suffix
      | _ => cases isPoll

/-- The tick claims a request it was claiming before, or one whose graph it
found to have dense shards. -/
theorem next_poll_claiming (sha256 : Digest) (enabled : engine.enabled stimulus)
    {req : OpoiRequest} {rest : List OpoiRequest} {manifest : ModelManifest} {promptHex : String}
    {graph : ModelGraph} {source : ModelSource}
    (claims : (next sha256 engine stimulus).poll =
      .claiming req rest manifest promptHex graph source) :
    engine.poll = .claiming req rest manifest promptHex graph source ∨ denseShards graph ≠ [] := by
  have notRequest : ∀ (engine : ShardEngine) requests,
      nextRequest engine requests ≠ .claiming req rest manifest promptHex graph source := by
    intro engine requests
    induction requests with
    | nil => simp [nextRequest]
    | cons first others ih =>
        unfold nextRequest
        split
        · exact ih
        · simp
  have notStalled : ∀ (engine : ShardEngine) stalled,
      nextStalled engine stalled ≠ .claiming req rest manifest promptHex graph source := by
    intro engine stalled
    induction stalled with
    | nil => simp [nextStalled]
    | cons first others ih =>
        unfold nextStalled
        split
        · simp
        · exact ih
  cases isPoll : stimulus.event.isPoll with
  | false =>
      rw [next_poll sha256 engine stimulus isPoll] at claims
      exact .inl claims
  | true =>
      rcases stimulus with ⟨registry, event⟩
      cases event with
      | pollBegin stalled => exact absurd claims (notStalled engine stalled)
      | pollRetry answer =>
          rcases enabled with ⟨requestId, others, polling⟩
          rcases resumeRetry_poll registry polling answer with stops | ⟨_, goesOn⟩
          · exact absurd (stops.symm.trans claims) (by simp)
          · exact absurd (goesOn.symm.trans claims) (notStalled _ _)
      | pollListing requests =>
          have polling : engine.poll = .listing := enabled
          simp only [next, resumeListing, polling] at claims
          exact absurd claims (notRequest _ _)
      | pollManifest answer =>
          rcases enabled with ⟨current, others, polling⟩
          rcases resumeManifest_poll polling answer with ⟨-, turned | ⟨-, _, _, on⟩⟩
          · exact absurd (turned.symm.trans claims) (notRequest _ _)
          · exact absurd (on.symm.trans claims) (by simp)
      | pollGraph answer =>
          rcases enabled with ⟨current, others, manifest, promptHex, polling⟩
          rcases resumeGraph_poll polling answer with ⟨-, turned | ⟨_, on⟩⟩
          · exact absurd (turned.symm.trans claims) (notRequest _ _)
          · exact absurd (on.symm.trans claims) (by simp)
      | pollSource answer =>
          rcases enabled with ⟨current, others, manifest, promptHex, graph, polling⟩
          rcases resumeSource_poll polling answer with ⟨-, turned | ⟨dense, _, on⟩⟩
          · exact absurd (turned.symm.trans claims) (notRequest _ _)
          · cases on.symm.trans claims
            exact .inr dense
      | pollClaim claimed eligible =>
          rcases enabled with ⟨current, others, manifest, promptHex, graph, source, polling⟩
          simp only [next, resumeClaim, polling] at claims
          exact absurd claims (notRequest _ _)
      | _ => cases isPoll

theorem PollClear.next (clear : engine.PollClear) (fresh : engine.TicketsFresh)
    (enabled : engine.enabled stimulus) : (next sha256 engine stimulus).PollClear := by
  intro req works
  rcases next_poll_request enabled works with absent | ⟨worked, notClaim⟩
  · exact absent
  · by_contra appears
    obtain ⟨emitted, -, change⟩ := next_change sha256 enabled (fresh _ le_rfl) req.requestId
    rw [clear req worked] at change
    obtain ⟨_, _, _, _, _, _, _, rfl, -⟩ := change.started_of_none appears
    exact notClaim true false rfl

/-! ## The prompt cache -/

/-- The claim for the request went through in this event. -/
def Claims (engine : ShardEngine) (requestId : RequestId) (eligible : Bool) (event : Event) :
    Prop :=
  event = .pollClaim true eligible ∧ ∃ req rest manifest promptHex graph source,
    engine.poll = .claiming req rest manifest promptHex graph source ∧
      req.requestId = requestId

/-- Only the intake of a prompt and the start of its request touch a cached
prompt. -/
theorem next_promptCache (sha256 : Digest) (engine : ShardEngine) (stimulus : Stimulus)
    (requestId : RequestId) :
    (next sha256 engine stimulus).promptCache requestId = engine.promptCache requestId ∨
      (∃ promptHex, stimulus.event = .receivePrompt requestId promptHex ∧
        (next sha256 engine stimulus).promptCache requestId = some promptHex) ∨
      ∃ eligible, engine.Claims requestId eligible stimulus.event ∧
        (next sha256 engine stimulus).promptCache requestId = none := by
  rcases stimulus with ⟨registry, event⟩
  cases event with
  | receivePrompt target promptHex =>
      by_cases same : requestId = target
      · subst same
        exact .inr (.inl ⟨promptHex, rfl, PartialMap.insert_self ..⟩)
      · exact .inl (PartialMap.insert_of_ne _ _ same)
  | shardResult wallet result =>
      left
      simp only [next, handleShardResult]
      (repeat' split) <;> rfl
  | pollClaim claimed eligible =>
      simp only [next, resumeClaim]
      split
      · rename_i req rest manifest promptHex graph source polling
        cases claimed with
        | false => exact .inl rfl
        | true =>
            rw [if_pos rfl, (startRequest_intake ..).2]
            by_cases same : requestId = req.requestId
            · subst same
              refine .inr (.inr ⟨eligible, ⟨rfl, req, rest, manifest, promptHex, graph, source,
                polling, rfl⟩, ?_⟩)
              exact PartialMap.remove_self ..
            · exact .inl (PartialMap.remove_of_ne _ same)
      · exact .inl rfl
  | _ => exact .inl (congrFun (next_intake sha256 engine _ (by simp) (by simp) (by simp)).2
      requestId)

@[simp]
theorem captured_nextStalled (engine : ShardEngine) (stalled : List RequestId) :
    (nextStalled engine stalled).captured = none := by
  induction stalled with
  | nil => rfl
  | cons requestId rest ih =>
      unfold nextStalled
      split
      · rfl
      · exact ih

@[simp]
theorem captured_nextRequest (engine : ShardEngine) (requests : List OpoiRequest) :
    (nextRequest engine requests).captured = none := by
  induction requests with
  | nil => rfl
  | cons req rest ih =>
      unfold nextRequest
      split
      · exact ih
      · rfl

/-- The tick reads a prompt when the model is ACTIVE or has read it before, and
an answered claim ends that. -/
theorem next_poll_captured (sha256 : Digest) (enabled : engine.enabled stimulus)
    (captures : (next sha256 engine stimulus).poll.captured = some requestId) :
    (engine.poll.captured = some requestId ∨
        engine.activeVerdict stimulus.event = some requestId) ∧
      ∀ claimed eligible, stimulus.event ≠ .pollClaim claimed eligible := by
  cases isPoll : stimulus.event.isPoll with
  | false =>
      rw [next_poll sha256 engine stimulus isPoll] at captures
      refine ⟨.inl captures, ?_⟩
      rintro claimed eligible same
      rw [same] at isPoll
      cases isPoll
  | true =>
      have turned : ∀ {poll : Poll} {after : ShardEngine} {requests : List OpoiRequest},
          poll = nextRequest after requests → poll.captured ≠ some requestId := by
        rintro _ after requests rfl same
        rw [captured_nextRequest] at same
        cases same
      rcases stimulus with ⟨registry, event⟩
      cases event with
      | pollBegin stalled =>
          rw [show (next sha256 engine ⟨registry, .pollBegin stalled⟩).poll.captured = none from
            captured_nextStalled engine stalled] at captures
          cases captures
      | pollRetry answer =>
          rcases enabled with ⟨target, rest, polling⟩
          rcases resumeRetry_poll registry polling answer with stops | ⟨_, goesOn⟩
          · cases (congrArg Poll.captured stops).symm.trans captures
          · cases (captured_nextStalled ..).symm.trans
              ((congrArg Poll.captured goesOn).symm.trans captures)
      | pollListing requests =>
          have polling : engine.poll = .listing := enabled
          simp only [next, resumeListing, polling, captured_nextRequest] at captures
          cases captures
      | pollManifest answer =>
          rcases enabled with ⟨req, rest, polling⟩
          rcases resumeManifest_poll polling answer with ⟨-, skips | ⟨active, _, _, on⟩⟩
          · exact absurd captures (turned skips)
          · cases (congrArg Poll.captured on).symm.trans captures
            refine ⟨.inr active, ?_⟩
            rintro _ _ same
            cases same
      | pollGraph answer =>
          rcases enabled with ⟨req, rest, manifest, promptHex, polling⟩
          rcases resumeGraph_poll polling answer with ⟨-, skips | ⟨_, on⟩⟩
          · exact absurd captures (turned skips)
          · rw [polling]
            refine ⟨.inl ((congrArg Poll.captured on).symm.trans captures), ?_⟩
            rintro _ _ same
            cases same
      | pollSource answer =>
          rcases enabled with ⟨req, rest, manifest, promptHex, graph, polling⟩
          rcases resumeSource_poll polling answer with ⟨-, skips | ⟨-, _, on⟩⟩
          · exact absurd captures (turned skips)
          · rw [polling]
            refine ⟨.inl ((congrArg Poll.captured on).symm.trans captures), ?_⟩
            rintro _ _ same
            cases same
      | pollClaim claimed eligible =>
          rcases enabled with ⟨req, rest, manifest, promptHex, graph, source, polling⟩
          simp only [next, resumeClaim, polling, captured_nextRequest] at captures
          cases captures
      | _ => cases isPoll

/-- The prompt a tick has read is still in the cache. -/
def PromptsHeld (engine : ShardEngine) : Prop :=
  ∀ requestId, engine.poll.captured = some requestId → engine.promptCache requestId ≠ none

theorem promptsHeld_new : new.PromptsHeld :=
  nofun

theorem PromptsHeld.next (held : engine.PromptsHeld) (enabled : engine.enabled stimulus) :
    (next sha256 engine stimulus).PromptsHeld := by
  intro requestId captures
  obtain ⟨was, notClaim⟩ := next_poll_captured sha256 enabled captures
  have cached : engine.promptCache requestId ≠ none :=
    was.elim (held requestId) cached_of_activeVerdict
  rcases next_promptCache sha256 engine stimulus requestId with same |
    ⟨promptHex, -, taken⟩ | ⟨eligible, ⟨claim, -⟩, -⟩
  · rwa [same]
  · simp [taken]
  · exact absurd claim (notClaim true eligible)

end ShardEngine

end StratumBridge.Shard
