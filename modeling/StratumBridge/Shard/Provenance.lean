import StratumBridge.Shard.Intake

/-!
# Where the prompts of a shard pipeline come from

A prompt that reaches a miner in an `opoi.shard_assign` line was taken in for the request
of the line: from the cache the tick reads it, and the pipeline that is started with it
sends it to its first shard.
-/

namespace StratumBridge.Shard

open Data Rpc Wire Transition

/-- The request a tick is about to start, with the prompt that it read for it. -/
def Poll.prompt : Poll → Option (RequestId × String)
  | graph req _ _ promptHex => some (req.requestId, promptHex)
  | source req _ _ promptHex _ => some (req.requestId, promptHex)
  | claiming req _ _ promptHex _ _ => some (req.requestId, promptHex)
  | _ => none

namespace ShardEngine

/-- The prompts of a pipeline are vouched for. -/
structure Told (vouched : String → Prop) (pipeline : PipelineState) : Prop where
  original : vouched pipeline.originalPromptHex
  input : ∀ promptHex, pipeline.currentInput = .prompt promptHex → vouched promptHex

/-- So are those of a stored pipeline and of the lines that are sent. -/
structure Tells (vouched : String → Prop) (stored : Option PipelineState)
    (emitted : List Effect) : Prop where
  stored : ∀ pipeline, stored = some pipeline → Told vouched pipeline
  sent : ∀ wallet tx assign promptHex, .shardAssign wallet tx assign ∈ emitted →
    assign.input = .prompt promptHex → vouched promptHex

/-- Every prompt that the engine holds, or has sent, was posted for its request. -/
structure Vouched (posted : RequestId → String → Prop) (engine : ShardEngine) : Prop where
  fresh : engine.TicketsFresh
  cached : ∀ requestId promptHex, engine.promptCache requestId = some promptHex →
    posted requestId promptHex
  poll : ∀ requestId promptHex, engine.poll.prompt = some (requestId, promptHex) →
    posted requestId promptHex
  told : ∀ requestId, Tells (posted requestId) (engine.pipelines requestId)
    (engine.history requestId)

variable {posted later : RequestId → String → Prop} {engine : ShardEngine} {sha256 : Digest}
  {stimulus : Stimulus} {vouched : String → Prop} {pipeline after : PipelineState}
  {registry : MinerRegistry} {last : Option Wallet} {requestId : RequestId} {source : ModelSource}
  {emitted : List Effect} {stored : Option PipelineState}

theorem vouched_new : new.Vouched posted where
  fresh := ticketsFresh_new
  cached _ _ found := absurd found (Option.some_ne_none _).symm
  poll _ _ polling := by cases polling
  told _ := ⟨fun _ found => absurd found (Option.some_ne_none _).symm,
    fun _ _ _ _ mem => absurd mem List.not_mem_nil⟩

theorem Tells.mono {weaker : String → Prop} (tells : Tells vouched stored emitted)
    (grows : ∀ promptHex, vouched promptHex → weaker promptHex) : Tells weaker stored emitted where
  stored pipeline same :=
    ⟨grows _ (tells.stored pipeline same).original,
      fun promptHex input => grows _ ((tells.stored pipeline same).input promptHex input)⟩
  sent wallet tx assign promptHex mem input :=
    grows _ (tells.sent wallet tx assign promptHex mem input)

theorem Vouched.mono (held : engine.Vouched posted)
    (grows : ∀ requestId promptHex, posted requestId promptHex → later requestId promptHex) :
    engine.Vouched later where
  fresh := held.fresh
  cached requestId promptHex found := grows _ _ (held.cached requestId promptHex found)
  poll requestId promptHex polling := grows _ _ (held.poll requestId promptHex polling)
  told requestId := (held.told requestId).mono (grows requestId)

/-! ## Pipelines -/

theorem told_initialPipeline {req : OpoiRequest} {manifest : ModelManifest} {graph : ModelGraph}
    {promptHex : String} (post : vouched promptHex) :
    Told vouched (initialPipeline req manifest graph promptHex) where
  original := post
  input _ same := by
    cases same
    exact post

theorem Told.contribute (told : Told vouched pipeline) (wallet : Wallet) :
    Told vouched (contribute wallet pipeline) :=
  ⟨told.original, told.input⟩

/-- What a shard is given by another one is no prompt. -/
theorem Told.nextShard (told : Told vouched pipeline) (output : ShardOutputWire) :
    Told vouched (nextShard pipeline output) :=
  ⟨told.original, nofun⟩

theorem Told.nextLayer (told : Told vouched pipeline) (layerIdx : Nat)
    (output : ShardOutputWire) : Told vouched (nextLayer pipeline layerIdx output) :=
  ⟨told.original, nofun⟩

theorem Told.nextToken (told : Told vouched pipeline) (tokenId : TokenId) :
    Told vouched (nextToken (recordToken pipeline tokenId) tokenId) :=
  ⟨told.original, nofun⟩

theorem Told.openWalk (told : Told vouched pipeline) (shard : ShardDescriptor) (wallet : Wallet) :
    Told vouched (openWalk pipeline shard wallet) := by
  unfold ShardEngine.openWalk
  split
  · exact ⟨told.original, told.input⟩
  · exact told

/-! ## Dispatches -/

theorem Told.dispatched (told : Told vouched pipeline)
    (stays : dispatched registry last pipeline = some after) : Told vouched after := by
  unfold ShardEngine.dispatched at stays
  split at stays
  · cases stays
    exact told
  · split at stays
    · split at stays
      · cases stays
        exact told
      · cases stays
    · split at stays
      · cases stays
        exact told
      · cases stays
        exact told.openWalk _ _

/-- A line carries the input of its pipeline. -/
theorem input_of_mem_dispatchLines {wallet : Wallet} {tx : Channel} {assign : OpoiShardAssign}
    (mem : .shardAssign wallet tx assign ∈ dispatchLines registry last requestId source pipeline) :
    assign.input = pipeline.currentInput := by
  unfold dispatchLines at mem
  split at mem
  · cases List.mem_singleton.mp mem
  · split at mem
    · split at mem
      · cases List.mem_singleton.mp mem
      · cases List.mem_singleton.mp mem
        rfl
    · simp only [Option.mem_toList, Option.bind_eq_some_iff, Option.map_eq_some_iff] at mem
      rcases mem with ⟨host, -, tx, -, same⟩
      cases same
      exact openWalk_currentInput ..

theorem Told.tells_dispatched (told : Told vouched pipeline) :
    Tells vouched (ShardEngine.dispatched registry last pipeline)
      (dispatchLines registry last requestId source pipeline) where
  stored _ same := told.dispatched same
  sent _ _ _ promptHex mem input :=
    told.input promptHex ((input_of_mem_dispatchLines mem).symm.trans input)

/-- An effect that is no line before others. -/
theorem Tells.cons {first : Effect} (tells : Tells vouched stored emitted)
    (other : ∀ wallet tx assign, .shardAssign wallet tx assign ≠ first) :
    Tells vouched stored (first :: emitted) where
  stored := tells.stored
  sent wallet tx assign promptHex mem :=
    tells.sent wallet tx assign promptHex
      ((List.mem_cons.mp mem).resolve_left (other wallet tx assign))

/-- Nothing that is sent carries a prompt. -/
def Wordless (emitted : List Effect) : Prop :=
  ∀ wallet tx assign, .shardAssign wallet tx assign ∉ emitted

theorem Wordless.tells (wordless : Wordless emitted)
    (told : ∀ pipeline, stored = some pipeline → Told vouched pipeline) :
    Tells vouched stored emitted :=
  ⟨told, fun wallet tx assign _ mem => absurd mem (wordless wallet tx assign)⟩

theorem Told.tells (told : Told vouched pipeline) (wordless : Wordless emitted) :
    Tells vouched (some pipeline) emitted :=
  wordless.tells fun _ same => Option.some.inj same ▸ told

theorem Wordless.tells_none (wordless : Wordless emitted) : Tells vouched none emitted :=
  wordless.tells nofun

/-! ## Events -/

theorem ExpertOutcome.tells {interior : Bool} {wallet : Wallet} {result : OpoiShardResult}
    {expertIds : List Nat} {layerIdx : Nat} {call : Option Call}
    (outcome : ExpertOutcome interior wallet result source expertIds layerIdx pipeline stored call
      emitted) (told : Told vouched pipeline) : Tells vouched stored emitted := by
  cases outcome with
  | absent verdict => exact told.tells (by simp [Wordless])
  | malformed verdict => exact Wordless.tells_none (by simp [Wordless])
  | panicked outside => exact told.tells (by simp [Wordless])
  | sizing isInterior sameWallet sameResult sameSource sameLayer verdict =>
      exact told.tells (by simp [Wordless])

theorem StepOutcome.tells {assigned : Option ShardAssignment} {ticket : Ticket} {wallet : Wallet}
    {result : OpoiShardResult} {lastToken created : Bool} {assigned' : Option ShardAssignment}
    {call : Option Call}
    (outcome : StepOutcome sha256 registry last assigned ticket wallet result source lastToken
      created pipeline stored assigned' call emitted) (told : Told vouched pipeline) :
    Tells vouched stored emitted := by
  cases outcome with
  | unanswered lastShard answer => exact Wordless.tells_none (by simp [Wordless])
  | finalized lastShard answer isLast wins => exact Wordless.tells_none (by simp [Wordless])
  | unattributed lastShard answer isLast nobody => exact Wordless.tells_none (by simp [Wordless])
  | nextToken lastShard answer notLast => exact (told.nextToken _).tells_dispatched.cons (by simp)
  | nextShard notLastShard dense => exact (told.nextShard _).tells_dispatched.cons (by simp)
  | experts notLastShard group outcome => exact outcome.tells told

/-- What an event does to a request keeps to the prompts that were posted for it. -/
theorem Change.tells {before : Option PipelineState} {assigned : Option ShardAssignment}
    {calls : PartialMap Ticket Call}
    (change : Change sha256 engine requestId stimulus before stored assigned calls emitted)
    (told : ∀ pipeline, before = some pipeline → Told vouched pipeline)
    (polled : ∀ promptHex, engine.poll.prompt = some (requestId, promptHex) →
      vouched promptHex) : Tells vouched stored emitted := by
  cases change with
  | idle fewer kept => exact Wordless.tells (by simp [Wordless]) told
  | rejected about => exact Wordless.tells (by simp [Wordless]) told
  | orphaned about assigned => exact Wordless.tells_none (by simp [Wordless])
  | accepted about assigned => exact (told _ rfl).tells (by simp [Wordless])
  | unresolved parked about => exact Wordless.tells (by simp [Wordless]) told
  | lost parked about quiet =>
      exact Wordless.tells_none (by rcases quiet with rfl | rfl <;> simp [Wordless])
  | misplaced parked about outside =>
      exact ((told _ rfl).contribute _).tells (by simp [Wordless])
  | ungrouped parked about resumes dense => exact Wordless.tells_none (by simp [Wordless])
  | interior parked about layer found resumes group outcome =>
      exact outcome.tells ((told _ rfl).contribute _)
  | submitting parked about lastToken finishes =>
      exact ((told _ rfl).contribute _).tells (by simp [Wordless])
  | completed parked about notLastToken outcome finishes =>
      exact outcome.tells ((told _ rfl).contribute _)
  | unsubmitted parked about => exact Wordless.tells (by simp [Wordless]) told
  | submitted parked about outcome => exact outcome.tells (told _ rfl)
  | sized parked about => exact Wordless.tells (by simp [Wordless]) told
  | unjoined parked about => exact Wordless.tells (by simp [Wordless]) told
  | abandoned parked about => exact Wordless.tells (by simp [Wordless]) told
  | walked parked about isInterior =>
      exact ((told _ rfl).nextLayer _ _).tells_dispatched.cons (by simp)
  | handedOver parked about isBoundary =>
      exact ((told _ rfl).nextShard _).tells_dispatched.cons (by simp)
  | redispatched polling => exact (told _ rfl).tells_dispatched
  | delegated polling about => exact Wordless.tells (by simp [Wordless]) told
  | started polling about =>
      refine (told_initialPipeline (polled _ ?_)).tells_dispatched.cons (by simp)
      rw [polling, ← about]
      rfl

/-- A prompt that an event takes in was posted. -/
def BringsPosted (posted : RequestId → String → Prop) : Event → Prop
  | .receivePrompt requestId promptHex => posted requestId promptHex
  | _ => True

theorem prompt_nextStalled (engine : ShardEngine) (stalled : List RequestId) :
    (nextStalled engine stalled).prompt = none := by
  induction stalled with
  | nil => rfl
  | cons requestId rest ih =>
      unfold nextStalled
      split
      · rfl
      · exact ih

theorem prompt_nextRequest (engine : ShardEngine) (requests : List OpoiRequest) :
    (nextRequest engine requests).prompt = none := by
  induction requests with
  | nil => rfl
  | cons req rest ih =>
      unfold nextRequest
      split
      · exact ih
      · rfl

/-- The tick has its prompt from the cache. -/
theorem Vouched.poll_next (held : engine.Vouched posted) (enabled : engine.enabled stimulus)
    {promptHex : String}
    (polling : (next sha256 engine stimulus).poll.prompt = some (requestId, promptHex)) :
    posted requestId promptHex := by
  cases isPoll : stimulus.event.isPoll with
  | false =>
      rw [next_poll sha256 engine stimulus isPoll] at polling
      exact held.poll requestId promptHex polling
  | true =>
      have turned : ∀ {poll : Poll} {after : ShardEngine} {requests : List OpoiRequest},
          poll = nextRequest after requests → poll.prompt ≠ some (requestId, promptHex) := by
        rintro _ after requests rfl same
        rw [prompt_nextRequest] at same
        cases same
      rcases stimulus with ⟨registry, event⟩
      cases event with
      | pollBegin stalled =>
          exact absurd (polling.symm.trans (prompt_nextStalled engine stalled)) nofun
      | pollRetry source =>
          rcases enabled with ⟨target, rest, was⟩
          rcases resumeRetry_poll registry was source with stops | ⟨_, goesOn⟩
          · cases (congrArg Poll.prompt stops).symm.trans polling
          · cases (prompt_nextStalled ..).symm.trans
              ((congrArg Poll.prompt goesOn).symm.trans polling)
      | pollListing requests =>
          have was : engine.poll = .listing := enabled
          simp only [next, resumeListing, was, prompt_nextRequest] at polling
          cases polling
      | pollManifest manifest =>
          rcases enabled with ⟨req, rest, was⟩
          simp only [next, resumeManifest, was] at polling
          split at polling
          · rename_i cached
            split at polling
            · cases polling
              exact held.cached _ _ cached
            · exact absurd polling (turned rfl)
          · exact absurd polling (turned rfl)
      | pollGraph graph =>
          rcases enabled with ⟨req, rest, manifest, prompt, was⟩
          rcases resumeGraph_poll was graph with ⟨-, skips | ⟨_, on⟩⟩
          · exact absurd polling (turned skips)
          · exact held.poll _ _ (by rw [was]; exact (congrArg Poll.prompt on).symm.trans polling)
      | pollSource source =>
          rcases enabled with ⟨req, rest, manifest, prompt, graph, was⟩
          rcases resumeSource_poll was source with ⟨-, skips | ⟨-, _, on⟩⟩
          · exact absurd polling (turned skips)
          · exact held.poll _ _ (by rw [was]; exact (congrArg Poll.prompt on).symm.trans polling)
      | pollClaim claimed eligible =>
          rcases enabled with ⟨req, rest, manifest, prompt, graph, source, was⟩
          simp only [next, resumeClaim, was, prompt_nextRequest] at polling
          cases polling
      | _ => cases isPoll

theorem Vouched.next (held : engine.Vouched posted) (enabled : engine.enabled stimulus)
    (brings : BringsPosted posted stimulus.event) :
    (next sha256 engine stimulus).Vouched posted where
  fresh := held.fresh.next enabled
  cached requestId promptHex found := by
    rcases next_promptCache sha256 engine stimulus requestId with same | ⟨post, isEvent, stored⟩ |
      ⟨eligible, -, gone⟩
    · exact held.cached requestId promptHex (same ▸ found)
    · cases stored.symm.trans found
      rw [isEvent] at brings
      exact brings
    · cases gone.symm.trans found
  poll requestId promptHex polling := held.poll_next enabled polling
  told requestId := by
    obtain ⟨emitted, extended, change⟩ := next_change sha256 enabled (held.fresh _ le_rfl) requestId
    have told := held.told requestId
    have tells := change.tells told.stored (held.poll requestId)
    refine ⟨tells.stored, ?_⟩
    rw [extended]
    intro wallet tx assign promptHex mem input
    rcases List.mem_append.mp mem with old | new
    · exact told.sent wallet tx assign promptHex old input
    · exact tells.sent wallet tx assign promptHex new input

/-- A line that was sent is in the history of its request. -/
theorem Vouched.sent (held : engine.Vouched posted) {wallet : Wallet} {tx : Channel}
    {assign : OpoiShardAssign} {promptHex : String}
    (mem : .shardAssign wallet tx assign ∈ engine.log) (input : assign.input = .prompt promptHex) :
    posted assign.requestId promptHex :=
  (held.told assign.requestId).sent wallet tx assign promptHex
    (List.mem_filter.mpr ⟨mem, decide_eq_true rfl⟩) input

/-- The prompt was taken in along the events. -/
def TakenIn (events : List Stimulus) (requestId : RequestId) (promptHex : String) : Prop :=
  ∃ stimulus ∈ events, stimulus.event = .receivePrompt requestId promptHex

/-- In a run, the engine holds and sends only prompts that were taken in. -/
theorem vouched_of_run {events : List Stimulus} (run : (system sha256).Run new events engine) :
    engine.Vouched (TakenIn events) := by
  induction run with
  | nil => exact vouched_new
  | @snoc events state stimulus _ enabled _ ih =>
      have before : state.Vouched (TakenIn (events ++ [stimulus])) :=
        ih.mono fun _ _ ⟨taken, mem, how⟩ => ⟨taken, List.mem_append_left _ mem, how⟩
      apply before.next enabled
      unfold BringsPosted
      split
      · rename_i requestId promptHex isEvent
        exact ⟨stimulus, List.mem_append_right _ List.mem_cons_self, isEvent⟩
      · trivial

end ShardEngine

end StratumBridge.Shard
