import StratumBridge.Opoi.System
import StratumBridge.Shard.Drops
import StratumBridge.Transition.Beside
import StratumBridge.Transition.Observe

/-!
# One engine for each request

Every prompt goes to the whole-model engine and to the shard engine, and each
decides by its own look at the model's manifest whether the request is its own.
A request that is pushed as an `opoi.assign` was looked up as plain, and one
that the shard engine takes was looked up as ACTIVE; nothing makes the two looks
agree.
-/

namespace StratumBridge.Opoi.OpoiEngine

open Data Rpc Wire Transition

variable {sha256 : Digest} {engine : OpoiEngine} {requestId : RequestId}
variable {events : List Stimulus}

/-- The request was pushed to a miner. -/
def Pushed (engine : OpoiEngine) (requestId : RequestId) : Prop :=
  ∃ assign ∈ engine.lines, assign.requestId = requestId

/-- The request whose model an event reports as plain, while there is a miner
to push it to. -/
def plainVerdict (engine : OpoiEngine) (stimulus : Stimulus) : Option RequestId :=
  match stimulus.event, engine.poll with
  | .pollManifest answer _, .manifest assign _ =>
      if isPlain answer ∧ (stimulus.registry.pickNext engine.lastAssigned).isSome then
        some assign.requestId
      else
        none
  | _, _ => none

/-- The requests reported as plain along a list of events. -/
def plainVerdicts (sha256 : Digest) (events : List Stimulus) : List RequestId :=
  (system sha256).notes plainVerdict new events

/-- Only requests reported as plain are pushed. -/
theorem mem_plainVerdicts (run : (system sha256).Run new events engine)
    (pushed : engine.Pushed requestId) : requestId ∈ plainVerdicts sha256 events := by
  have all := run.noted (I := fun engine seen => ∀ assign ∈ engine.lines, assign.requestId ∈ seen)
    plainVerdict (fun _ mem => by cases mem) ?_
  · rcases pushed with ⟨assign, mem, rfl⟩
    exact all assign mem
  · intro engine seen stimulus held enabled _ assign mem
    obtain ⟨lines, sends, change⟩ := next_explained sha256 enabled
    rw [show ((system sha256).next engine stimulus).lines = engine.lines ++ lines from sends]
      at mem
    rcases List.mem_append.mp mem with old | now
    · exact List.mem_append_left _ (held assign old)
    · rcases change.of_line now with
        ⟨answer, rest, wallet, isEvent, polling, plain, picked, -⟩
      have verdict : engine.plainVerdict stimulus = some assign.requestId := by
        simp [plainVerdict, isEvent, polling, plain, picked]
      rw [verdict]
      exact List.mem_append_right _ (List.mem_singleton_self _)

end StratumBridge.Opoi.OpoiEngine

namespace StratumBridge.Shard.ShardEngine

open Data Rpc Wire Transition

variable {sha256 : Digest} {engine : ShardEngine} {requestId : RequestId}
variable {events : List Stimulus}

/-- The engine has started a pipeline for the request, here or at the
speculative engine. -/
def Takes (engine : ShardEngine) (requestId : RequestId) : Prop :=
  .started requestId ∈ engine.history requestId ∨ .delegated requestId ∈ engine.history requestId

/-- The requests reported as ACTIVE along a list of events. -/
def activeVerdicts (sha256 : Digest) (events : List Stimulus) : List RequestId :=
  (system sha256).notes (fun engine stimulus => engine.activeVerdict stimulus.event) new events

/-- The tick works on, and the engine has taken, only requests that were
reported as ACTIVE. -/
structure Reported (engine : ShardEngine) (seen : List RequestId) : Prop where
  fresh : engine.TicketsFresh
  captured : ∀ requestId, engine.poll.captured = some requestId → requestId ∈ seen
  taken : ∀ requestId, engine.Takes requestId → requestId ∈ seen

theorem reported_new : new.Reported [] :=
  ⟨ticketsFresh_new, nofun, fun _ takes => by simp [Takes, history, new, historyOf] at takes⟩

theorem Reported.next {seen : List RequestId} {stimulus : Stimulus}
    (reported : engine.Reported seen) (enabled : engine.enabled stimulus) :
    (next sha256 engine stimulus).Reported
      (seen ++ (engine.activeVerdict stimulus.event).toList) where
  fresh := reported.fresh.next enabled
  captured := by
    intro requestId captures
    rcases (next_poll_captured sha256 enabled captures).1 with was | active
    · exact List.mem_append_left _ (reported.captured requestId was)
    · rw [active]
      exact List.mem_append_right _ (List.mem_singleton_self _)
  taken := by
    intro requestId takes
    apply List.mem_append_left
    rcases next_change sha256 enabled (reported.fresh _ le_rfl) requestId with
      ⟨emitted, extended, change⟩
    have begins : engine.Takes requestId ∨
        (.started requestId ∈ emitted ∨ .delegated requestId ∈ emitted) := by
      simp only [Takes, extended, List.mem_append] at takes ⊢
      tauto
    rcases begins with was | now
    · exact reported.taken requestId was
    · rcases change.claims_of_started now with
        ⟨eligible, -, req, rest, manifest, promptHex, graph, source, polling, rfl⟩
      exact reported.captured _ (by rw [polling]; rfl)

/-- Only requests reported as ACTIVE are taken. -/
theorem mem_activeVerdicts (run : (system sha256).Run new events engine)
    (takes : engine.Takes requestId) : requestId ∈ activeVerdicts sha256 events := by
  have reported := run.noted (I := Reported)
    (fun engine stimulus => engine.activeVerdict stimulus.event) reported_new
    fun _ _ _ reported enabled _ => reported.next enabled
  exact reported.taken requestId takes

end StratumBridge.Shard.ShardEngine

namespace StratumBridge.Bridge.Routing

open Data Rpc Wire Transition Opoi Shard

/-- `submit_prompt` feeds a prompt to both engines, and nothing else does. -/
def Feeds (_ : OpoiEngine × ShardEngine) : Side Opoi.Stimulus Shard.Stimulus → Prop
  | .left ⟨_, .receivePrompt _ _ _ _⟩ => False
  | .right ⟨_, .receivePrompt _ _⟩ => False
  | .left _ | .right _ => True
  | .both ⟨_, .receivePrompt requestId promptHex _ _⟩ ⟨_, .receivePrompt target promptToo⟩ =>
      requestId = target ∧ promptHex = promptToo
  | .both _ _ => False

/-- The two engines side by side. -/
def system (sha256 : Digest) :
    System (OpoiEngine × ShardEngine) (Side Opoi.Stimulus Shard.Stimulus) :=
  (OpoiEngine.system sha256).beside (ShardEngine.system sha256) Feeds

/-- No request is reported as plain to one engine and as ACTIVE to the
other. -/
def VerdictsAgree (sha256 : Digest) (events : List (Side Opoi.Stimulus Shard.Stimulus)) : Prop :=
  ∀ requestId ∈ OpoiEngine.plainVerdicts sha256 (events.filterMap Side.first?),
    requestId ∉ ShardEngine.activeVerdicts sha256 (events.filterMap Side.second?)

/-- As long as the reports agree, no request is both pushed to a miner and taken
by the shard engine. -/
theorem one_engine_per_request {sha256 : Digest}
    {events : List (Side Opoi.Stimulus Shard.Stimulus)} {finish : OpoiEngine × ShardEngine}
    (run : (system sha256).Run (OpoiEngine.new, ShardEngine.new) events finish)
    (agree : VerdictsAgree sha256 events) (requestId : RequestId) :
    ¬ (finish.1.Pushed requestId ∧ finish.2.Takes requestId) := by
  rintro ⟨pushed, takes⟩
  have plain := OpoiEngine.mem_plainVerdicts run.first pushed
  have active := ShardEngine.mem_activeVerdicts run.second takes
  exact agree requestId plain active

/-! ## An example deployment -/

/-- Request `"r"` is taken in before it is confirmed, under a name of its model
that has no manifest, and the whole-model engine's next tick pushes it.  That
tick finds it listed, but it is cached already. -/
def optimisticEvents : List (Side Opoi.Stimulus Shard.Stimulus) :=
  [.both ⟨ShardEngine.soleRegistry, .receivePrompt "r" "00" (some "alias") (some 9)⟩
      ⟨ShardEngine.soleRegistry, .receivePrompt "r" "00"⟩,
    .left ⟨ShardEngine.soleRegistry, .fetched 0 none⟩,
    .left ⟨ShardEngine.soleRegistry, .pollBegin⟩,
    .left ⟨ShardEngine.soleRegistry, .pollListing (some [OpoiEngine.soleTask])⟩,
    .left ⟨ShardEngine.soleRegistry, .pollCandidates ["r"]⟩,
    .left ⟨ShardEngine.soleRegistry, .pollManifest (.error "manifest not found") true⟩]

/-- The shard engine's tick up to its look at the manifest. -/
def shardTick (manifest : Option ModelManifest) :
    List (Side Opoi.Stimulus Shard.Stimulus) :=
  [.right ⟨ShardEngine.soleRegistry, .pollBegin []⟩,
    .right ⟨ShardEngine.soleRegistry, .pollListing (some [ShardEngine.soleRequest 9])⟩,
    .right ⟨ShardEngine.soleRegistry, .pollManifest manifest⟩]

/-- The rest of the tick, up to the start of the pipeline. -/
def shardStart : List (Side Opoi.Stimulus Shard.Stimulus) :=
  [.right ⟨ShardEngine.soleRegistry, .pollGraph (some (ShardEngine.soleGraph 1))⟩,
    .right ⟨ShardEngine.soleRegistry, .pollSource (some ShardEngine.soleSource)⟩,
    .right ⟨ShardEngine.soleRegistry, .pollClaim true false⟩]

theorem optimistic_run :
    (system id).Run (OpoiEngine.new, ShardEngine.new) optimisticEvents
      ((system id).execute (OpoiEngine.new, ShardEngine.new) optimisticEvents) := by
  apply System.Admits.runWith
  exact ⟨⟨⟨⟨rfl, rfl⟩, trivial, trivial⟩, trivial⟩, ⟨⟨trivial, _, _, _, _, rfl⟩, trivial⟩,
    ⟨⟨trivial, rfl⟩, trivial⟩, ⟨⟨trivial, rfl⟩, trivial⟩,
    ⟨⟨trivial, rfl, List.nodup_singleton _, OpoiEngine.mem_sole_iff rfl (by decide) rfl
      fun _ ne => PartialMap.insert_of_ne _ _ ne⟩, trivial⟩,
    ⟨⟨trivial, _, _, rfl⟩, trivial⟩, trivial⟩

/-- An instance of `one_engine_per_request`: the shard engine finds no manifest
either. -/
theorem one_engine_per_request_optimistic :
    let finish := (system id).execute (OpoiEngine.new, ShardEngine.new)
      (optimisticEvents ++ shardTick none)
    finish.1.Pushed "r" ∧ ¬ finish.2.Takes "r" := by
  intro finish
  have run : (system id).Run (OpoiEngine.new, ShardEngine.new)
      (optimisticEvents ++ shardTick none) finish := by
    have tick : (system id).Admits (fun _ _ => True)
        ((system id).execute (OpoiEngine.new, ShardEngine.new) optimisticEvents)
        (shardTick none) :=
      ⟨⟨⟨trivial, rfl, List.nodup_nil, ShardEngine.nothing_stalled fun _ => rfl⟩, trivial⟩,
        ⟨⟨trivial, rfl⟩, trivial⟩, ⟨⟨trivial, _, _, rfl⟩, trivial⟩, trivial⟩
    exact optimistic_run.append tick.runWith
  have pushed : finish.1.Pushed "r" := ⟨_, List.mem_singleton_self _, rfl⟩
  have agree : VerdictsAgree id (optimisticEvents ++ shardTick none) := fun _ _ => nofun
  exact ⟨pushed, fun takes => one_engine_per_request run agree "r" ⟨pushed, takes⟩⟩

/-- A request that is pushed under its caller's name for the model is started as
a pipeline under the name on the chain. -/
theorem request_served_twice :
    ∃ events finish, (system id).Run (OpoiEngine.new, ShardEngine.new) events finish ∧
      finish.1.Pushed "r" ∧ .started "r" ∈ finish.2.history "r" := by
  refine ⟨optimisticEvents ++ (shardTick (some ShardEngine.soleManifest) ++ shardStart), _,
    optimistic_run.append (System.Admits.runWith (?_ : (system id).Admits _ _ _)), ?_, ?_⟩
  · exact ⟨⟨⟨trivial, rfl, List.nodup_nil, ShardEngine.nothing_stalled fun _ => rfl⟩, trivial⟩,
      ⟨⟨trivial, rfl⟩, trivial⟩, ⟨⟨trivial, _, _, rfl⟩, trivial⟩,
      ⟨⟨trivial, _, _, _, _, rfl⟩, trivial⟩, ⟨⟨trivial, _, _, _, _, _, rfl⟩, trivial⟩,
      ⟨⟨trivial, _, _, _, _, _, _, rfl⟩, trivial⟩, trivial⟩
  · exact ⟨_, List.mem_singleton_self _, rfl⟩
  · decide

end StratumBridge.Bridge.Routing
