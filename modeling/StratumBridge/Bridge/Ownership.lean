import StratumBridge.Bridge.Custody

/-!
# One pipeline per request

A start looks at the pipelines of one engine only and takes the cached prompt
for a lock.  A prompt that is taken in again opens the lock, whatever has become
of the request since.
-/

namespace StratumBridge.Bridge.World

open Data Rpc Wire Transition Shard Speculative

/-- The condition on a step under which a request has one pipeline: its prompt
is taken in only while neither engine has a pipeline for it, no row of it is in
flight and none stands that is not FAILED, and no other engine records it while
its prompt is cached. -/
def IntakeGuard (requestId : RequestId) (world : World) (stimulus : Stimulus) : Prop :=
  (∀ promptHex, stimulus.event = .shard (.receivePrompt requestId promptHex) →
    world.shard.pipelines requestId = none ∧ world.speculative.pipelines requestId = none ∧
      world.writes requestId = [] ∧ ¬ world.Active requestId) ∧
  ∀ row, stimulus.event = .recorded row → row.requestId = requestId →
    world.shard.promptCache requestId = none

/-- The step starts a pipeline for the request, at either engine. -/
def Starts (sha256 : Digest) (world : World) (requestId : RequestId) (stimulus : Stimulus) :
    Prop :=
  ∃ event, stimulus.event = .shard event ∧
    (.started requestId ∈ ShardEngine.sent sha256 world.shard ⟨stimulus.registry, event⟩
        requestId ∨
      .delegated requestId ∈ ShardEngine.sent sha256 world.shard ⟨stimulus.registry, event⟩
        requestId)

variable {sha256 : Digest} {world : World} {stimulus : Stimulus} {requestId : RequestId}

theorem free_custody_iff : (world.custody requestId).Free ↔
    world.shard.pipelines requestId = none ∧ world.speculative.pipelines requestId = none ∧
      world.writes requestId = [] ∧ ¬ world.Active requestId := by
  constructor
  · rintro ⟨unowned, unwritten, inactive⟩
    refine ⟨by simpa [custody, holds] using unowned .plain,
      by simpa [custody, holds] using unowned .speculative,
      by simpa [custody] using unwritten, ?_⟩
    rw [← active_custody, inactive]
    exact Bool.false_ne_true
  · rintro ⟨plain, speculative, unwritten, inactive⟩
    refine ⟨?_, by simpa [custody] using unwritten, ?_⟩
    · rintro (_ | _)
      · simpa [custody, holds] using plain
      · simpa [custody, holds] using speculative
    · rwa [← active_custody, Bool.not_eq_true] at inactive

/-- A guarded step is tidy. -/
theorem tidy_of_guard {action : Custody.Action Owner}
    (guarded : IntakeGuard requestId world stimulus)
    (explains : world.Explains requestId stimulus action) :
    (world.custody requestId).Tidy action := by
  cases action with
  | post =>
      rcases explains with ⟨promptHex, post⟩
      exact free_custody_iff.mpr (guarded.1 promptHex post)
  | record =>
      rcases explains with ⟨row, record, own⟩
      simpa [custody, Custody.Tidy] using guarded.2 row record own
  | _ => trivial

/-- A request that is started has its prompt in the cache. -/
theorem waiting_of_starts (sound : world.Sound) (enabled : world.enabled sha256 stimulus)
    (starts : world.Starts sha256 requestId stimulus) :
    (world.custody requestId).waiting = true := by
  rcases stimulus with ⟨registry, event⟩
  rcases starts with ⟨event, rfl, begins⟩
  have change := ShardEngine.next_change_sent sha256 enabled.2.1 sound.tickets requestId
  rcases change.claims_of_started begins with
    ⟨eligible, -, req, rest, manifest, promptHex, graph, source, polling, rfl⟩
  rw [custody, Option.isSome_iff_ne_none]
  apply sound.prompts
  rw [polling]
  rfl

/-- Along every run whose intake is guarded, a request has a pipeline in one
engine at most, and it is started only while it has none and no submission of it
stands. -/
theorem one_pipeline_per_request {draftSources : PartialMap String DraftModelSource}
    {events : List Stimulus}
    (run : (system sha256).RunWith (IntakeGuard requestId) (new draftSources) events world) :
    (world.shard.pipelines requestId = none ∨ world.speculative.pipelines requestId = none) ∧
      ∀ stimulus, world.enabled sha256 stimulus → world.Starts sha256 requestId stimulus →
        world.shard.pipelines requestId = none ∧
          world.speculative.pipelines requestId = none ∧ ¬ world.Active requestId := by
  have sound : world.Sound := run.invariant (sound_new draftSources)
    fun _ _ sound enabled _ => sound.next enabled
  rcases custody_run run fun _ _ _ guarded explains => tidy_of_guard guarded explains with
    ⟨actions, life⟩
  have exclusive := Custody.exclusive_of_run life
  constructor
  · by_contra both
    push Not at both
    have same := exclusive.owner .plain .speculative
      (Option.isSome_iff_ne_none.mpr both.1) (Option.isSome_iff_ne_none.mpr both.2)
    cases same
  · intro stimulus enabled starts
    rcases free_custody_iff.mp (exclusive.waiting (waiting_of_starts sound enabled starts)) with
      ⟨plain, speculative, -, inactive⟩
    exact ⟨plain, speculative, inactive⟩

/-- The intake of request `"r"` and the tick up to the claim for it. -/
def claimingEvents (registry : MinerRegistry) : List Stimulus :=
  (ShardEngine.soleStart registry 1 9).dropLast.map ofShard

/-- The bridge with a draft for the model. -/
def draftedBridge : World :=
  new (PartialMap.empty.insert "model" SpeculativeEngine.soleDraftSource)

/-- An instance of `one_pipeline_per_request`: the request is about to be
started for the first time. -/
theorem one_pipeline_per_request_sole :
    let world := (system id).execute draftedBridge (claimingEvents ShardEngine.soleRegistry)
    let claim := ofShard ⟨ShardEngine.soleRegistry, .pollClaim true false⟩
    world.Starts id "r" claim ∧ world.shard.pipelines "r" = none ∧
      world.speculative.pipelines "r" = none ∧ ¬ world.Active "r" := by
  intro world claim
  have run : (system id).RunWith (IntakeGuard "r") draftedBridge
      (claimingEvents ShardEngine.soleRegistry) world := by
    apply System.Admits.runWith
    refine ⟨⟨enabled_ofShard trivial trivial rfl, fun _ _ => ⟨rfl, rfl, rfl, ?_⟩, nofun⟩,
      ⟨enabled_ofShard trivial
        ⟨rfl, List.nodup_nil, ShardEngine.nothing_stalled fun _ => rfl⟩ rfl, nofun, nofun⟩,
      ⟨enabled_ofShard trivial rfl rfl, nofun, nofun⟩,
      ⟨enabled_ofShard trivial ⟨_, _, rfl⟩ rfl, nofun, nofun⟩,
      ⟨enabled_ofShard trivial ⟨_, _, _, _, rfl⟩ rfl, nofun, nofun⟩,
      ⟨enabled_ofShard trivial ⟨_, _, _, _, _, rfl⟩ rfl, nofun, nofun⟩, trivial⟩
    · rintro ⟨row, mem, -⟩
      cases mem
  have starts : world.Starts id "r" claim := ⟨_, rfl, .inl (by decide)⟩
  have routed : world.Routed claim.registry claim.event := by
    rintro _ _ _ _ _ _ ⟨⟩
    rfl
  have offered : world.enabled id claim :=
    enabled_ofShard routed ⟨_, _, _, _, _, _, rfl⟩ rfl
  exact ⟨starts, (one_pipeline_per_request run).2 claim offered starts⟩

/-- A prompt that is taken in twice: the first start goes to the speculative
engine, and when no draft miner is left the tick starts the request again. -/
def repostEvents : List Stimulus :=
  claimingEvents SpeculativeEngine.soleRegistry ++
    [ofShard ⟨SpeculativeEngine.soleRegistry, .pollClaim true true⟩] ++
    claimingEvents ShardEngine.soleRegistry ++
    [ofShard ⟨ShardEngine.soleRegistry, .pollClaim true false⟩]

/-- After a second intake both engines have a pipeline for the request. -/
theorem two_pipelines_after_repost :
    ∃ events world, (system id).Run draftedBridge events world ∧
      world.shard.pipelines "r" ≠ none ∧ world.speculative.pipelines "r" ≠ none := by
  refine ⟨repostEvents, (system id).execute draftedBridge repostEvents, ?_, ?_, ?_⟩
  · apply System.Admits.runWith
    refine ⟨⟨enabled_ofShard trivial trivial rfl, trivial⟩,
      ⟨enabled_ofShard trivial
        ⟨rfl, List.nodup_nil, ShardEngine.nothing_stalled fun _ => rfl⟩ rfl, trivial⟩,
      ⟨enabled_ofShard trivial rfl rfl, trivial⟩,
      ⟨enabled_ofShard trivial ⟨_, _, rfl⟩ rfl, trivial⟩,
      ⟨enabled_ofShard trivial ⟨_, _, _, _, rfl⟩ rfl, trivial⟩,
      ⟨enabled_ofShard trivial ⟨_, _, _, _, _, rfl⟩ rfl, trivial⟩,
      ⟨enabled_ofShard ?_ ⟨_, _, _, _, _, _, rfl⟩ rfl, trivial⟩,
      ⟨enabled_ofShard trivial trivial rfl, trivial⟩,
      ⟨enabled_ofShard trivial
        ⟨rfl, List.nodup_nil, ShardEngine.nothing_stalled fun _ => rfl⟩ rfl, trivial⟩,
      ⟨enabled_ofShard trivial rfl rfl, trivial⟩,
      ⟨enabled_ofShard trivial ⟨_, _, rfl⟩ rfl, trivial⟩,
      ⟨enabled_ofShard trivial ⟨_, _, _, _, rfl⟩ rfl, trivial⟩,
      ⟨enabled_ofShard trivial ⟨_, _, _, _, _, rfl⟩ rfl, trivial⟩,
      ⟨enabled_ofShard ?_ ⟨_, _, _, _, _, _, rfl⟩ rfl, trivial⟩, trivial⟩
    · rintro _ _ _ _ _ _ ⟨⟩
      rfl
    · rintro _ _ _ _ _ _ ⟨⟩
      rfl
  · rw [← Option.isSome_iff_ne_none]
    rfl
  · rw [← Option.isSome_iff_ne_none]
    rfl

end StratumBridge.Bridge.World
