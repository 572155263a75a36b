import StratumBridge.Bridge.Ownership

/-!
# No accepted prompt is lost

The prompt leaves the cache when its pipeline starts, and a pipeline leaves the
map before its row is stored, so whatever drops the pipeline in between drops
the request.
-/

namespace StratumBridge.Bridge.World

open Data Rpc Wire Transition Shard Speculative

/-- The condition on a step under which no prompt is lost: an engine lets go of
the request without a row only while a row of it exists, its prompt is cached
again, or the other engine has a pipeline for it. -/
def RecoveryGuard (requestId : RequestId) (world : World) (stimulus : Stimulus) : Prop :=
  ∀ owner, world.Loses requestId stimulus owner →
    world.rows requestId ≠ [] ∨ world.shard.promptCache requestId ≠ none ∨
      ∃ other, other ≠ owner ∧ world.holds requestId other = true

variable {sha256 : Digest} {world : World} {stimulus : Stimulus} {requestId : RequestId}

/-- The request can still be answered without another intake: an engine has a
pipeline for it, or its prompt is cached. -/
def Recoverable (world : World) (requestId : RequestId) : Prop :=
  world.shard.pipelines requestId ≠ none ∨ world.speculative.pipelines requestId ≠ none ∨
    world.shard.promptCache requestId ≠ none

theorem recoverable_of_live (live : (world.custody requestId).Live) :
    world.Recoverable requestId := by
  rcases live with waits | ⟨_ | _, owned⟩
  · exact .inr (.inr (Option.isSome_iff_ne_none.mp waits))
  · exact .inl (Option.isSome_iff_ne_none.mp owned)
  · exact .inr (.inl (Option.isSome_iff_ne_none.mp owned))

/-- A guarded step is careful. -/
theorem careful_of_guard {action : Custody.Action Owner}
    (guarded : RecoveryGuard requestId world stimulus)
    (explains : world.Explains requestId stimulus action) :
    (world.custody requestId).Careful action := by
  cases action with
  | lose owner writes =>
      rcases guarded owner explains with recorded | cached | held
      · exact .inl (by simpa [custody] using recorded)
      · exact .inr (.inl (Option.isSome_iff_ne_none.mpr cached))
      · exact .inr (.inr held)
  | _ => trivial

/-- Along every run whose steps are guarded, a prompt that was taken in is
recoverable until a row for its request exists. -/
theorem prompt_recoverable {draftSources : PartialMap String DraftModelSource}
    {events : List Stimulus}
    (run : (system sha256).RunWith (RecoveryGuard requestId) (new draftSources) events world)
    (taken : requestId ∈ world.intake) (unrecorded : world.rows requestId = []) :
    world.Recoverable requestId := by
  rcases custody_run run fun _ _ _ guarded explains => careful_of_guard guarded explains with
    ⟨actions, life⟩
  apply recoverable_of_live
  apply Custody.kept_of_run life
  · simpa [custody] using taken
  · simp [custody, unrecorded]

/-- An event at which the shard engine drops nothing is guarded. -/
theorem recoveryGuard_ofShard {offer : Shard.Stimulus}
    (keeps : ¬ world.shard.Drops requestId offer) :
    RecoveryGuard requestId world (ofShard offer) := by
  rintro (_ | _) ⟨event, same, drops⟩
  · cases same
    exact absurd drops keeps
  · cases same

/-- The first pass over one shard, answered without a next token. -/
def unansweredEvents : List Stimulus :=
  claimingEvents ShardEngine.soleRegistry ++
    [ofShard ⟨ShardEngine.soleRegistry, .pollClaim true false⟩,
      ofShard (ShardEngine.soleAnswer 0 0 none)]

/-- An instance of `prompt_recoverable`: the request is being computed. -/
theorem prompt_recoverable_sole :
    ((system id).execute draftedBridge unansweredEvents).Recoverable "r" := by
  have run : (system id).RunWith (RecoveryGuard "r") draftedBridge unansweredEvents
      ((system id).execute draftedBridge unansweredEvents) := by
    apply System.Admits.runWith
    refine ⟨⟨enabled_ofShard trivial trivial rfl, ?_⟩,
      ⟨enabled_ofShard trivial ⟨rfl, List.nodup_nil, ShardEngine.nothing_stalled fun _ => rfl⟩ rfl,
        ?_⟩, ⟨enabled_ofShard trivial rfl rfl, ?_⟩,
      ⟨enabled_ofShard trivial ⟨_, _, rfl⟩ rfl, ?_⟩,
      ⟨enabled_ofShard trivial ⟨_, _, _, _, rfl⟩ rfl, ?_⟩,
      ⟨enabled_ofShard trivial ⟨_, _, _, _, _, rfl⟩ rfl, ?_⟩,
      ⟨enabled_ofShard ?_ ⟨_, _, _, _, _, _, rfl⟩ rfl, ?_⟩,
      ⟨enabled_ofShard rfl trivial rfl, ?_⟩, trivial⟩
    all_goals first
      | exact recoveryGuard_ofShard nofun
      | (rintro _ _ _ _ _ _ ⟨⟩; rfl)
  exact prompt_recoverable run (List.mem_singleton_self "r") rfl

/-- The answer that lacks a next token takes the pipeline with it, and the
prompt left the cache when the pipeline started. -/
theorem prompt_lost_when_unanswered :
    ∃ events world, (system id).Run draftedBridge events world ∧ "r" ∈ world.intake ∧
      world.rows "r" = [] ∧ ¬ world.Recoverable "r" := by
  refine ⟨unansweredEvents ++ [ofShard (ShardEngine.soleResolved 0)],
    (system id).execute draftedBridge (unansweredEvents ++ [ofShard (ShardEngine.soleResolved 0)]),
    ?_, List.mem_singleton_self "r", rfl, ?_⟩
  · apply System.Admits.runWith
    refine ⟨⟨enabled_ofShard trivial trivial rfl, trivial⟩,
      ⟨enabled_ofShard trivial ⟨rfl, List.nodup_nil, ShardEngine.nothing_stalled fun _ => rfl⟩ rfl,
        trivial⟩, ⟨enabled_ofShard trivial rfl rfl, trivial⟩,
      ⟨enabled_ofShard trivial ⟨_, _, rfl⟩ rfl, trivial⟩,
      ⟨enabled_ofShard trivial ⟨_, _, _, _, rfl⟩ rfl, trivial⟩,
      ⟨enabled_ofShard trivial ⟨_, _, _, _, _, rfl⟩ rfl, trivial⟩,
      ⟨enabled_ofShard ?_ ⟨_, _, _, _, _, _, rfl⟩ rfl, trivial⟩,
      ⟨enabled_ofShard rfl trivial rfl, trivial⟩,
      ⟨enabled_ofShard trivial ⟨_, _, rfl⟩ rfl, trivial⟩, trivial⟩
    rintro _ _ _ _ _ _ ⟨⟩
    rfl
  · rintro (plain | speculative | cached)
    · exact plain rfl
    · exact speculative rfl
    · exact cached rfl

end StratumBridge.Bridge.World
