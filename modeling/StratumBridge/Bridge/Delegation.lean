import StratumBridge.Bridge.Ownership

/-!
# Models with experts

The tick splits a graph into its dense shards and its expert groups.  The plain
pipeline keeps both; the speculative engine is handed the dense shards alone,
whether or not there are experts beside them.
-/

namespace StratumBridge.Bridge.World

open Data Rpc Wire Transition Shard Speculative

/-- The graph has an expert node. -/
def HasExperts (graph : ModelGraph) : Prop :=
  ∃ shard ∈ graph.shards, shard.shardType = "EXPERT"

/-- The step starts a speculative pipeline for the request. -/
def Delegates (sha256 : Digest) (world : World) (requestId : RequestId) (stimulus : Stimulus) :
    Prop :=
  .started requestId ∈ ((next sha256 world stimulus).speculative.history requestId).drop
    (world.speculative.history requestId).length

/-- The step starts a plain pipeline for the request. -/
def StartsPlain (sha256 : Digest) (world : World) (requestId : RequestId) (stimulus : Stimulus) :
    Prop :=
  .started requestId ∈ ((next sha256 world stimulus).shard.history requestId).drop
    (world.shard.history requestId).length

/-- A step that takes up a request keeps the experts of its graph: the plain
pipeline has all of its expert groups, and with experts there is no other. -/
def KeepsExperts (sha256 : Digest) (world : World) (requestId : RequestId) (graph : ModelGraph)
    (stimulus : Stimulus) : Prop :=
  (HasExperts graph → ¬ world.Delegates sha256 requestId stimulus) ∧
    ∀ pipeline, world.StartsPlain sha256 requestId stimulus →
      (next sha256 world stimulus).shard.pipelines requestId = some pipeline →
      pipeline.expertGroups = ShardEngine.expertGroups graph

variable {sha256 : Digest} {world : World} {requestId : RequestId} {registry : MinerRegistry}

/-- A configured model's pipeline is started. -/
theorem started_startPipeline {drafted : SpeculativeEngine} {manifest : ModelManifest}
    {draftSource : DraftModelSource}
    (configured : drafted.draftSources manifest.modelId = some draftSource)
    (registry : MinerRegistry) (requestId : RequestId) (shards : List ShardDescriptor)
    (maxTokens : UInt32) (promptHex promptHash : String) (source : ModelSource) :
    .started requestId ∈
      ((SpeculativeEngine.startPipeline registry requestId manifest shards maxTokens promptHex
        promptHash source drafted).history requestId).drop
        (drafted.history requestId).length := by
  let pipeline := SpeculativeEngine.initialPipeline manifest shards maxTokens promptHex promptHash
    source draftSource
  have stored : SpeculativeEngine.ActsOn requestId drafted
      ((drafted.setPipeline requestId pipeline).emit [.started requestId]) (some pipeline)
      [.started requestId] :=
    ⟨rfl, rfl, about_singleton rfl⟩
  have acts := stored.trans
    (SpeculativeEngine.dispatchShardStep_actsOn registry stored.pipelines_self)
  simp only [SpeculativeEngine.startPipeline, configured]
  rw [acts.history_self, List.drop_left]
  exact List.mem_append_left _ (List.mem_singleton_self _)

/-- A dispatch keeps the expert groups. -/
theorem expertGroups_of_dispatched {last : Option Wallet} {pipeline after : PipelineState}
    (stored : ShardEngine.dispatched registry last pipeline = some after) :
    after.expertGroups = pipeline.expertGroups := by
  unfold ShardEngine.dispatched at stored
  split at stored
  · cases stored
    rfl
  · split at stored
    · split at stored
      · cases stored
        rfl
      · cases stored
    · split at stored
      · cases stored
        rfl
      · cases stored
        unfold ShardEngine.openWalk
        split <;> rfl

/-- The plain pipeline has the expert groups of its graph. -/
theorem expertGroups_of_startsPlain {req : OpoiRequest} {rest : List OpoiRequest}
    {manifest : ModelManifest} {promptHex : String} {graph : ModelGraph} {source : ModelSource}
    {claimed eligible : Bool} {pipeline : PipelineState}
    (claiming : world.shard.poll = .claiming req rest manifest promptHex graph source)
    (starts : world.StartsPlain sha256 req.requestId
      ⟨registry, .shard (.pollClaim claimed eligible)⟩)
    (found : (next sha256 world ⟨registry, .shard (.pollClaim claimed eligible)⟩).shard.pipelines
      req.requestId = some pipeline) :
    pipeline.expertGroups = ShardEngine.expertGroups graph := by
  have step : (next sha256 world ⟨registry, .shard (.pollClaim claimed eligible)⟩).shard =
      ShardEngine.resumeClaim registry claimed eligible world.shard := rfl
  rw [StartsPlain, step] at starts
  rw [step] at found
  have explained : ShardEngine.Explained sha256 world.shard req.requestId
      ⟨registry, .pollClaim claimed eligible⟩
      (ShardEngine.resumeClaim registry claimed eligible world.shard) :=
    ShardEngine.resumeClaim_explained registry claiming claimed eligible
  rcases explained with ⟨after, assigned, calls, emitted, acts, -, change⟩
  rw [acts.history_self, List.drop_left] at starts
  rw [acts.pipelines_self] at found
  generalize world.shard.pipelines req.requestId = before at change
  cases change with
  | idle => cases starts
  | lost => cases found
  | delegated => simp at starts
  | started polling =>
      rw [claiming] at polling
      cases polling
      exact expertGroups_of_dispatched found

/-- At the step of the tick that ends the claim for a request, the experts of its
graph are kept if and only if it has none, the claim failed, or the model is
not eligible for the speculative engine. -/
theorem keepsExperts_iff {req : OpoiRequest} {rest : List OpoiRequest}
    {manifest : ModelManifest} {promptHex : String} {graph : ModelGraph} {source : ModelSource}
    {claimed eligible : Bool}
    (claiming : world.shard.poll = .claiming req rest manifest promptHex graph source)
    (enabled : world.enabled sha256 ⟨registry, .shard (.pollClaim claimed eligible)⟩) :
    world.KeepsExperts sha256 req.requestId graph
        ⟨registry, .shard (.pollClaim claimed eligible)⟩ ↔
      ¬ HasExperts graph ∨ claimed = false ∨
        world.speculative.isEligible registry manifest.modelId = false := by
  have answer := enabled.1 req rest manifest promptHex graph source claiming
  have handed : (next sha256 world ⟨registry, .shard (.pollClaim claimed eligible)⟩).speculative =
      world.handOver registry (.pollClaim claimed eligible) := rfl
  constructor
  · rintro ⟨spared, -⟩
    by_contra reaches
    push Not at reaches
    rcases reaches with ⟨experts, claims, drafts⟩
    have isClaimed : claimed = true := by simpa using claims
    have isEligible : eligible = true := by rw [answer]; simpa using drafts
    subst isClaimed isEligible
    rcases Option.isSome_iff_exists.mp (Bool.and_eq_true_iff.mp answer.symm).1 with
      ⟨draftSource, configured⟩
    apply spared experts
    rw [Delegates, handed]
    simp only [handOver, claiming]
    exact started_startPipeline configured ..
  · intro spares
    refine ⟨?_, fun pipeline starts found => expertGroups_of_startsPlain claiming starts found⟩
    intro experts delegates
    have kept : world.handOver registry (.pollClaim claimed eligible) = world.speculative := by
      rcases spares with none | unclaimed | ineligible
      · exact absurd experts none
      · subst unclaimed
        rfl
      · have unhanded : eligible = false := answer.trans ineligible
        subst unhanded
        cases claimed <;> rfl
    rw [Delegates, handed, kept, List.drop_length] at delegates
    cases delegates

/-- A graph of one dense shard with one expert beside it. -/
def expertGraph : ModelGraph :=
  ⟨[⟨0, "DENSE", some 0, some 4, none⟩, ⟨1, "EXPERT", some 0, some 4, some 0⟩]⟩

/-- The intake of request `"r"` and the tick up to the claim for it, with that
graph. -/
def expertEvents (registry : MinerRegistry) : List Stimulus :=
  [ofShard ⟨registry, .receivePrompt "r" "00"⟩, ofShard ⟨registry, .pollBegin []⟩,
    ofShard ⟨registry, .pollListing (some [ShardEngine.soleRequest 9])⟩,
    ofShard ⟨registry, .pollManifest (some ShardEngine.soleManifest)⟩,
    ofShard ⟨registry, .pollGraph (some expertGraph)⟩,
    ofShard ⟨registry, .pollSource (some ShardEngine.soleSource)⟩]

/-- The bridge with a draft for the model, about to claim the request. -/
def claimingExperts (registry : MinerRegistry) : World :=
  (system id).execute draftedBridge (expertEvents registry)

theorem claimingExperts_run (registry : MinerRegistry) :
    (system id).Run draftedBridge (expertEvents registry) (claimingExperts registry) := by
  apply System.Admits.runWith
  exact ⟨⟨enabled_ofShard trivial trivial rfl, trivial⟩,
    ⟨enabled_ofShard trivial ⟨rfl, List.nodup_nil, ShardEngine.nothing_stalled fun _ => rfl⟩ rfl,
      trivial⟩, ⟨enabled_ofShard trivial rfl rfl, trivial⟩,
    ⟨enabled_ofShard trivial ⟨_, _, rfl⟩ rfl, trivial⟩,
    ⟨enabled_ofShard trivial ⟨_, _, _, _, rfl⟩ rfl, trivial⟩,
    ⟨enabled_ofShard trivial ⟨_, _, _, _, _, rfl⟩ rfl, trivial⟩, trivial⟩

/-- The claim for it ends as the eligibility of the model says. -/
theorem claimingExperts_routed {registry : MinerRegistry} {eligible : Bool}
    (answer : eligible = draftedBridge.speculative.isEligible registry "model") :
    (claimingExperts registry).Routed registry (.shard (.pollClaim true eligible)) := by
  rintro _ _ _ _ _ _ ⟨⟩
  exact answer

/-- With a draft-capable miner the model with an expert goes to the speculative
engine. -/
theorem experts_delegated :
    ∃ events world stimulus, (system id).Run draftedBridge events world ∧
      world.enabled id stimulus ∧ HasExperts expertGraph ∧
      ¬ world.KeepsExperts id "r" expertGraph stimulus := by
  refine ⟨_, _, ofShard ⟨SpeculativeEngine.soleRegistry, .pollClaim true true⟩,
    claimingExperts_run SpeculativeEngine.soleRegistry, ?_, ?_, ?_⟩
  · exact enabled_ofShard (claimingExperts_routed rfl) ⟨_, _, _, _, _, _, rfl⟩ rfl
  · exact ⟨⟨1, "EXPERT", some 0, some 4, some 0⟩, by decide, rfl⟩
  · rintro ⟨spared, -⟩
    apply spared ⟨⟨1, "EXPERT", some 0, some 4, some 0⟩, by decide, rfl⟩
    rw [Delegates]
    decide

/-- An instance of `keepsExperts_iff`: without a draft-capable miner the plain
engine keeps the expert. -/
theorem keepsExperts_sole :
    (claimingExperts ShardEngine.soleRegistry).KeepsExperts id "r" expertGraph
      (ofShard ⟨ShardEngine.soleRegistry, .pollClaim true false⟩) := by
  have claiming : (claimingExperts ShardEngine.soleRegistry).shard.poll =
      .claiming (ShardEngine.soleRequest 9) [] ShardEngine.soleManifest "00" expertGraph
        ShardEngine.soleSource := rfl
  have enabled : (claimingExperts ShardEngine.soleRegistry).enabled id
      (ofShard ⟨ShardEngine.soleRegistry, .pollClaim true false⟩) :=
    enabled_ofShard (claimingExperts_routed rfl) ⟨_, _, _, _, _, _, claiming⟩ rfl
  exact (keepsExperts_iff claiming enabled).mpr (.inr (.inr rfl))

end StratumBridge.Bridge.World
