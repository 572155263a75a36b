import StratumBridge.Bridge.Delegation
import StratumBridge.Bridge.Pool
import StratumBridge.Bridge.Recipients

/-!
# Bans

The selections pass over a banned wallet, but a wallet that was kept from before
the ban is looked up and not selected again.
-/

namespace StratumBridge.Bridge

open Data Rpc Wire Transition Shard Speculative Opoi Expert Audit

namespace World

variable {world : World} {registry : MinerRegistry}

/-- What a claim hands to the speculative engine is dispatched to an eligible
wallet. -/
theorem handOver_recipients (registry : MinerRegistry) (event : Shard.Event) (world : World)
    (requestId : RequestId) :
    Grows Speculative.Effect.assignee registry.Eligible (world.speculative.history requestId)
      ((world.handOver registry event).history requestId) := by
  unfold handOver
  split
  · rename_i req rest manifest promptHex graph source polling
    let stimulus : Speculative.Stimulus := ⟨registry, .startPipeline req.requestId manifest
      (ShardEngine.denseShards graph) req.maxTokens promptHex req.promptHash source⟩
    have enabled : world.speculative.enabled stimulus := trivial
    have grows : Grows Speculative.Effect.assignee _ (world.speculative.history requestId)
        ((SpeculativeEngine.next id world.speculative stimulus).history requestId) :=
      SpeculativeEngine.next_recipients enabled requestId
    rcases grows with ⟨added, extended, addressed⟩
    refine ⟨added, extended, ?_⟩
    intro entry mem wallet toWallet
    rcases addressed entry mem wallet toWallet with eligible | ⟨-, _, drafting, -⟩
    · exact eligible
    · cases drafting
  · exact .refl _

end World

namespace Pool

/-- No line was added that asks the wallet to work. -/
structure SameWork (wallet : Wallet) (before after : Pool) : Prop where
  opoi : historyOf Opoi.Effect.assignee (some wallet) after.opoi.log =
    historyOf Opoi.Effect.assignee (some wallet) before.opoi.log
  shard : ∀ requestId,
    historyOf Shard.Effect.assignee (some wallet) (after.world.shard.history requestId) =
      historyOf Shard.Effect.assignee (some wallet) (before.world.shard.history requestId)
  speculative : ∀ requestId,
    historyOf Speculative.Effect.assignee (some wallet)
        (after.world.speculative.history requestId) =
      historyOf Speculative.Effect.assignee (some wallet)
        (before.world.speculative.history requestId)
  experts : historyOf Expert.Entry.assignee (some wallet) after.experts.log =
    historyOf Expert.Entry.assignee (some wallet) before.experts.log
  audit : historyOf Audit.Effect.assignee (some wallet) after.auditor.log =
    historyOf Audit.Effect.assignee (some wallet) before.auditor.log

theorem SameWork.refl (wallet : Wallet) (pool : Pool) : SameWork wallet pool pool :=
  ⟨rfl, fun _ => rfl, fun _ => rfl, rfl, rfl⟩

theorem SameWork.trans {wallet : Wallet} {before middle after : Pool}
    (first : SameWork wallet before middle) (second : SameWork wallet middle after) :
    SameWork wallet before after where
  opoi := second.opoi.trans first.opoi
  shard requestId := (second.shard requestId).trans (first.shard requestId)
  speculative requestId := (second.speculative requestId).trans (first.speculative requestId)
  experts := second.experts.trans first.experts
  audit := second.audit.trans first.audit

/-- The condition on a step under which a banned wallet gets nothing: while the
wallet is connected, the step dispatches no pipeline whose layer walk is pinned to
it, asks for no draft of a pipeline whose draft wallet it is, and dispatches no
expert that was planned for it. -/
def Spares (wallet : Wallet) (pool : Pool) (event : PoolEvent) : Prop :=
  pool.registry.Registered wallet →
    match event with
    | .bridge (.shard event) =>
        ∀ requestId pipeline layerIdx,
          ShardEngine.Dispatching pool.world.shard requestId event pipeline →
            pipeline.moeLayerWalk ≠ some (layerIdx, wallet)
    | .bridge (.speculative event) =>
        ∀ requestId pipeline,
          SpeculativeEngine.Drafting pool.world.speculative requestId event pipeline →
            pipeline.draftWallet ≠ some wallet
    | .experts (.dispatchOne ticket index true) =>
        ∀ call member, pool.experts.Stands ticket index call member → member.wallet ≠ wallet
    | _ => True

variable {sha256 : Digest} {arith : Arithmetic} {pool : Pool} {event : PoolEvent}
variable {wallet : Wallet}

/-- A step that spares a banned wallet asks it to do nothing. -/
theorem sameWork_next (arith : Arithmetic) (sound : pool.world.Sound)
    (enabled : pool.enabled sha256 event) (banned : wallet ∈ pool.registry.banned)
    (spares : pool.Spares wallet event) : SameWork wallet pool (next sha256 arith pool event) := by
  have ineligible : ¬ pool.registry.Eligible wallet := fun eligible => eligible.2 banned
  cases event with
  | registry event => exact ⟨rfl, fun _ => rfl, fun _ => rfl, rfl, rfl⟩
  | opoi event =>
      have grows : Grows Opoi.Effect.assignee _ pool.opoi.log
          (OpoiEngine.next sha256 pool.opoi ⟨pool.registry, event⟩).log :=
        OpoiEngine.next_recipients pool.opoi ⟨pool.registry, event⟩
      have unpicked : ¬ pool.registry.pickNext pool.opoi.lastAssigned = some wallet :=
        fun picked => ineligible (MinerRegistry.eligible_of_pickNext picked)
      exact ⟨grows.historyOf_eq unpicked, fun _ => rfl, fun _ => rfl, rfl, rfl⟩
  | experts event =>
      have grows : Grows Expert.Entry.assignee _ pool.experts.log
          (ExpertDispatcher.next sha256 arith pool.experts ⟨pool.registry, event⟩).log :=
        ExpertDispatcher.next_recipients enabled
      have unplanned : ¬ ∃ ticket index call member, event = .dispatchOne ticket index true ∧
          pool.experts.Stands ticket index call member ∧
          pool.registry.Registered member.wallet ∧ member.wallet = wallet := by
        rintro ⟨ticket, index, call, member, rfl, stands, registered, rfl⟩
        exact spares registered call member stands rfl
      have kept := grows.historyOf_eq unplanned
      exact ⟨rfl, fun _ => rfl, fun _ => rfl, kept, rfl⟩
  | audit event =>
      have grows := B3LiteAuditor.next_recipients enabled
      have unpicked : ¬ ∃ audited, pool.registry.pickAuditorCapable pool.auditor.trustedWallets
          audited = some wallet := by
        rintro ⟨audited, picked⟩
        exact ineligible (MinerRegistry.of_pickAuditorCapable picked).1
      have kept := grows.historyOf_eq unpicked
      exact ⟨rfl, fun _ => rfl, fun _ => rfl, rfl, kept⟩
  | bridge event =>
      cases event with
      | shard event =>
          constructor
          · rfl
          · intro requestId
            apply (ShardEngine.next_recipients sound.tickets enabled.2.1 requestId).historyOf_eq
            rintro ⟨registered, allowed | ⟨pipeline, layerIdx, dispatching, walking⟩⟩
            · exact allowed banned
            · exact spares registered requestId pipeline layerIdx dispatching walking
          · intro requestId
            exact (World.handOver_recipients pool.registry event pool.world requestId).historyOf_eq
              ineligible
          · rfl
          · rfl
      | speculative event =>
          constructor
          · rfl
          · exact fun _ => rfl
          · intro requestId
            apply (SpeculativeEngine.next_recipients enabled.2.1 requestId).historyOf_eq
            rintro (eligible | ⟨registered, pipeline, drafting, pinned⟩)
            · exact ineligible eligible
            · exact spares registered requestId pipeline drafting pinned
          · rfl
          · rfl
      | answered row stored => exact ⟨rfl, fun _ => rfl, fun _ => rfl, rfl, rfl⟩
      | recorded row => exact ⟨rfl, fun _ => rfl, fun _ => rfl, rfl, rfl⟩
      | failed requestId => exact ⟨rfl, fun _ => rfl, fun _ => rfl, rfl, rfl⟩

/-- After a ban, as long as every step spares the banned wallet, no engine sends a
line that asks it to work. -/
theorem no_work_after_ban {draftSources : PartialMap String DraftModelSource}
    {trustedWallets : List Wallet} {earlier later : List PoolEvent} {finish : Pool}
    (reached : (system sha256 arith).Run (new draftSources trustedWallets) earlier pool)
    (banned : wallet ∈ pool.registry.banned)
    (run : (system sha256 arith).RunWith (Spares wallet) pool later finish) :
    SameWork wallet pool finish := by
  have all := run.invariant
    (I := fun now => now.world.Sound ∧ wallet ∈ now.registry.banned ∧ SameWork wallet pool now)
    ⟨sound_of_run reached, banned, .refl wallet pool⟩
    fun now event ⟨sound, stillBanned, same⟩ enabled spares =>
      ⟨sound_next arith sound enabled, banned_next sha256 arith event stillBanned,
        same.trans (sameWork_next arith sound enabled stillBanned spares)⟩
  exact all.2.2

/-! ## An example deployment -/

/-- The step dispatches no pipeline from where it was. -/
def Calm : PoolEvent → Bool
  | .registry _ => true
  | .bridge (.shard (.joined _ _)) => false
  | .bridge (.shard (.pollRetry _)) => false
  | .bridge (.shard _) => true
  | _ => false

theorem spares_of_calm (calm : Calm event = true) : pool.Spares wallet event := by
  intro registered
  cases event with
  | registry event => trivial
  | bridge event =>
      cases event with
      | shard event =>
          intro requestId pipeline layerIdx dispatching walking
          cases dispatching with
          | nextToken => cases walking
          | nextShard => cases walking
          | submitted => cases walking
          | started => cases walking
          | walked => cases calm
          | handedOver => cases calm
          | retried => cases calm
      | _ => cases calm
  | _ => cases calm

/-- An event of the shard engine that stores no row. -/
theorem enabled_shard {event : Shard.Event}
    (routed : pool.world.Routed pool.registry (.shard event))
    (offered : pool.world.shard.enabled ⟨pool.registry, event⟩)
    (quiet : (ShardEngine.next sha256 pool.world.shard ⟨pool.registry, event⟩).log.all
      World.storesNothing = true) : pool.enabled sha256 (.bridge (.shard event)) :=
  @World.enabled_ofShard sha256 pool.world ⟨pool.registry, event⟩ routed offered quiet

/-- The intake of request `"r"` and the tick that starts it over a graph. -/
def startEvents (graph : ModelGraph) : List PoolEvent :=
  [.bridge (.shard (.receivePrompt "r" "00")), .bridge (.shard (.pollBegin [])),
    .bridge (.shard (.pollListing (some [ShardEngine.soleRequest 9]))),
    .bridge (.shard (.pollManifest (some ShardEngine.soleManifest))),
    .bridge (.shard (.pollGraph (some graph))),
    .bridge (.shard (.pollSource (some ShardEngine.soleSource))),
    .bridge (.shard (.pollClaim true false))]

/-- A sampled receipt of the miner. -/
def soleReceipt : B3LiteReceipt where
  id := 7
  requestId := "earlier"
  minerWallet := "miner"
  modelId := "model"
  ggufSha256 := "root"
  promptHash := none
  promptHex := ""
  responseHash := "response-hash"
  generatedTokenIdsHex := "05000000"
  totalLayers := 4
  signatureHex := "signature"
  sampled := true
  auditStatus := .pending
  auditDetail := none

/-- The audit of that receipt by the subprocess, its third divergence. -/
def auditEvents : List PoolEvent :=
  [.audit .tickBegin, .audit (.listed (some [soleReceipt])),
    .audit (.resolved (some ShardEngine.soleSource) true),
    .audit (.replayed (.ok [⟨0, 5, 6, false⟩])), .audit (.marked true), .audit (.inserted true),
    .audit (.inserted true), .audit (.counted (some 3))]

/-- Two miners, the first of which is banned. -/
def bannedEvents : List PoolEvent :=
  [.registry (.register "miner" 0), .registry (.register "other" 1), .registry (.ban "miner")]

/-- The pool before any event, without drafts and trusted auditors. -/
def solePool : Pool :=
  new PartialMap.empty []

/-- The pool as a system, for the examples. -/
def soleSystem : System Pool PoolEvent :=
  system id Expert.soleArithmetic

/-- An instance of `no_work_after_ban`: the request goes to the other miner. -/
theorem no_work_after_ban_sole :
    let pool := soleSystem.execute solePool bannedEvents
    let finish := soleSystem.execute pool (startEvents (ShardEngine.soleGraph 1))
    SameWork "miner" pool finish ∧
      historyOf Shard.Effect.assignee (some "other") (finish.world.shard.history "r") ≠ [] := by
  intro pool finish
  have reached : soleSystem.Run solePool bannedEvents pool := by
    apply System.Admits.runWith
    exact ⟨⟨trivial, trivial⟩, ⟨trivial, trivial⟩, ⟨trivial, trivial⟩, trivial⟩
  have admitted : soleSystem.Admits (fun _ _ => True) pool
      (startEvents (ShardEngine.soleGraph 1)) :=
    ⟨⟨enabled_shard trivial trivial rfl, trivial⟩,
      ⟨enabled_shard trivial
        ⟨rfl, List.nodup_nil, ShardEngine.nothing_stalled fun _ => rfl⟩ rfl, trivial⟩,
      ⟨enabled_shard trivial rfl rfl, trivial⟩,
      ⟨enabled_shard trivial ⟨_, _, rfl⟩ rfl, trivial⟩,
      ⟨enabled_shard trivial ⟨_, _, _, _, rfl⟩ rfl, trivial⟩,
      ⟨enabled_shard trivial ⟨_, _, _, _, _, rfl⟩ rfl, trivial⟩,
      ⟨enabled_shard (fun _ _ _ _ _ _ _ => rfl) ⟨_, _, _, _, _, _, rfl⟩ rfl, trivial⟩, trivial⟩
  have calm : (startEvents (ShardEngine.soleGraph 1)).all Calm = true := rfl
  have run : soleSystem.RunWith (Spares "miner") pool
      (startEvents (ShardEngine.soleGraph 1)) finish :=
    (admitted.guarded fun _ event mem =>
      spares_of_calm (List.all_eq_true.mp calm event mem)).runWith
  constructor
  · exact no_work_after_ban reached (by decide) run
  · decide

/-- The miner gets a shard with an expert, is banned, and connects anew. -/
def keptEvents : List PoolEvent :=
  .registry (.register "miner" 0) :: startEvents World.expertGraph ++ auditEvents ++
    [.registry (.unregister "miner"), .bridge (.shard (.disconnect "miner")),
      .registry (.register "miner" 1), .bridge (.shard (.pollBegin ["r"]))]

theorem keptEvents_run : soleSystem.Run solePool keptEvents
    (soleSystem.execute solePool keptEvents) := by
  apply System.Admits.runWith
  refine ⟨⟨trivial, trivial⟩, ⟨enabled_shard trivial trivial rfl, trivial⟩,
    ⟨enabled_shard trivial ⟨rfl, List.nodup_nil, ShardEngine.nothing_stalled fun _ => rfl⟩ rfl,
      trivial⟩,
    ⟨enabled_shard trivial rfl rfl, trivial⟩, ⟨enabled_shard trivial ⟨_, _, rfl⟩ rfl, trivial⟩,
    ⟨enabled_shard trivial ⟨_, _, _, _, rfl⟩ rfl, trivial⟩,
    ⟨enabled_shard trivial ⟨_, _, _, _, _, rfl⟩ rfl, trivial⟩,
    ⟨enabled_shard (fun _ _ _ _ _ _ _ => rfl) ⟨_, _, _, _, _, _, rfl⟩ rfl, trivial⟩,
    ⟨rfl, trivial⟩, ⟨rfl, trivial⟩, ⟨⟨_, _, rfl⟩, trivial⟩, ⟨⟨_, _, rfl⟩, trivial⟩,
    ⟨⟨_, _, .inr ⟨_, rfl⟩⟩, trivial⟩, ⟨⟨_, _, .inl rfl⟩, trivial⟩,
    ⟨⟨_, _, .inr (.inl rfl)⟩, trivial⟩, ⟨⟨_, _, rfl⟩, trivial⟩, ⟨trivial, trivial⟩,
    ⟨enabled_shard trivial trivial rfl, trivial⟩, ⟨trivial, trivial⟩,
    ⟨enabled_shard trivial ⟨rfl, List.nodup_singleton _, ?_⟩ rfl, trivial⟩, trivial⟩
  intro requestId
  rw [List.mem_singleton]
  constructor
  · rintro rfl
    exact ⟨nofun, rfl⟩
  · rintro ⟨present, -⟩
    by_contra ne
    apply present
    exact (PartialMap.insert_of_ne _ _ ne).trans ((PartialMap.insert_of_ne _ _ ne).trans rfl)

/-- A banned miner that a layer walk is pinned to is asked for the layer again. -/
theorem banned_wallet_asked :
    ∃ events pool event, soleSystem.Run solePool events pool ∧
      "miner" ∈ pool.registry.banned ∧ soleSystem.enabled pool event ∧
      ¬ SameWork "miner" pool (soleSystem.next pool event) := by
  refine ⟨keptEvents, _, .bridge (.shard (.pollRetry (some ShardEngine.soleSource))),
    keptEvents_run, by decide, enabled_shard trivial ⟨_, _, rfl⟩ rfl, ?_⟩
  intro same
  exact absurd (same.shard "r") (by decide)

end Pool

end StratumBridge.Bridge
