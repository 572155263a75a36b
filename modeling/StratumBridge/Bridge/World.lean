import StratumBridge.Shard.Drops
import StratumBridge.Speculative.Drops

/-!
# The bridge

The two engines side by side, with the submissions table both of them write to.
The shard engine's tick hands a claimed request to the speculative engine when
that is eligible for it; a result goes to the speculative engine as long as it
has a pipeline for the request.  Seen from one request, the whole is a custody
of a job with two owners.
-/

namespace StratumBridge.Bridge

open Data Rpc Wire Transition Shard Speculative

/-- A row of `opoi_submissions`; of its status, whether it is FAILED. -/
structure Submission where
  submission : NewSubmission
  failed : Bool
  deriving DecidableEq

/-- What can happen to the bridge: an event of an engine, the database's late
answer to `create_submission`, a row of the whole-model engine, or a row's
status change. -/
inductive Event
  | shard (event : Shard.Event)
  | speculative (event : Speculative.Event)
  | answered (row : NewSubmission) (stored : Bool)
  | recorded (row : NewSubmission)
  | failed (requestId : RequestId)

/-- An event together with the registry it finds. -/
structure Stimulus where
  registry : MinerRegistry
  event : Event

/-- The engines, the requests whose prompt was taken in, and the rows of each
request: those still in flight and those in the table. -/
structure World where
  shard : ShardEngine
  speculative : SpeculativeEngine
  intake : List RequestId
  writes : RequestId → List NewSubmission
  rows : RequestId → List Submission

namespace World

/-- The bridge before any event. -/
def new (draftSources : PartialMap String DraftModelSource) : World :=
  ⟨ShardEngine.new, SpeculativeEngine.new draftSources, [], fun _ => [], fun _ => []⟩

/-- The request has a submission that is not FAILED. -/
def Active (world : World) (requestId : RequestId) : Prop :=
  ∃ row ∈ world.rows requestId, row.failed = false

/-- `create_submission`: a row stored at once joins the table, any other is in
flight. -/
def persist (inserts : RequestId → List (NewSubmission × Bool)) (world : World) : World :=
  { world with
    writes := fun requestId => world.writes requestId ++
      ((inserts requestId).filter fun insert => !insert.2).map Prod.fst
    rows := fun requestId => world.rows requestId ++
      ((inserts requestId).filter Prod.snd).map fun insert => ⟨insert.1, false⟩ }

/-- The rows an event of the shard engine asks for. -/
def shardInserts (sha256 : Digest) (world : World) (registry : MinerRegistry)
    (event : Shard.Event) (requestId : RequestId) : List (NewSubmission × Bool) :=
  (ShardEngine.sent sha256 world.shard ⟨registry, event⟩ requestId).filterMap
    Shard.Effect.insertion

/-- The rows an event of the speculative engine asks for. -/
def speculativeInserts (sha256 : Digest) (world : World) (registry : MinerRegistry)
    (event : Speculative.Event) (requestId : RequestId) : List (NewSubmission × Bool) :=
  (SpeculativeEngine.sent sha256 world.speculative ⟨registry, event⟩ requestId).filterMap
    Speculative.Effect.insertion

/-- The speculative engine after an event of the shard engine: an eligible
request whose claim went through is handed to it. -/
def handOver (registry : MinerRegistry) (event : Shard.Event) (world : World) :
    SpeculativeEngine :=
  match event, world.shard.poll with
  | .pollClaim true true, .claiming req _ manifest promptHex graph source =>
      SpeculativeEngine.startPipeline registry req.requestId manifest
        (ShardEngine.denseShards graph) req.maxTokens promptHex req.promptHash source
        world.speculative
  | _, _ => world.speculative

/-- The requests taken in after an event of the shard engine. -/
def takeIn (event : Shard.Event) (intake : List RequestId) : List RequestId :=
  match event with
  | .receivePrompt requestId _ => requestId :: intake
  | _ => intake

/-- One event. -/
def next (sha256 : Digest) (world : World) (stimulus : Stimulus) : World :=
  match stimulus.event with
  | .shard event =>
      persist (world.shardInserts sha256 stimulus.registry event)
        { world with
          shard := ShardEngine.next sha256 world.shard ⟨stimulus.registry, event⟩
          speculative := world.handOver stimulus.registry event
          intake := takeIn event world.intake }
  | .speculative event =>
      persist (world.speculativeInserts sha256 stimulus.registry event)
        { world with
          speculative :=
            SpeculativeEngine.next sha256 world.speculative ⟨stimulus.registry, event⟩ }
  | .answered row stored =>
      { world with
        writes := Function.update world.writes row.requestId
          ((world.writes row.requestId).erase row)
        rows := if stored then
            Function.update world.rows row.requestId
              (world.rows row.requestId ++ [⟨row, false⟩])
          else world.rows }
  | .recorded row =>
      { world with
        rows := Function.update world.rows row.requestId
          (world.rows row.requestId ++ [⟨row, false⟩]) }
  | .failed requestId =>
      { world with
        rows := Function.update world.rows requestId
          ((world.rows requestId).map fun row => { row with failed := true }) }

/-- Where a result goes, who is eligible, and that only the tick starts
speculative pipelines. -/
def Routed (world : World) (registry : MinerRegistry) : Event → Prop
  | .shard (.shardResult _ result) => world.speculative.hasPipeline result.requestId = false
  | .shard (.pollClaim _ eligible) =>
      ∀ req rest manifest promptHex graph source,
        world.shard.poll = .claiming req rest manifest promptHex graph source →
        eligible = world.speculative.isEligible registry manifest.modelId
  | .speculative (.shardResult _ result) =>
      world.speculative.hasPipeline result.requestId = true
  | .speculative (.startPipeline _ _ _ _ _ _ _) => False
  | _ => True

/-- The engine that handles the event offers it, and the table keeps at most
one row per request that is not FAILED. -/
def enabled (sha256 : Digest) (world : World) (stimulus : Stimulus) : Prop :=
  world.Routed stimulus.registry stimulus.event ∧
    match stimulus.event with
    | .shard event =>
        world.shard.enabled ⟨stimulus.registry, event⟩ ∧
          ∀ requestId row,
            (row, true) ∈ world.shardInserts sha256 stimulus.registry event requestId →
              ¬ world.Active requestId
    | .speculative event =>
        world.speculative.enabled ⟨stimulus.registry, event⟩ ∧
          ∀ requestId row,
            (row, true) ∈ world.speculativeInserts sha256 stimulus.registry event requestId →
              ¬ world.Active requestId
    | .answered row stored =>
        row ∈ world.writes row.requestId ∧ (stored = true → ¬ world.Active row.requestId)
    | .recorded row => ¬ world.Active row.requestId
    | .failed _ => True

/-- The bridge as a system of events. -/
def system (sha256 : Digest) : System World Stimulus where
  enabled := enabled sha256
  next := next sha256

/-! ## The custody of a request -/

/-- The engines as owners of a request. -/
inductive Owner
  | plain
  | speculative
  deriving DecidableEq

/-- The engine has a pipeline for the request. -/
def holds (world : World) (requestId : RequestId) : Owner → Bool
  | .plain => (world.shard.pipelines requestId).isSome
  | .speculative => (world.speculative.pipelines requestId).isSome

/-- The bridge as seen from one request. -/
def custody (world : World) (requestId : RequestId) : Custody Owner where
  posted := decide (requestId ∈ world.intake)
  waiting := (world.shard.promptCache requestId).isSome
  owned := world.holds requestId
  writing := !(world.writes requestId).isEmpty
  recorded := !(world.rows requestId).isEmpty
  active := (world.rows requestId).any fun row => !row.failed

theorem active_custody {world : World} {requestId : RequestId} :
    (world.custody requestId).active = true ↔ world.Active requestId := by
  simp [custody, Active]

theorem custody_new (draftSources : PartialMap String DraftModelSource) (requestId : RequestId) :
    (new draftSources).custody requestId = Custody.new := by
  simp only [custody, Custody.new, new]
  congr 1
  funext owner
  cases owner <;> rfl

/-- The step makes an engine let go of the request without a row. -/
def Loses (world : World) (requestId : RequestId) (stimulus : Stimulus) : Owner → Prop
  | .plain => ∃ event, stimulus.event = .shard event ∧
      world.shard.Drops requestId ⟨stimulus.registry, event⟩
  | .speculative => ∃ event, stimulus.event = .speculative event ∧
      world.speculative.Drops requestId ⟨stimulus.registry, event⟩

/-- The event that an action of the custody comes from, where it matters. -/
def Explains (world : World) (requestId : RequestId) (stimulus : Stimulus) :
    Custody.Action Owner → Prop
  | .post => ∃ promptHex, stimulus.event = .shard (.receivePrompt requestId promptHex)
  | .record => ∃ row, stimulus.event = .recorded row ∧ row.requestId = requestId
  | .lose owner _ => world.Loses requestId stimulus owner
  | _ => True

/-- What the invariants of the shard engine say about tickets and prompts. -/
structure Sound (world : World) : Prop where
  tickets : world.shard.TicketsFresh
  prompts : world.shard.PromptsHeld

theorem sound_new (draftSources : PartialMap String DraftModelSource) :
    (new draftSources).Sound :=
  ⟨ShardEngine.ticketsFresh_new, ShardEngine.promptsHeld_new⟩

variable {sha256 : Digest} {world : World} {stimulus : Stimulus} {requestId : RequestId}

theorem Sound.next (sound : world.Sound) (enabled : world.enabled sha256 stimulus) :
    (next sha256 world stimulus).Sound := by
  rcases stimulus with ⟨registry, event⟩
  cases event with
  | shard event => exact ⟨sound.tickets.next enabled.2.1, sound.prompts.next enabled.2.1⟩
  | _ => exact ⟨sound.tickets, sound.prompts⟩

/-- An action of the custody that accounts for a step. -/
def Accounts (sha256 : Digest) (world : World) (requestId : RequestId) (stimulus : Stimulus)
    (action : Custody.Action Owner) : Prop :=
  (world.custody requestId).enabled action ∧ world.Explains requestId stimulus action ∧
    (next sha256 world stimulus).custody requestId = (world.custody requestId).next action

/-! ## An example deployment -/

/-- The bridge sees an event of its shard engine. -/
def ofShard (stimulus : Shard.Stimulus) : Stimulus :=
  ⟨stimulus.registry, .shard stimulus.event⟩

/-- The effect stores no row. -/
def storesNothing : Shard.Effect → Bool
  | .createSubmission _ true => false
  | _ => true

/-- While the log stores nothing, no row has to be unique. -/
theorem notMem_shardInserts {registry : MinerRegistry} {event : Shard.Event} {row : NewSubmission}
    (quiet : (ShardEngine.next sha256 world.shard ⟨registry, event⟩).log.all storesNothing =
      true) (requestId : RequestId) :
    (row, true) ∉ world.shardInserts sha256 registry event requestId := by
  intro mem
  obtain ⟨effect, sent, inserts⟩ := List.mem_filterMap.mp mem
  have logged := (List.mem_filter.mp (List.mem_of_mem_drop sent)).1
  have silent := List.all_eq_true.mp quiet effect logged
  cases effect with
  | createSubmission _ _ =>
      cases inserts
      cases silent
  | _ => cases inserts

/-- An event that the shard engine offers and that stores no row. -/
theorem enabled_ofShard {offer : Shard.Stimulus}
    (routed : world.Routed offer.registry (.shard offer.event))
    (offered : world.shard.enabled offer)
    (quiet : (ShardEngine.next sha256 world.shard offer).log.all storesNothing = true) :
    world.enabled sha256 (ofShard offer) :=
  ⟨routed, offered, fun requestId _ mem => absurd mem (notMem_shardInserts quiet requestId)⟩

end World

end StratumBridge.Bridge
