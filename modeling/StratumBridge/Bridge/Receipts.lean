import StratumBridge.Audit.Signatures
import StratumBridge.Bridge.World
import StratumBridge.Shard.Credit

/-!
# Receipts for responses

The shard engine records a receipt for a finished pipeline before it creates its
row.  The speculative engine finalizes by code of its own, and that records
none: what is delegated to it is out of reach of the audit.

An observer keeps the receipts attempted and the responses created so far.
-/

namespace StratumBridge.Shard.ShardEngine

open Data Wire Audit

section Receipts

variable (sha256 : Digest) (mac : Mac) (b3lite : Option B3LiteConfig)

/-- What `finalize_pipeline` does before it creates the row: the receipt that it
has recorded, if B3-lite is enabled. -/
def finalReceipt (requestId : RequestId) (engine : ShardEngine) : Option NewReceipt :=
  match engine.pipelines requestId with
  | none => none
  | some pipeline =>
      match pipeline.contributions.winner with
      | none => none
      | some wallet =>
          b3lite.map fun config =>
            recordB3liteReceipt mac config requestId wallet pipeline
              (buildResponse sha256 pipeline.generatedTokenIds).1

/-- The receipt of a completed step, which is finalized if it is the last. -/
def stepReceipt (result : OpoiShardResult) (pipeline : PipelineState) (engine : ShardEngine) :
    Option NewReceipt :=
  if pipeline.pos + 1 = pipeline.shards.length then
    match result.nextTokenId with
    | none => none
    | some tokenId =>
        finalReceipt sha256 mac b3lite result.requestId
          (engine.setPipeline result.requestId (recordToken pipeline tokenId))
  else
    none

/-- The receipt that an event has recorded: a pipeline is finalized only after the
submission of its last token. -/
def receiptOf (engine : ShardEngine) : Event → Option NewReceipt
  | .submitted ticket true _ =>
      match engine.calls ticket with
      | some (.submitting _ result _) =>
          match engine.pipelines result.requestId with
          | none => none
          | some pipeline => stepReceipt sha256 mac b3lite result pipeline engine
      | _ => none
  | _ => none

end Receipts

end StratumBridge.Shard.ShardEngine

namespace StratumBridge.Bridge

open Data Rpc Wire Transition Shard Speculative Audit

/-- The receipt is one for the response: the same request, the same winner, and
the tokens that the response was built from. -/
structure ReceiptFor (sha256 : Digest) (receipt : NewReceipt) (response : NewSubmission) :
    Prop where
  requestId : receipt.requestId = response.requestId
  minerWallet : receipt.minerWallet = response.minerWallet
  responseHash : receipt.responseHash = response.responseHash
  tokens : ∃ tokenIds : List TokenId,
    buildResponse sha256 tokenIds = (response.responseHash, response.responseHex) ∧
      receipt.generatedTokenIdsHex = hexEncode (tokenIds.flatMap leBytes)

/-- The receipts attempted and the responses of a request created so far. -/
structure Book where
  receipts : List NewReceipt
  responses : List NewSubmission

namespace World

section Observer

variable (sha256 : Digest) (mac : Mac) (b3lite : Option B3LiteConfig)

/-- The receipts an event has recorded. -/
def receipts (world : World) (stimulus : Stimulus) : List NewReceipt :=
  match stimulus.event with
  | .shard event => (world.shard.receiptOf sha256 mac b3lite event).toList
  | _ => []

/-- The rows an event has created for finished pipelines of a request. -/
def responses (requestId : RequestId) (world : World) (stimulus : Stimulus) :
    List NewSubmission :=
  match stimulus.event with
  | .shard event => (world.shardInserts sha256 stimulus.registry event requestId).map Prod.fst
  | .speculative event =>
      (world.speculativeInserts sha256 stimulus.registry event requestId).map Prod.fst
  | _ => []

/-- The book after one more event. -/
def bookNext (requestId : RequestId) (world : World) (book : Book) (stimulus : Stimulus) : Book :=
  ⟨book.receipts ++ world.receipts sha256 mac b3lite stimulus,
    book.responses ++ world.responses sha256 requestId stimulus⟩

/-- The book of a request along a run. -/
def bookOf (requestId : RequestId) (start : World) (events : List Stimulus) : Book :=
  (((system sha256).watched (bookNext sha256 mac b3lite requestId)).execute
    (start, ⟨[], []⟩) events).2

end Observer

/-- The acknowledgement ends the last round of a speculative pipeline of the
request, and someone contributed to it. -/
def FinalizesSpeculative (requestId : RequestId) (world : World) (stimulus : Stimulus) : Prop :=
  ∃ ack stored pipeline state, stimulus.event = .speculative (.kvRollbackAck ack stored) ∧
    ack.requestId = requestId ∧ world.speculative.pipelines requestId = some pipeline ∧
    pipeline.phase = .awaitingRollback state ∧ state.pending.erase ack.shardIndex = ∅ ∧
    state.isFinalizingRound = true ∧ pipeline.contributions.winner ≠ none

/-- Every response that the step creates gets a receipt by the step. -/
def Receipted (sha256 : Digest) (mac : Mac) (config : B3LiteConfig) (requestId : RequestId)
    (world : World) (stimulus : Stimulus) : Prop :=
  ∀ response ∈ world.responses sha256 requestId stimulus,
    ∃ receipt ∈ world.receipts sha256 mac (some config) stimulus,
      ReceiptFor sha256 receipt response

variable {sha256 : Digest} {mac : Mac} {config : B3LiteConfig} {world : World}
  {stimulus : Stimulus} {registry : MinerRegistry} {requestId : RequestId}
  {response : NewSubmission}

/-- The receipt of a final row. -/
theorem receiptFor_finalRow (pipeline : PipelineState) (wallet : Wallet) :
    ReceiptFor sha256
      (recordB3liteReceipt mac config requestId wallet pipeline
        (buildResponse sha256 pipeline.generatedTokenIds).1)
      (ShardEngine.finalRow sha256 requestId pipeline wallet) where
  requestId := rfl
  minerWallet := rfl
  responseHash := rfl
  tokens := ⟨pipeline.generatedTokenIds, rfl, rfl⟩

theorem exists_of_mem_responses_shard {event : Shard.Event}
    (mem : response ∈ world.responses sha256 requestId ⟨registry, .shard event⟩) :
    ∃ stored, .createSubmission response stored ∈
      ShardEngine.sent sha256 world.shard ⟨registry, event⟩ requestId := by
  obtain ⟨⟨row, stored⟩, inserts, rfl⟩ := List.mem_map.mp mem
  obtain ⟨effect, sent, inserted⟩ := List.mem_filterMap.mp inserts
  cases effect with
  | createSubmission row stored =>
      cases inserted
      exact ⟨stored, sent⟩
  | _ => cases inserted

theorem mem_responses_speculative_iff {event : Speculative.Event} :
    response ∈ world.responses sha256 requestId ⟨registry, .speculative event⟩ ↔
      ∃ stored, .createSubmission response stored ∈
        SpeculativeEngine.sent sha256 world.speculative ⟨registry, event⟩ requestId := by
  constructor
  · intro mem
    obtain ⟨⟨row, stored⟩, inserts, rfl⟩ := List.mem_map.mp mem
    obtain ⟨effect, sent, inserted⟩ := List.mem_filterMap.mp inserts
    cases effect with
    | createSubmission row stored =>
        cases inserted
        exact ⟨stored, sent⟩
    | _ => cases inserted
  · rintro ⟨stored, sent⟩
    exact List.mem_map.mpr ⟨(response, stored), List.mem_filterMap.mpr ⟨_, sent, rfl⟩, rfl⟩

/-- The shard engine's responses get their receipts. -/
theorem receipted_shard {event : Shard.Event} (sound : world.Sound)
    (enabled : world.enabled sha256 ⟨registry, .shard event⟩) :
    world.Receipted sha256 mac config requestId ⟨registry, .shard event⟩ := by
  intro response mem
  obtain ⟨stored, created⟩ := exists_of_mem_responses_shard mem
  have change := ShardEngine.next_change_sent sha256 enabled.2.1 sound.tickets requestId
  rcases change.finalizes rfl created with
    ⟨ticket, wallet, result, source, pipeline, same, parked, about, present, last, winner, row, -⟩
  rcases row with ⟨tokenId, answered, row⟩
  cases same
  subst about
  have recorded : world.receipts sha256 mac (some config)
      ⟨registry, .shard (.submitted ticket true stored)⟩ =
        [recordB3liteReceipt mac config result.requestId response.minerWallet
          (ShardEngine.recordToken pipeline tokenId)
          (buildResponse sha256
            (ShardEngine.recordToken pipeline tokenId).generatedTokenIds).1] := by
    have kept : (ShardEngine.recordToken pipeline tokenId).contributions.winner =
        some response.minerWallet := winner
    simp only [receipts, ShardEngine.receiptOf, parked, present, ShardEngine.stepReceipt, last,
      if_true, answered, ShardEngine.finalReceipt, ShardEngine.setPipeline,
      PartialMap.insert_self, kept, Option.map_some, Option.toList_some]
  refine ⟨_, by rw [recorded]; exact List.mem_singleton_self _, ?_⟩
  rw [row]
  exact receiptFor_finalRow _ _

/-- The last acknowledgement of the last round creates a row. -/
theorem exists_sent_of_finalizes {engine : SpeculativeEngine} {ack : OpoiKvRollbackAck}
    {pipeline : SpecPipeline} {state : RollbackState}
    (present : engine.pipelines ack.requestId = some pipeline)
    (awaiting : pipeline.phase = .awaitingRollback state)
    (complete : state.pending.erase ack.shardIndex = ∅) (final : state.isFinalizingRound = true)
    (attributed : pipeline.contributions.winner ≠ none) (stored : Bool) :
    ∃ row, .createSubmission row stored ∈
      SpeculativeEngine.sent sha256 engine ⟨registry, .kvRollbackAck ack stored⟩
        ack.requestId := by
  let noted : SpeculativeEngine :=
    { engine with
      pipelines := engine.pipelines.insert ack.requestId
        (SpeculativeEngine.acknowledge pipeline state ack.shardIndex)
      log := engine.log ++ SpeculativeEngine.ackSubmission ack.requestId state ack }
  have notes : SpeculativeEngine.ActsOn ack.requestId engine noted
      (some (SpeculativeEngine.acknowledge pipeline state ack.shardIndex))
      (SpeculativeEngine.ackSubmission ack.requestId state ack) :=
    ⟨rfl, rfl, SpeculativeEngine.about_ackSubmission _ _ _⟩
  have stepped : SpeculativeEngine.next sha256 engine ⟨registry, .kvRollbackAck ack stored⟩ =
      SpeculativeEngine.finalizePipeline sha256 ack.requestId stored noted := by
    simp only [SpeculativeEngine.next, SpeculativeEngine.handleKvRollbackAck, present, awaiting,
      complete, final, if_true, noted]
  rcases SpeculativeEngine.finalizePipeline_actsOn sha256 notes.pipelines_self stored with
    ⟨after, emitted, acts, ⟨nobody, -⟩ | ⟨wallet, -, -, rfl⟩⟩
  · exact absurd nobody attributed
  · refine ⟨SpeculativeEngine.finalRow sha256 ack.requestId
      (SpeculativeEngine.acknowledge pipeline state ack.shardIndex) wallet, ?_⟩
    rw [SpeculativeEngine.sent, stepped, (notes.trans acts).history_self, List.drop_left]
    exact List.mem_append_right _ (List.mem_singleton_self _)

/-- The speculative engine creates a response exactly when it finalizes. -/
theorem finalizesSpeculative_iff {event : Speculative.Event}
    (enabled : world.enabled sha256 ⟨registry, .speculative event⟩) :
    world.FinalizesSpeculative requestId ⟨registry, .speculative event⟩ ↔
      ∃ response, response ∈ world.responses sha256 requestId ⟨registry, .speculative event⟩ := by
  constructor
  · rintro ⟨ack, stored, pipeline, state, same, about, present, awaiting, complete, final,
      attributed⟩
    cases same
    subst about
    rcases exists_sent_of_finalizes present awaiting complete final attributed stored with
      ⟨row, created⟩
    exact ⟨row, mem_responses_speculative_iff.mpr ⟨stored, created⟩⟩
  · rintro ⟨response, mem⟩
    obtain ⟨stored, created⟩ := mem_responses_speculative_iff.mp mem
    have change := SpeculativeEngine.next_change_sent sha256 enabled.2.1 requestId
    generalize found : world.speculative.pipelines requestId = before at change
    generalize (SpeculativeEngine.next sha256 world.speculative ⟨registry, event⟩).pipelines
      requestId = after at change
    generalize SpeculativeEngine.sent sha256 world.speculative ⟨registry, event⟩ requestId =
      emitted at change created
    cases change with
    | finalized about awaiting complete final winner =>
        exact ⟨_, _, _, _, rfl, about, found, awaiting, complete, final, by rw [winner]; nofun⟩
    | _ => simp at created

/-- From a sound state, the responses of a step are receipted by it exactly when it
does not finalize a speculative pipeline. -/
theorem receipted_iff (sound : world.Sound) (enabled : world.enabled sha256 stimulus) :
    world.Receipted sha256 mac config requestId stimulus ↔
      ¬ world.FinalizesSpeculative requestId stimulus := by
  rcases stimulus with ⟨registry, event⟩
  cases event with
  | shard event =>
      constructor
      · rintro - ⟨ack, stored, pipeline, state, same, -⟩
        cases same
      · exact fun _ => receipted_shard sound enabled
  | speculative event =>
      rw [finalizesSpeculative_iff enabled]
      constructor
      · rintro receipted ⟨response, mem⟩
        obtain ⟨receipt, recorded, -⟩ := receipted response mem
        cases recorded
      · intro never response mem
        exact absurd ⟨response, mem⟩ never
  | _ =>
      constructor
      · rintro - ⟨ack, stored, pipeline, state, same, -⟩
        cases same
      · intro _ response mem
        cases mem

/-- Along every run in which the speculative engine finalizes nothing for the
request, each of its responses has a receipt; and wherever such a run may go
on, a step creates its responses with receipts exactly as long as that is so. -/
theorem responses_receipted {draftSources : PartialMap String DraftModelSource}
    {events : List Stimulus}
    (run : (system sha256).RunWith
      (fun world stimulus => ¬ world.FinalizesSpeculative requestId stimulus)
      (new draftSources) events world) :
    (∀ response ∈ (bookOf sha256 mac (some config) requestId (new draftSources) events).responses,
      ∃ receipt ∈ (bookOf sha256 mac (some config) requestId (new draftSources) events).receipts,
        ReceiptFor sha256 receipt response) ∧
      ∀ stimulus, world.enabled sha256 stimulus →
        (world.Receipted sha256 mac config requestId stimulus ↔
          ¬ world.FinalizesSpeculative requestId stimulus) := by
  have both := (run.watched (bookNext sha256 mac (some config) requestId) ⟨[], []⟩).invariant
    (I := fun both => both.1.Sound ∧ ∀ response ∈ both.2.responses,
      ∃ receipt ∈ both.2.receipts, ReceiptFor sha256 receipt response)
    ⟨sound_new draftSources, fun _ mem => absurd mem List.not_mem_nil⟩
    (by
      rintro ⟨state, book⟩ stimulus ⟨sound, covered⟩ enabled guarded
      have offered : state.enabled sha256 stimulus := enabled
      refine ⟨sound.next offered, ?_⟩
      intro response mem
      rcases List.mem_append.mp mem with earlier | now
      · obtain ⟨receipt, attempted, fits⟩ := covered response earlier
        exact ⟨receipt, List.mem_append_left _ attempted, fits⟩
      · rcases (receipted_iff sound offered).mpr guarded response now with
          ⟨receipt, attempted, fits⟩
        exact ⟨receipt, List.mem_append_right _ attempted, fits⟩)
  exact ⟨both.2, fun stimulus enabled => receipted_iff both.1 enabled⟩

/-! ## An example deployment -/

/-- The bridge sees an event of its speculative engine. -/
def ofSpeculative (stimulus : Speculative.Stimulus) : Stimulus :=
  ⟨stimulus.registry, .speculative stimulus.event⟩

/-- The effect stores no row. -/
def drawsNothing : Speculative.Effect → Bool
  | .createSubmission _ true => false
  | _ => true

/-- An event that the speculative engine offers and that stores no row. -/
theorem enabled_ofSpeculative {offer : Speculative.Stimulus}
    (routed : world.Routed offer.registry (.speculative offer.event))
    (offered : world.speculative.enabled offer)
    (quiet : (SpeculativeEngine.next sha256 world.speculative offer).log.all drawsNothing =
      true) :
    world.enabled sha256 (ofSpeculative offer) := by
  refine ⟨routed, offered, ?_⟩
  intro requestId row mem
  obtain ⟨effect, sent, inserts⟩ := List.mem_filterMap.mp mem
  have logged := (List.mem_filter.mp (List.mem_of_mem_drop sent)).1
  have silent := List.all_eq_true.mp quiet effect logged
  cases effect with
  | createSubmission _ _ =>
      cases inserts
      cases silent
  | _ => cases inserts

/-- The intake of request `"r"` for one token and the tick up to the claim for
it. -/
def soleIntake (registry : MinerRegistry) : List Stimulus :=
  (ShardEngine.soleStart registry 1 1).dropLast.map ofShard

/-- The bridge with a draft for the model. -/
def soleBridge : World :=
  new (PartialMap.empty.insert "model" SpeculativeEngine.soleDraftSource)

/-- The request goes to the shard engine, whose last result is submitted. -/
def plainEvents : List Stimulus :=
  soleIntake ShardEngine.soleRegistry ++
    [ofShard ⟨ShardEngine.soleRegistry, .pollClaim true false⟩,
      ofShard (ShardEngine.soleAnswer 0 0 (some 5)), ofShard (ShardEngine.soleResolved 0),
      ofShard ⟨ShardEngine.soleRegistry, .submitted 0 true false⟩]

/-- The same request goes to the speculative engine, which ends its only round. -/
def delegatedEvents : List Stimulus :=
  soleIntake SpeculativeEngine.soleRegistry ++
    [ofShard ⟨SpeculativeEngine.soleRegistry, .pollClaim true true⟩,
      ofSpeculative (SpeculativeEngine.soleAnswer 0 (some 2) none),
      ofSpeculative (SpeculativeEngine.soleTokenized 0 2),
      ofSpeculative (SpeculativeEngine.soleDraft [9]),
      ofSpeculative (SpeculativeEngine.soleAnswer 0 none (some [7])),
      ofSpeculative (SpeculativeEngine.soleAck 0),
      ofSpeculative ⟨SpeculativeEngine.soleRegistry,
        .kvRollbackAck ⟨"r", draftSessionShardIndex, true, none⟩ false⟩]

/-- What the miner's single token is recorded as. -/
def soleRow : NewSubmission where
  minerWallet := "miner"
  requestId := "r"
  model := some "model"
  promptHash := some "prompt-hash"
  responseHash := "02000000"
  responseHex := "02000000"
  tokenCount := 1

/-- A keyed hash and a configuration under which everything is sampled. -/
def soleMac : Mac := fun _ message => message

def soleB3lite : B3LiteConfig :=
  ⟨[], fun _ => true⟩

theorem soleIntake_run (registry : MinerRegistry) {guard : World → Stimulus → Prop}
    (met : ∀ world event, guard world (ofShard event)) :
    (system id).RunWith guard soleBridge (soleIntake registry)
      ((system id).execute soleBridge (soleIntake registry)) := by
  apply System.Admits.runWith
  exact ⟨⟨enabled_ofShard trivial trivial rfl, met _ _⟩,
    ⟨enabled_ofShard trivial ⟨rfl, List.nodup_nil, ShardEngine.nothing_stalled fun _ => rfl⟩ rfl,
      met _ _⟩, ⟨enabled_ofShard trivial rfl rfl, met _ _⟩,
    ⟨enabled_ofShard trivial ⟨_, _, rfl⟩ rfl, met _ _⟩,
    ⟨enabled_ofShard trivial ⟨_, _, _, _, rfl⟩ rfl, met _ _⟩,
    ⟨enabled_ofShard trivial ⟨_, _, _, _, _, rfl⟩ rfl, met _ _⟩, trivial⟩

theorem delegatedEvents_run :
    (system id).Run soleBridge delegatedEvents
      ((system id).execute soleBridge delegatedEvents) := by
  rw [delegatedEvents, System.execute_append]
  apply (soleIntake_run SpeculativeEngine.soleRegistry fun _ _ => trivial).append
  apply System.Admits.runWith
  refine ⟨⟨enabled_ofShard ?_ ⟨_, _, _, _, _, _, rfl⟩ rfl, trivial⟩,
    ⟨enabled_ofSpeculative rfl trivial rfl, trivial⟩,
    ⟨enabled_ofSpeculative trivial nofun rfl, trivial⟩,
    ⟨enabled_ofSpeculative trivial trivial rfl, trivial⟩,
    ⟨enabled_ofSpeculative rfl trivial rfl, trivial⟩,
    ⟨enabled_ofSpeculative trivial trivial rfl, trivial⟩,
    ⟨enabled_ofSpeculative trivial trivial rfl, trivial⟩, trivial⟩
  rintro _ _ _ _ _ _ ⟨⟩
  rfl

/-- The database takes the row. -/
def soleStored : Stimulus :=
  ⟨SpeculativeEngine.soleRegistry, .answered soleRow true⟩

theorem enabled_soleStored :
    (system id).enabled ((system id).execute soleBridge delegatedEvents) soleStored := by
  have waits : soleRow ∈ ((system id).execute soleBridge delegatedEvents).writes "r" := by decide
  have empty : ((system id).execute soleBridge delegatedEvents).rows "r" = [] := by decide
  refine ⟨trivial, waits, ?_⟩
  rintro - ⟨row, mem, -⟩
  rw [show soleRow.requestId = "r" from rfl, empty] at mem
  cases mem

/-- With a draft-capable miner the response is served, and stored, without any
receipt. -/
theorem delegated_response_unreceipted :
    ∃ events world response, (system id).Run soleBridge events world ∧
      world.rows "r" = [⟨response, false⟩] ∧
      response ∈ (bookOf id soleMac (some soleB3lite) "r" soleBridge events).responses ∧
      ∀ receipt ∈ (bookOf id soleMac (some soleB3lite) "r" soleBridge events).receipts,
        ¬ ReceiptFor id receipt response := by
  refine ⟨delegatedEvents ++ [soleStored], _, soleRow,
    delegatedEvents_run.snoc enabled_soleStored trivial, by decide, by decide, ?_⟩
  have unrecorded : (bookOf id soleMac (some soleB3lite) "r" soleBridge
      (delegatedEvents ++ [soleStored])).receipts = [] := rfl
  intro receipt mem
  rw [unrecorded] at mem
  cases mem

/-- An instance of `responses_receipted`: the same request, served by the shard
engine. -/
theorem responses_receipted_sole :
    ∃ response ∈ (bookOf id soleMac (some soleB3lite) "r" soleBridge plainEvents).responses,
      ∃ receipt ∈ (bookOf id soleMac (some soleB3lite) "r" soleBridge plainEvents).receipts,
        ReceiptFor id receipt response := by
  have run : (system id).RunWith
      (fun world stimulus => ¬ world.FinalizesSpeculative "r" stimulus)
      soleBridge plainEvents ((system id).execute soleBridge plainEvents) := by
    rw [plainEvents, System.execute_append]
    have unfinished : ∀ (world : World) event,
        ¬ world.FinalizesSpeculative "r" (ofShard event) := by
      rintro world event ⟨ack, stored, pipeline, state, same, -⟩
      cases same
    apply (soleIntake_run ShardEngine.soleRegistry unfinished).append
    apply System.Admits.runWith
    refine ⟨⟨enabled_ofShard ?_ ⟨_, _, _, _, _, _, rfl⟩ rfl, unfinished _ _⟩,
      ⟨enabled_ofShard rfl trivial rfl, unfinished _ _⟩,
      ⟨enabled_ofShard trivial ⟨_, _, rfl⟩ rfl, unfinished _ _⟩,
      ⟨enabled_ofShard trivial ⟨_, _, _, rfl⟩ rfl, unfinished _ _⟩, trivial⟩
    rintro _ _ _ _ _ _ ⟨⟩
    rfl
  have created : { soleRow with responseHash := "05000000", responseHex := "05000000" } ∈
      (bookOf id soleMac (some soleB3lite) "r" soleBridge plainEvents).responses := by decide
  exact ⟨_, created, (responses_receipted run).1 _ created⟩

end World

end StratumBridge.Bridge
