import StratumBridge.Audit.System

/-!
# Receipts and consequences

The tables of the auditor with the statements on them, and the auditor beside its
tables: every write may fail, and the process may restart between any two of its
steps.  A write that is on its way at a restart is carried out or lost.

The history of the auditor outlives the process.
-/

namespace StratumBridge.Audit

open Data Wire Transition

/-! ## The tables -/

/-- What `create_b3lite_receipt` is given. -/
structure NewReceipt where
  requestId : RequestId
  minerWallet : Wallet
  modelId : String
  ggufSha256 : String
  promptHash : Option String
  promptHex : String
  responseHash : String
  generatedTokenIdsHex : String
  totalLayers : Int32
  signatureHex : String
  sampled : Bool
  deriving DecidableEq

/-- The row of a new receipt. -/
def NewReceipt.row (receipt : NewReceipt) (id : Nat) : B3LiteReceipt where
  id := id
  requestId := receipt.requestId
  minerWallet := receipt.minerWallet
  modelId := receipt.modelId
  ggufSha256 := receipt.ggufSha256
  promptHash := receipt.promptHash
  promptHex := receipt.promptHex
  responseHash := receipt.responseHash
  generatedTokenIdsHex := receipt.generatedTokenIdsHex
  totalLayers := receipt.totalLayers
  signatureHex := receipt.signatureHex
  sampled := receipt.sampled
  auditStatus := if receipt.sampled then .pending else .none
  auditDetail := none

/-- A row of `b3lite_consequences`. -/
structure B3LiteConsequence where
  receiptId : Nat
  minerWallet : Wallet
  requestId : RequestId
  action : ConsequenceAction
  reason : String
  deriving DecidableEq

/-- `b3lite_receipts` and `b3lite_consequences`. -/
structure Tables where
  receipts : IndexMap Nat B3LiteReceipt
  consequences : List B3LiteConsequence
  keyed : ∀ id receipt, receipts.get? id = some receipt → receipt.id = id

namespace Tables

/-- The tables without rows. -/
def empty : Tables :=
  ⟨IndexMap.empty, [], fun _ _ found => absurd found (by simp [IndexMap.get?, IndexMap.empty])⟩

/-- `create_b3lite_receipt`, with the id its row gets. -/
def createB3liteReceipt (id : Nat) (receipt : NewReceipt) (tables : Tables) : Tables where
  receipts := tables.receipts.insert id (receipt.row id)
  consequences := tables.consequences
  keyed := by
    intro other row found
    by_cases same : other = id
    · subst same
      rw [IndexMap.get?_insert_self] at found
      cases found
      rfl
    · rw [IndexMap.get?_insert_of_ne _ _ same] at found
      exact tables.keyed other row found

/-- `mark_b3lite_audit_result`. -/
def markB3liteAuditResult (id : Nat) (status : AuditStatus) (detail : AuditDetail)
    (tables : Tables) : Tables where
  receipts := tables.receipts.mapValues fun receipt =>
    if receipt.id = id then
      { receipt with auditStatus := status, auditDetail := some detail }
    else
      receipt
  consequences := tables.consequences
  keyed := by
    intro other row found
    rw [IndexMap.get?_mapValues, Option.map_eq_some_iff] at found
    rcases found with ⟨receipt, found, rfl⟩
    have same : receipt.id = other := tables.keyed other receipt found
    split
    · exact same
    · exact same

/-- `insert_b3lite_consequence`. -/
def insertB3liteConsequence (receipt : B3LiteReceipt) (action : ConsequenceAction)
    (reason : String) (tables : Tables) : Tables :=
  { tables with
    consequences := tables.consequences ++
      [⟨receipt.id, receipt.minerWallet, receipt.requestId, action, reason⟩] }

/-- `list_pending_b3lite_audits`. -/
def listPendingB3liteAudits (tables : Tables) : List B3LiteReceipt :=
  (tables.receipts.entries.map Prod.snd).filter fun receipt =>
    receipt.sampled && decide (receipt.auditStatus = .pending)

/-- The withheld payments of a wallet. -/
def withheldFrom (tables : Tables) (wallet : Wallet) : List B3LiteConsequence :=
  tables.consequences.filter fun consequence =>
    consequence.minerWallet = wallet ∧ consequence.action = .withholdPay

/-- `count_withhold_consequences`. -/
def countWithholdConsequences (tables : Tables) (wallet : Wallet) : Int :=
  (tables.withheldFrom wallet).length

/-- `list_ejected_wallets`. -/
def listEjectedWallets (tables : Tables) : List Wallet :=
  ((tables.consequences.filter fun consequence => consequence.action = .ejected).map
    B3LiteConsequence.minerWallet).dedup

/-- The write that a tick is waiting for. -/
def carryOut (tick : Tick) (tables : Tables) : Tables :=
  match tick with
  | .closing reason receipt _ =>
      tables.markB3liteAuditResult receipt.id .inconclusive (.reason reason)
  | .marking positions receipt _ =>
      tables.markB3liteAuditResult receipt.id (B3LiteAuditor.verdict positions)
        (.positions positions)
  | .withholding receipt _ =>
      tables.insertB3liteConsequence receipt .withholdPay (divergenceReason receipt)
  | .flagging receipt _ =>
      tables.insertB3liteConsequence receipt .reputationFlag (divergenceReason receipt)
  | .ejecting count receipt _ =>
      tables.insertB3liteConsequence receipt .ejected (ejectReason count)
  | _ => tables

/-- The receipt is stored, whatever has become of its audit. -/
def Stored (tables : Tables) (receipt : B3LiteReceipt) : Prop :=
  ∃ status detail, tables.receipts.get? receipt.id =
    some { receipt with auditStatus := status, auditDetail := detail }

/-! ### What the statements do -/

variable {tables : Tables} {receipt row : B3LiteReceipt} {id : Nat} {status : AuditStatus}
  {detail : AuditDetail}

theorem get?_markB3liteAuditResult (other : Nat) :
    (tables.markB3liteAuditResult id status detail).receipts.get? other =
      (tables.receipts.get? other).map fun receipt =>
        if receipt.id = id then
          { receipt with auditStatus := status, auditDetail := some detail }
        else
          receipt :=
  IndexMap.get?_mapValues ..

theorem get?_markB3liteAuditResult_of_ne {other : Nat} (ne : other ≠ id) :
    (tables.markB3liteAuditResult id status detail).receipts.get? other =
      tables.receipts.get? other := by
  rw [get?_markB3liteAuditResult]
  cases found : tables.receipts.get? other with
  | none => rfl
  | some receipt =>
      have foreign : receipt.id ≠ id :=
        fun same => ne ((tables.keyed other receipt found).symm.trans same)
      rw [Option.map_some, if_neg foreign]

/-- A mark changes nothing but the audit of its receipt. -/
theorem find_of_mark {other : Nat}
    (found : (tables.markB3liteAuditResult id status detail).receipts.get? other = some row) :
    (∃ before, tables.receipts.get? other = some before ∧
      row = { before with auditStatus := status, auditDetail := some detail }) ∨
      tables.receipts.get? other = some row := by
  rw [get?_markB3liteAuditResult, Option.map_eq_some_iff] at found
  rcases found with ⟨before, found, rfl⟩
  split
  · exact .inl ⟨before, found, rfl⟩
  · exact .inr found

theorem get?_createB3liteReceipt_of_ne {receipt : NewReceipt} {other : Nat} (ne : other ≠ id) :
    (tables.createB3liteReceipt id receipt).receipts.get? other = tables.receipts.get? other :=
  IndexMap.get?_insert_of_ne _ _ ne

theorem mem_listPendingB3liteAudits : receipt ∈ tables.listPendingB3liteAudits ↔
    tables.receipts.get? receipt.id = some receipt ∧ receipt.sampled = true ∧
      receipt.auditStatus = .pending := by
  rw [listPendingB3liteAudits, List.mem_filter, Bool.and_eq_true, decide_eq_true_eq]
  constructor
  · rintro ⟨mem, sampled, pending⟩
    obtain ⟨⟨id, held⟩, entry, rfl⟩ := List.mem_map.mp mem
    have found := IndexMap.get?_eq_some_iff_mem.mpr entry
    have same : held.id = id := tables.keyed id held found
    refine ⟨?_, sampled, pending⟩
    rw [same]
    exact found
  · rintro ⟨found, sampled, pending⟩
    exact ⟨List.mem_map.mpr ⟨_, IndexMap.get?_eq_some_iff_mem.mp found, rfl⟩, sampled, pending⟩

/-- The receipts have different ids. -/
theorem nodup_listPendingB3liteAudits :
    (tables.listPendingB3liteAudits.map B3LiteReceipt.id).Nodup := by
  have keys : (tables.receipts.entries.map Prod.snd).map B3LiteReceipt.id =
      tables.receipts.keys := by
    rw [IndexMap.keys, List.map_map]
    apply List.map_congr_left
    rintro ⟨id, receipt⟩ mem
    exact tables.keyed id receipt (IndexMap.get?_eq_some_iff_mem.mpr mem)
  have all : ((tables.receipts.entries.map Prod.snd).map B3LiteReceipt.id).Nodup := by
    rw [keys]
    exact tables.receipts.nodup_keys
  exact all.sublist (List.filter_sublist.map _)

theorem Stored.of_get? (found : tables.receipts.get? receipt.id = some receipt) :
    tables.Stored receipt :=
  ⟨receipt.auditStatus, receipt.auditDetail, found⟩

theorem Stored.create {new : NewReceipt} (stored : tables.Stored receipt)
    (fresh : tables.receipts.get? id = none) :
    (tables.createB3liteReceipt id new).Stored receipt := by
  rcases stored with ⟨status, detail, found⟩
  refine ⟨status, detail, ?_⟩
  rw [get?_createB3liteReceipt_of_ne]
  · exact found
  · rintro rfl
    rw [fresh] at found
    cases found

theorem Stored.mark (stored : tables.Stored receipt) :
    (tables.markB3liteAuditResult id status detail).Stored receipt := by
  rcases stored with ⟨before, beside, found⟩
  rw [Stored, get?_markB3liteAuditResult, found]
  by_cases same : receipt.id = id
  · exact ⟨status, some detail, by rw [Option.map_some, if_pos same]⟩
  · exact ⟨before, beside, by rw [Option.map_some, if_neg same]⟩

/-- A write of the auditor keeps the receipts. -/
theorem Stored.carryOut (stored : tables.Stored receipt) (tick : Tick) :
    (tables.carryOut tick).Stored receipt := by
  cases tick with
  | closing reason marked rest => exact stored.mark
  | marking positions marked rest => exact stored.mark
  | _ => exact stored

end Tables

/-! ## The auditor beside its tables -/

/-- The auditor and its tables. -/
structure B3Lite where
  tables : Tables
  auditor : B3LiteAuditor

/-- What can happen to them: a receipt is recorded, the auditor takes a step, or
the process starts again. -/
inductive B3LiteEvent
  | record (id : Nat) (receipt : NewReceipt)
  | audit (stimulus : Stimulus)
  | restart (written : Bool) (trustedWallets : List Wallet)

/-- The event tells that a table took a write. -/
def Event.stores : Event → Bool
  | marked stored => stored
  | inserted stored => stored
  | _ => false

/-- As for the steps of the auditor. -/
def B3LiteEvent.stores : B3LiteEvent → Bool
  | record _ _ => false
  | audit stimulus => stimulus.event.stores
  | restart written _ => written

namespace B3Lite

/-- A new deployment. -/
def new (trustedWallets : List Wallet) : B3Lite :=
  ⟨.empty, .new trustedWallets⟩

/-- A query that is answered is answered from the tables. -/
def Answers (b3lite : B3Lite) : Event → Prop
  | .listed (some receipts) => receipts.Perm b3lite.tables.listPendingB3liteAudits
  | .counted (some count) =>
      ∀ receipt rest, b3lite.auditor.tick = .counting receipt rest →
        count = b3lite.tables.countWithholdConsequences receipt.minerWallet
  | _ => True

/-- One event. -/
def next (b3lite : B3Lite) : B3LiteEvent → B3Lite
  | .record id receipt => { b3lite with tables := b3lite.tables.createB3liteReceipt id receipt }
  | .audit stimulus =>
      ⟨if stimulus.event.stores then b3lite.tables.carryOut b3lite.auditor.tick else b3lite.tables,
        b3lite.auditor.next stimulus⟩
  | .restart written trustedWallets =>
      ⟨if written then b3lite.tables.carryOut b3lite.auditor.tick else b3lite.tables,
        { B3LiteAuditor.new trustedWallets with log := b3lite.auditor.log }⟩

/-- A receipt gets an id that no other has. -/
def enabled (b3lite : B3Lite) : B3LiteEvent → Prop
  | .record id _ => b3lite.tables.receipts.get? id = none
  | .audit stimulus => b3lite.auditor.enabled stimulus ∧ b3lite.Answers stimulus.event
  | .restart _ _ => True

/-- The auditor and its tables as a system of events. -/
def system : System B3Lite B3LiteEvent where
  enabled := enabled
  next := next

end B3Lite

end StratumBridge.Audit
