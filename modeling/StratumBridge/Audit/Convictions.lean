import StratumBridge.Audit.Tables

/-!
# Convictions

A receipt is convicted when its audit finds it divergent.  Every consequence goes
back to a convicted receipt; but a receipt whose result could not be stored stays
pending and is convicted again.  Where a payment is withheld only after the result
is stored, it is withheld once for each receipt.
-/

namespace StratumBridge.Audit

open Data Wire Transition

/-! ## The work of a tick -/

namespace Tick

/-- The receipts that a tick has still to mark. -/
def queue : Tick → List B3LiteReceipt
  | idle => []
  | listing => []
  | resolving receipt rest => receipt :: rest
  | waiting _ replay rest => replay.receipt :: rest
  | replaying receipt rest => receipt :: rest
  | closing _ receipt rest => receipt :: rest
  | marking _ receipt rest => receipt :: rest
  | withholding _ rest => rest
  | flagging _ rest => rest
  | counting _ rest => rest
  | ejecting _ _ rest => rest

/-- The receipt that a tick punishes. -/
def guilty : Tick → Option B3LiteReceipt
  | withholding receipt _ => some receipt
  | flagging receipt _ => some receipt
  | counting receipt _ => some receipt
  | ejecting _ receipt _ => some receipt
  | _ => none

/-- The receipt whose payment a tick is about to withhold. -/
def owed : Tick → Option B3LiteReceipt
  | withholding receipt _ => some receipt
  | _ => none

/-- The receipt whose wallet a tick is ejecting. -/
def sentenced : Tick → Option B3LiteReceipt
  | ejecting _ receipt _ => some receipt
  | _ => none

theorem guilty_of_owed {tick : Tick} {receipt : B3LiteReceipt} (owed : tick.owed = some receipt) :
    tick.guilty = some receipt := by
  cases tick with
  | withholding held rest => exact owed
  | _ => cases owed

theorem guilty_of_sentenced {tick : Tick} {receipt : B3LiteReceipt}
    (sentenced : tick.sentenced = some receipt) : tick.guilty = some receipt := by
  cases tick with
  | ejecting count held rest => exact sentenced
  | _ => cases sentenced

end Tick

/-- The event brings a list of receipts or ends a mark. -/
def Event.turns : Event → Bool
  | listed _ => true
  | marked _ => true
  | _ => false

namespace B3LiteAuditor

/-- An audit of the receipt has ended in a divergence. -/
def FoundDivergent (auditor : B3LiteAuditor) (id : Nat) : Prop :=
  ∃ detail stored, .marked id .divergent detail stored ∈ auditor.log

variable {auditor : B3LiteAuditor} {stimulus : Stimulus}

@[simp]
theorem queue_goOn (rest : List B3LiteReceipt) : (auditor.goOn rest).tick.queue = rest := by
  cases rest with
  | nil => rfl
  | cons receipt rest => rfl

@[simp]
theorem guilty_goOn (rest : List B3LiteReceipt) : (auditor.goOn rest).tick.guilty = none := by
  cases rest with
  | nil => rfl
  | cons receipt rest => rfl

@[simp]
theorem owed_goOn (rest : List B3LiteReceipt) : (auditor.goOn rest).tick.owed = none := by
  cases rest with
  | nil => rfl
  | cons receipt rest => rfl

/-- The log of the auditor only grows. -/
theorem log_next (enabled : auditor.enabled stimulus) :
    auditor.log <+: (auditor.next stimulus).log := by
  obtain ⟨emitted, grown, -⟩ := next_adds enabled
  exact ⟨emitted, grown.symm⟩

theorem FoundDivergent.next {id : Nat} (found : auditor.FoundDivergent id)
    (enabled : auditor.enabled stimulus) : (auditor.next stimulus).FoundDivergent id := by
  rcases found with ⟨detail, stored, mem⟩
  exact ⟨detail, stored, (log_next enabled).subset mem⟩

/-- Between a list and the next mark no receipt leaves the queue, and the tick turns
against no receipt. -/
structure KeepsWork (auditor after : B3LiteAuditor) : Prop where
  queue : after.tick.queue = auditor.tick.queue
  guilty : ∀ receipt, after.tick.guilty = some receipt → auditor.tick.guilty = some receipt
  owed : ∀ receipt, after.tick.owed = some receipt → auditor.tick.owed = some receipt

variable {after : B3LiteAuditor}

theorem KeepsWork.of_unowed (queue : after.tick.queue = auditor.tick.queue)
    (guilty : ∀ receipt, after.tick.guilty = some receipt → auditor.tick.guilty = some receipt)
    (unowed : after.tick.owed = none) : KeepsWork auditor after := by
  refine ⟨queue, guilty, ?_⟩
  intro receipt owed
  rw [unowed] at owed
  cases owed

theorem KeepsWork.of_tick (same : after.tick = auditor.tick) : KeepsWork auditor after := by
  constructor
  · rw [same]
  · intro receipt guilty
    rwa [same] at guilty
  · intro receipt owed
    rwa [same] at owed

/-- The tick goes on with the same queue and without a guilty receipt. -/
theorem KeepsWork.of_innocent (queue : after.tick.queue = auditor.tick.queue)
    (guilty : after.tick.guilty = none) : KeepsWork auditor after := by
  constructor
  · exact queue
  · intro receipt held
    rw [guilty] at held
    cases held
  · intro receipt held
    rw [Tick.guilty_of_owed held] at guilty
    cases guilty

theorem resumeResolved_keepsWork {receipt : B3LiteReceipt} {rest : List B3LiteReceipt}
    (resolving : auditor.tick = .resolving receipt rest) (registry : MinerRegistry)
    (source : Option ModelSource) (isOpen : Bool) :
    KeepsWork auditor (resumeResolved registry source isOpen auditor) := by
  have queue : auditor.tick.queue = receipt :: rest := by rw [resolving]; rfl
  simp only [resumeResolved, resolving]
  cases prepared : prepare receipt source with
  | error reason => exact .of_innocent queue.symm rfl
  | ok replay =>
      have same : replay.receipt = receipt := (of_prepare prepared).1
      have replayed : replay.receipt :: rest = auditor.tick.queue := by rw [queue, same]
      dsimp only
      cases registry.pickAuditorCapable auditor.trustedWallets receipt.minerWallet with
      | none => exact .of_innocent replayed rfl
      | some wallet =>
          simp only [dispatchViaStratum]
          cases registry.get wallet with
          | none => exact .of_innocent replayed rfl
          | some tx =>
              cases isOpen with
              | false => exact .of_innocent replayed rfl
              | true => exact .of_innocent replayed rfl

theorem wake_keepsWork {waiter : Waiter} {replay : Replay} {rest : List B3LiteReceipt}
    (waiting : auditor.tick = .waiting waiter replay rest) : KeepsWork auditor (wake auditor) := by
  have queue : auditor.tick.queue = replay.receipt :: rest := by rw [waiting]; rfl
  simp only [wake, waiting]
  cases auditor.replies waiter with
  | none => exact .of_innocent queue.symm rfl
  | some positions => exact .of_innocent queue.symm rfl

theorem resumeCounted_keepsWork {receipt : B3LiteReceipt} {rest : List B3LiteReceipt}
    (counting : auditor.tick = .counting receipt rest) (count : Option Int) :
    KeepsWork auditor (resumeCounted count auditor) := by
  have queue : auditor.tick.queue = rest := by rw [counting]; rfl
  have guilty : auditor.tick.guilty = some receipt := by rw [counting]; rfl
  simp only [resumeCounted, counting]
  cases count with
  | none => exact .of_innocent (by rw [queue_goOn, queue]) (guilty_goOn rest)
  | some n =>
      dsimp only
      split
      · exact .of_unowed queue.symm (fun held same => guilty.trans same) rfl
      · exact .of_innocent (by rw [queue_goOn, queue]) (guilty_goOn rest)

theorem tick_handleAuditResult (wallet : Wallet) (result : OpoiAuditResult) :
    (handleAuditResult wallet result auditor).tick = auditor.tick := by
  unfold handleAuditResult
  cases auditor.auditAssignments result.requestId with
  | none => rfl
  | some assigned =>
      dsimp only
      split
      · cases auditor.pending result.requestId with
        | none => rfl
        | some waiter => rfl
      · rfl

/-- Only a list and a mark change the work of a tick. -/
theorem next_keepsWork (enabled : auditor.enabled stimulus)
    (steady : stimulus.event.turns = false) :
    KeepsWork auditor (auditor.next stimulus) := by
  rcases stimulus with ⟨registry, event⟩
  cases event with
  | tickBegin =>
      have idle : auditor.tick = .idle := enabled
      exact .of_innocent (by rw [idle]; rfl) rfl
  | listed receipts => cases steady
  | resolved source isOpen =>
      rcases enabled with ⟨receipt, rest, resolving⟩
      exact resumeResolved_keepsWork resolving registry source isOpen
  | woken =>
      rcases enabled with ⟨waiter, replay, rest, waiting⟩
      exact wake_keepsWork waiting
  | replayed answer =>
      rcases enabled with ⟨receipt, rest, replaying⟩
      have queue : auditor.tick.queue = receipt :: rest := by rw [replaying]; rfl
      simp only [next, resumeReplayed, replaying]
      cases answer with
      | error reason => exact .of_innocent queue.symm rfl
      | ok positions => exact .of_innocent queue.symm rfl
  | marked stored => cases steady
  | inserted stored =>
      rcases enabled with ⟨receipt, rest, withholding | flagging | ⟨count, ejecting⟩⟩
      · have queue : auditor.tick.queue = rest := by rw [withholding]; rfl
        have guilty : auditor.tick.guilty = some receipt := by rw [withholding]; rfl
        simp only [next, resumeInserted, withholding]
        exact .of_unowed queue.symm (fun held same => guilty.trans same) rfl
      · have queue : auditor.tick.queue = rest := by rw [flagging]; rfl
        have guilty : auditor.tick.guilty = some receipt := by rw [flagging]; rfl
        simp only [next, resumeInserted, flagging]
        exact .of_unowed queue.symm (fun held same => guilty.trans same) rfl
      · have queue : auditor.tick.queue = rest := by rw [ejecting]; rfl
        simp only [next, resumeInserted, ejecting]
        exact .of_innocent (by rw [queue_goOn, queue]) (guilty_goOn rest)
  | counted count =>
      rcases enabled with ⟨receipt, rest, counting⟩
      exact resumeCounted_keepsWork counting count
  | auditResult wallet result => exact .of_tick (tick_handleAuditResult wallet result)
  | disconnect wallet => exact .of_tick rfl

@[simp]
theorem sentenced_goOn (rest : List B3LiteReceipt) :
    (auditor.goOn rest).tick.sentenced = none := by
  cases rest with
  | nil => rfl
  | cons receipt rest => rfl

/-- A wallet is being ejected from the count on that bans it. -/
theorem sentenced_next {receipt : B3LiteReceipt} (enabled : auditor.enabled stimulus)
    (sentenced : (auditor.next stimulus).tick.sentenced = some receipt) :
    auditor.tick.sentenced = some receipt ∨
      auditor.bans stimulus.event = some receipt.minerWallet := by
  rcases stimulus with ⟨registry, event⟩
  cases event with
  | tickBegin => cases sentenced
  | listed receipts =>
      have listing : auditor.tick = .listing := enabled
      simp only [next, resumeListing, listing, sentenced_goOn] at sentenced
      cases sentenced
  | resolved source isOpen =>
      have keeps := next_keepsWork enabled rfl
      rcases enabled with ⟨held, rest, resolving⟩
      have guilty := keeps.guilty receipt (Tick.guilty_of_sentenced sentenced)
      rw [resolving] at guilty
      cases guilty
  | woken =>
      have keeps := next_keepsWork enabled rfl
      rcases enabled with ⟨waiter, replay, rest, waiting⟩
      have guilty := keeps.guilty receipt (Tick.guilty_of_sentenced sentenced)
      rw [waiting] at guilty
      cases guilty
  | replayed answer =>
      have keeps := next_keepsWork enabled rfl
      rcases enabled with ⟨held, rest, replaying⟩
      have guilty := keeps.guilty receipt (Tick.guilty_of_sentenced sentenced)
      rw [replaying] at guilty
      cases guilty
  | marked stored =>
      rcases enabled with ⟨held, rest, ⟨reason, closing⟩ | ⟨positions, marking⟩⟩
      · simp only [next, resumeMarked, closing, sentenced_goOn] at sentenced
        cases sentenced
      · simp only [next, resumeMarked, marking] at sentenced
        split at sentenced
        · rw [sentenced_goOn] at sentenced
          cases sentenced
        · cases sentenced
  | inserted stored =>
      rcases enabled with ⟨held, rest, withholding | flagging | ⟨count, ejecting⟩⟩
      · simp only [next, resumeInserted, withholding] at sentenced
        cases sentenced
      · simp only [next, resumeInserted, flagging] at sentenced
        cases sentenced
      · simp only [next, resumeInserted, ejecting, sentenced_goOn] at sentenced
        cases sentenced
  | counted count =>
      rcases enabled with ⟨held, rest, counting⟩
      simp only [next, resumeCounted, counting] at sentenced
      cases count with
      | none =>
          rw [sentenced_goOn] at sentenced
          cases sentenced
      | some n =>
          simp only [bans, counting]
          dsimp only at sentenced
          split at sentenced
          · rename_i enough
            cases sentenced
            exact .inr (if_pos enough)
          · rw [sentenced_goOn] at sentenced
            cases sentenced
  | auditResult wallet result =>
      simp only [next, tick_handleAuditResult] at sentenced
      exact .inl sentenced
  | disconnect wallet => exact .inl sentenced

theorem verdict_ne_pending (positions : List AuditPositionWire) :
    verdict positions ≠ .pending := by
  unfold verdict
  split
  · decide
  · decide

/-- Once its write is done, no payment is owed. -/
theorem owed_next_of_stores (enabled : auditor.enabled stimulus)
    (steady : stimulus.event.turns = false) (stores : stimulus.event.stores = true) :
    (auditor.next stimulus).tick.owed = none := by
  rcases stimulus with ⟨registry, event⟩
  cases event with
  | inserted stored =>
      rcases enabled with ⟨receipt, rest, withholding | flagging | ⟨count, ejecting⟩⟩
      · simp only [next, resumeInserted, withholding]
        rfl
      · simp only [next, resumeInserted, flagging]
        rfl
      · simp only [next, resumeInserted, ejecting]
        exact owed_goOn rest
  | marked stored => cases steady
  | _ => cases stores

/-- A mark takes the first receipt from the queue, and the tick turns against it only
if it was found divergent. -/
structure EndsMark (auditor after : B3LiteAuditor) (receipt : B3LiteReceipt)
    (rest : List B3LiteReceipt) : Prop where
  first : auditor.tick.queue = receipt :: rest
  innocent : auditor.tick.guilty = none
  left : after.tick.queue = rest
  guilty : ∀ held, after.tick.guilty = some held → held = receipt ∧ after.FoundDivergent receipt.id

theorem resumeMarked_endsMark {registry : MinerRegistry} {stored : Bool}
    (enabled : auditor.enabled ⟨registry, .marked stored⟩) :
    ∃ receipt rest, EndsMark auditor (resumeMarked stored auditor) receipt rest := by
  rcases enabled with ⟨receipt, rest, ⟨reason, closing⟩ | ⟨positions, marking⟩⟩
  · have queue : auditor.tick.queue = receipt :: rest := by rw [closing]; rfl
    have innocent : auditor.tick.guilty = none := by rw [closing]; rfl
    simp only [resumeMarked, closing]
    refine ⟨receipt, rest, queue, innocent, queue_goOn rest, ?_⟩
    intro held guilty
    rw [guilty_goOn] at guilty
    cases guilty
  · have queue : auditor.tick.queue = receipt :: rest := by rw [marking]; rfl
    have innocent : auditor.tick.guilty = none := by rw [marking]; rfl
    simp only [resumeMarked, marking]
    split
    · refine ⟨receipt, rest, queue, innocent, queue_goOn rest, ?_⟩
      intro held guilty
      rw [guilty_goOn] at guilty
      cases guilty
    · rename_i divergent
      refine ⟨receipt, rest, queue, innocent, rfl, ?_⟩
      intro held guilty
      cases guilty
      have found : verdict positions = .divergent := if_neg divergent
      refine ⟨rfl, .positions positions, stored, ?_⟩
      rw [← found]
      exact List.mem_append_right _ (List.mem_singleton_self _)

end B3LiteAuditor

namespace Tables

variable {tables : Tables} {tick : Tick} {receipt : B3LiteReceipt}

/-- The tables after a write that the tick was waiting for. -/
theorem Stored.write (stored : tables.Stored receipt) (written : Bool) :
    (if written then tables.carryOut tick else tables).Stored receipt := by
  cases written with
  | false => exact stored
  | true => exact stored.carryOut tick

/-- A write of the auditor changes no receipt but the first of the queue. -/
theorem get?_carryOut_of_ne {id : Nat}
    (ne : ∀ first, tick.queue.head? = some first → id ≠ first.id) :
    (tables.carryOut tick).receipts.get? id = tables.receipts.get? id := by
  cases tick with
  | closing reason marked rest => exact get?_markB3liteAuditResult_of_ne (ne marked rfl)
  | marking positions marked rest => exact get?_markB3liteAuditResult_of_ne (ne marked rfl)
  | _ => rfl

/-- A consequence that a tick stores for a receipt. -/
structure Punishes (tick : Tick) (receipt : B3LiteReceipt) (consequence : B3LiteConsequence) :
    Prop where
  guilty : tick.guilty = some receipt
  receiptId : consequence.receiptId = receipt.id
  minerWallet : consequence.minerWallet = receipt.minerWallet
  requestId : consequence.requestId = receipt.requestId
  owed : consequence.action = .withholdPay → tick.owed = some receipt
  sentenced : consequence.action = .ejected → tick.sentenced = some receipt

/-- A new consequence is one that the tick stores. -/
theorem mem_carryOut {consequence : B3LiteConsequence}
    (mem : consequence ∈ (tables.carryOut tick).consequences) :
    consequence ∈ tables.consequences ∨ ∃ receipt, Punishes tick receipt consequence := by
  have inserted : ∀ {receipt action reason},
      consequence ∈ (tables.insertB3liteConsequence receipt action reason).consequences →
      consequence ∈ tables.consequences ∨
        consequence = ⟨receipt.id, receipt.minerWallet, receipt.requestId, action, reason⟩ := by
    intro receipt action reason mem
    exact (List.mem_append.mp mem).imp_right List.mem_singleton.mp
  cases tick with
  | withholding receipt rest =>
      rcases inserted mem with old | rfl
      · exact .inl old
      · exact .inr ⟨receipt, rfl, rfl, rfl, rfl, fun _ => rfl, nofun⟩
  | flagging receipt rest =>
      rcases inserted mem with old | rfl
      · exact .inl old
      · exact .inr ⟨receipt, rfl, rfl, rfl, rfl, nofun, nofun⟩
  | ejecting count receipt rest =>
      rcases inserted mem with old | rfl
      · exact .inl old
      · exact .inr ⟨receipt, rfl, rfl, rfl, rfl, nofun, fun _ => rfl⟩
  | _ => exact .inl mem

theorem mem_write {written : Bool} {consequence : B3LiteConsequence}
    (mem : consequence ∈ (if written then tables.carryOut tick else tables).consequences) :
    consequence ∈ tables.consequences ∨
      written = true ∧ ∃ receipt, Punishes tick receipt consequence := by
  cases written with
  | false => exact .inl mem
  | true => exact (mem_carryOut mem).imp_right fun punished => ⟨rfl, punished⟩

/-- Between a list and the next mark the receipts are left alone. -/
theorem receipts_write {auditor : B3LiteAuditor} {stimulus : Stimulus}
    (enabled : auditor.enabled stimulus) (steady : stimulus.event.turns = false) :
    (if stimulus.event.stores then tables.carryOut auditor.tick else tables).receipts =
      tables.receipts := by
  rcases stimulus with ⟨registry, event⟩
  cases event with
  | inserted stored =>
      cases stored with
      | false => rfl
      | true =>
          rcases enabled with ⟨receipt, rest, withholding | flagging | ⟨count, ejecting⟩⟩
          · rw [withholding]; rfl
          · rw [flagging]; rfl
          · rw [ejecting]; rfl
  | marked stored => cases steady
  | _ => rfl

/-- A write of the auditor leaves no receipt pending that it changes. -/
theorem status_carryOut {id : Nat} {row : B3LiteReceipt}
    (found : (tables.carryOut tick).receipts.get? id = some row) :
    row.auditStatus ≠ .pending ∨ tables.receipts.get? id = some row := by
  cases tick with
  | closing reason receipt rest =>
      rcases find_of_mark found with ⟨before, -, rfl⟩ | same
      · exact .inl (by decide : AuditStatus.inconclusive ≠ .pending)
      · exact .inr same
  | marking positions receipt rest =>
      rcases find_of_mark found with ⟨before, -, rfl⟩ | same
      · exact .inl (B3LiteAuditor.verdict_ne_pending positions)
      · exact .inr same
  | _ => exact .inr found

/-- The payments that are withheld. -/
def withheld (tables : Tables) : List B3LiteConsequence :=
  tables.consequences.filter fun consequence => consequence.action = .withholdPay

theorem mem_withheld {consequence : B3LiteConsequence} : consequence ∈ tables.withheld ↔
    consequence ∈ tables.consequences ∧ consequence.action = .withholdPay := by
  simp only [withheld, List.mem_filter, decide_eq_true_eq]

theorem withheld_insert_of_ne {action : ConsequenceAction} {reason : String}
    (other : action ≠ .withholdPay) :
    (tables.insertB3liteConsequence receipt action reason).withheld = tables.withheld := by
  simp [withheld, insertB3liteConsequence, other]

/-- A write of the auditor withholds the payment that is owed, if any. -/
theorem withheld_carryOut :
    ((tables.carryOut tick).withheld.map B3LiteConsequence.receiptId) =
      tables.withheld.map B3LiteConsequence.receiptId ++
        (tick.owed.map B3LiteReceipt.id).toList := by
  cases tick with
  | withholding receipt rest =>
      simp [carryOut, withheld, insertB3liteConsequence, Tick.owed]
  | flagging receipt rest =>
      have other : ConsequenceAction.reputationFlag ≠ .withholdPay := by decide
      rw [carryOut, withheld_insert_of_ne other]
      exact (List.append_nil _).symm
  | ejecting count receipt rest =>
      have other : ConsequenceAction.ejected ≠ .withholdPay := by decide
      rw [carryOut, withheld_insert_of_ne other]
      exact (List.append_nil _).symm
  | _ => exact (List.append_nil _).symm

end Tables

namespace B3Lite

/-- The consequence goes back to a stored receipt that was found divergent. -/
def Backed (b3lite : B3Lite) (consequence : B3LiteConsequence) : Prop :=
  ∃ receipt, b3lite.tables.receipts.get? consequence.receiptId = some receipt ∧
    receipt.minerWallet = consequence.minerWallet ∧
    receipt.requestId = consequence.requestId ∧
    b3lite.auditor.FoundDivergent consequence.receiptId

/-- What holds whatever is lost: the queue is pending, and only what was found
divergent is punished. -/
structure Sound (b3lite : B3Lite) : Prop where
  queued : ∀ receipt ∈ b3lite.auditor.tick.queue,
    b3lite.tables.receipts.get? receipt.id = some receipt ∧ receipt.auditStatus = .pending
  nodup : (b3lite.auditor.tick.queue.map B3LiteReceipt.id).Nodup
  guilty : ∀ receipt, b3lite.auditor.tick.guilty = some receipt →
    b3lite.tables.Stored receipt ∧ b3lite.auditor.FoundDivergent receipt.id
  backed : ∀ consequence ∈ b3lite.tables.consequences, b3lite.Backed consequence

variable {b3lite after : B3Lite} {event : B3LiteEvent}

theorem Backed.keep {consequence : B3LiteConsequence} (backed : b3lite.Backed consequence)
    (keeps : ∀ receipt, b3lite.tables.Stored receipt → after.tables.Stored receipt)
    (grows : b3lite.auditor.log <+: after.auditor.log) : after.Backed consequence := by
  rcases backed with ⟨receipt, found, wallet, request, detail, stored, logged⟩
  have same := b3lite.tables.keyed _ _ found
  rw [← same] at found
  obtain ⟨status, beside, kept⟩ := keeps receipt (.of_get? found)
  rw [same] at kept
  exact ⟨_, kept, wallet, request, detail, stored, grows.subset logged⟩

theorem Sound.of_idle (idle : b3lite.auditor.tick = .idle)
    (backed : ∀ consequence ∈ b3lite.tables.consequences, b3lite.Backed consequence) :
    b3lite.Sound := by
  constructor
  · intro receipt mem
    rw [idle] at mem
    cases mem
  · rw [idle]
    exact List.nodup_nil
  · intro receipt guilty
    rw [idle] at guilty
    cases guilty
  · exact backed

/-- The consequences after a write that the tick was waiting for. -/
theorem Sound.backed_write (sound : b3lite.Sound) (written : Bool)
    (tables : after.tables =
      if written then b3lite.tables.carryOut b3lite.auditor.tick else b3lite.tables)
    (grows : b3lite.auditor.log <+: after.auditor.log) :
    ∀ consequence ∈ after.tables.consequences, after.Backed consequence := by
  have keeps : ∀ receipt, b3lite.tables.Stored receipt → after.tables.Stored receipt := by
    intro receipt stored
    rw [tables]
    exact stored.write written
  intro consequence mem
  rw [tables] at mem
  rcases Tables.mem_write mem with old | ⟨-, receipt, punished⟩
  · exact (sound.backed consequence old).keep keeps grows
  · obtain ⟨stored, detail, kept, logged⟩ := sound.guilty receipt punished.guilty
    obtain ⟨status, beside, found⟩ := keeps receipt stored
    rw [Backed, punished.receiptId]
    exact ⟨_, found, punished.minerWallet.symm, punished.requestId.symm, detail, kept,
      grows.subset logged⟩

/-- What is listed is queued. -/
theorem Sound.next_listed (sound : b3lite.Sound) {registry : MinerRegistry}
    {receipts : Option (List B3LiteReceipt)}
    (enabled : b3lite.enabled (.audit ⟨registry, .listed receipts⟩)) :
    (b3lite.next (.audit ⟨registry, .listed receipts⟩)).Sound := by
  have listing : b3lite.auditor.tick = .listing := enabled.1
  have now : (b3lite.next (.audit ⟨registry, .listed receipts⟩)).auditor =
      b3lite.auditor.goOn (receipts.getD []) := by
    simp only [next, B3LiteAuditor.next, B3LiteAuditor.resumeListing, listing]
  have pending : ∀ receipt ∈ receipts.getD [],
      receipt ∈ b3lite.tables.listPendingB3liteAudits := by
    intro receipt mem
    cases receipts with
    | none => cases mem
    | some receipts => exact enabled.2.mem_iff.mp mem
  have nodup : ((receipts.getD []).map B3LiteReceipt.id).Nodup := by
    cases receipts with
    | none => exact List.nodup_nil
    | some receipts =>
        exact (enabled.2.map B3LiteReceipt.id).nodup_iff.mpr
          Tables.nodup_listPendingB3liteAudits
  constructor
  · intro receipt mem
    rw [now, B3LiteAuditor.queue_goOn] at mem
    have listed := Tables.mem_listPendingB3liteAudits.mp (pending receipt mem)
    exact ⟨listed.1, listed.2.2⟩
  · rw [now, B3LiteAuditor.queue_goOn]
    exact nodup
  · intro receipt guilty
    rw [now, B3LiteAuditor.guilty_goOn] at guilty
    cases guilty
  · exact sound.backed_write false rfl (B3LiteAuditor.log_next enabled.1)

/-- A mark changes the first receipt of the queue only. -/
theorem Sound.next_marked (sound : b3lite.Sound) {registry : MinerRegistry} {stored : Bool}
    (enabled : b3lite.enabled (.audit ⟨registry, .marked stored⟩)) :
    (b3lite.next (.audit ⟨registry, .marked stored⟩)).Sound := by
  obtain ⟨receipt, rest, ends⟩ := B3LiteAuditor.resumeMarked_endsMark enabled.1
  have nodup : ((receipt :: rest).map B3LiteReceipt.id).Nodup := by
    rw [← ends.first]
    exact sound.nodup
  rw [List.map_cons, List.nodup_cons] at nodup
  constructor
  · intro held mem
    have inRest : held ∈ rest := by
      rw [← ends.left]
      exact mem
    have queued := sound.queued held (by
      rw [ends.first]
      exact List.mem_cons_of_mem _ inRest)
    have foreign : held.id ≠ receipt.id := by
      intro same
      apply nodup.1
      rw [← same]
      exact List.mem_map_of_mem inRest
    refine ⟨?_, queued.2⟩
    cases stored with
    | false => exact queued.1
    | true =>
        refine (Tables.get?_carryOut_of_ne ?_).trans queued.1
        intro first head
        rw [ends.first] at head
        cases head
        exact foreign
  · have left : (b3lite.next (.audit ⟨registry, .marked stored⟩)).auditor.tick.queue = rest :=
      ends.left
    rw [left]
    exact nodup.2
  · intro held guilty
    obtain ⟨rfl, found⟩ := ends.guilty held guilty
    have queued := sound.queued held (by
      rw [ends.first]
      exact List.mem_cons_self)
    have before : b3lite.tables.Stored held := .of_get? queued.1
    exact ⟨before.write stored, found⟩
  · exact sound.backed_write stored rfl (B3LiteAuditor.log_next enabled.1)

theorem Sound.next_audit (sound : b3lite.Sound) {stimulus : Stimulus}
    (enabled : b3lite.enabled (.audit stimulus)) (steady : stimulus.event.turns = false) :
    (b3lite.next (.audit stimulus)).Sound := by
  have keeps := B3LiteAuditor.next_keepsWork enabled.1 steady
  have receipts : (b3lite.next (.audit stimulus)).tables.receipts = b3lite.tables.receipts :=
    Tables.receipts_write enabled.1 steady
  constructor
  · intro receipt mem
    rw [receipts]
    exact sound.queued receipt (keeps.queue ▸ mem)
  · have queue : (b3lite.next (.audit stimulus)).auditor.tick.queue = b3lite.auditor.tick.queue :=
      keeps.queue
    rw [queue]
    exact sound.nodup
  · intro receipt guilty
    obtain ⟨stored, found⟩ := sound.guilty receipt (keeps.guilty receipt guilty)
    exact ⟨stored.write stimulus.event.stores, found.next enabled.1⟩
  · exact sound.backed_write stimulus.event.stores rfl (B3LiteAuditor.log_next enabled.1)

theorem Sound.next_record (sound : b3lite.Sound) {id : Nat} {receipt : NewReceipt}
    (enabled : b3lite.enabled (.record id receipt)) :
    (b3lite.next (.record id receipt)).Sound := by
  have fresh : b3lite.tables.receipts.get? id = none := enabled
  constructor
  · intro held mem
    obtain ⟨found, pending⟩ := sound.queued held mem
    have ne : held.id ≠ id := by
      rintro rfl
      rw [fresh] at found
      cases found
    exact ⟨(Tables.get?_createB3liteReceipt_of_ne ne).trans found, pending⟩
  · exact sound.nodup
  · intro held guilty
    obtain ⟨stored, found⟩ := sound.guilty held guilty
    exact ⟨stored.create fresh, found⟩
  · intro consequence mem
    exact (sound.backed consequence mem).keep (fun _ stored => stored.create fresh)
      (List.prefix_refl _)

/-- Every event keeps the tables sound. -/
theorem Sound.next (sound : b3lite.Sound) (enabled : b3lite.enabled event) :
    (b3lite.next event).Sound := by
  cases event with
  | record id receipt => exact sound.next_record enabled
  | audit stimulus =>
      cases turns : stimulus.event.turns with
      | false => exact sound.next_audit enabled turns
      | true =>
          rcases stimulus with ⟨registry, event⟩
          cases event with
          | listed receipts => exact sound.next_listed enabled
          | marked stored => exact sound.next_marked enabled
          | _ => cases turns
  | restart written trustedWallets =>
      exact .of_idle rfl (sound.backed_write written rfl (List.prefix_refl _))

/-! ## One withheld payment for each receipt -/

/-- The condition on a step: it withholds a payment only when the receipt is no
longer pending. -/
def MarkedFirst (b3lite : B3Lite) (event : B3LiteEvent) : Prop :=
  event.stores = true → ∀ receipt, b3lite.auditor.tick.owed = some receipt →
    ∀ row, b3lite.tables.receipts.get? receipt.id = some row → row.auditStatus ≠ .pending

/-- A receipt stays stored. -/
theorem stored_next {receipt : B3LiteReceipt} (stored : b3lite.tables.Stored receipt)
    (enabled : b3lite.enabled event) : (b3lite.next event).tables.Stored receipt := by
  cases event with
  | record id new => exact stored.create enabled
  | audit stimulus => exact stored.write stimulus.event.stores
  | restart written trustedWallets => exact stored.write written

/-- A divergence that was found stays found. -/
theorem foundDivergent_next {id : Nat} (found : b3lite.auditor.FoundDivergent id)
    (enabled : b3lite.enabled event) : (b3lite.next event).auditor.FoundDivergent id := by
  cases event with
  | record id new => exact found
  | audit stimulus => exact found.next enabled.1
  | restart written trustedWallets => exact found

/-- No receipt is pending and withheld, or withheld twice. -/
structure Settled (b3lite : B3Lite) : Prop where
  marked : ∀ consequence ∈ b3lite.tables.withheld,
    ∀ row, b3lite.tables.receipts.get? consequence.receiptId = some row →
      row.auditStatus ≠ .pending
  once : (b3lite.tables.withheld.map B3LiteConsequence.receiptId).Nodup
  owed : ∀ receipt, b3lite.auditor.tick.owed = some receipt →
    receipt.id ∉ b3lite.tables.withheld.map B3LiteConsequence.receiptId

theorem Settled.of_idle (idle : b3lite.auditor.tick = .idle)
    (marked : ∀ consequence ∈ b3lite.tables.withheld,
      ∀ row, b3lite.tables.receipts.get? consequence.receiptId = some row →
        row.auditStatus ≠ .pending)
    (once : (b3lite.tables.withheld.map B3LiteConsequence.receiptId).Nodup) :
    b3lite.Settled := by
  refine ⟨marked, once, ?_⟩
  intro receipt owed
  rw [idle] at owed
  cases owed

/-- A write that the tick was waiting for withholds no receipt again. -/
theorem Settled.write (settled : b3lite.Settled)
    (marked : ∀ receipt, b3lite.auditor.tick.owed = some receipt →
      ∀ row, b3lite.tables.receipts.get? receipt.id = some row → row.auditStatus ≠ .pending) :
    (∀ consequence ∈ (b3lite.tables.carryOut b3lite.auditor.tick).withheld,
      ∀ row, (b3lite.tables.carryOut b3lite.auditor.tick).receipts.get?
          consequence.receiptId = some row → row.auditStatus ≠ .pending) ∧
      ((b3lite.tables.carryOut b3lite.auditor.tick).withheld.map
        B3LiteConsequence.receiptId).Nodup := by
  constructor
  · intro consequence mem row found
    rcases Tables.status_carryOut found with other | same
    · exact other
    · have listed := List.mem_map_of_mem (f := B3LiteConsequence.receiptId) mem
      rw [Tables.withheld_carryOut, List.mem_append] at listed
      rcases listed with old | owed
      · obtain ⟨earlier, mem, id⟩ := List.mem_map.mp old
        rw [← id] at same
        exact settled.marked earlier mem row same
      · rw [Option.mem_toList, Option.map_eq_some_iff] at owed
        rcases owed with ⟨receipt, owed, id⟩
        rw [← id] at same
        exact marked receipt owed row same
  · rw [Tables.withheld_carryOut]
    cases owed : b3lite.auditor.tick.owed with
    | none =>
        rw [Option.map_none, Option.toList_none, List.append_nil]
        exact settled.once
    | some receipt =>
        rw [Option.map_some, Option.toList_some, ← List.concat_eq_append]
        exact List.Nodup.concat (settled.owed receipt owed) settled.once


theorem Settled.next_audit (settled : b3lite.Settled) {stimulus : Stimulus}
    (enabled : b3lite.enabled (.audit stimulus)) (steady : stimulus.event.turns = false)
    (guard : b3lite.MarkedFirst (.audit stimulus)) : (b3lite.next (.audit stimulus)).Settled := by
  have keeps := B3LiteAuditor.next_keepsWork enabled.1 steady
  cases stores : stimulus.event.stores with
  | false =>
      have same : (b3lite.next (.audit stimulus)).tables = b3lite.tables := by
        simp only [B3Lite.next, stores]
        rfl
      constructor
      · rw [same]
        exact settled.marked
      · rw [same]
        exact settled.once
      · intro receipt owed
        rw [same]
        exact settled.owed receipt (keeps.owed receipt owed)
  | true =>
      have written : (b3lite.next (.audit stimulus)).tables =
          b3lite.tables.carryOut b3lite.auditor.tick := by
        simp only [B3Lite.next, stores, if_true]
      have now := settled.write (guard stores)
      constructor
      · rw [written]
        exact now.1
      · rw [written]
        exact now.2
      · intro receipt owed
        have none : (b3lite.next (.audit stimulus)).auditor.tick.owed = none :=
          B3LiteAuditor.owed_next_of_stores enabled.1 steady stores
        rw [none] at owed
        cases owed

/-- A receipt that is owed anew was pending until now. -/
theorem Settled.next_marked (settled : b3lite.Settled) (sound : b3lite.Sound)
    {registry : MinerRegistry} {stored : Bool}
    (enabled : b3lite.enabled (.audit ⟨registry, .marked stored⟩)) :
    (b3lite.next (.audit ⟨registry, .marked stored⟩)).Settled := by
  obtain ⟨receipt, rest, ends⟩ := B3LiteAuditor.resumeMarked_endsMark enabled.1
  have unowed : ∀ receipt, b3lite.auditor.tick.owed ≠ some receipt := by
    intro held owed
    have guilty := Tick.guilty_of_owed owed
    rw [ends.innocent] at guilty
    cases guilty
  have now := settled.write fun held owed => absurd owed (unowed held)
  have kept : (b3lite.next (.audit ⟨registry, .marked stored⟩)).tables.withheld.map
      B3LiteConsequence.receiptId = b3lite.tables.withheld.map B3LiteConsequence.receiptId := by
    cases stored with
    | false => rfl
    | true =>
        refine Tables.withheld_carryOut.trans ?_
        rw [Option.eq_none_iff_forall_ne_some.mpr unowed]
        exact List.append_nil _
  constructor
  · cases stored with
    | false => exact settled.marked
    | true => exact now.1
  · rw [kept]
    exact settled.once
  · intro held owed mem
    obtain ⟨rfl, -⟩ := ends.guilty held (Tick.guilty_of_owed owed)
    rw [kept] at mem
    obtain ⟨consequence, mem, same⟩ := List.mem_map.mp mem
    have queued := sound.queued held (by
      rw [ends.first]
      exact List.mem_cons_self)
    have found := queued.1
    rw [← same] at found
    exact settled.marked consequence mem held found queued.2

/-- Steps that mark first keep the tables settled. -/
theorem Settled.next (settled : b3lite.Settled) (sound : b3lite.Sound)
    (enabled : b3lite.enabled event) (guard : b3lite.MarkedFirst event) :
    (b3lite.next event).Settled := by
  cases event with
  | record id receipt =>
      have fresh : b3lite.tables.receipts.get? id = none := enabled
      refine ⟨?_, settled.once, settled.owed⟩
      intro consequence mem row found
      have ne : consequence.receiptId ≠ id := by
        obtain ⟨held, stands, -⟩ := sound.backed consequence (Tables.mem_withheld.mp mem).1
        rintro rfl
        rw [fresh] at stands
        cases stands
      apply settled.marked consequence mem
      rw [← found]
      exact (Tables.get?_createB3liteReceipt_of_ne ne).symm
  | audit stimulus =>
      cases turns : stimulus.event.turns with
      | false => exact settled.next_audit enabled turns guard
      | true =>
          rcases stimulus with ⟨registry, event⟩
          cases event with
          | listed receipts =>
              have listing : b3lite.auditor.tick = .listing := enabled.1
              refine ⟨settled.marked, settled.once, ?_⟩
              intro receipt owed
              simp only [B3Lite.next, B3LiteAuditor.next, B3LiteAuditor.resumeListing, listing,
                B3LiteAuditor.owed_goOn] at owed
              cases owed
          | marked stored => exact settled.next_marked sound enabled
          | _ => cases turns
  | restart written trustedWallets =>
      cases written with
      | false => exact .of_idle rfl settled.marked settled.once
      | true =>
          have now := settled.write (guard rfl)
          exact .of_idle rfl now.1 now.2

end B3Lite

end StratumBridge.Audit
