import Mathlib.Data.Set.Card
import StratumBridge.Bridge.Ejections

/-!
# Sentences

What the auditor does to a wallet as long as nothing goes wrong: no write and no count
is lost, and the process stops only between two convictions and restores the bans.
Then every divergent receipt costs its wallet one payment, no other receipt does, and
the wallets that are banned are those with three divergent receipts.
-/

namespace StratumBridge.Audit

open Data Wire Transition

/-! ## How far a conviction is carried out -/

/-- What has become of the conviction that a tick is working on. -/
inductive Stage
  | clear
  | owing (receipt : B3LiteReceipt)
  | withheld (receipt : B3LiteReceipt)
  | ejecting (receipt : B3LiteReceipt)

/-- The stage of a tick. -/
def Tick.stage : Tick → Stage
  | withholding receipt _ => .owing receipt
  | flagging receipt _ => .withheld receipt
  | counting receipt _ => .withheld receipt
  | ejecting _ receipt _ => .ejecting receipt
  | _ => .clear

/-- The payment for the receipt is still to be withheld. -/
def Stage.Owes (id : Nat) : Stage → Prop
  | owing receipt => receipt.id = id
  | _ => False

/-- The receipt is still to be counted. -/
def Stage.Uncounted (id : Nat) : Stage → Prop
  | owing receipt => receipt.id = id
  | withheld receipt => receipt.id = id
  | _ => False

/-- The wallet is banned, and this is still to be stored. -/
def Stage.Ejects (wallet : Wallet) : Stage → Prop
  | ejecting receipt => receipt.minerWallet = wallet
  | _ => False

theorem Tick.stage_eq_clear {tick : Tick} (innocent : tick.guilty = none) :
    tick.stage = .clear := by
  cases tick with
  | withholding receipt rest => cases innocent
  | flagging receipt rest => cases innocent
  | counting receipt rest => cases innocent
  | ejecting count receipt rest => cases innocent
  | _ => rfl

/-- A receipt of the wallet was found divergent. -/
def Tables.Divergent (tables : Tables) (wallet : Wallet) (id : Nat) : Prop :=
  ∃ receipt, tables.receipts.get? id = some receipt ∧ receipt.minerWallet = wallet ∧
    receipt.auditStatus = .divergent

/-- The receipts whose payment is withheld. -/
def Tables.withheldIds (tables : Tables) : List Nat :=
  tables.withheld.map B3LiteConsequence.receiptId

namespace B3LiteAuditor

variable {auditor : B3LiteAuditor}

@[simp]
theorem stage_goOn (rest : List B3LiteReceipt) : (auditor.goOn rest).tick.stage = .clear :=
  Tick.stage_eq_clear (guilty_goOn rest)

/-- The events that change a table or are about a conviction. -/
def decides : Event → Bool
  | .marked _ => true
  | .inserted _ => true
  | .counted _ => true
  | _ => false

/-- Any other event leaves the conviction where it is. -/
theorem stage_next {stimulus : Stimulus} (enabled : auditor.enabled stimulus)
    (quiet : decides stimulus.event = false) :
    (auditor.next stimulus).tick.stage = auditor.tick.stage := by
  have clear (steady : stimulus.event.turns = false) (innocent : auditor.tick.guilty = none) :
      (auditor.next stimulus).tick.stage = auditor.tick.stage := by
    have after : (auditor.next stimulus).tick.guilty = none := by
      rw [Option.eq_none_iff_forall_ne_some]
      intro receipt guilty
      have before := (next_keepsWork enabled steady).guilty receipt guilty
      rw [innocent] at before
      cases before
    rw [Tick.stage_eq_clear after, Tick.stage_eq_clear innocent]
  rcases stimulus with ⟨found, event⟩
  cases event with
  | tickBegin =>
      have idle : auditor.tick = .idle := enabled
      exact clear rfl (by rw [idle]; rfl)
  | listed receipts =>
      have listing : auditor.tick = .listing := enabled
      simp only [next, resumeListing, listing, stage_goOn]
      rfl
  | resolved source isOpen =>
      obtain ⟨receipt, rest, resolving⟩ := enabled
      exact clear rfl (by rw [resolving]; rfl)
  | woken =>
      obtain ⟨waiter, replay, rest, waiting⟩ := enabled
      exact clear rfl (by rw [waiting]; rfl)
  | replayed answer =>
      obtain ⟨receipt, rest, replaying⟩ := enabled
      exact clear rfl (by rw [replaying]; rfl)
  | marked stored => cases quiet
  | inserted stored => cases quiet
  | counted count => cases quiet
  | auditResult wallet result => exact congrArg Tick.stage (tick_handleAuditResult wallet result)
  | disconnect wallet => rfl

end B3LiteAuditor

namespace Tables

variable {tables : Tables} {receipt : B3LiteReceipt} {wallet : Wallet} {id : Nat}

theorem Divergent.owner (divergent : tables.Divergent receipt.minerWallet receipt.id)
    (other : tables.Divergent wallet receipt.id) : receipt.minerWallet = wallet := by
  obtain ⟨row, found, owner, -⟩ := divergent
  obtain ⟨same, again, ownedBy, -⟩ := other
  rw [found] at again
  cases again
  exact owner.symm.trans ownedBy

/-- A mark on a pending receipt convicts it or nobody. -/
theorem divergent_mark {status : AuditStatus} {detail : AuditDetail}
    (found : tables.receipts.get? receipt.id = some receipt)
    (pending : receipt.auditStatus = .pending) :
    (tables.markB3liteAuditResult receipt.id status detail).Divergent wallet id ↔
      tables.Divergent wallet id ∨
        status = .divergent ∧ receipt.id = id ∧ receipt.minerWallet = wallet := by
  by_cases same : id = receipt.id
  · subst same
    rw [Divergent, Divergent, get?_markB3liteAuditResult, found, Option.map_some, if_pos rfl]
    constructor
    · rintro ⟨row, ⟨⟩, owner, divergent⟩
      exact .inr ⟨divergent, rfl, owner⟩
    · rintro (⟨row, ⟨⟩, owner, divergent⟩ | ⟨divergent, -, owner⟩)
      · rw [pending] at divergent
        cases divergent
      · exact ⟨_, rfl, owner, divergent⟩
  · rw [Divergent, Divergent, get?_markB3liteAuditResult_of_ne same]
    constructor
    · exact .inl
    · rintro (before | ⟨-, own, -⟩)
      · exact before
      · exact absurd own.symm same

/-- A new receipt is not convicted. -/
theorem divergent_create {new : NewReceipt} {fresh : Nat}
    (absent : tables.receipts.get? fresh = none) :
    (tables.createB3liteReceipt fresh new).Divergent wallet id ↔ tables.Divergent wallet id := by
  by_cases same : id = fresh
  · subst same
    have row : (tables.createB3liteReceipt id new).receipts.get? id = some (new.row id) :=
      IndexMap.get?_insert_self ..
    rw [Divergent, Divergent, row, absent]
    constructor
    · rintro ⟨held, ⟨⟩, -, divergent⟩
      simp only [NewReceipt.row] at divergent
      split at divergent
      · cases divergent
      · cases divergent
    · rintro ⟨held, ⟨⟩, -⟩
  · rw [Divergent, Divergent, get?_createB3liteReceipt_of_ne same]

theorem mem_listEjectedWallets : wallet ∈ tables.listEjectedWallets ↔
    ∃ consequence ∈ tables.consequences,
      consequence.minerWallet = wallet ∧ consequence.action = .ejected := by
  rw [listEjectedWallets, List.mem_dedup, List.mem_map]
  constructor
  · rintro ⟨consequence, listed, owner⟩
    obtain ⟨mem, ejected⟩ := List.mem_filter.mp listed
    exact ⟨consequence, mem, owner, decide_eq_true_eq.mp ejected⟩
  · rintro ⟨consequence, mem, owner, ejected⟩
    exact ⟨consequence, List.mem_filter.mpr ⟨mem, decide_eq_true_eq.mpr ejected⟩, owner⟩

/-- One more consequence ejects its wallet or nobody. -/
theorem mem_listEjectedWallets_insert {action : ConsequenceAction} {reason : String} :
    wallet ∈ (tables.insertB3liteConsequence receipt action reason).listEjectedWallets ↔
      wallet ∈ tables.listEjectedWallets ∨
        action = .ejected ∧ receipt.minerWallet = wallet := by
  rw [mem_listEjectedWallets, mem_listEjectedWallets]
  simp only [insertB3liteConsequence, List.mem_append, List.mem_singleton]
  constructor
  · rintro ⟨consequence, old | rfl, owner, ejected⟩
    · exact .inl ⟨consequence, old, owner, ejected⟩
    · exact .inr ⟨ejected, owner⟩
  · rintro (⟨consequence, old, owner, ejected⟩ | ⟨ejected, owner⟩)
    · exact ⟨consequence, .inl old, owner, ejected⟩
    · exact ⟨_, .inr rfl, owner, ejected⟩

end Tables

namespace B3Lite

variable {b3lite : B3Lite} {wallet : Wallet} {id : Nat}

/-- Each divergent receipt costs one payment, except the one that is under way. -/
structure Withholds (b3lite : B3Lite) : Prop where
  once : b3lite.tables.withheldIds.Nodup
  mem_iff : ∀ id, id ∈ b3lite.tables.withheldIds ↔
    (∃ wallet, b3lite.tables.Divergent wallet id) ∧ ¬ b3lite.auditor.tick.stage.Owes id

/-- The withheld payments of a wallet are those for its divergent receipts. -/
theorem Withholds.mem_withheldFrom_iff (withholds : b3lite.Withholds) (sound : b3lite.Sound)
    (unowed : ∀ id, ¬ b3lite.auditor.tick.stage.Owes id) :
    id ∈ (b3lite.tables.withheldFrom wallet).map B3LiteConsequence.receiptId ↔
      b3lite.tables.Divergent wallet id := by
  have owned : ∀ consequence ∈ b3lite.tables.withheld, ∀ owner,
      b3lite.tables.Divergent owner consequence.receiptId → owner = consequence.minerWallet := by
    rintro consequence mem owner ⟨row, found, ownedBy, -⟩
    obtain ⟨same, again, backedBy, -⟩ := sound.backed consequence (Tables.mem_withheld.mp mem).1
    rw [found] at again
    cases again
    exact ownedBy.symm.trans backedBy
  rw [List.mem_map]
  constructor
  · rintro ⟨consequence, listed, rfl⟩
    obtain ⟨row, mine⟩ := List.mem_filter.mp listed
    obtain ⟨own, withheld⟩ := decide_eq_true_eq.mp mine
    have mem := Tables.mem_withheld.mpr ⟨row, withheld⟩
    obtain ⟨⟨owner, divergent⟩, -⟩ := (withholds.mem_iff _).mp (List.mem_map_of_mem mem)
    have same := (owned consequence mem owner divergent).trans own
    rwa [same] at divergent
  · intro divergent
    obtain ⟨consequence, mem, rfl⟩ :=
      List.mem_map.mp ((withholds.mem_iff id).mpr ⟨⟨wallet, divergent⟩, unowed id⟩)
    obtain ⟨row, withheld⟩ := Tables.mem_withheld.mp mem
    have own := (owned consequence mem wallet divergent).symm
    exact ⟨consequence, List.mem_filter.mpr ⟨row, decide_eq_true_eq.mpr ⟨own, withheld⟩⟩, rfl⟩

/-- What the auditor counts are the divergent receipts. -/
theorem Withholds.count_eq (withholds : b3lite.Withholds) (sound : b3lite.Sound)
    (unowed : ∀ id, ¬ b3lite.auditor.tick.stage.Owes id) :
    {id | b3lite.tables.Divergent wallet id}.encard =
      (b3lite.tables.withheldFrom wallet).length := by
  have sublist : (b3lite.tables.withheldFrom wallet).Sublist b3lite.tables.withheld := by
    have split : b3lite.tables.withheldFrom wallet = b3lite.tables.withheld.filter
        fun consequence => consequence.minerWallet = wallet := by
      simp only [Tables.withheldFrom, Tables.withheld, List.filter_filter, Bool.decide_and]
    rw [split]
    exact List.filter_sublist
  have nodup : ((b3lite.tables.withheldFrom wallet).map B3LiteConsequence.receiptId).Nodup :=
    withholds.once.sublist (sublist.map _)
  have listed : {id | b3lite.tables.Divergent wallet id} =
      ((b3lite.tables.withheldFrom wallet).map B3LiteConsequence.receiptId).toFinset := by
    ext id
    rw [List.coe_toFinset]
    exact (withholds.mem_withheldFrom_iff sound unowed).symm
  rw [listed, Set.encard_coe_eq_coe_finsetCard, List.toFinset_card_of_nodup nodup, List.length_map]

end B3Lite

end StratumBridge.Audit

namespace StratumBridge.Bridge

open Data Wire Transition Audit

namespace Office

/-- The condition on a step: a write and a count succeed, and the process stops only
between two convictions, with no write under way, and restores the bans. -/
def Reliable (office : Office) : OfficeEvent → Prop
  | .audit (.marked stored) => stored = true
  | .audit (.inserted stored) => stored = true
  | .audit (.counted count) => count ≠ none
  | .restart written _ restored =>
      written = false ∧ restored = true ∧ office.b3lite.auditor.tick.stage = .clear
  | _ => True

/-- The invariant: who is banned has three receipts that are divergent and counted, and
is ejected in the tables as well, unless this is under way. -/
structure Balanced (office : Office) : Prop where
  sound : office.b3lite.Sound
  guilty : ∀ receipt, office.b3lite.auditor.tick.guilty = some receipt →
    office.b3lite.tables.Divergent receipt.minerWallet receipt.id
  withholds : office.b3lite.Withholds
  banned : ∀ wallet, wallet ∈ office.registry.banned ↔
    3 ≤ {id | office.b3lite.tables.Divergent wallet id ∧
      ¬ office.b3lite.auditor.tick.stage.Uncounted id}.encard
  ejected : ∀ wallet, wallet ∈ office.registry.banned ↔
    wallet ∈ office.b3lite.tables.listEjectedWallets ∨
      office.b3lite.auditor.tick.stage.Ejects wallet

variable {office after : Office} {event : OfficeEvent} {wallet : Wallet}

/-- A step that convicts and punishes nobody. -/
theorem Balanced.of_same (balanced : office.Balanced) (sound : after.b3lite.Sound)
    (divergent : ∀ wallet id, after.b3lite.tables.Divergent wallet id ↔
      office.b3lite.tables.Divergent wallet id)
    (guilty : ∀ receipt, after.b3lite.auditor.tick.guilty = some receipt →
      office.b3lite.auditor.tick.guilty = some receipt)
    (withheld : after.b3lite.tables.withheldIds = office.b3lite.tables.withheldIds)
    (ejected : ∀ wallet, wallet ∈ after.b3lite.tables.listEjectedWallets ↔
      wallet ∈ office.b3lite.tables.listEjectedWallets)
    (stage : after.b3lite.auditor.tick.stage = office.b3lite.auditor.tick.stage)
    (banned : after.registry.banned = office.registry.banned) : after.Balanced where
  sound := sound
  guilty receipt held := (divergent _ _).mpr (balanced.guilty receipt (guilty receipt held))
  withholds := by
    constructor
    · rw [withheld]
      exact balanced.withholds.once
    · intro id
      simp only [withheld, divergent, stage, balanced.withholds.mem_iff]
  banned wallet := by simp only [banned, divergent, stage, balanced.banned]
  ejected wallet := by rw [banned, balanced.ejected, ejected, stage]

/-- The receipt that is being marked stands in the table as it was listed. -/
theorem Balanced.queued (balanced : office.Balanced) {receipt : B3LiteReceipt}
    {rest : List B3LiteReceipt}
    (first : office.b3lite.auditor.tick.queue = receipt :: rest) :
    office.b3lite.tables.receipts.get? receipt.id = some receipt ∧
      receipt.auditStatus = .pending := by
  apply balanced.sound.queued
  rw [first]
  exact List.mem_cons_self

/-- A receipt is marked and nobody is convicted. -/
theorem Balanced.acquits (balanced : office.Balanced) (sound : after.b3lite.Sound)
    {receipt : B3LiteReceipt} {rest : List B3LiteReceipt} {status : AuditStatus}
    {detail : AuditDetail} (first : office.b3lite.auditor.tick.queue = receipt :: rest)
    (before : office.b3lite.auditor.tick.guilty = none) (innocent : status ≠ .divergent)
    (tables : after.b3lite.tables =
      office.b3lite.tables.markB3liteAuditResult receipt.id status detail)
    (tick : after.b3lite.auditor.tick.guilty = none)
    (registry : after.registry = office.registry) : after.Balanced := by
  have queued := balanced.queued first
  apply balanced.of_same sound
  · intro wallet id
    rw [tables, Tables.divergent_mark queued.1 queued.2]
    exact or_iff_left fun convicted => innocent convicted.1
  · intro held guilty
    rw [tick] at guilty
    cases guilty
  · rw [tables]
    rfl
  · intro wallet
    rw [tables]
    rfl
  · rw [Tick.stage_eq_clear before, Tick.stage_eq_clear tick]
  · rw [registry]

/-- A receipt is marked and convicted; its payment is owed, and it does not count yet. -/
theorem Balanced.convicts (balanced : office.Balanced) (sound : after.b3lite.Sound)
    {receipt : B3LiteReceipt} {rest : List B3LiteReceipt} {detail : AuditDetail}
    (first : office.b3lite.auditor.tick.queue = receipt :: rest)
    (before : office.b3lite.auditor.tick.guilty = none)
    (tables : after.b3lite.tables =
      office.b3lite.tables.markB3liteAuditResult receipt.id .divergent detail)
    (tick : after.b3lite.auditor.tick = .withholding receipt rest)
    (registry : after.registry = office.registry) : after.Balanced := by
  have queued := balanced.queued first
  have clear := Tick.stage_eq_clear before
  have stage : after.b3lite.auditor.tick.stage = .owing receipt := by rw [tick]; rfl
  have convicted (wallet : Wallet) (id : Nat) : after.b3lite.tables.Divergent wallet id ↔
      office.b3lite.tables.Divergent wallet id ∨
        receipt.id = id ∧ receipt.minerWallet = wallet := by
    rw [tables, Tables.divergent_mark queued.1 queued.2]
    exact or_congr_right (and_iff_right rfl)
  have unconvicted (wallet : Wallet) : ¬ office.b3lite.tables.Divergent wallet receipt.id := by
    rintro ⟨row, found, -, divergent⟩
    rw [queued.1] at found
    cases found
    rw [queued.2] at divergent
    cases divergent
  -- of what is divergent now, the rest was so before
  have others (wallet : Wallet) (id : Nat) :
      (after.b3lite.tables.Divergent wallet id ∧ ¬ receipt.id = id) ↔
        office.b3lite.tables.Divergent wallet id := by
    rw [convicted]
    constructor
    · rintro ⟨old | ⟨same, -⟩, ne⟩
      · exact old
      · exact absurd same ne
    · intro old
      refine ⟨.inl old, ?_⟩
      rintro rfl
      exact unconvicted wallet old
  constructor
  · exact sound
  · intro held guilty
    rw [tick] at guilty
    cases guilty
    exact (convicted _ _).mpr (.inr ⟨rfl, rfl⟩)
  · have same : after.b3lite.tables.withheldIds = office.b3lite.tables.withheldIds := by
      rw [tables]
      rfl
    constructor
    · rw [same]
      exact balanced.withholds.once
    · intro id
      rw [same, balanced.withholds.mem_iff, clear, stage]
      constructor
      · rintro ⟨⟨wallet, divergent⟩, -⟩
        obtain ⟨now, ne⟩ := (others wallet id).mpr divergent
        exact ⟨⟨wallet, now⟩, ne⟩
      · rintro ⟨⟨wallet, divergent⟩, ne⟩
        exact ⟨⟨wallet, (others wallet id).mp ⟨divergent, ne⟩⟩, not_false⟩
  · intro wallet
    have counted : {id | after.b3lite.tables.Divergent wallet id ∧ ¬ receipt.id = id} =
        {id | office.b3lite.tables.Divergent wallet id ∧ ¬ False} := by
      ext id
      exact (others wallet id).trans (and_iff_left not_false).symm
    rw [registry, balanced.banned, clear, stage]
    exact iff_of_eq (congrArg (3 ≤ Set.encard ·) counted.symm)
  · intro wallet
    rw [registry, balanced.ejected, clear, stage, tables]
    rfl

/-- A mark convicts its receipt or nobody. -/
theorem Balanced.marked (balanced : office.Balanced)
    (enabled : office.enabled (.audit (.marked true))) :
    (office.next (.audit (.marked true))).Balanced := by
  have offered : office.b3lite.enabled (.audit ⟨office.registry, .marked true⟩) := enabled
  have sound := balanced.sound.next offered
  obtain ⟨receipt, rest, ⟨reason, closing⟩ | ⟨positions, marking⟩⟩ := offered.1
  · have first : office.b3lite.auditor.tick.queue = receipt :: rest := by rw [closing]; rfl
    have before : office.b3lite.auditor.tick.guilty = none := by rw [closing]; rfl
    apply balanced.acquits sound first before (by decide : AuditStatus.inconclusive ≠ .divergent)
    · simp only [next, OfficeEvent.b3lite, B3Lite.next, Event.stores, if_true, closing]
      rfl
    · simp only [next, OfficeEvent.b3lite, B3Lite.next, B3LiteAuditor.next,
        B3LiteAuditor.resumeMarked, closing, B3LiteAuditor.guilty_goOn]
    · rfl
  · have first : office.b3lite.auditor.tick.queue = receipt :: rest := by rw [marking]; rfl
    have before : office.b3lite.auditor.tick.guilty = none := by rw [marking]; rfl
    have tables : (office.next (.audit (.marked true))).b3lite.tables =
        office.b3lite.tables.markB3liteAuditResult receipt.id (B3LiteAuditor.verdict positions)
          (.positions positions) := by
      simp only [next, OfficeEvent.b3lite, B3Lite.next, Event.stores, if_true, marking]
      rfl
    by_cases admissible : allAdmissible positions = true
    · have verdict : B3LiteAuditor.verdict positions = .admissible := if_pos admissible
      rw [verdict] at tables
      apply balanced.acquits sound first before (by decide : AuditStatus.admissible ≠ .divergent)
        tables
      · simp only [next, OfficeEvent.b3lite, B3Lite.next, B3LiteAuditor.next,
          B3LiteAuditor.resumeMarked, marking, admissible, if_true, B3LiteAuditor.guilty_goOn]
      · rfl
    · have verdict : B3LiteAuditor.verdict positions = .divergent := if_neg admissible
      rw [verdict] at tables
      apply balanced.convicts sound first before tables
      · simp only [next, OfficeEvent.b3lite, B3Lite.next, B3LiteAuditor.next,
          B3LiteAuditor.resumeMarked, marking, admissible, Bool.false_eq_true, if_false]
      · rfl

/-- The payment that is owed is withheld. -/
theorem Balanced.withholding (balanced : office.Balanced) (sound : after.b3lite.Sound)
    {receipt : B3LiteReceipt} {rest : List B3LiteReceipt} {reason : String}
    (before : office.b3lite.auditor.tick = .withholding receipt rest)
    (tables : after.b3lite.tables =
      office.b3lite.tables.insertB3liteConsequence receipt .withholdPay reason)
    (tick : after.b3lite.auditor.tick = .flagging receipt rest)
    (registry : after.registry = office.registry) : after.Balanced := by
  have owing : office.b3lite.auditor.tick.stage = .owing receipt := by rw [before]; rfl
  have stage : after.b3lite.auditor.tick.stage = .withheld receipt := by rw [tick]; rfl
  have convicted := balanced.guilty receipt (by rw [before]; rfl)
  have divergent (wallet : Wallet) (id : Nat) : after.b3lite.tables.Divergent wallet id ↔
      office.b3lite.tables.Divergent wallet id := by
    rw [tables]
    rfl
  have ids : after.b3lite.tables.withheldIds =
      office.b3lite.tables.withheldIds ++ [receipt.id] := by
    rw [tables]
    simp [Tables.withheldIds, Tables.withheld, Tables.insertB3liteConsequence]
  have mem_iff := balanced.withholds.mem_iff
  rw [owing] at mem_iff
  have unpaid : receipt.id ∉ office.b3lite.tables.withheldIds :=
    fun mem => ((mem_iff receipt.id).mp mem).2 rfl
  constructor
  · exact sound
  · intro held guilty
    rw [tick] at guilty
    cases guilty
    exact (divergent _ _).mpr convicted
  · constructor
    · rw [ids, ← List.concat_eq_append]
      exact balanced.withholds.once.concat unpaid
    · intro id
      rw [ids, List.mem_append, List.mem_singleton, mem_iff, stage]
      simp only [divergent]
      constructor
      · rintro (⟨old, -⟩ | rfl)
        · exact ⟨old, not_false⟩
        · exact ⟨⟨_, convicted⟩, not_false⟩
      · rintro ⟨found, -⟩
        by_cases same : receipt.id = id
        · exact .inr same.symm
        · exact .inl ⟨found, same⟩
  · intro wallet
    rw [registry, balanced.banned, owing, stage]
    simp only [divergent]
    rfl
  · intro wallet
    rw [registry, balanced.ejected, owing, stage, tables, Tables.mem_listEjectedWallets_insert]
    simp only [reduceCtorEq, false_and, or_false]
    rfl

/-- A consequence is stored: the payment that is owed, a flag, or the ejection of the
wallet that is banned already. -/
theorem Balanced.inserted (balanced : office.Balanced)
    (enabled : office.enabled (.audit (.inserted true))) :
    (office.next (.audit (.inserted true))).Balanced := by
  have offered : office.b3lite.enabled (.audit ⟨office.registry, .inserted true⟩) := enabled
  have sound := balanced.sound.next offered
  obtain ⟨receipt, rest, withholding | flagging | ⟨count, ejecting⟩⟩ := offered.1
  · apply balanced.withholding sound withholding
    · simp only [next, OfficeEvent.b3lite, B3Lite.next, Event.stores, if_true, withholding]
      rfl
    · simp only [next, OfficeEvent.b3lite, B3Lite.next, B3LiteAuditor.next,
        B3LiteAuditor.resumeInserted, withholding]
    · rfl
  · have tables : (office.next (.audit (.inserted true))).b3lite.tables =
        office.b3lite.tables.insertB3liteConsequence receipt .reputationFlag
          (divergenceReason receipt) := by
      simp only [next, OfficeEvent.b3lite, B3Lite.next, Event.stores, if_true, flagging]
      rfl
    have tick : (office.next (.audit (.inserted true))).b3lite.auditor.tick =
        .counting receipt rest := by
      simp only [next, OfficeEvent.b3lite, B3Lite.next, B3LiteAuditor.next,
        B3LiteAuditor.resumeInserted, flagging]
    have other : ConsequenceAction.reputationFlag ≠ .withholdPay := by decide
    apply balanced.of_same sound
    · intro wallet id
      rw [tables]
      rfl
    · intro held guilty
      rw [tick] at guilty
      rw [flagging]
      exact guilty
    · rw [tables, Tables.withheldIds, Tables.withheld_insert_of_ne other]
      rfl
    · intro wallet
      rw [tables, Tables.mem_listEjectedWallets_insert]
      simp only [reduceCtorEq, false_and, or_false]
    · rw [tick, flagging]
      rfl
    · rfl
  · have tables : (office.next (.audit (.inserted true))).b3lite.tables =
        office.b3lite.tables.insertB3liteConsequence receipt .ejected (ejectReason count) := by
      simp only [next, OfficeEvent.b3lite, B3Lite.next, Event.stores, if_true, ejecting]
      rfl
    have innocent : (office.next (.audit (.inserted true))).b3lite.auditor.tick.guilty = none := by
      simp only [next, OfficeEvent.b3lite, B3Lite.next, B3LiteAuditor.next,
        B3LiteAuditor.resumeInserted, ejecting, B3LiteAuditor.guilty_goOn]
    have before : office.b3lite.auditor.tick.stage = .ejecting receipt := by rw [ejecting]; rfl
    have stage := Tick.stage_eq_clear innocent
    have other : ConsequenceAction.ejected ≠ .withholdPay := by decide
    constructor
    · exact sound
    · intro held guilty
      rw [innocent] at guilty
      cases guilty
    · constructor
      · rw [tables, Tables.withheldIds, Tables.withheld_insert_of_ne other]
        exact balanced.withholds.once
      · intro id
        rw [stage, tables, Tables.withheldIds, Tables.withheld_insert_of_ne other]
        have mem_iff := balanced.withholds.mem_iff id
        rw [before] at mem_iff
        exact mem_iff
    · intro wallet
      have banned := balanced.banned wallet
      rw [before] at banned
      rw [stage, tables]
      exact banned
    · intro wallet
      have ejected := balanced.ejected wallet
      rw [before] at ejected
      rw [stage, tables, Tables.mem_listEjectedWallets_insert]
      simp only [true_and]
      exact ejected.trans (or_false _ ▸ Iff.rfl)

/-- The count decides whether the receipts that are divergent by now are three. -/
theorem Balanced.counted_iff (balanced : office.Balanced) {receipt : B3LiteReceipt}
    {rest : List B3LiteReceipt} {count : Int}
    (counting : office.b3lite.auditor.tick = .counting receipt rest)
    (answers : count = office.b3lite.tables.countWithholdConsequences receipt.minerWallet)
    (wallet : Wallet) :
    3 ≤ {id | office.b3lite.tables.Divergent wallet id}.encard ↔
      wallet ∈ office.registry.banned ∨
        ejectAfterDivergences ≤ count ∧ receipt.minerWallet = wallet := by
  have stage : office.b3lite.auditor.tick.stage = .withheld receipt := by rw [counting]; rfl
  have convicted := balanced.guilty receipt (by rw [counting]; rfl)
  have banned := balanced.banned wallet
  rw [stage] at banned
  rw [banned]
  by_cases mine : receipt.minerWallet = wallet
  · subst mine
    have unowed : ∀ id, ¬ office.b3lite.auditor.tick.stage.Owes id := by
      intro id owes
      rw [stage] at owes
      exact owes
    have enough : 3 ≤ {id | office.b3lite.tables.Divergent receipt.minerWallet id}.encard ↔
        ejectAfterDivergences ≤ count := by
      rw [balanced.withholds.count_eq balanced.sound unowed, answers,
        Tables.countWithholdConsequences, ejectAfterDivergences]
      exact_mod_cast Iff.rfl
    constructor
    · exact fun three => .inr ⟨enough.mp three, rfl⟩
    · rintro (three | ⟨many, -⟩)
      · exact three.trans (Set.encard_le_encard fun id divergent => divergent.1)
      · exact enough.mpr many
  · have same : {id | office.b3lite.tables.Divergent wallet id} =
        {id | office.b3lite.tables.Divergent wallet id ∧
          ¬ Stage.Uncounted id (.withheld receipt)} := by
      ext id
      constructor
      · intro divergent
        refine ⟨divergent, ?_⟩
        rintro rfl
        exact mine (convicted.owner divergent)
      · exact fun divergent => divergent.1
    rw [← same]
    exact (or_iff_left fun named => mine named.2).symm

/-- The wallet is banned if the receipt was its third. -/
theorem Balanced.counted (balanced : office.Balanced) {count : Int}
    (enabled : office.enabled (.audit (.counted (some count)))) :
    (office.next (.audit (.counted (some count)))).Balanced := by
  have offered : office.b3lite.enabled (.audit ⟨office.registry, .counted (some count)⟩) := enabled
  have sound := balanced.sound.next offered
  obtain ⟨receipt, rest, counting⟩ := offered.1
  have counted := balanced.counted_iff counting (offered.2 receipt rest counting)
  have before : office.b3lite.auditor.tick.stage = .withheld receipt := by rw [counting]; rfl
  have convicted := balanced.guilty receipt (by rw [counting]; rfl)
  have withholds := balanced.withholds
  have ejected := balanced.ejected
  rw [before] at ejected
  by_cases many : ejectAfterDivergences ≤ count
  · have tick : (office.next (.audit (.counted (some count)))).b3lite.auditor.tick =
        .ejecting count receipt rest := by
      simp only [next, OfficeEvent.b3lite, B3Lite.next, B3LiteAuditor.next,
        B3LiteAuditor.resumeCounted, counting, many, if_true]
    have registry : (office.next (.audit (.counted (some count)))).registry =
        office.registry.ban receipt.minerWallet := by
      simp only [next, B3LiteAuditor.bans, counting, many, if_true]
    have stage : (office.next (.audit (.counted (some count)))).b3lite.auditor.tick.stage =
        .ejecting receipt := by rw [tick]; rfl
    have now (wallet : Wallet) : wallet ∈ (office.registry.ban receipt.minerWallet).banned ↔
        wallet ∈ office.registry.banned ∨ receipt.minerWallet = wallet := by
      rw [MinerRegistry.ban, Finset.mem_insert, or_comm, eq_comm]
    constructor
    · exact sound
    · intro held guilty
      rw [tick] at guilty
      cases guilty
      exact convicted
    · constructor
      · exact withholds.once
      · intro id
        have mem_iff := withholds.mem_iff id
        rw [before] at mem_iff
        rw [stage]
        exact mem_iff
    · intro wallet
      rw [registry, now, stage]
      have three := counted wallet
      simp only [many, true_and] at three
      rw [← three]
      exact iff_of_eq (congrArg (3 ≤ Set.encard ·)
        (Set.ext fun id => (and_iff_left not_false).symm))
    · intro wallet
      rw [registry, now, stage, ejected]
      exact or_congr_left (or_iff_left id)
  · have innocent : (office.next (.audit (.counted (some count)))).b3lite.auditor.tick.guilty =
        none := by
      simp only [next, OfficeEvent.b3lite, B3Lite.next, B3LiteAuditor.next,
        B3LiteAuditor.resumeCounted, counting, many, if_false, B3LiteAuditor.guilty_goOn]
    have registry : (office.next (.audit (.counted (some count)))).registry = office.registry := by
      simp only [next, B3LiteAuditor.bans, counting, many, if_false]
    have stage := Tick.stage_eq_clear innocent
    constructor
    · exact sound
    · intro held guilty
      rw [innocent] at guilty
      cases guilty
    · constructor
      · exact withholds.once
      · intro id
        have mem_iff := withholds.mem_iff id
        rw [before] at mem_iff
        rw [stage]
        exact mem_iff
    · intro wallet
      rw [registry, stage]
      have three := counted wallet
      simp only [many, false_and, or_false] at three
      rw [← three]
      exact iff_of_eq (congrArg (3 ≤ Set.encard ·)
        (Set.ext fun id => (and_iff_left not_false).symm))
    · intro wallet
      rw [registry, stage]
      exact ejected wallet

/-- The bans are restored from the tables, and these name everybody who is banned. -/
theorem mem_restoreBans_iff {tables : Tables} :
    wallet ∈ (restoreBans tables).banned ↔ wallet ∈ tables.listEjectedWallets := by
  refine ⟨mem_restoreBans, ?_⟩
  have all : ∀ (wallets : List Wallet) (registry : MinerRegistry),
      wallet ∈ registry.banned ∨ wallet ∈ wallets →
        wallet ∈ (wallets.foldl MinerRegistry.ban registry).banned := by
    intro wallets
    induction wallets with
    | nil =>
        rintro registry (banned | listed)
        · exact banned
        · cases listed
    | cons first rest ih =>
        rintro registry (banned | listed)
        · exact ih _ (.inl (Finset.mem_insert_of_mem banned))
        · rcases List.mem_cons.mp listed with rfl | later
          · exact ih _ (.inl (Finset.mem_insert_self _ _))
          · exact ih _ (.inr later)
  exact fun listed => all _ _ (.inr listed)

theorem Balanced.restarted (balanced : office.Balanced) (trustedWallets : List Wallet)
    (clear : office.b3lite.auditor.tick.stage = .clear) :
    (office.next (.restart false trustedWallets true)).Balanced := by
  have offered : office.b3lite.enabled (.restart false trustedWallets) := trivial
  have withholds := balanced.withholds
  have banned := balanced.banned
  have ejected (wallet : Wallet) := balanced.ejected wallet
  rw [clear] at banned
  simp only [clear, Stage.Ejects, or_false] at ejected
  constructor
  · exact balanced.sound.next offered
  · intro held guilty
    cases guilty
  · constructor
    · exact withholds.once
    · intro id
      have mem_iff := withholds.mem_iff id
      rw [clear] at mem_iff
      exact mem_iff
  · intro wallet
    refine (mem_restoreBans_iff.trans (ejected wallet).symm).trans ?_
    exact banned wallet
  · intro wallet
    exact mem_restoreBans_iff.trans (or_iff_left not_false).symm

/-- A step of the auditor that writes and counts nothing. -/
theorem Balanced.quiet (balanced : office.Balanced) {event : Audit.Event}
    (enabled : office.enabled (.audit event)) (quiet : B3LiteAuditor.decides event = false) :
    (office.next (.audit event)).Balanced := by
  have offered : office.b3lite.enabled (.audit ⟨office.registry, event⟩) := enabled
  have stage := B3LiteAuditor.stage_next offered.1 quiet
  have stores : event.stores = false := by
    cases event with
    | marked stored => cases quiet
    | inserted stored => cases quiet
    | _ => rfl
  have tables : (office.next (.audit event)).b3lite.tables = office.b3lite.tables := by
    simp only [next, OfficeEvent.b3lite, B3Lite.next, stores, Bool.false_eq_true, if_false]
  apply balanced.of_same (balanced.sound.next offered)
  · intro wallet id
    rw [tables]
  · intro receipt guilty
    cases turns : event.turns with
    | false => exact (B3LiteAuditor.next_keepsWork offered.1 turns).guilty receipt guilty
    | true =>
        cases event with
        | listed receipts =>
            have listing : office.b3lite.auditor.tick = .listing := offered.1
            simp only [next, OfficeEvent.b3lite, B3Lite.next, B3LiteAuditor.next,
              B3LiteAuditor.resumeListing, listing, B3LiteAuditor.guilty_goOn] at guilty
            cases guilty
        | marked stored => cases quiet
        | _ => cases turns
  · rw [tables]
  · intro wallet
    rw [tables]
  · exact stage
  · cases event with
    | counted count => cases quiet
    | _ => rfl

theorem Balanced.next (balanced : office.Balanced) (enabled : office.enabled event)
    (reliable : office.Reliable event) : (office.next event).Balanced := by
  cases event with
  | registry event =>
      have kept : (event.apply office.registry).banned = office.registry.banned :=
        event.banned_apply (fun wallet same => enabled wallet (congrArg _ same)) office.registry
      exact balanced.of_same balanced.sound (fun _ _ => .rfl) (fun _ guilty => guilty) rfl
        (fun _ => .rfl) rfl kept
  | record id receipt =>
      have fresh : office.b3lite.tables.receipts.get? id = none := enabled
      have offered : office.b3lite.enabled (.record id receipt) := enabled
      exact balanced.of_same (balanced.sound.next offered)
        (fun _ _ => Tables.divergent_create fresh) (fun _ guilty => guilty) rfl
        (fun _ => .rfl) rfl rfl
  | audit event =>
      cases event with
      | marked stored =>
          obtain rfl : stored = true := reliable
          exact balanced.marked enabled
      | inserted stored =>
          obtain rfl : stored = true := reliable
          exact balanced.inserted enabled
      | counted count =>
          cases count with
          | none => exact absurd rfl reliable
          | some count => exact balanced.counted enabled
      | _ => exact balanced.quiet enabled rfl
  | restart written trustedWallets restored =>
      obtain ⟨rfl, rfl, clear⟩ := reliable
      exact balanced.restarted trustedWallets clear

theorem balanced_new (trustedWallets : List Wallet) : (new trustedWallets).Balanced := by
  have none (wallet : Wallet) (id : Nat) :
      ¬ (new trustedWallets).b3lite.tables.Divergent wallet id := by
    rintro ⟨receipt, ⟨⟩, -⟩
  have few (wallet : Wallet) : ¬ 3 ≤ {id | (new trustedWallets).b3lite.tables.Divergent wallet id ∧
      ¬ (new trustedWallets).b3lite.auditor.tick.stage.Uncounted id}.encard := by
    simp [none]
  constructor
  · exact .of_idle rfl fun _ mem => absurd mem List.not_mem_nil
  · intro receipt guilty
    cases guilty
  · constructor
    · exact List.nodup_nil
    · intro id
      refine iff_of_false List.not_mem_nil ?_
      rintro ⟨⟨wallet, divergent⟩, -⟩
      exact none wallet id divergent
  · intro wallet
    exact iff_of_false (Finset.notMem_empty wallet) (few wallet)
  · intro wallet
    refine iff_of_false (Finset.notMem_empty wallet) ?_
    rintro (listed | ejects)
    · cases listed
    · cases ejects

/-- The wallets pay for what was found divergent, and for nothing else. -/
structure Exact (office : Office) : Prop where
  once : office.b3lite.tables.withheldIds.Nodup
  withheld : ∀ id, id ∈ office.b3lite.tables.withheldIds ↔
    ∃ wallet, office.b3lite.tables.Divergent wallet id
  banned : ∀ wallet, wallet ∈ office.registry.banned ↔
    3 ≤ {id | office.b3lite.tables.Divergent wallet id}.encard
  ejected : ∀ wallet, wallet ∈ office.b3lite.tables.listEjectedWallets ↔
    wallet ∈ office.registry.banned

/-- In every run in which no write and no count is lost, and the process stops only between
two convictions and restores the bans: whenever no conviction is under way, the payments
that are withheld are those of the divergent receipts, once each, and the wallets that are
banned are those with three of them. -/
theorem exact_of_run {trustedWallets : List Wallet} {events : List OfficeEvent}
    (run : system.RunWith Reliable (new trustedWallets) events office)
    (clear : office.b3lite.auditor.tick.guilty = none) : office.Exact := by
  have balanced := run.invariant (I := Balanced) (balanced_new trustedWallets)
    fun _ _ balanced enabled reliable => balanced.next enabled reliable
  have stage := Tick.stage_eq_clear clear
  constructor
  · exact balanced.withholds.once
  · intro id
    have mem_iff := balanced.withholds.mem_iff id
    rw [stage] at mem_iff
    exact mem_iff.trans (and_iff_left not_false)
  · intro wallet
    have banned := balanced.banned wallet
    rw [stage] at banned
    exact banned.trans (iff_of_eq (congrArg (3 ≤ Set.encard ·)
      (Set.ext fun id => and_iff_left not_false)))
  · intro wallet
    have ejected := balanced.ejected wallet
    rw [stage] at ejected
    exact (ejected.trans (or_iff_left not_false)).symm

/-- An instance of `exact_of_run`: three receipts of the miner are found divergent in one
tick, and it is banned. -/
theorem exact_of_run_three :
    let finish := system.execute (new []) threeReceipts
    "miner" ∈ finish.registry.banned ∧ finish.Exact := by
  intro finish
  have run : system.RunWith Reliable (new []) threeReceipts finish := by
    apply System.Admits.runWith
    exact ⟨⟨rfl, trivial⟩, ⟨rfl, trivial⟩, ⟨rfl, trivial⟩, ⟨⟨rfl, trivial⟩, trivial⟩,
      ⟨⟨rfl, .refl _⟩, trivial⟩,
      ⟨⟨⟨_, _, rfl⟩, trivial⟩, trivial⟩, ⟨⟨⟨_, _, rfl⟩, trivial⟩, trivial⟩,
      ⟨⟨⟨_, _, .inr ⟨_, rfl⟩⟩, trivial⟩, rfl⟩, ⟨⟨⟨_, _, .inl rfl⟩, trivial⟩, rfl⟩,
      ⟨⟨⟨_, _, .inr (.inl rfl)⟩, trivial⟩, rfl⟩,
      ⟨⟨⟨_, _, rfl⟩, by rintro receipt rest ⟨⟩; rfl⟩, nofun⟩,
      ⟨⟨⟨_, _, rfl⟩, trivial⟩, trivial⟩, ⟨⟨⟨_, _, rfl⟩, trivial⟩, trivial⟩,
      ⟨⟨⟨_, _, .inr ⟨_, rfl⟩⟩, trivial⟩, rfl⟩, ⟨⟨⟨_, _, .inl rfl⟩, trivial⟩, rfl⟩,
      ⟨⟨⟨_, _, .inr (.inl rfl)⟩, trivial⟩, rfl⟩,
      ⟨⟨⟨_, _, rfl⟩, by rintro receipt rest ⟨⟩; rfl⟩, nofun⟩,
      ⟨⟨⟨_, _, rfl⟩, trivial⟩, trivial⟩, ⟨⟨⟨_, _, rfl⟩, trivial⟩, trivial⟩,
      ⟨⟨⟨_, _, .inr ⟨_, rfl⟩⟩, trivial⟩, rfl⟩, ⟨⟨⟨_, _, .inl rfl⟩, trivial⟩, rfl⟩,
      ⟨⟨⟨_, _, .inr (.inl rfl)⟩, trivial⟩, rfl⟩,
      ⟨⟨⟨_, _, rfl⟩, by rintro receipt rest ⟨⟩; rfl⟩, nofun⟩,
      ⟨⟨⟨_, _, .inr (.inr ⟨_, rfl⟩)⟩, trivial⟩, rfl⟩, trivial⟩
  exact ⟨by decide, exact_of_run run rfl⟩

end Office

end StratumBridge.Bridge
