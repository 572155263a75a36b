import StratumBridge.Audit.Convictions
import StratumBridge.Bridge.Pool

/-!
# Ejections

The auditor, its tables and the registry in which it bans wallets, through failing
writes and restarts.  A wallet is ejected when three payments of it have been
withheld; these are three receipts only if no receipt is withheld twice.
-/

namespace StratumBridge.Bridge

open Data Wire Transition Shard Audit

/-- The auditor with its tables and the registry. -/
structure Office where
  registry : MinerRegistry
  b3lite : B3Lite

/-- What can happen to them.  At a restart the bans are restored from the tables, if
these can be read. -/
inductive OfficeEvent
  | registry (event : RegistryEvent)
  | record (id : Nat) (receipt : NewReceipt)
  | audit (event : Audit.Event)
  | restart (written : Bool) (trustedWallets : List Wallet) (restored : Bool)

/-- What the event is to the auditor and its tables. -/
def OfficeEvent.b3lite (found : MinerRegistry) : OfficeEvent → Option B3LiteEvent
  | registry _ => none
  | record id receipt => some (.record id receipt)
  | audit event => some (.audit ⟨found, event⟩)
  | restart written trustedWallets _ => some (.restart written trustedWallets)

/-- Sessions lift and impose no bans. -/
theorem RegistryEvent.banned_apply {event : RegistryEvent} (other : ∀ wallet, event ≠ .ban wallet)
    (registry : MinerRegistry) : (event.apply registry).banned = registry.banned := by
  cases event with
  | register wallet tx => rfl
  | unregister wallet => rfl
  | markDraftCapable wallet =>
      simp only [apply, MinerRegistry.markDraftCapable]
      split <;> rfl
  | markAuditorCapable wallet =>
      simp only [apply, MinerRegistry.markAuditorCapable]
      split <;> rfl
  | markExpertCapable wallet vramMb =>
      simp only [apply, MinerRegistry.markExpertCapable]
      split <;> rfl
  | ban wallet => exact absurd rfl (other wallet)

namespace Office

/-- A new deployment. -/
def new (trustedWallets : List Wallet) : Office :=
  ⟨.new, .new trustedWallets⟩

/-- `main` bans the wallets that the tables name. -/
def restoreBans (tables : Tables) : MinerRegistry :=
  tables.listEjectedWallets.foldl MinerRegistry.ban .new

/-- One event. -/
def next (office : Office) (event : OfficeEvent) : Office :=
  let b3lite :=
    match event.b3lite office.registry with
    | some event => office.b3lite.next event
    | none => office.b3lite
  let registry :=
    match event with
    | .registry event => event.apply office.registry
    | .record _ _ => office.registry
    | .audit event =>
        match office.b3lite.auditor.bans event with
        | some wallet => office.registry.ban wallet
        | none => office.registry
    | .restart _ _ restored => if restored then restoreBans b3lite.tables else .new
  ⟨registry, b3lite⟩

/-- Only the auditor and a restart ban. -/
def enabled (office : Office) (event : OfficeEvent) : Prop :=
  match event.b3lite office.registry with
  | some event => office.b3lite.enabled event
  | none => ∀ wallet, event ≠ .registry (.ban wallet)

/-- The office as a system of events. -/
def system : System Office OfficeEvent where
  enabled := enabled
  next := next

/-- The wallet is banned, or was ejected once. -/
def Out (office : Office) (wallet : Wallet) : Prop :=
  wallet ∈ office.registry.banned ∨
    ∃ consequence ∈ office.b3lite.tables.consequences,
      consequence.minerWallet = wallet ∧ consequence.action = .ejected

/-- A receipt of the wallet was found divergent. -/
def Convicted (office : Office) (wallet : Wallet) (id : Nat) : Prop :=
  (∃ receipt, office.b3lite.tables.receipts.get? id = some receipt ∧
    receipt.minerWallet = wallet) ∧ office.b3lite.auditor.FoundDivergent id

/-- Three receipts of the wallet were. -/
def ThriceConvicted (office : Office) (wallet : Wallet) : Prop :=
  ∃ ids : List Nat, ids.Nodup ∧ 3 ≤ ids.length ∧ ∀ id ∈ ids, office.Convicted wallet id

/-- Nobody is out with fewer. -/
def EjectsConvicted (office : Office) : Prop :=
  ∀ wallet, office.Out wallet → office.ThriceConvicted wallet

/-- The condition on a step: it withholds a payment only when the receipt is no
longer pending. -/
def MarkedFirst (office : Office) (event : OfficeEvent) : Prop :=
  ∀ inner, event.b3lite office.registry = some inner → office.b3lite.MarkedFirst inner

variable {office : Office} {event : OfficeEvent} {wallet : Wallet}

/-! ## Convictions last -/

theorem Convicted.next {id : Nat} (convicted : office.Convicted wallet id)
    {inner : B3LiteEvent} (enabled : office.b3lite.enabled inner) {registry : MinerRegistry} :
    Convicted ⟨registry, office.b3lite.next inner⟩ wallet id := by
  rcases convicted with ⟨⟨receipt, found, owner⟩, divergent⟩
  have same := office.b3lite.tables.keyed id receipt found
  rw [← same] at found
  obtain ⟨status, detail, kept⟩ := B3Lite.stored_next (.of_get? found) enabled
  rw [same] at kept
  exact ⟨⟨_, kept, owner⟩, B3Lite.foundDivergent_next divergent enabled⟩

theorem ThriceConvicted.next (convicted : office.ThriceConvicted wallet)
    (enabled : office.enabled event) : (office.next event).ThriceConvicted wallet := by
  rcases convicted with ⟨ids, nodup, three, all⟩
  refine ⟨ids, nodup, three, ?_⟩
  intro id mem
  cases event with
  | registry event => exact all id mem
  | record fresh receipt =>
      have offered : office.b3lite.enabled (.record fresh receipt) := enabled
      exact (all id mem).next offered
  | audit event =>
      have offered : office.b3lite.enabled (.audit ⟨office.registry, event⟩) := enabled
      exact (all id mem).next offered
  | restart written trustedWallets restored =>
      have offered : office.b3lite.enabled (.restart written trustedWallets) := enabled
      exact (all id mem).next offered

/-- In settled tables, as many receipts are convicted as payments are withheld. -/
theorem thriceConvicted_of_count (sound : office.b3lite.Sound) (settled : office.b3lite.Settled)
    (many : ejectAfterDivergences ≤ office.b3lite.tables.countWithholdConsequences wallet) :
    office.ThriceConvicted wallet := by
  let rows := office.b3lite.tables.withheldFrom wallet
  have sublist : rows.Sublist office.b3lite.tables.withheld := by
    have split : rows = office.b3lite.tables.withheld.filter fun consequence =>
        consequence.minerWallet = wallet := by
      simp only [rows, Tables.withheldFrom, Tables.withheld, List.filter_filter,
        Bool.decide_and]
    rw [split]
    exact List.filter_sublist
  refine ⟨rows.map B3LiteConsequence.receiptId, settled.once.sublist (sublist.map _), ?_, ?_⟩
  · rw [List.length_map]
    have count : (3 : Int) ≤ rows.length := many
    omega
  · intro id mem
    obtain ⟨consequence, row, rfl⟩ := List.mem_map.mp mem
    have listed := List.mem_filter.mp row
    obtain ⟨receipt, found, owner, -, divergent⟩ := sound.backed consequence listed.1
    have mine : consequence.minerWallet = wallet := (decide_eq_true_eq.mp listed.2).1
    exact ⟨⟨receipt, found, owner.trans mine⟩, divergent⟩

/-! ## Who is ejected -/

/-- What holds as long as results are stored first. -/
structure Just (office : Office) : Prop where
  sound : office.b3lite.Sound
  settled : office.b3lite.Settled
  out : office.EjectsConvicted
  sentenced : ∀ receipt, office.b3lite.auditor.tick.sentenced = some receipt →
    office.ThriceConvicted receipt.minerWallet

/-- Who is out after a restart was ejected before it. -/
theorem mem_restoreBans {tables : Tables} (banned : wallet ∈ (restoreBans tables).banned) :
    wallet ∈ tables.listEjectedWallets := by
  have all : ∀ (wallets : List Wallet) (registry : MinerRegistry),
      wallet ∈ (wallets.foldl MinerRegistry.ban registry).banned →
        wallet ∈ registry.banned ∨ wallet ∈ wallets := by
    intro wallets
    induction wallets with
    | nil =>
        intro registry mem
        exact .inl mem
    | cons first rest ih =>
        intro registry mem
        rcases ih (registry.ban first) mem with before | after
        · rcases Finset.mem_insert.mp before with rfl | old
          · exact .inr List.mem_cons_self
          · exact .inl old
        · exact .inr (List.mem_cons_of_mem _ after)
  rcases all _ _ banned with new | listed
  · cases new
  · exact listed

/-- A wallet that the auditor bans was convicted often enough. -/
theorem Just.of_bans (just : office.Just) {event : Audit.Event}
    (enabled : office.enabled (.audit event))
    (bans : office.b3lite.auditor.bans event = some wallet) : office.ThriceConvicted wallet := by
  have offered : office.b3lite.enabled (.audit ⟨office.registry, event⟩) := enabled
  cases event with
  | counted count =>
      cases count with
      | none => cases bans
      | some n =>
          rcases offered.1 with ⟨receipt, rest, counting⟩
          have count := offered.2 receipt rest counting
          simp only [B3LiteAuditor.bans, counting] at bans
          split at bans
          · rename_i enough
            cases bans
            rw [count] at enough
            exact thriceConvicted_of_count just.sound just.settled enough
          · cases bans
  | _ => cases bans

/-- So was a wallet with a new ejection. -/
theorem Just.ejected_write (just : office.Just) (written : Bool)
    {consequence : B3LiteConsequence}
    (mem : consequence ∈ (if written then
      office.b3lite.tables.carryOut office.b3lite.auditor.tick
      else office.b3lite.tables).consequences)
    (ejected : consequence.action = .ejected) :
    office.ThriceConvicted consequence.minerWallet := by
  rcases Tables.mem_write mem with old | ⟨-, receipt, punished⟩
  · exact just.out _ (.inr ⟨consequence, old, rfl, ejected⟩)
  · rw [punished.minerWallet]
    exact just.sentenced receipt (punished.sentenced ejected)

/-- Who is out after a step was convicted before it. -/
theorem Just.out_next (just : office.Just) (enabled : office.enabled event)
    (out : (office.next event).Out wallet) : office.ThriceConvicted wallet := by
  cases event with
  | registry event =>
      rcases out with banned | ejected
      · have kept : (event.apply office.registry).banned = office.registry.banned :=
          event.banned_apply (fun wallet same => enabled wallet (congrArg _ same)) office.registry
        have before : wallet ∈ (event.apply office.registry).banned := banned
        rw [kept] at before
        exact just.out wallet (.inl before)
      · exact just.out wallet (.inr ejected)
  | record id receipt => exact just.out wallet out
  | audit event =>
      rcases out with banned | ⟨consequence, mem, rfl, ejected⟩
      · have now : wallet ∈ (match office.b3lite.auditor.bans event with
            | some wallet => office.registry.ban wallet
            | none => office.registry).banned := banned
        cases bans : office.b3lite.auditor.bans event with
        | none =>
            rw [bans] at now
            exact just.out wallet (.inl now)
        | some named =>
            rw [bans] at now
            rcases Finset.mem_insert.mp now with rfl | before
            · exact just.of_bans enabled bans
            · exact just.out wallet (.inl before)
      · exact just.ejected_write event.stores mem ejected
  | restart written trustedWallets restored =>
      rcases out with banned | ⟨consequence, mem, rfl, ejected⟩
      · cases restored with
        | false => cases banned
        | true =>
            have listed := mem_restoreBans banned
            rw [Tables.listEjectedWallets, List.mem_dedup] at listed
            obtain ⟨consequence, row, rfl⟩ := List.mem_map.mp listed
            have ejection := List.mem_filter.mp row
            exact just.ejected_write written ejection.1 (decide_eq_true_eq.mp ejection.2)
      · exact just.ejected_write written mem ejected

theorem Just.next (just : office.Just) (enabled : office.enabled event)
    (guard : office.MarkedFirst event) : (office.next event).Just := by
  have out : (office.next event).EjectsConvicted :=
    fun wallet out => (just.out_next enabled out).next enabled
  cases event with
  | registry event => exact ⟨just.sound, just.settled, out, just.sentenced⟩
  | record id receipt =>
      have offered : office.b3lite.enabled (.record id receipt) := enabled
      refine ⟨just.sound.next offered, just.settled.next just.sound offered (guard _ rfl), out, ?_⟩
      intro held sentenced
      exact (just.sentenced held sentenced).next enabled
  | audit event =>
      have offered : office.b3lite.enabled (.audit ⟨office.registry, event⟩) := enabled
      refine ⟨just.sound.next offered, just.settled.next just.sound offered (guard _ rfl), out, ?_⟩
      intro held sentenced
      rcases B3LiteAuditor.sentenced_next offered.1 sentenced with before | bans
      · exact (just.sentenced held before).next enabled
      · exact (just.of_bans enabled bans).next enabled
  | restart written trustedWallets restored =>
      have offered : office.b3lite.enabled (.restart written trustedWallets) := enabled
      refine ⟨just.sound.next offered, just.settled.next just.sound offered (guard _ rfl), out, ?_⟩
      intro held sentenced
      cases sentenced

theorem just_new (trustedWallets : List Wallet) : (new trustedWallets).Just where
  sound := .of_idle rfl fun _ mem => absurd mem List.not_mem_nil
  settled := .of_idle rfl (fun _ mem => absurd mem List.not_mem_nil) List.nodup_nil
  out := by
    rintro wallet (banned | ⟨consequence, mem, -⟩)
    · cases banned
    · cases mem
  sentenced := by
    intro receipt sentenced
    cases sentenced

/-- As long as the result of an audit is stored before a payment is withheld, a wallet
is ejected only after three of its receipts were found divergent. -/
theorem ejects_convicted_of_markedFirst {trustedWallets : List Wallet}
    {events : List OfficeEvent}
    (run : system.RunWith MarkedFirst (new trustedWallets) events office) :
    office.EjectsConvicted :=
  (run.invariant (I := Just) (just_new trustedWallets)
    fun _ _ just enabled guard => just.next enabled guard).out

/-! ## Three receipts and one -/

theorem markedFirst_of_none (owed : office.b3lite.auditor.tick.owed = none) :
    office.MarkedFirst event := by
  intro inner _ _ receipt owes
  rw [owed] at owes
  cases owes

theorem markedFirst_of_some {receipt row : B3LiteReceipt}
    (owed : office.b3lite.auditor.tick.owed = some receipt)
    (found : office.b3lite.tables.receipts.get? receipt.id = some row)
    (marked : row.auditStatus ≠ .pending) : office.MarkedFirst event := by
  intro inner _ _ held owes other same
  rw [owed] at owes
  cases owes
  rw [found] at same
  cases same
  exact marked

/-- A response of the miner, sampled for audit. -/
def soleNewReceipt : NewReceipt where
  requestId := "r"
  minerWallet := "miner"
  modelId := "model"
  ggufSha256 := "root"
  promptHash := none
  promptHex := ""
  responseHash := "response-hash"
  generatedTokenIdsHex := "05000000"
  totalLayers := 4
  signatureHex := "signature"
  sampled := true

/-- The audit of a receipt that diverges, the count of which is `count`. -/
def divergentAudit (marked : Bool) (count : Int) : List OfficeEvent :=
  [.audit (.resolved (some ShardEngine.soleSource) true),
    .audit (.replayed (.ok [⟨0, 5, 6, false⟩])), .audit (.marked marked),
    .audit (.inserted true), .audit (.inserted true), .audit (.counted (some count))]

/-- Three receipts are recorded and audited in one tick. -/
def threeReceipts : List OfficeEvent :=
  [.record 7 soleNewReceipt, .record 8 soleNewReceipt, .record 9 soleNewReceipt,
    .audit .tickBegin,
    .audit (.listed (some [soleNewReceipt.row 7, soleNewReceipt.row 8, soleNewReceipt.row 9]))] ++
    divergentAudit true 1 ++ divergentAudit true 2 ++ divergentAudit true 3 ++
    [.audit (.inserted true)]

/-- An instance of `ejects_convicted_of_markedFirst`: the miner is ejected after its
third receipt. -/
theorem ejects_convicted_three :
    let finish := system.execute (new []) threeReceipts
    finish.Out "miner" ∧ finish.EjectsConvicted := by
  intro finish
  have run : system.RunWith MarkedFirst (new []) threeReceipts finish := by
    apply System.Admits.runWith
    exact ⟨⟨rfl, markedFirst_of_none rfl⟩, ⟨rfl, markedFirst_of_none rfl⟩,
      ⟨rfl, markedFirst_of_none rfl⟩, ⟨⟨rfl, trivial⟩, markedFirst_of_none rfl⟩,
      ⟨⟨rfl, .refl _⟩, markedFirst_of_none rfl⟩,
      ⟨⟨⟨_, _, rfl⟩, trivial⟩, markedFirst_of_none rfl⟩,
      ⟨⟨⟨_, _, rfl⟩, trivial⟩, markedFirst_of_none rfl⟩,
      ⟨⟨⟨_, _, .inr ⟨_, rfl⟩⟩, trivial⟩, markedFirst_of_none rfl⟩,
      ⟨⟨⟨_, _, .inl rfl⟩, trivial⟩, markedFirst_of_some rfl rfl (by decide)⟩,
      ⟨⟨⟨_, _, .inr (.inl rfl)⟩, trivial⟩, markedFirst_of_none rfl⟩,
      ⟨⟨⟨_, _, rfl⟩, by rintro receipt rest ⟨⟩; rfl⟩, markedFirst_of_none rfl⟩,
      ⟨⟨⟨_, _, rfl⟩, trivial⟩, markedFirst_of_none rfl⟩,
      ⟨⟨⟨_, _, rfl⟩, trivial⟩, markedFirst_of_none rfl⟩,
      ⟨⟨⟨_, _, .inr ⟨_, rfl⟩⟩, trivial⟩, markedFirst_of_none rfl⟩,
      ⟨⟨⟨_, _, .inl rfl⟩, trivial⟩, markedFirst_of_some rfl rfl (by decide)⟩,
      ⟨⟨⟨_, _, .inr (.inl rfl)⟩, trivial⟩, markedFirst_of_none rfl⟩,
      ⟨⟨⟨_, _, rfl⟩, by rintro receipt rest ⟨⟩; rfl⟩, markedFirst_of_none rfl⟩,
      ⟨⟨⟨_, _, rfl⟩, trivial⟩, markedFirst_of_none rfl⟩,
      ⟨⟨⟨_, _, rfl⟩, trivial⟩, markedFirst_of_none rfl⟩,
      ⟨⟨⟨_, _, .inr ⟨_, rfl⟩⟩, trivial⟩, markedFirst_of_none rfl⟩,
      ⟨⟨⟨_, _, .inl rfl⟩, trivial⟩, markedFirst_of_some rfl rfl (by decide)⟩,
      ⟨⟨⟨_, _, .inr (.inl rfl)⟩, trivial⟩, markedFirst_of_none rfl⟩,
      ⟨⟨⟨_, _, rfl⟩, by rintro receipt rest ⟨⟩; rfl⟩, markedFirst_of_none rfl⟩,
      ⟨⟨⟨_, _, .inr (.inr ⟨_, rfl⟩)⟩, trivial⟩, markedFirst_of_none rfl⟩, trivial⟩
  exact ⟨.inl (by decide), ejects_convicted_of_markedFirst run⟩

/-- One receipt is recorded and audited in three ticks, none of which can store the
result. -/
def oneReceipt : List OfficeEvent :=
  let tick (count : Int) : List OfficeEvent :=
    [.audit .tickBegin, .audit (.listed (some [soleNewReceipt.row 7]))] ++
      divergentAudit false count
  [.record 7 soleNewReceipt] ++ tick 1 ++ tick 2 ++ tick 3 ++ [.audit (.inserted true)]

theorem oneReceipt_run : system.Run (new []) oneReceipt (system.execute (new []) oneReceipt) := by
  apply System.Admits.runWith
  exact ⟨⟨rfl, trivial⟩, ⟨⟨rfl, trivial⟩, trivial⟩, ⟨⟨rfl, .refl _⟩, trivial⟩,
    ⟨⟨⟨_, _, rfl⟩, trivial⟩, trivial⟩, ⟨⟨⟨_, _, rfl⟩, trivial⟩, trivial⟩,
    ⟨⟨⟨_, _, .inr ⟨_, rfl⟩⟩, trivial⟩, trivial⟩, ⟨⟨⟨_, _, .inl rfl⟩, trivial⟩, trivial⟩,
    ⟨⟨⟨_, _, .inr (.inl rfl)⟩, trivial⟩, trivial⟩,
    ⟨⟨⟨_, _, rfl⟩, by rintro receipt rest ⟨⟩; rfl⟩, trivial⟩,
    ⟨⟨rfl, trivial⟩, trivial⟩, ⟨⟨rfl, .refl _⟩, trivial⟩,
    ⟨⟨⟨_, _, rfl⟩, trivial⟩, trivial⟩, ⟨⟨⟨_, _, rfl⟩, trivial⟩, trivial⟩,
    ⟨⟨⟨_, _, .inr ⟨_, rfl⟩⟩, trivial⟩, trivial⟩, ⟨⟨⟨_, _, .inl rfl⟩, trivial⟩, trivial⟩,
    ⟨⟨⟨_, _, .inr (.inl rfl)⟩, trivial⟩, trivial⟩,
    ⟨⟨⟨_, _, rfl⟩, by rintro receipt rest ⟨⟩; rfl⟩, trivial⟩,
    ⟨⟨rfl, trivial⟩, trivial⟩, ⟨⟨rfl, .refl _⟩, trivial⟩,
    ⟨⟨⟨_, _, rfl⟩, trivial⟩, trivial⟩, ⟨⟨⟨_, _, rfl⟩, trivial⟩, trivial⟩,
    ⟨⟨⟨_, _, .inr ⟨_, rfl⟩⟩, trivial⟩, trivial⟩, ⟨⟨⟨_, _, .inl rfl⟩, trivial⟩, trivial⟩,
    ⟨⟨⟨_, _, .inr (.inl rfl)⟩, trivial⟩, trivial⟩,
    ⟨⟨⟨_, _, rfl⟩, by rintro receipt rest ⟨⟩; rfl⟩, trivial⟩,
    ⟨⟨⟨_, _, .inr (.inr ⟨_, rfl⟩)⟩, trivial⟩, trivial⟩, trivial⟩

/-- A miner is ejected for one receipt. -/
theorem ejects_for_one_receipt :
    ∃ trustedWallets events office, system.Run (new trustedWallets) events office ∧
      ¬ office.EjectsConvicted := by
  refine ⟨[], oneReceipt, _, oneReceipt_run, ?_⟩
  intro ejects
  have banned : (system.execute (new []) oneReceipt).Out "miner" := .inl (by decide)
  obtain ⟨ids, nodup, three, convicted⟩ := ejects "miner" banned
  have only : ids ⊆ [7] := by
    intro id mem
    obtain ⟨⟨receipt, found, -⟩, -⟩ := convicted id mem
    have key := IndexMap.mem_keys_of_get?_eq_some found
    exact key
  have few := (nodup.subperm only).length_le
  exact absurd (three.trans few) (by decide)

end Office

end StratumBridge.Bridge
