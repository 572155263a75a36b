import StratumBridge.Audit.Convictions
import StratumBridge.Audit.Signatures
import StratumBridge.Payout.Once

/-!
# Withheld payments

The treasury beside the auditor and its tables: the payments that the treasury
holds back are those of the requests that the tables name.  A consequence names
the receipt it is for, but the query reads only its request, and a request may be
answered more than once.  So a payment that is withheld for one response holds
back every other response to the same request.
-/

namespace StratumBridge.Lifecycle

open Data Wire Transition

/-- The row may still be paid. -/
structure Submission.Unsettled (row : Submission) : Prop where
  active : row.status ≠ .failed
  unpaid : row.paid = false

/-- `mark_paid` changes no status. -/
theorem Database.status_markPaid {db after : Database} {requestIds : List RequestId}
    {txid : String} (marked : db.markPaid requestIds txid = some after) (id : SubmissionId) :
    after.status id = db.status id := by
  obtain ⟨submissions, updated, ⟨⟩⟩ := Option.bind_eq_some_iff.mp marked
  rw [status, Table.find?_updateWhere updated, status, Option.map_map]
  congr 1
  funext row
  rw [Function.comp_apply]
  split <;> rfl

/-- A row that may still be paid stood there, and could be paid before. -/
def SettlesOnly (db after : Database) : Prop :=
  ∀ id kept, after.submissions.find? id = some kept → kept.Unsettled →
    ∃ row, db.submissions.find? id = some row ∧ kept.toNewSubmission = row.toNewSubmission ∧
      row.Unsettled

theorem settlesOnly_markPaid {db after : Database} {requestIds : List RequestId} {txid : String}
    (marked : db.markPaid requestIds txid = some after) : SettlesOnly db after := by
  intro id kept found unsettled
  obtain ⟨row, stood, created, -, paid⟩ := Database.exists_of_find?_markPaid marked found
  refine ⟨row, stood, created, ?_, ?_⟩
  · intro failed
    have status := Database.status_markPaid marked id
    rw [Database.status, found, Database.status, stood, Option.map_some, Option.map_some,
      failed] at status
    exact unsettled.active (Option.some.inj status)
  · by_contra isPaid
    have now := paid.mpr (.inr (Bool.not_eq_false _ ▸ isPaid))
    rw [unsettled.unpaid] at now
    cases now

/-- A FAILED row stays so. -/
theorem Advances.failed {db after : Database} (advances : Advances db after) {id : SubmissionId}
    (failed : db.status id = some .failed) : after.status id = some .failed := by
  rcases advances id with same | ⟨status, now, path⟩
  · rw [same, failed]
  · rw [failed] at path
    cases status <;> cases path

namespace Service

variable {service : Service}

/-- Who works on a row looks at statuses only. -/
theorem Sound.of_statuses (sound : service.Sound) {db : Database}
    (same : ∀ id, db.status id = service.db.status id) :
    ({ service with db } : Service).Sound where
  working := fun id task found => (same id).trans (sound.working id task found)
  queued := by
    intro queue phase
    obtain ⟨nodup, ready⟩ := sound.queued queue phase
    exact ⟨nodup, fun id mem => ⟨(same id).trans (ready id mem).1, (ready id mem).2⟩⟩
  stopped := sound.stopped
  tick := sound.tick.keep fun id _ found _ => (same id).trans found

/-- A row that may still be paid was created just now, or it stood there and could
be paid before. -/
theorem Sound.unsettled_before (sound : service.Sound) {event : Event} (pool : StakePool)
    {id : SubmissionId} {kept : Submission}
    (found : (service.next pool event).db.submissions.find? id = some kept)
    (unsettled : kept.Unsettled) :
    (∃ outcome, event = .create kept.toNewSubmission outcome) ∨
      ∃ row, service.db.submissions.find? id = some row ∧
        kept.toNewSubmission = row.toNewSubmission ∧ row.Unsettled := by
  have writes := writes_next pool service event
  have before : ∀ row, service.db.submissions.find? id = some row → row.Unsettled := by
    intro row stood
    constructor
    · intro failed
      have status : service.db.status id = some .failed := by
        rw [Database.status, stood, Option.map_some, failed]
      have now := (sound.advances pool event).failed status
      rw [Database.status, found, Option.map_some] at now
      exact unsettled.active (Option.some.inj now)
    · obtain ⟨same, stands, -, paid⟩ := writes.keeps stood
      cases found.symm.trans stands
      exact paid.symm.trans unsettled.unpaid
  cases writes.origin found with
  | stood stood created reward => exact .inr ⟨_, stood, created, before _ stood⟩
  | published ticking isEntry stood created rewarded =>
      exact .inr ⟨_, stood, created, before _ stood⟩
  | created isEvent isNext created active unrewarded =>
      subst created
      exact .inl ⟨_, isEvent⟩

end Service

end StratumBridge.Lifecycle

namespace StratumBridge.Payout.Treasury

open Data Wire Lifecycle Transition

variable {config : Config} {treasury : Treasury} {event : Event}

/-- The payout loop keeps the lifecycle sound. -/
theorem sound_next (sound : treasury.service.Sound) (enabled : treasury.enabled event) :
    (treasury.next config event).service.Sound := by
  cases event with
  | service event => exact sound.next enabled.2
  | requestFetched found =>
      rcases enabled with ⟨row, rest, pricing⟩
      simp only [next, requestFetched, pricing]
      have offered : treasury.service.enabled
          (.priced (config.recorded row.2.toNewSubmission found)) := ⟨row, rest, pricing⟩
      have priced : (treasury.service.next config.pool
          (.priced (config.recorded row.2.toNewSubmission found))).Sound := sound.next offered
      exact priced
  | withhold requestId => exact sound
  | unpaidListed unpaid => cases unpaid <;> exact sound
  | sent answer =>
      simp only [next, sent]
      split <;> exact sound
  | marked outcome =>
      rcases enabled with ⟨unpaid, txid, marking⟩
      simp only [next, marked, marking]
      apply Outcome.settle_of (P := fun db => ({ treasury.service with db } : Service).Sound)
      · exact sound
      · exact fun after ran => sound.of_statuses (Database.status_markPaid ran)

/-- Where a row that may still be paid comes from. -/
theorem unsettled_before (sound : treasury.service.Sound) {id : SubmissionId} {kept : Submission}
    (found : (treasury.next config event).db.submissions.find? id = some kept)
    (unsettled : kept.Unsettled) :
    (∃ outcome, event = .service (.create kept.toNewSubmission outcome)) ∨
      ∃ row, treasury.db.submissions.find? id = some row ∧
        kept.toNewSubmission = row.toNewSubmission ∧ row.Unsettled := by
  cases event with
  | service event =>
      rcases sound.unsettled_before config.pool found unsettled with ⟨outcome, rfl⟩ | stood
      · exact .inl ⟨outcome, rfl⟩
      · exact .inr stood
  | requestFetched price =>
      simp only [next, requestFetched] at found
      split at found
      · rcases sound.unsettled_before config.pool found unsettled with ⟨outcome, same⟩ | stood
        · cases same
        · exact .inr stood
      · exact .inr ⟨kept, found, rfl, unsettled⟩
  | withhold requestId => exact .inr ⟨kept, found, rfl, unsettled⟩
  | unpaidListed unpaid => cases unpaid <;> exact .inr ⟨kept, found, rfl, unsettled⟩
  | sent answer =>
      simp only [next, sent] at found
      split at found <;> exact .inr ⟨kept, found, rfl, unsettled⟩
  | marked outcome =>
      simp only [next, marked] at found
      split at found
      · rename_i unpaid txid marking
        have settled : SettlesOnly treasury.db (outcome.settle
            (treasury.db.markPaid (config.terms.batchOf unpaid).requestIds txid)
            treasury.db) := by
          apply Outcome.settle_of
          · exact fun id kept stood unsettled => ⟨kept, stood, rfl, unsettled⟩
          · exact fun after ran => settlesOnly_markPaid ran
        exact .inr (settled id kept found unsettled)
      · exact .inr ⟨kept, found, rfl, unsettled⟩

end StratumBridge.Payout.Treasury

namespace StratumBridge.Bridge

open Data Wire Transition Lifecycle Payout Audit

/-- The treasury and the auditor with its tables, from which the treasury has the
requests whose pay is withheld. -/
structure Ledger where
  treasury : Treasury
  b3lite : B3Lite
  agrees : treasury.withheld = b3lite.tables.withheld.map B3LiteConsequence.requestId

/-- What can happen to them.  A finished pipeline has its receipt recorded before its
row is created; that may fail, and then there is a receipt without a row. -/
inductive LedgerEvent
  | treasury (event : Payout.Event)
  | finalized (id : Nat) (requestId : RequestId) (wallet : Wallet)
      (pipeline : Shard.PipelineState)
  | audit (stimulus : Audit.Stimulus)
  | crash (written : Bool) (trustedWallets : List Wallet)

/-- The deployment: the treasury's, and that of the receipts. -/
structure LedgerConfig where
  payout : Payout.Config
  sha256 : Digest
  mac : Mac
  b3lite : B3LiteConfig

/-- The receipt of a finished pipeline. -/
def LedgerConfig.receipt (config : LedgerConfig) (requestId : RequestId) (wallet : Wallet)
    (pipeline : Shard.PipelineState) : NewReceipt :=
  recordB3liteReceipt config.mac config.b3lite requestId wallet pipeline
    (buildResponse config.sha256 pipeline.generatedTokenIds).1

/-- The receipt is one for the response of the row. -/
structure AnswersTo (receipt : B3LiteReceipt) (row : NewSubmission) : Prop where
  minerWallet : receipt.minerWallet = row.minerWallet
  responseHash : receipt.responseHash = row.responseHash

theorem AnswersTo.of_same {receipt other : B3LiteReceipt} {row : NewSubmission}
    (answers : AnswersTo receipt row) (wallet : other.minerWallet = receipt.minerWallet)
    (response : other.responseHash = receipt.responseHash) : AnswersTo other row :=
  ⟨wallet.trans answers.minerWallet, response.trans answers.responseHash⟩

namespace Ledger

/-- Before the first start. -/
def new (trustedWallets : List Wallet) : Ledger :=
  ⟨.new, .new trustedWallets, rfl⟩

/-- The treasury withholds what the tables say. -/
def settle (treasury : Treasury) (b3lite : B3Lite) : Ledger where
  treasury :=
    { treasury with withheld := b3lite.tables.withheld.map B3LiteConsequence.requestId }
  b3lite := b3lite
  agrees := rfl

/-- One event. -/
def next (config : LedgerConfig) (ledger : Ledger) : LedgerEvent → Ledger
  | .treasury event => settle (ledger.treasury.next config.payout event) ledger.b3lite
  | .finalized id requestId wallet pipeline =>
      settle ledger.treasury
        (ledger.b3lite.next (.record id (config.receipt requestId wallet pipeline)))
  | .audit stimulus => settle ledger.treasury (ledger.b3lite.next (.audit stimulus))
  | .crash written trustedWallets =>
      settle (ledger.treasury.next config.payout (.service .crash))
        (ledger.b3lite.next (.restart written trustedWallets))

/-- The events that can happen next.  The receipt of a pipeline names its winner. -/
def enabled (config : LedgerConfig) (ledger : Ledger) : LedgerEvent → Prop
  | .treasury event =>
      event ≠ .service .crash ∧ (∀ requestId, event ≠ .withhold requestId) ∧
        ledger.treasury.enabled event
  | .finalized id requestId wallet pipeline =>
      pipeline.contributions.winner = some wallet ∧
        ledger.b3lite.enabled (.record id (config.receipt requestId wallet pipeline))
  | .audit stimulus => ledger.b3lite.enabled (.audit stimulus)
  | .crash _ _ => True

/-- The ledger as a system of events. -/
def system (config : LedgerConfig) : System Ledger LedgerEvent where
  enabled := enabled config
  next := next config

/-- The query leaves the row out for the sake of the consequence. -/
structure Excludes (ledger : Ledger) (entry : SubmissionId × Lifecycle.Submission)
    (consequence : B3LiteConsequence) : Prop where
  payable : entry ∈ ledger.treasury.db.listUnpaidPublished []
  withheld : consequence ∈ ledger.b3lite.tables.withheld
  request : consequence.requestId = entry.2.requestId

/-- A withheld payment hits the response that was found divergent: the receipt behind
it is one for the row's request, wallet and response. -/
def HitsDivergent (ledger : Ledger) : Prop :=
  ∀ entry consequence, ledger.Excludes entry consequence →
    ∃ receipt, ledger.b3lite.tables.receipts.get? consequence.receiptId = some receipt ∧
      receipt.requestId = entry.2.requestId ∧ AnswersTo receipt entry.2.toNewSubmission

/-- The response of each row that may still be paid is that of the receipt. -/
def SoleResponse (ledger : Ledger) (receipt : B3LiteReceipt) : Prop :=
  ∀ id row, ledger.treasury.db.submissions.find? id = some row → row.Unsettled →
    row.requestId = receipt.requestId → AnswersTo receipt row.toNewSubmission

/-- The condition on a step: pay is withheld for a receipt only while each row of its
request that may still be paid is for the same response, and after that a row is
created for the request only if it is. -/
def OneResponse (ledger : Ledger) : LedgerEvent → Prop
  | .treasury (.service (.create row _)) =>
      ∀ consequence ∈ ledger.b3lite.tables.withheld, consequence.requestId = row.requestId →
        ∀ receipt, ledger.b3lite.tables.receipts.get? consequence.receiptId = some receipt →
          AnswersTo receipt row
  | .audit stimulus =>
      stimulus.event.stores = true → ∀ receipt, ledger.b3lite.auditor.tick.owed = some receipt →
        ledger.SoleResponse receipt
  | .crash written _ =>
      written = true → ∀ receipt, ledger.b3lite.auditor.tick.owed = some receipt →
        ledger.SoleResponse receipt
  | _ => True

/-- The invariant: whatever may still be paid is for the response that its pay is
withheld for. -/
structure Matched (ledger : Ledger) : Prop where
  lifecycle : ledger.treasury.service.Sound
  audit : ledger.b3lite.Sound
  rows : ∀ id row, ledger.treasury.db.submissions.find? id = some row → row.Unsettled →
    ∀ consequence ∈ ledger.b3lite.tables.withheld, consequence.requestId = row.requestId →
      ∀ receipt, ledger.b3lite.tables.receipts.get? consequence.receiptId = some receipt →
        AnswersTo receipt row.toNewSubmission

variable {config : LedgerConfig} {ledger : Ledger} {event : LedgerEvent}

theorem matched_new (trustedWallets : List Wallet) : (new trustedWallets).Matched where
  lifecycle := Service.sound_new
  audit := .of_idle rfl fun _ mem => absurd mem List.not_mem_nil
  rows := fun _ _ found => by cases found

/-- What the invariant says of the rows that are left out. -/
theorem Matched.hitsDivergent (matched : ledger.Matched) : ledger.HitsDivergent := by
  rintro ⟨id, row⟩ consequence ⟨payable, withheld, request⟩
  rcases matched.audit.backed consequence (Tables.mem_withheld.mp withheld).1 with
    ⟨receipt, found, -, about, -⟩
  have selected := Table.mem_select.mp payable
  have conditions := selected.2
  simp only [Bool.and_eq_true, decide_eq_true_eq, Bool.not_eq_true'] at conditions
  have unsettled : row.Unsettled := ⟨by rw [conditions.1.1]; decide, conditions.1.2⟩
  exact ⟨receipt, found, about.trans request,
    matched.rows id row selected.1 unsettled consequence withheld request receipt found⟩

/-! ### Steps -/

/-- A write of the auditor changes nothing about a receipt but its audit. -/
theorem find_of_write {tables : Tables} {tick : Tick} {written : Bool} {id : Nat}
    {now : B3LiteReceipt}
    (found : (if written then tables.carryOut tick else tables).receipts.get? id = some now) :
    ∃ before, tables.receipts.get? id = some before ∧
      now.minerWallet = before.minerWallet ∧ now.responseHash = before.responseHash := by
  cases written with
  | false => exact ⟨now, found, rfl, rfl⟩
  | true =>
      have marked : ∀ {receiptId status detail},
          (tables.markB3liteAuditResult receiptId status detail).receipts.get? id = some now →
            ∃ before, tables.receipts.get? id = some before ∧
              now.minerWallet = before.minerWallet ∧ now.responseHash = before.responseHash := by
        intro receiptId status detail found
        rcases Tables.find_of_mark found with ⟨before, stood, rfl⟩ | stood
        · exact ⟨before, stood, rfl, rfl⟩
        · exact ⟨now, stood, rfl, rfl⟩
      cases tick with
      | closing reason receipt rest => exact marked found
      | marking positions receipt rest => exact marked found
      | _ => exact ⟨now, found, rfl, rfl⟩

/-- A write of the auditor withholds the pay for the receipt it owes. -/
theorem mem_withheld_write {tables : Tables} {tick : Tick} {written : Bool}
    {consequence : B3LiteConsequence}
    (mem : consequence ∈ (if written then tables.carryOut tick else tables).withheld) :
    consequence ∈ tables.withheld ∨
      written = true ∧ ∃ receipt, tick.owed = some receipt ∧
        consequence.receiptId = receipt.id ∧ consequence.requestId = receipt.requestId := by
  obtain ⟨stands, withholds⟩ := Tables.mem_withheld.mp mem
  rcases Tables.mem_write stands with old | ⟨isWritten, receipt, punished⟩
  · exact .inl (Tables.mem_withheld.mpr ⟨old, withholds⟩)
  · exact .inr ⟨isWritten, receipt, punished.owed withholds, punished.receiptId,
      punished.requestId⟩

/-- The rows after a write that the auditor was waiting for. -/
theorem Matched.write (matched : ledger.Matched) (written : Bool)
    (guarded : written = true → ∀ receipt, ledger.b3lite.auditor.tick.owed = some receipt →
      ledger.SoleResponse receipt)
    {tables : Tables} (wrote : tables = if written then
      ledger.b3lite.tables.carryOut ledger.b3lite.auditor.tick else ledger.b3lite.tables)
    (id : SubmissionId) (row : Lifecycle.Submission)
    (stands : ledger.treasury.db.submissions.find? id = some row) (unsettled : row.Unsettled)
    (consequence : B3LiteConsequence) (withheld : consequence ∈ tables.withheld)
    (request : consequence.requestId = row.requestId) (now : B3LiteReceipt)
    (found : tables.receipts.get? consequence.receiptId = some now) :
    AnswersTo now row.toNewSubmission := by
  subst wrote
  obtain ⟨before, stood, wallet, response⟩ := find_of_write found
  rcases mem_withheld_write withheld with old | ⟨wrote, receipt, owed, same, about⟩
  · exact (matched.rows id row stands unsettled consequence old request before stood).of_same wallet
      response
  · have answers := guarded wrote receipt owed id row stands unsettled (request.symm.trans about)
    obtain ⟨⟨status, detail, kept⟩, -⟩ := matched.audit.guilty receipt (Tick.guilty_of_owed owed)
    rw [same, kept] at stood
    cases stood
    exact answers.of_same wallet response

/-- Every guarded step keeps the rows matched. -/
theorem Matched.next (matched : ledger.Matched) (enabled : ledger.enabled config event)
    (guarded : ledger.OneResponse event) : (ledger.next config event).Matched := by
  cases event with
  | treasury event =>
      constructor
      · exact Treasury.sound_next matched.lifecycle enabled.2.2
      · exact matched.audit
      · intro id kept found unsettled consequence withheld request receipt recorded
        rcases Treasury.unsettled_before matched.lifecycle found unsettled with
          ⟨outcome, rfl⟩ | ⟨row, stood, created, before⟩
        · exact guarded consequence withheld request receipt recorded
        · rw [created]
          rw [congrArg NewSubmission.requestId created] at request
          exact matched.rows id row stood before consequence withheld request receipt recorded
  | finalized id requestId wallet pipeline =>
      refine ⟨matched.lifecycle, matched.audit.next enabled.2, ?_⟩
      intro row kept found unsettled consequence withheld request receipt recorded
      apply matched.rows row kept found unsettled consequence withheld request receipt
      have fresh : ledger.b3lite.tables.receipts.get? id = none := enabled.2
      rcases matched.audit.backed consequence (Tables.mem_withheld.mp withheld).1 with
        ⟨held, stood, -⟩
      have ne : consequence.receiptId ≠ id := by
        intro same
        rw [same, fresh] at stood
        cases stood
      exact (Tables.get?_createB3liteReceipt_of_ne ne).symm.trans recorded
  | audit stimulus =>
      have offered : ledger.b3lite.enabled (.audit stimulus) := enabled
      refine ⟨matched.lifecycle, matched.audit.next offered, ?_⟩
      exact matched.write stimulus.event.stores guarded rfl
  | crash written trustedWallets =>
      have offered : ledger.b3lite.enabled (.restart written trustedWallets) := trivial
      have down : (ledger.treasury.service.next config.payout.pool .crash).Sound :=
        Service.sound_crash
      refine ⟨down, matched.audit.next offered, ?_⟩
      exact matched.write written guarded rfl

/-- Along every run in which a request has one response whenever its pay is
withheld, each payment that is withheld is one for the response that was found
divergent. -/
theorem hits_divergent_of_oneResponse {trustedWallets : List Wallet} {events : List LedgerEvent}
    (run : (system config).RunWith OneResponse (new trustedWallets) events ledger) :
    ledger.HitsDivergent :=
  (run.invariant (matched_new trustedWallets)
    fun _ _ matched enabled guarded => matched.next enabled guarded).hitsDivergent

/-! ### An example deployment -/

/-- A deployment that samples every response. -/
def soleLedger : LedgerConfig :=
  ⟨Treasury.soleConfig, id, fun _ message => message, ⟨[], fun _ => true⟩⟩

/-- A finished pipeline of one token, all of it computed by the wallet. -/
def finished (wallet : Wallet) (tokenId : TokenId) : Shard.PipelineState where
  shards := []
  manifest := ⟨"model", "DENSE", 4, "root", "ACTIVE"⟩
  promptHash := "prompt-hash"
  maxTokens := 1
  pos := 0
  tokenIndex := 0
  currentInput := .prompt ""
  originalPromptHex := ""
  generatedTokenIds := [tokenId]
  contributions := Contributions.credit ∅ wallet
  expertGroups := PartialMap.empty
  moeLayerWalk := none

/-- Its row. -/
def finishedRow (wallet : Wallet) (tokenId : TokenId) : NewSubmission :=
  Shard.ShardEngine.finalRow id "r" (finished wallet tokenId) wallet

/-- Its receipt, as it is stored. -/
def finishedReceipt (id : Nat) (wallet : Wallet) (tokenId : TokenId) : B3LiteReceipt :=
  (soleLedger.receipt "r" wallet (finished wallet tokenId)).row id

/-- The first start, and two pipelines for the request: the row of the first is not
taken, that of the second is. -/
def servedTwice : List LedgerEvent :=
  [.treasury (.service (.boot [])), .treasury (.service .serve),
    .finalized 7 "r" "first" (finished "first" 5),
    .treasury (.service (.create (finishedRow "first" 5) .failed)),
    .finalized 8 "r" "second" (finished "second" 6),
    .treasury (.service (.create (finishedRow "second" 6) .done))]

/-- The row is committed and revealed. -/
def revealedOnce : List LedgerEvent :=
  [.treasury (.service (.commit 1 (.answered "a" (.ok Service.soleCommit)))),
    .treasury (.service (.commit 1 (.written .done))),
    .treasury (.service (.commit 1 (.written .done))),
    .treasury (.service (.tickBegin 9
      [[{ Service.soleCandidate with responseHash := "06000000" }]])),
    .treasury (.service (.revealAnswered (.accepted "x"))),
    .treasury (.service (.tickWritten .done)), .treasury (.service (.tickWritten .done))]

/-- The ledger then. -/
def revealed : Ledger :=
  (system soleLedger).execute (new []) (servedTwice ++ revealedOnce)

/-- The row is published. -/
def publishedOnce : List LedgerEvent :=
  [.treasury (.service (.listed (some revealed.treasury.db.listRevealedUnpublished))),
    .treasury (.service (.contentSubmitted true)), .treasury (.requestFetched true),
    .treasury (.service (.tickWritten .done))]

/-- The first of the receipts is audited and found divergent. -/
def convictingEvents (pending : List B3LiteReceipt) : List LedgerEvent :=
  [.audit ⟨.new, .tickBegin⟩, .audit ⟨.new, .listed (some pending)⟩,
    .audit ⟨.new, .resolved (some ⟨"gguf", "tokenizer", "tokenizer-hash"⟩) true⟩,
    .audit ⟨.new, .replayed (.ok [⟨0, 5, 6, false⟩])⟩, .audit ⟨.new, .marked true⟩]

/-- Its pay is withheld. -/
def withholdingEvent : LedgerEvent :=
  .audit ⟨.new, .inserted true⟩

/-- The ledger with the row published. -/
def published : Ledger :=
  (system soleLedger).execute revealed publishedOnce

theorem revealed_run :
    (system soleLedger).RunWith OneResponse (new []) (servedTwice ++ revealedOnce) revealed := by
  apply System.Admits.runWith
  exact ⟨⟨⟨nofun, nofun, nofun, rfl, .refl _⟩, trivial⟩, ⟨⟨nofun, nofun, nofun, rfl, rfl⟩, trivial⟩,
    ⟨⟨by decide, rfl⟩, trivial⟩,
    ⟨⟨nofun, nofun, nofun, rfl⟩, fun _ mem => absurd mem List.not_mem_nil⟩,
    ⟨⟨by decide, rfl⟩, trivial⟩,
    ⟨⟨nofun, nofun, nofun, rfl⟩, fun _ mem => absurd mem List.not_mem_nil⟩,
    ⟨⟨nofun, nofun, nofun, _, rfl, List.mem_singleton_self "a"⟩, trivial⟩,
    ⟨⟨nofun, nofun, nofun, _, rfl, trivial⟩, trivial⟩,
    ⟨⟨nofun, nofun, nofun, _, rfl, trivial⟩, trivial⟩,
    ⟨⟨nofun, nofun, nofun, rfl, rfl, ⟨.refl _, by decide, by decide⟩⟩, trivial⟩,
    ⟨⟨nofun, nofun, nofun, _, _, _, rfl⟩, trivial⟩,
    ⟨⟨nofun, nofun, nofun, rfl⟩, trivial⟩, ⟨⟨nofun, nofun, nofun, rfl⟩, trivial⟩, trivial⟩

theorem published_run :
    (system soleLedger).RunWith OneResponse (new []) (servedTwice ++ revealedOnce ++ publishedOnce)
      published := by
  apply revealed_run.append
  apply System.Admits.runWith
  exact ⟨⟨⟨nofun, nofun, nofun, rfl, .refl _⟩, trivial⟩,
    ⟨⟨nofun, nofun, nofun, _, _, rfl⟩, trivial⟩, ⟨⟨nofun, nofun, _, _, rfl⟩, trivial⟩,
    ⟨⟨nofun, nofun, nofun, rfl⟩, trivial⟩, trivial⟩

/-- The receipts of the two pipelines. -/
def firstReceipt : B3LiteReceipt :=
  finishedReceipt 7 "first" 5

def secondReceipt : B3LiteReceipt :=
  finishedReceipt 8 "second" 6

/-- The only row. -/
theorem submissions_published {id : SubmissionId} {row : Lifecycle.Submission}
    (found : published.treasury.db.submissions.find? id = some row) :
    row.toNewSubmission = finishedRow "second" 6 := by
  have entry := IndexMap.get?_eq_some_iff_mem.mp found
  have only : published.treasury.db.submissions.rows.entries.map
      (fun entry => entry.2.toNewSubmission) = [finishedRow "second" 6] := by decide +kernel
  have mem := List.mem_map_of_mem (f := fun entry : Nat × Lifecycle.Submission =>
    entry.2.toNewSubmission) entry
  rw [only] at mem
  exact List.mem_singleton.mp mem

/-- No pay is owed where the auditor is not about to withhold it. -/
theorem oneResponse_of_unowed {stimulus : Audit.Stimulus}
    (unowed : ledger.b3lite.auditor.tick.owed = none) : ledger.OneResponse (.audit stimulus) := by
  intro _ receipt owed
  rw [unowed] at owed
  cases owed

/-- The ledger in which the receipt is convicted. -/
def convicted (receipt other : B3LiteReceipt) : Ledger :=
  (system soleLedger).execute published (convictingEvents [receipt, other])

/-- The ledger in which its pay is withheld as well. -/
def withholding (receipt other : B3LiteReceipt) : Ledger :=
  (system soleLedger).next (convicted receipt other) withholdingEvent

/-- The second receipt is one for the only row. -/
theorem soleResponse_convicted {other : B3LiteReceipt} :
    (convicted secondReceipt other).SoleResponse secondReceipt := by
  have same : (convicted secondReceipt other).treasury.db = published.treasury.db := rfl
  intro id row found _ _
  rw [same] at found
  rw [submissions_published found]
  exact ⟨rfl, rfl⟩

/-- The row is left out for the sake of the receipt's consequence. -/
theorem exists_excludes {receipt other : B3LiteReceipt} {consequence : B3LiteConsequence}
    (withheld : consequence ∈ (withholding receipt other).b3lite.tables.withheld)
    (request : consequence.requestId = "r") :
    ∃ entry, (withholding receipt other).Excludes entry consequence ∧
      entry.2.toNewSubmission = finishedRow "second" 6 := by
  have due : published.treasury.db.listUnpaidPublished [] ≠ [] := by decide +kernel
  obtain ⟨⟨id, row⟩, payable⟩ := List.exists_mem_of_ne_nil _ due
  have same := submissions_published (Table.mem_select.mp payable).1
  refine ⟨(id, row), ⟨?_, withheld, ?_⟩, same⟩
  · exact payable
  · rw [request, congrArg NewSubmission.requestId same]
    rfl

/-- An instance of `hits_divergent_of_oneResponse`: the second receipt is convicted,
and the row held back is its response. -/
theorem hits_divergent_of_oneResponse_sole :
    (∃ entry consequence, (withholding secondReceipt firstReceipt).Excludes entry consequence) ∧
      (withholding secondReceipt firstReceipt).HitsDivergent := by
  have convicts : (system soleLedger).RunWith OneResponse published
      (convictingEvents [secondReceipt, firstReceipt]) (convicted secondReceipt firstReceipt) := by
    apply System.Admits.runWith
    exact ⟨⟨⟨rfl, trivial⟩, oneResponse_of_unowed rfl⟩,
      ⟨⟨rfl, .swap _ _ _⟩, oneResponse_of_unowed rfl⟩,
      ⟨⟨⟨_, _, rfl⟩, trivial⟩, oneResponse_of_unowed rfl⟩,
      ⟨⟨⟨_, _, rfl⟩, trivial⟩, oneResponse_of_unowed rfl⟩,
      ⟨⟨⟨_, _, .inr ⟨_, rfl⟩⟩, trivial⟩, oneResponse_of_unowed rfl⟩, trivial⟩
  have enabled : (convicted secondReceipt firstReceipt).enabled soleLedger withholdingEvent :=
    ⟨⟨_, _, .inl rfl⟩, trivial⟩
  have guarded : (convicted secondReceipt firstReceipt).OneResponse withholdingEvent := by
    have owes : (convicted secondReceipt firstReceipt).b3lite.auditor.tick.owed =
        some secondReceipt := rfl
    intro _ receipt owed
    rw [owes] at owed
    cases owed
    exact soleResponse_convicted
  have withheld : ⟨8, "second", "r", .withholdPay, divergenceReason secondReceipt⟩ ∈
      (withholding secondReceipt firstReceipt).b3lite.tables.withheld := List.mem_singleton_self _
  obtain ⟨entry, excludes, -⟩ := exists_excludes withheld rfl
  exact ⟨⟨entry, _, excludes⟩,
    hits_divergent_of_oneResponse ((published_run.append convicts).snoc enabled guarded)⟩

/-- The receipt of the pipeline whose row was not taken is convicted, and holds back
the pay for the other miner's response. -/
theorem withheld_from_other_miner :
    ∃ events ledger, (system soleLedger).Run (new []) events ledger ∧ ¬ ledger.HitsDivergent := by
  have convicts : (system soleLedger).Run published
      (convictingEvents [firstReceipt, secondReceipt]) (convicted firstReceipt secondReceipt) := by
    apply System.Admits.runWith
    exact ⟨⟨⟨rfl, trivial⟩, trivial⟩, ⟨⟨rfl, .refl _⟩, trivial⟩, ⟨⟨⟨_, _, rfl⟩, trivial⟩, trivial⟩,
      ⟨⟨⟨_, _, rfl⟩, trivial⟩, trivial⟩, ⟨⟨⟨_, _, .inr ⟨_, rfl⟩⟩, trivial⟩, trivial⟩, trivial⟩
  have enabled : (convicted firstReceipt secondReceipt).enabled soleLedger withholdingEvent :=
    ⟨⟨_, _, .inl rfl⟩, trivial⟩
  have withheld : ⟨7, "first", "r", .withholdPay, divergenceReason firstReceipt⟩ ∈
      (withholding firstReceipt secondReceipt).b3lite.tables.withheld := List.mem_singleton_self _
  refine ⟨_, withholding firstReceipt secondReceipt,
    (published_run.run.append convicts).snoc enabled trivial, ?_⟩
  intro hits
  obtain ⟨entry, excludes, same⟩ := exists_excludes withheld rfl
  obtain ⟨receipt, found, -, answers⟩ := hits entry _ excludes
  have owner : ((withholding firstReceipt secondReceipt).b3lite.tables.receipts.get? 7).map
      B3LiteReceipt.minerWallet = some "first" := rfl
  rw [found, Option.map_some, answers.minerWallet, same] at owner
  exact absurd (Option.some.inj owner) (by decide)

end Ledger

end StratumBridge.Bridge
