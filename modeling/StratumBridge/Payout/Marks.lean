import StratumBridge.Payout.Rewards

/-!
# What a payout tick marks

The tick adds up rows and remembers their requests; `mark_paid` goes by the
requests.  A request can have FAILED rows beside the one that was added up, and
these are marked with it.  Where no other row has the request of a row that was
added up, the tick marks exactly what it pays.
-/

namespace StratumBridge.Payout

open Data Wire Lifecycle Transition

namespace Treasury

/-- A payout tick whose `sendmany` succeeds: it reads some rows, and its batch is
on the way to `mark_paid`; other tasks go on in between. -/
structure PaysFor (config : Config) (before : Treasury)
    (unpaid : List (SubmissionId × Submission)) (during : List Event) (finish : Treasury)
    (txid : String) : Prop where
  listed : before.enabled (.unpaidListed (some unpaid))
  run : (system config).RunWith (fun _ event => ∀ rows, event ≠ .unpaidListed rows)
    (before.next config (.unpaidListed (some unpaid))) during finish
  marking : finish.tick = .marking unpaid txid

/-- A row that a payout may pay to a wallet: published, unpaid and not withheld. -/
structure Payable (before : Treasury) (wallet : Wallet) (entry : SubmissionId × Submission) :
    Prop where
  found : before.db.submissions.find? entry.1 = some entry.2
  wallet : entry.2.minerWallet = wallet
  published : entry.2.status = .published
  unpaid : entry.2.paid = false
  allowed : entry.2.requestId ∉ before.withheld

/-- The paid flag of a row is set. -/
def BecomesPaid (db after : Database) (id : SubmissionId) : Prop :=
  (∃ row, db.submissions.find? id = some row ∧ row.paid = false) ∧
    ∃ now, after.submissions.find? id = some now ∧ now.paid = true

/-- `mark_paid` writes a row, if only its `updated_at`. -/
def Written (requestIds : List RequestId) (db : Database) (id : SubmissionId) : Prop :=
  ∃ row, db.submissions.find? id = some row ∧ row.requestId ∈ requestIds

/-- The batch pays each wallet for a set of rows that may be paid to it, and the
rows of these sets are the ones that are marked; the others are left alone. -/
structure MarksSummed (config : Config) (before finish after : Treasury) (batch : Batch)
    (summed : Wallet → List (SubmissionId × Submission)) : Prop where
  nodup : ∀ wallet, ((summed wallet).map Prod.fst).Nodup
  payable : ∀ wallet, ∀ entry ∈ summed wallet, before.Payable wallet entry
  amounts : ∀ wallet amount, (wallet, amount) ∈ batch.amounts →
    amount = config.terms.feeFactor *
      ((summed wallet).filterMap fun entry => entry.2.rewardAmount).sum
  marked : ∀ id, BecomesPaid finish.db after.db id ↔
    ∃ wallet amount, (wallet, amount) ∈ batch.amounts ∧ id ∈ (summed wallet).map Prod.fst
  others : ∀ id, ¬ BecomesPaid finish.db after.db id →
    ¬ Written batch.requestIds finish.db id ∧
      after.db.submissions.find? id = finish.db.submissions.find? id

/-- No other row has the request of a row that goes into the batch. -/
def SoleRows (terms : Terms) (unpaid : List (SubmissionId × Submission)) (db : Database) : Prop :=
  ∀ entry ∈ unpaid, terms.includes (unpaid.map Prod.snd) entry.2 = true →
    ∀ id row, db.submissions.find? id = some row → row.requestId = entry.2.requestId →
      id = entry.1

section Tick

variable {config : Config} {before finish treasury : Treasury} {during : List Event}
variable {event : Event} {txid : String} {unpaid : List (SubmissionId × Submission)}
variable {id : SubmissionId} {row : Submission}

/-! ## The rows while the tick waits -/

/-- Every row stays, as created and as paid. -/
def KeepsRows (db after : Database) : Prop :=
  ∀ id row, db.submissions.find? id = some row →
    ∃ kept, after.submissions.find? id = some kept ∧
      kept.toNewSubmission = row.toNewSubmission ∧ kept.paid = row.paid

theorem keepsRows_refl (db : Database) : KeepsRows db db :=
  fun _ row found => ⟨row, found, rfl, rfl⟩

theorem KeepsRows.trans {db between after : Database} (first : KeepsRows db between)
    (second : KeepsRows between after) : KeepsRows db after := by
  intro id row found
  obtain ⟨kept, stands, created, paid⟩ := first id row found
  obtain ⟨now, stays, createdToo, paidToo⟩ := second id kept stands
  exact ⟨now, stays, createdToo.trans created, paidToo.trans paid⟩

/-- Only `mark_paid` changes what is paid. -/
theorem keepsRows_next (config : Config) (treasury : Treasury)
    (unmarked : ∀ outcome, event ≠ .marked outcome) :
    KeepsRows treasury.db (treasury.next config event).db := by
  cases event with
  | service event =>
      intro id row found
      exact (Service.writes_next config.pool treasury.service event).keeps found
  | requestFetched found =>
      simp only [Treasury.next, Treasury.requestFetched]
      split
      · intro id row stands
        exact (Service.writes_next config.pool treasury.service _).keeps stands
      · exact keepsRows_refl _
  | withhold requestId => exact keepsRows_refl _
  | unpaidListed rows => cases rows <;> exact keepsRows_refl _
  | sent answer =>
      simp only [Treasury.next, Treasury.sent]
      split <;> exact keepsRows_refl _
  | marked outcome => exact absurd rfl (unmarked outcome)

/-- The tick is over, or has its rows and they stand as they were read. -/
def OverOrHeld (before treasury : Treasury) : Prop :=
  treasury.tick = .idle ∨ KeepsRows before.db treasury.db

theorem OverOrHeld.next (held : before.OverOrHeld treasury)
    (relists : ∀ rows, event ≠ .unpaidListed rows) (enabled : treasury.enabled event) :
    before.OverOrHeld (treasury.next config event) := by
  by_cases marks : ∃ outcome, event = .marked outcome
  · rcases marks with ⟨outcome, rfl⟩
    rcases enabled with ⟨unpaid, txid, marking⟩
    left
    simp only [Treasury.next, Treasury.marked, marking]
  · have unmarked : ∀ outcome, event ≠ .marked outcome :=
      fun outcome same => marks ⟨outcome, same⟩
    rcases held with ended | kept
    · left
      cases event with
      | service event =>
          cases event with
          | crash => rfl
          | _ => exact ended
      | requestFetched found =>
          simp only [Treasury.next, Treasury.requestFetched]
          split <;> exact ended
      | withhold requestId => exact ended
      | unpaidListed rows => exact absurd rfl (relists rows)
      | sent answer =>
          rcases enabled with ⟨unpaid, sending⟩
          cases ended.symm.trans sending
      | marked outcome => exact absurd rfl (unmarked outcome)
    · exact .inr (kept.trans (keepsRows_next config treasury unmarked))

namespace PaysFor

variable (pays : before.PaysFor config unpaid during finish txid)
include pays

theorem keepsRows : KeepsRows before.db finish.db := by
  have listedOnly : before.OverOrHeld (before.next config (.unpaidListed (some unpaid))) :=
    .inr (keepsRows_next config before nofun)
  have held : before.OverOrHeld finish :=
    pays.run.invariant listedOnly fun _ _ held enabled relists => held.next relists enabled
  rcases held with ended | kept
  · cases ended.symm.trans pays.marking
  · exact kept

/-- The rows that were read may be paid. -/
theorem payable {entry : SubmissionId × Submission} (mem : entry ∈ unpaid) :
    before.Payable entry.2.minerWallet entry := by
  have selected := Table.mem_select.mp (pays.listed.2.2.mem_iff.mp mem)
  have conditions := selected.2
  simp only [Bool.and_eq_true, Bool.not_eq_true', decide_eq_true_eq, List.contains_eq_mem,
    decide_eq_false_iff_not] at conditions
  exact ⟨selected.1, rfl, conditions.1.1, conditions.1.2, conditions.2⟩

/-- `mark_paid` runs on the requests of the batch. -/
theorem ran : finish.db.markPaid (config.terms.batchOf unpaid).requestIds txid =
    some (finish.next config (.marked .done)).db := by
  rcases Database.exists_markPaid finish.db (config.terms.batchOf unpaid).requestIds txid with
    ⟨after, ran⟩
  rw [Treasury.next, Treasury.marked, pays.marking]
  change _ = some (Outcome.settle .done (finish.db.markPaid _ txid) finish.db)
  rw [ran]
  rfl

/-- The rows that are marked: the unpaid ones of the batch's requests. -/
theorem becomesPaid_iff :
    BecomesPaid finish.db (finish.next config (.marked .done)).db id ↔
      ∃ row, finish.db.submissions.find? id = some row ∧ row.paid = false ∧
        row.requestId ∈ (config.terms.batchOf unpaid).requestIds := by
  constructor
  · rintro ⟨⟨row, found, unpaid⟩, now, stands, paid⟩
    obtain ⟨kept, stays, -, -, isPaid⟩ := Database.find?_markPaid pays.ran found
    cases stands.symm.trans stays
    rcases isPaid.mp paid with request | wasPaid
    · exact ⟨row, found, unpaid, request⟩
    · cases unpaid.symm.trans wasPaid
  · rintro ⟨row, found, unpaid, request⟩
    obtain ⟨now, stands, -, -, isPaid⟩ := Database.find?_markPaid pays.ran found
    exact ⟨⟨row, found, unpaid⟩, now, stands, isPaid.mpr (.inl request)⟩

/-- A row of the batch as it stands when the batch is marked. -/
theorem exists_row {entry : SubmissionId × Submission} (mem : entry ∈ unpaid) :
    ∃ row, finish.db.submissions.find? entry.1 = some row ∧ row.paid = false ∧
      row.requestId = entry.2.requestId := by
  have payable := pays.payable mem
  obtain ⟨row, found, created, paid⟩ := pays.keepsRows _ _ payable.found
  exact ⟨row, found, paid.trans payable.unpaid, congrArg NewSubmission.requestId created⟩

/-- Every row that goes into the batch is marked. -/
theorem becomesPaid_of_includes {entry : SubmissionId × Submission} (mem : entry ∈ unpaid)
    (included : config.terms.includes (unpaid.map Prod.snd) entry.2 = true) :
    BecomesPaid finish.db (finish.next config (.marked .done)).db entry.1 := by
  obtain ⟨row, found, notPaid, request⟩ := pays.exists_row mem
  rw [pays.becomesPaid_iff]
  refine ⟨row, found, notPaid, mem_requestIds.mpr ?_⟩
  exact ⟨entry.2, List.mem_map_of_mem mem, included, request.symm⟩

end PaysFor

/-! ## The rows of a batch -/

/-- The rows that are added up for a wallet. -/
def summedFor (terms : Terms) (unpaid : List (SubmissionId × Submission)) (wallet : Wallet) :
    List (SubmissionId × Submission) :=
  unpaid.filter fun entry =>
    terms.includes (unpaid.map Prod.snd) entry.2 && decide (entry.2.minerWallet = wallet)

theorem mem_summedFor {terms : Terms} {wallet : Wallet} {entry : SubmissionId × Submission} :
    entry ∈ summedFor terms unpaid wallet ↔
      entry ∈ unpaid ∧ terms.includes (unpaid.map Prod.snd) entry.2 = true ∧
        entry.2.minerWallet = wallet := by
  rw [summedFor, List.mem_filter, Bool.and_eq_true, decide_eq_true_eq]

/-- These rows bring all the rewards of a wallet that is paid. -/
theorem rewards_summedFor {terms : Terms} {wallet : Wallet} {amount : Rat}
    (paid : (wallet, amount) ∈ (terms.batchOf unpaid).amounts) :
    ((summedFor terms unpaid wallet).filterMap fun entry => entry.2.rewardAmount) =
      rewardsOf (unpaid.map Prod.snd) wallet := by
  rw [summedFor, rewardsOf, List.filterMap_filter, List.filterMap_map]
  apply List.filterMap_congr
  rintro ⟨id, row⟩ -
  by_cases theirs : row.minerWallet = wallet
  · cases reward : row.rewardAmount with
    | none => simp [reward]
    | some reward =>
        have included : terms.includes (unpaid.map Prod.snd) row = true := by
          rw [Terms.includes, reward, Option.isSome_some, Bool.true_and, List.any_eq_true]
          exact ⟨(wallet, amount), paid, by simp [theirs]⟩
        simp [included, theirs, reward]
  · simp [theirs]

/-- The tick marks what it pays when no other row has a request of the batch. -/
theorem PaysFor.marksSummed (pays : before.PaysFor config unpaid during finish txid)
    (sole : SoleRows config.terms unpaid finish.db) :
    MarksSummed config before finish (finish.next config (.marked .done))
      (config.terms.batchOf unpaid) (summedFor config.terms unpaid) := by
  have owned : ∀ {id row}, finish.db.submissions.find? id = some row →
      row.requestId ∈ (config.terms.batchOf unpaid).requestIds →
      ∃ read, (id, read) ∈ unpaid ∧
        config.terms.includes (unpaid.map Prod.snd) read = true := by
    intro id row found request
    obtain ⟨read, listed, included, same⟩ := mem_requestIds.mp request
    obtain ⟨entry, mem, rfl⟩ := List.mem_map.mp listed
    cases sole entry mem included id row found same.symm
    exact ⟨entry.2, mem, included⟩
  constructor
  · intro wallet
    exact (nodup_listed pays.listed.2.2).sublist (List.filter_sublist.map Prod.fst)
  · intro wallet entry mem
    obtain ⟨read, -, rfl⟩ := mem_summedFor.mp mem
    exact pays.payable read
  · intro wallet amount paid
    rw [rewards_summedFor paid, mul_comm]
    exact amount_eq paid
  · intro id
    constructor
    · intro becomes
      obtain ⟨row, found, -, request⟩ := pays.becomesPaid_iff.mp becomes
      obtain ⟨read, mem, included⟩ := owned found request
      obtain ⟨reward, amount, -, paid⟩ := exists_amount included
      exact ⟨read.minerWallet, amount, paid,
        List.mem_map.mpr ⟨(id, read), mem_summedFor.mpr ⟨mem, included, rfl⟩, rfl⟩⟩
    · rintro ⟨wallet, amount, -, mem⟩
      obtain ⟨entry, summed, rfl⟩ := List.mem_map.mp mem
      obtain ⟨read, included, -⟩ := mem_summedFor.mp summed
      exact pays.becomesPaid_of_includes read included
  · intro id unmarked
    have unwritten : ¬ Written (config.terms.batchOf unpaid).requestIds finish.db id := by
      rintro ⟨row, found, request⟩
      obtain ⟨read, mem, included⟩ := owned found request
      exact unmarked (pays.becomesPaid_of_includes mem included)
    refine ⟨unwritten, Database.find?_markPaid_of_unlisted pays.ran ?_⟩
    exact fun row found request => unwritten ⟨row, found, request⟩

/-- A tick that marks what it pays found no other row with a request of its
batch. -/
theorem PaysFor.soleRows (pays : before.PaysFor config unpaid during finish txid)
    {summed : Wallet → List (SubmissionId × Submission)}
    (marks : MarksSummed config before finish (finish.next config (.marked .done))
      (config.terms.batchOf unpaid) summed) : SoleRows config.terms unpaid finish.db := by
  intro entry mem included id row found sameRequest
  have request : row.requestId ∈ (config.terms.batchOf unpaid).requestIds :=
    mem_requestIds.mpr ⟨entry.2, List.mem_map_of_mem mem, included, sameRequest.symm⟩
  have becomes : BecomesPaid finish.db (finish.next config (.marked .done)).db id := by
    by_contra unmarked
    exact (marks.others id unmarked).1 ⟨row, found, request⟩
  obtain ⟨wallet, amount, -, listed⟩ := (marks.marked id).mp becomes
  obtain ⟨⟨_, read⟩, inSet, rfl⟩ := List.mem_map.mp listed
  have one := marks.payable wallet _ inSet
  have other := pays.payable mem
  obtain ⟨now, stands, created, -⟩ := pays.keepsRows _ _ one.found
  cases found.symm.trans stands
  have oneKey : read.activeRequest = some entry.2.requestId := by
    rw [Database.activeRequest_eq_some, one.published]
    exact ⟨by decide, (congrArg NewSubmission.requestId created).symm.trans sameRequest⟩
  have otherKey : entry.2.activeRequest = some entry.2.requestId := by
    rw [Database.activeRequest_eq_some, other.published]
    exact ⟨by decide, rfl⟩
  exact Table.eq_of_key_eq one.found other.found oneKey otherKey

end Tick

/-- A payout tick marks exactly the rows that it pays for if and only if no other
row of the table has the request of one of them. -/
theorem marks_summed_iff {config : Config} {before finish : Treasury} {during : List Event}
    {unpaid : List (SubmissionId × Submission)} {txid : String}
    (pays : before.PaysFor config unpaid during finish txid) :
    (∃ summed, MarksSummed config before finish (finish.next config (.marked .done))
      (config.terms.batchOf unpaid) summed) ↔ SoleRows config.terms unpaid finish.db :=
  ⟨fun ⟨_, marks⟩ => pays.soleRows marks, fun sole => ⟨_, pays.marksSummed sole⟩⟩

/-! ## A batch of two rows, and a request that was tried twice -/

/-- The tick that pays what is due. -/
theorem Due.paysFor {config : Config} {treasury : Treasury} (due : treasury.Due config) :
    PaysFor config treasury (treasury.db.listUnpaidPublished treasury.withheld)
      [.sent (.accepted "t")] ((system config).execute treasury treasury.payEvents) "t" where
  listed := ⟨due.serving, due.idle, .refl _⟩
  run := by
    have listed : (system config).RunWith (fun _ event => ∀ rows, event ≠ .unpaidListed rows)
        (treasury.next config (.unpaidListed
          (some (treasury.db.listUnpaidPublished treasury.withheld)))) [] _ := .nil
    exact listed.snoc ⟨_, due.sending⟩ nofun
  marking := by rw [due.execute]

/-- Two published rows of different requests. -/
theorem marks_summed_iff_published :
    (∃ summed, MarksSummed soleConfig (published true)
      ((system soleConfig).execute (published true) (published true).payEvents)
      (((system soleConfig).execute (published true) (published true).payEvents).next soleConfig
        (.marked .done)) (soleConfig.terms.batchOf (dueRows true)) summed) ↔
    SoleRows soleConfig.terms (dueRows true)
      ((system soleConfig).execute (published true) (published true).payEvents).db :=
  marks_summed_iff (due_published true).paysFor

/-- A request whose first row failed, and whose second is published. -/
def retriedDb : Database :=
  ((Database.empty.createSubmission Service.soleResponse).bind fun created =>
    (created.markFailed 1 "every stake failed").bind fun failed =>
      (failed.createSubmission Service.soleResponse).bind fun again =>
        again.markPublished 2 2).getD Database.empty

/-- The service on these rows. -/
def retried : Treasury :=
  { new with service := { Service.new with db := retriedDb, phase := .serving } }

theorem due_retried : retried.Due soleConfig where
  serving := rfl
  idle := rfl
  amounts := by decide +kernel

/-- The failed row is marked with the published one. -/
theorem failed_row_marked :
    ∃ unpaid during finish txid, PaysFor soleConfig retried unpaid during finish txid ∧
      ¬ ∃ summed, MarksSummed soleConfig retried finish
        (finish.next soleConfig (.marked .done)) (soleConfig.terms.batchOf unpaid) summed := by
  refine ⟨_, _, _, _, due_retried.paysFor, ?_⟩
  rintro ⟨summed, marks⟩
  have sole := due_retried.paysFor.soleRows marks
  rw [due_retried.execute] at sole
  have paid : 2 ∈ soleConfig.terms.included
      (retried.db.listUnpaidPublished retried.withheld) := by decide +kernel
  have requests : ∀ entry ∈ retried.db.listUnpaidPublished retried.withheld,
      entry.2.requestId = "r" := by decide +kernel
  have failed : ∃ row, retried.db.submissions.find? 1 = some row ∧ row.requestId = "r" :=
    ⟨_, rfl, rfl⟩
  obtain ⟨⟨_, row⟩, listed, rfl⟩ := List.mem_map.mp paid
  obtain ⟨mem, included⟩ := List.mem_filter.mp listed
  rcases failed with ⟨first, found, request⟩
  have same : 1 = 2 := sole _ mem included 1 first found (request.trans (requests _ mem).symm)
  omega

end Treasury

end StratumBridge.Payout
