import StratumBridge.Payout.Once

/-!
# Rewards that are paid

A row that becomes paid was summed into the batch with the reward that its
on-chain request offers, as long as the request is found whenever a row is
published, and no row is created for a request that has a FAILED one, since rows
are marked as paid by their request.
-/

namespace StratumBridge.Payout

open Data Wire Lifecycle Transition

/-- The rows that are published are held, and priced as the chain says. -/
def Prices (config : Config) (db : Database) : RevealTick → Prop
  | .publishing row rest => ∀ entry ∈ row :: rest, Treasury.Held db entry
  | .pricing row rest => ∀ entry ∈ row :: rest, Treasury.Held db entry
  | .markingPublished row reward rest =>
      (∀ entry ∈ row :: rest, Treasury.Held db entry) ∧
        reward = config.reward row.2.toNewSubmission
  | _ => True

section Prices

variable {config : Config} {db after : Database} {tick : RevealTick}
variable {rows : List (SubmissionId × Submission)}

theorem Prices.keep (prices : Prices config db tick)
    (kept : ∀ entry, Treasury.Held db entry → Treasury.Held after entry) :
    Prices config after tick := by
  cases tick with
  | publishing row rest => exact fun entry mem => kept entry (prices entry mem)
  | pricing row rest => exact fun entry mem => kept entry (prices entry mem)
  | markingPublished row reward rest =>
      exact ⟨fun entry mem => kept entry (prices.1 entry mem), prices.2⟩
  | _ => trivial

theorem prices_nextRow (held : ∀ entry ∈ rows, Treasury.Held db entry) :
    Prices config db (.nextRow rows) := by
  cases rows with
  | nil => trivial
  | cons row rest => exact held

theorem prices_nextGroup (groups : List (List RevealCandidate)) :
    Prices config db (.nextGroup groups) := by
  induction groups with
  | nil => trivial
  | cons group groups ih =>
      cases group with
      | nil => exact ih
      | cons candidate rest => trivial

theorem Prices.written (prices : Prices config db tick) : Prices config db tick.written := by
  cases tick with
  | markingAttempt candidate txid groups => trivial
  | markingSubmission candidate txid groups => exact prices_nextGroup groups
  | markingPublished row reward rest =>
      exact prices_nextRow fun entry mem => prices.1 entry (List.mem_cons_of_mem row mem)
  | _ => exact prices

theorem Prices.answered (prices : Prices config db tick) (answer : RevealAnswer) :
    Prices config db (tick.answered answer) := by
  cases tick with
  | revealing candidate rest groups =>
      cases answer with
      | accepted txid => trivial
      | _ => exact prices_nextGroup (rest :: groups)
  | _ => exact prices

theorem Prices.contentSubmitted (prices : Prices config db tick) (taken : Bool) :
    Prices config db (tick.contentSubmitted taken) := by
  cases tick with
  | publishing row rest =>
      cases taken with
      | true => exact prices
      | false => exact prices_nextRow fun entry mem => prices entry (List.mem_cons_of_mem row mem)
  | _ => exact prices

/-- A lifecycle event keeps the prices, if it is no look at a price. -/
theorem Prices.next {service : Service} {event : Lifecycle.Event} (pool : StakePool)
    (prices : Prices config service.db service.tick) (enabled : service.enabled event)
    (other : ∀ reward, event ≠ .priced reward) :
    Prices config (service.next pool event).db (service.next pool event).tick := by
  have writes := Service.writes_next pool service event
  have kept : ∀ entry, Treasury.Held service.db entry →
      Treasury.Held (service.next pool event).db entry := by
    rintro entry ⟨row, found, same⟩
    obtain ⟨now, found, created, -⟩ := writes.keeps found
    exact ⟨now, found, created.trans same⟩
  cases event with
  | boot queue => exact prices
  | resume =>
      simp only [Service.next, Service.resume]
      split <;> exact prices
  | serve => exact prices
  | crash => trivial
  | create row outcome =>
      have same : (service.next pool (.create row outcome)).tick = service.tick := by
        simp only [Service.next, Service.create]
        split <;> rfl
      rw [same]
      exact prices.keep kept
  | commit id signal =>
      have same : (service.next pool (.commit id signal)).tick = service.tick := by
        simp only [Service.next, Service.commit]
        split <;> rfl
      rw [same]
      exact prices.keep kept
  | tickBegin height groups => exact prices_nextGroup groups
  | revealAnswered answer =>
      rcases enabled with ⟨candidate, rest, groups, revealing⟩
      simp only [Service.next, Service.revealAnswered]
      split
      · exact prices.answered .rejected
      · exact prices.answered _
      · exact prices
  | tickWritten outcome => exact (prices.keep kept).written
  | listed rows =>
      cases rows with
      | none => trivial
      | some rows =>
          apply prices_nextRow
          rintro ⟨id, row⟩ mem
          exact ⟨row, (Table.mem_select.mp (enabled.2.mem_iff.mp mem)).1, rfl⟩
  | contentSubmitted taken => exact prices.contentSubmitted taken
  | priced reward => exact absurd rfl (other reward)

end Prices

namespace Treasury

/-- Whenever a row is published, its request is found. -/
def RequestsFound (_ : Treasury) : Event → Prop
  | .requestFetched found => found = true
  | _ => True

/-- The rewards on record are those of the chain. -/
structure Valued (config : Config) (treasury : Treasury) : Prop where
  rewards : ∀ id row reward, treasury.db.submissions.find? id = some row →
    row.rewardAmount = some reward → reward = config.reward row.toNewSubmission
  prices : Prices config treasury.db treasury.service.tick

section Valued

variable {config : Config} {treasury : Treasury} {event : Event}

theorem valued_new (config : Config) : (new).Valued config where
  rewards := fun _ _ _ found => by cases found
  prices := trivial

/-- A lifecycle event keeps the rewards true, if it is no look at a price. -/
theorem Valued.service (valued : treasury.Valued config) {event : Lifecycle.Event}
    (enabled : treasury.enabled (.service event)) :
    (treasury.lifecycle config event).Valued config := by
  have writes := Service.writes_next config.pool treasury.service event
  constructor
  · intro id kept reward found isReward
    cases writes.origin found with
    | stood stood created same =>
        rw [created]
        exact valued.rewards id _ reward stood (same.symm.trans isReward)
    | @published entry _ _ row ticking isEntry stood created now =>
        cases isReward.symm.trans now
        have prices := valued.prices
        rw [ticking] at prices
        obtain ⟨held, isHeld, same⟩ := prices.1 entry List.mem_cons_self
        rw [isEntry] at isHeld
        cases stood.symm.trans isHeld
        rw [prices.2, created, same]
    | created isEvent isNext created active unrewarded => cases unrewarded.symm.trans isReward
  · exact valued.prices.next config.pool enabled.2 enabled.1

/-- The price is found. -/
theorem Valued.requestFetched (valued : treasury.Valued config)
    {row : SubmissionId × Submission} {rest : List (SubmissionId × Submission)}
    (pricing : treasury.service.tick = .pricing row rest) :
    (treasury.requestFetched config true).Valued config := by
  have prices := valued.prices
  rw [pricing] at prices
  unfold Treasury.requestFetched
  rw [pricing]
  constructor
  · exact valued.rewards
  · simp only [lifecycle, Service.next, pricing]
    exact ⟨prices, rfl⟩

/-- Rows are marked as paid. -/
theorem Valued.markPaid (valued : treasury.Valued config) {requestIds : List RequestId}
    {txid : String} {after : Database}
    (ran : treasury.db.markPaid requestIds txid = some after) :
    (Treasury.mk { treasury.service with db := after } treasury.withheld .idle
      treasury.broadcasts).Valued config := by
  constructor
  · intro id kept reward found isReward
    obtain ⟨row, stood, created, same, -⟩ := Database.exists_of_find?_markPaid ran found
    rw [created]
    exact valued.rewards id row reward stood (same.symm.trans isReward)
  · apply valued.prices.keep
    rintro entry ⟨row, stood, same⟩
    obtain ⟨now, found, created, -⟩ := Database.find?_markPaid ran stood
    exact ⟨now, found, created.trans same⟩

theorem Valued.next (valued : treasury.Valued config) (enabled : treasury.enabled event)
    (met : treasury.RequestsFound event) : (treasury.next config event).Valued config := by
  cases event with
  | service event => exact valued.service enabled
  | requestFetched found =>
      rcases enabled with ⟨row, rest, pricing⟩
      cases met
      exact valued.requestFetched pricing
  | withhold requestId => exact ⟨valued.rewards, valued.prices⟩
  | unpaidListed unpaid => cases unpaid <;> exact ⟨valued.rewards, valued.prices⟩
  | sent answer =>
      simp only [Treasury.next, Treasury.sent]
      split <;> exact ⟨valued.rewards, valued.prices⟩
  | marked outcome =>
      rcases enabled with ⟨unpaid, txid, marking⟩
      unfold Treasury.next Treasury.marked
      rw [marking]
      apply Outcome.settle_of
        (P := fun db => (Treasury.mk { treasury.service with db } treasury.withheld .idle
          treasury.broadcasts).Valued config)
      · exact ⟨valued.rewards, valued.prices⟩
      · exact fun after ran => valued.markPaid ran

end Valued

/-- Whenever a row is published its request is found, and no row is created for a
request that has a FAILED one. -/
def PricesFound (treasury : Treasury) : Event → Prop
  | .requestFetched found => found = true
  | .service (.create row _) => ∀ id other, treasury.db.submissions.find? id = some other →
      other.requestId = row.requestId → other.status ≠ .failed
  | _ => True

/-- The rewards on record are those of the chain, and no two rows have one
request. -/
structure Rewarded (config : Config) (treasury : Treasury) : Prop where
  rewards : ∀ id row reward, treasury.db.submissions.find? id = some row →
    row.rewardAmount = some reward → reward = config.reward row.toNewSubmission
  single : ∀ id other row otherRow, treasury.db.submissions.find? id = some row →
    treasury.db.submissions.find? other = some otherRow →
    row.requestId = otherRow.requestId → id = other
  prices : Prices config treasury.db treasury.service.tick
  listed : ∀ entry ∈ treasury.tick.unpaid, Held treasury.db entry ∧
    ∀ reward, entry.2.rewardAmount = some reward → reward = config.reward entry.2.toNewSubmission

section Step

variable {config : Config} {treasury : Treasury} {event : Event} {id : SubmissionId}
variable {unpaid : List (SubmissionId × Submission)}

theorem rewarded_new (config : Config) : (new).Rewarded config where
  rewards := (valued_new config).rewards
  single := fun _ _ _ _ found => by cases found
  prices := (valued_new config).prices
  listed := fun _ mem => by cases mem

theorem Rewarded.valued (rewarded : treasury.Rewarded config) : treasury.Valued config :=
  ⟨rewarded.rewards, rewarded.prices⟩

/-- A created row has a request of its own. -/
theorem created_apart {db after : Database} {row : NewSubmission} {other : SubmissionId}
    {otherRow : Submission} (created : db.createSubmission row = some after)
    (active : ∀ id other, db.submissions.find? id = some other →
      other.requestId = row.requestId → other.status ≠ .failed)
    (found : db.submissions.find? other = some otherRow) :
    otherRow.requestId ≠ row.requestId := by
  intro same
  obtain ⟨submissions, inserted, ⟨⟩⟩ := Option.bind_eq_some_iff.mp created
  have kept : submissions.find? other = some otherRow := by
    rw [Table.find?_insert inserted, if_neg]
    · exact found
    · rintro rfl
      rw [Table.find?_nextId] at found
      cases found
  have isNew := (Table.find?_insert inserted db.submissions.nextId).trans (if_pos rfl)
  have taken : otherRow.activeRequest = some row.requestId :=
    Database.activeRequest_eq_some.mpr ⟨active other otherRow found same, same⟩
  have isNext := Table.eq_of_key_eq kept isNew taken rfl
  rw [isNext, Table.find?_nextId] at found
  cases found

/-- Requests stay apart. -/
theorem Rewarded.single_next (rewarded : treasury.Rewarded config) {event : Lifecycle.Event}
    {after : Database} (writes : treasury.service.Writes event after)
    (met : treasury.PricesFound (.service event)) (id other : SubmissionId)
    (row otherRow : Submission) (stands : after.submissions.find? id = some row)
    (otherStands : after.submissions.find? other = some otherRow)
    (same : row.requestId = otherRow.requestId) : id = other := by
  rcases writes.created_or_kept with ⟨new, outcome, rfl, created⟩ | kept
  · have apart : ∀ {other otherRow}, treasury.db.submissions.find? other = some otherRow →
        otherRow.requestId ≠ new.requestId :=
      fun found => created_apart created met found
    obtain ⟨submissions, inserted, ⟨⟩⟩ := Option.bind_eq_some_iff.mp created
    rw [Table.find?_insert inserted] at stands otherStands
    split at stands
    · rename_i isNext
      cases stands
      split at otherStands
      · rename_i isNextToo
        exact isNext.trans isNextToo.symm
      · exact absurd same.symm (apart otherStands)
    · split at otherStands
      · cases otherStands
        exact absurd same (apart stands)
      · exact rewarded.single id other row otherRow stands otherStands same
  · obtain ⟨before, found, created⟩ := kept.exists_before stands
    obtain ⟨otherBefore, otherFound, otherCreated⟩ := kept.exists_before otherStands
    apply rewarded.single id other before otherBefore found otherFound
    rw [congrArg NewSubmission.requestId created, congrArg NewSubmission.requestId otherCreated]
    exact same

/-- A lifecycle event keeps the rewards true, if it is no look at a price. -/
theorem Rewarded.service (rewarded : treasury.Rewarded config) {event : Lifecycle.Event}
    (enabled : treasury.enabled (.service event))
    (met : treasury.PricesFound (.service event)) :
    (treasury.lifecycle config event).Rewarded config := by
  have writes := Service.writes_next config.pool treasury.service event
  have valued := rewarded.valued.service enabled
  constructor
  · exact valued.rewards
  · exact rewarded.single_next writes met
  · exact valued.prices
  · intro entry mem
    have read : entry ∈ treasury.tick.unpaid := by
      simp only [lifecycle] at mem
      split at mem
      · cases mem
      · exact mem
    obtain ⟨⟨row, found, same⟩, priced⟩ := rewarded.listed entry read
    obtain ⟨now, stands, created, -⟩ := writes.keeps found
    exact ⟨⟨now, stands, created.trans same⟩, priced⟩

/-- The price is found. -/
theorem Rewarded.requestFetched (rewarded : treasury.Rewarded config)
    {row : SubmissionId × Submission} {rest : List (SubmissionId × Submission)}
    (pricing : treasury.service.tick = .pricing row rest) :
    (treasury.requestFetched config true).Rewarded config := by
  have valued := rewarded.valued.requestFetched pricing
  constructor
  · exact valued.rewards
  · unfold Treasury.requestFetched
    rw [pricing]
    exact rewarded.single
  · exact valued.prices
  · unfold Treasury.requestFetched
    rw [pricing]
    exact rewarded.listed

/-- Rows are marked as paid. -/
theorem Rewarded.markPaid (rewarded : treasury.Rewarded config) {requestIds : List RequestId}
    {txid : String} {after : Database}
    (ran : treasury.db.markPaid requestIds txid = some after) :
    (Treasury.mk { treasury.service with db := after } treasury.withheld .idle
      treasury.broadcasts).Rewarded config := by
  have valued := rewarded.valued.markPaid ran
  constructor
  · exact valued.rewards
  · intro id other kept otherKept found otherFound same
    obtain ⟨row, stood, created, -⟩ := Database.exists_of_find?_markPaid ran found
    rcases Database.exists_of_find?_markPaid ran otherFound with
      ⟨otherRow, otherStood, otherCreated, -⟩
    apply rewarded.single id other row otherRow stood otherStood
    rw [← congrArg NewSubmission.requestId created, ← congrArg NewSubmission.requestId otherCreated]
    exact same
  · exact valued.prices
  · intro entry mem
    cases mem

theorem Rewarded.next (rewarded : treasury.Rewarded config) (enabled : treasury.enabled event)
    (met : treasury.PricesFound event) : (treasury.next config event).Rewarded config := by
  cases event with
  | service event => exact rewarded.service enabled met
  | requestFetched found =>
      rcases enabled with ⟨row, rest, pricing⟩
      cases met
      exact rewarded.requestFetched pricing
  | withhold requestId =>
      exact ⟨rewarded.rewards, rewarded.single, rewarded.prices, rewarded.listed⟩
  | unpaidListed unpaid =>
      cases unpaid with
      | none => exact rewarded
      | some unpaid =>
          refine ⟨rewarded.rewards, rewarded.single, rewarded.prices, ?_⟩
          rintro ⟨id, row⟩ mem
          have read : (id, row) ∈ unpaid := by
            simp only [Treasury.next] at mem
            split at mem
            · cases mem
            · exact mem
          have stands := (of_mem_listed enabled.2.2 read).1
          exact ⟨⟨row, stands, rfl⟩, fun reward => rewarded.rewards id row reward stands⟩
  | sent answer =>
      rcases enabled with ⟨unpaid, sending⟩
      have listed := rewarded.listed
      rw [sending] at listed
      unfold Treasury.next Treasury.sent
      rw [sending]
      cases answer with
      | accepted txid => exact ⟨rewarded.rewards, rewarded.single, rewarded.prices, listed⟩
      | _ =>
          exact ⟨rewarded.rewards, rewarded.single, rewarded.prices, fun _ mem => by cases mem⟩
  | marked outcome =>
      rcases enabled with ⟨unpaid, txid, marking⟩
      unfold Treasury.next Treasury.marked
      rw [marking]
      apply Outcome.settle_of
        (P := fun db => (Treasury.mk { treasury.service with db } treasury.withheld .idle
          treasury.broadcasts).Rewarded config)
      · exact ⟨rewarded.rewards, rewarded.single, rewarded.prices, fun _ mem => by cases mem⟩
      · exact fun after ran => rewarded.markPaid ran

/-- A row that becomes paid was summed into the batch that is marked, with the
reward that the chain offers for it; the wallet gets the sum less the fee. -/
structure PaidFor (config : Config) (treasury : Treasury) (id : SubmissionId)
    (sub : NewSubmission) : Prop where
  intro ::
  summed : ∃ listed txid summed amount, treasury.tick = .marking listed txid ∧
    (id, summed) ∈ listed ∧ summed.minerWallet = sub.minerWallet ∧
    summed.rewardAmount = some (config.reward sub) ∧
    (sub.minerWallet, amount) ∈ (config.terms.batchOf listed).amounts ∧
    amount = (rewardsOf (listed.map Prod.snd) sub.minerWallet).sum * config.terms.feeFactor

/-- The rows that a batch marks. -/
theorem Rewarded.paidFor (rewarded : treasury.Rewarded config) {txid : String}
    (marking : treasury.tick = .marking unpaid txid) {row : Submission}
    (found : treasury.db.submissions.find? id = some row)
    (request : row.requestId ∈ (config.terms.batchOf unpaid).requestIds) :
    treasury.PaidFor config id row.toNewSubmission := by
  obtain ⟨summed, isSummed, included, same⟩ := mem_requestIds.mp request
  obtain ⟨⟨other, summed⟩, listed, rfl⟩ := List.mem_map.mp isSummed
  have read := rewarded.listed
  rw [marking] at read
  obtain ⟨⟨stood, stands, created⟩, priced⟩ := read _ listed
  have isRow := rewarded.single other id stood row stands found
    ((congrArg NewSubmission.requestId created).trans same)
  subst isRow
  cases found.symm.trans stands
  have wallet : row.minerWallet = summed.minerWallet :=
    congrArg NewSubmission.minerWallet created
  obtain ⟨reward, amount, isReward, paid⟩ := exists_amount included
  rw [← wallet] at paid
  refine ⟨unpaid, txid, summed, amount, marking, listed, wallet.symm, ?_, paid, amount_eq paid⟩
  rw [isReward, priced reward isReward, created]

/-- A due row is paid when its batch is marked. -/
theorem marked_pays {txid : String} (marking : treasury.tick = .marking unpaid txid)
    {row : Submission} (found : treasury.db.submissions.find? id = some row)
    (request : row.requestId ∈ (config.terms.batchOf unpaid).requestIds) :
    ∃ now, (treasury.next config (.marked .done)).db.submissions.find? id = some now ∧
      now.paid = true ∧ now.toNewSubmission = row.toNewSubmission := by
  rcases Database.exists_markPaid treasury.db (config.terms.batchOf unpaid).requestIds txid with
    ⟨after, ran⟩
  obtain ⟨now, stands, same, -, isPaid⟩ := Database.find?_markPaid ran found
  refine ⟨now, ?_, isPaid.mpr (.inl request), same⟩
  rw [Treasury.next, Treasury.marked, marking]
  change (Outcome.settle .done (treasury.db.markPaid _ _) _).submissions.find? id = some now
  rw [ran]
  exact stands

theorem not_paid {db : Database} {row : Submission}
    (found : db.submissions.find? id = some row) (unpaid : row.paid = false) : ¬ Paid db id := by
  rintro ⟨other, stands, paid⟩
  cases found.symm.trans stands
  cases unpaid.symm.trans paid

end Step

/-- While every published row is priced and no request has a FAILED row beside
another, a row becomes paid only for its true reward. -/
theorem pays_true_rewards {config : Config} {treasury : Treasury} {events : List Event}
    {event : Event} {id : SubmissionId} {row : Submission}
    (run : (system config).RunWith PricesFound new events treasury)
    (enabled : treasury.enabled event) (unpaid : ¬ Paid treasury.db id)
    (found : (treasury.next config event).db.submissions.find? id = some row)
    (paid : row.paid = true) : treasury.PaidFor config id row.toNewSubmission := by
  have rewarded := run.invariant (I := Rewarded config) (rewarded_new config)
    fun _ _ rewarded enabled met => rewarded.next enabled met
  cases event with
  | service event =>
      have writes := Service.writes_next config.pool treasury.service event
      exact absurd (writes.paid_before found paid) unpaid
  | requestFetched fetched =>
      simp only [Treasury.next, Treasury.requestFetched] at found
      split at found
      · exact absurd ⟨row, found, paid⟩ unpaid
      · exact absurd ⟨row, found, paid⟩ unpaid
  | withhold requestId => exact absurd ⟨row, found, paid⟩ unpaid
  | unpaidListed listed => cases listed <;> exact absurd ⟨row, found, paid⟩ unpaid
  | sent answer =>
      simp only [Treasury.next, Treasury.sent] at found
      split at found <;> exact absurd ⟨row, found, paid⟩ unpaid
  | marked outcome =>
      rcases enabled with ⟨listed, txid, marking⟩
      rcases Database.exists_markPaid treasury.db (config.terms.batchOf listed).requestIds txid
        with ⟨after, ran⟩
      rw [Treasury.next, Treasury.marked, marking] at found
      change (outcome.settle _ _).submissions.find? id = some row at found
      rw [ran, Outcome.settle] at found
      split at found
      · obtain ⟨before, stood, created, -, isPaid⟩ := Database.exists_of_find?_markPaid ran found
        rw [created]
        rcases isPaid.mp paid with request | wasPaid
        · exact rewarded.paidFor marking stood request
        · exact absurd ⟨before, stood, wasPaid⟩ unpaid
      · exact absurd ⟨row, found, paid⟩ unpaid

/-! ## Two rows of one wallet -/

/-- The rows that are due in the example deployment. -/
def dueRows (found : Bool) : List (SubmissionId × Submission) :=
  (published found).db.listUnpaidPublished (published found).withheld

/-- Both rows are in a batch that awaits its mark. -/
def broadcast (found : Bool) : Treasury :=
  { published found with
    tick := .marking (dueRows found) "t"
    broadcasts := (published found).broadcasts ++ [soleConfig.terms.included (dueRows found)] }

/-- No row is created in these events, and every request is found. -/
def isPriced : Event → Bool
  | .requestFetched false | .service (.create _ _) => false
  | _ => true

theorem pricesFound_of_isPriced {events : List Event} (priced : events.all isPriced = true)
    (state : Treasury) (event : Event) (mem : event ∈ events) : state.PricesFound event := by
  have met := List.all_eq_true.mp priced event mem
  cases event with
  | service event =>
      cases event with
      | create row outcome => cases met
      | _ => trivial
  | requestFetched found =>
      cases found with
      | true => rfl
      | false => cases met
  | _ => trivial

/-- The first row is due, at the price that was recorded for it. -/
theorem due_first (found : Bool) : ∃ row,
    (broadcast found).db.submissions.find? 1 = some row ∧ row.paid = false ∧
      row.toNewSubmission = Service.soleResponse ∧
      row.rewardAmount = some (soleConfig.recorded Service.soleResponse found) := by
  unfold broadcast published
  cases found <;> exact ⟨_, rfl, rfl, rfl, rfl⟩

/-- It is paid when the batch is marked. -/
theorem broadcast_pays (found : Bool) : ∃ row,
    ((broadcast found).next soleConfig (.marked .done)).db.submissions.find? 1 = some row ∧
      row.paid = true ∧ row.toNewSubmission = Service.soleResponse := by
  have due : "r" ∈ (soleConfig.terms.batchOf (dueRows found)).requestIds := by
    cases found <;> decide +kernel
  obtain ⟨row, stood, -, created, -⟩ := due_first found
  have request : row.requestId ∈ (soleConfig.terms.batchOf (dueRows found)).requestIds := by
    rw [created]
    exact due
  have marking : (broadcast found).tick = .marking (dueRows found) "t" := rfl
  obtain ⟨now, stands, paid, same⟩ := marked_pays marking stood request
  exact ⟨now, stands, paid, same.trans created⟩

/-- The deployment gets there, under any guard that its events meet. -/
theorem broadcast_run {guard : Treasury → Event → Prop} (found : Bool)
    (first : (system soleConfig).Admits guard new createdEvents)
    (met : ∀ state, ∀ event ∈ revealedEvents ++ publishedEvents found ++
      (published found).payEvents, guard state event) :
    (system soleConfig).RunWith guard new
      (createdEvents ++ revealedEvents ++ publishedEvents found ++ (published found).payEvents)
      (broadcast found) := by
  have reached : (system soleConfig).execute (published found) (published found).payEvents =
      broadcast found := (due_published found).execute
  rw [← reached]
  have run := published_run found first fun state event mem =>
    met state event (List.mem_append_left _ mem)
  exact run.append ((due_published found).admits.guarded fun state event mem =>
    met state event (List.mem_append_right _ mem)).runWith

/-- The mark of the batch can end. -/
theorem broadcast_enabled (found : Bool) : (broadcast found).enabled (.marked .done) :=
  ⟨_, _, rfl⟩

/-- An instance of `pays_true_rewards`: both rows are published with their price,
and paid in one batch. -/
theorem sole_pays_true_rewards :
    (broadcast true).PaidFor soleConfig 1 Service.soleResponse := by
  have created : (system soleConfig).Admits PricesFound new createdEvents := by
    refine ⟨⟨⟨nofun, rfl, .refl _⟩, trivial⟩, ⟨⟨nofun, rfl, rfl⟩, trivial⟩, ⟨⟨nofun, rfl⟩, ?_⟩,
      ⟨⟨nofun, rfl⟩, ?_⟩, trivial⟩
    · rintro _ _ ⟨⟩
    · intro id other found same
      have mem := IndexMap.get?_eq_some_iff_mem.mp found
      cases List.mem_singleton.mp mem
      exact absurd same (by decide)
  have run := broadcast_run true created (pricesFound_of_isPriced rfl)
  obtain ⟨_, stood, unpaid, -⟩ := due_first true
  obtain ⟨row, found, paid, same⟩ := broadcast_pays true
  rw [← same]
  exact pays_true_rewards run (broadcast_enabled true) (not_paid stood unpaid) found paid

/-- A row whose request is not found when it is published is paid nothing, and
settled with the other rows of its wallet. -/
theorem placeholder_paid :
    ∃ events treasury event id row, (system soleConfig).Run new events treasury ∧
      treasury.enabled event ∧ ¬ Paid treasury.db id ∧
      (treasury.next soleConfig event).db.submissions.find? id = some row ∧ row.paid = true ∧
      ¬ treasury.PaidFor soleConfig id row.toNewSubmission := by
  have run := broadcast_run false admits_createdEvents fun _ _ _ => trivial
  obtain ⟨before, stood, unpaid, -, nothing⟩ := due_first false
  obtain ⟨row, found, paid, same⟩ := broadcast_pays false
  have unpriced : ¬ (broadcast false).PaidFor soleConfig 1 row.toNewSubmission := by
    rintro ⟨listed, txid, summed, amount, marking, mem, -, reward, -⟩
    have tick : (broadcast false).tick = .marking (dueRows false) "t" := rfl
    have isListed := (PayoutTick.marking.inj (tick.symm.trans marking)).1
    rw [← isListed] at mem
    have listed : (dueRows false).Perm
        ((broadcast false).db.listUnpaidPublished (broadcast false).withheld) := .refl _
    have stands := (of_mem_listed listed mem).1
    have isSummed := Option.some.inj (stood.symm.trans stands)
    rw [same, ← isSummed, nothing] at reward
    exact absurd reward (by decide +kernel)
  have before := not_paid stood unpaid
  exact ⟨_, _, _, _, _, run, broadcast_enabled false, before, found, paid, unpriced⟩

end Treasury

end StratumBridge.Payout
