import StratumBridge.Payout.System

/-!
# Rows paid once

A row that a batch includes is marked as paid before the next batch is formed,
as long as every batch that is broadcast is heard of and marked.  Then no row is
in two of them.
-/

namespace StratumBridge.Payout

open Data Wire Lifecycle Transition

namespace Treasury

/-- The row is marked as paid. -/
def Paid (db : Database) (id : SubmissionId) : Prop :=
  ∃ row, db.submissions.find? id = some row ∧ row.paid = true

/-- A row that was read is still there, as it was created. -/
def Held (db : Database) (entry : SubmissionId × Submission) : Prop :=
  ∃ row, db.submissions.find? entry.1 = some row ∧
    row.toNewSubmission = entry.2.toNewSubmission

/-- Every batch that is broadcast is heard of, and marked before anything else
can come between. -/
def MarksBroadcasts (treasury : Treasury) : Event → Prop
  | .sent answer => answer ≠ .unheard
  | .marked outcome => outcome.applies = true
  | .service event => event = .crash → ∀ unpaid txid, treasury.tick ≠ .marking unpaid txid
  | _ => True

/-- The rows of a batch that is still to be marked. -/
def pending (config : Config) : PayoutTick → List SubmissionId
  | .marking unpaid _ => config.terms.included unpaid
  | _ => []

/-- The rows broadcast so far are paid or still to be marked, and the rows of the
next batch are others. -/
structure Once (config : Config) (treasury : Treasury) : Prop where
  nodup : treasury.broadcasts.flatten.Nodup
  settled : ∀ id ∈ treasury.broadcasts.flatten,
    Paid treasury.db id ∨ id ∈ pending config treasury.tick
  held : ∀ entry ∈ treasury.tick.unpaid, Held treasury.db entry
  fresh : ∀ unpaid, treasury.tick = .sending unpaid →
    (treasury.broadcasts.flatten ++ config.terms.included unpaid).Nodup

section Step

variable {config : Config} {treasury : Treasury} {event : Event}
variable {db : Database} {id : SubmissionId} {unpaid : List (SubmissionId × Submission)}

theorem once_new (config : Config) : (new).Once config where
  nodup := List.nodup_nil
  settled := fun _ mem => by cases mem
  held := fun _ mem => by cases mem
  fresh := fun _ sending => by cases sending

theorem included_sublist (terms : Terms) (unpaid : List (SubmissionId × Submission)) :
    (terms.included unpaid).Sublist (unpaid.map Prod.fst) :=
  List.filter_sublist.map Prod.fst

/-- The rows that are read are unpaid, as they stand in the table. -/
theorem of_mem_listed {withheld : List RequestId}
    (listed : unpaid.Perm (db.listUnpaidPublished withheld)) {row : Submission}
    (mem : (id, row) ∈ unpaid) : db.submissions.find? id = some row ∧ row.paid = false := by
  have selected := Table.mem_select.mp (listed.mem_iff.mp mem)
  refine ⟨selected.1, ?_⟩
  have conditions := selected.2
  simp only [Bool.and_eq_true, Bool.not_eq_true'] at conditions
  exact conditions.1.2

theorem nodup_listed {withheld : List RequestId}
    (listed : unpaid.Perm (db.listUnpaidPublished withheld)) : (unpaid.map Prod.fst).Nodup :=
  (listed.map Prod.fst).nodup_iff.mpr (db.submissions.nodup_select _)

/-- A lifecycle event leaves the rows of the tick and the payments as they are. -/
theorem Once.lifecycle (once : treasury.Once config) (event : Lifecycle.Event)
    (notMarking : event = .crash → ∀ unpaid txid, treasury.tick ≠ .marking unpaid txid) :
    (treasury.lifecycle config event).Once config := by
  have writes := Service.writes_next config.pool treasury.service event
  have paid : ∀ id, Paid treasury.db id → Paid (treasury.lifecycle config event).db id := by
    rintro id ⟨row, found, isPaid⟩
    obtain ⟨now, found, -, same⟩ := writes.keeps found
    exact ⟨now, found, same.trans isPaid⟩
  have kept : ∀ entry, Held treasury.db entry →
      Held (treasury.lifecycle config event).db entry := by
    rintro entry ⟨row, found, same⟩
    obtain ⟨now, found, created, -⟩ := writes.keeps found
    exact ⟨now, found, created.trans same⟩
  by_cases crashes : event = .crash
  · subst crashes
    constructor
    · exact once.nodup
    · intro id mem
      rcases once.settled id mem with isPaid | isPending
      · exact .inl (paid id isPaid)
      · cases ticking : treasury.tick with
        | marking unpaid txid => exact absurd ticking (notMarking rfl unpaid txid)
        | _ =>
            rw [ticking] at isPending
            cases isPending
    · rintro entry mem
      cases mem
    · rintro unpaid sending
      cases sending
  · have tick : (treasury.lifecycle config event).tick = treasury.tick := by
      cases event with
      | crash => exact absurd rfl crashes
      | _ => rfl
    constructor
    · exact once.nodup
    · intro id mem
      rw [tick]
      exact (once.settled id mem).imp_left (paid id)
    · intro entry mem
      rw [tick] at mem
      exact kept entry (once.held entry mem)
    · intro unpaid sending
      rw [tick] at sending
      exact once.fresh unpaid sending

/-- A row that a batch includes is paid once the batch is marked. -/
theorem paid_markPaid {terms : Terms} {txid : String} {after : Database}
    (held : ∀ entry ∈ unpaid, Held db entry)
    (ran : db.markPaid (terms.batchOf unpaid).requestIds txid = some after)
    (included : id ∈ terms.included unpaid) : Paid after id := by
  obtain ⟨⟨_, row⟩, mem, rfl⟩ := List.mem_map.mp included
  obtain ⟨read, includes⟩ := List.mem_filter.mp mem
  obtain ⟨now, found, created⟩ := held _ read
  have request : now.requestId ∈ (terms.batchOf unpaid).requestIds :=
    mem_requestIds.mpr ⟨row, List.mem_map_of_mem read, includes,
      (congrArg NewSubmission.requestId created).symm⟩
  obtain ⟨paid, stands, -, -, isPaid⟩ := Database.find?_markPaid ran found
  exact ⟨paid, stands, isPaid.mpr (.inl request)⟩

/-- A paid row stays so when others are marked. -/
theorem Paid.markPaid {requestIds : List RequestId} {txid : String} {after : Database}
    (paid : Paid db id) (ran : db.markPaid requestIds txid = some after) : Paid after id := by
  rcases paid with ⟨row, found, wasPaid⟩
  obtain ⟨now, stands, -, -, isPaid⟩ := Database.find?_markPaid ran found
  exact ⟨now, stands, isPaid.mpr (.inr wasPaid)⟩

/-- The tick reads the unpaid rows. -/
theorem Once.unpaidListed (once : treasury.Once config) (idle : treasury.tick = .idle)
    (listed : unpaid.Perm (treasury.db.listUnpaidPublished treasury.withheld)) :
    (treasury.next config (.unpaidListed (some unpaid))).Once config := by
  have settled : ∀ id ∈ treasury.broadcasts.flatten, Paid treasury.db id := by
    intro id mem
    rcases once.settled id mem with isPaid | isPending
    · exact isPaid
    · rw [idle] at isPending
      cases isPending
  simp only [Treasury.next]
  split
  · exact ⟨once.nodup, fun id mem => .inl (settled id mem), fun _ mem => (by cases mem),
      fun _ sending => (by cases sending)⟩
  · constructor
    · exact once.nodup
    · exact fun id mem => .inl (settled id mem)
    · rintro ⟨id, row⟩ mem
      exact ⟨row, (of_mem_listed listed mem).1, rfl⟩
    · rintro _ ⟨⟩
      rw [List.nodup_append]
      refine ⟨once.nodup, (nodup_listed listed).sublist (included_sublist ..), ?_⟩
      rintro id broadcast _ included rfl
      obtain ⟨row, found, isPaid⟩ := settled id broadcast
      obtain ⟨⟨_, read⟩, mem, rfl⟩ := List.mem_map.mp ((included_sublist ..).subset included)
      obtain ⟨stands, notPaid⟩ := of_mem_listed listed mem
      cases found.symm.trans stands
      cases isPaid.symm.trans notPaid

/-- csd answers, and the bridge hears it. -/
theorem Once.sent (once : treasury.Once config) (sending : treasury.tick = .sending unpaid)
    {answer : SendAnswer} (heard : answer ≠ .unheard) :
    (treasury.sent config answer).Once config := by
  have settled : ∀ id ∈ treasury.broadcasts.flatten, Paid treasury.db id := by
    intro id mem
    rcases once.settled id mem with isPaid | isPending
    · exact isPaid
    · rw [sending] at isPending
      cases isPending
  unfold Treasury.sent
  rw [sending]
  cases answer with
  | unheard => exact absurd rfl heard
  | rejected =>
      exact ⟨once.nodup, fun id mem => .inl (settled id mem), fun _ mem => (by cases mem),
        fun _ sending => (by cases sending)⟩
  | accepted txid =>
      have flatten : (treasury.broadcasts ++ [config.terms.included unpaid]).flatten =
          treasury.broadcasts.flatten ++ config.terms.included unpaid := by
        rw [List.flatten_append, List.flatten_singleton]
      constructor
      · rw [flatten]
        exact once.fresh unpaid sending
      · intro id mem
        rw [flatten, List.mem_append] at mem
        exact mem.imp_left (settled id)
      · intro entry mem
        apply once.held entry
        rw [sending]
        exact mem
      · rintro _ ⟨⟩

/-- The batch is marked. -/
theorem Once.marked (once : treasury.Once config) {txid : String}
    (marking : treasury.tick = .marking unpaid txid) {outcome : Outcome}
    (applies : outcome.applies = true) : (treasury.marked config outcome).Once config := by
  rcases Database.exists_markPaid treasury.db (config.terms.batchOf unpaid).requestIds txid with
    ⟨after, ran⟩
  have held := once.held
  rw [marking] at held
  unfold Treasury.marked
  rw [marking]
  dsimp only
  rw [ran, Outcome.settle, if_pos applies]
  constructor
  · exact once.nodup
  · intro id mem
    rcases once.settled id mem with isPaid | isPending
    · exact .inl (isPaid.markPaid ran)
    · rw [marking] at isPending
      exact .inl (paid_markPaid held ran isPending)
  · intro entry mem
    cases mem
  · rintro _ ⟨⟩

theorem Once.next (once : treasury.Once config) (enabled : treasury.enabled event)
    (marks : treasury.MarksBroadcasts event) : (treasury.next config event).Once config := by
  cases event with
  | service event => exact once.lifecycle event marks
  | requestFetched found =>
      simp only [Treasury.next, Treasury.requestFetched]
      split
      · exact once.lifecycle _ fun crashes => by cases crashes
      · exact once
  | withhold requestId => exact ⟨once.nodup, once.settled, once.held, once.fresh⟩
  | unpaidListed unpaid =>
      cases unpaid with
      | none => exact once
      | some unpaid => exact once.unpaidListed enabled.2.1 enabled.2.2
  | sent answer =>
      rcases enabled with ⟨unpaid, sending⟩
      exact once.sent sending marks
  | marked outcome =>
      rcases enabled with ⟨unpaid, txid, marking⟩
      exact once.marked marking marks

end Step

/-- While every broadcast is heard of and marked, no row is in two of them, nor
twice in one. -/
theorem paid_once {config : Config} {treasury : Treasury} {events : List Event}
    (run : (system config).RunWith MarksBroadcasts new events treasury) :
    treasury.broadcasts.flatten.Nodup := by
  have once := run.invariant (I := Once config) (once_new config)
    fun _ _ once enabled marks => once.next enabled marks
  exact once.nodup

/-! ## Batches that are marked, and one that is not -/

/-- Nothing stops or is missed in these events. -/
def isCalm : Event → Bool
  | .service .crash | .sent .unheard | .marked .failed => false
  | _ => true

theorem marksBroadcasts_of_isCalm {treasury : Treasury} {event : Event}
    (calm : isCalm event = true) : treasury.MarksBroadcasts event := by
  cases event with
  | service event =>
      rintro rfl
      cases calm
  | sent answer =>
      rintro rfl
      cases calm
  | marked outcome =>
      cases outcome with
      | failed => cases calm
      | _ => rfl
  | _ => trivial

theorem marks_of_all {events : List Event} (calm : events.all isCalm = true)
    (state : Treasury) (event : Event) (mem : event ∈ events) : state.MarksBroadcasts event :=
  marksBroadcasts_of_isCalm (List.all_eq_true.mp calm event mem)

/-- A payout tick that marks its rows. -/
def paidEvents (treasury : Treasury) : List Event :=
  treasury.payEvents ++ [.marked .done]

section Paid

variable {config : Config} {treasury : Treasury}

/-- The rows of the batch are marked, and the tick is over. -/
theorem Due.execute_paid (due : treasury.Due config) :
    (system config).execute treasury treasury.paidEvents =
      { treasury with
        service :=
          { treasury.service with
            db := Outcome.done.settle (treasury.db.markPaid (config.terms.batchOf
              (treasury.db.listUnpaidPublished treasury.withheld)).requestIds "t") treasury.db }
        broadcasts := treasury.broadcasts ++
          [config.terms.included (treasury.db.listUnpaidPublished treasury.withheld)]
        tick := .idle } := by
  rw [paidEvents, System.execute_append, due.execute]
  rfl

theorem Due.paid_run (due : treasury.Due config) :
    (system config).RunWith MarksBroadcasts treasury treasury.paidEvents
      ((system config).execute treasury treasury.paidEvents) := by
  rw [paidEvents, System.execute_append]
  refine (due.admits.guarded (marks_of_all rfl)).runWith.snoc ?_ (marksBroadcasts_of_isCalm rfl)
  rw [due.execute]
  exact ⟨_, _, rfl⟩

end Paid

/-- The first of two responses is published. -/
def firstPublished : Treasury :=
  (system soleConfig).execute new
    (createdEvents ++ revealedEvents ++ (publishedEvents true).take 4)

/-- The first is paid, and the other is published after that. -/
def secondPublished : Treasury :=
  (system soleConfig).execute firstPublished
    (firstPublished.paidEvents ++ (publishedEvents true).drop 4)

theorem due_firstPublished : firstPublished.Due soleConfig := by
  unfold firstPublished
  constructor
  · rfl
  · rfl
  · decide +kernel

theorem due_secondPublished : secondPublished.Due soleConfig where
  serving := by
    rw [secondPublished, System.execute_append, due_firstPublished.execute_paid]
    rfl
  idle := by
    rw [secondPublished, System.execute_append, due_firstPublished.execute_paid]
    rfl
  amounts := by decide +kernel

theorem firstPublished_run : (system soleConfig).RunWith MarksBroadcasts new
    (createdEvents ++ revealedEvents ++ (publishedEvents true).take 4) firstPublished := by
  have revealed : (system soleConfig).RunWith MarksBroadcasts new (createdEvents ++ revealedEvents)
      ((system soleConfig).execute new (createdEvents ++ revealedEvents)) := by
    rw [System.execute_append]
    exact (admits_createdEvents.guarded (marks_of_all rfl)).runWith.append
      (admits_revealedEvents.guarded (marks_of_all rfl)).runWith
  have publishes : (system soleConfig).Admits (fun _ _ => True)
      ((system soleConfig).execute new (createdEvents ++ revealedEvents))
      ((publishedEvents true).take 4) :=
    ⟨⟨⟨nofun, rfl, .refl _⟩, trivial⟩, ⟨⟨nofun, _, _, rfl⟩, trivial⟩, ⟨⟨_, _, rfl⟩, trivial⟩,
      ⟨⟨nofun, rfl⟩, trivial⟩, trivial⟩
  rw [firstPublished, System.execute_append]
  exact revealed.append (publishes.guarded (marks_of_all rfl)).runWith

theorem secondPublished_run : (system soleConfig).RunWith MarksBroadcasts firstPublished
    (firstPublished.paidEvents ++ (publishedEvents true).drop 4) secondPublished := by
  have publishes : (system soleConfig).Admits (fun _ _ => True)
      ((system soleConfig).execute firstPublished firstPublished.paidEvents)
      ((publishedEvents true).drop 4) := by
    rw [due_firstPublished.execute_paid]
    exact ⟨⟨⟨nofun, _, _, rfl⟩, trivial⟩, ⟨⟨_, _, rfl⟩, trivial⟩, ⟨⟨nofun, rfl⟩, trivial⟩, trivial⟩
  rw [secondPublished, System.execute_append]
  exact due_firstPublished.paid_run.append (publishes.guarded (marks_of_all rfl)).runWith

/-- One row is published and paid, then another: each is in a batch of its own. -/
theorem sole_paid_once :
    ((system soleConfig).execute secondPublished secondPublished.paidEvents).broadcasts =
        [[1], [2]] ∧
      ((system soleConfig).execute secondPublished
        secondPublished.paidEvents).broadcasts.flatten.Nodup :=
  ⟨by decide +kernel, paid_once ((firstPublished_run.append secondPublished_run).append
    due_secondPublished.paid_run)⟩

section Unmarked

variable {config : Config} {treasury : Treasury}

/-- The process lives on, and every broadcast is heard of. -/
def isLive : Event → Bool
  | .service .crash | .sent .unheard => false
  | _ => true

theorem live_of_all {events : List Event} (live : events.all isLive = true)
    (_ : Treasury) (event : Event) (mem : event ∈ events) : isLive event = true :=
  List.all_eq_true.mp live event mem

/-- A batch that was broadcast can fail to be marked. -/
theorem marked_enabled (unpaid : List (SubmissionId × Submission)) {txid : String}
    (marking : treasury.tick = .marking unpaid txid) :
    (system config).enabled treasury (.marked .failed) :=
  ⟨unpaid, txid, marking⟩

/-- A batch whose mark failed is due again. -/
theorem Due.unmarked (due : treasury.Due config) :
    ∃ again events, (system config).RunWith (fun _ event => isLive event = true) treasury events
        again ∧ again.Due config ∧
      again.db = treasury.db ∧ again.withheld = treasury.withheld ∧
      again.broadcasts = treasury.broadcasts ++
        [config.terms.included (treasury.db.listUnpaidPublished treasury.withheld)] := by
  have first : (system config).RunWith (fun _ event => isLive event = true) treasury
      treasury.payEvents ((system config).execute treasury treasury.payEvents) :=
    (due.admits.guarded (live_of_all rfl)).runWith
  rw [due.execute] at first
  refine ⟨_, _, first.snoc (marked_enabled _ rfl) rfl, ?_⟩
  exact ⟨⟨due.serving, rfl, due.amounts⟩, rfl, rfl, rfl⟩

end Unmarked

/-- When `mark_paid` fails in a process that lives on, the next tick pays the same rows
again. -/
theorem rows_paid_twice :
    ∃ events treasury, (system soleConfig).RunWith (fun _ event => isLive event = true) new
        events treasury ∧
      ¬ treasury.broadcasts.flatten.Nodup := by
  have paid : 1 ∈ soleConfig.terms.included
      ((published true).db.listUnpaidPublished (published true).withheld) := by decide +kernel
  obtain ⟨again, _, first, due, db, withheld, broadcasts⟩ := (due_published true).unmarked
  rcases due.unmarked with ⟨last, _, second, -, -, -, further⟩
  rw [db, withheld, broadcasts] at further
  have run := ((published_run true (admits_createdEvents.guarded (live_of_all rfl))
    (live_of_all rfl)).append first).append second
  refine ⟨_, _, run, ?_⟩
  rw [further, List.flatten_append, List.flatten_append, List.flatten_singleton,
    List.nodup_append]
  rintro ⟨-, -, apart⟩
  exact apart 1 (List.mem_append_right _ paid) 1 paid rfl

end Treasury

end StratumBridge.Payout
