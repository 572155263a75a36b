import StratumBridge.Expert.Floors
import StratumBridge.Expert.Join

/-!
# Whose entries the maps hold

A dispatch enters both maps under its key and cleans up under the same key when
its wait is over.  The key does not tell two dispatches of one expert apart, and
a call that is dropped with its session never cleans up.
-/

namespace StratumBridge.Expert

open Data Wire Transition
open Shard (SelectedExpert)

/-- A `dispatch_one` at its await. -/
structure Wait where
  ticket : Ticket
  index : Nat
  key : ExpertAssignmentKey
  wallet : Wallet
  waiter : Waiter

/-- The dispatch that a line starts. -/
def Call.awaiting (call : Call) (ticket : Ticket) (index : Nat) (member : Member)
    (waiter : Waiter) : Wait where
  ticket := ticket
  index := index
  key := call.request.key member.selected
  wallet := member.wallet
  waiter := waiter

namespace ExpertDispatcher

variable {sha256 : Digest} {arith : Arithmetic} {dispatcher after : ExpertDispatcher}
  {stimulus : Stimulus} {events : List Stimulus} {ticket : Ticket} {index : Nat} {call : Call}
  {member : Member} {wait : Wait}

/-- The dispatch is waiting. -/
def Awaits (dispatcher : ExpertDispatcher) (wait : Wait) : Prop :=
  ∃ call member, dispatcher.Stands wait.ticket wait.index call member ∧
    member.progress = .waiting wait.waiter ∧ call.request.key member.selected = wait.key ∧
    member.wallet = wait.wallet

/-- The wallet of a dispatch disconnected while the dispatch was waiting. -/
def Released (sha256 : Digest) (arith : Arithmetic) (events : List Stimulus) (wait : Wait) :
    Prop :=
  ∃ found registry, (system sha256 arith).Taken new events found
    ⟨registry, .disconnect wait.wallet⟩ ∧ found.Awaits wait

/-- An event leaves the entries under a key as they are. -/
structure Leaves (before after : ExpertDispatcher) (key : ExpertAssignmentKey) : Prop where
  assignment : after.assignments key = before.assignments key
  pending : after.pending key = before.pending key

/-- The maps list the waiting dispatches: every entry is that of one of them,
every one of them has its sender until it is answered or its wallet disconnects,
and what happens to one dispatch leaves the entries of the others. -/
structure ListsWaiting (sha256 : Digest) (arith : Arithmetic) (events : List Stimulus)
    (dispatcher : ExpertDispatcher) : Prop where
  assignments : ∀ key wallet, dispatcher.assignments key = some wallet →
    ∃ wait, dispatcher.Awaits wait ∧ wait.key = key ∧ wait.wallet = wallet
  pending : ∀ key waiter, dispatcher.pending key = some waiter →
    ∃ wait, dispatcher.Awaits wait ∧ wait.key = key ∧ wait.waiter = waiter
  senders : ∀ wait, dispatcher.Awaits wait →
    dispatcher.pending wait.key = some wait.waiter ∨
      (∃ result, dispatcher.replies wait.waiter = some result) ∨
      Released sha256 arith events wait
  others : ∀ found stimulus, (system sha256 arith).Taken new events found stimulus →
    ∀ ticket index, stimulus.event.actsOn = some (ticket, index) →
    ∀ wait, found.Awaits wait → (wait.ticket, wait.index) ≠ (ticket, index) →
      Leaves found (next sha256 arith found stimulus) wait.key

/-- The condition on a step: a member is dispatched to a connected host only when
no other dispatch waits under its key, and a call is dropped only when its waiting
dispatches have no entry left. -/
def KeyGuard (dispatcher : ExpertDispatcher) (stimulus : Stimulus) : Prop :=
  match stimulus.event with
  | .dispatchOne ticket index _ =>
      ∀ call member, dispatcher.Stands ticket index call member →
        stimulus.registry.get member.wallet ≠ none →
        ∀ wait, dispatcher.Awaits wait → (wait.ticket, wait.index) ≠ (ticket, index) →
          wait.key ≠ call.request.key member.selected
  | .cancel ticket =>
      ∀ wait, dispatcher.Awaits wait → wait.ticket = ticket →
        dispatcher.assignments wait.key = none ∧ dispatcher.pending wait.key = none
  | _ => True

/-! ## Waiting dispatches -/

/-- A member waits in one way. -/
theorem Awaits.eq {other : Wait} (awaits : dispatcher.Awaits wait)
    (awaitsToo : dispatcher.Awaits other) (sameTicket : wait.ticket = other.ticket)
    (sameIndex : wait.index = other.index) : wait = other := by
  rcases wait with ⟨ticket, index, key, wallet, waiter⟩
  rcases other with ⟨ticketToo, indexToo, keyToo, walletToo, waiterToo⟩
  cases sameTicket
  cases sameIndex
  rcases awaits with ⟨call, member, stands, waits, rfl, rfl⟩
  rcases awaitsToo with ⟨callToo, memberToo, standsToo, waitsToo, rfl, rfl⟩
  cases stands.called.symm.trans standsToo.called
  cases stands.listed.symm.trans standsToo.listed
  cases waits.symm.trans waitsToo
  rfl

/-- A dispatch that waits after an event waited before, or was just sent. -/
theorem Step.awaits (step : Step sha256 arith dispatcher stimulus after)
    (now : after.Awaits wait) :
    (dispatcher.Awaits wait ∧ stimulus.event.actsOn ≠ some (wait.ticket, wait.index)) ∨
      stimulus.event = .dispatchOne wait.ticket wait.index true ∧
        ∃ call member, dispatcher.Stands wait.ticket wait.index call member ∧
          stimulus.registry.get member.wallet ≠ none ∧
          wait = call.awaiting wait.ticket wait.index member dispatcher.nextWaiter := by
  rcases now with ⟨call, member, stands, waits, isKey, isWallet⟩
  cases step.moved stands with
  | kept stood same elsewhere silent =>
      refine .inl ⟨⟨_, member, stood, waits, ?_, isWallet⟩, elsewhere⟩
      rw [← same.request]
      exact isKey
  | @sent before old tx stood same ready connected event now logged =>
      subst now
      refine .inr ⟨event, before, old, stood, by simp [connected], ?_⟩
      rcases wait with ⟨ticket, index, key, wallet, waiter⟩
      cases waits
      cases isKey
      cases isWallet
      rw [Call.awaiting, same.request]
      rfl
  | retried stood same fails now logged =>
      subst now
      exact absurd waits (Member.retry_progress_ne_waiting _ _ _ _)
  | returned stood same event waited reply now logged =>
      subst now
      cases waits
  | begun fresh event selected listed now =>
      subst now
      cases waits

/-- A call with a waiting member has not returned. -/
theorem unjoined_of_waiting {waiter : Waiter} (listed : call.members[index]? = some member)
    (waits : member.progress = .waiting waiter) : unjoined call = some call := by
  have unfinished : call.joinAll = none := by
    rw [joinAll_eq_none_iff]
    refine ⟨member, List.mem_of_getElem? listed, ?_⟩
    rw [Member.outcome, waits]
  rw [unjoined, unfinished]
  rfl

theorem Awaits.of_calls (awaits : dispatcher.Awaits wait)
    (kept : after.calls wait.ticket = dispatcher.calls wait.ticket) : after.Awaits wait := by
  rcases awaits with ⟨call, member, stood, rest⟩
  exact ⟨call, member, ⟨kept.trans stood.called, stood.listed⟩, rest⟩

/-- A dispatch waits on while another member of its call, or of another call, is
replaced. -/
theorem Awaits.replace {old : Member} (new : Member) {other : Ticket} {position : Nat}
    {changed : Call}
    (awaits : dispatcher.Awaits wait) (stands : dispatcher.Stands other position changed old)
    (here : unjoined (changed.setMember position new) = some (changed.setMember position new) →
      after.calls other = some (changed.setMember position new))
    (there : ∀ ticket, ticket ≠ other → after.calls ticket = dispatcher.calls ticket)
    (elsewhere : (wait.ticket, wait.index) ≠ (other, position)) : after.Awaits wait := by
  by_cases sameCall : wait.ticket = other
  · subst sameCall
    rcases awaits with ⟨call, member, stood, waits, isKey, isWallet⟩
    cases stood.called.symm.trans stands.called
    have ne : position ≠ wait.index := fun same => elsewhere (by rw [same])
    have listed : (changed.setMember position new).members[wait.index]? = some member := by
      rw [Call.setMember, List.getElem?_set_ne ne]
      exact stood.listed
    exact ⟨changed.setMember position new, member,
      ⟨here (unjoined_of_waiting listed waits), listed⟩, waits, isKey, isWallet⟩
  · exact awaits.of_calls (there _ sameCall)

theorem Awaits.settle {cleared : ExpertDispatcher} {new old : Member} {other : Ticket}
    {position : Nat} {changed : Call} (awaits : dispatcher.Awaits wait)
    (stands : dispatcher.Stands other position changed old)
    (calls : cleared.calls = dispatcher.calls)
    (elsewhere : (wait.ticket, wait.index) ≠ (other, position)) :
    (cleared.settle arith other (changed.setMember position new)).Awaits wait := by
  refine awaits.replace new stands (fun stored => ?_) (fun ticket ne => ?_) elsewhere
  · rw [settle_calls, Function.update_self]
    exact stored
  · rw [settle_calls, Function.update_of_ne ne, calls]

/-- Only its own events and the end of its call end the wait of a dispatch. -/
theorem Awaits.next (awaits : dispatcher.Awaits wait) (fresh : dispatcher.TicketsFresh)
    (step : Step sha256 arith dispatcher stimulus after)
    (elsewhere : stimulus.event.actsOn ≠ some (wait.ticket, wait.index))
    (goesOn : stimulus.event ≠ .cancel wait.ticket) : after.Awaits wait := by
  have away : ∀ {ticket index}, stimulus.event.actsOn = some (ticket, index) →
      (wait.ticket, wait.index) ≠ (ticket, index) := by
    intro ticket index acts same
    rw [acts, same] at elsewhere
    exact elsewhere rfl
  cases step with
  | begun listed selected =>
      have ne : wait.ticket ≠ dispatcher.nextTicket := by
        rcases awaits with ⟨own, member, stood, -⟩
        exact (fresh _ _ stood.called).ne
      exact awaits.of_calls (PartialMap.insert_of_ne _ _ ne)
  | sent stands ready connected =>
      exact awaits.replace _ stands (fun _ => PartialMap.insert_self ..)
        (fun ticket ne => PartialMap.insert_of_ne _ _ ne) (away rfl)
  | failed stands fails clears => exact awaits.settle stands clears.calls (away fails.actsOn)
  | returned stands waiting reply clears => exact awaits.settle stands clears.calls (away rfl)
  | released clears => exact awaits.of_calls (congrFun clears.calls _)
  | cancelled =>
      have ne : wait.ticket ≠ _ := fun same => goesOn (by rw [same])
      exact awaits.of_calls (PartialMap.remove_of_ne _ ne)
  | _ => exact awaits.of_calls rfl

/-! ## Entries -/

/-- Both maps without a key. -/
structure Drops (before after : ExpertDispatcher) (key : ExpertAssignmentKey) : Prop where
  assignments : after.assignments = before.assignments.remove key
  pending : after.pending = before.pending.remove key

theorem Drops.leaves {key other : ExpertAssignmentKey} (drops : Drops dispatcher after key)
    (ne : other ≠ key) : Leaves dispatcher after other where
  assignment := by
    rw [drops.assignments]
    exact PartialMap.remove_of_ne _ ne
  pending := by
    rw [drops.pending]
    exact PartialMap.remove_of_ne _ ne

theorem drops_wake {registry : MinerRegistry} {waiter : Waiter} :
    Drops dispatcher (wake arith registry ticket index call member waiter dispatcher)
      (call.request.key member.selected) := by
  unfold wake
  split <;> constructor <;> simp [forget, emit]

/-- What a dispatch does to the maps before its await. -/
inductive Enters (before after : ExpertDispatcher) (registry : MinerRegistry) (isOpen : Bool)
    (key : ExpertAssignmentKey) (wallet : Wallet) : Prop
  | unconnected (gone : registry.get wallet = none)
      (assignments : after.assignments = before.assignments)
      (pending : after.pending = before.pending)
  | closed (connected : registry.get wallet ≠ none) (isClosed : isOpen = false)
      (drops : Drops before after key)
  | sent (connected : registry.get wallet ≠ none) (isOpened : isOpen = true)
      (assignments : after.assignments = before.assignments.insert key wallet)
      (pending : after.pending = before.pending.insert key before.nextWaiter)

theorem enters_dispatchOne {registry : MinerRegistry} {isOpen : Bool} :
    Enters dispatcher (dispatchOne sha256 arith registry ticket index isOpen call member dispatcher)
      registry isOpen (call.request.key member.selected) member.wallet := by
  unfold dispatchOne
  cases connected : registry.get member.wallet with
  | none => exact .unconnected connected (settle_assignments ..) (settle_pending ..)
  | some tx =>
      have isConnected : registry.get member.wallet ≠ none := by simp [connected]
      cases isOpen with
      | true => exact .sent isConnected rfl rfl rfl
      | false =>
          refine .closed isConnected rfl ⟨?_, ?_⟩
          · exact (settle_assignments ..).trans (Function.update_idem ..)
          · exact (settle_pending ..).trans (Function.update_idem ..)

theorem Enters.leaves {registry : MinerRegistry} {isOpen : Bool} {key other : ExpertAssignmentKey}
    {wallet : Wallet} (enters : Enters dispatcher after registry isOpen key wallet)
    (apart : registry.get wallet ≠ none → other ≠ key) : Leaves dispatcher after other := by
  cases enters with
  | unconnected gone assignments pending => exact ⟨by rw [assignments], by rw [pending]⟩
  | closed connected isClosed drops => exact drops.leaves (apart connected)
  | sent connected isOpened assignments pending =>
      constructor
      · rw [assignments]
        exact PartialMap.insert_of_ne _ _ (apart connected)
      · rw [pending]
        exact PartialMap.insert_of_ne _ _ (apart connected)

theorem next_dispatchOne {registry : MinerRegistry} {isOpen : Bool}
    (stands : dispatcher.Stands ticket index call member) (ready : member.progress = .ready) :
    next sha256 arith dispatcher ⟨registry, .dispatchOne ticket index isOpen⟩ =
      dispatchOne sha256 arith registry ticket index isOpen call member dispatcher := by
  simp only [next, resume, stands.called, stands.listed, ready]

theorem next_wake {registry : MinerRegistry} {waiter : Waiter}
    (stands : dispatcher.Stands ticket index call member)
    (waiting : member.progress = .waiting waiter) :
    next sha256 arith dispatcher ⟨registry, .wake ticket index⟩ =
      wake arith registry ticket index call member waiter dispatcher := by
  simp only [next, resume, stands.called, stands.listed, waiting]

theorem leaves_dispatchAndJoin {registry : MinerRegistry} {reader : Wallet} {request : FanOut}
    (key : ExpertAssignmentKey) :
    Leaves dispatcher (dispatchAndJoin registry reader request dispatcher) key := by
  unfold dispatchAndJoin
  split
  · exact ⟨rfl, rfl⟩
  · split
    · exact ⟨rfl, rfl⟩
    · split <;> exact ⟨rfl, rfl⟩

/-- Replies stay until they are taken. -/
theorem Step.replies_kept (step : Step sha256 arith dispatcher stimulus after) {waiter : Waiter}
    (reply : ∃ result, dispatcher.replies waiter = some result) :
    ∃ result, after.replies waiter = some result := by
  cases step with
  | failed stands fails clears => simpa [clears.replies] using reply
  | returned stands waiting answer clears => simpa [clears.replies] using reply
  | released clears => simpa [clears.replies] using reply
  | @delivered registry wallet given sentAt awaited assigned pending =>
      by_cases same : waiter = awaited
      · subst same
        exact ⟨given, PartialMap.insert_self ..⟩
      · rcases reply with ⟨result, kept⟩
        exact ⟨result, (PartialMap.insert_of_ne _ _ same).trans kept⟩
  | _ => exact reply

/-- A line that is sent starts a wait. -/
theorem awaits_dispatchOne {registry : MinerRegistry}
    (stands : dispatcher.Stands ticket index call member)
    (connected : registry.get member.wallet ≠ none) :
    (dispatchOne sha256 arith registry ticket index true call member dispatcher).Awaits
      (call.awaiting ticket index member dispatcher.nextWaiter) := by
  obtain ⟨tx, found⟩ := Option.ne_none_iff_exists'.mp connected
  rw [dispatchOne, found]
  have inside := (List.getElem?_eq_some_iff.mp stands.listed).1
  exact ⟨_, _, ⟨PartialMap.insert_self .., List.getElem?_set_self inside⟩, rfl, rfl, rfl⟩

/-! ## The invariant -/

/-- The maps list the waiting dispatches, which have different keys. -/
structure Listed (sha256 : Digest) (arith : Arithmetic) (events : List Stimulus)
    (dispatcher : ExpertDispatcher) : Prop where
  tickets : dispatcher.TicketsFresh
  assignments : ∀ key wallet, dispatcher.assignments key = some wallet →
    ∃ wait, dispatcher.Awaits wait ∧ wait.key = key ∧ wait.wallet = wallet
  pending : ∀ key waiter, dispatcher.pending key = some waiter →
    ∃ wait, dispatcher.Awaits wait ∧ wait.key = key ∧ wait.waiter = waiter
  senders : ∀ wait, dispatcher.Awaits wait →
    dispatcher.pending wait.key = some wait.waiter ∨
      (∃ result, dispatcher.replies wait.waiter = some result) ∨
      Released sha256 arith events wait
  apart : ∀ one other, dispatcher.Awaits one → dispatcher.Awaits other → one.key = other.key →
    one = other

theorem listed_new : Listed sha256 arith [] new where
  tickets := ticketsFresh_new
  assignments := by
    intro key wallet assigned
    cases assigned
  pending := by
    intro key waiter pending
    cases pending
  senders := by
    rintro wait ⟨call, member, stands, -⟩
    cases stands.called
  apart := by
    rintro one other ⟨call, member, stands, -⟩
    cases stands.called

theorem Released.extend (released : Released sha256 arith events wait) (stimulus : Stimulus) :
    Released sha256 arith (events ++ [stimulus]) wait := by
  rcases released with ⟨found, registry, taken, awaits⟩
  exact ⟨found, registry, System.taken_snoc_iff.mpr (.inl taken), awaits⟩

/-- An event that starts no dispatch and takes entries away keeps the invariant,
when every entry it leaves is that of a dispatch that still waits, and every sender
it takes away is answered or released. -/
theorem Listed.shrink (listed : Listed sha256 arith events dispatcher)
    (step : Step sha256 arith dispatcher stimulus after)
    (fewer : ∀ wait, after.Awaits wait → dispatcher.Awaits wait)
    (stays : ∀ wait, dispatcher.Awaits wait →
      after.assignments wait.key ≠ none ∨ after.pending wait.key ≠ none → after.Awaits wait)
    (assignments : ∀ key wallet, after.assignments key = some wallet →
      dispatcher.assignments key = some wallet)
    (pending : ∀ key waiter, after.pending key = some waiter →
      dispatcher.pending key = some waiter)
    (senders : ∀ wait, after.Awaits wait → dispatcher.pending wait.key = some wait.waiter →
      after.pending wait.key = some wait.waiter ∨
        (∃ result, after.replies wait.waiter = some result) ∨
        Released sha256 arith (events ++ [stimulus]) wait) :
    Listed sha256 arith (events ++ [stimulus]) after where
  tickets := listed.tickets.next step
  assignments := by
    intro key wallet now
    rcases listed.assignments key wallet (assignments key wallet now) with
      ⟨wait, awaits, rfl, isWallet⟩
    exact ⟨wait, stays wait awaits (.inl (by simp [now])), rfl, isWallet⟩
  pending := by
    intro key waiter now
    obtain ⟨wait, awaits, rfl, isWaiter⟩ := listed.pending key waiter (pending key waiter now)
    exact ⟨wait, stays wait awaits (.inr (by simp [now])), rfl, isWaiter⟩
  senders := by
    intro wait awaits
    rcases listed.senders wait (fewer wait awaits) with held | answered | released
    · exact senders wait awaits held
    · exact .inr (.inl (step.replies_kept answered))
    · exact .inr (.inr (released.extend stimulus))
  apart := by
    intro one other awaits awaitsToo sameKey
    exact listed.apart one other (fewer one awaits) (fewer other awaitsToo) sameKey

/-- A dispatch that is sent under a key of its own keeps the invariant. -/
theorem Listed.grow (listed : Listed sha256 arith events dispatcher)
    (step : Step sha256 arith dispatcher stimulus after) (new : Wait)
    (now : ∀ wait, after.Awaits wait ↔ dispatcher.Awaits wait ∨ wait = new)
    (alone : ∀ wait, dispatcher.Awaits wait → wait.key ≠ new.key)
    (assignments : after.assignments = dispatcher.assignments.insert new.key new.wallet)
    (pending : after.pending = dispatcher.pending.insert new.key new.waiter) :
    Listed sha256 arith (events ++ [stimulus]) after where
  tickets := listed.tickets.next step
  assignments := by
    intro key wallet entry
    rw [assignments, PartialMap.insert_apply] at entry
    split at entry
    · exact ⟨new, (now new).mpr (.inr rfl), (‹_› : key = new.key).symm, Option.some.inj entry⟩
    · obtain ⟨wait, awaits, isKey⟩ := listed.assignments key wallet entry
      exact ⟨wait, (now wait).mpr (.inl awaits), isKey⟩
  pending := by
    intro key waiter entry
    rw [pending, PartialMap.insert_apply] at entry
    split at entry
    · exact ⟨new, (now new).mpr (.inr rfl), (‹_› : key = new.key).symm, Option.some.inj entry⟩
    · obtain ⟨wait, awaits, isKey⟩ := listed.pending key waiter entry
      exact ⟨wait, (now wait).mpr (.inl awaits), isKey⟩
  senders := by
    intro wait awaits
    rcases (now wait).mp awaits with before | rfl
    · rcases listed.senders wait before with held | answered | released
      · left
        rw [pending, PartialMap.insert_of_ne _ _ (alone wait before)]
        exact held
      · exact .inr (.inl (step.replies_kept answered))
      · exact .inr (.inr (released.extend stimulus))
    · left
      rw [pending]
      exact PartialMap.insert_self ..
  apart := by
    intro one other awaits awaitsToo sameKey
    rcases (now one).mp awaits with before | rfl
    · rcases (now other).mp awaitsToo with beforeToo | rfl
      · exact listed.apart one other before beforeToo sameKey
      · exact absurd sameKey (alone one before)
    · rcases (now other).mp awaitsToo with beforeToo | rfl
      · exact absurd sameKey.symm (alone other beforeToo)
      · rfl

/-- A member that is ready does not wait. -/
theorem Awaits.ne_of_ready (awaits : dispatcher.Awaits wait)
    (stands : dispatcher.Stands ticket index call member) (ready : member.progress = .ready) :
    (wait.ticket, wait.index) ≠ (ticket, index) := by
  intro here
  cases here
  rcases awaits with ⟨own, waiting, stood, waits, -⟩
  cases stood.called.symm.trans stands.called
  cases stood.listed.symm.trans stands.listed
  cases ready.symm.trans waits

/-- Events that send nothing start no wait. -/
theorem Step.awaits_of_ne (step : Step sha256 arith dispatcher stimulus after)
    (sendless : ∀ ticket index, stimulus.event ≠ .dispatchOne ticket index true)
    (now : after.Awaits wait) : dispatcher.Awaits wait := by
  rcases step.awaits now with ⟨before, -⟩ | ⟨event, -⟩
  · exact before
  · exact absurd event (sendless _ _)

theorem Listed.next_dispatchOne (listed : Listed sha256 arith events dispatcher)
    {registry : MinerRegistry} {isOpen : Bool}
    (enabled : dispatcher.enabled ⟨registry, .dispatchOne ticket index isOpen⟩)
    (guarded : dispatcher.KeyGuard ⟨registry, .dispatchOne ticket index isOpen⟩) :
    Listed sha256 arith (events ++ [⟨registry, .dispatchOne ticket index isOpen⟩])
      (next sha256 arith dispatcher ⟨registry, .dispatchOne ticket index isOpen⟩) := by
  have step : Step sha256 arith dispatcher ⟨registry, .dispatchOne ticket index isOpen⟩
      (next sha256 arith dispatcher ⟨registry, .dispatchOne ticket index isOpen⟩) :=
    step_next enabled
  rcases enabled with ⟨call, member, stands, ready⟩
  have alone : registry.get member.wallet ≠ none → ∀ wait, dispatcher.Awaits wait →
      wait.key ≠ call.request.key member.selected :=
    fun connected wait awaits =>
      guarded call member stands connected wait awaits (awaits.ne_of_ready stands ready)
  have stays : ∀ wait, dispatcher.Awaits wait →
      (next sha256 arith dispatcher ⟨registry, .dispatchOne ticket index isOpen⟩).Awaits wait := by
    intro wait awaits
    refine awaits.next listed.tickets step ?_ nofun
    exact fun same => awaits.ne_of_ready stands ready (Option.some.inj same).symm
  have enters : Enters dispatcher
      (next sha256 arith dispatcher ⟨registry, .dispatchOne ticket index isOpen⟩)
      registry isOpen (call.request.key member.selected) member.wallet := by
    rw [ExpertDispatcher.next_dispatchOne stands ready]
    exact enters_dispatchOne
  cases enters with
  | unconnected gone assignments pending =>
      refine listed.shrink step ?_ (fun wait awaits _ => stays wait awaits) ?_ ?_ ?_
      · intro wait now
        rcases step.awaits now with ⟨before, -⟩ | ⟨event, own, sent, stood, connected, isNew⟩
        · exact before
        · cases event
          cases stood.called.symm.trans stands.called
          cases stood.listed.symm.trans stands.listed
          exact absurd gone connected
      · intro key wallet entry
        rwa [assignments] at entry
      · intro key waiter entry
        rwa [pending] at entry
      · intro wait _ held
        rw [pending]
        exact .inl held
  | closed connected isClosed drops =>
      subst isClosed
      refine listed.shrink step ?_ (fun wait awaits _ => stays wait awaits) ?_ ?_ ?_
      · exact fun wait now => step.awaits_of_ne nofun now
      · intro key wallet entry
        rw [drops.assignments] at entry
        exact (PartialMap.of_remove_eq_some entry).2
      · intro key waiter entry
        rw [drops.pending] at entry
        exact (PartialMap.of_remove_eq_some entry).2
      · intro wait now held
        have before := step.awaits_of_ne nofun now
        rw [(drops.leaves (alone connected wait before)).pending]
        exact .inl held
  | sent connected isOpened assignments pending =>
      subst isOpened
      apply listed.grow step (call.awaiting ticket index member dispatcher.nextWaiter)
      · intro wait
        constructor
        · intro now
          rcases step.awaits now with ⟨before, -⟩ | ⟨event, own, sent, stood, -, isNew⟩
          · exact .inl before
          · cases event
            cases stood.called.symm.trans stands.called
            cases stood.listed.symm.trans stands.listed
            exact .inr isNew
        · rintro (before | rfl)
          · exact stays wait before
          · rw [ExpertDispatcher.next_dispatchOne stands ready]
            exact awaits_dispatchOne stands connected
      · exact alone connected
      · exact assignments
      · exact pending

theorem Listed.next_wake (listed : Listed sha256 arith events dispatcher)
    {registry : MinerRegistry} (enabled : dispatcher.enabled ⟨registry, .wake ticket index⟩) :
    Listed sha256 arith (events ++ [⟨registry, .wake ticket index⟩])
      (next sha256 arith dispatcher ⟨registry, .wake ticket index⟩) := by
  have step : Step sha256 arith dispatcher ⟨registry, .wake ticket index⟩
      (ExpertDispatcher.next sha256 arith dispatcher ⟨registry, .wake ticket index⟩) :=
    step_next enabled
  rcases enabled with ⟨call, member, waiter, stands, waiting⟩
  have own : dispatcher.Awaits (call.awaiting ticket index member waiter) :=
    ⟨call, member, stands, waiting, rfl, rfl⟩
  have drops : Drops dispatcher (next sha256 arith dispatcher ⟨registry, .wake ticket index⟩)
      (call.request.key member.selected) := by
    rw [ExpertDispatcher.next_wake stands waiting]
    exact drops_wake
  refine listed.shrink step ?_ ?_ ?_ ?_ ?_
  · exact fun wait now => step.awaits_of_ne nofun now
  · intro wait awaits entry
    refine awaits.next listed.tickets step ?_ nofun
    intro here
    cases Option.some.inj here
    have isOwn : wait.key = call.request.key member.selected :=
      congrArg Wait.key (own.eq awaits rfl rfl).symm
    rw [isOwn, drops.assignments, drops.pending] at entry
    rcases entry with present | present
    · exact present (PartialMap.remove_self ..)
    · exact present (PartialMap.remove_self ..)
  · intro key wallet entry
    rw [drops.assignments] at entry
    exact (PartialMap.of_remove_eq_some entry).2
  · intro key waiter entry
    rw [drops.pending] at entry
    exact (PartialMap.of_remove_eq_some entry).2
  · intro wait now held
    rcases step.awaits now with ⟨before, elsewhere⟩ | ⟨event, -⟩
    · have ne : wait.key ≠ call.request.key member.selected := by
        intro same
        have isOwn := listed.apart wait _ before own same
        rw [isOwn] at elsewhere
        exact elsewhere rfl
      rw [(drops.leaves ne).pending]
      exact .inl held
    · cases event

theorem Listed.next_disconnect (listed : Listed sha256 arith events dispatcher)
    (run : (system sha256 arith).Run new events dispatcher) (registry : MinerRegistry)
    (wallet : Wallet) :
    Listed sha256 arith (events ++ [⟨registry, .disconnect wallet⟩])
      (next sha256 arith dispatcher ⟨registry, .disconnect wallet⟩) := by
  have step : Step sha256 arith dispatcher ⟨registry, .disconnect wallet⟩
      (ExpertDispatcher.next sha256 arith dispatcher ⟨registry, .disconnect wallet⟩) :=
    step_next trivial
  refine listed.shrink step ?_ ?_ ?_ ?_ ?_
  · exact fun wait now => step.awaits_of_ne nofun now
  · exact fun wait awaits _ => awaits.next listed.tickets step nofun nofun
  · intro key holder entry
    exact (PartialMap.retain_eq_some_iff.mp entry).1
  · intro key waiter entry
    change (if dispatcher.assignments key = some wallet then none else dispatcher.pending key) =
      some waiter at entry
    split at entry
    · cases entry
    · exact entry
  · intro wait now held
    have before := step.awaits_of_ne nofun now
    by_cases theirs : dispatcher.assignments wait.key = some wallet
    · obtain ⟨owner, awaits, sameKey, isWallet⟩ := listed.assignments _ _ theirs
      cases listed.apart owner wait awaits before sameKey
      subst isWallet
      exact .inr (.inr ⟨dispatcher, registry, System.taken_snoc_iff.mpr (.inr ⟨rfl, run⟩),
        before⟩)
    · left
      change (if dispatcher.assignments wait.key = some wallet then none
        else dispatcher.pending wait.key) = some wait.waiter
      rw [if_neg theirs]
      exact held

theorem Listed.next_expertResult (listed : Listed sha256 arith events dispatcher)
    {registry : MinerRegistry} {wallet : Wallet} {result : OpoiExpertResult} {sentAt : Nat}
    (step : Step sha256 arith dispatcher ⟨registry, .expertResult wallet result sentAt⟩ after) :
    Listed sha256 arith (events ++ [⟨registry, .expertResult wallet result sentAt⟩]) after := by
  have same := step
  refine listed.shrink same ?_ ?_ ?_ ?_ ?_
  · exact fun wait now => step.awaits_of_ne nofun now
  · exact fun wait awaits _ => awaits.next listed.tickets step nofun nofun
  · intro key holder entry
    cases step with
    | failed stands fails clears => cases fails
    | _ => exact entry
  · intro key waiter entry
    cases step with
    | failed stands fails clears => cases fails
    | delivered assigned pending => exact (PartialMap.of_remove_eq_some entry).2
    | _ => exact entry
  · intro wait now held
    cases step with
    | failed stands fails clears => cases fails
    | @delivered _ _ _ _ awaited assigned pending =>
        by_cases here : wait.key = replyKey result
        · have answered : awaited = wait.waiter := by
            rw [here] at held
            exact Option.some.inj (pending.symm.trans held)
          subst answered
          exact .inr (.inl ⟨result, PartialMap.insert_self ..⟩)
        · exact .inl ((PartialMap.remove_of_ne _ here).trans held)
    | _ => exact .inl held

theorem Listed.next_cancel (listed : Listed sha256 arith events dispatcher)
    {registry : MinerRegistry} (enabled : dispatcher.enabled ⟨registry, .cancel ticket⟩)
    (guarded : dispatcher.KeyGuard ⟨registry, .cancel ticket⟩) :
    Listed sha256 arith (events ++ [⟨registry, .cancel ticket⟩])
      (next sha256 arith dispatcher ⟨registry, .cancel ticket⟩) := by
  have step : Step sha256 arith dispatcher ⟨registry, .cancel ticket⟩
      (ExpertDispatcher.next sha256 arith dispatcher ⟨registry, .cancel ticket⟩) :=
    step_next enabled
  refine listed.shrink step ?_ ?_ (fun _ _ entry => entry) (fun _ _ entry => entry) ?_
  · exact fun wait now => step.awaits_of_ne nofun now
  · intro wait awaits entry
    refine awaits.next listed.tickets step nofun ?_
    intro same
    cases same
    obtain ⟨unassigned, unheld⟩ := guarded wait awaits rfl
    rcases entry with present | present
    · exact present unassigned
    · exact present unheld
  · exact fun wait _ held => .inl held

theorem Listed.next_dispatchAndJoin (listed : Listed sha256 arith events dispatcher)
    {registry : MinerRegistry} {reader : Wallet} {request : FanOut} :
    Listed sha256 arith (events ++ [⟨registry, .dispatchAndJoin reader request⟩])
      (next sha256 arith dispatcher ⟨registry, .dispatchAndJoin reader request⟩) := by
  have step : Step sha256 arith dispatcher ⟨registry, .dispatchAndJoin reader request⟩
      (ExpertDispatcher.next sha256 arith dispatcher ⟨registry, .dispatchAndJoin reader request⟩) :=
    step_next trivial
  have leaves : ∀ key, Leaves dispatcher
      (next sha256 arith dispatcher ⟨registry, .dispatchAndJoin reader request⟩) key :=
    leaves_dispatchAndJoin
  refine listed.shrink step ?_ ?_ ?_ ?_ ?_
  · exact fun wait now => step.awaits_of_ne nofun now
  · exact fun wait awaits _ => awaits.next listed.tickets step nofun nofun
  · exact fun key wallet entry => (leaves key).assignment.symm.trans entry
  · exact fun key waiter entry => (leaves key).pending.symm.trans entry
  · exact fun wait _ held => .inl ((leaves wait.key).pending.trans held)

theorem Listed.next (listed : Listed sha256 arith events dispatcher)
    (run : (system sha256 arith).Run new events dispatcher)
    (enabled : dispatcher.enabled stimulus) (guarded : dispatcher.KeyGuard stimulus) :
    Listed sha256 arith (events ++ [stimulus])
      (ExpertDispatcher.next sha256 arith dispatcher stimulus) := by
  rcases stimulus with ⟨registry, event⟩
  cases event with
  | dispatchAndJoin reader request => exact listed.next_dispatchAndJoin
  | dispatchOne ticket index isOpen => exact listed.next_dispatchOne enabled guarded
  | wake ticket index => exact listed.next_wake enabled
  | expertResult wallet result sentAt => exact listed.next_expertResult (step_next enabled)
  | disconnect wallet => exact listed.next_disconnect run registry wallet
  | cancel ticket => exact listed.next_cancel enabled guarded

/-- What happens to one dispatch leaves the entries of the others. -/
theorem Listed.others (listed : Listed sha256 arith events dispatcher)
    (enabled : dispatcher.enabled stimulus) (guarded : dispatcher.KeyGuard stimulus)
    (acts : stimulus.event.actsOn = some (ticket, index)) (awaits : dispatcher.Awaits wait)
    (elsewhere : (wait.ticket, wait.index) ≠ (ticket, index)) :
    Leaves dispatcher (ExpertDispatcher.next sha256 arith dispatcher stimulus) wait.key := by
  rcases stimulus with ⟨registry, event⟩
  cases event with
  | dispatchOne started position isOpen =>
      cases acts
      rcases enabled with ⟨call, member, stands, ready⟩
      rw [ExpertDispatcher.next_dispatchOne stands ready]
      apply enters_dispatchOne.leaves
      exact fun connected => guarded call member stands connected wait awaits elsewhere
  | wake finished position =>
      cases acts
      rcases enabled with ⟨call, member, waiter, stands, waiting⟩
      rw [ExpertDispatcher.next_wake stands waiting]
      apply drops_wake.leaves
      intro same
      have own : dispatcher.Awaits (call.awaiting ticket index member waiter) :=
        ⟨call, member, stands, waiting, rfl, rfl⟩
      have isOwn := listed.apart wait _ awaits own same
      rw [isOwn] at elsewhere
      exact elsewhere rfl
  | _ => cases acts

/-- In every run in which no two waiting dispatches share a key and no call is
dropped with an entry, the maps list exactly the waiting dispatches. -/
theorem maps_list_waiting {sha256 : Digest} {arith : Arithmetic} {events : List Stimulus}
    {dispatcher : ExpertDispatcher}
    (run : (system sha256 arith).RunWith KeyGuard new events dispatcher) :
    ListsWaiting sha256 arith events dispatcher := by
  have both : Listed sha256 arith events dispatcher ∧
      ∀ found stimulus, (system sha256 arith).Taken new events found stimulus →
        ∀ ticket index, stimulus.event.actsOn = some (ticket, index) →
        ∀ wait, found.Awaits wait → (wait.ticket, wait.index) ≠ (ticket, index) →
          Leaves found (ExpertDispatcher.next sha256 arith found stimulus) wait.key := by
    induction run with
    | nil =>
        refine ⟨listed_new, ?_⟩
        rintro found stimulus ⟨earlier, later, split, -⟩
        simp at split
    | snoc run enabled guarded ih =>
        rcases ih with ⟨listed, others⟩
        refine ⟨listed.next run.run enabled guarded, ?_⟩
        intro found stimulus taken
        rcases System.taken_snoc_iff.mp taken with before | ⟨rfl, again⟩
        · exact others found stimulus before
        · cases run.finish_eq.trans again.finish_eq.symm
          intro ticket index acts wait awaits elsewhere
          exact listed.others enabled guarded acts awaits elsewhere
  rcases both with ⟨listed, others⟩
  exact ⟨listed.assignments, listed.pending, listed.senders, others⟩

/-- A fan-out over two experts, of whose hosts one has answered. -/
def halfAnswered : List Stimulus :=
  [trio (.dispatchAndJoin "p" (soleFanOut 0 [7, 8])), trio (.dispatchOne 0 0 true),
    trio (.dispatchOne 0 1 true), trio (.expertResult "a" (soleReply 0 7 "00000000") 2)]

/-- An instance of `maps_list_waiting`: two dispatches in flight. -/
theorem maps_list_waiting_answered :
    let finish := (system soleDigest soleArithmetic).execute new halfAnswered
    ListsWaiting soleDigest soleArithmetic halfAnswered finish ∧
      finish.assignments ⟨"r", 0, 4, 3, 7⟩ = some "a" ∧
      finish.assignments ⟨"r", 0, 4, 3, 8⟩ = some "b" ∧
      finish.pending ⟨"r", 0, 4, 3, 7⟩ = none ∧ finish.pending ⟨"r", 0, 4, 3, 8⟩ = some 1 := by
  have admitted : (system soleDigest soleArithmetic).Admits KeyGuard new halfAnswered := by
    refine ⟨⟨trivial, trivial⟩, ⟨⟨_, _, ⟨rfl, rfl⟩, rfl⟩, ?_⟩, ⟨⟨_, _, ⟨rfl, rfl⟩, rfl⟩, ?_⟩,
      ⟨show 2 ≤ 3 from by decide, trivial⟩, trivial⟩
    · intro call member stands connected wait awaits
      have begun : Step soleDigest soleArithmetic new
          (trio (.dispatchAndJoin "p" (soleFanOut 0 [7, 8]))) _ := step_next trivial
      obtain ⟨_, _, stood, -⟩ := begun.awaits_of_ne nofun awaits
      cases stood.called
    · rintro call member ⟨called, listed⟩ connected ⟨_ | ticket, index, key, wallet, waiter⟩
        ⟨other, peer, ⟨calledToo, listedToo⟩, waits, isKey, -⟩ elsewhere same
      · cases called
        cases listed
        cases calledToo
        rcases index with _ | _ | index
        · cases listedToo
          have experts : 7 = 8 := congrArg ExpertAssignmentKey.expertId (isKey.trans same)
          cases experts
        · exact elsewhere rfl
        · cases listedToo
      · cases calledToo
  exact ⟨maps_list_waiting admitted.runWith, by decide, by decide, by decide, by decide⟩

/-- A selection that names expert 7 twice. -/
def duplicateEvents : List Stimulus :=
  [trio (.dispatchAndJoin "p" (soleFanOut 0 [7, 7])), trio (.dispatchOne 0 0 true),
    trio (.dispatchOne 0 1 true)]

/-- A session that ends while its fan-out waits. -/
def droppedEvents : List Stimulus :=
  [trio (.dispatchAndJoin "p" (soleFanOut 0 [7])), trio (.dispatchOne 0 0 true),
    trio (.cancel 0)]

/-- The second dispatch of one expert takes the place of the first, whose sender
is dropped; and the entries of a dropped call stay. -/
theorem entries_overwritten_or_left :
    (∃ dispatcher, (system soleDigest soleArithmetic).Run new duplicateEvents dispatcher ∧
      ¬ ListsWaiting soleDigest soleArithmetic duplicateEvents dispatcher) ∧
    ∃ dispatcher, (system soleDigest soleArithmetic).Run new droppedEvents dispatcher ∧
      ¬ ListsWaiting soleDigest soleArithmetic droppedEvents dispatcher := by
  have duplicated :
      (system soleDigest soleArithmetic).Admits (fun _ _ => True) new duplicateEvents :=
    ⟨⟨trivial, trivial⟩, ⟨⟨_, _, ⟨rfl, rfl⟩, rfl⟩, trivial⟩,
      ⟨⟨_, _, ⟨rfl, rfl⟩, rfl⟩, trivial⟩, trivial⟩
  have dropped :
      (system soleDigest soleArithmetic).Admits (fun _ _ => True) new droppedEvents :=
    ⟨⟨trivial, trivial⟩, ⟨⟨_, _, ⟨rfl, rfl⟩, rfl⟩, trivial⟩, ⟨⟨_, rfl⟩, trivial⟩, trivial⟩
  refine ⟨⟨_, duplicated.runWith, fun lists => ?_⟩, _, dropped.runWith, fun lists => ?_⟩
  · have first := lists.senders ⟨0, 0, ⟨"r", 0, 4, 3, 7⟩, "a", 0⟩ ⟨_, _, ⟨rfl, rfl⟩, rfl, rfl, rfl⟩
    rcases first with held | ⟨result, answered⟩ | ⟨found, registry, ⟨earlier, later, split, -⟩, -⟩
    · exact absurd held (by decide)
    · cases answered
    · rcases earlier with _ | ⟨one, _ | ⟨two, _ | ⟨three, rest⟩⟩⟩ <;>
        simp [duplicateEvents, trio] at split
  · obtain ⟨wait, ⟨call, member, stands, -⟩, -⟩ := lists.assignments ⟨"r", 0, 4, 3, 7⟩ "a" rfl
    obtain ⟨ne, stored⟩ := PartialMap.of_remove_eq_some stands.called
    have begun := (PartialMap.insert_of_ne _ _ ne).symm.trans stored
    cases (PartialMap.insert_of_ne _ _ ne).symm.trans begun

end ExpertDispatcher

end StratumBridge.Expert
