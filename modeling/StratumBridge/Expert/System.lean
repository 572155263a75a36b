import StratumBridge.Expert.Dispatcher
import StratumBridge.Transition.Run

/-!
# Runs of the expert dispatcher

The dispatcher as a system of events, and `Step`, the list of everything one
event can do to it.
-/

namespace StratumBridge.Expert

open Data Wire Transition
open Shard (SelectedExpert)

/-- What can happen to the dispatcher. -/
inductive Event
  | dispatchAndJoin (reader : Wallet) (request : FanOut)
  /-- A member that is ready is dispatched to its host. -/
  | dispatchOne (ticket : Ticket) (index : Nat) (isOpen : Bool)
  /-- A member that waits goes on: with its reply if there is one, else because
  its sender is gone or its time is over. -/
  | wake (ticket : Ticket) (index : Nat)
  | expertResult (wallet : Wallet) (result : OpoiExpertResult) (sentAt : Nat)
  | disconnect (wallet : Wallet)
  | cancel (ticket : Ticket)

/-- The member of a call that an event goes on with. -/
def Event.actsOn : Event → Option (Ticket × Nat)
  | dispatchOne ticket index _ => some (ticket, index)
  | wake ticket index => some (ticket, index)
  | _ => none

/-- An event together with the registry it finds. -/
structure Stimulus where
  registry : MinerRegistry
  event : Event

namespace Member

variable (registry : MinerRegistry) (error : AttemptError) (member : Member)

@[simp]
theorem retry_selected : (member.retry registry error).selected = member.selected := by
  unfold retry
  split
  · rfl
  · split <;> rfl

/-- A retry does not wait. -/
theorem retry_progress_ne_waiting (waiter : Waiter) :
    (member.retry registry error).progress ≠ .waiting waiter := by
  intro waits
  unfold retry at waits
  split at waits
  · cases waits
  · split at waits <;> cases waits

end Member

/-- The up-front selection: every expert in the order of the list, each on a
wallet of its own that was not used before and is large enough. -/
theorem plan_eq_ok {registry : MinerRegistry} {minVramMbFor : Nat → Nat}
    {experts : List SelectedExpert} {usedWallets used : List Wallet}
    {planned : List (SelectedExpert × Wallet)}
    (selected : plan registry minVramMbFor experts usedWallets = .ok (planned, used)) :
    planned.map Prod.fst = experts ∧ (planned.map Prod.snd).Nodup ∧
      used = usedWallets ++ planned.map Prod.snd ∧
      ∀ choice ∈ planned,
        registry.HostEligible (minVramMbFor choice.1.expertId) usedWallets choice.2 := by
  induction experts generalizing usedWallets planned with
  | nil =>
      cases selected
      simp
  | cons expert rest ih =>
      rw [plan] at selected
      cases picked : registry.pickExpertHost (minVramMbFor expert.expertId) usedWallets with
      | none => simp [picked] at selected
      | some wallet =>
          simp only [picked] at selected
          cases later : plan registry minVramMbFor rest (usedWallets ++ [wallet]) with
          | error hostless => simp [later] at selected
          | ok chosen =>
              rcases chosen with ⟨others, usedAfter⟩
              simp only [later, Except.ok.injEq, Prod.mk.injEq] at selected
              rcases selected with ⟨rfl, rfl⟩
              obtain ⟨listed, distinct, uses, eligible⟩ := ih later
              have unused : ∀ choice ∈ others, choice.2 ∉ usedWallets ++ [wallet] :=
                fun choice mem => (eligible choice mem).notExcluded
              refine ⟨by rw [List.map_cons, listed], ?_, by simp [uses], ?_⟩
              · rw [List.map_cons, List.nodup_cons]
                constructor
                · intro again
                  obtain ⟨choice, mem, same⟩ := List.mem_map.mp again
                  exact unused choice mem (List.mem_append_right _ (by simp [same]))
                · exact distinct
              · intro choice mem
                rcases List.mem_cons.mp mem with rfl | inOthers
                · exact MinerRegistry.hostEligible_of_pickExpertHost picked
                · have host := eligible choice inOthers
                  exact { host with
                    notExcluded := fun used => host.notExcluded (List.mem_append_left _ used) }

/-- The reply that an entry says a member of a call returned. -/
def Entry.returnOf (ticket : Ticket) (index : Nat) : Entry → Option OpoiExpertResult
  | .returned other position _ result =>
      if other = ticket ∧ position = index then some result else none
  | _ => none

namespace ExpertDispatcher

/-- Where a member of a call under way stands. -/
structure Stands (dispatcher : ExpertDispatcher) (ticket : Ticket) (index : Nat) (call : Call)
    (member : Member) : Prop where
  called : dispatcher.calls ticket = some call
  listed : call.members[index]? = some member

/-- Go on with one member of a call. -/
def resume (ticket : Ticket) (index : Nat)
    (go : Call → Member → ExpertDispatcher → ExpertDispatcher) (dispatcher : ExpertDispatcher) :
    ExpertDispatcher :=
  match dispatcher.calls ticket with
  | none => dispatcher
  | some call =>
      match call.members[index]? with
      | none => dispatcher
      | some member => go call member dispatcher

/-- One event. -/
def next (sha256 : Digest) (arith : Arithmetic) (dispatcher : ExpertDispatcher)
    (stimulus : Stimulus) : ExpertDispatcher :=
  match stimulus.event with
  | .dispatchAndJoin reader request => dispatchAndJoin stimulus.registry reader request dispatcher
  | .dispatchOne ticket index isOpen =>
      dispatcher.resume ticket index fun call member dispatcher =>
        match member.progress with
        | .ready =>
            dispatchOne sha256 arith stimulus.registry ticket index isOpen call member dispatcher
        | _ => dispatcher
  | .wake ticket index =>
      dispatcher.resume ticket index fun call member dispatcher =>
        match member.progress with
        | .waiting waiter => wake arith stimulus.registry ticket index call member waiter dispatcher
        | _ => dispatcher
  | .expertResult wallet result sentAt => handleExpertResult wallet result sentAt dispatcher
  | .disconnect wallet => onDisconnect wallet dispatcher
  | .cancel ticket => cancel ticket dispatcher

/-- A member goes on when it can, and a reply was sent before it arrives. -/
def enabled (dispatcher : ExpertDispatcher) (stimulus : Stimulus) : Prop :=
  match stimulus.event with
  | .dispatchAndJoin _ _ => True
  | .dispatchOne ticket index _ =>
      ∃ call member, dispatcher.Stands ticket index call member ∧ member.progress = .ready
  | .wake ticket index =>
      ∃ call member waiter, dispatcher.Stands ticket index call member ∧
        member.progress = .waiting waiter
  | .expertResult _ _ sentAt => sentAt ≤ dispatcher.log.length
  | .disconnect _ => True
  | .cancel ticket => ∃ call, dispatcher.calls ticket = some call

/-- The expert dispatcher as a system of events. -/
def system (sha256 : Digest) (arith : Arithmetic) : System ExpertDispatcher Stimulus where
  enabled := enabled
  next := next sha256 arith

variable {sha256 : Digest} {arith : Arithmetic} {dispatcher : ExpertDispatcher}
  {stimulus : Stimulus} {ticket : Ticket} {index : Nat} {call : Call} {member : Member}

/-! ## Settling a call -/

section Settle

variable (arith ticket call dispatcher)

@[simp]
theorem settle_assignments :
    (settle arith ticket call dispatcher).assignments = dispatcher.assignments := by
  unfold settle
  split <;> rfl

@[simp]
theorem settle_pending : (settle arith ticket call dispatcher).pending = dispatcher.pending := by
  unfold settle
  split <;> rfl

@[simp]
theorem settle_replies : (settle arith ticket call dispatcher).replies = dispatcher.replies := by
  unfold settle
  split <;> rfl

@[simp]
theorem settle_nextWaiter :
    (settle arith ticket call dispatcher).nextWaiter = dispatcher.nextWaiter := by
  unfold settle
  split <;> rfl

@[simp]
theorem settle_nextTicket :
    (settle arith ticket call dispatcher).nextTicket = dispatcher.nextTicket := by
  unfold settle
  split <;> rfl

/-- The entry a call leaves when all its members have finished. -/
def joinedEntries : List Entry :=
  (call.joinAll.map fun outcomes => Entry.joined ticket (conclude arith outcomes)).toList

@[simp]
theorem settle_log :
    (settle arith ticket call dispatcher).log =
      dispatcher.log ++ joinedEntries arith ticket call := by
  unfold settle joinedEntries
  split <;> simp [*]

/-- The call as it is stored, unless all its members have finished. -/
def unjoined : Option Call :=
  if call.joinAll.isSome then none else some call

@[simp]
theorem settle_calls :
    (settle arith ticket call dispatcher).calls =
      Function.update dispatcher.calls ticket (unjoined call) := by
  unfold settle unjoined
  split <;> simp [*, PartialMap.insert, PartialMap.remove]

theorem unjoined_eq_some {other : Call} (stored : unjoined call = some other) :
    other = call ∧ call.joinAll = none := by
  unfold unjoined at stored
  split at stored
  · cases stored
  · cases stored
    exact ⟨rfl, Option.not_isSome_iff_eq_none.mp ‹_›⟩

end Settle

/-! ## What an event can do -/

/-- Both maps lose keys, something is noted, and nothing else happens that
matters later. -/
structure Clears (before : ExpertDispatcher) (entries : List Entry) (after : ExpertDispatcher) :
    Prop where
  maps : ∀ key,
    after.assignments key = before.assignments key ∧ after.pending key = before.pending key ∨
      after.assignments key = none ∧ after.pending key = none
  replies : after.replies = before.replies
  calls : after.calls = before.calls
  waiters : before.nextWaiter ≤ after.nextWaiter
  tickets : after.nextTicket = before.nextTicket
  log : after.log = before.log ++ entries

theorem Clears.refl (dispatcher : ExpertDispatcher) : Clears dispatcher [] dispatcher where
  maps _ := .inl ⟨rfl, rfl⟩
  replies := rfl
  calls := rfl
  waiters := le_rfl
  tickets := rfl
  log := (List.append_nil _).symm

theorem clears_forget (dispatcher : ExpertDispatcher) (key : ExpertAssignmentKey) :
    Clears dispatcher [] (dispatcher.forget key) where
  maps other := by
    by_cases same : other = key
    · subst same
      exact .inr ⟨PartialMap.remove_self .., PartialMap.remove_self ..⟩
    · exact .inl ⟨PartialMap.remove_of_ne _ same, PartialMap.remove_of_ne _ same⟩
  replies := rfl
  calls := rfl
  waiters := le_rfl
  tickets := rfl
  log := (List.append_nil _).symm

theorem clears_onDisconnect (dispatcher : ExpertDispatcher) (wallet : Wallet) :
    Clears dispatcher [] (dispatcher.onDisconnect wallet) where
  maps key := by
    by_cases theirs : dispatcher.assignments key = some wallet
    · right
      constructor
      · simp [onDisconnect, PartialMap.retain_apply, theirs]
      · simp [onDisconnect, theirs]
    · left
      constructor
      · rcases PartialMap.retain_eq_self_or_none (fun assigned => assigned ≠ wallet)
          dispatcher.assignments key with same | gone
        · exact same
        · cases assigned : dispatcher.assignments key with
          | none => exact PartialMap.retain_eq_none_of_eq_none assigned
          | some other =>
              have ne : other ≠ wallet := by
                rintro rfl
                exact theirs assigned
              exact PartialMap.retain_eq_some_iff.mpr ⟨assigned, by simpa using ne⟩
      · simp [onDisconnect, theirs]
  replies := rfl
  calls := rfl
  waiters := le_rfl
  tickets := rfl
  log := (List.append_nil _).symm

/-- Why a fan-out is refused. -/
inductive Refusal (registry : MinerRegistry) (request : FanOut) : JoinError → Prop
  | noExperts (none : request.experts = []) : Refusal registry request .noExperts
  | outsideRange
      (outside : request.layerIdx < request.layerStart ∨ request.layerEnd ≤ request.layerIdx) :
      Refusal registry request
        (.outsideRange request.layerIdx request.layerStart request.layerEnd)
  | noEligibleHost {hostless : SelectedExpert}
      (unplanned : plan registry request.minVramMbFor request.experts request.preExcluded =
        .error hostless) :
      Refusal registry request
        (.noEligibleHost hostless.expertId (request.minVramMbFor hostless.expertId)
          request.layerIdx request.layerStart request.layerEnd)

/-- The attempt of a member fails: its host cannot be reached, or does not
answer. -/
inductive Fails (dispatcher : ExpertDispatcher) (registry : MinerRegistry) (ticket : Ticket)
    (index : Nat) (member : Member) : Event → Prop
  | unreached {isOpen : Bool} (ready : member.progress = .ready)
      (unreachable : isOpen = false ∨ registry.get member.wallet = none) :
      Fails dispatcher registry ticket index member (.dispatchOne ticket index isOpen)
  | unanswered {waiter : Waiter} (waiting : member.progress = .waiting waiter)
      (silent : dispatcher.replies waiter = none) :
      Fails dispatcher registry ticket index member (.wake ticket index)

/-- The outcomes of one event. -/
inductive Step (sha256 : Digest) (arith : Arithmetic) (dispatcher : ExpertDispatcher) :
    Stimulus → ExpertDispatcher → Prop
  | refused {registry reader request error} (refusal : Refusal registry request error) :
      Step sha256 arith dispatcher ⟨registry, .dispatchAndJoin reader request⟩
        { dispatcher with
          nextTicket := dispatcher.nextTicket + 1
          log := dispatcher.log ++ [.begun dispatcher.nextTicket reader registry request,
            .joined dispatcher.nextTicket (.error error)] }
  | begun {registry reader request planned usedWallets} (listed : request.experts ≠ [])
      (selected : plan registry request.minVramMbFor request.experts request.preExcluded =
        .ok (planned, usedWallets)) :
      Step sha256 arith dispatcher ⟨registry, .dispatchAndJoin reader request⟩
        { dispatcher with
          calls := dispatcher.calls.insert dispatcher.nextTicket
            ⟨reader, request, planned.map (Member.start usedWallets)⟩
          nextTicket := dispatcher.nextTicket + 1
          log := dispatcher.log ++ [.begun dispatcher.nextTicket reader registry request] }
  | sent {registry ticket index call member tx}
      (stands : dispatcher.Stands ticket index call member) (ready : member.progress = .ready)
      (connected : registry.get member.wallet = some tx) :
      Step sha256 arith dispatcher ⟨registry, .dispatchOne ticket index true⟩
        { dispatcher with
          assignments := dispatcher.assignments.insert (call.request.key member.selected)
            member.wallet
          pending := dispatcher.pending.insert (call.request.key member.selected)
            dispatcher.nextWaiter
          recent := dispatcher.recent.insert (call.request.key member.selected) member.wallet
          calls := dispatcher.calls.insert ticket
            (call.setMember index { member with progress := .waiting dispatcher.nextWaiter })
          nextWaiter := dispatcher.nextWaiter + 1
          log := dispatcher.log ++ [.assigned
            ⟨ticket, index, dispatcher.nextWaiter, member.wallet, tx,
              call.request.assign sha256 member.selected⟩] }
  | failed {registry event ticket index call member error cleared}
      (stands : dispatcher.Stands ticket index call member)
      (fails : Fails dispatcher registry ticket index member event)
      (clears : Clears dispatcher [] cleared) :
      Step sha256 arith dispatcher ⟨registry, event⟩
        (cleared.settle arith ticket (call.setMember index (member.retry registry error)))
  | returned {registry ticket index call member waiter result cleared}
      (stands : dispatcher.Stands ticket index call member)
      (waiting : member.progress = .waiting waiter)
      (reply : dispatcher.replies waiter = some result)
      (clears : Clears dispatcher [.returned ticket index waiter result] cleared) :
      Step sha256 arith dispatcher ⟨registry, .wake ticket index⟩
        (cleared.settle arith ticket
          (call.setMember index { member with progress := .done result }))
  | rejected {registry wallet result sentAt error} :
      Step sha256 arith dispatcher ⟨registry, .expertResult wallet result sentAt⟩
        (dispatcher.emit [.rejected wallet result.requestId error])
  | late {registry wallet result sentAt} :
      Step sha256 arith dispatcher ⟨registry, .expertResult wallet result sentAt⟩ dispatcher
  | delivered {registry wallet result sentAt waiter}
      (assigned : dispatcher.assignments (replyKey result) = some wallet)
      (pending : dispatcher.pending (replyKey result) = some waiter) :
      Step sha256 arith dispatcher ⟨registry, .expertResult wallet result sentAt⟩
        { dispatcher with
          pending := dispatcher.pending.remove (replyKey result)
          replies := dispatcher.replies.insert waiter result
          log := dispatcher.log ++ [.delivered waiter wallet result sentAt] }
  | released {registry wallet after} (clears : Clears dispatcher [] after) :
      Step sha256 arith dispatcher ⟨registry, .disconnect wallet⟩ after
  | cancelled {registry ticket} :
      Step sha256 arith dispatcher ⟨registry, .cancel ticket⟩ (dispatcher.cancel ticket)

theorem step_dispatchAndJoin (registry : MinerRegistry) (reader : Wallet) (request : FanOut)
    (dispatcher : ExpertDispatcher) :
    Step sha256 arith dispatcher ⟨registry, .dispatchAndJoin reader request⟩
      (dispatchAndJoin registry reader request dispatcher) := by
  have logged : ∀ error : JoinError,
      dispatcher.log ++ [.begun dispatcher.nextTicket reader registry request] ++
          [.joined dispatcher.nextTicket (.error error)] =
        dispatcher.log ++ [.begun dispatcher.nextTicket reader registry request,
          .joined dispatcher.nextTicket (.error error)] := fun error => by simp
  unfold dispatchAndJoin
  by_cases listed : request.experts = []
  · simp only [listed, if_true, refuse, emit, logged]
    exact .refused (.noExperts listed)
  · simp only [listed, if_false]
    by_cases outside : request.layerIdx < request.layerStart ∨ request.layerEnd ≤ request.layerIdx
    · simp only [outside, if_true, refuse, emit, logged]
      exact .refused (.outsideRange outside)
    · simp only [outside, if_false]
      cases selected : plan registry request.minVramMbFor request.experts request.preExcluded with
      | error hostless =>
          simp only [refuse, emit, logged]
          exact .refused (.noEligibleHost selected)
      | ok chosen => exact .begun listed selected

theorem step_dispatchOne {registry : MinerRegistry} {isOpen : Bool}
    (stands : dispatcher.Stands ticket index call member) (ready : member.progress = .ready) :
    Step sha256 arith dispatcher ⟨registry, .dispatchOne ticket index isOpen⟩
      (dispatchOne sha256 arith registry ticket index isOpen call member dispatcher) := by
  unfold dispatchOne
  cases connected : registry.get member.wallet with
  | none => exact .failed stands (.unreached ready (.inr connected)) (.refl _)
  | some tx =>
      cases isOpen with
      | true => exact .sent stands ready connected
      | false =>
          apply Step.failed stands (.unreached ready (.inl rfl))
          constructor
          · intro key
            by_cases same : key = call.request.key member.selected
            · subst same
              exact .inr ⟨PartialMap.remove_self .., PartialMap.remove_self ..⟩
            · left
              constructor
              · exact (PartialMap.remove_of_ne _ same).trans (PartialMap.insert_of_ne _ _ same)
              · exact (PartialMap.remove_of_ne _ same).trans (PartialMap.insert_of_ne _ _ same)
          · rfl
          · rfl
          · exact Nat.le_succ _
          · rfl
          · exact (List.append_nil _).symm

theorem step_wake {registry : MinerRegistry} {waiter : Waiter}
    (stands : dispatcher.Stands ticket index call member)
    (waiting : member.progress = .waiting waiter) :
    Step sha256 arith dispatcher ⟨registry, .wake ticket index⟩
      (wake arith registry ticket index call member waiter dispatcher) := by
  unfold wake
  cases reply : dispatcher.replies waiter with
  | some result =>
      apply Step.returned stands waiting reply
      exact { clears_forget dispatcher (call.request.key member.selected) with log := rfl }
  | none => exact .failed stands (.unanswered waiting reply) (clears_forget ..)

theorem step_handleExpertResult (registry : MinerRegistry) (wallet : Wallet)
    (result : OpoiExpertResult) (sentAt : Nat) (dispatcher : ExpertDispatcher) :
    Step sha256 arith dispatcher ⟨registry, .expertResult wallet result sentAt⟩
      (handleExpertResult wallet result sentAt dispatcher) := by
  unfold handleExpertResult
  cases assigned : dispatcher.assignments (replyKey result) with
  | none =>
      simp only [assigned]
      exact .rejected
  | some holder =>
      simp only [assigned]
      by_cases same : holder = wallet
      · subst same
        rw [if_pos rfl]
        cases pending : dispatcher.pending (replyKey result) with
        | none => exact .late
        | some waiter => exact .delivered assigned pending
      · rw [if_neg same]
        exact .rejected

/-- Every event does one of the things listed. -/
theorem step_next (enabled : dispatcher.enabled stimulus) :
    Step sha256 arith dispatcher stimulus (next sha256 arith dispatcher stimulus) := by
  rcases stimulus with ⟨registry, event⟩
  cases event with
  | dispatchAndJoin reader request => exact step_dispatchAndJoin ..
  | dispatchOne ticket index isOpen =>
      rcases enabled with ⟨call, member, stands, ready⟩
      simp only [next, resume, stands.called, stands.listed, ready]
      exact step_dispatchOne stands ready
  | wake ticket index =>
      rcases enabled with ⟨call, member, waiter, stands, waiting⟩
      simp only [next, resume, stands.called, stands.listed, waiting]
      exact step_wake stands waiting
  | expertResult wallet result sentAt => exact step_handleExpertResult ..
  | disconnect wallet => exact .released (clears_onDisconnect ..)
  | cancel ticket => exact .cancelled

/-- The line that an event sends. -/
structure Sends (sha256 : Digest) (dispatcher : ExpertDispatcher) (stimulus : Stimulus)
    (dispatch : Dispatch) (call : Call) (member : Member) : Prop where
  event : stimulus.event = .dispatchOne dispatch.ticket dispatch.index true
  stands : dispatcher.Stands dispatch.ticket dispatch.index call member
  ready : member.progress = .ready
  wallet : dispatch.wallet = member.wallet
  connected : stimulus.registry.get member.wallet = some dispatch.tx
  waiter : dispatch.waiter = dispatcher.nextWaiter
  assign : dispatch.assign = call.request.assign sha256 member.selected

/-- The entries that an event adds to the log, and why. -/
inductive Adds (sha256 : Digest) (arith : Arithmetic) (dispatcher : ExpertDispatcher)
    (stimulus : Stimulus) (after : ExpertDispatcher) : Entry → Prop
  | refused {reader request error entry}
      (event : stimulus.event = .dispatchAndJoin reader request)
      (refusal : Refusal stimulus.registry request error)
      (advanced : after.nextTicket = dispatcher.nextTicket + 1)
      (logged : after.log = dispatcher.log ++
        [.begun dispatcher.nextTicket reader stimulus.registry request,
          .joined dispatcher.nextTicket (.error error)])
      (calls : after.calls = dispatcher.calls)
      (isNew : entry = .begun dispatcher.nextTicket reader stimulus.registry request ∨
        entry = .joined dispatcher.nextTicket (.error error)) :
      Adds sha256 arith dispatcher stimulus after entry
  | begun {reader request planned usedWallets}
      (event : stimulus.event = .dispatchAndJoin reader request)
      (selected : plan stimulus.registry request.minVramMbFor request.experts
        request.preExcluded = .ok (planned, usedWallets))
      (advanced : after.nextTicket = dispatcher.nextTicket + 1)
      (stored : after.calls dispatcher.nextTicket =
        some ⟨reader, request, planned.map (Member.start usedWallets)⟩) :
      Adds sha256 arith dispatcher stimulus after
        (.begun dispatcher.nextTicket reader stimulus.registry request)
  | assigned {dispatch call member} (sends : Sends sha256 dispatcher stimulus dispatch call member)
      (advanced : after.nextWaiter = dispatcher.nextWaiter + 1)
      (logged : after.log = dispatcher.log ++ [.assigned dispatch]) :
      Adds sha256 arith dispatcher stimulus after (.assigned dispatch)
  | delivered {waiter wallet result sentAt}
      (event : stimulus.event = .expertResult wallet result sentAt)
      (assigned : dispatcher.assignments (replyKey result) = some wallet)
      (pending : dispatcher.pending (replyKey result) = some waiter) :
      Adds sha256 arith dispatcher stimulus after (.delivered waiter wallet result sentAt)
  | rejected {wallet requestId error} :
      Adds sha256 arith dispatcher stimulus after (.rejected wallet requestId error)
  | returned {ticket index call member waiter result}
      (stands : dispatcher.Stands ticket index call member)
      (waiting : member.progress = .waiting waiter)
      (reply : dispatcher.replies waiter = some result) :
      Adds sha256 arith dispatcher stimulus after (.returned ticket index waiter result)
  | abandoned {ticket index call member error outcomes}
      (stands : dispatcher.Stands ticket index call member)
      (joins : (call.setMember index (member.retry stimulus.registry error)).joinAll =
        some outcomes)
      (ended : after.calls ticket = none) :
      Adds sha256 arith dispatcher stimulus after (.joined ticket (conclude arith outcomes))
  | joined {ticket index call member waiter result outcomes}
      (event : stimulus.event = .wake ticket index)
      (stands : dispatcher.Stands ticket index call member)
      (waiting : member.progress = .waiting waiter)
      (reply : dispatcher.replies waiter = some result)
      (joins : (call.setMember index { member with progress := .done result }).joinAll =
        some outcomes)
      (logged : after.log = dispatcher.log ++ [.returned ticket index waiter result,
        .joined ticket (conclude arith outcomes)])
      (ended : after.calls ticket = none) :
      Adds sha256 arith dispatcher stimulus after (.joined ticket (conclude arith outcomes))
  | cancelled {ticket : Ticket} (ended : after.calls ticket = none) :
      Adds sha256 arith dispatcher stimulus after (.cancelled ticket)

/-- A call that returned when it was settled. -/
theorem of_mem_joinedEntries {cleared : ExpertDispatcher} {entry : Entry}
    (mem : entry ∈ joinedEntries arith ticket call) :
    ∃ outcomes, call.joinAll = some outcomes ∧ entry = .joined ticket (conclude arith outcomes) ∧
      joinedEntries arith ticket call = [entry] ∧
      (cleared.settle arith ticket call).calls ticket = none := by
  simp only [joinedEntries, Option.mem_toList, Option.map_eq_some_iff] at mem
  rcases mem with ⟨outcomes, joins, rfl⟩
  refine ⟨outcomes, joins, rfl, by simp [joinedEntries, joins], ?_⟩
  simp [settle_calls, unjoined, joins]

theorem Step.adds {after : ExpertDispatcher} (step : Step sha256 arith dispatcher stimulus after) :
    ∃ entries, after.log = dispatcher.log ++ entries ∧
      ∀ entry ∈ entries, Adds sha256 arith dispatcher stimulus after entry := by
  cases step with
  | refused refusal =>
      refine ⟨_, rfl, fun entry mem => ?_⟩
      exact .refused rfl refusal rfl rfl rfl (List.mem_pair.mp mem)
  | begun listed selected =>
      refine ⟨_, rfl, fun entry mem => ?_⟩
      rw [List.mem_singleton.mp mem]
      exact .begun rfl selected rfl (PartialMap.insert_self ..)
  | sent stands ready connected =>
      refine ⟨_, rfl, fun entry mem => ?_⟩
      rw [List.mem_singleton.mp mem]
      exact .assigned ⟨rfl, stands, ready, rfl, connected, rfl, rfl⟩ rfl rfl
  | failed stands fails clears =>
      refine ⟨joinedEntries .., by rw [settle_log, clears.log, List.append_nil],
        fun entry mem => ?_⟩
      obtain ⟨outcomes, joins, rfl, -, ended⟩ := of_mem_joinedEntries mem
      exact .abandoned stands joins ended
  | returned stands waiting reply clears =>
      refine ⟨_, by rw [settle_log, clears.log, List.append_assoc], fun entry mem => ?_⟩
      rcases List.mem_append.mp mem with single | joined
      · rw [List.mem_singleton.mp single]
        exact .returned stands waiting reply
      · obtain ⟨outcomes, joins, rfl, alone, ended⟩ := of_mem_joinedEntries joined
        refine .joined rfl stands waiting reply joins ?_ ended
        rw [settle_log, clears.log, alone, List.append_assoc]
        rfl
  | rejected =>
      refine ⟨_, rfl, fun entry mem => ?_⟩
      rw [List.mem_singleton.mp mem]
      exact .rejected
  | late => exact ⟨[], (List.append_nil _).symm, nofun⟩
  | delivered assigned pending =>
      refine ⟨_, rfl, fun entry mem => ?_⟩
      rw [List.mem_singleton.mp mem]
      exact .delivered rfl assigned pending
  | released clears => exact ⟨[], clears.log, nofun⟩
  | cancelled =>
      refine ⟨_, rfl, fun entry mem => ?_⟩
      rw [List.mem_singleton.mp mem]
      exact .cancelled (PartialMap.remove_self ..)

theorem Step.extends {after : ExpertDispatcher}
    (step : Step sha256 arith dispatcher stimulus after) : dispatcher.log <+: after.log := by
  rcases step.adds with ⟨entries, extended, -⟩
  exact ⟨entries, extended.symm⟩

theorem Step.mem_log {after : ExpertDispatcher}
    (step : Step sha256 arith dispatcher stimulus after) {entry : Entry}
    (mem : entry ∈ after.log) :
    entry ∈ dispatcher.log ∨ Adds sha256 arith dispatcher stimulus after entry := by
  rcases step.adds with ⟨entries, extended, adds⟩
  rw [extended] at mem
  rcases List.mem_append.mp mem with old | new
  · exact .inl old
  · exact .inr (adds entry new)

/-! ## What an event can do to a member -/

/-- The replies that the log says a member of a call returned. -/
def returnsOf (log : List Entry) (ticket : Ticket) (index : Nat) : List OpoiExpertResult :=
  log.filterMap (Entry.returnOf ticket index)

theorem returnsOf_append (log entries : List Entry) (ticket : Ticket) (index : Nat) :
    returnsOf (log ++ entries) ticket index =
      returnsOf log ticket index ++ returnsOf entries ticket index :=
  List.filterMap_append

/-- Entries of other kinds, and about other members, return nothing. -/
theorem returnsOf_append_of_quiet (log : List Entry) {entries : List Entry} {ticket : Ticket}
    {index : Nat} (quiet : ∀ entry ∈ entries, Entry.returnOf ticket index entry = none) :
    returnsOf (log ++ entries) ticket index = returnsOf log ticket index := by
  rw [returnsOf_append, returnsOf, returnsOf, List.filterMap_eq_nil_iff.mpr quiet,
    List.append_nil]

theorem returnOf_joinedEntries (call : Call) (position : Nat) {settled : Ticket} :
    ∀ entry ∈ joinedEntries arith settled call, Entry.returnOf ticket position entry = none := by
  intro entry mem
  simp only [joinedEntries, Option.mem_toList, Option.map_eq_some_iff] at mem
  rcases mem with ⟨outcomes, -, rfl⟩
  rfl

/-- Two states of one call. -/
structure SameCall (before after : Call) : Prop where
  reader : after.reader = before.reader
  request : after.request = before.request
  selected : after.members.map Member.selected = before.members.map Member.selected

theorem SameCall.refl (call : Call) : SameCall call call :=
  ⟨rfl, rfl, rfl⟩

/-- A call keeps its members. -/
theorem SameCall.length_eq {before after : Call} (same : SameCall before after) :
    after.members.length = before.members.length := by
  simpa using congrArg List.length same.selected

theorem sameCall_setMember {new : Member} (listed : call.members[index]? = some member)
    (sameExpert : new.selected = member.selected) : SameCall call (call.setMember index new) where
  reader := rfl
  request := rfl
  selected := by
    obtain ⟨inside, rfl⟩ := List.getElem?_eq_some_iff.mp listed
    rw [Call.setMember, List.map_set, sameExpert, ← List.map_set, List.set_getElem_self]

/-- Where a member of a call comes from after an event. -/
inductive Moved (sha256 : Digest) (dispatcher : ExpertDispatcher) (stimulus : Stimulus)
    (finish : ExpertDispatcher) (ticket : Ticket) (index : Nat) (after : Call) (member : Member) :
    Prop
  | kept {before} (stands : dispatcher.Stands ticket index before member)
      (same : SameCall before after)
      (elsewhere : stimulus.event.actsOn ≠ some (ticket, index))
      (silent : returnsOf finish.log ticket index = returnsOf dispatcher.log ticket index) :
      Moved sha256 dispatcher stimulus finish ticket index after member
  | sent {before old tx} (stands : dispatcher.Stands ticket index before old)
      (same : SameCall before after) (ready : old.progress = .ready)
      (connected : stimulus.registry.get old.wallet = some tx)
      (event : stimulus.event = .dispatchOne ticket index true)
      (now : member = { old with progress := .waiting dispatcher.nextWaiter })
      (logged : finish.log = dispatcher.log ++ [.assigned ⟨ticket, index, dispatcher.nextWaiter,
        old.wallet, tx, before.request.assign sha256 old.selected⟩]) :
      Moved sha256 dispatcher stimulus finish ticket index after member
  | retried {before old error} (stands : dispatcher.Stands ticket index before old)
      (same : SameCall before after)
      (fails : Fails dispatcher stimulus.registry ticket index old stimulus.event)
      (now : member = old.retry stimulus.registry error) (logged : finish.log = dispatcher.log) :
      Moved sha256 dispatcher stimulus finish ticket index after member
  | returned {before old waiter result} (stands : dispatcher.Stands ticket index before old)
      (same : SameCall before after) (event : stimulus.event = .wake ticket index)
      (waiting : old.progress = .waiting waiter)
      (reply : dispatcher.replies waiter = some result)
      (now : member = { old with progress := .done result })
      (logged : finish.log = dispatcher.log ++ [.returned ticket index waiter result]) :
      Moved sha256 dispatcher stimulus finish ticket index after member
  | begun {planned usedWallets selection} (fresh : ticket = dispatcher.nextTicket)
      (event : stimulus.event = .dispatchAndJoin after.reader after.request)
      (selected : plan stimulus.registry after.request.minVramMbFor after.request.experts
        after.request.preExcluded = .ok (planned, usedWallets))
      (listed : planned[index]? = some selection)
      (now : member = Member.start usedWallets selection) :
      Moved sha256 dispatcher stimulus finish ticket index after member

/-- A member after one member of a call was replaced. -/
theorem stands_setMember {after : ExpertDispatcher} {changed : Call} {old new : Member}
    {other : Ticket} {position : Nat}
    (updated : other = ticket ∧ changed = call.setMember index new ∨
      other ≠ ticket ∧ dispatcher.calls other = some changed)
    (stands : dispatcher.Stands ticket index call old)
    (now : after.Stands other position changed member) (sameExpert : new.selected = old.selected) :
    (other = ticket ∧ position = index ∧ SameCall call changed ∧ member = new) ∨
      (other ≠ ticket ∨ position ≠ index) ∧
        ∃ before, dispatcher.Stands other position before member ∧ SameCall before changed := by
  rcases updated with ⟨rfl, rfl⟩ | ⟨elsewhere, kept⟩
  · have found := now.listed
    by_cases here : position = index
    · subst here
      have inside : position < call.members.length :=
        (List.getElem?_eq_some_iff.mp stands.listed).1
      rw [Call.setMember, List.getElem?_set_self inside] at found
      exact .inl ⟨rfl, rfl, sameCall_setMember stands.listed sameExpert,
        (Option.some.inj found).symm⟩
    · rw [Call.setMember, List.getElem?_set_ne (Ne.symm here)] at found
      exact .inr ⟨.inr here, call, ⟨stands.called, found⟩,
        sameCall_setMember stands.listed sameExpert⟩
  · exact .inr ⟨.inl elsewhere, changed, ⟨kept, now.listed⟩, .refl _⟩

theorem calls_insert_cases {calls : PartialMap Ticket Call} {changed : Call} {other : Ticket}
    (stored : calls.insert ticket call other = some changed) :
    other = ticket ∧ changed = call ∨ other ≠ ticket ∧ calls other = some changed := by
  rw [PartialMap.insert_apply] at stored
  split at stored
  · exact .inl ⟨‹_›, (Option.some.inj stored).symm⟩
  · exact .inr ⟨‹_›, stored⟩

theorem calls_settle_cases {cleared : ExpertDispatcher} {changed : Call} {other : Ticket}
    {entries : List Entry} (clears : Clears dispatcher entries cleared)
    (stored : (cleared.settle arith ticket call).calls other = some changed) :
    other = ticket ∧ changed = call ∨
      other ≠ ticket ∧ dispatcher.calls other = some changed := by
  rw [settle_calls, clears.calls, Function.update_apply] at stored
  split at stored
  · exact .inl ⟨‹_›, (unjoined_eq_some call stored).1⟩
  · exact .inr ⟨‹_›, stored⟩

/-- A call that is still there after it was settled has not returned. -/
theorem log_settle_of_stored {cleared : ExpertDispatcher} {changed : Call}
    (stored : (cleared.settle arith ticket call).calls ticket = some changed) :
    (cleared.settle arith ticket call).log = cleared.log := by
  rw [settle_calls, Function.update_self] at stored
  rw [settle_log, joinedEntries, (unjoined_eq_some call stored).2]
  exact List.append_nil _

/-- A call after an event is one from before it, or has just begun. -/
theorem Step.stored {after : ExpertDispatcher}
    (step : Step sha256 arith dispatcher stimulus after) (now : after.calls ticket = some call) :
    (∃ before, dispatcher.calls ticket = some before ∧ SameCall before call) ∨
      ticket = dispatcher.nextTicket ∧ after.nextTicket = dispatcher.nextTicket + 1 ∧
        call.request.experts ≠ [] ∧
        after.log = dispatcher.log ++
          [.begun ticket call.reader stimulus.registry call.request] ∧
        ∃ planned usedWallets,
          plan stimulus.registry call.request.minVramMbFor call.request.experts
            call.request.preExcluded = .ok (planned, usedWallets) ∧
          call.members = planned.map (Member.start usedWallets) := by
  cases step with
  | begun listed selected =>
      rcases calls_insert_cases now with ⟨rfl, rfl⟩ | ⟨-, old⟩
      · exact .inr ⟨rfl, rfl, listed, rfl, _, _, selected, rfl⟩
      · exact .inl ⟨call, old, .refl _⟩
  | sent stands ready connected =>
      rcases calls_insert_cases now with ⟨rfl, rfl⟩ | ⟨-, old⟩
      · exact .inl ⟨_, stands.called, sameCall_setMember stands.listed rfl⟩
      · exact .inl ⟨call, old, .refl _⟩
  | failed stands fails clears =>
      rcases calls_settle_cases clears now with ⟨rfl, rfl⟩ | ⟨-, old⟩
      · exact .inl ⟨_, stands.called,
          sameCall_setMember stands.listed (Member.retry_selected ..)⟩
      · exact .inl ⟨call, old, .refl _⟩
  | returned stands waiting reply clears =>
      rcases calls_settle_cases clears now with ⟨rfl, rfl⟩ | ⟨-, old⟩
      · exact .inl ⟨_, stands.called, sameCall_setMember stands.listed rfl⟩
      · exact .inl ⟨call, old, .refl _⟩
  | released clears =>
      rw [clears.calls] at now
      exact .inl ⟨call, now, .refl _⟩
  | cancelled => exact .inl ⟨call, (PartialMap.of_remove_eq_some now).2, .refl _⟩
  | _ => exact .inl ⟨call, now, .refl _⟩

theorem Step.tickets_le {after : ExpertDispatcher}
    (step : Step sha256 arith dispatcher stimulus after) :
    dispatcher.nextTicket ≤ after.nextTicket := by
  cases step with
  | refused refusal => exact Nat.le_succ _
  | begun listed selected => exact Nat.le_succ _
  | failed stands fails clears => simp [clears.tickets]
  | returned stands waiting reply clears => simp [clears.tickets]
  | released clears => exact clears.tickets.ge
  | _ => exact le_rfl

/-- Every call under way has a ticket that was given out. -/
def TicketsFresh (dispatcher : ExpertDispatcher) : Prop :=
  ∀ ticket call, dispatcher.calls ticket = some call → ticket < dispatcher.nextTicket

theorem ticketsFresh_new : new.TicketsFresh := by
  intro ticket call called
  cases called

theorem TicketsFresh.next {after : ExpertDispatcher} (fresh : dispatcher.TicketsFresh)
    (step : Step sha256 arith dispatcher stimulus after) : after.TicketsFresh := by
  intro ticket call called
  rcases step.stored called with ⟨before, stored, -⟩ | ⟨rfl, advanced, -⟩
  · exact (fresh ticket before stored).trans_le step.tickets_le
  · rw [advanced]
    exact Nat.lt_succ_self _

theorem Fails.actsOn {registry : MinerRegistry} {event : Event}
    (fails : Fails dispatcher registry ticket index member event) :
    event.actsOn = some (ticket, index) := by
  cases fails <;> rfl

theorem actsOn_ne {event : Event} {other : Ticket} {position : Nat}
    (acts : event.actsOn = some (ticket, index)) (elsewhere : other ≠ ticket ∨ position ≠ index) :
    event.actsOn ≠ some (other, position) := by
  rw [acts]
  intro same
  cases same
  rcases elsewhere with ne | ne <;> exact ne rfl

/-- What an event can do to a member of a call. -/
theorem Step.moved {after : ExpertDispatcher} (step : Step sha256 arith dispatcher stimulus after)
    (now : after.Stands ticket index call member) :
    Moved sha256 dispatcher stimulus after ticket index call member := by
  cases step with
  | refused refusal =>
      refine .kept ⟨now.called, now.listed⟩ (.refl _) nofun (returnsOf_append_of_quiet _ ?_)
      simp [Entry.returnOf]
  | @begun registry reader request planned usedWallets listed selected =>
      rcases calls_insert_cases now.called with ⟨rfl, rfl⟩ | ⟨-, old⟩
      · have found := now.listed
        rw [List.getElem?_map, Option.map_eq_some_iff] at found
        rcases found with ⟨selection, inPlan, rfl⟩
        exact .begun rfl rfl selected inPlan rfl
      · refine .kept ⟨old, now.listed⟩ (.refl _) nofun (returnsOf_append_of_quiet _ ?_)
        simp [Entry.returnOf]
  | sent stands ready connected =>
      rcases stands_setMember (calls_insert_cases now.called) stands now rfl with
        ⟨rfl, rfl, same, rfl⟩ | ⟨elsewhere, before, stood, same⟩
      · exact .sent stands same ready connected rfl rfl rfl
      · refine .kept stood same (actsOn_ne rfl elsewhere) (returnsOf_append_of_quiet _ ?_)
        simp [Entry.returnOf]
  | failed stands fails clears =>
      rcases stands_setMember (calls_settle_cases clears now.called) stands now
        (Member.retry_selected ..) with ⟨rfl, rfl, same, rfl⟩ | ⟨elsewhere, before, stood, same⟩
      · refine .retried stands same fails rfl ?_
        rw [log_settle_of_stored now.called, clears.log, List.append_nil]
      · refine .kept stood same (actsOn_ne fails.actsOn elsewhere) ?_
        rw [settle_log, clears.log, List.append_nil]
        exact returnsOf_append_of_quiet _ (returnOf_joinedEntries _ _)
  | returned stands waiting reply clears =>
      rcases stands_setMember (calls_settle_cases clears now.called) stands now rfl with
        ⟨rfl, rfl, same, rfl⟩ | ⟨elsewhere, before, stood, same⟩
      · refine .returned stands same rfl waiting reply rfl ?_
        rw [log_settle_of_stored now.called, clears.log]
      · refine .kept stood same (actsOn_ne rfl elsewhere) ?_
        rw [settle_log, clears.log, List.append_assoc]
        apply returnsOf_append_of_quiet
        intro entry mem
        rcases List.mem_append.mp mem with single | joined
        · rw [List.mem_singleton.mp single, Entry.returnOf, if_neg]
          rintro ⟨sameTicket, sameIndex⟩
          rcases elsewhere with other | other
          · exact other sameTicket.symm
          · exact other sameIndex.symm
        · exact returnOf_joinedEntries _ _ entry joined
  | rejected =>
      refine .kept ⟨now.called, now.listed⟩ (.refl _) nofun (returnsOf_append_of_quiet _ ?_)
      simp [Entry.returnOf]
  | late => exact .kept now (.refl _) nofun rfl
  | delivered assigned pending =>
      refine .kept ⟨now.called, now.listed⟩ (.refl _) nofun (returnsOf_append_of_quiet _ ?_)
      simp [Entry.returnOf]
  | released clears =>
      have called := now.called
      rw [clears.calls] at called
      refine .kept ⟨called, now.listed⟩ (.refl _) nofun ?_
      rw [clears.log, List.append_nil]
  | cancelled =>
      refine .kept ⟨(PartialMap.of_remove_eq_some now.called).2, now.listed⟩ (.refl _) nofun
        (returnsOf_append_of_quiet _ ?_)
      simp [Entry.returnOf]

end ExpertDispatcher

/-! ## An example deployment -/

/-- Three hosts, the first with the most memory. -/
def trioRegistry : MinerRegistry :=
  ((((((MinerRegistry.new.register "a" 0).register "b" 1).register "c" 2).markExpertCapable "a"
    24000).markExpertCapable "b" 16000).markExpertCapable "c" 8000)

/-- The fan-out of one layer of request `"r"` over some experts. -/
def soleFanOut (tokenIndex : Nat) (expertIds : List Nat) : FanOut where
  requestId := "r"
  layerStart := 0
  layerEnd := 4
  layerIdx := 3
  tokenIndex := tokenIndex
  modelId := "model"
  modelGgufUrl := "gguf"
  modelGgufSha256 := "root"
  experts := expertIds.map fun expertId => ⟨expertId, 0x3f800000, [1], [0]⟩
  minVramMbFor := fun _ => 1000
  preExcluded := ["p"]

/-- The reply of an expert of that layer, with one `f32`. -/
def soleReply (tokenIndex expertId : Nat) (dataHex : String) : OpoiExpertResult where
  requestId := "r"
  layerStart := 0
  layerEnd := 4
  layerIdx := 3
  expertId := expertId
  tokenIndex := tokenIndex
  outputHash := ""
  output := ⟨[1], dataHex⟩

/-- An event while the three hosts are connected. -/
def trio (event : Event) : Stimulus :=
  ⟨trioRegistry, event⟩

/-- A hash and an arithmetic to run the example with. -/
def soleDigest : Digest :=
  fun _ => []

def soleArithmetic : Arithmetic where
  add := (· + ·)
  mul := (· * ·)

end StratumBridge.Expert
