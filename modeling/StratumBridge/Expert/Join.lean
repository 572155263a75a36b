import StratumBridge.Expert.Shapes

/-!
# The join of a fan-out

A fan-out returns when all its members have finished, and it finishes: each
member makes at most three attempts.  What it returns depends on the list of
experts and on the one reply of each, never on the order they came in.  It
returns an error otherwise, unless the first reply claims a shape that a buffer
cannot be allocated for: one that is no larger than the replies that were received
is taken to be allocatable.
-/

namespace StratumBridge.Expert

open Data Wire Transition
open Shard (SelectedExpert)

/-- The reply a member has returned. -/
def Member.reply (member : Member) : Option OpoiExpertResult :=
  match member.progress with
  | .done result => some result
  | _ => none

/-- A retry has no reply. -/
theorem Member.reply_retry (registry : MinerRegistry) (error : AttemptError) (member : Member) :
    (member.retry registry error).reply = none := by
  unfold retry
  split
  · rfl
  · split <;> rfl

/-- The outcomes of members that have all returned are their weighted replies in
the order of the list. -/
theorem replies_of_joined {members : List Member}
    {outcomes : List (Except ExpertError (F32 × OpoiExpertResult))}
    {successes : List (F32 × OpoiExpertResult)}
    (joins : members.mapM Member.outcome = some outcomes)
    (succeeded : outcomes.mapM id = .ok successes) :
    ∃ replies, members.map Member.reply = replies.map some ∧
      successes = (members.map fun member => member.selected.weight).zip replies := by
  induction members generalizing outcomes successes with
  | nil =>
      cases joins
      cases succeeded
      exact ⟨[], rfl, rfl⟩
  | cons member rest ih =>
      rw [List.mapM_cons] at joins
      simp only [Option.bind_eq_bind, Option.bind_eq_some_iff, Option.pure_def,
        Option.some.injEq] at joins
      rcases joins with ⟨outcome, first, others, later, rfl⟩
      rw [List.mapM_cons] at succeeded
      cases outcome with
      | error error => cases succeeded
      | ok success =>
          cases remaining : others.mapM id with
          | error error =>
              rw [remaining] at succeeded
              cases succeeded
          | ok rests =>
              rw [remaining] at succeeded
              cases succeeded
              obtain ⟨replies, replied, rfl⟩ := ih later remaining
              unfold Member.outcome at first
              split at first
              · rename_i result isDone
                cases first
                refine ⟨result :: replies, ?_, rfl⟩
                rw [List.map_cons, List.map_cons, replied, Member.reply, isDone]
              · cases first
              · cases first

/-- Members are not joined while one of them has not finished. -/
theorem joinAll_eq_none_iff {call : Call} :
    call.joinAll = none ↔ ∃ member ∈ call.members, member.outcome = none := by
  unfold Call.joinAll
  induction call.members with
  | nil => simp
  | cons member rest ih =>
      rw [List.mapM_cons]
      cases finished : member.outcome with
      | none => simp [finished]
      | some outcome =>
          cases others : rest.mapM Member.outcome with
          | none =>
              simp only [others, true_iff] at ih
              rcases ih with ⟨unfinished, mem, none⟩
              simp only [Option.bind_eq_bind, Option.bind_some, Option.bind_none, true_iff]
              exact ⟨unfinished, List.mem_cons_of_mem _ mem, none⟩
          | some outcomes =>
              simp only [others, reduceCtorEq, false_iff, not_exists, not_and] at ih
              simp only [Option.pure_def, Option.bind_eq_bind, Option.bind_some, reduceCtorEq,
                false_iff, not_exists, not_and]
              intro other mem
              rcases List.mem_cons.mp mem with rfl | inRest
              · rw [finished]
                exact Option.some_ne_none _
              · exact ih other inRest

/-- The weights of the experts with one reply each, in the order of the list. -/
def FanOut.weighted (request : FanOut) (replies : List OpoiExpertResult) :
    List (F32 × OpoiExpertResult) :=
  (request.experts.map SelectedExpert.weight).zip replies

/-- Two steps for each attempt. -/
def stepBound : Nat :=
  2 * (maxRetriesPerExpert + 1)

namespace Member

/-- What a member can have spent: two steps for each failed attempt. -/
def Within (member : Member) (spent : Nat) : Prop :=
  match member.progress with
  | .ready => member.attempt ≤ maxRetriesPerExpert ∧ spent ≤ 2 * member.attempt
  | .waiting _ => member.attempt ≤ maxRetriesPerExpert ∧ spent ≤ 2 * member.attempt + 1
  | _ => spent ≤ stepBound

variable {member : Member} {spent : Nat}

theorem Within.sent {waiter : Waiter} (within : member.Within spent)
    (ready : member.progress = .ready) :
    Within { member with progress := .waiting waiter } (spent + 1) := by
  rw [Within, ready] at within
  exact ⟨within.1, Nat.succ_le_succ within.2⟩

/-- A member that has not finished can go on. -/
theorem Within.le (within : member.Within spent)
    (unfinished : member.progress = .ready ∨ ∃ waiter, member.progress = .waiting waiter) :
    member.attempt ≤ maxRetriesPerExpert ∧ spent ≤ 2 * member.attempt + 1 := by
  rcases unfinished with ready | ⟨waiter, waiting⟩
  · rw [Within, ready] at within
    exact ⟨within.1, within.2.trans (Nat.le_succ _)⟩
  · rw [Within, waiting] at within
    exact within

theorem Within.lt (within : member.Within spent)
    (unfinished : member.progress = .ready ∨ ∃ waiter, member.progress = .waiting waiter) :
    spent < stepBound := by
  obtain ⟨attempts, spends⟩ := within.le unfinished
  unfold stepBound
  omega

theorem Within.retry {registry : MinerRegistry} {error : AttemptError}
    (within : member.Within spent)
    (unfinished : member.progress = .ready ∨ ∃ waiter, member.progress = .waiting waiter) :
    (member.retry registry error).Within (spent + 1) := by
  obtain ⟨attempts, spends⟩ := within.le unfinished
  have bounded := within.lt unfinished
  unfold Member.retry
  split
  · exact bounded
  · split
    · exact bounded
    · constructor
      · exact Nat.le_of_not_lt ‹_›
      · simp only
        omega

end Member

namespace ExpertDispatcher

variable {sha256 : Digest} {arith : Arithmetic} {dispatcher after : ExpertDispatcher}
  {stimulus : Stimulus} {events : List Stimulus} {ticket : Ticket} {index : Nat} {call : Call}
  {member : Member}

/-- Every listed expert returned one reply, and the output is their weighted sum
in the order of the list. -/
structure Combines (arith : Arithmetic) (log : List Entry) (ticket : Ticket) (request : FanOut)
    (output : ExpertOutputWire) (replies : List OpoiExpertResult) : Prop where
  complete : replies.length = request.experts.length
  once : ∀ index reply, replies[index]? = some reply → returnsOf log ticket index = [reply]
  fits : ∀ reply ∈ replies, Fits output.shape reply
  sum : output = weightedOutput arith (request.weighted replies)

/-- A fan-out returns the combination of all its replies, or an error. -/
inductive Concludes (arith : Arithmetic) (log : List Entry) (ticket : Ticket)
    (request : FanOut) : JoinOutcome → Prop
  | ok {output replies} (combines : Combines arith log ticket request output replies) :
      Concludes arith log ticket request (.ok output)
  | error {error} : Concludes arith log ticket request (.error error)

/-- The condition on a step: no reply completes a fan-out unless the buffer for the shape
that the first expert's reply claims can be allocated, and is no larger than the replies
that were received. -/
def JoinGuard (dispatcher : ExpertDispatcher) (stimulus : Stimulus) : Prop :=
  match stimulus.event with
  | .wake ticket index =>
      ∀ call member waiter result replies, dispatcher.Stands ticket index call member →
        member.progress = .waiting waiter → dispatcher.replies waiter = some result →
        (call.setMember index { member with progress := .done result }).members.map
          Member.reply = replies.map some →
        Allocates (call.request.weighted replies) ∧
          bufferBytes (call.request.weighted replies) ≤
            receivedBytes (call.request.weighted replies)
  | _ => True

/-! ## Calls under way -/

/-- A call that has not returned has a member that has not finished. -/
def Unfinished (dispatcher : ExpertDispatcher) : Prop :=
  ∀ ticket call, dispatcher.calls ticket = some call → call.joinAll = none

theorem unfinished_new : new.Unfinished := by
  intro ticket call called
  cases called

theorem Unfinished.next (unfinished : dispatcher.Unfinished)
    (step : Step sha256 arith dispatcher stimulus after) : after.Unfinished := by
  have settled : ∀ {cleared : ExpertDispatcher} {entries : List Entry} {settledTicket : Ticket}
      {changed : Call}, Clears dispatcher entries cleared → ∀ ticket call,
      (cleared.settle arith settledTicket changed).calls ticket = some call →
        call.joinAll = none := by
    intro cleared entries settledTicket changed clears ticket call called
    rw [settle_calls, clears.calls, Function.update_apply] at called
    split at called
    · obtain ⟨rfl, open'⟩ := unjoined_eq_some changed called
      exact open'
    · exact unfinished ticket call called
  intro ticket call called
  cases step with
  | begun listed selected =>
      rcases calls_insert_cases called with ⟨-, rfl⟩ | ⟨-, old⟩
      · rename_i planned usedWallets
        have planned_ne : planned ≠ [] := by
          rintro rfl
          exact listed (plan_eq_ok selected).1.symm
        obtain ⟨choice, mem⟩ := List.exists_mem_of_ne_nil _ planned_ne
        exact joinAll_eq_none_iff.mpr ⟨_, List.mem_map_of_mem mem, rfl⟩
      · exact unfinished ticket call old
  | sent stands ready connected =>
      rcases calls_insert_cases called with ⟨-, rfl⟩ | ⟨-, old⟩
      · have inside := (List.getElem?_eq_some_iff.mp stands.listed).1
        exact joinAll_eq_none_iff.mpr ⟨_, List.mem_set inside _, rfl⟩
      · exact unfinished ticket call old
  | failed stands fails clears => exact settled clears ticket call called
  | returned stands waiting reply clears => exact settled clears ticket call called
  | released clears =>
      rw [clears.calls] at called
      exact unfinished ticket call called
  | cancelled => exact unfinished ticket call (PartialMap.of_remove_eq_some called).2
  | _ => exact unfinished ticket call called

/-- A member that can go on. -/
theorem Unfinished.exists_member (unfinished : dispatcher.Unfinished)
    (called : dispatcher.calls ticket = some call) :
    ∃ index member, dispatcher.Stands ticket index call member ∧
      (member.progress = .ready ∨ ∃ waiter, member.progress = .waiting waiter) := by
  obtain ⟨member, mem, open'⟩ := joinAll_eq_none_iff.mp (unfinished ticket call called)
  obtain ⟨index, listed⟩ := List.getElem?_of_mem mem
  refine ⟨index, member, ⟨called, listed⟩, ?_⟩
  unfold Member.outcome at open'
  cases progress : member.progress with
  | ready => exact .inl rfl
  | waiting waiter => exact .inr ⟨waiter, rfl⟩
  | done result => simp [progress] at open'
  | failed error => simp [progress] at open'

/-- A call that has ended stays away. -/
theorem Step.ended (step : Step sha256 arith dispatcher stimulus after)
    (given : ticket < dispatcher.nextTicket) (ended : dispatcher.calls ticket = none) :
    after.calls ticket = none := by
  cases called : after.calls ticket with
  | none => rfl
  | some call =>
      rcases step.stored called with ⟨before, stored, -⟩ | ⟨rfl, -⟩
      · rw [ended] at stored
        cases stored
      · exact absurd given (Nat.lt_irrefl _)

/-- No member of a call that has ended returns anything. -/
theorem Step.returnsOf_of_ended (step : Step sha256 arith dispatcher stimulus after)
    (ended : dispatcher.calls ticket = none) (index : Nat) :
    returnsOf after.log ticket index = returnsOf dispatcher.log ticket index := by
  rcases step.adds with ⟨entries, extended, adds⟩
  rw [extended]
  apply returnsOf_append_of_quiet
  intro entry mem
  cases adds entry mem with
  | refused _ _ _ _ _ isNew => rcases isNew with rfl | rfl <;> rfl
  | returned stands waiting reply =>
      rw [Entry.returnOf, if_neg]
      rintro ⟨rfl, -⟩
      cases stands.called.symm.trans ended
  | _ => rfl

/-! ## The last reply -/

/-- Where the replies of a call stand when one member has returned its own. -/
theorem reply_setMember {result : OpoiExpertResult} {replies : List OpoiExpertResult}
    {position : Nat} {reply : OpoiExpertResult} (listed : call.members[index]? = some member)
    (replied : (call.setMember index { member with progress := .done result }).members.map
      Member.reply = replies.map some)
    (found : replies[position]? = some reply) :
    position = index ∧ reply = result ∨
      position ≠ index ∧
        ∃ sibling, call.members[position]? = some sibling ∧ sibling.reply = some reply := by
  have same := congrArg (·[position]?) replied
  simp only [List.getElem?_map, found, Option.map_some] at same
  by_cases here : position = index
  · subst here
    have inside := (List.getElem?_eq_some_iff.mp listed).1
    rw [Call.setMember, List.getElem?_set_self inside, Option.map_some] at same
    exact .inl ⟨rfl, (Option.some.inj (Option.some.inj same)).symm⟩
  · rw [Call.setMember, List.getElem?_set_ne (Ne.symm here), Option.map_eq_some_iff] at same
    rcases same with ⟨sibling, found, returned⟩
    exact .inr ⟨here, sibling, found, returned⟩

/-- When the last reply is in, the call returns the combination of all, or an
error. -/
theorem concludes_of_joins {waiter : Waiter} {result : OpoiExpertResult}
    {outcomes : List (Except ExpertError (F32 × OpoiExpertResult))} {outcome : JoinOutcome}
    (guarded : dispatcher.JoinGuard stimulus) (event : stimulus.event = .wake ticket index)
    (stands : dispatcher.Stands ticket index call member)
    (waiting : member.progress = .waiting waiter)
    (reply : dispatcher.replies waiter = some result)
    (tally : ∀ index member, dispatcher.Stands ticket index call member →
      returnsOf dispatcher.log ticket index = member.reply.toList)
    (selected : call.members.map Member.selected = call.request.experts)
    (joins : (call.setMember index { member with progress := .done result }).joinAll =
      some outcomes) :
    Concludes arith
      (dispatcher.log ++ [.returned ticket index waiter result, .joined ticket outcome]) ticket
      call.request (conclude arith outcomes) := by
  unfold conclude
  cases succeeded : outcomes.mapM id with
  | error error => exact .error
  | ok successes =>
      obtain ⟨replies, replied, rfl⟩ := replies_of_joined joins succeeded
      have same : SameCall call (call.setMember index { member with progress := .done result }) :=
        sameCall_setMember stands.listed rfl
      have weights : ((call.setMember index { member with progress := .done result }).members.map
          fun member => member.selected.weight) =
            call.request.experts.map SelectedExpert.weight := by
        rw [← selected, ← same.selected, List.map_map]
        rfl
      rw [weights]
      have complete : replies.length = call.request.experts.length := by
        have lengths := congrArg List.length replied
        simp only [List.length_map] at lengths
        rw [← lengths, same.length_eq, ← selected, List.length_map]
      cases combined : combineWeighted arith
          ((call.request.experts.map SelectedExpert.weight).zip replies) with
      | error error =>
          simp only [combined]
          exact .error
      | panicked =>
          rw [JoinGuard, event] at guarded
          have modest := guarded call member waiter result replies stands waiting reply replied
          exact absurd combined (combineWeighted_ne_panicked_iff.mpr modest.1)
      | ok output =>
          obtain ⟨fits, sum⟩ := combineWeighted_eq_ok combined
          simp only [combined]
          refine .ok ⟨complete, ?_, ?_, sum⟩
          · intro position answer found
            rcases reply_setMember stands.listed replied found with
              ⟨rfl, rfl⟩ | ⟨elsewhere, sibling, listed, returned⟩
            · rw [returnsOf_append, tally position member stands, Member.reply, waiting]
              simp [returnsOf, Entry.returnOf]
            · rw [returnsOf_append_of_quiet, tally position sibling ⟨stands.called, listed⟩,
                returned, Option.toList_some]
              intro entry mem
              rcases List.mem_pair.mp mem with rfl | rfl
              · simp [Entry.returnOf, Ne.symm elsewhere]
              · rfl
          · intro answer mem
            have inSnd : answer ∈ ((call.request.experts.map SelectedExpert.weight).zip
                replies).map Prod.snd := by
              rw [List.map_snd_zip (by simp [complete])]
              exact mem
            obtain ⟨weighted, inZip, rfl⟩ := List.mem_map.mp inSnd
            exact fits weighted inZip

/-- A member that failed abandons the group. -/
theorem concludes_of_abandoned {registry : MinerRegistry} {error : AttemptError}
    {outcomes : List (Except ExpertError (F32 × OpoiExpertResult))} {log : List Entry}
    {request : FanOut} (listed : call.members[index]? = some member)
    (joins : (call.setMember index (member.retry registry error)).joinAll = some outcomes) :
    Concludes arith log ticket request (conclude arith outcomes) := by
  unfold conclude
  cases succeeded : outcomes.mapM id with
  | error error => exact .error
  | ok successes =>
      obtain ⟨replies, replied, -⟩ := replies_of_joined joins succeeded
      have inside := (List.getElem?_eq_some_iff.mp listed).1
      have same := congrArg (·[index]?) replied
      rw [Call.setMember] at same
      simp only [List.getElem?_map, List.getElem?_set_self inside, Option.map_some,
        Member.reply_retry] at same
      obtain ⟨reply, -, impossible⟩ := Option.map_eq_some_iff.mp same.symm
      cases impossible

theorem Concludes.congr {log other : List Entry} {request : FanOut} {outcome : JoinOutcome}
    (concludes : Concludes arith log ticket request outcome)
    (same : ∀ index, returnsOf other ticket index = returnsOf log ticket index) :
    Concludes arith other ticket request outcome := by
  cases concludes with
  | ok combines =>
      refine .ok { combines with once := ?_ }
      intro index reply found
      rw [same]
      exact combines.once index reply found
  | error => exact .error

/-! ## All calls -/

/-- What every call began with, and what it came to. -/
structure Joins (arith : Arithmetic) (dispatcher : ExpertDispatcher) : Prop where
  tickets : dispatcher.TicketsFresh
  unfinished : dispatcher.Unfinished
  begun : ∀ ticket reader registry request, .begun ticket reader registry request ∈ dispatcher.log →
    ticket < dispatcher.nextTicket
  unique : ∀ ticket reader registry request again anew repeated,
    .begun ticket reader registry request ∈ dispatcher.log →
    .begun ticket again anew repeated ∈ dispatcher.log → registry = anew ∧ request = repeated
  early : ∀ ticket index, dispatcher.nextTicket ≤ ticket →
    returnsOf dispatcher.log ticket index = []
  opened : ∀ ticket call, dispatcher.calls ticket = some call →
    call.members.map Member.selected = call.request.experts ∧
      ∃ registry chosen, .begun ticket call.reader registry call.request ∈ dispatcher.log ∧
        plan registry call.request.minVramMbFor call.request.experts call.request.preExcluded =
          .ok chosen
  tally : ∀ ticket index call member, dispatcher.Stands ticket index call member →
    returnsOf dispatcher.log ticket index = member.reply.toList
  joined : ∀ ticket outcome, .joined ticket outcome ∈ dispatcher.log →
    dispatcher.calls ticket = none ∧ ∃ reader registry request,
      .begun ticket reader registry request ∈ dispatcher.log ∧
        Concludes arith dispatcher.log ticket request outcome
  sent : ∀ dispatch, .assigned dispatch ∈ dispatcher.log → ∃ reader registry request chosen,
    .begun dispatch.ticket reader registry request ∈ dispatcher.log ∧
      plan registry request.minVramMbFor request.experts request.preExcluded = .ok chosen
  returns : ∀ ticket reader registry request,
    .begun ticket reader registry request ∈ dispatcher.log →
    (∃ call, dispatcher.calls ticket = some call) ∨
      (∃ outcome, .joined ticket outcome ∈ dispatcher.log) ∨ .cancelled ticket ∈ dispatcher.log
  unplanned : ∀ ticket reader registry request hostless,
    .begun ticket reader registry request ∈ dispatcher.log →
    plan registry request.minVramMbFor request.experts request.preExcluded = .error hostless →
    ∃ error, .joined ticket (.error error) ∈ dispatcher.log

theorem joins_new : Joins arith new where
  tickets := ticketsFresh_new
  unfinished := unfinished_new
  begun := nofun
  unique := nofun
  early := by
    intro ticket index _
    rfl
  opened := by
    intro ticket call called
    cases called
  tally := by
    intro ticket index call member stands
    cases stands.called
  joined := nofun
  sent := nofun
  returns := nofun
  unplanned := nofun

/-- A member whose attempt failed has no reply. -/
theorem Fails.reply {registry : MinerRegistry} {event : Event}
    (fails : Fails dispatcher registry ticket index member event) : member.reply = none := by
  unfold Member.reply
  cases fails with
  | unreached ready unreachable => rw [ready]
  | unanswered waiting silent => rw [waiting]

theorem Fails.unfinished {registry : MinerRegistry} {event : Event}
    (fails : Fails dispatcher registry ticket index member event) :
    member.progress = .ready ∨ ∃ waiter, member.progress = .waiting waiter := by
  cases fails with
  | unreached ready unreachable => exact .inl ready
  | unanswered waiting silent => exact .inr ⟨_, waiting⟩

/-- A fan-out that is begun: its ticket is new. -/
theorem Step.begun_cases (step : Step sha256 arith dispatcher stimulus after) {reader : Wallet}
    {registry : MinerRegistry} {request : FanOut}
    (mem : .begun ticket reader registry request ∈ after.log) :
    .begun ticket reader registry request ∈ dispatcher.log ∨
      ticket = dispatcher.nextTicket ∧ after.nextTicket = dispatcher.nextTicket + 1 ∧
        registry = stimulus.registry ∧ stimulus.event = .dispatchAndJoin reader request ∧
        ((∃ error, .joined ticket (.error error) ∈ after.log) ∨
          ∃ call chosen, after.calls ticket = some call ∧
            plan registry request.minVramMbFor request.experts request.preExcluded =
              .ok chosen) := by
  rcases step.mem_log mem with old | new
  · exact .inl old
  · cases new with
    | @refused _ _ error _ event refusal advanced logged calls isNew =>
        rcases isNew with isNew | isNew
        · cases isNew
          refine .inr ⟨rfl, advanced, rfl, event, .inl ⟨error, ?_⟩⟩
          rw [logged]
          exact List.mem_append_right _ (.tail _ (.head _))
        · cases isNew
    | begun event selected advanced stored =>
        exact .inr ⟨rfl, advanced, rfl, event, .inr ⟨_, _, stored, selected⟩⟩

theorem Joins.not_called (joins : Joins arith dispatcher) (later : dispatcher.nextTicket ≤ ticket) :
    dispatcher.calls ticket = none := by
  cases called : dispatcher.calls ticket with
  | none => rfl
  | some call => exact absurd (joins.tickets ticket call called) (Nat.not_lt.mpr later)

/-- A call goes away by returning or by being cancelled. -/
theorem Step.returned_or_cancelled (step : Step sha256 arith dispatcher stimulus after)
    (stored : dispatcher.calls ticket = some call) (gone : after.calls ticket = none) :
    (∃ outcome, .joined ticket outcome ∈ after.log) ∨ .cancelled ticket ∈ after.log := by
  have settled : ∀ {cleared : ExpertDispatcher} {entries : List Entry} {settledTicket : Ticket}
      {changed : Call}, Clears dispatcher entries cleared →
      (cleared.settle arith settledTicket changed).calls ticket = none →
      ∃ outcome, .joined ticket outcome ∈ (cleared.settle arith settledTicket changed).log := by
    intro cleared entries settledTicket changed clears ended
    rw [settle_calls, clears.calls, Function.update_apply] at ended
    split at ended
    · rename_i here
      subst here
      unfold unjoined at ended
      split at ended
      · rename_i finished
        obtain ⟨outcomes, joins⟩ := Option.isSome_iff_exists.mp finished
        refine ⟨conclude arith outcomes, ?_⟩
        rw [settle_log, joinedEntries, joins]
        exact List.mem_append_right _ (List.mem_singleton_self _)
      · cases ended
    · rw [stored] at ended
      cases ended
  have kept : after.calls ticket = some call → (∃ outcome, .joined ticket outcome ∈ after.log) ∨
      .cancelled ticket ∈ after.log := by
    intro still
    rw [gone] at still
    cases still
  cases step with
  | begun listed selected =>
      simp only [PartialMap.insert_apply] at gone
      split at gone
      · cases gone
      · exact kept (absurd (stored.symm.trans gone) (Option.some_ne_none _))
  | sent stands ready connected =>
      simp only [PartialMap.insert_apply] at gone
      split at gone
      · cases gone
      · exact kept (absurd (stored.symm.trans gone) (Option.some_ne_none _))
  | failed stands fails clears => exact .inl (settled clears gone)
  | returned stands waiting reply clears => exact .inl (settled clears gone)
  | released clears =>
      apply kept
      rw [clears.calls]
      exact stored
  | @cancelled registry other =>
      by_cases here : ticket = other
      · subst here
        exact .inr List.mem_concat_self
      · exact kept ((PartialMap.remove_of_ne _ here).trans stored)
  | _ => exact kept stored

theorem Joins.next (joins : Joins arith dispatcher)
    (step : Step sha256 arith dispatcher stimulus after)
    (guarded : dispatcher.JoinGuard stimulus) : Joins arith after where
  tickets := joins.tickets.next step
  unfinished := joins.unfinished.next step
  begun := by
    intro ticket reader registry request mem
    rcases step.begun_cases mem with old | ⟨rfl, advanced, -⟩
    · exact (joins.begun ticket reader registry request old).trans_le step.tickets_le
    · rw [advanced]
      exact Nat.lt_succ_self _
  unique := by
    intro ticket reader registry request again anew repeated mem memAgain
    rcases step.begun_cases mem with old | ⟨isNew, -, rfl, event, -⟩
    · rcases step.begun_cases memAgain with oldAgain | ⟨rfl, -⟩
      · exact joins.unique ticket reader registry request again anew repeated old oldAgain
      · exact absurd (joins.begun _ _ _ _ old) (Nat.lt_irrefl _)
    · rcases step.begun_cases memAgain with oldAgain | ⟨-, -, rfl, eventAgain, -⟩
      · have fresh := joins.begun _ _ _ _ oldAgain
        rw [isNew] at fresh
        exact absurd fresh (Nat.lt_irrefl _)
      · exact ⟨rfl, (Event.dispatchAndJoin.inj (event.symm.trans eventAgain)).2⟩
  early := by
    intro ticket index later
    have unused := joins.not_called (step.tickets_le.trans later)
    rw [step.returnsOf_of_ended unused]
    exact joins.early ticket index (step.tickets_le.trans later)
  opened := by
    intro ticket call called
    rcases step.stored called with ⟨before, stored, same⟩ |
      ⟨-, -, -, logged, planned, usedWallets, selected, members⟩
    · obtain ⟨listed, registry, chosen, mem, selected⟩ := joins.opened ticket before stored
      rw [same.reader, same.request]
      exact ⟨same.selected.trans listed, registry, chosen, step.extends.subset mem, selected⟩
    · constructor
      · rw [members, List.map_map, ← (plan_eq_ok selected).1]
        rfl
      · refine ⟨_, _, ?_, selected⟩
        rw [logged]
        exact List.mem_concat_self
  tally := by
    intro ticket index call member stands
    cases step.moved stands with
    | kept stood same elsewhere silent =>
        rw [silent]
        exact joins.tally ticket index _ member stood
    | sent stood same ready connected event now logged =>
        subst now
        rw [logged, returnsOf_append_of_quiet _ (by simp [Entry.returnOf]),
          joins.tally ticket index _ _ stood, Member.reply, ready]
        rfl
    | retried stood same fails now logged =>
        subst now
        rw [logged, joins.tally ticket index _ _ stood, fails.reply, Member.reply_retry]
    | returned stood same event waiting reply now logged =>
        subst now
        rw [logged, returnsOf_append, joins.tally ticket index _ _ stood, Member.reply, waiting]
        simp [returnsOf, Entry.returnOf, Member.reply]
    | begun fresh event selected listed now =>
        subst now
        have unused := joins.not_called fresh.ge
        rw [step.returnsOf_of_ended unused, joins.early ticket index fresh.ge]
        rfl
  joined := by
    intro ticket outcome mem
    rcases step.mem_log mem with old | new
    · rcases joins.joined ticket outcome old with
        ⟨ended, reader, registry, request, begun, concludes⟩
      have given := joins.begun _ _ _ _ begun
      exact ⟨step.ended given ended, reader, registry, request, step.extends.subset begun,
        concludes.congr (step.returnsOf_of_ended ended)⟩
    · cases new with
      | @refused reader request _ _ event refusal advanced logged calls isNew =>
          rcases isNew with isNew | isNew
          · cases isNew
          · cases isNew
            refine ⟨?_, reader, stimulus.registry, request, ?_, .error⟩
            · rw [calls]
              exact joins.not_called le_rfl
            · rw [logged]
              exact List.mem_append_right _ (.head _)
      | abandoned stands joined ended =>
          obtain ⟨-, registry, chosen, begun, -⟩ := joins.opened ticket _ stands.called
          exact ⟨ended, _, registry, _, step.extends.subset begun,
            concludes_of_abandoned stands.listed joined⟩
      | joined event stands waiting reply joined logged ended =>
          obtain ⟨listed, registry, chosen, begun, -⟩ := joins.opened ticket _ stands.called
          refine ⟨ended, _, registry, _, step.extends.subset begun, ?_⟩
          rw [logged]
          exact concludes_of_joins guarded event stands waiting reply
            (fun index member stood => joins.tally ticket index _ member stood) listed joined
  sent := by
    intro dispatch mem
    rcases step.mem_log mem with old | new
    · obtain ⟨reader, registry, request, chosen, begun, selected⟩ := joins.sent dispatch old
      exact ⟨reader, registry, request, chosen, step.extends.subset begun, selected⟩
    · cases new with
      | refused _ _ _ _ _ isNew => rcases isNew with isNew | isNew <;> cases isNew
      | assigned sends advanced logged =>
          obtain ⟨-, registry, chosen, begun, selected⟩ := joins.opened _ _ sends.stands.called
          exact ⟨_, registry, _, chosen, step.extends.subset begun, selected⟩
  returns := by
    intro ticket reader registry request mem
    rcases step.begun_cases mem with old | ⟨rfl, -, -, -, error | ⟨call, -, stored, -⟩⟩
    · cases called : after.calls ticket with
      | some call => exact .inl ⟨call, rfl⟩
      | none =>
          right
          rcases joins.returns ticket reader registry request old with
            ⟨call, stored⟩ | ⟨outcome, joined⟩ | cancelled
          · exact step.returned_or_cancelled stored called
          · exact .inl ⟨outcome, step.extends.subset joined⟩
          · exact .inr (step.extends.subset cancelled)
    · rcases error with ⟨error, joined⟩
      exact .inr (.inl ⟨_, joined⟩)
    · exact .inl ⟨call, stored⟩
  unplanned := by
    intro ticket reader registry request hostless mem unselected
    rcases step.begun_cases mem with old | ⟨-, -, -, -, error | ⟨-, chosen, -, selected⟩⟩
    · rcases joins.unplanned ticket reader registry request hostless old unselected with
        ⟨error, joined⟩
      exact ⟨error, step.extends.subset joined⟩
    · exact error
    · rw [unselected] at selected
      cases selected

/-! ## Every member finishes -/

/-- How often a run went on with a member of a call. -/
def steps (events : List Stimulus) (ticket : Ticket) (index : Nat) : Nat :=
  events.countP fun stimulus => stimulus.event.actsOn = some (ticket, index)

theorem steps_snoc (events : List Stimulus) (stimulus : Stimulus) (ticket : Ticket)
    (index : Nat) :
    steps (events ++ [stimulus]) ticket index =
      steps events ticket index +
        if stimulus.event.actsOn = some (ticket, index) then 1 else 0 := by
  simp [steps, List.countP_append, List.countP_singleton]

/-- What the members have spent. -/
structure Spent (events : List Stimulus) (dispatcher : ExpertDispatcher) : Prop where
  members : ∀ ticket index call member, dispatcher.Stands ticket index call member →
    member.Within (steps events ticket index)
  total : ∀ ticket index, steps events ticket index ≤ stepBound
  early : ∀ ticket index, dispatcher.nextTicket ≤ ticket → steps events ticket index = 0

theorem spent_new : Spent [] new where
  members := by
    intro ticket index call member stands
    cases stands.called
  total := by
    intro ticket index
    exact Nat.zero_le _
  early := by
    intro ticket index _
    rfl

/-- An event that goes on with a member finds it ready or waiting. -/
theorem exists_stands_of_actsOn (enabled : dispatcher.enabled stimulus)
    (acts : stimulus.event.actsOn = some (ticket, index)) :
    ∃ call member, dispatcher.Stands ticket index call member ∧
      (member.progress = .ready ∨ ∃ waiter, member.progress = .waiting waiter) := by
  rcases stimulus with ⟨registry, event⟩
  cases event with
  | dispatchOne other position isOpen =>
      cases acts
      rcases enabled with ⟨call, member, stands, ready⟩
      exact ⟨call, member, stands, .inl ready⟩
  | wake other position =>
      cases acts
      rcases enabled with ⟨call, member, waiter, stands, waiting⟩
      exact ⟨call, member, stands, .inr ⟨waiter, waiting⟩⟩
  | _ => cases acts

theorem Spent.next (spent : Spent events dispatcher) (fresh : dispatcher.TicketsFresh)
    (enabled : dispatcher.enabled stimulus)
    (step : Step sha256 arith dispatcher stimulus after) :
    Spent (events ++ [stimulus]) after where
  members := by
    intro ticket index call member stands
    rw [steps_snoc]
    cases step.moved stands with
    | kept stood same elsewhere silent =>
        rw [if_neg elsewhere]
        exact spent.members ticket index _ member stood
    | sent stood same ready connected event now logged =>
        subst now
        rw [if_pos (by rw [event]; rfl)]
        exact (spent.members ticket index _ _ stood).sent ready
    | retried stood same fails now logged =>
        subst now
        rw [if_pos fails.actsOn]
        exact (spent.members ticket index _ _ stood).retry fails.unfinished
    | returned stood same event waiting reply now logged =>
        subst now
        rw [if_pos (by rw [event]; rfl)]
        exact (spent.members ticket index _ _ stood).lt (.inr ⟨_, waiting⟩)
    | begun isNew event selected listed now =>
        subst now
        rw [spent.early ticket index isNew.ge, event]
        exact ⟨Nat.zero_le _, Nat.zero_le _⟩
  total := by
    intro ticket index
    rw [steps_snoc]
    split
    · rename_i acts
      obtain ⟨call, member, stands, unfinished⟩ := exists_stands_of_actsOn enabled acts
      exact (spent.members ticket index call member stands).lt unfinished
    · exact spent.total ticket index
  early := by
    intro ticket index later
    have before := step.tickets_le.trans later
    rw [steps_snoc, spent.early ticket index before, if_neg]
    intro acts
    obtain ⟨call, member, stands, -⟩ := exists_stands_of_actsOn enabled acts
    exact absurd (fresh ticket call stands.called) (Nat.not_lt.mpr before)

/-- In every run, each member goes on at most six times. -/
theorem spent_of_run {guard : ExpertDispatcher → Stimulus → Prop}
    (run : (system sha256 arith).RunWith guard new events dispatcher) :
    Spent events dispatcher := by
  have both : dispatcher.TicketsFresh ∧ Spent events dispatcher := by
    induction run with
    | nil => exact ⟨ticketsFresh_new, spent_new⟩
    | @snoc _ state event _ enabled _ ih =>
        have step : Step sha256 arith state event (next sha256 arith state event) :=
          step_next enabled
        exact ⟨ih.1.next step, ih.2.next ih.1 enabled step⟩
  exact both.2

/-! ## All or nothing -/

/-- What every fan-out comes to. -/
structure AllOrNothing (arith : Arithmetic) (dispatcher : ExpertDispatcher) : Prop where
  concludes : ∀ ticket reader registry request outcome,
    .begun ticket reader registry request ∈ dispatcher.log →
    .joined ticket outcome ∈ dispatcher.log →
    Concludes arith dispatcher.log ticket request outcome
  /-- It returns, is cancelled by its caller, or has a member that can go on. -/
  returns : ∀ ticket reader registry request,
    .begun ticket reader registry request ∈ dispatcher.log →
    (∃ outcome, .joined ticket outcome ∈ dispatcher.log) ∨ .cancelled ticket ∈ dispatcher.log ∨
      ∃ index call member, dispatcher.Stands ticket index call member ∧
        (member.progress = .ready ∨ ∃ waiter, member.progress = .waiting waiter)
  /-- Without a host for every expert nothing is sent. -/
  nothing : ∀ ticket reader registry request hostless,
    .begun ticket reader registry request ∈ dispatcher.log →
    plan registry request.minVramMbFor request.experts request.preExcluded = .error hostless →
    (∀ dispatch, .assigned dispatch ∈ dispatcher.log → dispatch.ticket ≠ ticket) ∧
      ∃ error, .joined ticket (.error error) ∈ dispatcher.log

/-- Fan-outs over the same experts with the same replies have the same output,
whatever order the replies came in. -/
def OrderIndependent (dispatcher other : ExpertDispatcher) : Prop :=
  ∀ ticket reader registry request output ticket' reader' registry' request' output',
    .begun ticket reader registry request ∈ dispatcher.log →
    .joined ticket (.ok output) ∈ dispatcher.log →
    .begun ticket' reader' registry' request' ∈ other.log →
    .joined ticket' (.ok output') ∈ other.log →
    request.experts = request'.experts →
    (∀ index, returnsOf dispatcher.log ticket index = returnsOf other.log ticket' index) →
    output = output'

theorem Joins.allOrNothing (joins : Joins arith dispatcher) : dispatcher.AllOrNothing arith where
  concludes := by
    intro ticket reader registry request outcome begun joined
    obtain ⟨-, _, _, _, also, concludes⟩ := joins.joined ticket outcome joined
    obtain ⟨-, rfl⟩ := joins.unique _ _ _ _ _ _ _ begun also
    exact concludes
  returns := by
    intro ticket reader registry request begun
    rcases joins.returns ticket reader registry request begun with ⟨call, called⟩ | ended
    · obtain ⟨index, member, stands, unfinished⟩ := joins.unfinished.exists_member called
      exact .inr (.inr ⟨index, call, member, stands, unfinished⟩)
    · rcases ended with joined | cancelled
      · exact .inl joined
      · exact .inr (.inl cancelled)
  nothing := by
    intro ticket reader registry request hostless begun unselected
    constructor
    · rintro dispatch sent rfl
      obtain ⟨_, _, _, chosen, also, selected⟩ := joins.sent dispatch sent
      obtain ⟨rfl, rfl⟩ := joins.unique _ _ _ _ _ _ _ begun also
      rw [unselected] at selected
      cases selected
    · exact joins.unplanned ticket reader registry request hostless begun unselected

/-- Two lists of replies that the log has in the same places. -/
theorem Combines.replies_eq {log other : List Entry} {ticket' : Ticket}
    {request request' : FanOut} {output output' : ExpertOutputWire}
    {replies replies' : List OpoiExpertResult}
    (combines : Combines arith log ticket request output replies)
    (combines' : Combines arith other ticket' request' output' replies')
    (sameExperts : request.experts = request'.experts)
    (sameReplies : ∀ index, returnsOf log ticket index = returnsOf other ticket' index) :
    replies = replies' := by
  have sameLength : replies.length = replies'.length := by
    rw [combines.complete, combines'.complete, sameExperts]
  apply List.ext_getElem sameLength
  intro index inside inside'
  have once := combines.once index _ (List.getElem?_eq_getElem inside)
  rw [sameReplies index, combines'.once index _ (List.getElem?_eq_getElem inside')] at once
  exact (List.singleton_inj.mp once).symm

theorem orderIndependent_of_allOrNothing {other : ExpertDispatcher}
    (sound : dispatcher.AllOrNothing arith) (sound' : other.AllOrNothing arith) :
    dispatcher.OrderIndependent other := by
  intro ticket reader registry request output ticket' reader' registry' request' output' begun
    joined begun' joined' sameExperts sameReplies
  cases sound.concludes _ _ _ _ _ begun joined with
  | ok combines =>
      cases sound'.concludes _ _ _ _ _ begun' joined' with
      | ok combines' =>
          have same := combines.replies_eq combines' sameExperts sameReplies
          subst same
          rw [combines.sum, combines'.sum, FanOut.weighted, FanOut.weighted, sameExperts]

theorem joins_of_run (run : (system sha256 arith).RunWith JoinGuard new events dispatcher) :
    Joins arith dispatcher := by
  apply run.invariant joins_new
  intro state event joins enabled guarded
  have step : Step sha256 arith state event ((system sha256 arith).next state event) :=
    step_next enabled
  exact joins.next step guarded

/-- While the buffer for the first expert's reply is no larger than the replies received
whenever a fan-out is complete: it returns the weighted sum of one reply of every listed
expert, whatever order these came in, or an error; each of its experts goes on at
most six times until it does; and it sends nothing if some expert has no host. -/
theorem fan_out_all_or_nothing {sha256 : Digest} {arith : Arithmetic}
    {events events' : List Stimulus} {dispatcher other : ExpertDispatcher}
    (run : (system sha256 arith).RunWith JoinGuard new events dispatcher)
    (run' : (system sha256 arith).RunWith JoinGuard new events' other) :
    dispatcher.AllOrNothing arith ∧ dispatcher.OrderIndependent other ∧
      ∀ ticket index, steps events ticket index ≤ stepBound := by
  have sound := (joins_of_run run).allOrNothing
  refine ⟨sound, ?_, (spent_of_run run).total⟩
  exact orderIndependent_of_allOrNothing sound (joins_of_run run').allOrNothing

/-- The replies for two experts of a layer, in the given order of their
places in the list. -/
def repliesInOrder (first second : Nat) : List Stimulus :=
  [trio (.dispatchAndJoin "p" (soleFanOut 0 [1, 2])), trio (.dispatchOne 0 0 true),
    trio (.dispatchOne 0 1 true), trio (.expertResult "a" (soleReply 0 1 "0000803f") 3),
    trio (.expertResult "b" (soleReply 0 2 "00000040") 3), trio (.wake 0 first),
    trio (.wake 0 second)]

theorem fan_out_all_or_nothing_either_order :
    let ordered := (system soleDigest soleArithmetic).execute new (repliesInOrder 0 1)
    let reversed := (system soleDigest soleArithmetic).execute new (repliesInOrder 1 0)
    ordered.AllOrNothing soleArithmetic ∧ ordered.OrderIndependent reversed ∧
      ∀ ticket index, steps (repliesInOrder 0 1) ticket index ≤ stepBound := by
  have ordered :
      (system soleDigest soleArithmetic).Admits JoinGuard new (repliesInOrder 0 1) := by
    refine ⟨⟨trivial, trivial⟩, ⟨⟨_, _, ⟨rfl, rfl⟩, rfl⟩, trivial⟩,
      ⟨⟨_, _, ⟨rfl, rfl⟩, rfl⟩, trivial⟩, ⟨Nat.le_of_ble_eq_true rfl, trivial⟩,
      ⟨Nat.le_of_ble_eq_true rfl, trivial⟩, ⟨⟨_, _, _, ⟨rfl, rfl⟩, rfl⟩, ?_⟩,
      ⟨⟨_, _, _, ⟨rfl, rfl⟩, rfl⟩, ?_⟩, trivial⟩
    · rintro call member waiter result replies ⟨called, listed⟩ waiting reply replied
      cases called
      cases listed
      rcases replies with _ | ⟨first, _ | ⟨second, rest⟩⟩ <;> cases replied
    · rintro call member waiter result replies ⟨called, listed⟩ waiting reply replied
      cases called
      cases listed
      cases waiting
      cases reply
      rcases replies with _ | ⟨first, _ | ⟨second, _ | ⟨third, rest⟩⟩⟩ <;> cases replied
      exact ⟨show expectedLen [1] ≤ maxFloats by decide, by decide⟩
  have reversed :
      (system soleDigest soleArithmetic).Admits JoinGuard new (repliesInOrder 1 0) := by
    refine ⟨⟨trivial, trivial⟩, ⟨⟨_, _, ⟨rfl, rfl⟩, rfl⟩, trivial⟩,
      ⟨⟨_, _, ⟨rfl, rfl⟩, rfl⟩, trivial⟩, ⟨Nat.le_of_ble_eq_true rfl, trivial⟩,
      ⟨Nat.le_of_ble_eq_true rfl, trivial⟩, ⟨⟨_, _, _, ⟨rfl, rfl⟩, rfl⟩, ?_⟩,
      ⟨⟨_, _, _, ⟨rfl, rfl⟩, rfl⟩, ?_⟩, trivial⟩
    · rintro call member waiter result replies ⟨called, listed⟩ waiting reply replied
      cases called
      cases listed
      rcases replies with _ | ⟨first, _ | ⟨second, rest⟩⟩ <;> cases replied
    · rintro call member waiter result replies ⟨called, listed⟩ waiting reply replied
      cases called
      cases listed
      cases waiting
      cases reply
      rcases replies with _ | ⟨first, _ | ⟨second, _ | ⟨third, rest⟩⟩⟩ <;> cases replied
      exact ⟨show expectedLen [1] ≤ maxFloats by decide, by decide⟩
  exact fan_out_all_or_nothing ordered.runWith reversed.runWith

/-- A reply that claims a shape of `2 ^ 61` floats. -/
def hugeEvents : List Stimulus :=
  [trio (.dispatchAndJoin "p" (soleFanOut 0 [7])), trio (.dispatchOne 0 0 true),
    trio (.expertResult "a" { soleReply 0 7 "" with output := ⟨[2 ^ 61], ""⟩ } 2),
    trio (.wake 0 0)]

/-- The fan-out neither returns an output nor an error. -/
theorem huge_shape_panics :
    ∃ events dispatcher, (system soleDigest soleArithmetic).Run new events dispatcher ∧
      ¬ dispatcher.AllOrNothing soleArithmetic := by
  have admitted : (system soleDigest soleArithmetic).Admits (fun _ _ => True) new hugeEvents :=
    ⟨⟨trivial, trivial⟩, ⟨⟨_, _, ⟨rfl, rfl⟩, rfl⟩, trivial⟩,
      ⟨Nat.le_of_ble_eq_true rfl, trivial⟩, ⟨⟨_, _, _, ⟨rfl, rfl⟩, rfl⟩, trivial⟩, trivial⟩
  refine ⟨hugeEvents, _, admitted.runWith, fun sound => ?_⟩
  have begun : .begun 0 "p" trioRegistry (soleFanOut 0 [7]) ∈
      ((system soleDigest soleArithmetic).execute new hugeEvents).log :=
    List.mem_of_getElem? (i := 0) rfl
  have panicked : .joined 0 .panicked ∈
      ((system soleDigest soleArithmetic).execute new hugeEvents).log :=
    List.mem_of_getElem? (i := 4) rfl
  cases sound.concludes _ _ _ _ _ begun panicked

end ExpertDispatcher

end StratumBridge.Expert
