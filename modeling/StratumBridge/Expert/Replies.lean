import StratumBridge.Expert.System

/-!
# Replies and the dispatches they answer

A reply is matched by its key and its wallet, and a key comes back with every
token.  While each reply that still finds a waiting dispatch was sent after that
dispatch's line and repeats its token index, every dispatch returns the reply to
its own line; a reply that is late for one token is otherwise taken for the
next.
-/

namespace StratumBridge.Expert

open Data Wire Transition

/-- The key a line is dispatched under. -/
def assignKey (assign : OpoiExpertAssign) : ExpertAssignmentKey where
  requestId := assign.requestId
  layerStart := assign.layerStart
  layerEnd := assign.layerEnd
  layerIdx := assign.layerIdx
  expertId := assign.expertId

/-- A reply repeats everything that identifies the computation of a line. -/
structure Echoes (assign : OpoiExpertAssign) (result : OpoiExpertResult) : Prop where
  requestId : result.requestId = assign.requestId
  layerStart : result.layerStart = assign.layerStart
  layerEnd : result.layerEnd = assign.layerEnd
  layerIdx : result.layerIdx = assign.layerIdx
  expertId : result.expertId = assign.expertId
  tokenIndex : result.tokenIndex = assign.tokenIndex

theorem echoes_of_replyKey {assign : OpoiExpertAssign} {result : OpoiExpertResult}
    (sameKey : assignKey assign = replyKey result)
    (sameToken : assign.tokenIndex = result.tokenIndex) : Echoes assign result where
  requestId := congrArg ExpertAssignmentKey.requestId sameKey.symm
  layerStart := congrArg ExpertAssignmentKey.layerStart sameKey.symm
  layerEnd := congrArg ExpertAssignmentKey.layerEnd sameKey.symm
  layerIdx := congrArg ExpertAssignmentKey.layerIdx sameKey.symm
  expertId := congrArg ExpertAssignmentKey.expertId sameKey.symm
  tokenIndex := sameToken.symm

namespace ExpertDispatcher

/-- A line was sent as the entry at a position of the log. -/
def Asked (dispatcher : ExpertDispatcher) (position : Nat) (dispatch : Dispatch) : Prop :=
  dispatcher.log[position]? = some (.assigned dispatch)

/-- A reply was sent by the wallet of a dispatch after its line, and repeats
what the line says. -/
structure Answers (dispatcher : ExpertDispatcher) (position : Nat) (dispatch : Dispatch)
    (wallet : Wallet) (result : OpoiExpertResult) (sentAt : Nat) : Prop where
  asked : dispatcher.Asked position dispatch
  wallet : dispatch.wallet = wallet
  after : position < sentAt
  echoes : Echoes dispatch.assign result

/-- What `dispatch_one` returned is the answer to its own line. -/
def ReturnsAnswer (dispatcher : ExpertDispatcher) (ticket : Ticket) (index : Nat)
    (waiter : Waiter) (result : OpoiExpertResult) : Prop :=
  ∃ position dispatch sentAt,
    dispatch.ticket = ticket ∧ dispatch.index = index ∧ dispatch.waiter = waiter ∧
      .delivered waiter dispatch.wallet result sentAt ∈ dispatcher.log ∧
      dispatcher.Answers position dispatch dispatch.wallet result sentAt

/-- The condition on a step: a reply that reaches a dispatch to its wallet was
sent after the line of that dispatch, and has its token index. -/
def ReplyGuard (dispatcher : ExpertDispatcher) (stimulus : Stimulus) : Prop :=
  match stimulus.event with
  | .expertResult wallet result sentAt =>
      ∀ position dispatch, dispatcher.Asked position dispatch → dispatch.wallet = wallet →
        dispatcher.pending (replyKey result) = some dispatch.waiter →
          position < sentAt ∧ dispatch.assign.tokenIndex = result.tokenIndex
  | _ => True

variable {sha256 : Digest} {arith : Arithmetic} {dispatcher after : ExpertDispatcher}
  {stimulus : Stimulus} {events : List Stimulus} {position : Nat} {dispatch : Dispatch}

/-! ## Lines of the log -/

theorem Asked.mem (asked : dispatcher.Asked position dispatch) :
    .assigned dispatch ∈ dispatcher.log :=
  List.mem_of_getElem? asked

theorem Asked.lt (asked : dispatcher.Asked position dispatch) :
    position < dispatcher.log.length :=
  (List.getElem?_eq_some_iff.mp asked).1

/-- Lines stay where they are. -/
theorem Asked.extend (asked : dispatcher.Asked position dispatch)
    (extended : dispatcher.log <+: after.log) : after.Asked position dispatch := by
  rcases extended with ⟨entries, extended⟩
  rw [Asked, ← extended, List.getElem?_append_left asked.lt]
  exact asked

theorem asked_append_cases {entries : List Entry} (extended : after.log = dispatcher.log ++ entries)
    (asked : after.Asked position dispatch) :
    dispatcher.Asked position dispatch ∨
      dispatcher.log.length ≤ position ∧
        entries[position - dispatcher.log.length]? = some (.assigned dispatch) := by
  rw [Asked, extended, List.getElem?_append] at asked
  split at asked
  · exact .inl asked
  · exact .inr ⟨Nat.le_of_not_lt ‹_›, asked⟩

/-- A line after an event is an old one, or the one the event sends. -/
theorem Step.asked (step : Step sha256 arith dispatcher stimulus after)
    (asked : after.Asked position dispatch) :
    dispatcher.Asked position dispatch ∨
      position = dispatcher.log.length ∧ after.nextWaiter = dispatcher.nextWaiter + 1 ∧
        ∃ call member, Sends sha256 dispatcher stimulus dispatch call member := by
  rcases step.adds with ⟨entries, extended, adds⟩
  rcases asked_append_cases extended asked with old | ⟨beyond, found⟩
  · exact .inl old
  · cases adds _ (List.mem_of_getElem? found) with
    | refused _ _ _ _ _ isNew => rcases isNew with isNew | isNew <;> cases isNew
    | assigned sends advanced logged =>
        have single : entries = [.assigned dispatch] :=
          List.append_cancel_left (extended.symm.trans logged)
        subst single
        have first : position - dispatcher.log.length < 1 := by
          simpa using (List.getElem?_eq_some_iff.mp found).1
        exact .inr ⟨by omega, advanced, _, _, sends⟩

theorem Step.waiters_le (step : Step sha256 arith dispatcher stimulus after) :
    dispatcher.nextWaiter ≤ after.nextWaiter := by
  cases step with
  | sent stands ready connected => exact Nat.le_succ _
  | failed stands fails clears => simpa using clears.waiters
  | returned stands waiting reply clears => simpa using clears.waiters
  | released clears => exact clears.waiters
  | _ => exact le_rfl

/-! ## Waiters -/

/-- A waiter belongs to one line: that of the member that waits on it, and that
of the key it is pending under. -/
structure Waiters (sha256 : Digest) (dispatcher : ExpertDispatcher) : Prop where
  fresh : ∀ position dispatch, dispatcher.Asked position dispatch →
    dispatch.waiter < dispatcher.nextWaiter
  unique : ∀ first second dispatch other, dispatcher.Asked first dispatch →
    dispatcher.Asked second other → dispatch.waiter = other.waiter → first = second
  waiting : ∀ ticket index call member waiter, dispatcher.Stands ticket index call member →
    member.progress = .waiting waiter → ∃ position tx, dispatcher.Asked position
      ⟨ticket, index, waiter, member.wallet, tx, call.request.assign sha256 member.selected⟩
  pending : ∀ key waiter, dispatcher.pending key = some waiter →
    ∃ position dispatch, dispatcher.Asked position dispatch ∧ dispatch.waiter = waiter ∧
      assignKey dispatch.assign = key ∧ dispatcher.assignments key = some dispatch.wallet

theorem waiters_new : Waiters sha256 new where
  fresh := by
    intro position dispatch asked
    cases asked
  unique := by
    intro first second dispatch other asked
    cases asked
  waiting := by
    intro ticket index call member waiter stands
    cases stands.called
  pending := by
    intro key waiter pending
    cases pending

/-- Two entries with one waiter are one. -/
theorem Waiters.eq (waiters : Waiters sha256 dispatcher) {first second : Nat}
    {one other : Dispatch} (askedOne : dispatcher.Asked first one)
    (askedOther : dispatcher.Asked second other) (same : one.waiter = other.waiter) :
    first = second ∧ one = other := by
  have samePosition := waiters.unique first second one other askedOne askedOther same
  subst samePosition
  rw [Asked, askedOne] at askedOther
  exact ⟨rfl, by simpa using askedOther⟩

/-- An entry of the maps after an event is an old one, or that of the line just
sent. -/
theorem Step.pending (step : Step sha256 arith dispatcher stimulus after)
    {key : ExpertAssignmentKey} {waiter : Waiter} (pending : after.pending key = some waiter) :
    dispatcher.pending key = some waiter ∧
        after.assignments key = dispatcher.assignments key ∨
      waiter = dispatcher.nextWaiter ∧ ∃ dispatch,
        after.Asked dispatcher.log.length dispatch ∧ dispatch.waiter = waiter ∧
          assignKey dispatch.assign = key ∧ after.assignments key = some dispatch.wallet := by
  have kept : ∀ {entries cleared}, Clears dispatcher entries cleared →
      cleared.pending key = some waiter →
      dispatcher.pending key = some waiter ∧
        cleared.assignments key = dispatcher.assignments key := by
    intro entries cleared clears still
    rcases clears.maps key with ⟨sameWallet, samePending⟩ | ⟨-, gone⟩
    · exact ⟨samePending.symm.trans still, sameWallet⟩
    · rw [gone] at still
      cases still
  cases step with
  | @sent registry ticket index call member tx stands ready connected =>
      by_cases same : key = call.request.key member.selected
      · subst same
        have now : dispatcher.nextWaiter = waiter := by simpa using pending
        refine .inr ⟨now.symm, _, List.getElem?_concat_length .., now, rfl, ?_⟩
        exact PartialMap.insert_self ..
      · left
        constructor
        · exact (PartialMap.insert_of_ne _ _ same).symm.trans pending
        · exact PartialMap.insert_of_ne _ _ same
  | failed stands fails clears => exact .inl (by simpa using kept clears (by simpa using pending))
  | returned stands waiting reply clears =>
      exact .inl (by simpa using kept clears (by simpa using pending))
  | released clears => exact .inl (kept clears pending)
  | delivered assigned answered => exact .inl ⟨(PartialMap.of_remove_eq_some pending).2, rfl⟩
  | _ => exact .inl ⟨pending, rfl⟩

theorem Waiters.next (waiters : Waiters sha256 dispatcher)
    (step : Step sha256 arith dispatcher stimulus after) : Waiters sha256 after where
  fresh := by
    intro position dispatch asked
    rcases step.asked asked with old | ⟨-, advanced, call, member, sends⟩
    · exact (waiters.fresh position dispatch old).trans_le step.waiters_le
    · rw [sends.waiter, advanced]
      exact Nat.lt_succ_self _
  unique := by
    intro first second dispatch other askedFirst askedSecond same
    rcases step.asked askedFirst with oldFirst | ⟨atFirst, -, _, _, sendsFirst⟩
    · rcases step.asked askedSecond with oldSecond | ⟨-, -, _, _, sendsSecond⟩
      · exact waiters.unique first second dispatch other oldFirst oldSecond same
      · have fresh := waiters.fresh first dispatch oldFirst
        rw [same, sendsSecond.waiter] at fresh
        exact absurd fresh (Nat.lt_irrefl _)
    · rcases step.asked askedSecond with oldSecond | ⟨atSecond, -⟩
      · have fresh := waiters.fresh second other oldSecond
        rw [← same, sendsFirst.waiter] at fresh
        exact absurd fresh (Nat.lt_irrefl _)
      · exact atFirst.trans atSecond.symm
  waiting := by
    intro ticket index call member waiter stands waits
    cases step.moved stands with
    | kept stood same elsewhere silent =>
        obtain ⟨position, tx, asked⟩ := waiters.waiting ticket index _ member waiter stood waits
        refine ⟨position, tx, ?_⟩
        rw [same.request]
        exact asked.extend step.extends
    | @sent before old tx stood same ready connected event now logged =>
        subst now
        cases waits
        refine ⟨dispatcher.log.length, tx, ?_⟩
        rw [same.request, Asked, logged]
        exact List.getElem?_concat_length ..
    | retried stood same fails now logged =>
        subst now
        exact absurd waits (Member.retry_progress_ne_waiting _ _ _ _)
    | returned stood same event waited reply now logged =>
        subst now
        cases waits
    | begun fresh event selected listed now =>
        subst now
        cases waits
  pending := by
    intro key waiter pending
    rcases step.pending pending with ⟨old, sameWallet⟩ | ⟨-, dispatch, asked, isWaiter, isKey, held⟩
    · obtain ⟨position, dispatch, asked, isWaiter, isKey, held⟩ := waiters.pending key waiter old
      exact ⟨position, dispatch, asked.extend step.extends, isWaiter, isKey,
        sameWallet.trans held⟩
    · exact ⟨_, dispatch, asked, isWaiter, isKey, held⟩

/-! ## Answers -/

theorem Answers.extend {wallet : Wallet} {result : OpoiExpertResult} {sentAt : Nat}
    (answers : dispatcher.Answers position dispatch wallet result sentAt)
    (extended : dispatcher.log <+: after.log) :
    after.Answers position dispatch wallet result sentAt :=
  { answers with asked := answers.asked.extend extended }

theorem ReturnsAnswer.extend {ticket : Ticket} {index : Nat} {waiter : Waiter}
    {result : OpoiExpertResult} (returns : dispatcher.ReturnsAnswer ticket index waiter result)
    (extended : dispatcher.log <+: after.log) :
    after.ReturnsAnswer ticket index waiter result := by
  rcases returns with ⟨position, dispatch, sentAt, isTicket, isIndex, isWaiter, delivered, answers⟩
  exact ⟨position, dispatch, sentAt, isTicket, isIndex, isWaiter, extended.subset delivered,
    answers.extend extended⟩

theorem Step.replies (step : Step sha256 arith dispatcher stimulus after) {waiter : Waiter}
    {result : OpoiExpertResult} (reply : after.replies waiter = some result) :
    dispatcher.replies waiter = some result ∨
      ∃ wallet sentAt, .delivered waiter wallet result sentAt ∈ after.log := by
  cases step with
  | failed stands fails clears =>
      rw [settle_replies, clears.replies] at reply
      exact .inl reply
  | returned stands waiting answer clears =>
      rw [settle_replies, clears.replies] at reply
      exact .inl reply
  | released clears =>
      rw [clears.replies] at reply
      exact .inl reply
  | @delivered registry wallet given sentAt awaited assigned pending =>
      by_cases same : waiter = awaited
      · subst same
        have given : given = result := by simpa using reply
        subst given
        exact .inr ⟨wallet, sentAt, List.mem_concat_self⟩
      · exact .inl ((PartialMap.insert_of_ne _ _ same).symm.trans reply)
  | _ => exact .inl reply

/-- Everything delivered, kept or returned answers the line it belongs to. -/
structure Answered (dispatcher : ExpertDispatcher) : Prop where
  delivered : ∀ waiter wallet result sentAt,
    .delivered waiter wallet result sentAt ∈ dispatcher.log →
    ∃ position dispatch, dispatch.waiter = waiter ∧
      dispatcher.Answers position dispatch wallet result sentAt
  replies : ∀ waiter result, dispatcher.replies waiter = some result →
    ∃ wallet sentAt, .delivered waiter wallet result sentAt ∈ dispatcher.log
  returned : ∀ ticket index waiter result, .returned ticket index waiter result ∈ dispatcher.log →
    dispatcher.ReturnsAnswer ticket index waiter result

theorem answered_new : new.Answered where
  delivered := by
    intro waiter wallet result sentAt mem
    cases mem
  replies := by
    intro waiter result reply
    cases reply
  returned := by
    intro ticket index waiter result mem
    cases mem

theorem Answered.next (answered : dispatcher.Answered) (waiters : Waiters sha256 dispatcher)
    (step : Step sha256 arith dispatcher stimulus after)
    (guarded : dispatcher.ReplyGuard stimulus) : after.Answered where
  delivered := by
    intro waiter wallet result sentAt mem
    rcases step.mem_log mem with old | new
    · rcases answered.delivered waiter wallet result sentAt old with
        ⟨position, dispatch, isWaiter, answers⟩
      exact ⟨position, dispatch, isWaiter, answers.extend step.extends⟩
    · cases new with
      | refused _ _ _ _ _ isNew => rcases isNew with isNew | isNew <;> cases isNew
      | delivered event assigned pending =>
          rcases waiters.pending _ waiter pending with
            ⟨position, dispatch, asked, rfl, isKey, held⟩
          have isWallet : dispatch.wallet = wallet := Option.some.inj (held.symm.trans assigned)
          rw [ReplyGuard, event] at guarded
          obtain ⟨later, sameToken⟩ := guarded position dispatch asked isWallet pending
          exact ⟨position, dispatch, rfl, asked.extend step.extends, isWallet, later,
            echoes_of_replyKey isKey sameToken⟩
  replies := by
    intro waiter result reply
    rcases step.replies reply with old | new
    · obtain ⟨wallet, sentAt, mem⟩ := answered.replies waiter result old
      exact ⟨wallet, sentAt, step.extends.subset mem⟩
    · exact new
  returned := by
    intro ticket index waiter result mem
    rcases step.mem_log mem with old | new
    · exact (answered.returned ticket index waiter result old).extend step.extends
    · cases new with
      | refused _ _ _ _ _ isNew => rcases isNew with isNew | isNew <;> cases isNew
      | returned stands waiting reply =>
          obtain ⟨place, tx, line⟩ := waiters.waiting ticket index _ _ waiter stands waiting
          obtain ⟨wallet, sentAt, delivered⟩ := answered.replies waiter result reply
          rcases answered.delivered waiter wallet result sentAt delivered with
            ⟨position, dispatch, isWaiter, answers⟩
          obtain ⟨-, rfl⟩ := waiters.eq line answers.asked isWaiter.symm
          have isWallet := answers.wallet
          subst isWallet
          exact ⟨position, _, sentAt, rfl, rfl, rfl, step.extends.subset delivered,
            answers.extend step.extends⟩

/-- While every reply that reaches a waiting dispatch was sent after its line and
has its token index, everything a dispatch returns is the answer to its own
line. -/
theorem expert_replies_answer {sha256 : Digest} {arith : Arithmetic} {events : List Stimulus}
    {dispatcher : ExpertDispatcher}
    (run : (system sha256 arith).RunWith ReplyGuard new events dispatcher) (ticket : Ticket)
    (index : Nat) (waiter : Waiter) (result : OpoiExpertResult)
    (returned : .returned ticket index waiter result ∈ dispatcher.log) :
    dispatcher.ReturnsAnswer ticket index waiter result := by
  have held : Waiters sha256 dispatcher ∧ dispatcher.Answered := by
    apply run.invariant (I := fun state => Waiters sha256 state ∧ state.Answered)
    · exact ⟨waiters_new, answered_new⟩
    · rintro state event ⟨waiters, answered⟩ enabled guarded
      have step : Step sha256 arith state event ((system sha256 arith).next state event) :=
        step_next enabled
      exact ⟨waiters.next step, answered.next waiters step guarded⟩
  exact held.2.returned ticket index waiter result returned

/-- A fan-out over one expert, whose host answers in time. -/
def answeredEvents : List Stimulus :=
  [trio (.dispatchAndJoin "p" (soleFanOut 0 [7])), trio (.dispatchOne 0 0 true),
    trio (.expertResult "a" (soleReply 0 7 "00000000") 2), trio (.wake 0 0)]

theorem expert_replies_answer_sole :
    ReturnsAnswer ((system soleDigest soleArithmetic).execute new answeredEvents) 0 0 0
      (soleReply 0 7 "00000000") := by
  have admitted : (system soleDigest soleArithmetic).Admits ReplyGuard new answeredEvents := by
    refine ⟨⟨trivial, trivial⟩, ⟨⟨_, _, ⟨rfl, rfl⟩, rfl⟩, trivial⟩, ⟨le_rfl, ?_⟩,
      ⟨⟨_, _, _, ⟨rfl, rfl⟩, rfl⟩, trivial⟩, trivial⟩
    rintro (_ | _ | position) dispatch asked isWallet pending
    · cases asked
    · cases asked
      exact ⟨by decide, rfl⟩
    · cases asked
  apply expert_replies_answer admitted.runWith
  exact .tail _ (.tail _ (.tail _ (.head _)))

/-- The host of token 0 is slow and another one answers; the fan-out of token 1
goes to the slow host again, and its reply for token 0 arrives. -/
def lateEvents : List Stimulus :=
  [trio (.dispatchAndJoin "p" (soleFanOut 0 [7])), trio (.dispatchOne 0 0 true), trio (.wake 0 0),
    trio (.dispatchOne 0 0 true), trio (.expertResult "b" (soleReply 0 7 "00000000") 3),
    trio (.wake 0 0), trio (.dispatchAndJoin "p" (soleFanOut 1 [7])),
    trio (.dispatchOne 1 0 true), trio (.expertResult "a" (soleReply 0 7 "0000803f") 2),
    trio (.wake 1 0)]

/-- The reply for token 0 is returned to the dispatch for token 1. -/
theorem late_reply_returned :
    ∃ events dispatcher, (system soleDigest soleArithmetic).Run new events dispatcher ∧
      ∃ ticket index waiter result, .returned ticket index waiter result ∈ dispatcher.log ∧
        ¬ dispatcher.ReturnsAnswer ticket index waiter result := by
  have admitted :
      (system soleDigest soleArithmetic).Admits (fun _ _ => True) new lateEvents :=
    ⟨⟨trivial, trivial⟩, ⟨⟨_, _, ⟨rfl, rfl⟩, rfl⟩, trivial⟩,
      ⟨⟨_, _, _, ⟨rfl, rfl⟩, rfl⟩, trivial⟩, ⟨⟨_, _, ⟨rfl, rfl⟩, rfl⟩, trivial⟩,
      ⟨Nat.le_of_ble_eq_true rfl, trivial⟩, ⟨⟨_, _, _, ⟨rfl, rfl⟩, rfl⟩, trivial⟩,
      ⟨trivial, trivial⟩, ⟨⟨_, _, ⟨rfl, rfl⟩, rfl⟩, trivial⟩,
      ⟨Nat.le_of_ble_eq_true rfl, trivial⟩,
      ⟨⟨_, _, _, ⟨rfl, rfl⟩, rfl⟩, trivial⟩, trivial⟩
  have run := admitted.runWith
  have waiters : Waiters soleDigest
      ((system soleDigest soleArithmetic).execute new lateEvents) := by
    apply run.invariant waiters_new
    intro state event waiters enabled _
    have step : Step soleDigest soleArithmetic state event
        ((system soleDigest soleArithmetic).next state event) := step_next enabled
    exact waiters.next step
  refine ⟨lateEvents, _, run, 1, 0, 2, soleReply 0 7 "0000803f", ?_, ?_⟩
  · exact .tail _ (.tail _ (.tail _ (.tail _ (.tail _ (.tail _ (.tail _ (.tail _ (.tail _
      (.head _)))))))))
  · rintro ⟨position, dispatch, sentAt, -, -, isWaiter, -, answers⟩
    have line : Asked ((system soleDigest soleArithmetic).execute new lateEvents) 7
        ⟨1, 0, 2, "a", 0, (soleFanOut 1 [7]).assign soleDigest ⟨7, 0x3f800000, [1], [0]⟩⟩ := rfl
    obtain ⟨-, rfl⟩ := waiters.eq line answers.asked isWaiter.symm
    exact absurd answers.echoes.tokenIndex (by decide)

end ExpertDispatcher

end StratumBridge.Expert
