import StratumBridge.Expert.Replies

/-!
# The wallets of one group

The up-front selection gives every expert of a group its own wallet, and every
retry passes over all of these.  What a sibling picked in a retry of its own it
does not know: each retry loop has a copy of the used wallets.
-/

namespace StratumBridge.Expert

open Data Wire Transition

/-- The wallets an expert was dispatched to, or is about to be. -/
def Member.claims (member : Member) : List Wallet :=
  member.wallet :: member.triedWallets

/-- A retry adds nothing but its own pick. -/
theorem Member.mem_claims_retry {registry : MinerRegistry} {error : AttemptError} {member : Member}
    {wallet : Wallet} (mem : wallet ∈ (member.retry registry error).claims) :
    wallet ∈ member.claims ∨
      member.attempt < maxRetriesPerExpert ∧ member.retryHost registry = some wallet := by
  have kept : ∀ {other : Wallet}, other ∈ member.triedWallets ++ [member.wallet] →
      other ∈ member.claims := by
    intro other inTried
    rcases List.mem_append.mp inTried with before | now
    · exact List.mem_cons_of_mem _ before
    · rw [List.mem_singleton.mp now]
      exact List.mem_cons_self
  unfold retry at mem
  split at mem
  · rcases List.mem_cons.mp mem with rfl | inTried
    · exact .inl List.mem_cons_self
    · exact .inl (kept inTried)
  · split at mem
    · rcases List.mem_cons.mp mem with rfl | inTried
      · exact .inl List.mem_cons_self
      · exact .inl (kept inTried)
    · rcases List.mem_cons.mp mem with rfl | inTried
      · exact .inr ⟨by omega, ‹_›⟩
      · exact .inl (kept inTried)

/-- A retry forgets none of the wallets. -/
theorem Member.mem_claims_of_retry (registry : MinerRegistry) (error : AttemptError)
    {member : Member} {wallet : Wallet} (mem : wallet ∈ member.claims) :
    wallet ∈ (member.retry registry error).claims := by
  have tried : wallet ∈ member.triedWallets ++ [member.wallet] := by
    rcases List.mem_cons.mp mem with rfl | before
    · exact List.mem_concat_self
    · exact List.mem_append_left _ before
  unfold retry
  split
  · exact List.mem_cons_of_mem _ tried
  · split <;> exact List.mem_cons_of_mem _ tried

namespace ExpertDispatcher

variable {sha256 : Digest} {arith : Arithmetic} {dispatcher after : ExpertDispatcher}
  {stimulus : Stimulus} {events : List Stimulus} {ticket : Ticket} {index : Nat} {call : Call}
  {member : Member}

/-- The condition on a step: a retry picks no wallet that another expert of the
call was dispatched to, or is about to be. -/
def GroupGuard (dispatcher : ExpertDispatcher) (stimulus : Stimulus) : Prop :=
  ∀ ticket index call member wallet, dispatcher.Stands ticket index call member →
    Fails dispatcher stimulus.registry ticket index member stimulus.event →
    member.attempt < maxRetriesPerExpert → member.retryHost stimulus.registry = some wallet →
    ∀ other sibling, dispatcher.Stands ticket other call sibling → other ≠ index →
      wallet ∉ sibling.claims

/-- No wallet was sent the lines of two members of one call. -/
def GroupsApart (dispatcher : ExpertDispatcher) : Prop :=
  ∀ first second, .assigned first ∈ dispatcher.log → .assigned second ∈ dispatcher.log →
    first.ticket = second.ticket → first.wallet = second.wallet → first.index = second.index

/-- One event is a failure of one member only. -/
theorem Fails.index_eq {registry : MinerRegistry} {event : Event} {other : Nat}
    {sibling : Member} (fails : Fails dispatcher registry ticket index member event)
    (also : Fails dispatcher registry ticket other sibling event) : index = other := by
  cases fails with
  | unreached ready unreachable =>
      cases also
      rfl
  | unanswered waiting silent =>
      cases also
      rfl

/-- Where the wallets of a member come from, if its call is not new. -/
theorem Moved.claims (moved : Moved sha256 dispatcher stimulus after ticket index call member)
    (old : ticket ≠ dispatcher.nextTicket) :
    ∃ before origin, dispatcher.Stands ticket index before origin ∧
      (∀ wallet ∈ origin.claims, wallet ∈ member.claims) ∧
      ∀ wallet ∈ member.claims, wallet ∈ origin.claims ∨
        Fails dispatcher stimulus.registry ticket index origin stimulus.event ∧
          origin.attempt < maxRetriesPerExpert ∧
          origin.retryHost stimulus.registry = some wallet := by
  cases moved with
  | kept stands same elsewhere silent =>
      exact ⟨_, member, stands, fun _ mem => mem, fun _ mem => .inl mem⟩
  | sent stands same ready connected event now logged =>
      subst now
      exact ⟨_, _, stands, fun _ mem => mem, fun _ mem => .inl mem⟩
  | returned stands same event waiting reply now logged =>
      subst now
      exact ⟨_, _, stands, fun _ mem => mem, fun _ mem => .inl mem⟩
  | retried stands same fails now logged =>
      subst now
      refine ⟨_, _, stands, fun wallet mem => Member.mem_claims_of_retry _ _ mem,
        fun wallet mem => ?_⟩
      rcases Member.mem_claims_retry mem with before | ⟨left, picked⟩
      · exact .inl before
      · exact .inr ⟨fails, left, picked⟩
  | begun fresh event selected listed now => exact absurd fresh old

/-- The members of a call have no wallet in common, and the lines sent for a
member went to its wallets. -/
structure Separate (dispatcher : ExpertDispatcher) : Prop where
  tickets : dispatcher.TicketsFresh
  sent : ∀ dispatch, .assigned dispatch ∈ dispatcher.log →
    dispatch.ticket < dispatcher.nextTicket
  listed : ∀ dispatch call, .assigned dispatch ∈ dispatcher.log →
    dispatcher.calls dispatch.ticket = some call →
    ∃ member, call.members[dispatch.index]? = some member ∧ dispatch.wallet ∈ member.claims
  disjoint : ∀ ticket call index other member sibling,
    dispatcher.Stands ticket index call member → dispatcher.Stands ticket other call sibling →
    index ≠ other → ∀ wallet ∈ member.claims, wallet ∉ sibling.claims
  apart : dispatcher.GroupsApart

theorem separate_new : new.Separate where
  tickets := ticketsFresh_new
  sent := by
    intro dispatch mem
    cases mem
  listed := by
    intro dispatch call mem
    cases mem
  disjoint := by
    intro ticket call index other member sibling stands
    cases stands.called
  apart := by
    intro first second mem
    cases mem

/-- A line after an event is an old one, or the one the event sends. -/
theorem Step.assigned (step : Step sha256 arith dispatcher stimulus after) {dispatch : Dispatch}
    (mem : .assigned dispatch ∈ after.log) :
    .assigned dispatch ∈ dispatcher.log ∨
      ∃ call member, Sends sha256 dispatcher stimulus dispatch call member := by
  obtain ⟨position, asked⟩ := List.getElem?_of_mem mem
  rcases step.asked asked with old | ⟨-, -, sends⟩
  · exact .inl old.mem
  · exact .inr sends

/-- A line about to be sent goes to no wallet that has the line of another
member. -/
theorem Separate.index_eq (separate : dispatcher.Separate) {earlier dispatch : Dispatch}
    (mem : .assigned earlier ∈ dispatcher.log)
    (sends : Sends sha256 dispatcher stimulus dispatch call member)
    (sameTicket : earlier.ticket = dispatch.ticket)
    (sameWallet : earlier.wallet = dispatch.wallet) :
    earlier.index = dispatch.index := by
  by_contra apart
  have called : dispatcher.calls earlier.ticket = some call := sameTicket ▸ sends.stands.called
  obtain ⟨sibling, listed, claimed⟩ := separate.listed earlier call mem called
  refine separate.disjoint dispatch.ticket call earlier.index dispatch.index sibling member
    ⟨sends.stands.called, listed⟩ sends.stands apart earlier.wallet claimed ?_
  rw [sameWallet, sends.wallet]
  exact List.mem_cons_self

theorem Separate.next (separate : dispatcher.Separate)
    (step : Step sha256 arith dispatcher stimulus after)
    (guarded : dispatcher.GroupGuard stimulus) : after.Separate where
  tickets := separate.tickets.next step
  sent := by
    intro dispatch mem
    rcases step.assigned mem with old | ⟨call, member, sends⟩
    · exact (separate.sent dispatch old).trans_le step.tickets_le
    · exact (separate.tickets _ call sends.stands.called).trans_le step.tickets_le
  listed := by
    intro dispatch call mem called
    have started : ∃ before origin, dispatcher.calls dispatch.ticket = some before ∧
        before.members[dispatch.index]? = some origin ∧ dispatch.wallet ∈ origin.claims ∧
        dispatch.ticket < dispatcher.nextTicket := by
      rcases step.assigned mem with old | ⟨before, origin, sends⟩
      · have fresh := separate.sent dispatch old
        rcases step.stored called with ⟨before, stored, -⟩ | ⟨isNew, -⟩
        · obtain ⟨origin, listed, claimed⟩ := separate.listed dispatch before old stored
          exact ⟨before, origin, stored, listed, claimed, fresh⟩
        · exact absurd isNew fresh.ne
      · refine ⟨before, origin, sends.stands.called, sends.stands.listed, ?_,
          separate.tickets _ _ sends.stands.called⟩
        rw [sends.wallet]
        exact List.mem_cons_self
    rcases started with ⟨before, origin, stored, listed, claimed, fresh⟩
    rcases step.stored called with ⟨_, again, same⟩ | ⟨isNew, -⟩
    · cases stored.symm.trans again
      have inside : dispatch.index < call.members.length := by
        rw [same.length_eq]
        exact (List.getElem?_eq_some_iff.mp listed).1
      have now : after.Stands dispatch.ticket dispatch.index call _ :=
        ⟨called, List.getElem?_eq_getElem inside⟩
      obtain ⟨before, earlier, stands, keeps, -⟩ := (step.moved now).claims fresh.ne
      cases stored.symm.trans stands.called
      cases listed.symm.trans stands.listed
      exact ⟨_, now.listed, keeps _ claimed⟩
    · exact absurd isNew fresh.ne
  disjoint := by
    intro ticket call index other member sibling stands also apart wallet mem inSibling
    rcases step.stored stands.called with ⟨before, stored, -⟩ |
      ⟨-, -, -, -, planned, usedWallets, selected, members⟩
    · have fresh := (separate.tickets ticket before stored).ne
      obtain ⟨_, origin, stood, -, origins⟩ := (step.moved stands).claims fresh
      obtain ⟨_, twin, stoodToo, -, originsToo⟩ := (step.moved also).claims fresh
      cases stood.called.symm.trans stored
      cases stoodToo.called.symm.trans stored
      rcases origins wallet mem with claimed | ⟨fails, left, picked⟩
      · rcases originsToo wallet inSibling with claimedToo | ⟨fails, left, picked⟩
        · exact separate.disjoint ticket before index other origin twin stood stoodToo apart
            wallet claimed claimedToo
        · exact guarded ticket other before twin wallet stoodToo fails left picked index origin
            stood apart claimed
      · rcases originsToo wallet inSibling with claimedToo | ⟨failsToo, -⟩
        · exact guarded ticket index before origin wallet stood fails left picked other twin
            stoodToo apart.symm claimedToo
        · exact apart (fails.index_eq failsToo)
    · have first := stands.listed
      have second := also.listed
      rw [members, List.getElem?_map, Option.map_eq_some_iff] at first second
      rcases first with ⟨choice, chosen, rfl⟩
      rcases second with ⟨choiceToo, chosenToo, rfl⟩
      have sameWallet : choice.2 = choiceToo.2 :=
        (List.mem_singleton.mp mem).symm.trans (List.mem_singleton.mp inSibling)
      have distinct := (plan_eq_ok selected).2.1
      apply apart
      apply (List.getElem?_inj (l := planned.map Prod.snd) ?_ distinct).mp
      · rw [List.getElem?_map, List.getElem?_map, chosen, chosenToo, Option.map_some,
          Option.map_some, sameWallet]
      · simpa using (List.getElem?_eq_some_iff.mp chosen).1
  apart := by
    intro first second memFirst memSecond sameTicket sameWallet
    rcases step.assigned memFirst with oldFirst | ⟨call, member, sends⟩
    · rcases step.assigned memSecond with oldSecond | ⟨call, member, sends⟩
      · exact separate.apart first second oldFirst oldSecond sameTicket sameWallet
      · exact separate.index_eq oldFirst sends sameTicket sameWallet
    · rcases step.assigned memSecond with oldSecond | ⟨_, _, sendsToo⟩
      · exact (separate.index_eq oldSecond sends sameTicket.symm sameWallet.symm).symm
      · exact (Event.dispatchOne.inj (sends.event.symm.trans sendsToo.event)).2.1

/-- In every run whose retries pick no wallet of a sibling, no wallet is sent the
lines of two experts of one call. -/
theorem groups_apart {sha256 : Digest} {arith : Arithmetic} {events : List Stimulus}
    {dispatcher : ExpertDispatcher}
    (run : (system sha256 arith).RunWith GroupGuard new events dispatcher) :
    dispatcher.GroupsApart := by
  have separate : dispatcher.Separate := by
    apply run.invariant separate_new
    intro state event separate enabled guarded
    have step : Step sha256 arith state event ((system sha256 arith).next state event) :=
      step_next enabled
    exact separate.next step guarded
  exact separate.apart

/-- A host that is connected and reached fails nobody. -/
theorem not_fails_of_reached {isOpen : Bool} {registry : MinerRegistry} {other : Ticket}
    {position : Nat} (opened : isOpen = true) (connected : registry.get member.wallet ≠ none) :
    ¬ Fails dispatcher registry other position member (.dispatchOne ticket index isOpen) := by
  intro fails
  cases fails with
  | unreached ready unreachable =>
      rcases unreachable with closed | gone
      · rw [closed] at opened
        cases opened
      · exact connected gone

theorem groupGuard_of_reached {isOpen : Bool} {registry : MinerRegistry}
    (reached : ∀ call member, dispatcher.Stands ticket index call member →
      isOpen = true ∧ registry.get member.wallet ≠ none) :
    dispatcher.GroupGuard ⟨registry, .dispatchOne ticket index isOpen⟩ := by
  intro other position call member wallet stands fails
  have here : (ticket, index) = (other, position) := Option.some.inj fails.actsOn
  cases here
  obtain ⟨opened, connected⟩ := reached call member stands
  exact absurd fails (not_fails_of_reached opened connected)

/-- Two experts; the first host cannot be reached, and its expert goes to the
third. -/
def retriedEvents : List Stimulus :=
  [trio (.dispatchAndJoin "p" (soleFanOut 0 [1, 2])), trio (.dispatchOne 0 0 false),
    trio (.dispatchOne 0 0 true), trio (.dispatchOne 0 1 true)]

theorem groups_apart_retried :
    ((system soleDigest soleArithmetic).execute new retriedEvents).GroupsApart := by
  have admitted : (system soleDigest soleArithmetic).Admits GroupGuard new retriedEvents := by
    refine ⟨⟨trivial, ?_⟩, ⟨⟨_, _, ⟨rfl, rfl⟩, rfl⟩, ?_⟩, ⟨⟨_, _, ⟨rfl, rfl⟩, rfl⟩, ?_⟩,
      ⟨⟨_, _, ⟨rfl, rfl⟩, rfl⟩, ?_⟩, trivial⟩
    · intro ticket index call member wallet stands fails
      cases fails
    · rintro ticket index call member wallet ⟨called, listed⟩ fails left picked
      cases fails
      cases called
      cases listed
      cases picked
      rintro (_ | _ | other) sibling ⟨calledToo, listedToo⟩ apart
      · exact absurd rfl apart
      · cases calledToo
        cases listedToo
        decide
      · cases calledToo
        cases listedToo
    · apply groupGuard_of_reached
      rintro call member ⟨called, listed⟩
      cases called
      cases listed
      decide
    · apply groupGuard_of_reached
      rintro call member ⟨called, listed⟩
      cases called
      cases listed
      decide
  exact groups_apart admitted.runWith

/-- Two experts whose hosts are both silent. -/
def collidingEvents : List Stimulus :=
  [trio (.dispatchAndJoin "p" (soleFanOut 0 [1, 2])), trio (.dispatchOne 0 0 true),
    trio (.dispatchOne 0 1 true), trio (.wake 0 0), trio (.wake 0 1),
    trio (.dispatchOne 0 0 true), trio (.dispatchOne 0 1 true)]

/-- Both experts are retried on the third host. -/
theorem retries_collide :
    ∃ events dispatcher, (system soleDigest soleArithmetic).Run new events dispatcher ∧
      ∃ first second, .assigned first ∈ dispatcher.log ∧ .assigned second ∈ dispatcher.log ∧
        first.ticket = second.ticket ∧ first.wallet = second.wallet ∧
        first.index ≠ second.index ∧ first.assign.expertId ≠ second.assign.expertId := by
  have admitted :
      (system soleDigest soleArithmetic).Admits (fun _ _ => True) new collidingEvents :=
    ⟨⟨trivial, trivial⟩, ⟨⟨_, _, ⟨rfl, rfl⟩, rfl⟩, trivial⟩,
      ⟨⟨_, _, ⟨rfl, rfl⟩, rfl⟩, trivial⟩, ⟨⟨_, _, _, ⟨rfl, rfl⟩, rfl⟩, trivial⟩,
      ⟨⟨_, _, _, ⟨rfl, rfl⟩, rfl⟩, trivial⟩, ⟨⟨_, _, ⟨rfl, rfl⟩, rfl⟩, trivial⟩,
      ⟨⟨_, _, ⟨rfl, rfl⟩, rfl⟩, trivial⟩, trivial⟩
  refine ⟨collidingEvents, _, admitted.runWith, _, _, List.mem_of_getElem? (i := 3) rfl,
    List.mem_of_getElem? (i := 4) rfl, rfl, rfl, ?_, ?_⟩
  · decide
  · decide

end ExpertDispatcher

end StratumBridge.Expert
