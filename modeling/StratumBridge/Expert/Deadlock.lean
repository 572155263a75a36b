import StratumBridge.Expert.Groups
import StratumBridge.Transition.WaitFor

/-!
# Readers waiting for readers

The lines of a wallet are read one at a time, and a line that starts a fan-out is
handled until the fan-out is over.  The wallet itself is never a host of its own
fan-out; but another wallet may be, whose own reader waits for this one.
-/

namespace StratumBridge.Expert

open Data Relation Transition Wire

namespace ExpertDispatcher

variable {sha256 : Digest} {arith : Arithmetic} {dispatcher after : ExpertDispatcher}
  {stimulus : Stimulus} {events : List Stimulus} {ticket : Ticket} {index : Nat} {call : Call}
  {member : Member} {reader host : Wallet}

/-- A reader is not in a fan-out. -/
def Idle (dispatcher : ExpertDispatcher) (reader : Wallet) : Prop :=
  ∀ ticket call, dispatcher.calls ticket = some call → call.reader ≠ reader

/-- One line of a wallet at a time: a fan-out is started, and a reply read, by a
reader that is in no fan-out; and a fan-out passes over the wallet that starts
it. -/
def ReadsLine (dispatcher : ExpertDispatcher) (stimulus : Stimulus) : Prop :=
  match stimulus.event with
  | .dispatchAndJoin reader request => request.preExcluded = [reader] ∧ dispatcher.Idle reader
  | .expertResult wallet _ _ => dispatcher.Idle wallet
  | _ => True

/-- The dispatcher as the sessions of the wallets drive it. -/
def sessionSystem (sha256 : Digest) (arith : Arithmetic) : System ExpertDispatcher Stimulus where
  enabled dispatcher stimulus := dispatcher.enabled stimulus ∧ dispatcher.ReadsLine stimulus
  next := next sha256 arith

/-- A reader is blocked in a fan-out that waits for a reply from a host: the
sender of the reply has neither been used nor dropped. -/
def WaitsFor (dispatcher : ExpertDispatcher) (reader host : Wallet) : Prop :=
  ∃ ticket index call member waiter key, dispatcher.Stands ticket index call member ∧
    call.reader = reader ∧ member.wallet = host ∧ member.progress = .waiting waiter ∧
    dispatcher.pending key = some waiter

/-- The condition on a step: nobody is dispatched to a host whose reader waits,
directly or not, for the reader that dispatches. -/
def WaitGuard (dispatcher : ExpertDispatcher) (stimulus : Stimulus) : Prop :=
  match stimulus.event with
  | .dispatchOne ticket index _ =>
      ∀ call member, dispatcher.Stands ticket index call member →
        ¬ TransGen dispatcher.WaitsFor member.wallet call.reader
  | _ => True

/-- The reader of a call is passed over by all its members. -/
structure Excludes (call : Call) (member : Member) : Prop where
  excluded : call.reader ∈ call.request.preExcluded
  used : ∀ wallet ∈ call.request.preExcluded, wallet ∈ member.groupUsedWallets
  avoids : member.wallet ∉ call.request.preExcluded

theorem Excludes.ne (excludes : Excludes call member) : member.wallet ≠ call.reader := by
  intro same
  apply excludes.avoids
  rw [same]
  exact excludes.excluded

theorem Excludes.retry {registry : MinerRegistry} {error : AttemptError}
    (excludes : Excludes call member) : Excludes call (member.retry registry error) := by
  unfold Member.retry
  split
  · exact { excludes with }
  · split
    · exact { excludes with }
    · rename_i wallet picked
      have host := MinerRegistry.hostEligible_of_pickExpertHost picked
      constructor
      · exact excludes.excluded
      · intro other mem
        exact List.mem_append_left _ (excludes.used other mem)
      · intro mem
        apply host.notExcluded
        exact List.mem_append_left _ (excludes.used wallet mem)

theorem Excludes.sameCall {before : Call} (excludes : Excludes before member)
    (same : SameCall before call) : Excludes call member := by
  constructor
  · rw [same.reader, same.request]
    exact excludes.excluded
  · rw [same.request]
    exact excludes.used
  · rw [same.request]
    exact excludes.avoids

/-- No member of any call is with the reader of its call. -/
def ReadersExcluded (dispatcher : ExpertDispatcher) : Prop :=
  ∀ ticket index call member, dispatcher.Stands ticket index call member → Excludes call member

theorem readersExcluded_new : new.ReadersExcluded := by
  intro ticket index call member stands
  cases stands.called

theorem ReadersExcluded.next (excluded : dispatcher.ReadersExcluded)
    (step : Step sha256 arith dispatcher stimulus after)
    (reads : dispatcher.ReadsLine stimulus) : after.ReadersExcluded := by
  intro ticket index call member stands
  cases step.moved stands with
  | kept stood same elsewhere silent => exact (excluded _ _ _ _ stood).sameCall same
  | sent stood same ready connected event now logged =>
      subst now
      exact { (excluded _ _ _ _ stood).sameCall same with }
  | retried stood same fails now logged =>
      subst now
      exact ((excluded _ _ _ _ stood).sameCall same).retry
  | returned stood same event waiting reply now logged =>
      subst now
      exact { (excluded _ _ _ _ stood).sameCall same with }
  | begun fresh event selected listed now =>
      subst now
      rw [ReadsLine, event] at reads
      obtain ⟨-, -, uses, eligible⟩ := plan_eq_ok selected
      constructor
      · rw [reads.1]
        exact List.mem_singleton_self _
      · intro wallet mem
        rw [Member.start, uses]
        exact List.mem_append_left _ mem
      · exact (eligible _ (List.mem_of_getElem? listed)).notExcluded

/-- A wait after an event is an old one, or that of the member just
dispatched. -/
theorem WaitsFor.of_step (waits : after.WaitsFor reader host)
    (waiters : Waiters sha256 dispatcher) (step : Step sha256 arith dispatcher stimulus after) :
    dispatcher.WaitsFor reader host ∨ ∃ ticket index call member,
      stimulus.event = .dispatchOne ticket index true ∧
        dispatcher.Stands ticket index call member ∧ reader = call.reader ∧
        host = member.wallet := by
  rcases waits with ⟨ticket, index, call, member, waiter, key, stands, rfl, rfl, waiting, pending⟩
  cases step.moved stands with
  | kept stood same elsewhere silent =>
      rcases step.pending pending with ⟨old, -⟩ | ⟨isNew, -⟩
      · exact .inl
          ⟨ticket, index, _, member, waiter, key, stood, same.reader.symm, rfl, waiting, old⟩
      · obtain ⟨position, tx, asked⟩ := waiters.waiting _ _ _ _ _ stood waiting
        exact absurd isNew (waiters.fresh position _ asked).ne
  | sent stood same ready connected event now logged =>
      subst now
      exact .inr ⟨ticket, index, _, _, event, stood, same.reader, rfl⟩
  | retried stood same fails now logged =>
      subst now
      exact absurd waiting (Member.retry_progress_ne_waiting _ _ _ _)
  | returned stood same event waited reply now logged =>
      subst now
      cases waiting
  | begun fresh event selected listed now =>
      subst now
      cases waiting

/-- A dispatch that the guard admits closes no cycle. -/
theorem acyclic_next (acyclic : Acyclic dispatcher.WaitsFor) (waiters : Waiters sha256 dispatcher)
    (excluded : dispatcher.ReadersExcluded)
    (step : Step sha256 arith dispatcher stimulus after)
    (guarded : dispatcher.WaitGuard stimulus) : Acyclic after.WaitsFor := by
  by_cases dispatches : ∃ ticket index call member,
      stimulus.event = .dispatchOne ticket index true ∧
        dispatcher.Stands ticket index call member
  · rcases dispatches with ⟨ticket, index, call, member, event, stands⟩
    rw [WaitGuard, event] at guarded
    apply acyclic.extend call.reader fun host => host = member.wallet
    · intro reader host waits
      rcases waits.of_step waiters step with old | ⟨_, _, _, _, again, stood, rfl, rfl⟩
      · exact .inl old
      · cases event.symm.trans again
        cases stands.called.symm.trans stood.called
        cases stands.listed.symm.trans stood.listed
        exact .inr ⟨rfl, rfl⟩
    · rintro _ rfl chain
      rcases reflTransGen_iff_eq_or_transGen.mp chain with same | leads
      · exact (excluded _ _ _ _ stands).ne same.symm
      · exact guarded call member stands leads
  · apply acyclic.mono
    intro reader host waits
    rcases waits.of_step waiters step with old | ⟨ticket, index, call, member, event, stands, -⟩
    · exact old
    · exact absurd ⟨ticket, index, call, member, event, stands⟩ dispatches

theorem finite_waiting (fresh : dispatcher.TicketsFresh) :
    {reader | ∃ host, dispatcher.WaitsFor reader host}.Finite := by
  have listed : ((fun ticket => ((dispatcher.calls ticket).map Call.reader).getD "") ''
      Set.Iio dispatcher.nextTicket).Finite := (Set.finite_Iio _).image _
  apply listed.subset
  rintro reader ⟨host, ticket, index, call, member, waiter, key, stands, rfl, -⟩
  exact ⟨ticket, fresh ticket call stands.called, by simp [stands.called]⟩

/-- The readers never wait for each other in a circle, and every chain of waiting
readers ends at one that is not blocked in a fan-out. -/
structure NoDeadlock (dispatcher : ExpertDispatcher) : Prop where
  acyclic : Acyclic dispatcher.WaitsFor
  read : ∀ reader host, dispatcher.WaitsFor reader host →
    ∃ idle, ReflTransGen dispatcher.WaitsFor host idle ∧ ∀ other, ¬ dispatcher.WaitsFor idle other

/-- In every run that dispatches to no host whose reader waits for the one that
dispatches, the readers do not deadlock. -/
theorem readers_never_deadlock {sha256 : Digest} {arith : Arithmetic} {events : List Stimulus}
    {dispatcher : ExpertDispatcher}
    (run : (sessionSystem sha256 arith).RunWith WaitGuard new events dispatcher) :
    dispatcher.NoDeadlock := by
  have held : dispatcher.TicketsFresh ∧ Waiters sha256 dispatcher ∧
      dispatcher.ReadersExcluded ∧ Acyclic dispatcher.WaitsFor := by
    apply run.invariant (I := fun state => state.TicketsFresh ∧ Waiters sha256 state ∧
      state.ReadersExcluded ∧ Acyclic state.WaitsFor)
    · refine ⟨ticketsFresh_new, waiters_new, readersExcluded_new, acyclic_of_empty ?_⟩
      rintro reader host ⟨ticket, index, call, member, waiter, key, stands, -⟩
      cases stands.called
    · rintro state event ⟨fresh, waiters, excluded, acyclic⟩ ⟨enabled, reads⟩ guarded
      have step : Step sha256 arith state event ((sessionSystem sha256 arith).next state event) :=
        step_next enabled
      exact ⟨fresh.next step, waiters.next step, excluded.next step reads,
        acyclic_next acyclic waiters excluded step guarded⟩
  rcases held with ⟨fresh, -, -, acyclic⟩
  constructor
  · exact acyclic
  · intro reader host _
    exact acyclic.exists_idle (finite_waiting fresh) host

/-! ## Two primaries that host experts -/

/-- Two miners, each large enough to host an expert. -/
def peerRegistry : MinerRegistry :=
  (((MinerRegistry.new.register "p" 0).register "q" 1).markExpertCapable "p"
    24000).markExpertCapable "q" 16000

/-- A fan-out over one expert that a primary's result starts. -/
def peerFanOut (primary : Wallet) : FanOut :=
  { soleFanOut 0 [7] with
    requestId := primary
    preExcluded := [primary] }

/-- A third primary, which hosts no experts. -/
def chainRegistry : MinerRegistry :=
  peerRegistry.register "s" 2

/-- It waits for a host that waits for the other one. -/
def chainEvents : List Stimulus :=
  [⟨chainRegistry, .dispatchAndJoin "s" (peerFanOut "s")⟩,
    ⟨chainRegistry, .dispatchAndJoin "p" (peerFanOut "p")⟩,
    ⟨chainRegistry, .dispatchOne 0 0 true⟩, ⟨chainRegistry, .dispatchOne 1 0 true⟩]

theorem idle_new (reader : Wallet) : new.Idle reader := by
  intro ticket call called
  cases called

/-- Whose fan-out it is not does not wait. -/
theorem not_leads_of_forall_reader {host reader : Wallet}
    (others : ∀ ticket call, dispatcher.calls ticket = some call → call.reader ≠ host) :
    ¬ TransGen dispatcher.WaitsFor host reader := by
  intro chain
  rcases TransGen.head'_iff.mp chain with ⟨next, ⟨ticket, index, call, member, waiter, key,
    stands, isReader, -⟩, -⟩
  exact others ticket call stands.called isReader

/-- An instance of `readers_never_deadlock`: one waits for one that waits. -/
theorem readers_never_deadlock_peer :
    ∃ dispatcher, (sessionSystem soleDigest soleArithmetic).Run new chainEvents dispatcher ∧
      dispatcher.WaitsFor "s" "p" ∧ dispatcher.WaitsFor "p" "q" ∧ dispatcher.NoDeadlock := by
  have apart : (next soleDigest soleArithmetic new
      ⟨chainRegistry, .dispatchAndJoin "s" (peerFanOut "s")⟩).Idle "p" := by
    rintro (_ | ticket) call called
    · cases called
      decide
    · cases called
  have admitted :
      (sessionSystem soleDigest soleArithmetic).Admits WaitGuard new chainEvents := by
    refine ⟨⟨⟨trivial, rfl, idle_new "s"⟩, trivial⟩, ⟨⟨trivial, rfl, apart⟩, trivial⟩,
      ⟨⟨⟨_, _, ⟨rfl, rfl⟩, rfl⟩, trivial⟩, ?_⟩, ⟨⟨⟨_, _, ⟨rfl, rfl⟩, rfl⟩, trivial⟩, ?_⟩, trivial⟩
    · rintro call member ⟨called, listed⟩ chain
      rcases TransGen.head'_iff.mp chain with ⟨next, ⟨ticket, index, other, waiting, waiter, key,
        stands, isReader, -, waits, pending⟩, -⟩
      cases pending
    · rintro call member ⟨called, listed⟩
      cases called
      cases listed
      apply not_leads_of_forall_reader
      rintro (_ | _ | ticket) other found
      · cases found
        decide
      · cases found
        decide
      · cases found
  have above : WaitsFor ((sessionSystem soleDigest soleArithmetic).execute new chainEvents)
      "s" "p" :=
    ⟨0, 0, _, _, 0, (peerFanOut "s").key ⟨7, 0x3f800000, [1], [0]⟩, ⟨rfl, rfl⟩, rfl, rfl, rfl, rfl⟩
  have below : WaitsFor ((sessionSystem soleDigest soleArithmetic).execute new chainEvents)
      "p" "q" :=
    ⟨1, 0, _, _, 1, (peerFanOut "p").key ⟨7, 0x3f800000, [1], [0]⟩, ⟨rfl, rfl⟩, rfl, rfl, rfl, rfl⟩
  exact ⟨_, admitted.runWith.run, above, below, readers_never_deadlock admitted.runWith⟩

/-- The fan-outs of both primaries, each on the other one. -/
def crossedEvents : List Stimulus :=
  [⟨peerRegistry, .dispatchAndJoin "p" (peerFanOut "p")⟩,
    ⟨peerRegistry, .dispatchAndJoin "q" (peerFanOut "q")⟩,
    ⟨peerRegistry, .dispatchOne 0 0 true⟩, ⟨peerRegistry, .dispatchOne 1 0 true⟩]

/-- Each reader is blocked in a fan-out that waits for a reply of the other. -/
theorem primaries_deadlock :
    ∃ events dispatcher, (sessionSystem soleDigest soleArithmetic).Run new events dispatcher ∧
      ¬ Acyclic dispatcher.WaitsFor := by
  have apart : (next soleDigest soleArithmetic new
      ⟨peerRegistry, .dispatchAndJoin "p" (peerFanOut "p")⟩).Idle "q" := by
    rintro (_ | ticket) call called
    · cases called
      decide
    · cases called
  have admitted :
      (sessionSystem soleDigest soleArithmetic).Admits (fun _ _ => True) new crossedEvents :=
    ⟨⟨⟨trivial, rfl, idle_new "p"⟩, trivial⟩, ⟨⟨trivial, rfl, apart⟩, trivial⟩,
      ⟨⟨⟨_, _, ⟨rfl, rfl⟩, rfl⟩, trivial⟩, trivial⟩,
      ⟨⟨⟨_, _, ⟨rfl, rfl⟩, rfl⟩, trivial⟩, trivial⟩, trivial⟩
  refine ⟨crossedEvents, _, admitted.runWith, fun acyclic => acyclic "p" ?_⟩
  have forth : WaitsFor ((sessionSystem soleDigest soleArithmetic).execute new crossedEvents)
      "p" "q" :=
    ⟨0, 0, _, _, 0, (peerFanOut "p").key ⟨7, 0x3f800000, [1], [0]⟩, ⟨rfl, rfl⟩, rfl, rfl, rfl, rfl⟩
  have back : WaitsFor ((sessionSystem soleDigest soleArithmetic).execute new crossedEvents)
      "q" "p" :=
    ⟨1, 0, _, _, 1, (peerFanOut "q").key ⟨7, 0x3f800000, [1], [0]⟩, ⟨rfl, rfl⟩, rfl, rfl, rfl, rfl⟩
  exact (TransGen.single forth).tail back

end ExpertDispatcher

end StratumBridge.Expert
