import StratumBridge.Expert.Groups

/-!
# The memory floor of an expert's hosts

A host is selected when the group is planned, and again for every retry.  The
plan asks for the memory of the expert; a retry asks for none, since the floor
"was already satisfied once", although it is another host that has to satisfy it.
While a host with enough memory is left whenever any host is left, the best host
is large enough, and every selection keeps the floor.
-/

namespace StratumBridge.Expert

open Data Wire Transition
open Shard (SelectedExpert)

/-- A host selected for one member of a call. -/
structure Pick where
  ticket : Ticket
  index : Nat
  request : FanOut
  expertId : Nat
  wallet : Wallet

/-- What `dispatch_and_join` promises about a selection: the host is connected,
not banned, not excluded by the caller, and has the memory of the expert. -/
def Pick.Suits (pick : Pick) (registry : MinerRegistry) : Prop :=
  registry.HostEligible (pick.request.minVramMbFor pick.expertId) pick.request.preExcluded
    pick.wallet

/-- A line is sent to the host of a selection. -/
structure Pick.Sent (pick : Pick) (dispatch : Dispatch) : Prop where
  ticket : dispatch.ticket = pick.ticket
  index : dispatch.index = pick.index
  expert : dispatch.assign.expertId = pick.expertId
  wallet : dispatch.wallet = pick.wallet

namespace Member

variable (registry : MinerRegistry) (error : AttemptError) (member : Member)

/-- A retry stays with the host it gives up, or has picked another. -/
theorem retry_wallet :
    (member.retry registry error).wallet = member.wallet ∨
      member.attempt < maxRetriesPerExpert ∧
        member.retryHost registry = some (member.retry registry error).wallet := by
  unfold retry
  split
  · exact .inl rfl
  · split
    · exact .inl rfl
    · exact .inr ⟨by omega, ‹_›⟩

/-- A retry forgets none of the wallets used by the group. -/
theorem subset_groupUsedWallets_retry :
    member.groupUsedWallets ⊆ (member.retry registry error).groupUsedWallets := by
  unfold retry
  split
  · exact List.Subset.refl _
  · split
    · exact List.Subset.refl _
    · exact List.subset_append_left _ _

end Member

namespace ExpertDispatcher

variable {sha256 : Digest} {arith : Arithmetic} {dispatcher after : ExpertDispatcher}
  {stimulus : Stimulus} {events : List Stimulus} {ticket : Ticket} {index : Nat} {call : Call}
  {member : Member}

/-- An event selects a host: for a member of the group it plans, or for the retry
of a member whose attempt it finds failed. -/
inductive Picks (dispatcher : ExpertDispatcher) (stimulus : Stimulus) : Pick → Prop
  | planned {reader request planned usedWallets index choice}
      (event : stimulus.event = .dispatchAndJoin reader request)
      (selected : plan stimulus.registry request.minVramMbFor request.experts
        request.preExcluded = .ok (planned, usedWallets))
      (listed : planned[index]? = some choice) :
      Picks dispatcher stimulus
        ⟨dispatcher.nextTicket, index, request, choice.1.expertId, choice.2⟩
  | retried {ticket index call member wallet}
      (stands : dispatcher.Stands ticket index call member)
      (fails : Fails dispatcher stimulus.registry ticket index member stimulus.event)
      (left : member.attempt < maxRetriesPerExpert)
      (picked : member.retryHost stimulus.registry = some wallet) :
      Picks dispatcher stimulus ⟨ticket, index, call.request, member.selected.expertId, wallet⟩

/-- A selection made along a run, with the registry it was made from. -/
def PickedAlong (sha256 : Digest) (arith : Arithmetic) (events : List Stimulus)
    (registry : MinerRegistry) (pick : Pick) : Prop :=
  ∃ found event, (system sha256 arith).Taken new events found ⟨registry, event⟩ ∧
    found.Picks ⟨registry, event⟩ pick

/-- Every selection of a run keeps the floor, and every line goes to a selected
host. -/
structure KeepsFloor (sha256 : Digest) (arith : Arithmetic) (events : List Stimulus)
    (dispatcher : ExpertDispatcher) : Prop where
  picked : ∀ registry pick, PickedAlong sha256 arith events registry pick → pick.Suits registry
  sent : ∀ dispatch, .assigned dispatch ∈ dispatcher.log →
    ∃ registry pick, PickedAlong sha256 arith events registry pick ∧ pick.Sent dispatch

/-- The condition on a step: when a member is retried and some host is left for
it, one with the memory of its expert is. -/
def FloorGuard (dispatcher : ExpertDispatcher) (stimulus : Stimulus) : Prop :=
  ∀ ticket index call member, dispatcher.Stands ticket index call member →
    Fails dispatcher stimulus.registry ticket index member stimulus.event →
    member.attempt < maxRetriesPerExpert →
    (∃ wallet, stimulus.registry.HostEligible 0 member.exclude wallet) →
    ∃ wallet, stimulus.registry.HostEligible
      (call.request.minVramMbFor member.selected.expertId) member.exclude wallet

/-! ## Selections -/

theorem pickedAlong_snoc_iff {registry : MinerRegistry} {pick : Pick}
    (run : (system sha256 arith).Run new events dispatcher) :
    PickedAlong sha256 arith (events ++ [stimulus]) registry pick ↔
      PickedAlong sha256 arith events registry pick ∨
        stimulus.registry = registry ∧ dispatcher.Picks stimulus pick := by
  constructor
  · rintro ⟨found, event, taken, picks⟩
    rcases System.taken_snoc_iff.mp taken with before | ⟨rfl, again⟩
    · exact .inl ⟨found, event, before, picks⟩
    · cases run.finish_eq.trans again.finish_eq.symm
      exact .inr ⟨rfl, picks⟩
  · rintro (⟨found, event, taken, picks⟩ | ⟨rfl, picks⟩)
    · exact ⟨found, event, System.taken_snoc_iff.mpr (.inl taken), picks⟩
    · exact ⟨dispatcher, stimulus.event, System.taken_snoc_iff.mpr (.inr ⟨rfl, run⟩), picks⟩

/-- What is known of the members of the calls: their hosts were selected, and
they pass over the wallets that the caller excluded. -/
structure Selected (sha256 : Digest) (arith : Arithmetic) (events : List Stimulus)
    (call : Call) (ticket : Ticket) (index : Nat) (member : Member) : Prop where
  picked : ∃ registry, PickedAlong sha256 arith events registry
    ⟨ticket, index, call.request, member.selected.expertId, member.wallet⟩
  excludes : call.request.preExcluded ⊆ member.groupUsedWallets

/-- Every member under way has a selected host. -/
def AllSelected (sha256 : Digest) (arith : Arithmetic) (events : List Stimulus)
    (dispatcher : ExpertDispatcher) : Prop :=
  ∀ ticket index call member, dispatcher.Stands ticket index call member →
    Selected sha256 arith events call ticket index member

/-- A member keeps what is known of it when an event leaves its host alone. -/
theorem Selected.extend {before : Call} {old : Member}
    (selected : Selected sha256 arith events before ticket index old)
    (run : (system sha256 arith).Run new events dispatcher) (same : SameCall before call)
    (sameExpert : member.selected = old.selected) (sameWallet : member.wallet = old.wallet)
    (keeps : old.groupUsedWallets ⊆ member.groupUsedWallets) :
    Selected sha256 arith (events ++ [stimulus]) call ticket index member where
  picked := by
    rcases selected.picked with ⟨registry, along⟩
    refine ⟨registry, (pickedAlong_snoc_iff run).mpr (.inl ?_)⟩
    rwa [same.request, sameExpert, sameWallet]
  excludes := by
    rw [same.request]
    exact List.Subset.trans selected.excludes keeps

theorem AllSelected.next (selected : AllSelected sha256 arith events dispatcher)
    (run : (system sha256 arith).Run new events dispatcher)
    (step : Step sha256 arith dispatcher stimulus after) :
    AllSelected sha256 arith (events ++ [stimulus]) after := by
  intro ticket index call member now
  cases step.moved now with
  | kept stands same elsewhere silent =>
      exact (selected _ _ _ _ stands).extend run same rfl rfl (List.Subset.refl _)
  | sent stands same ready connected event now logged =>
      subst now
      exact (selected _ _ _ _ stands).extend run same rfl rfl (List.Subset.refl _)
  | returned stands same event waiting reply now logged =>
      subst now
      exact (selected _ _ _ _ stands).extend run same rfl rfl (List.Subset.refl _)
  | @retried before old error stands same fails now logged =>
      subst now
      have known := selected _ _ _ _ stands
      have keeps := Member.subset_groupUsedWallets_retry stimulus.registry error old
      rcases old.retry_wallet stimulus.registry error with given | ⟨left, picked⟩
      · exact known.extend run same (Member.retry_selected ..) given keeps
      · constructor
        · refine ⟨stimulus.registry, (pickedAlong_snoc_iff run).mpr (.inr ⟨rfl, ?_⟩)⟩
          rw [same.request, Member.retry_selected]
          exact .retried stands fails left picked
        · rw [same.request]
          exact List.Subset.trans known.excludes keeps
  | @begun planned usedWallets selection fresh event chosen listed now =>
      subst now fresh
      constructor
      · refine ⟨stimulus.registry, (pickedAlong_snoc_iff run).mpr (.inr ⟨rfl, ?_⟩)⟩
        exact .planned event chosen listed
      · obtain ⟨-, -, used, -⟩ := plan_eq_ok chosen
        change call.request.preExcluded ⊆ usedWallets
        rw [used]
        exact List.subset_append_left _ _

theorem allSelected_of_run (run : (system sha256 arith).Run new events dispatcher) :
    AllSelected sha256 arith events dispatcher := by
  induction run with
  | nil =>
      intro ticket index call member stands
      cases stands.called
  | snoc run enabled _ ih =>
      have step : Step sha256 arith _ _ _ := step_next enabled
      exact ih.next run step

/-! ## Floors -/

/-- With a host large enough among those left, the selected one is. -/
theorem suits_of_picks (selected : AllSelected sha256 arith events dispatcher)
    (guarded : dispatcher.FloorGuard stimulus) {pick : Pick}
    (picks : dispatcher.Picks stimulus pick) : pick.Suits stimulus.registry := by
  cases picks with
  | planned event chosen listed =>
      exact (plan_eq_ok chosen).2.2.2 _ (List.mem_of_getElem? listed)
  | @retried ticket index call member wallet stands fails left picked =>
      have host := MinerRegistry.hostEligible_of_pickExpertHost picked
      obtain ⟨other, large⟩ := guarded _ _ _ _ stands fails left ⟨wallet, host⟩
      rcases large.vram with ⟨vramMb, announced, enough⟩
      have anyHost : stimulus.registry.HostEligible 0 member.exclude other :=
        { large with vram := ⟨vramMb, announced, Nat.zero_le _⟩ }
      rcases MinerRegistry.le_vram_of_pickExpertHost picked anyHost announced with
        ⟨most, sized, atLeast⟩
      have excludes : call.request.preExcluded ⊆ member.exclude :=
        List.Subset.trans (selected _ _ _ _ stands).excludes (List.subset_append_left _ _)
      constructor
      · exact host.eligible
      · exact fun excluded => host.notExcluded (excludes excluded)
      · exact ⟨most, sized, enough.trans atLeast⟩

/-- In every run that leaves a large enough host whenever it leaves any, every
line for an expert goes to a host that kept the floor when it was selected. -/
theorem keepsFloor_of_run {sha256 : Digest} {arith : Arithmetic} {events : List Stimulus}
    {dispatcher : ExpertDispatcher}
    (run : (system sha256 arith).RunWith FloorGuard new events dispatcher) :
    KeepsFloor sha256 arith events dispatcher := by
  induction run with
  | nil =>
      constructor
      · rintro registry pick ⟨found, event, ⟨earlier, later, split, -⟩, -⟩
        simp at split
      · intro dispatch mem
        cases mem
  | @snoc events dispatcher stimulus run enabled guarded ih =>
      have selected := allSelected_of_run run.run
      constructor
      · intro registry pick along
        rcases (pickedAlong_snoc_iff run.run).mp along with before | ⟨rfl, picks⟩
        · exact ih.picked registry pick before
        · exact suits_of_picks selected guarded picks
      · intro dispatch mem
        have step : Step sha256 arith dispatcher stimulus
            ((system sha256 arith).next dispatcher stimulus) := step_next enabled
        rcases step.mem_log mem with old | new
        · obtain ⟨registry, pick, along, sent⟩ := ih.sent dispatch old
          exact ⟨registry, pick, (pickedAlong_snoc_iff run.run).mpr (.inl along), sent⟩
        · cases new with
          | refused _ _ _ _ _ isNew => rcases isNew with isNew | isNew <;> cases isNew
          | assigned sends advanced logged =>
              obtain ⟨registry, along⟩ := (selected _ _ _ _ sends.stands).picked
              refine ⟨registry, _, (pickedAlong_snoc_iff run.run).mpr (.inl along), ?_⟩
              exact ⟨rfl, rfl, congrArg OpoiExpertAssign.expertId sends.assign, sends.wallet⟩

/-- The first host cannot be reached, and the one left has the memory. -/
theorem keepsFloor_retried :
    KeepsFloor soleDigest soleArithmetic retriedEvents
      ((system soleDigest soleArithmetic).execute new retriedEvents) := by
  have admitted : (system soleDigest soleArithmetic).Admits FloorGuard new retriedEvents := by
    refine ⟨⟨trivial, ?_⟩, ⟨⟨_, _, ⟨rfl, rfl⟩, rfl⟩, ?_⟩, ⟨⟨_, _, ⟨rfl, rfl⟩, rfl⟩, ?_⟩,
      ⟨⟨_, _, ⟨rfl, rfl⟩, rfl⟩, ?_⟩, trivial⟩
    · intro ticket index call member stands fails
      cases fails
    · rintro ticket index call member ⟨called, listed⟩ fails left others
      cases fails
      cases called
      cases listed
      have large : trioRegistry.pickExpertHost 1000 ["p", "a", "b", "a"] = some "c" := by decide
      exact ⟨"c", MinerRegistry.hostEligible_of_pickExpertHost large⟩
    · rintro ticket index call member ⟨called, listed⟩ fails
      refine absurd fails (not_fails_of_reached rfl ?_)
      cases fails
      cases called
      cases listed
      decide
    · rintro ticket index call member ⟨called, listed⟩ fails
      refine absurd fails (not_fails_of_reached rfl ?_)
      cases fails
      cases called
      cases listed
      decide
  exact keepsFloor_of_run admitted.runWith

/-- A fan-out whose expert only the first host can load. -/
def largeFanOut : FanOut :=
  { soleFanOut 0 [1] with minVramMbFor := fun _ => 20000 }

/-- The first host cannot be reached, and the expert is sent to the second. -/
def undersizedEvents : List Stimulus :=
  [trio (.dispatchAndJoin "p" largeFanOut), trio (.dispatchOne 0 0 false),
    trio (.dispatchOne 0 0 true)]

/-- A retry goes to a host that cannot load the expert. -/
theorem retry_undersized :
    ∃ events dispatcher, (system soleDigest soleArithmetic).Run new events dispatcher ∧
      ∃ dispatch, .assigned dispatch ∈ dispatcher.log ∧
        ∀ registry pick, PickedAlong soleDigest soleArithmetic events registry pick →
          pick.Sent dispatch → ¬ pick.Suits registry := by
  have admitted :
      (system soleDigest soleArithmetic).Admits (fun _ _ => True) new undersizedEvents :=
    ⟨⟨trivial, trivial⟩, ⟨⟨_, _, ⟨rfl, rfl⟩, rfl⟩, trivial⟩,
      ⟨⟨_, _, ⟨rfl, rfl⟩, rfl⟩, trivial⟩, trivial⟩
  refine ⟨undersizedEvents, _, admitted.runWith, _, List.mem_of_getElem? (i := 1) rfl, ?_⟩
  rintro registry pick ⟨found, event, ⟨earlier, later, split, run⟩, picks⟩ sent suits
  have ticket : pick.ticket = 0 := sent.ticket.symm
  have index : pick.index = 0 := sent.index.symm
  have wallet : pick.wallet = "b" := sent.wallet.symm
  cases run.finish_eq
  rcases earlier with _ | ⟨first, _ | ⟨second, _ | ⟨third, rest⟩⟩⟩
  · cases split
    cases picks with
    | planned event chosen listed =>
        cases event
        cases chosen
        cases index
        cases listed
        exact absurd wallet (by decide)
    | retried stands fails left picked => cases fails
  · cases split
    cases picks with
    | planned event chosen listed => cases event
    | retried stands fails left picked =>
        cases ticket
        cases wallet
        cases stands.called
        rcases suits.vram with ⟨vramMb, announced, enough⟩
        cases announced
        have above : 20000 ≤ 16000 := enough
        omega
  · cases split
    cases picks with
    | planned event chosen listed => cases event
    | retried stands fails left picked =>
        cases ticket
        cases index
        refine absurd fails (not_fails_of_reached rfl ?_)
        cases stands.called
        cases stands.listed
        decide
  · simp [undersizedEvents] at split

end ExpertDispatcher

end StratumBridge.Expert
