import StratumBridge.Stake.Renewal

/-!
# How renewals are paced

Every tick renews the stakes that are old enough.  It decides by the chain alone, so
that while a renewal is in flight every further tick sends another.  As long as no
tick finds a stake due of which a recent renewal is in flight, the renewals of a stake
that stays active are as many blocks apart as they should be.
-/

namespace StratumBridge.Stake

open Data Transition
open Lifecycle (StakePool)

/-- Both renewals were sent for one stake, which stayed active in between. -/
def StaysActive (first second : Renewal) : Prop :=
  first.address = second.address ∧ ∃ before after, first.stake = some before ∧
    second.stake = some after ∧ before.changes = after.changes ∧ after.status = .active

/-- The renewals of an active stake are far enough apart, and every tick that has
ended looked at every address and renewed each stake that it found old enough. -/
structure Paces (pool : StakePool) (stakeRenewBlocks : Nat) (renewals : Renewals) : Prop where
  apart : renewals.sent.Pairwise fun first second =>
    StaysActive first second → first.sentAt + stakeRenewBlocks ≤ second.sentAt
  renewed : ∀ record ∈ renewals.ticks, record.visits.map Visit.address = pool.addresses ∧
    ∀ visit ∈ record.visits, ∀ stake, visit.found = some stake →
      stakeRenewBlocks ≤ stake.age record.height → visit.renewal.isSome

/-- The condition on a step: no tick finds an active stake due of which a renewal that
was sent fewer blocks before is in flight. -/
def NoneInFlight (stakeRenewBlocks : Nat) (renewals : Renewals) : Renewals.Event → Prop
  | .stakeRead true =>
      ∀ height visits address rest stake,
        renewals.tick = .visiting height visits (address :: rest) →
        renewals.chain.stakes address = some stake → stake.status = .active →
        due stakeRenewBlocks height stake.view →
        ∀ sentAt ∈ renewals.chain.inFlight address,
          sentAt + stakeRenewBlocks ≤ renewals.chain.height
  | _ => True

/-! ## The chain goes on -/

/-- The stake is the one it was: since a height, what was in flight still is or has
renewed it. -/
structure Continues (before after : Chain) (address : String) (old new : ChainStake) : Prop where
  changes : old.changes ≤ new.changes
  status : old.changes = new.changes → old.status = new.status
  inFlight : old.changes = new.changes → ∀ sentAt ∈ before.inFlight address,
    sentAt ≤ before.height → sentAt ∈ after.inFlight address ∨
      ∃ last, new.lastRenewalHeight = some last ∧ sentAt < last
  renewed : old.changes = new.changes → ∀ last, old.lastRenewalHeight = some last →
    ∀ sentAt ≤ before.height, sentAt < last →
      ∃ later, new.lastRenewalHeight = some later ∧ sentAt < later

/-- The chain grows, and its stakes stay. -/
structure Chain.Grows (before after : Chain) : Prop where
  height : before.height ≤ after.height
  stakes : ∀ address old, before.stakes address = some old →
    ∃ new, after.stakes address = some new ∧ Continues before after address old new

namespace Chain

variable {chain : Chain}

theorem grows_block {left : String → List Nat} {elsewhere : List String} :
    chain.Grows (chain.block left elsewhere) where
  height := Nat.le_succ _
  stakes := by
    intro address old found
    refine ⟨_, congrArg (Option.map _) found, ?_⟩
    split
    · constructor
      · exact Nat.le_refl _
      · exact fun _ => rfl
      · intro _ sentAt _ known
        exact .inr ⟨_, rfl, Nat.lt_succ_of_le known⟩
      · intro _ last _ sentAt known _
        exact ⟨_, rfl, Nat.lt_succ_of_le known⟩
    · rename_i untouched
      have same : left address = chain.inFlight address := by
        by_contra moved
        exact untouched (.inl moved)
      constructor
      · exact Nat.le_refl _
      · exact fun _ => rfl
      · intro _ sentAt mem _
        refine .inl ?_
        change sentAt ∈ left address
        rw [same]
        exact mem
      · intro _ last renewed sentAt _ less
        exact ⟨last, renewed, less⟩

theorem grows_change {address : String} {status : StakeStatus} :
    chain.Grows (chain.change address status) where
  height := Nat.le_refl _
  stakes := by
    intro other old found
    refine ⟨_, congrArg (Option.map _) found, ?_⟩
    split
    · have changed : old.changes ≠ old.changes + 1 := Nat.ne_of_lt (Nat.lt_succ_self _)
      exact ⟨Nat.le_succ _, fun same => absurd same changed, fun same => absurd same changed,
        fun same => absurd same changed⟩
    · exact ⟨Nat.le_refl _, fun _ => rfl, fun _ sentAt mem _ => .inl mem,
        fun _ last same sentAt _ less => ⟨last, same, less⟩⟩

theorem grows_stake {address : String} : chain.Grows (chain.stake address) where
  height := Nat.le_refl _
  stakes := by
    intro other old found
    by_cases same : other = address
    · subst same
      refine ⟨_, PartialMap.insert_self .., ?_⟩
      have changed : old.changes ≠ old.changes + 1 := Nat.ne_of_lt (Nat.lt_succ_self _)
      rw [found]
      exact ⟨Nat.le_succ _, fun same => absurd same changed, fun same => absurd same changed,
        fun same => absurd same changed⟩
    · refine ⟨old, (PartialMap.insert_of_ne _ _ same).trans found, ?_⟩
      exact ⟨Nat.le_refl _, fun _ => rfl, fun _ sentAt mem _ => .inl mem,
        fun _ last same sentAt _ less => ⟨last, same, less⟩⟩

theorem grows_renew {address : String} : chain.Grows (chain.renew address) where
  height := Nat.le_refl _
  stakes := by
    intro other old found
    refine ⟨old, found, Nat.le_refl _, fun _ => rfl, ?_,
      fun _ last same sentAt _ less => ⟨last, same, less⟩⟩
    intro _ sentAt mem _
    refine .inl ?_
    rw [renew]
    dsimp only
    split
    · exact List.mem_append_left _ mem
    · exact mem

end Chain

/-! ## What is kept of the renewals -/

/-- The stake that a renewal was sent for stands as it did, unless its status changed,
and the renewal is in flight or was included. -/
def Known (chain : Chain) (renewal : Renewal) : Prop :=
  ∃ old new, renewal.stake = some old ∧ chain.stakes renewal.address = some new ∧
    old.changes ≤ new.changes ∧ (old.changes = new.changes → old.status = new.status ∧
      (renewal.sentAt ∈ chain.inFlight renewal.address ∨
        ∃ last, new.lastRenewalHeight = some last ∧ renewal.sentAt < last))

theorem Known.grows {before after : Chain} {renewal : Renewal} (known : Known before renewal)
    (past : renewal.sentAt ≤ before.height) (grows : before.Grows after) :
    Known after renewal := by
  rcases known with ⟨old, middle, sentFor, found, ordered, same⟩
  obtain ⟨new, foundNow, continues⟩ := grows.stakes _ _ found
  refine ⟨old, new, sentFor, foundNow, Nat.le_trans ordered continues.changes, ?_⟩
  intro unchanged
  have first : old.changes = middle.changes :=
    Nat.le_antisymm ordered (unchanged ▸ continues.changes)
  have second : middle.changes = new.changes := first.symm.trans unchanged
  refine ⟨(same first).1.trans (continues.status second), ?_⟩
  rcases (same first).2 with flying | ⟨last, renewedAt, less⟩
  · exact continues.inFlight second _ flying past
  · exact .inr (continues.renewed second _ renewedAt _ past less)

/-- A tick decided to renew the stake it found, and the renewals sent for that stake
are old enough. -/
structure Decided (stakeRenewBlocks : Nat) (chain : Chain) (sent : List Renewal)
    (address : String) (found : ChainStake) : Prop where
  stake : ∃ current, chain.stakes address = some current ∧ found.changes ≤ current.changes ∧
    (found.changes = current.changes → found.status = current.status)
  paced : ∀ renewal ∈ sent, renewal.address = address → ∀ stake, renewal.stake = some stake →
    stake.changes ≤ found.changes ∧ (stake.changes = found.changes → found.status = .active →
      renewal.sentAt + stakeRenewBlocks ≤ chain.height)

theorem Decided.grows {stakeRenewBlocks : Nat} {before after : Chain} {sent : List Renewal}
    {address : String} {found : ChainStake}
    (decided : Decided stakeRenewBlocks before sent address found)
    (grows : before.Grows after) : Decided stakeRenewBlocks after sent address found where
  stake := by
    rcases decided.stake with ⟨middle, stands, ordered, same⟩
    obtain ⟨current, standsNow, continues⟩ := grows.stakes _ _ stands
    refine ⟨current, standsNow, Nat.le_trans ordered continues.changes, ?_⟩
    intro unchanged
    have first : found.changes = middle.changes :=
      Nat.le_antisymm ordered (unchanged ▸ continues.changes)
    exact (same first).trans (continues.status (first.symm.trans unchanged))
  paced := by
    intro renewal mem here stake sentFor
    have before := decided.paced renewal mem here stake sentFor
    exact ⟨before.1, fun same active => Nat.le_trans (before.2 same active) grows.height⟩

/-- A tick that has still to go through `rest` did its work so far. -/
structure Underway (pool : StakePool) (stakeRenewBlocks : Nat) (chain : Chain) (height : Nat)
    (visits : List Visit) (rest : List String) : Prop where
  past : height ≤ chain.height
  addresses : visits.map Visit.address ++ rest = pool.addresses
  renewed : ∀ visit ∈ visits, ∀ stake, visit.found = some stake →
    stakeRenewBlocks ≤ stake.age height → visit.renewal.isSome

theorem Underway.grows {pool : StakePool} {stakeRenewBlocks : Nat} {before after : Chain}
    {height : Nat} {visits : List Visit} {rest : List String}
    (underway : Underway pool stakeRenewBlocks before height visits rest)
    (grows : before.Grows after) : Underway pool stakeRenewBlocks after height visits rest :=
  ⟨Nat.le_trans underway.past grows.height, underway.addresses, underway.renewed⟩

/-- One more address. -/
theorem Underway.visit {pool : StakePool} {stakeRenewBlocks : Nat} {chain : Chain} {height : Nat}
    {visits : List Visit} {address : String} {rest : List String}
    (underway : Underway pool stakeRenewBlocks chain height visits (address :: rest))
    (found : Option ChainStake) (renewal : Option Bool)
    (renews : ∀ stake, found = some stake → stakeRenewBlocks ≤ stake.age height →
      renewal.isSome) :
    Underway pool stakeRenewBlocks chain height (visits ++ [⟨address, found, renewal⟩]) rest where
  past := underway.past
  addresses := by
    rw [List.map_append, List.append_assoc]
    exact underway.addresses
  renewed := by
    intro visit mem
    rcases List.mem_append.mp mem with earlier | last
    · exact underway.renewed visit earlier
    · rw [List.mem_singleton.mp last]
      exact renews

/-- A stake that is old enough is due. -/
theorem due_of_age {stakeRenewBlocks height : Nat} {stake : ChainStake}
    (old : stakeRenewBlocks ≤ stake.age height) : due stakeRenewBlocks height stake.view := by
  have older : stakeRenewBlocks ≤ height - stake.lastRenewalHeight.getD 0 := by
    refine Nat.le_trans old (Nat.sub_le_sub_left ?_ height)
    cases stake.lastRenewalHeight with
    | none => exact Nat.zero_le _
    | some last => exact Nat.le_refl _
  simp [due, ChainStake.view, older]

namespace Renewals

variable {pool : StakePool} {stakeRenewBlocks : Nat} {renewals : Renewals}

/-- What holds between two steps, but for the tick. -/
structure Sound (pool : StakePool) (stakeRenewBlocks : Nat) (renewals : Renewals) : Prop where
  past : ∀ renewal ∈ renewals.sent, renewal.sentAt ≤ renewals.chain.height
  known : ∀ renewal ∈ renewals.sent, Known renewals.chain renewal
  paces : Paces pool stakeRenewBlocks renewals

/-- What holds of the tick. -/
def TickKept (pool : StakePool) (stakeRenewBlocks : Nat) (renewals : Renewals) : Prop :=
  match renewals.tick with
  | .idle => True
  | .visiting height visits rest =>
      Underway pool stakeRenewBlocks renewals.chain height visits rest
  | .renewing height visits address found rest =>
      Underway pool stakeRenewBlocks renewals.chain height visits (address :: rest) ∧
        Decided stakeRenewBlocks renewals.chain renewals.sent address found

/-- What every step keeps. -/
structure Kept (pool : StakePool) (stakeRenewBlocks : Nat) (renewals : Renewals) : Prop where
  sound : Sound pool stakeRenewBlocks renewals
  tick : TickKept pool stakeRenewBlocks renewals

/-- The next address, or the end of the tick. -/
theorem Sound.goOn (sound : Sound pool stakeRenewBlocks renewals) {height : Nat}
    {visits : List Visit} {rest : List String}
    (underway : Underway pool stakeRenewBlocks renewals.chain height visits rest) :
    Kept pool stakeRenewBlocks (renewals.goOn height visits rest) := by
  cases rest with
  | nil =>
      refine ⟨⟨sound.past, sound.known, sound.paces.apart, ?_⟩, trivial⟩
      intro record mem
      rcases List.mem_append.mp mem with earlier | last
      · exact sound.paces.renewed record earlier
      · rw [List.mem_singleton.mp last]
        have all := underway.addresses
        rw [List.append_nil] at all
        exact ⟨all, underway.renewed⟩
  | cons address rest => exact ⟨⟨sound.past, sound.known, sound.paces.apart, sound.paces.renewed⟩,
      underway⟩

/-- The chain goes on by itself. -/
theorem Kept.grows {chain : Chain} (kept : Kept pool stakeRenewBlocks renewals)
    (grows : renewals.chain.Grows chain) :
    Kept pool stakeRenewBlocks { renewals with chain := chain } := by
  constructor
  · constructor
    · intro renewal mem
      exact Nat.le_trans (kept.sound.past renewal mem) grows.height
    · intro renewal mem
      exact (kept.sound.known renewal mem).grows (kept.sound.past renewal mem) grows
    · exact ⟨kept.sound.paces.apart, kept.sound.paces.renewed⟩
  · have before := kept.tick
    unfold TickKept at before ⊢
    dsimp only
    cases at_tick : renewals.tick with
    | idle => trivial
    | visiting height visits rest =>
        rw [at_tick] at before
        exact before.grows grows
    | renewing height visits address found rest =>
        rw [at_tick] at before
        exact ⟨before.1.grows grows, before.2.grows grows⟩

/-- The height was read. -/
theorem Kept.resumeHeight (kept : Kept pool stakeRenewBlocks renewals) (answered : Bool) :
    Kept pool stakeRenewBlocks (renewals.resumeHeight pool answered) := by
  unfold Renewals.resumeHeight
  cases answered with
  | false => exact kept
  | true => exact kept.sound.goOn ⟨Nat.le_refl _, rfl, fun _ mem => absurd mem List.not_mem_nil⟩

/-- An active stake was found due, and no recent renewal of it was in flight: those
that were included before are old enough as well. -/
theorem Sound.decided (sound : Sound pool stakeRenewBlocks renewals) {height : Nat}
    {address : String} {stake : ChainStake} (past : height ≤ renewals.chain.height)
    (found : renewals.chain.stakes address = some stake)
    (isDue : due stakeRenewBlocks height stake.view)
    (landed : stake.status = .active → ∀ sentAt ∈ renewals.chain.inFlight address,
      sentAt + stakeRenewBlocks ≤ renewals.chain.height) :
    Decided stakeRenewBlocks renewals.chain renewals.sent address stake where
  stake := ⟨stake, found, Nat.le_refl _, fun _ => rfl⟩
  paced := by
    intro renewal mem here sentTo sentFor
    obtain ⟨old, new, sentForOld, foundNew, ordered, same⟩ := sound.known renewal mem
    have isOld : old = sentTo := Option.some.inj (sentForOld.symm.trans sentFor)
    have isNew : new = stake := by
      rw [here, found] at foundNew
      exact (Option.some.inj foundNew).symm
    subst isOld isNew
    refine ⟨ordered, ?_⟩
    intro unchanged active
    rcases (same unchanged).2 with flying | ⟨last, renewedAt, less⟩
    · rw [here] at flying
      exact landed active _ flying
    · have old := sound.past renewal mem
      simp only [due, ChainStake.view, active, renewedAt, Option.getD_some, Bool.or_eq_true,
        decide_eq_true_eq, reduceCtorEq, false_or] at isDue
      omega

/-- The stake was read. -/
theorem Kept.resumeStake (kept : Kept pool stakeRenewBlocks renewals) (answered : Bool)
    (guard : NoneInFlight stakeRenewBlocks renewals (.stakeRead answered)) :
    Kept pool stakeRenewBlocks (renewals.resumeStake stakeRenewBlocks answered) := by
  have tick := kept.tick
  unfold TickKept at tick
  unfold Renewals.resumeStake
  split
  · rename_i height visits address rest at_tick
    rw [at_tick] at tick
    dsimp only at tick
    cases answered with
    | false => exact kept.sound.goOn (tick.visit none none fun _ none => nomatch none)
    | true =>
        rw [if_pos rfl]
        cases found : renewals.chain.stakes address with
        | none => exact kept.sound.goOn (tick.visit none none fun _ none => nomatch none)
        | some stake =>
            dsimp only
            split
            · rename_i isDue
              refine ⟨⟨kept.sound.past, kept.sound.known, kept.sound.paces.apart,
                kept.sound.paces.renewed⟩, tick, ?_⟩
              exact kept.sound.decided tick.past found isDue fun active =>
                guard height visits address rest stake at_tick found active isDue
            · rename_i notDue
              refine kept.sound.goOn (tick.visit (some stake) none ?_)
              intro _ same old
              cases same
              exact absurd (due_of_age old) notDue
  · exact kept

/-- A renewal was accepted: of the renewals sent for a stake that is active and still
the one the tick found, each is old enough. -/
theorem Sound.renew (sound : Sound pool stakeRenewBlocks renewals) {address : String}
    {found : ChainStake}
    (decided : Decided stakeRenewBlocks renewals.chain renewals.sent address found) :
    Sound pool stakeRenewBlocks { renewals with
      chain := renewals.chain.renew address
      sent := renewals.sent ++
        [⟨address, renewals.chain.height, renewals.chain.stakes address⟩] } where
  past := by
    intro renewal mem
    rcases List.mem_append.mp mem with earlier | last
    · exact sound.past renewal earlier
    · rw [List.mem_singleton.mp last]
      exact Nat.le_refl _
  known := by
    intro renewal mem
    rcases List.mem_append.mp mem with earlier | last
    · exact (sound.known renewal earlier).grows (sound.past renewal earlier) Chain.grows_renew
    · rw [List.mem_singleton.mp last]
      rcases decided.stake with ⟨current, stands, -⟩
      refine ⟨current, current, stands, stands, Nat.le_refl _, fun _ => ⟨rfl, .inl ?_⟩⟩
      simp [Chain.renew]
  paces := by
    refine ⟨List.pairwise_append.mpr ⟨sound.paces.apart, List.pairwise_singleton .., ?_⟩,
      sound.paces.renewed⟩
    intro first mem second last
    rw [List.mem_singleton.mp last]
    rintro ⟨here, before, after, sentFor, stands, unchanged, active⟩
    rcases decided.stake with ⟨current, isCurrent, ordered, same⟩
    have isAfter : current = after := Option.some.inj (isCurrent.symm.trans stands)
    subst isAfter
    have old := decided.paced first mem here before sentFor
    have still : found.changes = current.changes :=
      Nat.le_antisymm ordered (unchanged ▸ old.1)
    exact old.2 (unchanged.trans still.symm) ((same still).trans active)

/-- The answer to a renewal. -/
theorem Kept.resumeRenewal (kept : Kept pool stakeRenewBlocks renewals) (accepted : Bool) :
    Kept pool stakeRenewBlocks (renewals.resumeRenewal accepted) := by
  have tick := kept.tick
  unfold TickKept at tick
  unfold Renewals.resumeRenewal
  split
  · rename_i height visits address found rest at_tick
    rw [at_tick] at tick
    dsimp only at tick
    have sent := tick.1.visit (some found) (some accepted) fun _ _ _ => rfl
    cases accepted with
    | false => exact kept.sound.goOn sent
    | true => exact (kept.sound.renew tick.2).goOn (sent.grows Chain.grows_renew)
  · exact kept

/-- Every step keeps it. -/
theorem Kept.next (kept : Kept pool stakeRenewBlocks renewals) {event : Event}
    (guard : NoneInFlight stakeRenewBlocks renewals event) :
    Kept pool stakeRenewBlocks (renewals.next pool stakeRenewBlocks event) := by
  cases event with
  | heightRead answered => exact kept.resumeHeight answered
  | stakeRead answered => exact kept.resumeStake answered guard
  | renewed accepted => exact kept.resumeRenewal accepted
  | block left elsewhere => exact kept.grows Chain.grows_block
  | changed address status => exact kept.grows Chain.grows_change
  | staked address => exact kept.grows Chain.grows_stake
  | restarted =>
      exact ⟨⟨kept.sound.past, kept.sound.known, kept.sound.paces.apart,
        kept.sound.paces.renewed⟩, trivial⟩

theorem kept_start {height : Nat} {stakes : PartialMap String ChainStake} :
    Kept pool stakeRenewBlocks (start height stakes) where
  sound := ⟨fun _ mem => absurd mem List.not_mem_nil, fun _ mem => absurd mem List.not_mem_nil,
    .nil, fun _ mem => absurd mem List.not_mem_nil⟩
  tick := trivial

/-- As long as no tick finds a stake due of which a recent renewal is in flight, the
renewals are paced. -/
theorem paces_of_run {height : Nat} {stakes : PartialMap String ChainStake}
    {events : List Event}
    (run : (system pool stakeRenewBlocks).RunWith (NoneInFlight stakeRenewBlocks)
      (start height stakes) events renewals) : Paces pool stakeRenewBlocks renewals := by
  have kept : Kept pool stakeRenewBlocks renewals :=
    run.invariant kept_start fun _ _ kept _ guard => kept.next guard
  exact kept.sound.paces

/-- While nothing is in flight, the condition is met. -/
theorem noneInFlight_of_empty (none : ∀ address, renewals.chain.inFlight address = [])
    (event : Event) : NoneInFlight stakeRenewBlocks renewals event := by
  unfold NoneInFlight
  split
  · intro _ _ address _ _ _ _ _ _ sentAt mem
    rw [none address] at mem
    exact absurd mem List.not_mem_nil
  · trivial

/-! ## One address -/

/-- A pool of one address. -/
def lonePool : StakePool :=
  ⟨["wallet"], by decide⟩

/-- The address was staked at the first block, and renewed at a height. -/
def loneStake (renewedAt : Nat) : PartialMap String ChainStake :=
  PartialMap.empty.insert "wallet" ⟨.active, some renewedAt, 1, 0⟩

/-- One tick that renews the address. -/
def renewingTick : List Event :=
  [.heightRead true, .stakeRead true, .renewed true]

/-- A block that includes all that is in flight. -/
def allIncluded : Event :=
  .block (fun _ => []) []

/-- A stake is renewed; the renewal is included, and two blocks later the next tick
renews it again. -/
theorem paces_wallet : ∃ renewals,
    (system lonePool 2).RunWith (NoneInFlight 2) (start 4 (loneStake 2))
      (renewingTick ++ [allIncluded, .heightRead true, .stakeRead true, allIncluded,
        allIncluded] ++ renewingTick) renewals ∧
    renewals.sent.map Renewal.sentAt = [4, 7] ∧ Paces lonePool 2 renewals := by
  have admitted : (system lonePool 2).Admits (NoneInFlight 2) (start 4 (loneStake 2))
      (renewingTick ++ [allIncluded, .heightRead true, .stakeRead true, allIncluded,
        allIncluded] ++ renewingTick) :=
    ⟨⟨rfl, noneInFlight_of_empty (fun _ => rfl) _⟩,
      ⟨⟨_, _, _, _, rfl⟩, noneInFlight_of_empty (fun _ => rfl) _⟩,
      ⟨⟨_, _, _, _, _, rfl⟩, trivial⟩,
      ⟨fun _ => List.nil_sublist _, trivial⟩,
      ⟨rfl, trivial⟩,
      ⟨⟨_, _, _, _, rfl⟩, noneInFlight_of_empty (fun _ => rfl) _⟩,
      ⟨fun _ => List.nil_sublist _, trivial⟩,
      ⟨fun _ => List.nil_sublist _, trivial⟩,
      ⟨rfl, trivial⟩,
      ⟨⟨_, _, _, _, rfl⟩, noneInFlight_of_empty (fun _ => rfl) _⟩,
      ⟨⟨_, _, _, _, _, rfl⟩, trivial⟩, trivial⟩
  exact ⟨_, admitted.runWith, rfl, paces_of_run admitted.runWith⟩

/-- Two ticks before the next block send two renewals of one stake. -/
theorem renewed_twice : ∃ renewals,
    (system lonePool 100).Run (start 200 (loneStake 100)) (renewingTick ++ renewingTick)
      renewals ∧
    renewals.sent.map Renewal.sentAt = [200, 200] ∧ ¬ Paces lonePool 100 renewals := by
  refine ⟨_, System.Admits.runWith ?_, rfl, ?_⟩
  · exact ⟨⟨rfl, trivial⟩, ⟨⟨_, _, _, _, rfl⟩, trivial⟩, ⟨⟨_, _, _, _, _, rfl⟩, trivial⟩,
      ⟨rfl, trivial⟩, ⟨⟨_, _, _, _, rfl⟩, trivial⟩, ⟨⟨_, _, _, _, _, rfl⟩, trivial⟩, trivial⟩
  · intro paces
    have both := List.pairwise_cons.mp paces.apart
    have far := both.1 _ List.mem_cons_self ⟨rfl, _, _, rfl, rfl, rfl, rfl⟩
    exact absurd far (by decide)

end Renewals

end StratumBridge.Stake
