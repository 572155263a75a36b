import StratumBridge.Data.PartialMap
import StratumBridge.Data.RoundRobin
import StratumBridge.Rpc.Types
import Mathlib.Data.Finset.Basic
import Mathlib.Data.List.Sort

/-!
# The registry of connected miners

Wallet-keyed registration of the channels to connected miners, together with
the capabilities each of them announced.  A channel is identified by the
session that reads from its other end.
-/

namespace StratumBridge

open Data

/-- The write end towards one downstream session. -/
abbrev Channel := Nat

/-- `MinerRegistry`. -/
structure MinerRegistry where
  inner : IndexMap Wallet Channel
  draftCapable : Finset Wallet
  banned : Finset Wallet
  auditorCapable : Finset Wallet
  expertCapableVram : PartialMap Wallet Nat

namespace MinerRegistry

/-- No miner is connected. -/
def new : MinerRegistry :=
  ⟨IndexMap.empty, ∅, ∅, ∅, PartialMap.empty⟩

/-- Exclude a wallet from every later selection. -/
def ban (registry : MinerRegistry) (wallet : Wallet) : MinerRegistry :=
  { registry with banned := insert wallet registry.banned }

/-- Bind a wallet to a channel, replacing the channel it was bound to. -/
def register (registry : MinerRegistry) (wallet : Wallet) (tx : Channel) : MinerRegistry :=
  { registry with inner := registry.inner.insert wallet tx }

/-- Forget a wallet's channel and its announced capabilities. -/
def unregister (registry : MinerRegistry) (wallet : Wallet) : MinerRegistry :=
  { registry with
    inner := registry.inner.shiftRemove wallet
    draftCapable := registry.draftCapable.erase wallet
    auditorCapable := registry.auditorCapable.erase wallet
    expertCapableVram := registry.expertCapableVram.remove wallet }

/-- The channel to a wallet. -/
def get (registry : MinerRegistry) (wallet : Wallet) : Option Channel :=
  registry.inner.get? wallet

/-- The wallet after `last` that is not banned, in registration order. -/
def pickNext (registry : MinerRegistry) (last : Option Wallet) : Option Wallet :=
  registry.inner.nextAfter last fun wallet => wallet ∉ registry.banned

def markDraftCapable (registry : MinerRegistry) (wallet : Wallet) : MinerRegistry :=
  if registry.inner.contains wallet then
    { registry with draftCapable := insert wallet registry.draftCapable }
  else
    registry

/-- As `pickNext`, among the wallets that announced the draft capability. -/
def pickDraftCapable (registry : MinerRegistry) (last : Option Wallet) : Option Wallet :=
  registry.inner.nextAfter last fun wallet =>
    wallet ∈ registry.draftCapable ∧ wallet ∉ registry.banned

def markAuditorCapable (registry : MinerRegistry) (wallet : Wallet) : MinerRegistry :=
  if registry.inner.contains wallet then
    { registry with auditorCapable := insert wallet registry.auditorCapable }
  else
    registry

/-- The first trusted wallet that is connected, announced the auditor capability,
is not banned and is not the excluded one. -/
def pickAuditorCapable (registry : MinerRegistry) (trusted : List Wallet)
    (excludeWallet : Wallet) : Option Wallet :=
  trusted.find? fun wallet =>
    wallet ≠ excludeWallet ∧ registry.inner.contains wallet ∧ wallet ∈ registry.auditorCapable ∧
      wallet ∉ registry.banned

def markExpertCapable (registry : MinerRegistry) (wallet : Wallet) (vramMb : Nat) :
    MinerRegistry :=
  if registry.inner.contains wallet then
    { registry with expertCapableVram := registry.expertCapableVram.insert wallet vramMb }
  else
    registry

/-- Larger memory first, then the smaller address. -/
def hostBefore (first second : Wallet × Nat) : Prop :=
  second.2 < first.2 ∨ second.2 = first.2 ∧ first.1 ≤ second.1

instance : DecidableRel hostBefore :=
  fun _ _ => inferInstanceAs (Decidable (_ ∨ _))

/-- Up to `n` connected hosts with at least `minVramMb` announced memory, none
of them banned or excluded, best first. -/
def pickExpertHostsTopN (registry : MinerRegistry) (minVramMb : Nat)
    (excludeWallets : List Wallet) (n : Nat) : List Wallet :=
  let eligible := registry.inner.keys.filterMap fun wallet =>
    match registry.expertCapableVram wallet with
    | some vramMb =>
        if minVramMb ≤ vramMb ∧ wallet ∉ registry.banned ∧ wallet ∉ excludeWallets then
          some (wallet, vramMb)
        else
          none
    | none => none
  ((eligible.insertionSort hostBefore).take n).map Prod.fst

/-- The best expert host. -/
def pickExpertHost (registry : MinerRegistry) (minVramMb : Nat)
    (excludeWallets : List Wallet) : Option Wallet :=
  (registry.pickExpertHostsTopN minVramMb excludeWallets 1).head?

/-- The wallet has a channel. -/
def Registered (registry : MinerRegistry) (wallet : Wallet) : Prop :=
  ∃ tx, registry.get wallet = some tx

/-- The wallet may be selected for a dispatch. -/
def Eligible (registry : MinerRegistry) (wallet : Wallet) : Prop :=
  registry.Registered wallet ∧ wallet ∉ registry.banned

theorem registered_iff_mem_keys {registry : MinerRegistry} {wallet : Wallet} :
    registry.Registered wallet ↔ wallet ∈ registry.inner.keys :=
  ⟨fun ⟨_, found⟩ => IndexMap.mem_keys_of_get?_eq_some found,
    IndexMap.exists_get?_of_mem_keys⟩

/-! ## Selection -/

/-- A selected wallet is connected and not banned. -/
theorem eligible_of_pickNext {registry : MinerRegistry} {last : Option Wallet} {wallet : Wallet}
    (picked : registry.pickNext last = some wallet) : registry.Eligible wallet := by
  obtain ⟨mem, accepted⟩ := IndexMap.nextAfter_eq_some picked
  exact ⟨registered_iff_mem_keys.mpr mem, by simpa using accepted⟩

theorem pickNext_eq_none_iff {registry : MinerRegistry} {last : Option Wallet} :
    registry.pickNext last = none ↔ ∀ wallet, ¬ registry.Eligible wallet := by
  rw [pickNext, IndexMap.nextAfter_eq_none_iff]
  simp only [Eligible, registered_iff_mem_keys, decide_eq_false_iff_not, not_not, not_and]

/-- Over all positions of the cursor, exactly the eligible wallets are
selected. -/
theorem exists_pickNext_iff {registry : MinerRegistry} {wallet : Wallet} :
    (∃ last, registry.pickNext last = some wallet) ↔ registry.Eligible wallet := by
  constructor
  · rintro ⟨last, picked⟩
    exact eligible_of_pickNext picked
  · rintro ⟨registered, allowed⟩
    exact IndexMap.exists_nextAfter_eq (registered_iff_mem_keys.mp registered)
      (by simpa using allowed)

/-- The wallets that may be selected, in registration order. -/
def eligibleWallets (registry : MinerRegistry) : List Wallet :=
  registry.inner.keys.filter fun wallet => wallet ∉ registry.banned

theorem mem_eligibleWallets {registry : MinerRegistry} {wallet : Wallet} :
    wallet ∈ registry.eligibleWallets ↔ registry.Eligible wallet := by
  simp only [eligibleWallets, List.mem_filter, Eligible, registered_iff_mem_keys,
    decide_eq_true_eq]

/-- Nothing is selected only when nobody may be.  Selections that each go on from the
answer before give every eligible wallet its turn, once and in registration order from
the first one at or after the start, and then begin again. -/
theorem pickNext_takes_turns (registry : MinerRegistry) (last : Option Wallet) :
    (registry.pickNext last = none ↔ ∀ wallet, ¬ registry.Eligible wallet) ∧
    (registry.eligibleWallets.Nodup ∧
      ∀ wallet, wallet ∈ registry.eligibleWallets ↔ registry.Eligible wallet) ∧
    ((List.range registry.eligibleWallets.length).map fun count =>
        registry.pickNext^[count + 1] last) =
      (registry.eligibleWallets.rotate
        ((registry.inner.keys.take (registry.inner.startIndex last)).filter fun wallet =>
          wallet ∉ registry.banned).length).map some ∧
    ∀ count, registry.pickNext^[count + registry.eligibleWallets.length + 1] last =
      registry.pickNext^[count + 1] last :=
  ⟨pickNext_eq_none_iff,
    ⟨registry.inner.nodup_keys.filter _, fun _ => mem_eligibleWallets⟩,
    registry.inner.map_nextAfter_iterate last _,
    registry.inner.nextAfter_iterate_add last _⟩

theorem eligible_of_pickDraftCapable {registry : MinerRegistry} {last : Option Wallet}
    {wallet : Wallet} (picked : registry.pickDraftCapable last = some wallet) :
    registry.Eligible wallet ∧ wallet ∈ registry.draftCapable := by
  obtain ⟨mem, accepted⟩ := IndexMap.nextAfter_eq_some picked
  have both : wallet ∈ registry.draftCapable ∧ wallet ∉ registry.banned := by
    simpa using accepted
  exact ⟨⟨registered_iff_mem_keys.mpr mem, both.2⟩, both.1⟩

/-- A selected auditor is connected, allowed, capable, trusted and not the excluded
wallet. -/
theorem of_pickAuditorCapable {registry : MinerRegistry} {trusted : List Wallet}
    {excludeWallet wallet : Wallet}
    (picked : registry.pickAuditorCapable trusted excludeWallet = some wallet) :
    registry.Eligible wallet ∧ wallet ∈ registry.auditorCapable ∧ wallet ∈ trusted ∧
      wallet ≠ excludeWallet := by
  have accepted := List.find?_some picked
  simp only [decide_eq_true_eq] at accepted
  rcases accepted with ⟨ne, connected, capable, allowed⟩
  have listed : wallet ∈ registry.inner.keys := of_decide_eq_true connected
  exact ⟨⟨registered_iff_mem_keys.mpr listed, allowed⟩, capable, List.mem_of_find?_eq_some picked,
    ne⟩

/-- A wallet can host an expert of the given size, and is not excluded. -/
structure HostEligible (registry : MinerRegistry) (minVramMb : Nat) (excludeWallets : List Wallet)
    (wallet : Wallet) : Prop where
  eligible : registry.Eligible wallet
  notExcluded : wallet ∉ excludeWallets
  vram : ∃ vramMb, registry.expertCapableVram wallet = some vramMb ∧ minVramMb ≤ vramMb

theorem hostEligible_of_mem_pickExpertHostsTopN {registry : MinerRegistry} {minVramMb n : Nat}
    {excludeWallets : List Wallet} {wallet : Wallet}
    (mem : wallet ∈ registry.pickExpertHostsTopN minVramMb excludeWallets n) :
    registry.HostEligible minVramMb excludeWallets wallet := by
  rw [pickExpertHostsTopN] at mem
  obtain ⟨⟨host, vramMb⟩, inBest, rfl⟩ := List.mem_map.mp mem
  have listed := (List.mem_insertionSort hostBefore).mp (List.mem_of_mem_take inBest)
  obtain ⟨candidate, inKeys, accepted⟩ := List.mem_filterMap.mp listed
  cases announced : registry.expertCapableVram candidate with
  | none => simp [announced] at accepted
  | some size =>
      simp only [announced] at accepted
      split at accepted
      · rename_i allowed
        cases accepted
        exact ⟨⟨registered_iff_mem_keys.mpr inKeys, allowed.2.1⟩, allowed.2.2, _, announced,
          allowed.1⟩
      · cases accepted

/-- A selected host is connected, allowed and large enough. -/
theorem hostEligible_of_pickExpertHost {registry : MinerRegistry} {minVramMb : Nat}
    {excludeWallets : List Wallet} {wallet : Wallet}
    (picked : registry.pickExpertHost minVramMb excludeWallets = some wallet) :
    registry.HostEligible minVramMb excludeWallets wallet :=
  hostEligible_of_mem_pickExpertHostsTopN (List.mem_of_mem_head? picked)

/-! ## The best host -/

instance : Std.Total hostBefore where
  total first second := by
    unfold hostBefore
    rcases Nat.lt_trichotomy first.2 second.2 with less | same | more
    · exact .inr (.inl less)
    · rcases String.le_total first.1 second.1 with before | after
      · exact .inl (.inr ⟨same.symm, before⟩)
      · exact .inr (.inr ⟨same, after⟩)
    · exact .inl (.inl more)

instance : IsTrans (Wallet × Nat) hostBefore where
  trans first second third := by
    unfold hostBefore
    rintro (more | ⟨same, before⟩) (moreToo | ⟨sameToo, beforeToo⟩)
    · exact .inl (moreToo.trans more)
    · exact .inl (sameToo ▸ more)
    · exact .inl (same ▸ moreToo)
    · exact .inr ⟨sameToo.trans same, String.le_trans before beforeToo⟩

/-- The selected host announced at least as much memory as every other that
could have been selected. -/
theorem le_vram_of_pickExpertHost {registry : MinerRegistry} {minVramMb : Nat}
    {excludeWallets : List Wallet} {wallet other : Wallet} {vramMb : Nat}
    (picked : registry.pickExpertHost minVramMb excludeWallets = some wallet)
    (eligible : registry.HostEligible minVramMb excludeWallets other)
    (announced : registry.expertCapableVram other = some vramMb) :
    ∃ most, registry.expertCapableVram wallet = some most ∧ vramMb ≤ most := by
  rw [pickExpertHost, pickExpertHostsTopN, List.head?_map, Option.map_eq_some_iff] at picked
  rcases picked with ⟨best, first, rfl⟩
  rw [List.head?_take, if_neg Nat.one_ne_zero] at first
  obtain ⟨rest, sorted⟩ := List.head?_eq_some_iff.mp first
  have ordered : (best :: rest).Pairwise hostBefore :=
    sorted ▸ List.pairwise_insertionSort hostBefore _
  have hosts : ∀ host, host ∈ best :: rest ↔ _ := fun host =>
    (sorted ▸ List.mem_insertionSort hostBefore).trans List.mem_filterMap
  obtain ⟨candidate, -, accepted⟩ := (hosts best).mp List.mem_cons_self
  have most : registry.expertCapableVram best.1 = some best.2 := by
    split at accepted
    · split at accepted
      · cases accepted
        assumption
      · cases accepted
    · cases accepted
  refine ⟨best.2, most, ?_⟩
  rcases eligible with ⟨⟨registered, allowed⟩, notExcluded, size, sized, enough⟩
  cases announced.symm.trans sized
  have listed : (other, vramMb) ∈ best :: rest := by
    rw [hosts]
    refine ⟨other, registered_iff_mem_keys.mp registered, ?_⟩
    simp [announced, enough, allowed, notExcluded]
  rcases List.mem_cons.mp listed with same | later
  · exact (congrArg Prod.snd same).le
  · rcases List.rel_of_pairwise_cons ordered later with less | ⟨same, -⟩
    · exact less.le
    · exact same.le

/-- No host is selected only if none could be. -/
theorem pickExpertHost_eq_none_iff {registry : MinerRegistry} {minVramMb : Nat}
    {excludeWallets : List Wallet} : registry.pickExpertHost minVramMb excludeWallets = none ↔
      ∀ wallet, ¬ registry.HostEligible minVramMb excludeWallets wallet := by
  constructor
  · intro missed wallet eligible
    rw [pickExpertHost, pickExpertHostsTopN, List.head?_map, Option.map_eq_none_iff,
      List.head?_take, if_neg Nat.one_ne_zero, List.head?_eq_none_iff] at missed
    rcases eligible with ⟨⟨registered, allowed⟩, notExcluded, vramMb, announced, enough⟩
    have listed : (wallet, vramMb) ∈ ([] : List (Wallet × Nat)) := by
      rw [← missed, List.mem_insertionSort, List.mem_filterMap]
      refine ⟨wallet, registered_iff_mem_keys.mp registered, ?_⟩
      simp [announced, enough, allowed, notExcluded]
    cases listed
  · intro lacking
    cases picked : registry.pickExpertHost minVramMb excludeWallets with
    | none => rfl
    | some wallet => exact absurd (hostEligible_of_pickExpertHost picked) (lacking wallet)

/-! ## Registration -/

@[simp]
theorem get_register_self (registry : MinerRegistry) (wallet : Wallet) (tx : Channel) :
    (registry.register wallet tx).get wallet = some tx :=
  IndexMap.get?_insert_self ..

@[simp]
theorem get_register_of_ne (registry : MinerRegistry) {wallet other : Wallet} (tx : Channel)
    (ne : other ≠ wallet) : (registry.register wallet tx).get other = registry.get other :=
  IndexMap.get?_insert_of_ne _ _ ne

@[simp]
theorem get_unregister_self (registry : MinerRegistry) (wallet : Wallet) :
    (registry.unregister wallet).get wallet = none :=
  IndexMap.get?_shiftRemove_self ..

@[simp]
theorem get_unregister_of_ne (registry : MinerRegistry) {wallet other : Wallet}
    (ne : other ≠ wallet) : (registry.unregister wallet).get other = registry.get other :=
  IndexMap.get?_shiftRemove_of_ne _ ne

@[simp]
theorem get_markDraftCapable (registry : MinerRegistry) (wallet other : Wallet) :
    (registry.markDraftCapable wallet).get other = registry.get other := by
  unfold markDraftCapable
  split <;> rfl

@[simp]
theorem get_markAuditorCapable (registry : MinerRegistry) (wallet other : Wallet) :
    (registry.markAuditorCapable wallet).get other = registry.get other := by
  unfold markAuditorCapable
  split <;> rfl

@[simp]
theorem get_markExpertCapable (registry : MinerRegistry) (wallet other : Wallet)
    (vramMb : Nat) :
    (registry.markExpertCapable wallet vramMb).get other = registry.get other := by
  unfold markExpertCapable
  split <;> rfl

end MinerRegistry

end StratumBridge
