import StratumBridge.Expert.Hosts
import StratumBridge.Sequence.Ranking

/-!
# The best hosts

`pick_expert_hosts_top_n` sorts the hosts by their memory and their addresses.  Its
answer depends on who is eligible and not on the order of registration.  The up-front
selection of a group whose experts all need the same takes the hosts one by one and
arrives at the same answer.
-/

namespace StratumBridge.Expert

open Data Sequence
open Shard (SelectedExpert)

/-- Larger memory first, then the smaller address. -/
def RanksBefore (registry : MinerRegistry) (first second : Wallet) : Prop :=
  MinerRegistry.hostBefore (first, vramOf registry first) (second, vramOf registry second)

instance (registry : MinerRegistry) : DecidableRel (RanksBefore registry) :=
  fun _ _ => inferInstanceAs (Decidable (MinerRegistry.hostBefore _ _))

instance (registry : MinerRegistry) : Std.Total (RanksBefore registry) where
  total _ _ := total_of MinerRegistry.hostBefore _ _

instance (registry : MinerRegistry) : IsTrans Wallet (RanksBefore registry) where
  trans _ _ _ before after := trans_of MinerRegistry.hostBefore before after

instance (registry : MinerRegistry) : Std.Antisymm (RanksBefore registry) where
  antisymm first second := by
    rintro (more | ⟨same, before⟩) (less | ⟨sameToo, after⟩)
    · exact absurd more (Nat.lt_asymm less)
    · exact absurd sameToo.symm more.ne
    · exact absurd same.symm less.ne
    · exact String.le_antisymm before after

variable {registry : MinerRegistry} {need wanted : Nat} {used hosts : List Wallet}
  {wallet : Wallet}

/-- The hosts that may be selected, in registration order. -/
def hostCandidates (registry : MinerRegistry) (need : Nat) (used : List Wallet) : List Wallet :=
  registry.inner.keys.filter fun wallet =>
    (registry.expertCapableVram wallet).any fun vramMb =>
      need ≤ vramMb ∧ wallet ∉ registry.banned ∧ wallet ∉ used

theorem mem_hostCandidates_iff :
    wallet ∈ hostCandidates registry need used ↔ registry.HostEligible need used wallet := by
  rw [hostCandidates, List.mem_filter, ← MinerRegistry.registered_iff_mem_keys, Option.any_eq_true]
  simp only [decide_eq_true_eq]
  constructor
  · rintro ⟨registered, vramMb, announced, enough, allowed, unused⟩
    exact ⟨⟨registered, allowed⟩, unused, vramMb, announced, enough⟩
  · rintro ⟨⟨registered, allowed⟩, unused, vramMb, announced, enough⟩
    exact ⟨registered, vramMb, announced, enough, allowed, unused⟩

/-- The candidates beside their memory. -/
theorem filterMap_eq_map_hostCandidates (need : Nat) (used : List Wallet)
    {host? : Wallet → Option (Wallet × Nat)}
    (picks : ∀ wallet, host? wallet =
      if (registry.expertCapableVram wallet).any fun vramMb =>
          need ≤ vramMb ∧ wallet ∉ registry.banned ∧ wallet ∉ used then
        some (wallet, vramOf registry wallet)
      else
        none) :
    registry.inner.keys.filterMap host? =
      (hostCandidates registry need used).map fun wallet => (wallet, vramOf registry wallet) := by
  unfold hostCandidates
  induction registry.inner.keys with
  | nil => rfl
  | cons wallet wallets ih =>
      rw [List.filterMap_cons, List.filter_cons, picks]
      split_ifs with eligible
      · rw [List.map_cons, ih]
      · exact ih

/-- The selection sorts these. -/
theorem pickExpertHostsTopN_eq : registry.pickExpertHostsTopN need used wanted =
    ((hostCandidates registry need used).insertionSort (RanksBefore registry)).take wanted := by
  refine (congrArg (fun eligible =>
    ((eligible.insertionSort MinerRegistry.hostBefore).take wanted).map Prod.fst)
      (filterMap_eq_map_hostCandidates need used fun wallet => ?_)).trans ?_
  · cases announced : registry.expertCapableVram wallet with
    | none => rfl
    | some vramMb =>
        simp only [vramOf, announced, Option.any_some, Option.getD_some, decide_eq_true_eq]
  · rw [List.map_take, ← List.map_insertionSort (RanksBefore registry) MinerRegistry.hostBefore
      (fun wallet => (wallet, vramOf registry wallet)) _ fun _ _ _ _ => Iff.rfl, List.map_map]
    exact congrArg (List.take wanted) (List.map_id _)

theorem best_pickExpertHostsTopN (registry : MinerRegistry) (need : Nat) (used : List Wallet)
    (wanted : Nat) : Best (RanksBefore registry) (registry.HostEligible need used) wanted
      (registry.pickExpertHostsTopN need used wanted) := by
  rw [pickExpertHostsTopN_eq]
  exact (best_take_insertionSort (registry.inner.nodup_keys.filter _) wanted).congr
    fun _ => mem_hostCandidates_iff

/-- The answer is the one list of the best hosts: up to so many eligible ones, once each,
the larger memory first and then the smaller address, and none is passed over. -/
theorem pickExpertHostsTopN_eq_iff : registry.pickExpertHostsTopN need used wanted = hosts ↔
    Best (RanksBefore registry) (registry.HostEligible need used) wanted hosts := by
  constructor
  · rintro rfl
    exact best_pickExpertHostsTopN ..
  · exact (best_pickExpertHostsTopN ..).unique

/-! ## One host after another -/

/-- The best host and then the best of the others are the best hosts. -/
theorem pickExpertHostsTopN_succ : registry.pickExpertHostsTopN need used (wanted + 1) =
    match registry.pickExpertHost need used with
    | none => []
    | some wallet => wallet :: registry.pickExpertHostsTopN need (used ++ [wallet]) wanted := by
  have head : registry.pickExpertHost need used =
      (registry.pickExpertHostsTopN need used (wanted + 1)).head? := by
    rw [MinerRegistry.pickExpertHost, pickExpertHostsTopN_eq, pickExpertHostsTopN_eq,
      List.head?_take, List.head?_take, if_neg Nat.one_ne_zero, if_neg (Nat.succ_ne_zero wanted)]
  rw [head]
  cases taken : registry.pickExpertHostsTopN need used (wanted + 1) with
  | nil => rfl
  | cons wallet hosts =>
      have best := (best_cons_iff.mp (taken ▸ best_pickExpertHostsTopN ..)).2.2
      refine congrArg (wallet :: ·) ((best.congr ?_).unique (best_pickExpertHostsTopN ..))
      intro other
      simp only [hostEligible_iff, List.mem_append, List.mem_singleton, not_or]
      tauto

/-- The selection for a group whose experts all need the same takes the best hosts in
order, or fails at the first expert for whom none is left. -/
theorem plan_eq_pickExpertHostsTopN (registry : MinerRegistry) (need : Nat)
    (experts : List SelectedExpert) (used : List Wallet) :
    plan registry (fun _ => need) experts used =
      let hosts := registry.pickExpertHostsTopN need used experts.length
      match experts[hosts.length]? with
      | none => .ok (experts.zip hosts, used ++ hosts)
      | some hostless => .error hostless := by
  induction experts generalizing used with
  | nil =>
      have nobody : registry.pickExpertHostsTopN need used 0 = [] := rfl
      simp [plan, nobody]
  | cons selected experts ih =>
      rw [plan, List.length_cons, pickExpertHostsTopN_succ]
      cases registry.pickExpertHost need used with
      | none => simp
      | some wallet =>
          dsimp only
          rw [ih]
          dsimp only
          rw [List.length_cons, List.getElem?_cons_succ]
          cases experts[(registry.pickExpertHostsTopN need (used ++ [wallet])
              experts.length).length]? with
          | none => simp
          | some hostless => rfl

end StratumBridge.Expert
