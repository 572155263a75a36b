import Mathlib.Algebra.BigOperators.Group.Finset.Basic
import Mathlib.Algebra.GroupWithZero.Nat
import Mathlib.Algebra.Order.BigOperators.Group.Multiset
import StratumBridge.Rpc.Types
import Std.Data.TreeMap.Lemmas

/-!
# Payout attribution

How many accepted steps each wallet delivered for one request, in address
order, and the wallet the payout is attributed to.
-/

namespace StratumBridge

/-- Accepted steps by wallet. -/
abbrev Contributions := Std.TreeMap Wallet Nat

namespace Contributions

/-- Count an accepted step for a wallet. -/
def credit (contributions : Contributions) (wallet : Wallet) : Contributions :=
  contributions.insert wallet (contributions.getD wallet 0 + 1)

/-- One comparison of `max_by_key`, which keeps the last of several maxima. -/
def better (best : Option (Wallet × Nat)) (wallet : Wallet) (count : Nat) :
    Option (Wallet × Nat) :=
  match best with
  | some (_, top) => if count < top then best else some (wallet, count)
  | none => some (wallet, count)

/-- The wallet with the most steps, the greatest address among several. -/
def winner (contributions : Contributions) : Option Wallet :=
  (contributions.foldl better none).map Prod.fst

theorem mem_of_foldl_better {entries : List (Wallet × Nat)} {best : Option (Wallet × Nat)}
    {top : Wallet × Nat}
    (wins : entries.foldl (fun best entry => better best entry.1 entry.2) best = some top) :
    top ∈ entries ∨ best = some top := by
  induction entries generalizing best with
  | nil => exact .inr wins
  | cons entry rest ih =>
      rw [List.foldl_cons] at wins
      rcases ih wins with later | first
      · exact .inl (List.mem_cons_of_mem _ later)
      · unfold better at first
        split at first
        · split at first
          · exact .inr first
          · cases first
            exact .inl List.mem_cons_self
        · cases first
          exact .inl List.mem_cons_self

/-- The winner is one of those who contributed. -/
theorem mem_of_winner {contributions : Contributions} {wallet : Wallet}
    (wins : contributions.winner = some wallet) : wallet ∈ contributions := by
  rw [winner, Std.TreeMap.foldl_eq_foldl_toList, Option.map_eq_some_iff] at wins
  rcases wins with ⟨top, wins, rfl⟩
  rcases mem_of_foldl_better wins with mem | none
  · rw [Std.TreeMap.mem_toList_iff_getElem?_eq_some] at mem
    exact Std.TreeMap.mem_iff_isSome_getElem?.mpr (by rw [mem]; rfl)
  · cases none

theorem mem_credit {contributions : Contributions} {wallet other : Wallet} :
    other ∈ contributions.credit wallet ↔ wallet = other ∨ other ∈ contributions := by
  rw [credit, Std.TreeMap.mem_insert, Std.LawfulEqCmp.compare_eq_iff_eq]

example : winner (credit (credit (credit ∅ "b") "a") "c") = some "c" := by decide

/-! ## Totals -/

/-- The steps of all wallets together. -/
def total (contributions : Contributions) : Nat :=
  (contributions.toList.map Prod.snd).sum

/-- Each wallet has as many steps as it has places in a list. -/
def Tallies (contributions : Contributions) (wallets : List Wallet) : Prop :=
  ∀ wallet, contributions.getD wallet 0 = wallets.count wallet

theorem tallies_empty : Tallies ∅ [] := by
  intro wallet
  simp

theorem getD_credit (contributions : Contributions) (wallet other : Wallet) :
    (contributions.credit wallet).getD other 0 =
      contributions.getD other 0 + if other = wallet then 1 else 0 := by
  rw [credit, Std.TreeMap.getD_insert]
  simp only [Std.LawfulEqCmp.compare_eq_iff_eq]
  by_cases same : wallet = other
  · simp [same]
  · simp [same, Ne.symm same]

variable {contributions : Contributions} {wallets : List Wallet}

theorem Tallies.credit (tallies : Tallies contributions wallets) (wallet : Wallet) :
    Tallies (contributions.credit wallet) (wallet :: wallets) := by
  intro other
  rw [getD_credit, tallies, List.count_cons]
  by_cases same : other = wallet
  · simp [same]
  · simp [same, Ne.symm same]

theorem Tallies.perm {others : List Wallet} (tallies : Tallies contributions wallets)
    (same : wallets.Perm others) : Tallies contributions others := by
  intro wallet
  rw [tallies, same.count_eq]

/-- The steps of all wallets together are the places of the list. -/
theorem Tallies.total (tallies : Tallies contributions wallets) :
    contributions.total = wallets.length := by
  have counts : contributions.toList.map Prod.snd = contributions.keys.map wallets.count := by
    rw [← Std.TreeMap.map_fst_toList_eq_keys, List.map_map, List.map_inj_left]
    rintro ⟨wallet, count⟩ mem
    rw [Std.TreeMap.mem_toList_iff_getElem?_eq_some] at mem
    rw [Function.comp_apply, ← tallies, Std.TreeMap.getD_eq_getD_getElem?, mem]
    rfl
  have among : ∀ wallet ∈ (wallets : Multiset Wallet), wallet ∈ contributions.keys.toFinset := by
    intro wallet mem
    rw [List.mem_toFinset, Std.TreeMap.mem_keys]
    by_contra absent
    have nothing := tallies wallet
    rw [Std.TreeMap.getD_eq_fallback absent, eq_comm, List.count_eq_zero] at nothing
    exact nothing mem
  have sum := Multiset.sum_count_eq_card among
  simp only [Multiset.coe_card, Multiset.coe_count] at sum
  rw [Contributions.total, counts, ← List.sum_toFinset _ Std.TreeMap.nodup_keys]
  exact sum

end Contributions

end StratumBridge
