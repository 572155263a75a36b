import Mathlib.Algebra.Ring.Rat
import Mathlib.Data.List.Induction
import StratumBridge.Lifecycle.Rows

/-!
# The payout batch

The unpaid rows are added up by wallet; every wallet at or above the minimum
gets its sum less the pool's fee.  The order of the wallets, which the source
takes from a sorted map, reaches nothing but a set of ids and a set of amounts.
-/

namespace StratumBridge.Payout

open Data Wire Lifecycle

/-- The terms of the payout. -/
structure Terms where
  minPayoutCs : Rat
  poolFeePercent : Rat

/-- What remains of an amount after the pool's fee. -/
def Terms.feeFactor (terms : Terms) : Rat :=
  1 - terms.poolFeePercent / 100

/-- The sum and the requests of a wallet, with one more row. -/
def addRow (byWallet : IndexMap Wallet (Rat × List RequestId)) (sub : Submission) :
    IndexMap Wallet (Rat × List RequestId) :=
  match sub.rewardAmount with
  | none => byWallet
  | some reward =>
      let entry := (byWallet.get? sub.minerWallet).getD (0, [])
      byWallet.insert sub.minerWallet (entry.1 + reward, entry.2 ++ [sub.requestId])

/-- The rows added up by wallet. -/
def byWallet (unpaid : List Submission) : IndexMap Wallet (Rat × List RequestId) :=
  unpaid.foldl addRow IndexMap.empty

/-- What a wallet is paid, and for which requests; nothing below the minimum. -/
def Terms.payable (terms : Terms) : Wallet × Rat × List RequestId →
    Option (Wallet × Rat × List RequestId)
  | (wallet, total, ids) =>
      if total < terms.minPayoutCs then none
      else if total * terms.feeFactor ≤ 0 then none
      else some (wallet, total * terms.feeFactor, ids)

/-- What `sendmany` is called with, and the requests that it pays for. -/
structure Batch where
  amounts : List (Wallet × Rat)
  requestIds : List RequestId
  deriving DecidableEq

/-- The batch for the rows that were read. -/
def Terms.batch (terms : Terms) (unpaid : List Submission) : Batch :=
  let paid := (byWallet unpaid).entries.filterMap terms.payable
  ⟨paid.map fun entry => (entry.1, entry.2.1), paid.flatMap fun entry => entry.2.2⟩

/-- The reward of a row goes into the batch: it has one, and its wallet is paid. -/
def Terms.includes (terms : Terms) (unpaid : List Submission) (row : Submission) : Bool :=
  row.rewardAmount.isSome && (terms.batch unpaid).amounts.any fun entry => entry.1 = row.minerWallet

/-! ## Sums and requests of a wallet -/

/-- The rewards of a wallet's rows. -/
def rewardsOf (unpaid : List Submission) (wallet : Wallet) : List Rat :=
  unpaid.filterMap fun row => if row.minerWallet = wallet then row.rewardAmount else none

/-- The requests of a wallet's rows that have a reward. -/
def requestsOf (unpaid : List Submission) (wallet : Wallet) : List RequestId :=
  unpaid.filterMap fun row =>
    if row.minerWallet = wallet ∧ row.rewardAmount.isSome then some row.requestId else none

section Sums

variable {terms : Terms} {unpaid : List Submission} {wallet : Wallet} {row : Submission}
variable {amount : Rat} {requestId : RequestId}

theorem mem_requestsOf : requestId ∈ requestsOf unpaid wallet ↔
    ∃ row ∈ unpaid, row.minerWallet = wallet ∧ row.rewardAmount.isSome = true ∧
      row.requestId = requestId := by
  simp only [requestsOf, List.mem_filterMap, Option.ite_none_right_eq_some, Option.some.injEq,
    and_assoc]

theorem rewardsOf_eq_nil (nothing : requestsOf unpaid wallet = []) :
    rewardsOf unpaid wallet = [] := by
  rw [requestsOf, List.filterMap_eq_nil_iff] at nothing
  rw [rewardsOf, List.filterMap_eq_nil_iff]
  intro row mem
  have absent := nothing row mem
  split at absent
  · cases absent
  · rename_i other
    split
    · rename_i same
      rw [Option.isSome_iff_ne_none] at other
      by_contra rewarded
      exact other ⟨same, rewarded⟩
    · rfl

/-- The entry of a wallet: the sum and the requests of its rows, if it has any. -/
theorem get?_byWallet (unpaid : List Submission) (wallet : Wallet) :
    (byWallet unpaid).get? wallet =
      if requestsOf unpaid wallet = [] then none
      else some ((rewardsOf unpaid wallet).sum, requestsOf unpaid wallet) := by
  induction unpaid using List.reverseRecOn with
  | nil => rfl
  | append_singleton unpaid row ih =>
      rw [byWallet, List.foldl_concat, ← byWallet, addRow, requestsOf, rewardsOf,
        List.filterMap_append, List.filterMap_append, ← requestsOf, ← rewardsOf]
      cases reward : row.rewardAmount with
      | none => simp [reward, ih]
      | some reward =>
          by_cases same : row.minerWallet = wallet
          · subst same
            by_cases nothing : requestsOf unpaid row.minerWallet = []
            · simp [reward, ih, nothing, rewardsOf_eq_nil nothing]
            · simp [reward, ih, nothing]
          · rw [IndexMap.get?_insert_of_ne _ _ (Ne.symm same)]
            simp [reward, ih, same]

/-- The entries that are paid. -/
theorem mem_payable {ids : List RequestId} :
    (wallet, amount, ids) ∈ (byWallet unpaid).entries.filterMap terms.payable ↔
      requestsOf unpaid wallet ≠ [] ∧ terms.minPayoutCs ≤ (rewardsOf unpaid wallet).sum ∧
        0 < amount ∧ amount = (rewardsOf unpaid wallet).sum * terms.feeFactor ∧
        ids = requestsOf unpaid wallet := by
  rw [List.mem_filterMap]
  constructor
  · rintro ⟨⟨owner, total, requests⟩, mem, paid⟩
    have found := IndexMap.get?_eq_some_iff_mem.mpr mem
    rw [get?_byWallet] at found
    split at found
    · cases found
    · rename_i some
      cases found
      simp only [Terms.payable] at paid
      split at paid
      · cases paid
      · rename_i enough
        split at paid
        · cases paid
        · rename_i positive
          cases paid
          exact ⟨some, Rat.not_lt.mp enough, Rat.not_le.mp positive, rfl, rfl⟩
  · rintro ⟨some, enough, positive, rfl, rfl⟩
    refine ⟨(wallet, (rewardsOf unpaid wallet).sum, requestsOf unpaid wallet), ?_, ?_⟩
    · rw [← IndexMap.get?_eq_some_iff_mem, get?_byWallet, if_neg some]
    · rw [Terms.payable, if_neg (Rat.not_lt.mpr enough), if_neg (Rat.not_le.mpr positive)]

/-- The amount of a wallet is the sum of its rows' rewards, less the fee. -/
theorem amount_eq (mem : (wallet, amount) ∈ (terms.batch unpaid).amounts) :
    amount = (rewardsOf unpaid wallet).sum * terms.feeFactor := by
  obtain ⟨⟨_, _, ids⟩, paid, ⟨⟩⟩ := List.mem_map.mp mem
  exact (mem_payable.mp paid).2.2.2.1

/-- The batch pays for the requests of the rows it includes. -/
theorem mem_requestIds : requestId ∈ (terms.batch unpaid).requestIds ↔
    ∃ row ∈ unpaid, terms.includes unpaid row = true ∧ row.requestId = requestId := by
  constructor
  · intro mem
    obtain ⟨⟨wallet, amount, ids⟩, paid, listed⟩ := List.mem_flatMap.mp mem
    obtain ⟨-, -, -, -, rfl⟩ := mem_payable.mp paid
    obtain ⟨row, read, rfl, rewarded, rfl⟩ := mem_requestsOf.mp listed
    refine ⟨row, read, ?_, rfl⟩
    rw [Terms.includes, rewarded, Bool.true_and, List.any_eq_true]
    exact ⟨(row.minerWallet, amount), List.mem_map.mpr ⟨_, paid, rfl⟩, by simp⟩
  · rintro ⟨row, read, included, rfl⟩
    rw [Terms.includes, Bool.and_eq_true, List.any_eq_true] at included
    rcases included with ⟨rewarded, ⟨wallet, amount⟩, isPaid, same⟩
    rw [decide_eq_true_eq] at same
    subst same
    obtain ⟨⟨_, _, ids⟩, paid, ⟨⟩⟩ := List.mem_map.mp isPaid
    apply List.mem_flatMap.mpr
    refine ⟨_, paid, ?_⟩
    rw [(mem_payable.mp paid).2.2.2.2]
    exact mem_requestsOf.mpr ⟨row, read, rfl, rewarded, rfl⟩

/-- An included row has a reward, and its wallet an amount. -/
theorem exists_amount (included : terms.includes unpaid row = true) :
    ∃ reward amount, row.rewardAmount = some reward ∧
      (row.minerWallet, amount) ∈ (terms.batch unpaid).amounts := by
  rw [Terms.includes, Bool.and_eq_true, List.any_eq_true] at included
  rcases included with ⟨rewarded, ⟨wallet, amount⟩, paid, same⟩
  rw [decide_eq_true_eq] at same
  subst same
  obtain ⟨reward, isReward⟩ := Option.isSome_iff_exists.mp rewarded
  exact ⟨reward, amount, isReward, paid⟩

end Sums

end StratumBridge.Payout
