import Mathlib.Data.List.TakeDrop
import Mathlib.Order.Bounds.Basic

/-!
# Greedy generation and agreement with a draft

A next-token function turns a context into a single token; generating greedily
appends that token and repeats.  A draft is compared with such a generation
through the predictions made along the draft: as long as draft and predictions
agree, the predictions are the generation itself.
-/

namespace StratumBridge.Sequence

universe u

variable {α : Type u}

/-! ## Longest common prefixes -/

section Agreement

variable [DecidableEq α]

/-- The length of the longest common prefix of two lists. -/
def agreement : List α → List α → Nat
  | x :: xs, y :: ys => if x = y then agreement xs ys + 1 else 0
  | _, _ => 0

theorem agreement_le_left (xs ys : List α) : agreement xs ys ≤ xs.length := by
  induction xs generalizing ys with
  | nil => simp [agreement]
  | cons x xs ih =>
      cases ys with
      | nil => simp [agreement]
      | cons y ys =>
          have rest := ih ys
          by_cases same : x = y <;> simp [agreement, same, rest]

theorem take_agreement (xs ys : List α) :
    xs.take (agreement xs ys) = ys.take (agreement xs ys) := by
  induction xs generalizing ys with
  | nil => cases ys <;> simp [agreement]
  | cons x xs ih =>
      cases ys with
      | nil => simp [agreement]
      | cons y ys =>
          by_cases same : x = y
          · simp [agreement, same, ih ys]
          · simp [agreement, same]

theorem le_agreement {xs ys : List α} {n : Nat} (bound : n ≤ xs.length)
    (same : xs.take n = ys.take n) : n ≤ agreement xs ys := by
  induction n generalizing xs ys with
  | zero => simp
  | succ n ih =>
      cases xs with
      | nil => simp at bound
      | cons x xs =>
          cases ys with
          | nil => simp at same
          | cons y ys =>
              simp only [List.take_succ_cons, List.cons.injEq] at same
              have rest := ih (by simpa using bound) same.2
              simpa [agreement, same.1] using rest

/-- The agreement is the greatest prefix length of `xs` on which the two lists
coincide. -/
theorem isGreatest_agreement (xs ys : List α) :
    IsGreatest {n | n ≤ xs.length ∧ xs.take n = ys.take n} (agreement xs ys) :=
  ⟨⟨agreement_le_left xs ys, take_agreement xs ys⟩,
    fun _ member => le_agreement member.1 member.2⟩

end Agreement

/-! ## Greedy generation -/

/-- The first `n` tokens generated from `prompt` by always appending the token
`g` assigns to the whole context. -/
def greedy (g : List α → α) (prompt : List α) : Nat → List α
  | 0 => []
  | n + 1 => greedy g prompt n ++ [g (prompt ++ greedy g prompt n)]

@[simp]
theorem length_greedy (g : List α → α) (prompt : List α) (n : Nat) :
    (greedy g prompt n).length = n := by
  induction n with
  | zero => rfl
  | succ n ih => simp [greedy, ih]

/-- Generation may be resumed from any point. -/
theorem greedy_add (g : List α → α) (prompt : List α) (m n : Nat) :
    greedy g prompt (m + n) =
      greedy g prompt m ++ greedy g (prompt ++ greedy g prompt m) n := by
  induction n with
  | zero => simp [greedy]
  | succ n ih => simp [greedy, ih]

theorem greedy_succ_eq_cons (g : List α → α) (prompt : List α) (n : Nat) :
    greedy g prompt (n + 1) = g prompt :: greedy g (prompt ++ [g prompt]) n := by
  rw [Nat.add_comm, greedy_add]
  simp [greedy]

theorem take_greedy (g : List α → α) (prompt : List α) {m n : Nat} (le : m ≤ n) :
    (greedy g prompt n).take m = greedy g prompt m := by
  obtain ⟨rest, rfl⟩ := Nat.exists_eq_add_of_le le
  rw [greedy_add, List.take_append_of_le_length (by simp), List.take_of_length_le (by simp)]

/-- `tokens` is what greedy generation from `prompt` yields first. -/
def IsGreedy (g : List α → α) (prompt tokens : List α) : Prop :=
  tokens = greedy g prompt tokens.length

theorem IsGreedy.nil (g : List α → α) (prompt : List α) : IsGreedy g prompt [] :=
  rfl

theorem IsGreedy.append {g : List α → α} {prompt first second : List α}
    (firstGreedy : IsGreedy g prompt first)
    (secondGreedy : IsGreedy g (prompt ++ first) second) :
    IsGreedy g prompt (first ++ second) := by
  rw [IsGreedy, List.length_append, greedy_add, ← firstGreedy, ← secondGreedy]

/-! ## Predictions along a draft -/

/-- What `g` predicts after the context followed by each prefix of `draft`,
the empty and the full one included. -/
def predictions (g : List α → α) (context : List α) : List α → List α
  | [] => [g context]
  | token :: draft => g context :: predictions g (context ++ [token]) draft

@[simp]
theorem length_predictions (g : List α → α) (context draft : List α) :
    (predictions g context draft).length = draft.length + 1 := by
  induction draft generalizing context with
  | nil => rfl
  | cons token draft ih => simp [predictions, ih]

theorem predictions_eq_map_range (g : List α → α) (context draft : List α) :
    predictions g context draft =
      (List.range (draft.length + 1)).map fun i => g (context ++ draft.take i) := by
  induction draft generalizing context with
  | nil => simp [predictions]
  | cons token draft ih =>
      rw [predictions, ih, List.length_cons]
      conv_rhs => rw [List.range_succ_eq_map, List.map_cons, List.map_map]
      simp [Function.comp_def]

variable [DecidableEq α]

/-- Comparing a draft with the predictions made along it is comparing it with
the greedy continuation. -/
theorem agreement_predictions (g : List α → α) (context draft : List α) :
    agreement draft (predictions g context draft) =
      agreement draft (greedy g context draft.length) := by
  induction draft generalizing context with
  | nil => simp [agreement]
  | cons token draft ih =>
      rw [predictions, List.length_cons, greedy_succ_eq_cons]
      by_cases same : token = g context
      · simp only [agreement, if_pos same]
        rw [ih, same]
      · simp [agreement, same]

/-- The agreement with the predictions made along a draft is the length of the
longest prefix of the draft that is greedy. -/
theorem isGreatest_agreement_predictions (g : List α → α) (context draft : List α) :
    IsGreatest {n | n ≤ draft.length ∧ draft.take n = greedy g context n}
      (agreement draft (predictions g context draft)) := by
  rw [agreement_predictions]
  convert isGreatest_agreement draft (greedy g context draft.length) using 1
  ext n
  constructor
  · rintro ⟨bound, same⟩
    exact ⟨bound, by rw [same, take_greedy g context bound]⟩
  · rintro ⟨bound, same⟩
    exact ⟨bound, by rw [same, take_greedy g context bound]⟩

/-- The agreed part of a draft followed by the prediction made after it is
greedy. -/
theorem isGreedy_take_agreement (g : List α → α) (context draft : List α) :
    IsGreedy g context
      (draft.take (agreement draft (predictions g context draft)) ++
        (predictions g context draft)[agreement draft (predictions g context draft)]?.toList) := by
  induction draft generalizing context with
  | nil => simp [agreement, predictions, IsGreedy, greedy]
  | cons token draft ih =>
      by_cases same : token = g context
      · have rest := ih (context ++ [token])
        rw [predictions]
        simp only [agreement, if_pos same, List.take_succ_cons, List.getElem?_cons_succ,
          List.cons_append]
        rw [IsGreedy, List.length_cons, greedy_succ_eq_cons, ← same, ← rest]
      · simp [agreement, predictions, same, IsGreedy, greedy]

end StratumBridge.Sequence
