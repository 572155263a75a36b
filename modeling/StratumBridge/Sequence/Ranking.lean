import Mathlib.Data.List.Sort
import Mathlib.Order.Basic

/-!
# The best of some candidates

The best candidates under a total order, best first.  There is one such list, whichever
way the candidates are listed: sorting them and taking the first gives it, and so does
taking the best one and then the best of the others.
-/

namespace StratumBridge.Sequence

universe u

variable {α : Type u}

/-- As many of the candidates as are wanted, or all of them, in order and once each; no
candidate is passed over for one that comes after it. -/
structure Best (before : α → α → Prop) (candidate : α → Prop) (wanted : Nat)
    (list : List α) : Prop where
  ordered : list.Pairwise before
  nodup : list.Nodup
  candidates : ∀ one ∈ list, candidate one
  atMost : list.length ≤ wanted
  others : ∀ other, candidate other → other ∉ list →
    list.length = wanted ∧ ∀ one ∈ list, before one other

variable {before : α → α → Prop} {candidate : α → Prop} {wanted : Nat} {first : α}
  {list rest other : List α}

/-! ## One after another -/

theorem notMem_cons_iff {one : α} : one ∉ first :: rest ↔ one ≠ first ∧ one ∉ rest := by
  rw [List.mem_cons, not_or]

theorem best_zero_iff : Best before candidate 0 list ↔ list = [] := by
  constructor
  · exact fun best => List.eq_nil_of_length_eq_zero (Nat.le_zero.mp best.atMost)
  · rintro rfl
    exact ⟨.nil, .nil, fun _ mem => absurd mem List.not_mem_nil, Nat.le_refl 0,
      fun _ _ _ => ⟨rfl, fun _ mem => absurd mem List.not_mem_nil⟩⟩

theorem best_nil_iff : Best before candidate (wanted + 1) [] ↔ ∀ one, ¬ candidate one := by
  constructor
  · intro best one isCandidate
    exact absurd (best.others one isCandidate List.not_mem_nil).1 (Nat.succ_ne_zero _).symm
  · intro nobody
    exact ⟨.nil, .nil, fun _ mem => absurd mem List.not_mem_nil, Nat.zero_le _,
      fun one isCandidate => absurd isCandidate (nobody one)⟩

/-- The best candidate, and then the best of the others. -/
theorem best_cons_iff : Best before candidate (wanted + 1) (first :: rest) ↔
    candidate first ∧ (∀ one, candidate one → one ≠ first → before first one) ∧
      Best before (fun one => candidate one ∧ one ≠ first) wanted rest := by
  constructor
  · rintro ⟨ordered, nodup, candidates, atMost, others⟩
    rw [List.pairwise_cons] at ordered
    rw [List.nodup_cons] at nodup
    refine ⟨candidates first List.mem_cons_self, ?_, ordered.2, nodup.2, ?_,
      Nat.le_of_succ_le_succ atMost, ?_⟩
    · intro one isCandidate ne
      by_cases listed : one ∈ rest
      · exact ordered.1 one listed
      · have unlisted : one ∉ first :: rest := notMem_cons_iff.mpr ⟨ne, listed⟩
        exact (others one isCandidate unlisted).2 first List.mem_cons_self
    · intro one mem
      exact ⟨candidates one (List.mem_cons_of_mem _ mem), ne_of_mem_of_not_mem mem nodup.1⟩
    · intro one ⟨isCandidate, ne⟩ unlisted
      obtain ⟨length, ranks⟩ := others one isCandidate (notMem_cons_iff.mpr ⟨ne, unlisted⟩)
      exact ⟨Nat.succ.inj length, fun other mem => ranks other (List.mem_cons_of_mem _ mem)⟩
  · rintro ⟨isFirst, leads, ordered, nodup, candidates, atMost, others⟩
    have apart : first ∉ rest := fun mem => (candidates first mem).2 rfl
    refine ⟨List.pairwise_cons.mpr ⟨?_, ordered⟩, List.nodup_cons.mpr ⟨apart, nodup⟩, ?_,
      Nat.succ_le_succ atMost, ?_⟩
    · intro one mem
      exact leads one (candidates one mem).1 (candidates one mem).2
    · intro one mem
      rcases List.mem_cons.mp mem with rfl | mem
      · exact isFirst
      · exact (candidates one mem).1
    · intro one isCandidate unlisted
      obtain ⟨ne, notInRest⟩ := notMem_cons_iff.mp unlisted
      obtain ⟨length, ranks⟩ := others one ⟨isCandidate, ne⟩ notInRest
      refine ⟨congrArg Nat.succ length, fun other mem => ?_⟩
      rcases List.mem_cons.mp mem with rfl | mem
      · exact leads one isCandidate ne
      · exact ranks other mem

theorem Best.congr {alike : α → Prop} (best : Best before candidate wanted list)
    (same : ∀ one, candidate one ↔ alike one) : Best before alike wanted list :=
  (funext fun one => propext (same one) : candidate = alike) ▸ best

/-- There is one list of the best. -/
theorem Best.unique [Std.Antisymm before] (best : Best before candidate wanted list)
    (too : Best before candidate wanted other) : list = other := by
  induction wanted generalizing candidate list other with
  | zero => rw [best_zero_iff.mp best, best_zero_iff.mp too]
  | succ wanted ih =>
      cases list with
      | nil =>
          cases other with
          | nil => rfl
          | cons second others =>
              exact absurd (best_cons_iff.mp too).1 (best_nil_iff.mp best second)
      | cons first rest =>
          obtain ⟨isCandidate, leads, later⟩ := best_cons_iff.mp best
          cases other with
          | nil => exact absurd isCandidate (best_nil_iff.mp too first)
          | cons second others =>
              obtain ⟨isCandidateToo, leadsToo, laterToo⟩ := best_cons_iff.mp too
              have same : first = second := by
                by_contra ne
                exact ne (antisymm (leads second isCandidateToo (Ne.symm ne))
                  (leadsToo first isCandidate ne))
              subst same
              rw [ih later laterToo]

/-! ## All at once -/

/-- The first of the sorted candidates are the best. -/
theorem best_take_insertionSort [DecidableRel before] [Std.Total before] [IsTrans α before]
    (nodup : list.Nodup) (wanted : Nat) :
    Best before (· ∈ list) wanted ((list.insertionSort before).take wanted) := by
  have ordered : (list.insertionSort before).Pairwise before := List.pairwise_insertionSort ..
  refine ⟨ordered.sublist (List.take_sublist ..), ?_, ?_, List.length_take_le .., ?_⟩
  · exact ((List.perm_insertionSort before list).nodup_iff.mpr nodup).sublist
      (List.take_sublist ..)
  · intro one mem
    exact (List.mem_insertionSort before).mp (List.mem_of_mem_take mem)
  · intro one isCandidate unlisted
    rw [← List.take_append_drop wanted (list.insertionSort before)] at ordered
    have split : one ∈ (list.insertionSort before).take wanted ++
        (list.insertionSort before).drop wanted := by
      rw [List.take_append_drop, List.mem_insertionSort]
      exact isCandidate
    have dropped := (List.mem_append.mp split).resolve_left unlisted
    have longer : wanted < (list.insertionSort before).length := by
      by_contra short
      rw [List.drop_eq_nil_of_le (Nat.le_of_not_lt short)] at dropped
      cases dropped
    exact ⟨List.length_take_of_le longer.le,
      fun other mem => (List.pairwise_append.mp ordered).2.2 other mem one dropped⟩

end StratumBridge.Sequence
