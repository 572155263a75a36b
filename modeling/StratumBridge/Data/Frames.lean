import Mathlib.Data.List.Basic

/-!
# Length-prefixed frames

Contents of any length after one another, each after its length.  Where the lengths
are written in a fixed width and stay below the bound from which they repeat, the
frames can be told apart, whatever follows them.
-/

namespace StratumBridge.Data

universe u

/-- Numbers below a bound are written in a fixed width and without ambiguity. -/
structure Counts {β : Type u} (count : Nat → List β) (width bound : Nat) : Prop where
  length : ∀ n, (count n).length = width
  injective : ∀ m n, m < bound → n < bound → count m = count n → m = n

/-- A content after its length. -/
def frame {β : Type u} (count : Nat → List β) (content : List β) : List β :=
  count content.length ++ content

/-- Contents after one another. -/
def frames {β : Type u} (count : Nat → List β) (contents : List (List β)) : List β :=
  contents.flatMap (frame count)

variable {β : Type u} {count : Nat → List β} {width bound : Nat}

/-- A number and what follows it are read in one way. -/
theorem Counts.append_inj (counts : Counts count width bound) {m n : Nat} {rest left : List β}
    (small : m < bound) (alsoSmall : n < bound) (same : count m ++ rest = count n ++ left) :
    m = n ∧ rest = left := by
  have lengths : (count m).length = (count n).length :=
    (counts.length m).trans (counts.length n).symm
  have parts := List.append_inj same lengths
  exact ⟨counts.injective m n small alsoSmall parts.1, parts.2⟩

/-- So are a frame and what follows it. -/
theorem frame_append_inj (counts : Counts count width bound) {first second rest left : List β}
    (small : first.length < bound) (alsoSmall : second.length < bound)
    (same : frame count first ++ rest = frame count second ++ left) :
    first = second ∧ rest = left := by
  rw [frame, frame, List.append_assoc, List.append_assoc] at same
  have parts := counts.append_inj small alsoSmall same
  exact List.append_inj parts.2 parts.1

/-- So are as many frames. -/
theorem frames_append_inj (counts : Counts count width bound) {contents others : List (List β)}
    {rest left : List β} (many : contents.length = others.length)
    (small : ∀ content ∈ contents, content.length < bound)
    (alsoSmall : ∀ content ∈ others, content.length < bound)
    (same : frames count contents ++ rest = frames count others ++ left) :
    contents = others ∧ rest = left := by
  induction contents generalizing others with
  | nil =>
      cases others with
      | nil => exact ⟨rfl, same⟩
      | cons other others => cases many
  | cons content contents ih =>
      cases others with
      | nil => cases many
      | cons other others =>
          rw [frames, frames, List.flatMap_cons, List.flatMap_cons, List.append_assoc,
            List.append_assoc] at same
          have first := frame_append_inj counts (small content List.mem_cons_self)
            (alsoSmall other List.mem_cons_self) same
          have others := ih (Nat.succ.inj many)
            (fun content mem => small content (List.mem_cons_of_mem _ mem))
            (fun content mem => alsoSmall content (List.mem_cons_of_mem _ mem)) first.2
          exact ⟨by rw [first.1, others.1], others.2⟩

end StratumBridge.Data
