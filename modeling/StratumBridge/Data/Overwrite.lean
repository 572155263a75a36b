import Mathlib.Data.List.Basic

/-!
# Files with several writers

Writers with the same contents to write to one file, each from a place of its own on, while
whoever opens the file empties it.  Every place of the file is right, or some writer has
still to come to it; when all of them are through, the file is whole.
-/

namespace StratumBridge.Data

universe u

variable {α : Type u}

/-- A write at an offset.  A gap before it is filled up. -/
def writeAt (fill : α) (contents : List α) (offset : Nat) (chunk : List α) : List α :=
  (contents.take offset ++ List.replicate (offset - contents.length) fill) ++
    (chunk ++ contents.drop (offset + chunk.length))

section WriteAt

variable {fill : α} {contents chunk : List α} {offset idx : Nat}

theorem length_before : (contents.take offset ++
    List.replicate (offset - contents.length) fill).length = offset := by
  simp only [List.length_append, List.length_take, List.length_replicate]
  omega

theorem length_writeAt :
    (writeAt fill contents offset chunk).length = max contents.length (offset + chunk.length) := by
  rw [writeAt, List.length_append, length_before, List.length_append, List.length_drop]
  omega

/-- What was there before the offset is there still. -/
theorem getElem?_writeAt_before (before : idx < offset) (inside : idx < contents.length) :
    (writeAt fill contents offset chunk)[idx]? = contents[idx]? := by
  rw [writeAt, List.getElem?_append_left (by rw [length_before]; exact before),
    List.getElem?_append_left (by rw [List.length_take]; omega), List.getElem?_take_of_lt before]

theorem getElem?_writeAt_within (from_offset : offset ≤ idx)
    (within : idx < offset + chunk.length) :
    (writeAt fill contents offset chunk)[idx]? = chunk[idx - offset]? := by
  rw [writeAt, List.getElem?_append_right (by rw [length_before]; exact from_offset),
    length_before, List.getElem?_append_left (by omega)]

end WriteAt

/-- The contents are those of the target, but for places that a writer has still to come to.
`ahead` holds of the offsets of the writers. -/
structure Filling (target contents : List α) (ahead : Nat → Prop) : Prop where
  bounded : contents.length ≤ target.length
  settled : ∀ idx < target.length,
    contents[idx]? = target[idx]? ∨ ∃ offset, ahead offset ∧ offset ≤ idx

namespace Filling

variable {target contents : List α} {ahead later : Nat → Prop}

/-- With no writers left the file is whole. -/
theorem whole (filling : Filling target contents ahead) (idle : ∀ offset, ¬ ahead offset) :
    contents = target := by
  apply List.ext_getElem?
  intro idx
  by_cases inside : idx < target.length
  · rcases filling.settled idx inside with right | ⟨offset, writes, -⟩
    · exact right
    · exact absurd writes (idle offset)
  · have bounded := filling.bounded
    rw [List.getElem?_eq_none (by omega), List.getElem?_eq_none (by omega)]

theorem refl (target : List α) (ahead : Nat → Prop) : Filling target target ahead :=
  ⟨Nat.le_refl _, fun _ _ => .inl rfl⟩

/-- A writer opens the file. -/
theorem opened (target : List α) (begins : ahead 0) : Filling target [] ahead where
  bounded := Nat.zero_le _
  settled idx _ := .inr ⟨0, begins, Nat.zero_le idx⟩

/-- Writers at the end of the file do not matter. -/
theorem mono (filling : Filling target contents ahead)
    (keeps : ∀ offset, ahead offset → target.length ≤ offset ∨ later offset) :
    Filling target contents later where
  bounded := filling.bounded
  settled idx inside := by
    rcases filling.settled idx inside with right | ⟨offset, writes, before⟩
    · exact .inl right
    · rcases keeps offset writes with ended | still
      · exact absurd inside (Nat.not_lt.mpr (Nat.le_trans ended before))
      · exact .inr ⟨offset, still, before⟩

/-- A writer writes its next chunk and moves on behind it. -/
theorem write (filling : Filling target contents ahead) (fill : α) {offset count : Nat}
    (within : offset + count ≤ target.length)
    (keeps : ∀ other, ahead other → other = offset ∨ later other)
    (moves : later (offset + count)) :
    Filling target (writeAt fill contents offset ((target.drop offset).take count)) later where
  bounded := by
    have bounded := filling.bounded
    rw [length_writeAt, List.length_take, List.length_drop]
    omega
  settled idx inside := by
    have size : ((target.drop offset).take count).length = count := by
      rw [List.length_take, List.length_drop]
      omega
    rcases Nat.lt_or_ge idx offset with before | reached
    · rcases filling.settled idx inside with right | ⟨other, writes, behind⟩
      · have held : idx < contents.length := by
          by_contra beyond
          rw [List.getElem?_eq_none (Nat.not_lt.mp beyond),
            List.getElem?_eq_getElem inside] at right
          cases right
        exact .inl ((getElem?_writeAt_before before held).trans right)
      · rcases keeps other writes with same | still
        · omega
        · exact .inr ⟨other, still, behind⟩
    · rcases Nat.lt_or_ge idx (offset + count) with written | beyond
      · left
        rw [getElem?_writeAt_within reached (by rw [size]; exact written),
          List.getElem?_take_of_lt (by omega), List.getElem?_drop]
        congr 1
        omega
      · exact .inr ⟨offset + count, moves, beyond⟩

end Filling

end StratumBridge.Data
