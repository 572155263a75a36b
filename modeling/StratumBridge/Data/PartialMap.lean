import Mathlib.Logic.Function.Basic

/-!
# Partial maps

A map keyed by `κ` is the partial function it denotes.  Iteration order is not
part of a partial map: code that walks one receives the walk from outside.
-/

namespace StratumBridge.Data

universe u v

/-- A map from keys to values, undefined off its keys. -/
abbrev PartialMap (κ : Type u) (α : Type v) := κ → Option α

namespace PartialMap

variable {κ : Type u} {α : Type v}

/-- The map without entries. -/
def empty : PartialMap κ α :=
  fun _ => none

@[simp]
theorem empty_apply (key : κ) : (empty : PartialMap κ α) key = none :=
  rfl

/-- Keep only the entries whose value satisfies `keep`. -/
def retain (keep : α → Bool) (map : PartialMap κ α) : PartialMap κ α :=
  fun key => (map key).filter keep

theorem retain_apply (keep : α → Bool) (map : PartialMap κ α) (key : κ) :
    map.retain keep key = (map key).filter keep :=
  rfl

@[simp]
theorem retain_eq_some_iff {keep : α → Bool} {map : PartialMap κ α} {key : κ} {value : α} :
    map.retain keep key = some value ↔ map key = some value ∧ keep value = true := by
  simp [retain_apply, Option.filter_eq_some_iff]

theorem retain_eq_none_of_eq_none {keep : α → Bool} {map : PartialMap κ α} {key : κ}
    (absent : map key = none) : map.retain keep key = none := by
  simp [retain_apply, absent]

theorem retain_eq_self_or_none (keep : α → Bool) (map : PartialMap κ α) (key : κ) :
    map.retain keep key = map key ∨ map.retain keep key = none := by
  rw [retain_apply]
  cases map key with
  | none => exact .inl rfl
  | some value =>
      cases kept : keep value with
      | true => exact .inl (by simp [kept])
      | false => exact .inr (by simp [kept])

variable [DecidableEq κ]

/-- Bind `key` to `value`, replacing what was there. -/
def insert (map : PartialMap κ α) (key : κ) (value : α) : PartialMap κ α :=
  Function.update map key (some value)

/-- Drop the entry at `key`, if there is one. -/
def remove (map : PartialMap κ α) (key : κ) : PartialMap κ α :=
  Function.update map key none

@[simp]
theorem insert_self (map : PartialMap κ α) (key : κ) (value : α) :
    map.insert key value key = some value :=
  Function.update_self ..

@[simp]
theorem insert_of_ne (map : PartialMap κ α) {key other : κ} (value : α) (ne : other ≠ key) :
    map.insert key value other = map other :=
  Function.update_of_ne ne ..

theorem insert_apply (map : PartialMap κ α) (key other : κ) (value : α) :
    map.insert key value other = if other = key then some value else map other :=
  Function.update_apply ..

@[simp]
theorem remove_self (map : PartialMap κ α) (key : κ) : map.remove key key = none :=
  Function.update_self ..

@[simp]
theorem remove_of_ne (map : PartialMap κ α) {key other : κ} (ne : other ≠ key) :
    map.remove key other = map other :=
  Function.update_of_ne ne ..

theorem remove_apply (map : PartialMap κ α) (key other : κ) :
    map.remove key other = if other = key then none else map other :=
  Function.update_apply ..

/-- What is there after an insertion was inserted or was there before it. -/
theorem of_insert_eq_some {map : PartialMap κ α} {key other : κ} {value held : α}
    (present : map.insert key value other = some held) :
    other = key ∧ value = held ∨ other ≠ key ∧ map other = some held := by
  by_cases same : other = key
  · subst same
    rw [insert_self] at present
    exact .inl ⟨rfl, Option.some.inj present⟩
  · rw [insert_of_ne _ _ same] at present
    exact .inr ⟨same, present⟩

/-- What survives a removal was there before it. -/
theorem of_remove_eq_some {map : PartialMap κ α} {key other : κ} {value : α}
    (present : map.remove key other = some value) : other ≠ key ∧ map other = some value := by
  by_cases same : other = key
  · subst same
    simp at present
  · rw [remove_of_ne _ same] at present
    exact ⟨same, present⟩

end PartialMap

end StratumBridge.Data
