import Mathlib.Data.List.Nodup

/-!
# Insertion-ordered maps

An insertion-ordered map is a list of entries with distinct keys.  Rebinding a
key keeps its position, a new key goes to the end, and a removal closes the gap
without reordering the rest, so positions are meaningful to a walk that starts
in the middle.
-/

namespace StratumBridge.Data

universe u v

/-- A map whose entries are kept in the order their keys were first bound. -/
structure IndexMap (κ : Type u) (α : Type v) where
  entries : List (κ × α)
  nodup : (entries.map Prod.fst).Nodup

namespace IndexMap

variable {κ : Type u} {α : Type v}

/-- The keys, in insertion order. -/
def keys (map : IndexMap κ α) : List κ :=
  map.entries.map Prod.fst

theorem nodup_keys (map : IndexMap κ α) : map.keys.Nodup :=
  map.nodup

@[simp]
theorem length_keys (map : IndexMap κ α) : map.keys.length = map.entries.length :=
  List.length_map _

/-- The map without entries. -/
def empty : IndexMap κ α :=
  ⟨[], List.nodup_nil⟩

variable [DecidableEq κ]

/-- Membership of a key. -/
def contains (map : IndexMap κ α) (key : κ) : Bool :=
  key ∈ map.keys

/-- The value bound to a key. -/
def get? (map : IndexMap κ α) (key : κ) : Option α :=
  map.entries.lookup key

/-- The position of a key. -/
def getIndexOf (map : IndexMap κ α) (key : κ) : Option Nat :=
  map.keys.idxOf? key

/-- Rebind every entry of `key` to `value`. -/
def rebind (entries : List (κ × α)) (key : κ) (value : α) : List (κ × α) :=
  entries.map fun entry => if entry.1 = key then (key, value) else entry

theorem map_fst_rebind (entries : List (κ × α)) (key : κ) (value : α) :
    (rebind entries key value).map Prod.fst = entries.map Prod.fst := by
  rw [rebind, List.map_map]
  apply List.map_congr_left
  intro entry _
  by_cases same : entry.1 = key <;> simp [same]

/-- Bind `key` to `value`: in place when the key is present, at the end
otherwise. -/
def insert (map : IndexMap κ α) (key : κ) (value : α) : IndexMap κ α :=
  if present : key ∈ map.keys then
    ⟨rebind map.entries key value, by rw [map_fst_rebind]; exact map.nodup⟩
  else
    ⟨map.entries ++ [(key, value)], by
      rw [List.map_append, List.nodup_append]
      refine ⟨map.nodup, by simp, ?_⟩
      rintro first firstMem second secondMem rfl
      simp only [List.map_cons, List.map_nil, List.mem_singleton] at secondMem
      exact present (secondMem ▸ firstMem)⟩

/-- Drop the entry of `key`, keeping the order of the others. -/
def shiftRemove (map : IndexMap κ α) (key : κ) : IndexMap κ α :=
  ⟨map.entries.filter fun entry => entry.1 ≠ key,
    map.nodup.sublist (List.filter_sublist.map Prod.fst)⟩

/-- Replace every value by its image. -/
def mapValues (map : IndexMap κ α) (change : α → α) : IndexMap κ α :=
  ⟨map.entries.map fun entry => (entry.1, change entry.2), by
    rw [List.map_map]
    exact map.nodup⟩

omit [DecidableEq κ] in
@[simp]
theorem keys_mapValues (map : IndexMap κ α) (change : α → α) :
    (map.mapValues change).keys = map.keys := by
  rw [keys, keys, mapValues, List.map_map]
  rfl

/-! ## Lookups -/

theorem get?_eq_some_iff_mem {map : IndexMap κ α} {key : κ} {value : α} :
    map.get? key = some value ↔ (key, value) ∈ map.entries := by
  obtain ⟨entries, nodup⟩ := map
  induction entries with
  | nil => simp [get?]
  | cons entry rest ih =>
      obtain ⟨first, held⟩ := entry
      rw [List.map_cons, List.nodup_cons] at nodup
      have ih := ih nodup.2
      simp only [get?] at ih ⊢
      by_cases same : key = first
      · subst same
        have absent : ∀ other, (key, other) ∉ rest := by
          intro other mem
          have keyMem := List.mem_map_of_mem (f := Prod.fst) mem
          exact nodup.1 keyMem
        simp [absent, eq_comm]
      · simp [List.lookup_cons, beq_false_of_ne same, ih, same]

theorem get?_eq_none_iff {map : IndexMap κ α} {key : κ} :
    map.get? key = none ↔ key ∉ map.keys := by
  constructor
  · intro absent mem
    obtain ⟨⟨first, value⟩, entryMem, rfl⟩ := List.mem_map.mp mem
    rw [get?_eq_some_iff_mem.mpr entryMem] at absent
    contradiction
  · intro absent
    cases found : map.get? key with
    | none => rfl
    | some value =>
        have entryMem := get?_eq_some_iff_mem.mp found
        exact absurd (List.mem_map_of_mem (f := Prod.fst) entryMem) absent

theorem mem_keys_of_get?_eq_some {map : IndexMap κ α} {key : κ} {value : α}
    (found : map.get? key = some value) : key ∈ map.keys :=
  List.mem_map_of_mem (f := Prod.fst) (get?_eq_some_iff_mem.mp found)

theorem exists_get?_of_mem_keys {map : IndexMap κ α} {key : κ} (mem : key ∈ map.keys) :
    ∃ value, map.get? key = some value := by
  obtain ⟨⟨first, value⟩, entryMem, rfl⟩ := List.mem_map.mp mem
  exact ⟨value, get?_eq_some_iff_mem.mpr entryMem⟩

theorem mem_insert_entries {map : IndexMap κ α} {key other : κ} {value held : α} :
    (other, held) ∈ (map.insert key value).entries ↔
      if other = key then held = value else (other, held) ∈ map.entries := by
  unfold insert
  split
  · rename_i present
    obtain ⟨previous, previousMem⟩ : ∃ previous, (key, previous) ∈ map.entries := by
      obtain ⟨previous, found⟩ := exists_get?_of_mem_keys present
      exact ⟨previous, get?_eq_some_iff_mem.mp found⟩
    simp only [rebind, List.mem_map, Prod.exists]
    by_cases same : other = key
    · subst same
      simp only [if_true]
      constructor
      · rintro ⟨first, kept, _, entryEq⟩
        by_cases hit : first = other
        · rw [if_pos hit] at entryEq
          exact (Prod.ext_iff.mp entryEq).2.symm
        · rw [if_neg hit] at entryEq
          exact absurd (Prod.ext_iff.mp entryEq).1 hit
      · rintro rfl
        exact ⟨other, previous, previousMem, by simp⟩
    · simp only [if_neg same]
      constructor
      · rintro ⟨first, kept, mem, entryEq⟩
        by_cases hit : first = key
        · rw [if_pos hit] at entryEq
          exact absurd (Prod.ext_iff.mp entryEq).1.symm same
        · rw [if_neg hit] at entryEq
          rwa [← entryEq]
      · intro mem
        exact ⟨other, held, mem, by simp [same]⟩
  · rename_i absent
    by_cases same : other = key
    · subst same
      have notMem : ∀ previous, (other, previous) ∉ map.entries := by
        intro previous mem
        exact absent (List.mem_map_of_mem (f := Prod.fst) mem)
      simp [notMem]
    · simp [same]

@[simp]
theorem get?_insert_self (map : IndexMap κ α) (key : κ) (value : α) :
    (map.insert key value).get? key = some value := by
  rw [get?_eq_some_iff_mem, mem_insert_entries]
  simp

@[simp]
theorem get?_insert_of_ne (map : IndexMap κ α) {key other : κ} (value : α)
    (ne : other ≠ key) : (map.insert key value).get? other = map.get? other := by
  apply Option.ext
  intro held
  rw [get?_eq_some_iff_mem, mem_insert_entries, if_neg ne, get?_eq_some_iff_mem]

@[simp]
theorem get?_shiftRemove_self (map : IndexMap κ α) (key : κ) :
    (map.shiftRemove key).get? key = none := by
  rw [get?_eq_none_iff]
  intro mem
  obtain ⟨entry, entryMem, keyEq⟩ := List.mem_map.mp mem
  simp [shiftRemove, keyEq] at entryMem

@[simp]
theorem get?_shiftRemove_of_ne (map : IndexMap κ α) {key other : κ} (ne : other ≠ key) :
    (map.shiftRemove key).get? other = map.get? other := by
  apply Option.ext
  intro held
  rw [get?_eq_some_iff_mem, get?_eq_some_iff_mem]
  simp [shiftRemove, ne]

@[simp]
theorem get?_mapValues (map : IndexMap κ α) (change : α → α) (key : κ) :
    (map.mapValues change).get? key = (map.get? key).map change := by
  apply Option.ext
  intro held
  rw [get?_eq_some_iff_mem, Option.map_eq_some_iff, mapValues, List.mem_map]
  constructor
  · rintro ⟨⟨first, value⟩, mem, same⟩
    cases same
    exact ⟨value, get?_eq_some_iff_mem.mpr mem, rfl⟩
  · rintro ⟨value, found, rfl⟩
    exact ⟨(key, value), get?_eq_some_iff_mem.mp found, rfl⟩

end IndexMap

end StratumBridge.Data
