import StratumBridge.Data.IndexMap
import Mathlib.Data.List.Range
import Mathlib.Data.List.Rotate

/-!
# Round-robin selection

Selection of the first acceptable key after the one served last, in insertion
order and wrapping around.  When the key served last is gone, the walk starts
at the beginning.  Walks that go on from each other's answers give every acceptable
key its turn.
-/

namespace StratumBridge.Data.IndexMap

universe u v

variable {κ : Type u} {α : Type v} [DecidableEq κ]

/-- The position the walk starts from. -/
def startIndex (map : IndexMap κ α) (last : Option κ) : Nat :=
  match last.bind map.getIndexOf with
  | some index => (index + 1) % map.keys.length
  | none => 0

theorem getIndexOf_getElem {map : IndexMap κ α} {index : Nat} (bound : index < map.keys.length) :
    map.getIndexOf map.keys[index] = some index := by
  rw [getIndexOf, List.idxOf?_eq_some_iff]
  refine ⟨bound, by simp, fun earlier before same => ?_⟩
  have equal := map.nodup_keys.getElem_inj_iff.mp same
  omega

theorem startIndex_getElem {map : IndexMap κ α} {index : Nat} (bound : index < map.keys.length) :
    map.startIndex (some map.keys[index]) = (index + 1) % map.keys.length := by
  rw [startIndex, Option.bind_some, getIndexOf_getElem bound]

theorem startIndex_le (map : IndexMap κ α) (last : Option κ) :
    map.startIndex last ≤ map.keys.length := by
  unfold startIndex
  split
  · rename_i index found
    have positive : 0 < map.keys.length := by
      obtain ⟨key, -, position⟩ := Option.bind_eq_some_iff.mp found
      obtain ⟨below, -⟩ := List.idxOf?_eq_some_iff.mp position
      exact Nat.lt_of_le_of_lt (Nat.zero_le _) below
    exact Nat.le_of_lt (Nat.mod_lt _ positive)
  · exact Nat.zero_le _

/-- The first acceptable key at or after the start position, wrapping
around. -/
def nextAfter (map : IndexMap κ α) (last : Option κ) (accept : κ → Bool) : Option κ :=
  (List.range map.keys.length).findSome? fun offset =>
    (map.keys[(map.startIndex last + offset) % map.keys.length]?).filter accept

theorem nextAfter_eq_some {map : IndexMap κ α} {last : Option κ} {accept : κ → Bool} {key : κ}
    (picked : map.nextAfter last accept = some key) : key ∈ map.keys ∧ accept key = true := by
  obtain ⟨offset, _, found⟩ := List.exists_of_findSome?_eq_some picked
  obtain ⟨present, accepted⟩ := Option.filter_eq_some_iff.mp found
  exact ⟨List.mem_of_getElem? present, accepted⟩

/-- Every position is visited, so nothing is selected only when nothing is
acceptable. -/
theorem nextAfter_eq_none_iff {map : IndexMap κ α} {last : Option κ} {accept : κ → Bool} :
    map.nextAfter last accept = none ↔ ∀ key ∈ map.keys, accept key = false := by
  constructor
  · intro missed key mem
    obtain ⟨index, bound, rfl⟩ := List.getElem_of_mem mem
    set start := map.startIndex last
    set size := map.keys.length
    have positive : 0 < size := Nat.lt_of_le_of_lt (Nat.zero_le _) bound
    -- the offset that brings the walk to `index`
    have arrives : (start + (index + size - start % size) % size) % size = index := by
      have below : start % size < size := Nat.mod_lt _ positive
      rw [Nat.add_mod, Nat.mod_mod, ← Nat.add_mod, ← Nat.mod_add_mod,
        show start % size + (index + size - start % size) = index + size by omega,
        Nat.add_mod_right, Nat.mod_eq_of_lt bound]
    have skipped := List.findSome?_eq_none_iff.mp missed ((index + size - start % size) % size)
      (List.mem_range.mpr (Nat.mod_lt _ positive))
    rw [arrives, List.getElem?_eq_getElem bound, Option.filter_eq_none_iff] at skipped
    simpa using skipped _ rfl
  · intro refused
    apply List.findSome?_eq_none_iff.mpr
    intro offset _
    rw [Option.filter_eq_none_iff]
    intro key present
    simpa using refused key (List.mem_of_getElem? present)

/-- Every acceptable key is selected next from some position of the walk. -/
theorem exists_nextAfter_eq {map : IndexMap κ α} {accept : κ → Bool} {key : κ}
    (mem : key ∈ map.keys) (accepted : accept key = true) :
    ∃ last, map.nextAfter last accept = some key := by
  obtain ⟨index, bound, rfl⟩ := List.getElem_of_mem mem
  have hit : ∀ last, map.startIndex last = index →
      map.nextAfter last accept = some map.keys[index] := by
    intro last here
    obtain ⟨rest, size⟩ := Nat.exists_eq_succ_of_ne_zero (Nat.ne_of_gt (Nat.zero_lt_of_lt bound))
    unfold nextAfter
    rw [here, size, List.range_succ_eq_map, List.findSome?_cons, ← size, Nat.add_zero,
      Nat.mod_eq_of_lt bound, List.getElem?_eq_getElem bound, Option.filter_some, accepted]
    rfl
  cases index with
  | zero => exact ⟨none, hit none rfl⟩
  | succ previous =>
      have below : previous < map.keys.length := Nat.lt_of_succ_lt bound
      refine ⟨some map.keys[previous], hit _ ?_⟩
      rw [startIndex_getElem below]
      exact Nat.mod_eq_of_lt bound

/-! ## The order of the answers -/

section Lists

variable (keys : List κ) (accept : κ → Bool)

omit [DecidableEq κ]

theorem filter_take_append_drop (index : Nat) :
    (keys.take index).filter accept ++ (keys.drop index).filter accept = keys.filter accept := by
  rw [← List.filter_append, List.take_append_drop]

/-- What is kept of a rotated list is rotated by what is kept of the part moved. -/
theorem filter_rotate {index : Nat} (within : index ≤ keys.length) :
    (keys.rotate index).filter accept =
      (keys.filter accept).rotate ((keys.take index).filter accept).length := by
  rw [List.rotate_eq_drop_append_take within, List.filter_append,
    ← filter_take_append_drop keys accept index, List.rotate_append_length_eq]

theorem findSome?_range :
    ((List.range keys.length).findSome? fun index => (keys[index]?).filter accept) =
      keys.find? accept := by
  induction keys with
  | nil => rfl
  | cons key rest ih =>
      rw [List.length_cons, List.range_succ_eq_map, List.findSome?_cons, List.getElem?_cons_zero,
        List.findSome?_map, List.find?_cons]
      cases accepted : accept key with
      | true => rw [Option.filter_some, accepted, if_pos rfl]
      | false =>
          rw [Option.filter_some, accepted, if_neg Bool.false_ne_true]
          exact ih

variable {keys accept} {index : Nat} {bound : index < keys.length}

theorem filter_take_succ (accepted : accept keys[index] = true) :
    (keys.take (index + 1)).filter accept =
      (keys.take index).filter accept ++ [keys[index]] := by
  rw [List.take_succ_eq_append_getElem bound, List.filter_append, List.filter_singleton, accepted]
  rfl

/-- A key that is kept comes behind what is kept of the keys before it. -/
theorem getElem?_filter (accepted : accept keys[index] = true) :
    (keys.filter accept)[((keys.take index).filter accept).length]? = some keys[index] := by
  rw [← filter_take_append_drop keys accept (index + 1), filter_take_succ accepted,
    List.append_assoc, List.getElem?_append_right (Nat.le_refl _), Nat.sub_self]
  rfl

end Lists

/-- The walk reads the keys from the start position on. -/
theorem nextAfter_eq_find? (map : IndexMap κ α) (last : Option κ) (accept : κ → Bool) :
    map.nextAfter last accept = (map.keys.rotate (map.startIndex last)).find? accept := by
  have same : ((List.range map.keys.length).map fun offset =>
      map.keys[(map.startIndex last + offset) % map.keys.length]?) =
      (List.range map.keys.length).map fun offset =>
        (map.keys.rotate (map.startIndex last))[offset]? := by
    apply List.map_congr_left
    intro offset mem
    rw [List.getElem?_rotate (List.mem_range.mp mem), Nat.add_comm]
  have walked := congrArg (List.findSome? fun key => key.filter accept) same
  rw [List.findSome?_map, List.findSome?_map] at walked
  rw [← findSome?_range, List.length_rotate]
  exact walked

/-- How many acceptable keys come before the start position. -/
def turn (map : IndexMap κ α) (last : Option κ) (accept : κ → Bool) : Nat :=
  ((map.keys.take (map.startIndex last)).filter accept).length

theorem nextAfter_eq_head? (map : IndexMap κ α) (last : Option κ) (accept : κ → Bool) :
    map.nextAfter last accept =
      ((map.keys.filter accept).rotate (map.turn last accept)).head? := by
  rw [nextAfter_eq_find?, ← List.head?_filter, filter_rotate _ _ (map.startIndex_le last)]
  rfl

/-- After an acceptable key it is the turn of the acceptable key behind it. -/
theorem rotate_turn {map : IndexMap κ α} {accept : κ → Bool} {key : κ} {count : Nat}
    (first : ((map.keys.filter accept).rotate count).head? = some key) :
    (map.keys.filter accept).rotate (map.turn (some key) accept) =
      (map.keys.filter accept).rotate (count + 1) := by
  have positive : 0 < (map.keys.filter accept).length := by
    obtain ⟨rest, listed⟩ := List.head?_eq_some_iff.mp first
    rw [← List.length_rotate, listed]
    exact Nat.succ_pos _
  rw [← List.rotate_mod, List.head?_rotate (Nat.mod_lt _ positive)] at first
  obtain ⟨mem, accepted⟩ := List.mem_filter.mp (List.mem_of_getElem? first)
  obtain ⟨index, bound, rfl⟩ := List.getElem_of_mem mem
  have before : count % (map.keys.filter accept).length =
      ((map.keys.take index).filter accept).length :=
    (List.getElem?_inj (Nat.mod_lt _ positive) (map.nodup_keys.filter accept)).mp
      (first.trans (getElem?_filter accepted).symm)
  have next : (map.keys.filter accept).rotate (count + 1) =
      (map.keys.filter accept).rotate ((map.keys.take (index + 1)).filter accept).length := by
    rw [filter_take_succ accepted, List.length_append, ← before, List.length_singleton,
      ← List.rotate_rotate, ← List.rotate_rotate, List.rotate_mod]
  rw [turn, startIndex_getElem bound, next]
  rcases Nat.lt_or_ge (index + 1) map.keys.length with inner | outer
  · rw [Nat.mod_eq_of_lt inner]
  · -- the last key is followed by the first
    have last : index + 1 = map.keys.length := Nat.le_antisymm bound outer
    rw [last, Nat.mod_self, List.take_length, List.rotate_length]
    exact List.rotate_zero _

/-- Induction on the number of walks: each answer is the acceptable key behind the
last one. -/
theorem nextAfter_iterate (map : IndexMap κ α) (last : Option κ) (accept : κ → Bool)
    (count : Nat) : (fun last => map.nextAfter last accept)^[count + 1] last =
      ((map.keys.filter accept).rotate (map.turn last accept + count)).head? := by
  induction count with
  | zero => exact map.nextAfter_eq_head? last accept
  | succ count ih =>
      rw [Function.iterate_succ_apply', ih, nextAfter_eq_head?]
      cases first : ((map.keys.filter accept).rotate (map.turn last accept + count)).head? with
      | none =>
          have nobody : map.keys.filter accept = [] :=
            List.rotate_eq_nil_iff.mp (List.head?_eq_none_iff.mp first)
          rw [nobody, List.rotate_nil, List.rotate_nil]
      | some key => rw [rotate_turn first, Nat.add_assoc]

/-- As many walks as there are acceptable keys answer with all of them. -/
theorem map_nextAfter_iterate (map : IndexMap κ α) (last : Option κ) (accept : κ → Bool) :
    ((List.range (map.keys.filter accept).length).map fun count =>
        (fun last => map.nextAfter last accept)^[count + 1] last) =
      ((map.keys.filter accept).rotate (map.turn last accept)).map some := by
  apply List.ext_getElem?
  intro count
  rw [List.getElem?_map, List.getElem?_map]
  rcases Nat.lt_or_ge count (map.keys.filter accept).length with inner | outer
  · have within : count < ((map.keys.filter accept).rotate (map.turn last accept)).length := by
      rwa [List.length_rotate]
    rw [List.getElem?_range inner, Option.map_some, nextAfter_iterate, ← List.rotate_rotate,
      List.head?_rotate within, List.getElem?_eq_getElem within]
    rfl
  · rw [List.getElem?_eq_none (by rwa [List.length_range]),
      List.getElem?_eq_none (by rwa [List.length_rotate])]
    rfl

theorem nextAfter_iterate_add (map : IndexMap κ α) (last : Option κ) (accept : κ → Bool)
    (count : Nat) :
    (fun last => map.nextAfter last accept)^[count + (map.keys.filter accept).length + 1] last =
      (fun last => map.nextAfter last accept)^[count + 1] last := by
  rw [nextAfter_iterate, nextAfter_iterate, ← Nat.add_assoc, ← List.rotate_rotate,
    ← List.length_rotate (map.keys.filter accept) (map.turn last accept + count),
    List.rotate_length]

end StratumBridge.Data.IndexMap
