import StratumBridge.Data.IndexMap

/-!
# Tables

A database table is a map from serial ids to rows, together with a unique
index.  The index gives some rows a key, and no two rows may have the same key;
a statement that would break this is refused and changes nothing.
-/

namespace StratumBridge.Data

universe u v

/-- The keys that an index gives to a sequence of entries. -/
def indexed {ρ : Type u} {κ : Type v} (key : ρ → Option κ) (entries : List (Nat × ρ)) : List κ :=
  entries.filterMap fun entry => key entry.2

/-- A table whose rows are indexed by `key` where that is defined. -/
structure Table (ρ : Type u) (κ : Type v) (key : ρ → Option κ) where
  rows : IndexMap Nat ρ
  nextId : Nat
  fresh : ∀ id ∈ rows.keys, id < nextId
  unique : (indexed key rows.entries).Nodup

namespace Table

variable {ρ : Type u} {κ : Type v} {key : ρ → Option κ}

/-- The table without rows. -/
def empty : Table ρ κ key :=
  ⟨IndexMap.empty, 1, by simp [IndexMap.empty, IndexMap.keys], List.nodup_nil⟩

/-- The row with a given id. -/
def find? (table : Table ρ κ key) (id : Nat) : Option ρ :=
  table.rows.get? id

/-- The rows that satisfy a condition, with their ids. -/
def select (table : Table ρ κ key) (condition : ρ → Bool) : List (Nat × ρ) :=
  table.rows.entries.filter fun entry => condition entry.2

@[simp]
theorem find?_empty (id : Nat) : (empty : Table ρ κ key).find? id = none :=
  rfl

theorem find?_nextId (table : Table ρ κ key) : table.find? table.nextId = none := by
  rw [find?, IndexMap.get?_eq_none_iff]
  intro mem
  exact absurd (table.fresh _ mem) (Nat.lt_irrefl _)

@[simp]
theorem mem_select {table : Table ρ κ key} {condition : ρ → Bool} {id : Nat} {row : ρ} :
    (id, row) ∈ table.select condition ↔ table.find? id = some row ∧ condition row = true := by
  rw [select, List.mem_filter, find?, IndexMap.get?_eq_some_iff_mem]

/-- A selection lists every id at most once. -/
theorem nodup_select (table : Table ρ κ key) (condition : ρ → Bool) :
    ((table.select condition).map Prod.fst).Nodup :=
  table.rows.nodup.sublist (List.filter_sublist.map Prod.fst)

theorem indexed_cons_some {id : Nat} {row : ρ} {rest : List (Nat × ρ)} {value : κ}
    (keyed : key row = some value) :
    indexed key ((id, row) :: rest) = value :: indexed key rest :=
  List.filterMap_cons_some (f := fun entry : Nat × ρ => key entry.2) keyed

theorem mem_indexed {id : Nat} {row : ρ} {entries : List (Nat × ρ)} {value : κ}
    (mem : (id, row) ∈ entries) (keyed : key row = some value) : value ∈ indexed key entries :=
  List.mem_filterMap.mpr ⟨(id, row), mem, keyed⟩

theorem nodup_indexed_singleton (id : Nat) (row : ρ) : (indexed key [(id, row)]).Nodup := by
  cases keyed : key row with
  | none => simp [indexed, keyed]
  | some value => simp [indexed, keyed]

/-- Entries with the same key have the same id. -/
theorem eq_of_indexed {entries : List (Nat × ρ)} (unique : (indexed key entries).Nodup)
    {id other : Nat} {row otherRow : ρ} {value : κ} (mem : (id, row) ∈ entries)
    (otherMem : (other, otherRow) ∈ entries) (keyed : key row = some value)
    (otherKeyed : key otherRow = some value) : id = other := by
  induction entries with
  | nil => cases mem
  | cons entry rest ih =>
      rcases List.mem_cons.mp mem with rfl | inRest
      · rcases List.mem_cons.mp otherMem with same | otherInRest
        · exact (congrArg Prod.fst same).symm
        · rw [indexed_cons_some keyed, List.nodup_cons] at unique
          exact absurd (mem_indexed otherInRest otherKeyed) unique.1
      · rcases List.mem_cons.mp otherMem with rfl | otherInRest
        · rw [indexed_cons_some otherKeyed, List.nodup_cons] at unique
          exact absurd (mem_indexed inRest keyed) unique.1
        · have restUnique : (indexed key rest).Nodup :=
            unique.sublist (List.Sublist.filterMap _ (List.sublist_cons_self entry rest))
          exact ih restUnique inRest otherInRest

/-- Rows with the same key are the same row. -/
theorem eq_of_key_eq {table : Table ρ κ key} {id other : Nat} {row otherRow : ρ} {value : κ}
    (found : table.find? id = some row) (otherFound : table.find? other = some otherRow)
    (keyed : key row = some value) (otherKeyed : key otherRow = some value) : id = other :=
  eq_of_indexed table.unique (IndexMap.get?_eq_some_iff_mem.mp found)
    (IndexMap.get?_eq_some_iff_mem.mp otherFound) keyed otherKeyed

theorem mem_keys_insert {rows : IndexMap Nat ρ} {id other : Nat} {row : ρ}
    (mem : other ∈ (rows.insert id row).keys) : other = id ∨ other ∈ rows.keys := by
  obtain ⟨held, found⟩ := IndexMap.exists_get?_of_mem_keys mem
  by_cases same : other = id
  · exact .inl same
  · rw [IndexMap.get?_insert_of_ne _ _ same] at found
    exact .inr (IndexMap.mem_keys_of_get?_eq_some found)

/-- Replacing a row by one with the same key does not change the index. -/
theorem indexed_insert {rows : IndexMap Nat ρ} {id : Nat} {row now : ρ}
    (found : rows.get? id = some row) (same : key now = key row) :
    indexed key (rows.insert id now).entries = indexed key rows.entries := by
  have present : id ∈ rows.keys := IndexMap.mem_keys_of_get?_eq_some found
  have entries : (rows.insert id now).entries = IndexMap.rebind rows.entries id now := by
    rw [IndexMap.insert, dif_pos present]
  rw [entries, indexed, indexed, IndexMap.rebind, List.filterMap_map]
  apply List.filterMap_congr
  rintro ⟨first, held⟩ mem
  by_cases hit : first = id
  · subst hit
    rw [IndexMap.get?_eq_some_iff_mem.mpr mem] at found
    cases found
    simpa using same
  · simp [hit]

/-- Replacing a row by one without a key removes at most a key from the index. -/
theorem indexed_insert_sublist {rows : IndexMap Nat ρ} {id : Nat} {row now : ρ}
    (found : rows.get? id = some row) (free : key now = none) :
    (indexed key (rows.insert id now).entries).Sublist (indexed key rows.entries) := by
  have present : id ∈ rows.keys := IndexMap.mem_keys_of_get?_eq_some found
  have entries : (rows.insert id now).entries = IndexMap.rebind rows.entries id now := by
    rw [IndexMap.insert, dif_pos present]
  rw [entries, IndexMap.rebind, indexed, indexed, List.filterMap_map]
  generalize rows.entries = list
  induction list with
  | nil => exact List.Sublist.slnil
  | cons entry rest ih =>
      rw [List.filterMap_cons, List.filterMap_cons]
      by_cases hit : entry.1 = id
      · simp only [Function.comp_apply, hit, if_true, free]
        split
        · exact ih
        · exact ih.cons _
      · simp only [Function.comp_apply, hit, if_false]
        split
        · exact ih
        · exact ih.cons_cons _

variable [DecidableEq κ]

/-- `INSERT`: a row under the next id, refused if its key is taken. -/
def insert (table : Table ρ κ key) (row : ρ) : Option (Table ρ κ key) :=
  if unique : (indexed key (table.rows.insert table.nextId row).entries).Nodup then
    some ⟨table.rows.insert table.nextId row, table.nextId + 1, by
      intro id mem
      rcases mem_keys_insert mem with rfl | old
      · exact Nat.lt_succ_self _
      · exact Nat.lt_succ_of_lt (table.fresh id old), unique⟩
  else none

/-- Put a row in the place of the one with its id, refused if the index would
be violated. -/
def replace (table : Table ρ κ key) (id : Nat) (present : id ∈ table.rows.keys) (row : ρ) :
    Option (Table ρ κ key) :=
  if unique : (indexed key (table.rows.insert id row).entries).Nodup then
    some ⟨table.rows.insert id row, table.nextId, by
      intro other mem
      rcases mem_keys_insert mem with rfl | old
      · exact table.fresh other present
      · exact table.fresh other old, unique⟩
  else none

/-- `UPDATE … WHERE id = …`: without that row it changes nothing. -/
def update (table : Table ρ κ key) (id : Nat) (change : ρ → ρ) : Option (Table ρ κ key) :=
  match found : table.rows.get? id with
  | some row => table.replace id (IndexMap.mem_keys_of_get?_eq_some found) (change row)
  | none => some table

/-- `UPDATE … WHERE …`: one change to all rows that satisfy a condition. -/
def updateWhere (table : Table ρ κ key) (condition : ρ → Bool) (change : ρ → ρ) :
    Option (Table ρ κ key) :=
  let rows := table.rows.mapValues fun row => if condition row then change row else row
  if unique : (indexed key rows.entries).Nodup then
    some ⟨rows, table.nextId, by
      rw [IndexMap.keys_mapValues]
      exact table.fresh, unique⟩
  else none

/-- The id of the row with a given key. -/
def idOf (table : Table ρ κ key) (value : κ) : Option Nat :=
  (table.rows.entries.find? fun entry => key entry.2 = some value).map Prod.fst

/-- `INSERT … ON CONFLICT … DO UPDATE`. -/
def upsert (table : Table ρ κ key) (value : κ) (row : ρ) (change : ρ → ρ) :
    Option (Table ρ κ key) :=
  match table.idOf value with
  | some id => table.update id change
  | none => table.insert row

/-! ## What the statements do -/

variable {table after : Table ρ κ key} {id : Nat} {row : ρ} {change : ρ → ρ}

theorem find?_insert (inserted : table.insert row = some after) (other : Nat) :
    after.find? other = if other = table.nextId then some row else table.find? other := by
  unfold insert at inserted
  split at inserted
  · cases inserted
    by_cases same : other = table.nextId
    · simp [find?, same]
    · simp [find?, same]
  · cases inserted

theorem find?_update (updated : table.update id change = some after) (other : Nat) :
    after.find? other = if other = id then (table.find? id).map change else table.find? other := by
  unfold update at updated
  split at updated
  · rename_i held found
    unfold replace at updated
    split at updated
    · cases updated
      by_cases same : other = id
      · simp [find?, same, found]
      · simp [find?, same]
    · cases updated
  · rename_i absent
    cases updated
    by_cases same : other = id
    · simp [find?, same, absent]
    · simp [same]

/-- An update that keeps the key of the row is not refused. -/
theorem update_isSome (keeps : ∀ row, table.find? id = some row → key (change row) = key row) :
    (table.update id change).isSome = true := by
  unfold update
  split
  · rename_i row found
    have unique : (indexed key (table.rows.insert id (change row)).entries).Nodup := by
      rw [indexed_insert found (keeps row found)]
      exact table.unique
    rw [replace, dif_pos unique]
    rfl
  · rfl

/-- Neither is one that takes the key from the row. -/
theorem update_isSome_of_eq_none (frees : ∀ row, key (change row) = none) :
    (table.update id change).isSome = true := by
  unfold update
  split
  · rename_i row found
    have unique : (indexed key (table.rows.insert id (change row)).entries).Nodup :=
      table.unique.sublist (indexed_insert_sublist found (frees row))
    rw [replace, dif_pos unique]
    rfl
  · rfl

theorem find?_updateWhere {condition : ρ → Bool}
    (updated : table.updateWhere condition change = some after) (other : Nat) :
    after.find? other =
      (table.find? other).map fun row => if condition row then change row else row := by
  simp only [updateWhere] at updated
  split at updated
  · cases updated
    exact IndexMap.get?_mapValues ..
  · cases updated

/-- Nor is one of many rows. -/
theorem updateWhere_isSome {condition : ρ → Bool} (keeps : ∀ row, key (change row) = key row) :
    (table.updateWhere condition change).isSome = true := by
  have same : indexed key
      (table.rows.mapValues fun row => if condition row then change row else row).entries =
        indexed key table.rows.entries := by
    rw [indexed, indexed, IndexMap.mapValues, List.filterMap_map]
    apply List.filterMap_congr
    rintro ⟨id, row⟩ -
    by_cases met : condition row
    · simp [met, keeps]
    · simp [met]
  rw [updateWhere, dif_pos (by rw [same]; exact table.unique)]
  rfl

/-- The index finds the row. -/
theorem idOf_eq_some {value : κ} (found : table.idOf value = some id) :
    ∃ row, table.find? id = some row ∧ key row = some value := by
  rw [idOf, Option.map_eq_some_iff] at found
  rcases found with ⟨⟨first, row⟩, found, rfl⟩
  have keyed := List.find?_some found
  have mem := List.mem_of_find?_eq_some found
  exact ⟨row, IndexMap.get?_eq_some_iff_mem.mpr mem, by simpa using keyed⟩

theorem idOf_eq_none {value : κ} (absent : table.idOf value = none)
    (found : table.find? id = some row) : key row ≠ some value := by
  rw [idOf, Option.map_eq_none_iff, List.find?_eq_none] at absent
  intro keyed
  exact absent _ (IndexMap.get?_eq_some_iff_mem.mp found) (by simpa using keyed)

/-- An upsert that keeps its key is not refused. -/
theorem upsert_isSome {value : κ} (keyed : key row = some value)
    (keeps : ∀ row, key (change row) = key row) :
    (table.upsert value row change).isSome = true := by
  unfold upsert
  split
  · exact update_isSome fun row _ => keeps row
  · rename_i absent
    have new : table.nextId ∉ table.rows.keys :=
      fun mem => absurd (table.fresh _ mem) (Nat.lt_irrefl _)
    have unique : (indexed key (table.rows.insert table.nextId row).entries).Nodup := by
      rw [IndexMap.insert, dif_neg new, indexed, List.filterMap_append]
      apply List.Nodup.append table.unique (nodup_indexed_singleton table.nextId row)
      intro held mem only
      obtain ⟨⟨id, other⟩, listed, otherKeyed⟩ := List.mem_filterMap.mp mem
      obtain ⟨entry, isRow, rowKeyed⟩ := List.mem_filterMap.mp only
      cases List.mem_singleton.mp isRow
      cases keyed.symm.trans rowKeyed
      exact idOf_eq_none absent (IndexMap.get?_eq_some_iff_mem.mpr listed) otherKeyed
    rw [insert, dif_pos unique]
    rfl

theorem find?_upsert {value : κ} (upserted : table.upsert value row change = some after)
    (other : Nat) :
    after.find? other =
      if table.idOf value = some other then (table.find? other).map change
      else if table.idOf value = none ∧ other = table.nextId then some row
      else table.find? other := by
  unfold upsert at upserted
  split at upserted
  · rename_i held found
    rw [find?_update upserted, found]
    by_cases same : other = held
    · subst same
      simp
    · simp [same, Ne.symm same]
  · rename_i absent
    rw [find?_insert upserted, absent]
    simp

/-! ## Tables of one row -/

/-- The table in which one row was inserted. -/
def single (row : ρ) : Table ρ κ key where
  rows := ⟨[(1, row)], List.nodup_singleton 1⟩
  nextId := 2
  fresh := by
    intro id mem
    cases List.mem_singleton.mp mem
    exact Nat.one_lt_two
  unique := nodup_indexed_singleton 1 row

@[simp]
theorem insert_empty (row : ρ) : (empty : Table ρ κ key).insert row = some (single row) := by
  have unique : (indexed key
      ((empty : Table ρ κ key).rows.insert (empty : Table ρ κ key).nextId row).entries).Nodup :=
    nodup_indexed_singleton 1 row
  rw [insert, dif_pos unique]
  rfl

@[simp]
theorem update_single (row : ρ) (change : ρ → ρ) :
    (single row : Table ρ κ key).update 1 change = some (single (change row)) := by
  unfold update
  split
  · rename_i held found
    cases found
    have unique : (indexed key
        ((single row : Table ρ κ key).rows.insert 1 (change row)).entries).Nodup :=
      nodup_indexed_singleton 1 (change row)
    rw [replace, dif_pos unique]
    rfl
  · rename_i absent
    cases absent

end Table

end StratumBridge.Data
