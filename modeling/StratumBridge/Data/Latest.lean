import StratumBridge.Data.IndexMap
import StratumBridge.Data.PartialMap
import Mathlib.Data.List.Induction
import Mathlib.Data.List.Pairwise

/-!
# Latest writes

A map that is only ever written to holds, under every key, the last write to it.
A listing of the map under a coarser key lists the last write under that key
exactly if no two of the keys written to fall together.
-/

namespace StratumBridge.Data

universe u v w

variable {κ : Type u} {ι : Type w} {α : Type v}

section Latest

variable [DecidableEq κ]

/-- The last value written to a key. -/
def latest (writes : List (κ × α)) (key : κ) : Option α :=
  (writes.reverse.find? fun write => write.1 = key).map Prod.snd

@[simp]
theorem latest_nil (key : κ) : latest ([] : List (κ × α)) key = none :=
  rfl

theorem latest_snoc (writes : List (κ × α)) (write : κ × α) (key : κ) :
    latest (writes ++ [write]) key = if write.1 = key then some write.2 else latest writes key := by
  rw [latest, List.reverse_append, List.reverse_singleton, List.singleton_append, List.find?_cons]
  by_cases same : write.1 = key
  · simp [same]
  · simp [same, latest]

theorem latest_isSome_iff {writes : List (κ × α)} {key : κ} :
    (latest writes key).isSome ↔ key ∈ writes.map Prod.fst := by
  simp [latest]

/-- The last value written was written. -/
theorem mem_of_latest {writes : List (κ × α)} {key : κ} {value : α}
    (last : latest writes key = some value) : (key, value) ∈ writes := by
  obtain ⟨write, found, rfl⟩ := Option.map_eq_some_iff.mp last
  have same : write.1 = key := by simpa using List.find?_some found
  subst same
  exact List.mem_reverse.mp (List.mem_of_find?_eq_some found)

/-- Where the writes to a key are in order, the last value comes after all of them. -/
theorem rel_latest (before : α → α → Prop) {writes : List (κ × α)} {key : κ} {value other : α}
    (ordered : writes.Pairwise fun early late =>
      early.1 = key → late.1 = key → before early.2 late.2)
    (last : latest writes key = some value) (written : (key, other) ∈ writes) :
    other = value ∨ before other value := by
  induction writes using List.reverseRecOn with
  | nil => cases written
  | append_singleton writes write ih =>
      rw [List.pairwise_append] at ordered
      rw [latest_snoc] at last
      by_cases same : write.1 = key
      · rw [if_pos same] at last
        cases last
        rcases List.mem_append.mp written with earlier | now
        · exact .inr (ordered.2.2 _ earlier write List.mem_cons_self rfl same)
        · exact .inl (congrArg Prod.snd (List.mem_singleton.mp now))
      · rw [if_neg same] at last
        rcases List.mem_append.mp written with earlier | now
        · exact ih ordered.1 last earlier
        · exact absurd (congrArg Prod.fst (List.mem_singleton.mp now)).symm same

/-- The map holds the last write to every key. -/
def Remembers (map : IndexMap κ α) (writes : List (κ × α)) : Prop :=
  ∀ key, map.get? key = latest writes key

theorem remembers_empty : Remembers (IndexMap.empty : IndexMap κ α) [] :=
  fun _ => rfl

/-- A write is remembered by an insertion. -/
theorem Remembers.insert {map : IndexMap κ α} {writes : List (κ × α)}
    (remembers : Remembers map writes) (write : κ × α) :
    Remembers (map.insert write.1 write.2) (writes ++ [write]) := by
  intro key
  rw [latest_snoc]
  by_cases same : write.1 = key
  · subst same
    rw [if_pos rfl, IndexMap.get?_insert_self]
  · rw [if_neg same, IndexMap.get?_insert_of_ne _ _ (Ne.symm same), remembers key]

/-- The keys of the map are the keys written to. -/
theorem Remembers.mem_keys_iff {map : IndexMap κ α} {writes : List (κ × α)}
    (remembers : Remembers map writes) {key : κ} :
    key ∈ map.keys ↔ key ∈ writes.map Prod.fst := by
  rw [← latest_isSome_iff, ← remembers key, Option.isSome_iff_ne_none, ne_eq,
    IndexMap.get?_eq_none_iff, not_not]

end Latest

/-! ## A coarser key -/

/-- The entries that have a coarser key, under that key. -/
def coarsen (view : κ → Option ι) (entries : List (κ × α)) : List (ι × α) :=
  entries.filterMap fun entry => (view entry.1).map fun coarse => (coarse, entry.2)

theorem mem_coarsen {view : κ → Option ι} {entries : List (κ × α)} {coarse : ι} {value : α} :
    (coarse, value) ∈ coarsen view entries ↔
      ∃ key, (key, value) ∈ entries ∧ view key = some coarse := by
  simp [coarsen]

theorem map_fst_coarsen (view : κ → Option ι) (entries : List (κ × α)) :
    (coarsen view entries).map Prod.fst = (entries.map Prod.fst).filterMap view := by
  rw [coarsen, List.map_filterMap, List.filterMap_map]
  congr 1
  funext entry
  simp [Function.comp_def]

theorem coarsen_snoc (view : κ → Option ι) (entries : List (κ × α)) (entry : κ × α) :
    coarsen view (entries ++ [entry]) =
      coarsen view entries ++ ((view entry.1).map fun coarse => (coarse, entry.2)).toList := by
  rw [coarsen, List.filterMap_append]
  cases seen : view entry.1 <;> simp [coarsen, seen]

/-- No two keys of a list fall together. -/
def Apart (view : κ → Option ι) (keys : List κ) : Prop :=
  ∀ first ∈ keys, ∀ second ∈ keys, ∀ coarse, view first = some coarse → view second = some coarse →
    first = second

/-- The coarser keys of distinct keys are distinct exactly if no two of the keys
fall together. -/
theorem nodup_filterMap_iff_apart {view : κ → Option ι} {keys : List κ} (distinct : keys.Nodup) :
    (keys.filterMap view).Nodup ↔ Apart view keys := by
  rw [List.Nodup, List.pairwise_filterMap]
  constructor
  · intro pairwise first firstMem second secondMem coarse seen again
    by_contra ne
    have symm : Std.Symm fun first second : κ => ∀ coarse, view first = some coarse →
        ∀ other, view second = some other → coarse ≠ other :=
      ⟨fun _ _ differ coarse seen other again => (differ other again coarse seen).symm⟩
    exact pairwise.forall firstMem secondMem ne coarse seen coarse again rfl
  · intro apart
    apply distinct.pairwise_of_forall_ne
    rintro first firstMem second secondMem ne coarse seen _ again rfl
    exact ne (apart first firstMem second secondMem coarse seen again)

/-- If no two keys fall together, the last write under the coarser key of a key is the
last write to that key. -/
theorem latest_coarsen [DecidableEq κ] [DecidableEq ι] {view : κ → Option ι}
    {writes : List (κ × α)} {key : κ} {coarse : ι} (seen : view key = some coarse)
    (alone : ∀ other ∈ writes.map Prod.fst, view other = some coarse → other = key) :
    latest (coarsen view writes) coarse = latest writes key := by
  induction writes using List.reverseRecOn with
  | nil => rfl
  | append_singleton writes write ih =>
      have ih : latest (coarsen view writes) coarse = latest writes key := by
        apply ih
        intro other mem
        apply alone
        rw [List.map_append]
        exact List.mem_append_left _ mem
      rw [coarsen_snoc, latest_snoc]
      cases viewed : view write.1 with
      | none =>
          have elsewhere : write.1 ≠ key := by
            intro same
            rw [same, seen] at viewed
            cases viewed
          simpa [elsewhere] using ih
      | some other =>
          rw [Option.map_some, Option.toList_some, latest_snoc]
          by_cases same : other = coarse
          · subst same
            rw [if_pos rfl, if_pos (alone write.1 (by simp) viewed)]
          · have elsewhere : write.1 ≠ key := by
              rintro rfl
              exact same (Option.some.inj (viewed.symm.trans seen))
            rw [if_neg same, if_neg elsewhere, ih]

section Listing

variable [DecidableEq κ] {map : IndexMap κ α} {writes walk : List (κ × α)} {view : κ → Option ι}

/-- A walk over a map lists every coarser key once exactly if no two of the keys
written to fall together. -/
theorem Remembers.nodup_coarsen_iff (remembers : Remembers map writes)
    (walked : walk.Perm map.entries) :
    ((coarsen view walk).map Prod.fst).Nodup ↔ Apart view (writes.map Prod.fst) := by
  have keys : ∀ key, key ∈ walk.map Prod.fst ↔ key ∈ writes.map Prod.fst := by
    intro key
    rw [(walked.map Prod.fst).mem_iff]
    exact remembers.mem_keys_iff
  have distinct : (walk.map Prod.fst).Nodup := (walked.map Prod.fst).nodup_iff.mpr map.nodup
  rw [map_fst_coarsen, nodup_filterMap_iff_apart distinct]
  simp only [Apart, keys]

/-- If so, it lists the last writes. -/
theorem Remembers.mem_coarsen_iff [DecidableEq ι] (remembers : Remembers map writes)
    (walked : walk.Perm map.entries) (apart : Apart view (writes.map Prod.fst)) {coarse : ι}
    {value : α} :
    (coarse, value) ∈ coarsen view walk ↔
      latest (coarsen view writes) coarse = some value := by
  have held : ∀ key, (key, value) ∈ walk ↔ latest writes key = some value := by
    intro key
    rw [walked.mem_iff, ← IndexMap.get?_eq_some_iff_mem, remembers key]
  have written : ∀ {key}, key ∈ writes.map Prod.fst → view key = some coarse →
      latest (coarsen view writes) coarse = latest writes key := by
    intro key mem seen
    apply latest_coarsen seen
    intro other otherMem again
    exact apart other otherMem key mem coarse again seen
  rw [mem_coarsen]
  constructor
  · rintro ⟨key, mem, seen⟩
    have last := (held key).mp mem
    rw [written (latest_isSome_iff.mp (by rw [last]; rfl)) seen, last]
  · intro last
    have listed : coarse ∈ (coarsen view writes).map Prod.fst :=
      latest_isSome_iff.mp (by rw [last]; rfl)
    rw [map_fst_coarsen] at listed
    obtain ⟨key, mem, seen⟩ := List.mem_filterMap.mp listed
    exact ⟨key, (held key).mpr ((written mem seen).symm.trans last), seen⟩

end Listing

/-! ## Collecting a listing -/

/-- `collect` into a map: a later pair replaces an earlier one with its key. -/
def collect [DecidableEq κ] (pairs : List (κ × α)) : PartialMap κ α :=
  pairs.foldl (fun map pair => map.insert pair.1 pair.2) PartialMap.empty

theorem collect_eq_latest [DecidableEq κ] (pairs : List (κ × α)) (key : κ) :
    collect pairs key = latest pairs key := by
  induction pairs using List.reverseRecOn with
  | nil => rfl
  | append_singleton pairs pair ih =>
      rw [latest_snoc, ← ih, collect, List.foldl_append]
      simp only [List.foldl_cons, List.foldl_nil, PartialMap.insert_apply, eq_comm]
      rfl

/-- Of distinct keys, every pair is collected. -/
theorem collect_eq_some_iff [DecidableEq κ] {pairs : List (κ × α)}
    (distinct : (pairs.map Prod.fst).Nodup) {key : κ} {value : α} :
    collect pairs key = some value ↔ (key, value) ∈ pairs := by
  rw [collect_eq_latest]
  induction pairs using List.reverseRecOn with
  | nil => simp
  | append_singleton pairs pair ih =>
      rw [List.map_append, List.nodup_append] at distinct
      rcases distinct with ⟨before, -, fresh⟩
      rw [latest_snoc, List.mem_append, List.mem_singleton]
      by_cases same : pair.1 = key
      · subst same
        have unlisted : (pair.1, value) ∉ pairs := by
          intro mem
          have listed := List.mem_map_of_mem (f := Prod.fst) mem
          exact fresh pair.1 listed pair.1 (by simp) rfl
        simp [unlisted, Prod.ext_iff, eq_comm]
      · simp [same, ih before, Prod.ext_iff, Ne.symm same]

end StratumBridge.Data
