import Mathlib.Data.List.Forall2
import Mathlib.Data.List.Sort
import Mathlib.Order.Basic

/-!
# Resources assigned to needs

Needs are met in the order of a list, each by a resource of its own.  Always taking
the largest resource that is left succeeds exactly when the needs can be met by
resources that do not grow along the list: a resource that is taken too early can be
exchanged for the one that an assignment has in its place.  Where the needs do not
grow along the list, every assignment can be sorted into such a one.
-/

namespace StratumBridge.Sequence

universe u v

variable {α : Type u} {κ : Type v} [LinearOrder κ]

/-- Resources of their own for all the needs, each at least as large as its need. -/
structure Assigns (free : α → Prop) (capacity : α → κ) (needs : List κ) (resources : List α) :
    Prop where
  meets : List.Forall₂ (fun need resource => need ≤ capacity resource) needs resources
  free : ∀ resource ∈ resources, free resource
  nodup : resources.Nodup

/-- The first is no smaller than the second. -/
def NoSmaller (capacity : α → κ) (first second : α) : Prop :=
  capacity second ≤ capacity first

instance (capacity : α → κ) : DecidableRel (NoSmaller capacity) :=
  fun first second => inferInstanceAs (Decidable (capacity second ≤ capacity first))

instance (capacity : α → κ) : Std.Total (NoSmaller capacity) where
  total first second := le_total (capacity second) (capacity first)

instance (capacity : α → κ) : IsTrans α (NoSmaller capacity) where
  trans _ _ _ noSmaller noSmallerToo := le_trans noSmallerToo noSmaller

/-- No resource is larger than one before it. -/
def Descends (capacity : α → κ) (resources : List α) : Prop :=
  resources.Pairwise (NoSmaller capacity)

variable {free : α → Prop} {capacity : α → κ} {need : κ} {needs : List κ} {first best : α}
  {resources : List α}

/-- In two lists that are related entry by entry, every entry of the second has its
entry of the first. -/
theorem exists_of_forall₂_of_mem {β : Type v} {R : β → α → Prop} {entries : List β} {entry : α}
    (related : List.Forall₂ R entries resources) (mem : entry ∈ resources) :
    ∃ other, R other entry := by
  induction related with
  | nil => cases mem
  | cons holds _ ih =>
      rcases List.mem_cons.mp mem with rfl | mem
      · exact ⟨_, holds⟩
      · exact ih mem

/-! ## Exchanges -/

/-- The list with one resource in the place of another. -/
def exchange [DecidableEq α] (taken given : α) (resources : List α) : List α :=
  resources.map fun resource => if resource = taken then given else resource

section Exchange

variable [DecidableEq α] {taken given : α}

theorem mem_exchange {resource : α} (mem : resource ∈ exchange taken given resources) :
    resource = given ∨ resource ∈ resources ∧ resource ≠ taken := by
  obtain ⟨before, listed, rfl⟩ := List.mem_map.mp mem
  split
  · exact .inl rfl
  · exact .inr ⟨listed, ‹_›⟩

theorem nodup_exchange (nodup : resources.Nodup) (new : given ∉ resources) :
    (exchange taken given resources).Nodup := by
  refine nodup.map_on ?_
  intro one mem other memToo same
  split at same
  · rename_i taken
    split at same
    · rename_i takenToo
      exact taken.trans takenToo.symm
    · exact absurd (same ▸ memToo) new
  · split at same
    · exact absurd (same ▸ mem) new
    · exact same

omit [LinearOrder κ] in
/-- Where the other resource is as large, all capacities stay. -/
theorem capacity_exchange (same : capacity given = capacity taken) (resource : α) :
    capacity (if resource = taken then given else resource) = capacity resource := by
  split
  · rename_i isTaken
    rw [isTaken, same]
  · rfl

theorem descends_exchange (same : capacity given = capacity taken)
    (descends : Descends capacity resources) :
    Descends capacity (exchange taken given resources) := by
  refine List.pairwise_map.mpr (descends.imp ?_)
  intro one other noSmaller
  rw [NoSmaller, capacity_exchange same, capacity_exchange same]
  exact noSmaller

theorem meets_exchange (same : capacity given = capacity taken)
    (meets : List.Forall₂ (fun need resource => need ≤ capacity resource) needs resources) :
    List.Forall₂ (fun need resource => need ≤ capacity resource) needs
      (exchange taken given resources) := by
  refine List.forall₂_map_right_iff.mpr (meets.imp ?_)
  intro need resource enough
  rw [capacity_exchange same]
  exact enough

end Exchange

/-- If the first need can be met by a resource that is no smaller than the one it
has, the other needs can be met without that resource. -/
theorem Assigns.take_best (assigns : Assigns free capacity (need :: needs) (first :: resources))
    (descends : Descends capacity (first :: resources)) (atLeast : capacity first ≤ capacity best) :
    ∃ others, Assigns (fun resource => free resource ∧ resource ≠ best) capacity needs others ∧
      Descends capacity others := by
  classical
  obtain ⟨-, meets⟩ := List.forall₂_cons.mp assigns.meets
  obtain ⟨new, nodup⟩ := List.nodup_cons.mp assigns.nodup
  obtain ⟨least, descends⟩ := List.pairwise_cons.mp descends
  by_cases listed : best ∈ resources
  · have same : capacity first = capacity best := le_antisymm atLeast (least best listed)
    refine ⟨exchange best first resources, ⟨meets_exchange same meets, ?_,
      nodup_exchange nodup new⟩, descends_exchange same descends⟩
    intro resource mem
    rcases mem_exchange mem with rfl | ⟨mem, ne⟩
    · exact ⟨assigns.free _ List.mem_cons_self, fun isBest => new (isBest ▸ listed)⟩
    · exact ⟨assigns.free resource (List.mem_cons_of_mem _ mem), ne⟩
  · refine ⟨resources, ⟨meets, ?_, nodup⟩, descends⟩
    intro resource mem
    exact ⟨assigns.free resource (List.mem_cons_of_mem _ mem), fun isBest => listed (isBest ▸ mem)⟩

/-! ## Needs that do not grow -/

/-- A resource that meets the greatest need can be sorted in. -/
theorem meets_orderedInsert (enough : need ≤ capacity first)
    (greatest : ∀ other ∈ needs, other ≤ need) (sorted : needs.Pairwise (· ≥ ·))
    (meets : List.Forall₂ (fun need resource => need ≤ capacity resource) needs resources) :
    List.Forall₂ (fun need resource => need ≤ capacity resource) (need :: needs)
      (resources.orderedInsert (NoSmaller capacity) first) := by
  induction meets generalizing need with
  | nil => exact .cons enough .nil
  | @cons next resource needs resources meetsNext meets ih =>
      rw [List.orderedInsert_cons]
      split
      · exact .cons enough (.cons meetsNext meets)
      · rename_i smaller
        obtain ⟨least, sorted⟩ := List.pairwise_cons.mp sorted
        have nextLe : next ≤ need := greatest next List.mem_cons_self
        refine .cons (enough.trans (le_of_lt (not_le.mp smaller))) ?_
        exact ih (nextLe.trans enough) least sorted

/-- Where the needs do not grow, the resources of an assignment can be sorted. -/
theorem Assigns.sort (assigns : Assigns free capacity needs resources)
    (sorted : needs.Pairwise (· ≥ ·)) :
    Assigns free capacity needs (resources.insertionSort (NoSmaller capacity)) where
  meets := by
    have meets := assigns.meets
    clear assigns
    induction meets with
    | nil => exact .nil
    | cons enough _ ih =>
        obtain ⟨greatest, sorted⟩ := List.pairwise_cons.mp sorted
        exact meets_orderedInsert enough greatest sorted (ih sorted)
  free resource mem := assigns.free resource ((List.mem_insertionSort _).mp mem)
  nodup := (List.perm_insertionSort _ _).nodup_iff.mpr assigns.nodup

theorem exists_descending_iff (sorted : needs.Pairwise (· ≥ ·)) :
    (∃ resources, Assigns free capacity needs resources ∧ Descends capacity resources) ↔
      ∃ resources, Assigns free capacity needs resources := by
  constructor
  · rintro ⟨resources, assigns, -⟩
    exact ⟨resources, assigns⟩
  · rintro ⟨resources, assigns⟩
    exact ⟨_, assigns.sort sorted, List.pairwise_insertionSort _ _⟩

/-! ## The largest resource first -/

/-- A choice of a free resource that was not used, meets the need and is as large as
any such resource; there is one if there is such a resource. -/
structure PicksLargest (free : α → Prop) (capacity : α → κ)
    (pick : κ → List α → Option α) : Prop where
  suits : ∀ {need used resource}, pick need used = some resource →
    free resource ∧ resource ∉ used ∧ need ≤ capacity resource
  largest : ∀ {need used resource other}, pick need used = some resource → free other →
    other ∉ used → need ≤ capacity other → capacity other ≤ capacity resource
  exhausted : ∀ {need used other}, pick need used = none → free other → other ∉ used →
    ¬ need ≤ capacity other

/-- A resource for each need in turn, or nothing. -/
def assignInTurn (pick : κ → List α → Option α) : List κ → List α → Option (List α)
  | [], _ => some []
  | need :: needs, used =>
      match pick need used with
      | none => none
      | some resource => (assignInTurn pick needs (used ++ [resource])).map (resource :: ·)

/-- Always taking the largest resource succeeds exactly when the needs can be met by
resources that do not grow. -/
theorem PicksLargest.isSome_assignInTurn_iff {pick : κ → List α → Option α}
    (picks : PicksLargest free capacity pick) {used : List α} :
    (assignInTurn pick needs used).isSome ↔
      ∃ resources, Assigns (fun resource => free resource ∧ resource ∉ used) capacity needs
        resources ∧ Descends capacity resources := by
  induction needs generalizing used with
  | nil =>
      refine iff_of_true rfl ⟨[], ⟨.nil, ?_, List.nodup_nil⟩, List.Pairwise.nil⟩
      intro resource mem
      cases mem
  | cons need needs ih =>
      rw [assignInTurn]
      cases picked : pick need used with
      | none =>
          refine iff_of_false Bool.false_ne_true ?_
          rintro ⟨resources, assigns, -⟩
          cases assigns.meets with
          | cons enough meets =>
              have available := assigns.free _ List.mem_cons_self
              exact picks.exhausted picked available.1 available.2 enough
      | some best =>
          have suits := picks.suits picked
          have smaller : ∀ other, free other → other ∉ used → capacity other ≤ capacity best := by
            intro other available unused
            rcases le_or_gt need (capacity other) with enough | less
            · exact picks.largest picked available unused enough
            · exact less.le.trans suits.2.2
          have split : ∀ resource, resource ∉ used ++ [best] ↔
              resource ∉ used ∧ resource ≠ best := by
            intro resource
            rw [List.mem_append, List.mem_singleton, not_or]
          rw [Option.isSome_map, ih]
          constructor
          · rintro ⟨others, assigns, descends⟩
            refine ⟨best :: others, ⟨.cons suits.2.2 assigns.meets, ?_, ?_⟩, ?_⟩
            · intro resource mem
              rcases List.mem_cons.mp mem with rfl | mem
              · exact ⟨suits.1, suits.2.1⟩
              · have available := assigns.free resource mem
                exact ⟨available.1, ((split resource).mp available.2).1⟩
            · refine List.nodup_cons.mpr ⟨?_, assigns.nodup⟩
              intro again
              exact ((split best).mp (assigns.free best again).2).2 rfl
            · refine List.pairwise_cons.mpr ⟨?_, descends⟩
              intro resource mem
              have available := assigns.free resource mem
              exact smaller resource available.1 ((split resource).mp available.2).1
          · rintro ⟨resources, assigns, descends⟩
            rcases resources with _ | ⟨first, resources⟩
            · cases assigns.meets
            · have available := assigns.free first List.mem_cons_self
              rcases assigns.take_best descends (smaller first available.1 available.2) with
                ⟨others, left, stillDescends⟩
              refine ⟨others, ⟨left.meets, ?_, left.nodup⟩, stillDescends⟩
              intro resource mem
              have kept := left.free resource mem
              exact ⟨kept.1.1, (split resource).mpr ⟨kept.1.2, kept.2⟩⟩

end StratumBridge.Sequence
