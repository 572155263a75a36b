import StratumBridge.Shard.Plan
import Mathlib.Data.Multiset.Basic

/-!
# Splitting a graph

A graph is split into its dense shards, by index, and its experts, by layer range.
The order of the nodes does not matter, and the range under which experts are
registered is the one that a dense shard looks them up with.
-/

namespace StratumBridge.Shard

open Data Rpc

/-- One EXPERT node is registered. -/
def pushExpert (groups : PartialMap (Nat × Nat) (List Nat)) (shard : ShardDescriptor) :
    PartialMap (Nat × Nat) (List Nat) :=
  groups.insert (layerRange shard)
    ((groups (layerRange shard)).getD [] ++ [shard.expertId.getD 0])

/-- `split_model_execution_graph`. -/
def splitModelExecutionGraph (shards : List ShardDescriptor) :
    List ShardDescriptor × PartialMap (Nat × Nat) (List Nat) :=
  ((shards.filter fun shard => shard.shardType = "DENSE").insertionSort
      (fun first second => first.shardIndex ≤ second.shardIndex),
    (shards.filter fun shard => shard.shardType = "EXPERT").foldl pushExpert .empty)

/-- The EXPERT nodes of a range, in the order of the graph. -/
def rangeExperts (shards : List ShardDescriptor) (range : Nat × Nat) : List ShardDescriptor :=
  shards.filter fun shard => shard.shardType = "EXPERT" ∧ layerRange shard = range

/-! ## Experts -/

/-- Induction on the nodes: those of the range are added behind what was there. -/
theorem foldl_pushExpert (experts : List ShardDescriptor)
    (groups : PartialMap (Nat × Nat) (List Nat)) (range : Nat × Nat) :
    (experts.foldl pushExpert groups) range =
      if (experts.filter fun shard => layerRange shard = range) = [] then groups range
      else some ((groups range).getD [] ++
        (experts.filter fun shard => layerRange shard = range).map fun shard =>
          shard.expertId.getD 0) := by
  induction experts generalizing groups with
  | nil => rfl
  | cons shard rest ih =>
      rw [List.foldl_cons, ih]
      by_cases here : layerRange shard = range
      · have listed : ((shard :: rest).filter fun shard => layerRange shard = range) =
            shard :: rest.filter fun shard => layerRange shard = range :=
          List.filter_cons_of_pos (by simp [here])
        rw [listed, if_neg (List.cons_ne_nil _ _), pushExpert, here, PartialMap.insert_self]
        split
        · rename_i others
          rw [others]
          rfl
        · rw [Option.getD_some, List.append_assoc]
          rfl
      · have listed : ((shard :: rest).filter fun shard => layerRange shard = range) =
            rest.filter fun shard => layerRange shard = range :=
          List.filter_cons_of_neg (by simp [here])
        rw [listed, pushExpert, PartialMap.insert_of_ne _ _ (Ne.symm here)]

theorem split_experts (shards : List ShardDescriptor) (range : Nat × Nat) :
    (splitModelExecutionGraph shards).2 range =
      if rangeExperts shards range = [] then none
      else some ((rangeExperts shards range).map fun shard => shard.expertId.getD 0) := by
  have members : ((shards.filter fun shard => shard.shardType = "EXPERT").filter
      fun shard => layerRange shard = range) = rangeExperts shards range := by
    rw [List.filter_filter, rangeExperts]
    apply List.filter_congr
    intro shard _
    rw [Bool.and_comm, Bool.decide_and]
  have folded := foldl_pushExpert (shards.filter fun shard => shard.shardType = "EXPERT")
    .empty range
  rw [members] at folded
  exact folded

theorem split_experts_ne_none_iff (shards : List ShardDescriptor) (range : Nat × Nat) :
    ((splitModelExecutionGraph shards).2 range).filter (fun ids => ids ≠ []) ≠ none ↔
      ∃ node ∈ shards, node.shardType = "EXPERT" ∧ layerRange node = range := by
  rw [split_experts]
  split
  · rename_i nobody
    rw [Option.filter_none]
    refine iff_of_false (fun ne => ne rfl) ?_
    rintro ⟨node, mem, expert, here⟩
    have listed : node ∈ rangeExperts shards range :=
      List.mem_filter.mpr ⟨mem, decide_eq_true ⟨expert, here⟩⟩
    rw [nobody] at listed
    cases listed
  · rename_i someone
    refine iff_of_true ?_ ?_
    · have ids : (rangeExperts shards range).map (fun shard => shard.expertId.getD 0) ≠ [] :=
        fun nothing => someone (List.map_eq_nil_iff.mp nothing)
      rw [Option.filter_some, if_pos (decide_eq_true ids)]
      exact Option.some_ne_none _
    · obtain ⟨node, listed⟩ := List.exists_mem_of_ne_nil _ someone
      obtain ⟨mem, both⟩ := List.mem_filter.mp listed
      obtain ⟨expert, here⟩ := of_decide_eq_true both
      exact ⟨node, mem, expert, here⟩

/-- Experts are looked up under the range they are registered under. -/
theorem expertGroupFor_isSome_iff {shards : List ShardDescriptor} {pipeline : PipelineState}
    (groups : pipeline.expertGroups = (splitModelExecutionGraph shards).2) (pos : Nat) :
    (pipeline.expertGroupFor pos).isSome ↔ ∃ shard, pipeline.shards[pos]? = some shard ∧
      ∃ node ∈ shards, node.shardType = "EXPERT" ∧ layerRange node = layerRange shard := by
  rw [Option.isSome_iff_ne_none, PipelineState.expertGroupFor, groups]
  cases found : pipeline.shards[pos]? with
  | none =>
      refine iff_of_false (fun ne => ne rfl) ?_
      rintro ⟨_, ⟨⟩, -⟩
  | some shard =>
      rw [Option.bind_some, split_experts_ne_none_iff]
      constructor
      · exact fun registered => ⟨shard, rfl, registered⟩
      · rintro ⟨_, ⟨rfl⟩, registered⟩
        exact registered

/-! ## Dense shards -/

/-- The DENSE nodes, by index. -/
theorem perm_split_dense (shards : List ShardDescriptor) :
    (splitModelExecutionGraph shards).1.Perm
      (shards.filter fun shard => shard.shardType = "DENSE") :=
  List.perm_insertionSort _ _

instance : Std.Total fun first second : ShardDescriptor =>
    first.shardIndex ≤ second.shardIndex where
  total first second := Nat.le_total first.shardIndex second.shardIndex

instance : IsTrans ShardDescriptor fun first second => first.shardIndex ≤ second.shardIndex where
  trans _ _ _ := Nat.le_trans

/-- With distinct indexes they are in strict order. -/
theorem sorted_split_dense {shards : List ShardDescriptor}
    (distinct : ((shards.filter fun shard => shard.shardType = "DENSE").map
      ShardDescriptor.shardIndex).Nodup) :
    (splitModelExecutionGraph shards).1.Pairwise fun first second =>
      first.shardIndex < second.shardIndex := by
  have sorted : (splitModelExecutionGraph shards).1.Pairwise fun first second =>
      first.shardIndex ≤ second.shardIndex := List.pairwise_insertionSort _ _
  have indexes := ((perm_split_dense shards).map ShardDescriptor.shardIndex).nodup_iff.mpr distinct
  have apart := List.pairwise_map.mp indexes
  exact (sorted.and apart).imp fun both => Nat.lt_of_le_of_ne both.1 both.2

/-- The order of the nodes of a graph does not matter: the dense shards are the DENSE
nodes in the order of their indexes, the experts of a range are those of its EXPERT
nodes, and a shard of a pipeline has experts exactly when there is a node for its
range. -/
theorem split_ignores_order {shards : List ShardDescriptor}
    (distinct : ((shards.filter fun shard => shard.shardType = "DENSE").map
      ShardDescriptor.shardIndex).Nodup) :
    (∀ other, other.Perm shards →
      (splitModelExecutionGraph other).1 = (splitModelExecutionGraph shards).1 ∧
      ∀ range, ((splitModelExecutionGraph other).2 range).map Multiset.ofList =
        ((splitModelExecutionGraph shards).2 range).map Multiset.ofList) ∧
    (splitModelExecutionGraph shards).1.Pairwise (fun first second =>
      first.shardIndex < second.shardIndex) ∧
    (splitModelExecutionGraph shards).1.Perm
      (shards.filter fun shard => shard.shardType = "DENSE") ∧
    (∀ range, (splitModelExecutionGraph shards).2 range =
      if rangeExperts shards range = [] then none
      else some ((rangeExperts shards range).map fun shard => shard.expertId.getD 0)) ∧
    ∀ pipeline : PipelineState, pipeline.shards = (splitModelExecutionGraph shards).1 →
      pipeline.expertGroups = (splitModelExecutionGraph shards).2 →
      ∀ pos, (pipeline.expertGroupFor pos).isSome ↔
        ∃ shard, (splitModelExecutionGraph shards).1[pos]? = some shard ∧
          ∃ node ∈ shards, node.shardType = "EXPERT" ∧ layerRange node = layerRange shard := by
  refine ⟨fun other perm => ⟨?_, fun range => ?_⟩, sorted_split_dense distinct,
    perm_split_dense shards, split_experts shards, ?_⟩
  · have nodes := perm.filter fun shard => shard.shardType = "DENSE"
    have alsoDistinct := (nodes.map ShardDescriptor.shardIndex).nodup_iff.mpr distinct
    apply List.Perm.eq_of_pairwise _ (sorted_split_dense alsoDistinct)
      (sorted_split_dense distinct)
    · exact (perm_split_dense other).trans (nodes.trans (perm_split_dense shards).symm)
    · intro first second _ _ below above
      exact absurd below (Nat.lt_asymm above)
  · have nodes : (rangeExperts other range).Perm (rangeExperts shards range) := perm.filter _
    rw [split_experts, split_experts]
    by_cases nobody : rangeExperts shards range = []
    · rw [nobody] at nodes
      rw [if_pos nobody, if_pos nodes.eq_nil]
    · have someone : rangeExperts other range ≠ [] := fun nothing =>
        nobody (nothing ▸ nodes).nil_eq.symm
      rw [if_neg nobody, if_neg someone, Option.map_some, Option.map_some]
      exact congrArg some (Multiset.coe_eq_coe.mpr (nodes.map _))
  · intro pipeline same groups pos
    rw [expertGroupFor_isSome_iff groups, same]

/-- Two ranges out of order, one of them with an expert. -/
theorem split_two_ranges : ((([⟨1, "DENSE", some 4, some 8, none⟩,
      ⟨2, "EXPERT", some 4, some 8, some 3⟩, ⟨0, "DENSE", none, some 4, none⟩] :
      List ShardDescriptor).filter fun shard => shard.shardType = "DENSE").map
      ShardDescriptor.shardIndex).Nodup ∧
    (splitModelExecutionGraph [⟨1, "DENSE", some 4, some 8, none⟩,
      ⟨2, "EXPERT", some 4, some 8, some 3⟩, ⟨0, "DENSE", none, some 4, none⟩]).1.Perm
      [⟨1, "DENSE", some 4, some 8, none⟩, ⟨0, "DENSE", none, some 4, none⟩] :=
  ⟨by decide, (split_ignores_order (by decide)).2.2.1⟩

end StratumBridge.Shard
