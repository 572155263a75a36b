import StratumBridge.Expert.System
import StratumBridge.Sequence.Assignment

/-!
# Hosts for a whole group

The up-front selection gives each expert of the list in turn the largest host that
is left.  It abandons a group exactly when the group has no hosts that do not grow
along the list; a large host that an undemanding expert takes first can be missing
for a later one.  Where no expert needs more memory than one before it, as in the
groups of the shard engine, whose experts all need the same, a group is abandoned
only when it has no hosts at all.
-/

namespace StratumBridge.Expert

open Data Sequence
open Shard (SelectedExpert)

/-- The memory that a wallet announced. -/
def vramOf (registry : MinerRegistry) (wallet : Wallet) : Nat :=
  (registry.expertCapableVram wallet).getD 0

/-- The memory that each expert of a fan-out needs. -/
def FanOut.needs (request : FanOut) : List Nat :=
  request.experts.map fun selected => request.minVramMbFor selected.expertId

/-- The layer is one of the fan-out's range. -/
def FanOut.InRange (request : FanOut) : Prop :=
  request.layerStart ≤ request.layerIdx ∧ request.layerIdx < request.layerEnd

instance (request : FanOut) : Decidable request.InRange :=
  inferInstanceAs (Decidable (_ ∧ _))

/-- A host of its own for each expert, which could be selected for it. -/
structure Hosting (registry : MinerRegistry) (request : FanOut) (hosts : List Wallet) : Prop where
  suits : List.Forall₂ (fun selected host => registry.HostEligible
    (request.minVramMbFor selected.expertId) request.preExcluded host) request.experts hosts
  distinct : hosts.Nodup

/-- The fan-out ends at once, for lack of a host. -/
def Abandons (registry : MinerRegistry) (reader : Wallet) (request : FanOut)
    (dispatcher : ExpertDispatcher) : Prop :=
  ∃ expertId minVramMb, (dispatcher.dispatchAndJoin registry reader request).log =
    dispatcher.log ++ [.begun dispatcher.nextTicket reader registry request,
      .joined dispatcher.nextTicket (.error (.noEligibleHost expertId minVramMb request.layerIdx
        request.layerStart request.layerEnd))]

variable {registry : MinerRegistry} {request : FanOut} {reader : Wallet}
  {dispatcher : ExpertDispatcher} {wallet : Wallet} {used hosts : List Wallet} {need : Nat}

/-! ## The selection as an assignment -/

/-- The wallet can host an expert, if it has the memory. -/
def Hosts (registry : MinerRegistry) (wallet : Wallet) : Prop :=
  registry.Eligible wallet ∧ (registry.expertCapableVram wallet).isSome

theorem hostEligible_iff : registry.HostEligible need used wallet ↔
    (Hosts registry wallet ∧ wallet ∉ used) ∧ need ≤ vramOf registry wallet := by
  constructor
  · rintro ⟨eligible, unused, vramMb, announced, enough⟩
    refine ⟨⟨⟨eligible, Option.isSome_of_eq_some announced⟩, unused⟩, ?_⟩
    rw [vramOf, announced]
    exact enough
  · rintro ⟨⟨⟨eligible, capable⟩, unused⟩, enough⟩
    obtain ⟨vramMb, announced⟩ := Option.isSome_iff_exists.mp capable
    rw [vramOf, announced] at enough
    exact ⟨eligible, unused, vramMb, announced, enough⟩

theorem hosting_iff : Hosting registry request hosts ↔
    Assigns (fun wallet => Hosts registry wallet ∧ wallet ∉ request.preExcluded)
      (vramOf registry) request.needs hosts := by
  constructor
  · rintro ⟨suits, distinct⟩
    refine ⟨?_, ?_, distinct⟩
    · rw [FanOut.needs, List.forall₂_map_left_iff]
      exact suits.imp fun _ _ eligible => (hostEligible_iff.mp eligible).2
    · intro host mem
      obtain ⟨selected, eligible⟩ := exists_of_forall₂_of_mem suits mem
      exact (hostEligible_iff.mp eligible).1
  · rintro ⟨meets, free, distinct⟩
    refine ⟨?_, distinct⟩
    rw [FanOut.needs, List.forall₂_map_left_iff, List.forall₂_iff_zip] at meets
    refine List.forall₂_iff_zip.mpr ⟨meets.1, ?_⟩
    intro selected host mem
    exact hostEligible_iff.mpr ⟨free host (List.of_mem_zip mem).2, meets.2 mem⟩

/-- The selection of the registry takes the largest host that is left. -/
theorem picksLargest_pickExpertHost :
    PicksLargest (Hosts registry) (vramOf registry) registry.pickExpertHost where
  suits picked := by
    have eligible := hostEligible_iff.mp (MinerRegistry.hostEligible_of_pickExpertHost picked)
    exact ⟨eligible.1.1, eligible.1.2, eligible.2⟩
  largest picked hostsToo unused enough := by
    have eligible := hostEligible_iff.mpr ⟨⟨hostsToo, unused⟩, enough⟩
    obtain ⟨vramMb, announced⟩ := Option.isSome_iff_exists.mp hostsToo.2
    rcases MinerRegistry.le_vram_of_pickExpertHost picked eligible announced with
      ⟨most, sized, atMost⟩
    rw [vramOf, vramOf, announced, sized]
    exact atMost
  exhausted missed hostsToo unused enough :=
    MinerRegistry.pickExpertHost_eq_none_iff.mp missed _
      (hostEligible_iff.mpr ⟨⟨hostsToo, unused⟩, enough⟩)

/-- The plan succeeds exactly when the hosts can be taken in turn. -/
theorem plan_isError_iff (minVramMbFor : Nat → Nat) (experts : List SelectedExpert) :
    (∃ hostless, plan registry minVramMbFor experts used = .error hostless) ↔
      ¬ (assignInTurn registry.pickExpertHost
        (experts.map fun selected => minVramMbFor selected.expertId) used).isSome := by
  induction experts generalizing used with
  | nil => simp [plan, assignInTurn]
  | cons selected experts ih =>
      rw [plan, List.map_cons, assignInTurn]
      cases registry.pickExpertHost (minVramMbFor selected.expertId) used with
      | none => exact iff_of_true ⟨selected, rfl⟩ Bool.false_ne_true
      | some wallet =>
          rw [Option.isSome_map, ← ih]
          dsimp only
          cases later : plan registry minVramMbFor experts (used ++ [wallet]) with
          | error hostless => simp
          | ok chosen => simp

/-- So the plan fails exactly when the group has no hosts that do not grow. -/
theorem plan_isError_iff_hosting :
    (∃ hostless, plan registry request.minVramMbFor request.experts request.preExcluded =
      .error hostless) ↔
      ¬ ∃ hosts, Hosting registry request hosts ∧ Descends (vramOf registry) hosts := by
  simp only [hosting_iff]
  rw [plan_isError_iff, ← picksLargest_pickExpertHost.isSome_assignInTurn_iff]
  rfl

/-! ## Abandoned groups -/

theorem abandons_iff_plan : Abandons registry reader request dispatcher ↔
    request.experts ≠ [] ∧ request.InRange ∧
      ∃ hostless, plan registry request.minVramMbFor request.experts request.preExcluded =
        .error hostless := by
  have outside : request.layerIdx < request.layerStart ∨ request.layerEnd ≤ request.layerIdx ↔
      ¬ request.InRange := by
    rw [FanOut.InRange]
    omega
  unfold Abandons ExpertDispatcher.dispatchAndJoin
  by_cases empty : request.experts = []
  · simp [ExpertDispatcher.refuse, ExpertDispatcher.emit, empty]
  · by_cases inRange : request.InRange
    · cases planned : plan registry request.minVramMbFor request.experts request.preExcluded with
      | error hostless =>
          simp [ExpertDispatcher.refuse, ExpertDispatcher.emit, empty, outside, inRange]
      | ok chosen => simp [ExpertDispatcher.emit, empty, outside, inRange]
    · simp [ExpertDispatcher.refuse, ExpertDispatcher.emit, empty, outside, inRange]

/-- A fan-out that reaches its selection is abandoned there exactly when it has no hosts
that do not grow along the list; and where its needs do not grow, exactly when it has no
hosts. -/
theorem abandons_iff (registry : MinerRegistry) (reader : Wallet) (request : FanOut)
    (dispatcher : ExpertDispatcher) :
    (Abandons registry reader request dispatcher ↔ request.InRange ∧
      ¬ ∃ hosts, Hosting registry request hosts ∧ Descends (vramOf registry) hosts) ∧
      (request.needs.Pairwise (· ≥ ·) → (Abandons registry reader request dispatcher ↔
        request.InRange ∧ ¬ ∃ hosts, Hosting registry request hosts)) := by
  have inOrder : Abandons registry reader request dispatcher ↔ request.InRange ∧
      ¬ ∃ hosts, Hosting registry request hosts ∧ Descends (vramOf registry) hosts := by
    rw [abandons_iff_plan, ← plan_isError_iff_hosting]
    constructor
    · rintro ⟨-, inRange, fails⟩
      exact ⟨inRange, fails⟩
    · rintro ⟨inRange, hostless, fails⟩
      refine ⟨?_, inRange, hostless, fails⟩
      intro empty
      rw [empty] at fails
      cases fails
  refine ⟨inOrder, ?_⟩
  intro sorted
  rw [inOrder]
  simp only [hosting_iff]
  rw [exists_descending_iff sorted]

/-- A group of four experts and three hosts. -/
theorem abandons_fourth :
    Abandons trioRegistry "p" (soleFanOut 0 [1, 2, 3, 4]) .new := by
  refine ((abandons_iff ..).2 (by decide)).mpr ⟨by decide, ?_⟩
  rintro ⟨hosts, hosting⟩
  have four : 4 = hosts.length := hosting.suits.length_eq
  have known : hosts ⊆ ["a", "b", "c"] := by
    intro host mem
    obtain ⟨selected, eligible⟩ := exists_of_forall₂_of_mem hosting.suits mem
    exact MinerRegistry.registered_iff_mem_keys.mp eligible.eligible.1
  have three := (hosting.distinct.subperm known).length_le
  rw [← four] at three
  exact absurd three (by decide)

/-- An expert with little need before one that only the largest host can load. -/
def unevenFanOut : FanOut :=
  { soleFanOut 0 [1, 2] with minVramMbFor := fun expertId => expertId * 10000 }

/-- The first expert takes the host that the second needs. -/
theorem abandoned_with_hosts :
    Abandons trioRegistry "p" unevenFanOut .new ∧
      ∃ hosts, Hosting trioRegistry unevenFanOut hosts := by
  constructor
  · exact ⟨2, 20000, rfl⟩
  · refine ⟨["b", "a"], ?_, by decide⟩
    have small : trioRegistry.pickExpertHost 10000 ["a", "p"] = some "b" := by decide
    have large : trioRegistry.pickExpertHost 20000 ["p"] = some "a" := by decide
    have eligible := MinerRegistry.hostEligible_of_pickExpertHost small
    refine .cons ?_ (.cons (MinerRegistry.hostEligible_of_pickExpertHost large) .nil)
    exact ⟨eligible.eligible,
      fun excluded => eligible.notExcluded (List.mem_cons_of_mem _ excluded), eligible.vram⟩

end StratumBridge.Expert
