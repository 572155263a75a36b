import StratumBridge.Data.Latest
import StratumBridge.Expert.Keys
import StratumBridge.Transition.Observe

/-!
# The topology report

`ShardEngine::topology_snapshot` and what it reads: the roster of connected
miners, the primary dispatches of a pipeline, and the wallets the dispatcher
remembers in `recent`.  The dispatcher remembers a wallet for every layer of a
range, and the report asks for one wallet of the whole range.

A `DashMap` is walked in no particular order: every walk is a list of its
entries that is handed in.
-/

namespace StratumBridge

open Data

/-- `MinerSnapshot`. -/
structure MinerSnapshot where
  wallet : Wallet
  draftCapable : Bool
  auditorCapable : Bool
  expertCapable : Bool
  expertVramMb : Option Nat
  banned : Bool
  deriving DecidableEq

/-- `snapshot_all`. -/
def MinerRegistry.snapshotAll (registry : MinerRegistry) : List MinerSnapshot :=
  registry.inner.keys.map fun wallet =>
    { wallet := wallet
      draftCapable := wallet ∈ registry.draftCapable
      auditorCapable := wallet ∈ registry.auditorCapable
      expertCapable := (registry.expertCapableVram wallet).isSome
      expertVramMb := registry.expertCapableVram wallet
      banned := wallet ∈ registry.banned }

namespace Expert

open Wire Transition Rpc
open Shard (PipelineState ShardEngine)

/-! ## The snapshot -/

/-- `PrimaryDispatchRecord`. -/
structure PrimaryDispatchRecord where
  shardIndex : Nat
  layerStart : Nat
  layerEnd : Nat
  moeLayerStep : Option Nat
  wallet : Wallet
  tokenIndex : Nat

/-- `TopologyPart::kind`: `"dense"` or `"expert_group"`. -/
inductive PartKind
  | dense
  | expertGroup
  deriving DecidableEq

/-- `TopologyPart::status`: `"done"`, `"current"` or `"pending"`. -/
inductive PartStatus
  | done
  | current
  | pending
  deriving DecidableEq

/-- `TopologyExpert`. -/
structure TopologyExpert where
  expertId : Nat
  wallet : Option Wallet
  vramMb : Option Nat
  activated : Bool
  deriving DecidableEq

/-- `TopologyPart`. -/
structure TopologyPart where
  kind : PartKind
  shardIndex : Nat
  layerStart : Nat
  layerEnd : Nat
  status : PartStatus
  primaryWallet : Option Wallet
  primaryVramMb : Option Nat
  experts : List TopologyExpert
  deriving DecidableEq

/-- `TopologySnapshot`. -/
structure TopologySnapshot where
  requestId : RequestId
  modelId : String
  archType : String
  numLayers : Nat
  currentPos : Nat
  currentTokenIndex : Nat
  parts : List TopologyPart
  connectedMiners : List MinerSnapshot

/-- `recent_assignments_for_range`, for a walk over `recent`. -/
def recentAssignmentsForRange (walk : List (ExpertAssignmentKey × Wallet)) (requestId : RequestId)
    (layerStart layerEnd : Nat) : List (Nat × Wallet) :=
  (walk.filter fun entry => entry.1.requestId = requestId ∧ entry.1.layerStart = layerStart ∧
    entry.1.layerEnd = layerEnd).map fun entry => (entry.1.expertId, entry.2)

/-- `vram_by_wallet`. -/
def vramByWallet (connectedMiners : List MinerSnapshot) : PartialMap Wallet Nat :=
  collect (connectedMiners.filterMap fun miner =>
    miner.expertVramMb.map fun vramMb => (miner.wallet, vramMb))

/-- The status of the shard at a position. -/
def partStatus (pipeline : PipelineState) (idx : Nat) : PartStatus :=
  if idx < pipeline.pos then .done else if idx = pipeline.pos then .current else .pending

/-- The `"dense"` part of a shard; `dispatch_log` is handed in. -/
def densePart (dispatchLog : List PrimaryDispatchRecord) (vram : PartialMap Wallet Nat)
    (pipeline : PipelineState) (shard : ShardDescriptor) (idx : Nat) : TopologyPart :=
  let primary := dispatchLog.reverse.find? fun record => record.shardIndex = shard.shardIndex
  let primaryWallet := primary.map PrimaryDispatchRecord.wallet
  { kind := .dense
    shardIndex := shard.shardIndex
    layerStart := (Shard.layerRange shard).1
    layerEnd := (Shard.layerRange shard).2
    status := partStatus pipeline idx
    primaryWallet := primaryWallet
    primaryVramMb := primaryWallet.bind vram
    experts := [] }

/-- One registered expert. -/
def topologyExpert (recentById : PartialMap Nat Wallet) (vram : PartialMap Wallet Nat)
    (expertId : Nat) : TopologyExpert :=
  let wallet := recentById expertId
  { expertId := expertId
    wallet := wallet
    vramMb := wallet.bind vram
    activated := wallet.isSome }

/-- The experts registered for the range of a shard, if there are any. -/
def registeredExperts (pipeline : PipelineState) (shard : ShardDescriptor) :
    Option (List Nat) :=
  (pipeline.expertGroups (Shard.layerRange shard)).filter fun ids => ids ≠ []

/-- The `"expert_group"` part of a shard. -/
def expertPart (recent : List (Nat × Wallet)) (vram : PartialMap Wallet Nat)
    (pipeline : PipelineState) (shard : ShardDescriptor) (idx : Nat) (registered : List Nat) :
    TopologyPart where
  kind := .expertGroup
  shardIndex := shard.shardIndex
  layerStart := (Shard.layerRange shard).1
  layerEnd := (Shard.layerRange shard).2
  status := partStatus pipeline idx
  primaryWallet := none
  primaryVramMb := none
  experts := registered.map (topologyExpert (collect recent) vram)

/-- The parts of one shard.  `recent` is walked anew for every shard. -/
def shardParts (dispatchLog : List PrimaryDispatchRecord) (vram : PartialMap Wallet Nat)
    (walks : Nat → List (ExpertAssignmentKey × Wallet)) (requestId : RequestId)
    (pipeline : PipelineState) (shard : ShardDescriptor) (idx : Nat) : List TopologyPart :=
  densePart dispatchLog vram pipeline shard idx ::
    match registeredExperts pipeline shard with
    | none => []
    | some registered =>
        [expertPart (recentAssignmentsForRange (walks idx) requestId (Shard.layerRange shard).1
          (Shard.layerRange shard).2) vram pipeline shard idx registered]

/-- `topology_snapshot`. -/
def topologySnapshot (engine : ShardEngine) (registry : MinerRegistry)
    (dispatchLog : List PrimaryDispatchRecord)
    (walks : Nat → List (ExpertAssignmentKey × Wallet)) (requestId : RequestId) :
    Option TopologySnapshot :=
  match engine.pipelines requestId with
  | none => none
  | some pipeline =>
      let connectedMiners := registry.snapshotAll
      let vram := vramByWallet connectedMiners
      some
        { requestId := requestId
          modelId := pipeline.manifest.modelId
          archType := pipeline.manifest.archType
          numLayers := pipeline.manifest.numLayers
          currentPos := pipeline.pos
          currentTokenIndex := pipeline.tokenIndex
          parts := pipeline.shards.zipIdx.flatMap fun entry =>
            shardParts dispatchLog vram walks requestId pipeline entry.1 entry.2
          connectedMiners := connectedMiners }

/-! ## Dispatch attempts -/

/-- A call of `dispatch_one`: the key, the wallet, and whether the wallet was
connected. -/
structure Attempt where
  key : ExpertAssignmentKey
  wallet : Wallet
  connected : Bool
  deriving DecidableEq

namespace Attempt

/-- The attempt is one for an expert in a range of a request. -/
def IsFor (requestId : RequestId) (layerStart layerEnd expertId : Nat) (attempt : Attempt) :
    Prop :=
  attempt.key.requestId = requestId ∧ attempt.key.layerStart = layerStart ∧
    attempt.key.layerEnd = layerEnd ∧ attempt.key.expertId = expertId

instance (requestId : RequestId) (layerStart layerEnd expertId : Nat) :
    DecidablePred (IsFor requestId layerStart layerEnd expertId) :=
  fun _ => inferInstanceAs (Decidable (_ ∧ _))

end Attempt

/-- The wallet of the most recent attempt for an expert in a range. -/
def lastAttempt (attempts : List Attempt) (requestId : RequestId)
    (layerStart layerEnd expertId : Nat) : Option Wallet :=
  (attempts.reverse.find? fun attempt =>
    attempt.IsFor requestId layerStart layerEnd expertId).map Attempt.wallet

/-- The attempt an event is. -/
def attempt? (dispatcher : ExpertDispatcher) (stimulus : Stimulus) : Option Attempt :=
  match stimulus.event with
  | .dispatchOne ticket index _ => do
      let call ← dispatcher.calls ticket
      let member ← call.members[index]?
      if member.progress = .ready then
        some
          { key := call.request.key member.selected
            wallet := member.wallet
            connected := (stimulus.registry.get member.wallet).isSome }
      else
        none
  | _ => none

/-- The attempts of a run, in order. -/
def attempts (sha256 : Digest) (arith : Arithmetic) (events : List Stimulus) : List Attempt :=
  (ExpertDispatcher.system sha256 arith).notes attempt? ExpertDispatcher.new events

/-- What a part shows of the experts registered for its range. -/
def TopologyPart.registered (part : TopologyPart) : Nat × (Nat × Nat) × List Nat :=
  (part.shardIndex, (part.layerStart, part.layerEnd), part.experts.map TopologyExpert.expertId)

/-- The wallet of the last attempt for every expert: the listing of a range names it once,
and the snapshot shows the registered experts of every range, marked and with that wallet,
whatever the order in which `recent` is walked. -/
structure NamesLast (attempts : List Attempt) (dispatcher : ExpertDispatcher) : Prop where
  once : ∀ walk, walk.Perm dispatcher.recent.entries → ∀ requestId layerStart layerEnd,
    ((recentAssignmentsForRange walk requestId layerStart layerEnd).map Prod.fst).Nodup
  named : ∀ walk, walk.Perm dispatcher.recent.entries →
    ∀ requestId layerStart layerEnd expertId wallet,
      (expertId, wallet) ∈ recentAssignmentsForRange walk requestId layerStart layerEnd ↔
        lastAttempt attempts requestId layerStart layerEnd expertId = some wallet
  shown : ∀ engine registry dispatchLog walks requestId pipeline snapshot,
    (∀ idx, (walks idx).Perm dispatcher.recent.entries) →
    engine.pipelines requestId = some pipeline →
    topologySnapshot engine registry dispatchLog walks requestId = some snapshot →
    (snapshot.parts.filter fun part => part.kind = .expertGroup).map TopologyPart.registered =
      (pipeline.shards.filterMap fun shard =>
        (registeredExperts pipeline shard).map fun ids =>
          (shard.shardIndex, Shard.layerRange shard, ids))
  marked : ∀ engine registry dispatchLog walks requestId snapshot,
    (∀ idx, (walks idx).Perm dispatcher.recent.entries) →
    topologySnapshot engine registry dispatchLog walks requestId = some snapshot →
    ∀ part ∈ snapshot.parts, ∀ expert ∈ part.experts,
      expert.wallet =
        lastAttempt attempts requestId part.layerStart part.layerEnd expert.expertId ∧
      (expert.activated = true ↔ ∃ attempt ∈ attempts,
        attempt.IsFor requestId part.layerStart part.layerEnd expert.expertId)

/-! ## What `recent` holds -/

/-- What one attempt writes: nothing unless its wallet is connected. -/
def Attempt.writes (attempt : Attempt) : List (ExpertAssignmentKey × Wallet) :=
  if attempt.connected then [(attempt.key, attempt.wallet)] else []

namespace ExpertDispatcher

variable {sha256 : Digest} {arith : Arithmetic} {dispatcher : ExpertDispatcher}
  {stimulus : Stimulus} {events : List Stimulus}

@[simp]
theorem settle_recent (ticket : Ticket) (call : Call) :
    (settle arith ticket call dispatcher).recent = dispatcher.recent := by
  unfold settle
  split <;> rfl

theorem dispatchAndJoin_recent (registry : MinerRegistry) (reader : Wallet) (request : FanOut) :
    (dispatchAndJoin registry reader request dispatcher).recent = dispatcher.recent := by
  unfold dispatchAndJoin
  dsimp only
  split
  · rfl
  · split
    · rfl
    · split <;> rfl

theorem handleExpertResult_recent (wallet : Wallet) (result : OpoiExpertResult) (sentAt : Nat) :
    (handleExpertResult wallet result sentAt dispatcher).recent = dispatcher.recent := by
  unfold handleExpertResult
  dsimp only
  split
  · rfl
  · split
    · split <;> rfl
    · rfl

theorem wake_recent (registry : MinerRegistry) (ticket : Ticket) (index : Nat) (call : Call)
    (member : Member) (waiter : Waiter) :
    (wake arith registry ticket index call member waiter dispatcher).recent =
      dispatcher.recent := by
  unfold wake
  dsimp only
  split
  · rw [settle_recent]
    rfl
  · rw [settle_recent]
    rfl

/-- An attempt enters its wallet if the wallet is connected. -/
theorem dispatchOne_recent (registry : MinerRegistry) (ticket : Ticket) (index : Nat)
    (isOpen : Bool) (call : Call) (member : Member) :
    (dispatchOne sha256 arith registry ticket index isOpen call member dispatcher).recent =
      if (registry.get member.wallet).isSome then
        dispatcher.recent.insert (call.request.key member.selected) member.wallet
      else
        dispatcher.recent := by
  unfold dispatchOne
  dsimp only
  cases registry.get member.wallet with
  | none => simp
  | some tx => cases isOpen <;> simp [forget]

theorem attempt?_dispatchOne {registry : MinerRegistry} {ticket : Ticket} {index : Nat}
    {isOpen : Bool} {call : Call} {member : Member}
    (stands : dispatcher.Stands ticket index call member) (ready : member.progress = .ready) :
    attempt? dispatcher ⟨registry, .dispatchOne ticket index isOpen⟩ =
      some ⟨call.request.key member.selected, member.wallet,
        (registry.get member.wallet).isSome⟩ := by
  simp [attempt?, stands.called, stands.listed, ready]

/-- One event writes what its attempt writes. -/
theorem remembers_next {seen : List Attempt}
    (remembers : Remembers dispatcher.recent (seen.flatMap Attempt.writes))
    (enabled : (system sha256 arith).enabled dispatcher stimulus) :
    Remembers (next sha256 arith dispatcher stimulus).recent
      ((seen ++ (attempt? dispatcher stimulus).toList).flatMap Attempt.writes) := by
  rcases stimulus with ⟨registry, event⟩
  cases event with
  | dispatchAndJoin reader request =>
      simpa [next, attempt?, dispatchAndJoin_recent] using remembers
  | dispatchOne ticket index isOpen =>
      rcases enabled with ⟨call, member, stands, ready⟩
      rw [next_dispatchOne stands ready, attempt?_dispatchOne stands ready, dispatchOne_recent,
        Option.toList_some, List.flatMap_append, List.flatMap_singleton, Attempt.writes]
      split
      · exact remembers.insert (call.request.key member.selected, member.wallet)
      · rwa [List.append_nil]
  | wake ticket index =>
      rcases enabled with ⟨call, member, waiter, stands, waiting⟩
      rw [next_wake stands waiting, wake_recent]
      simpa [attempt?] using remembers
  | expertResult wallet result sentAt =>
      simpa [next, attempt?, handleExpertResult_recent] using remembers
  | disconnect wallet => simpa [next, attempt?, onDisconnect] using remembers
  | cancel ticket => simpa [next, attempt?, cancel] using remembers

/-- In every run, `recent` holds the wallet last asked under every key. -/
theorem remembers_attempts (run : (system sha256 arith).Run new events dispatcher) :
    Remembers dispatcher.recent ((attempts sha256 arith events).flatMap Attempt.writes) := by
  apply run.noted attempt? (I := fun state seen =>
    Remembers state.recent (seen.flatMap Attempt.writes))
  · exact remembers_empty
  · intro state seen event remembers enabled _
    exact remembers_next remembers enabled

end ExpertDispatcher

/-! ## One range -/

/-- The expert of a key in a range of a request. -/
def expertOf (requestId : RequestId) (layerStart layerEnd : Nat) (key : ExpertAssignmentKey) :
    Option Nat :=
  if key.requestId = requestId ∧ key.layerStart = layerStart ∧ key.layerEnd = layerEnd then
    some key.expertId
  else
    none

section Range

variable {requestId : RequestId} {layerStart layerEnd expertId : Nat} {attempts : List Attempt}
  {dispatcher : ExpertDispatcher}

theorem expertOf_eq_some_iff {key : ExpertAssignmentKey} :
    expertOf requestId layerStart layerEnd key = some expertId ↔
      key.requestId = requestId ∧ key.layerStart = layerStart ∧ key.layerEnd = layerEnd ∧
        key.expertId = expertId := by
  unfold expertOf
  split <;> simp_all

/-- The listing of a range is `recent` under the expert ids. -/
theorem recentAssignmentsForRange_eq_coarsen (walk : List (ExpertAssignmentKey × Wallet)) :
    recentAssignmentsForRange walk requestId layerStart layerEnd =
      coarsen (expertOf requestId layerStart layerEnd) walk := by
  induction walk with
  | nil => rfl
  | cons entry rest ih =>
      rw [recentAssignmentsForRange, coarsen] at ih ⊢
      by_cases inside : entry.1.requestId = requestId ∧ entry.1.layerStart = layerStart ∧
          entry.1.layerEnd = layerEnd
      · rw [List.filter_cons_of_pos (by simpa using inside), List.map_cons, ih,
          List.filterMap_cons_some (by rw [expertOf, if_pos inside]; rfl)]
      · rw [List.filter_cons_of_neg (by simpa using inside), ih,
          List.filterMap_cons_none (by rw [expertOf, if_neg inside]; rfl)]

theorem lastAttempt_snoc (attempt : Attempt) :
    lastAttempt (attempts ++ [attempt]) requestId layerStart layerEnd expertId =
      if attempt.IsFor requestId layerStart layerEnd expertId then some attempt.wallet
      else lastAttempt attempts requestId layerStart layerEnd expertId := by
  rw [lastAttempt, List.reverse_append, List.reverse_singleton, List.singleton_append,
    List.find?_cons]
  by_cases same : attempt.IsFor requestId layerStart layerEnd expertId
  · simp [same]
  · simp [same, lastAttempt]

theorem lastAttempt_isSome_iff :
    (lastAttempt attempts requestId layerStart layerEnd expertId).isSome ↔
      ∃ attempt ∈ attempts, attempt.IsFor requestId layerStart layerEnd expertId := by
  simp [lastAttempt]

/-- The last attempt that found its wallet connected is the last write under the expert
id. -/
theorem latest_coarsen_writes :
    latest (coarsen (expertOf requestId layerStart layerEnd) (attempts.flatMap Attempt.writes))
        expertId =
      lastAttempt (attempts.filter Attempt.connected) requestId layerStart layerEnd expertId := by
  induction attempts using List.reverseRecOn with
  | nil => rfl
  | append_singleton attempts attempt ih =>
      rw [List.flatMap_append, List.flatMap_singleton, List.filter_append, Attempt.writes]
      cases connected : attempt.connected with
      | false => simpa [connected] using ih
      | true =>
          rw [if_pos rfl, coarsen_snoc, List.filter_cons_of_pos connected, List.filter_nil,
            lastAttempt_snoc, ← ih]
          by_cases same : attempt.IsFor requestId layerStart layerEnd expertId
          · rw [if_pos same, expertOf_eq_some_iff.mpr same, Option.map_some, Option.toList_some,
              latest_snoc, if_pos rfl]
          · rw [if_neg same]
            cases seen : expertOf requestId layerStart layerEnd attempt.key with
            | none => rw [Option.map_none, Option.toList_none, List.append_nil]
            | some other =>
                have ne : other ≠ expertId := by
                  rintro rfl
                  exact same (expertOf_eq_some_iff.mp seen)
                rw [Option.map_some, Option.toList_some, latest_snoc, if_neg ne]

theorem mem_map_fst_writes {key : ExpertAssignmentKey} :
    key ∈ (attempts.flatMap Attempt.writes).map Prod.fst ↔
      ∃ attempt ∈ attempts, attempt.connected = true ∧ attempt.key = key := by
  simp only [List.mem_map, List.mem_flatMap, Attempt.writes]
  constructor
  · rintro ⟨write, ⟨attempt, mem, written⟩, rfl⟩
    split at written
    · rw [List.mem_singleton.mp written]
      exact ⟨attempt, mem, ‹_›, rfl⟩
    · cases written
  · rintro ⟨attempt, mem, connected, rfl⟩
    exact ⟨(attempt.key, attempt.wallet), ⟨attempt, mem, by simp [connected]⟩, rfl⟩

end Range

/-! ## The parts of a snapshot -/

section Parts

variable {engine : ShardEngine} {registry : MinerRegistry}
  {dispatchLog : List PrimaryDispatchRecord} {vram : PartialMap Wallet Nat}
  {walks : Nat → List (ExpertAssignmentKey × Wallet)} {requestId : RequestId}
  {pipeline : PipelineState} {shard : ShardDescriptor} {idx : Nat} {snapshot : TopologySnapshot}

theorem parts_eq (running : engine.pipelines requestId = some pipeline)
    (taken : topologySnapshot engine registry dispatchLog walks requestId = some snapshot) :
    snapshot.parts = pipeline.shards.zipIdx.flatMap fun entry =>
      shardParts dispatchLog (vramByWallet registry.snapshotAll) walks requestId pipeline entry.1
        entry.2 := by
  rw [topologySnapshot, running] at taken
  cases taken
  rfl

theorem registered_shardParts :
    ((shardParts dispatchLog vram walks requestId pipeline shard idx).filter fun part =>
        part.kind = .expertGroup).map TopologyPart.registered =
      ((registeredExperts pipeline shard).map fun ids =>
        (shard.shardIndex, Shard.layerRange shard, ids)).toList := by
  unfold shardParts
  cases registeredExperts pipeline shard with
  | none => simp [densePart]
  | some ids =>
      simp [densePart, expertPart, TopologyPart.registered, Function.comp_def, topologyExpert]

/-- The expert parts of a snapshot show the registered experts of every shard, in order. -/
theorem registered_parts (running : engine.pipelines requestId = some pipeline)
    (taken : topologySnapshot engine registry dispatchLog walks requestId = some snapshot) :
    (snapshot.parts.filter fun part => part.kind = .expertGroup).map TopologyPart.registered =
      pipeline.shards.filterMap fun shard =>
        (registeredExperts pipeline shard).map fun ids =>
          (shard.shardIndex, Shard.layerRange shard, ids) := by
  rw [parts_eq running taken, List.filter_flatMap, List.map_flatMap,
    List.filterMap_eq_flatMap_toList]
  simp only [registered_shardParts]
  conv_rhs => rw [← List.zipIdx_map_fst 0 pipeline.shards, List.flatMap_map]

/-- The experts of a part have what the listing of its range says. -/
theorem mem_experts (taken : topologySnapshot engine registry dispatchLog walks requestId =
      some snapshot) {part : TopologyPart} (mem : part ∈ snapshot.parts) {expert : TopologyExpert}
    (listed : expert ∈ part.experts) :
    ∃ idx, expert.wallet = collect (recentAssignmentsForRange (walks idx) requestId part.layerStart
        part.layerEnd) expert.expertId ∧
      expert.activated = expert.wallet.isSome := by
  cases running : engine.pipelines requestId with
  | none =>
      rw [topologySnapshot, running] at taken
      cases taken
  | some pipeline =>
      rw [parts_eq running taken] at mem
      obtain ⟨⟨shard, idx⟩, -, mem⟩ := List.mem_flatMap.mp mem
      unfold shardParts at mem
      rcases List.mem_cons.mp mem with rfl | mem
      · cases listed
      · cases ids : registeredExperts pipeline shard with
        | none =>
            rw [ids] at mem
            cases mem
        | some ids =>
            simp only [ids, List.mem_singleton] at mem
            subst mem
            obtain ⟨expertId, -, rfl⟩ := List.mem_map.mp listed
            exact ⟨idx, rfl, rfl⟩

end Parts

/-! ## When the report names the last wallet -/

/-- The attempts for an expert in a range that found their wallet connected were all made at
one layer of it. -/
def OneLayer (attempts : List Attempt) : Prop :=
  ∀ first ∈ attempts, ∀ second ∈ attempts, first.connected = true → second.connected = true →
    first.key.requestId = second.key.requestId → first.key.layerStart = second.key.layerStart →
    first.key.layerEnd = second.key.layerEnd → first.key.expertId = second.key.expertId →
    first.key.layerIdx = second.key.layerIdx

/-- The last attempt for an expert in a range was meant for the wallet that was last found
connected. -/
def LastConnected (attempts : List Attempt) : Prop :=
  ∀ requestId layerStart layerEnd expertId,
    lastAttempt attempts requestId layerStart layerEnd expertId =
      lastAttempt (attempts.filter Attempt.connected) requestId layerStart layerEnd expertId

/-- Two keys written to fall together in a range exactly if they are of two layers. -/
theorem oneLayer_iff_apart {attempts : List Attempt} :
    OneLayer attempts ↔ ∀ requestId layerStart layerEnd,
      Apart (expertOf requestId layerStart layerEnd)
        ((attempts.flatMap Attempt.writes).map Prod.fst) := by
  constructor
  · intro oneLayer requestId layerStart layerEnd first firstMem second secondMem expertId seen again
    obtain ⟨earlier, earlierMem, wasConnected, rfl⟩ := mem_map_fst_writes.mp firstMem
    obtain ⟨later, laterMem, isConnected, rfl⟩ := mem_map_fst_writes.mp secondMem
    obtain ⟨request, start, stop, expert⟩ := expertOf_eq_some_iff.mp seen
    obtain ⟨requestToo, startToo, stopToo, expertToo⟩ := expertOf_eq_some_iff.mp again
    have layer := oneLayer earlier earlierMem later laterMem wasConnected isConnected
      (request.trans requestToo.symm) (start.trans startToo.symm) (stop.trans stopToo.symm)
      (expert.trans expertToo.symm)
    rcases earlier with ⟨⟨_, _, _, _, _⟩, _, _⟩
    rcases later with ⟨⟨_, _, _, _, _⟩, _, _⟩
    simp_all
  · intro apart first firstMem second secondMem wasConnected isConnected request start stop expert
    have same := apart second.key.requestId second.key.layerStart second.key.layerEnd first.key
      (mem_map_fst_writes.mpr ⟨first, firstMem, wasConnected, rfl⟩) second.key
      (mem_map_fst_writes.mpr ⟨second, secondMem, isConnected, rfl⟩) second.key.expertId
      (expertOf_eq_some_iff.mpr ⟨request, start, stop, expert⟩)
      (expertOf_eq_some_iff.mpr ⟨rfl, rfl, rfl, rfl⟩)
    rw [same]

section Report

variable {attempts : List Attempt} {dispatcher : ExpertDispatcher}

/-- At one layer, the listing of a range names the wallet last found connected. -/
theorem mem_recentAssignmentsForRange_iff
    (remembers : Remembers dispatcher.recent (attempts.flatMap Attempt.writes))
    (oneLayer : OneLayer attempts) {walk : List (ExpertAssignmentKey × Wallet)}
    (walked : walk.Perm dispatcher.recent.entries) {requestId : RequestId}
    {layerStart layerEnd expertId : Nat} {wallet : Wallet} :
    (expertId, wallet) ∈ recentAssignmentsForRange walk requestId layerStart layerEnd ↔
      lastAttempt (attempts.filter Attempt.connected) requestId layerStart layerEnd expertId =
        some wallet := by
  rw [recentAssignmentsForRange_eq_coarsen, ← latest_coarsen_writes]
  exact remembers.mem_coarsen_iff walked (oneLayer_iff_apart.mp oneLayer _ _ _)

/-- The report names the last wallets exactly if no expert was asked for two layers of a
range, and the last wallet was connected or had been asked before. -/
theorem namesLast_iff_of_remembers
    (remembers : Remembers dispatcher.recent (attempts.flatMap Attempt.writes)) :
    NamesLast attempts dispatcher ↔ OneLayer attempts ∧ LastConnected attempts := by
  constructor
  · intro names
    have oneLayer : OneLayer attempts := by
      rw [oneLayer_iff_apart]
      intro requestId layerStart layerEnd
      rw [← remembers.nodup_coarsen_iff (List.Perm.refl dispatcher.recent.entries),
        ← recentAssignmentsForRange_eq_coarsen]
      exact names.once _ (List.Perm.refl _) requestId layerStart layerEnd
    refine ⟨oneLayer, ?_⟩
    intro requestId layerStart layerEnd expertId
    apply Option.ext
    intro wallet
    rw [← names.named _ (List.Perm.refl _),
      mem_recentAssignmentsForRange_iff remembers oneLayer (List.Perm.refl _)]
  · rintro ⟨oneLayer, lastConnected⟩
    have once : ∀ walk, walk.Perm dispatcher.recent.entries → ∀ requestId layerStart layerEnd,
        ((recentAssignmentsForRange walk requestId layerStart layerEnd).map Prod.fst).Nodup := by
      intro walk walked requestId layerStart layerEnd
      rw [recentAssignmentsForRange_eq_coarsen, remembers.nodup_coarsen_iff walked]
      exact oneLayer_iff_apart.mp oneLayer requestId layerStart layerEnd
    have named : ∀ walk, walk.Perm dispatcher.recent.entries →
        ∀ requestId layerStart layerEnd expertId wallet,
          (expertId, wallet) ∈ recentAssignmentsForRange walk requestId layerStart layerEnd ↔
            lastAttempt attempts requestId layerStart layerEnd expertId = some wallet := by
      intro walk walked requestId layerStart layerEnd expertId wallet
      rw [mem_recentAssignmentsForRange_iff remembers oneLayer walked, lastConnected]
    refine ⟨once, named, ?_, ?_⟩
    · intro engine registry dispatchLog walks requestId pipeline snapshot _ running taken
      exact registered_parts running taken
    · intro engine registry dispatchLog walks requestId snapshot walked taken part mem expert listed
      obtain ⟨idx, isWallet, isActivated⟩ := mem_experts taken mem listed
      have last : expert.wallet =
          lastAttempt attempts requestId part.layerStart part.layerEnd expert.expertId := by
        rw [isWallet]
        apply Option.ext
        intro wallet
        rw [collect_eq_some_iff (once _ (walked idx) _ _ _), named _ (walked idx)]
      exact ⟨last, by rw [isActivated, last, lastAttempt_isSome_iff]⟩

end Report

namespace ExpertDispatcher

/-- In every run, the report names the last wallets exactly if no expert was asked for two
layers of one range, and the wallet last meant was the one last found connected. -/
theorem namesLast_iff {sha256 : Digest} {arith : Arithmetic} {events : List Stimulus}
    {dispatcher : ExpertDispatcher} (run : (system sha256 arith).Run new events dispatcher) :
    NamesLast (attempts sha256 arith events) dispatcher ↔
      OneLayer (attempts sha256 arith events) ∧ LastConnected (attempts sha256 arith events) :=
  namesLast_iff_of_remembers (remembers_attempts run)

/-- A fan-out over two experts; the host of the first one does not answer, and another is
asked. -/
def reaskedEvents : List Stimulus :=
  [trio (.dispatchAndJoin "p" (soleFanOut 0 [7, 8])), trio (.dispatchOne 0 0 true),
    trio (.dispatchOne 0 1 true), trio (.wake 0 0), trio (.dispatchOne 0 0 true)]

/-- An instance of `namesLast_iff`: expert 7 was asked of two hosts. -/
theorem namesLast_answered :
    let finish := (system soleDigest soleArithmetic).execute new reaskedEvents
    NamesLast (attempts soleDigest soleArithmetic reaskedEvents) finish ∧
      recentAssignmentsForRange finish.recent.entries "r" 0 4 = [(7, "c"), (8, "b")] := by
  have admitted :
      (system soleDigest soleArithmetic).Admits (fun _ _ => True) new reaskedEvents :=
    ⟨⟨trivial, trivial⟩, ⟨⟨_, _, ⟨rfl, rfl⟩, rfl⟩, trivial⟩, ⟨⟨_, _, ⟨rfl, rfl⟩, rfl⟩, trivial⟩,
      ⟨⟨_, _, _, ⟨rfl, rfl⟩, rfl⟩, trivial⟩, ⟨⟨_, _, ⟨rfl, rfl⟩, rfl⟩, trivial⟩, trivial⟩
  have made : attempts soleDigest soleArithmetic reaskedEvents =
      [⟨⟨"r", 0, 4, 3, 7⟩, "a", true⟩, ⟨⟨"r", 0, 4, 3, 8⟩, "b", true⟩,
        ⟨⟨"r", 0, 4, 3, 7⟩, "c", true⟩] := rfl
  have layer : ∀ attempt ∈ attempts soleDigest soleArithmetic reaskedEvents,
      attempt.key.layerIdx = 3 := by
    rw [made]
    decide
  refine ⟨(namesLast_iff admitted.runWith).mpr ⟨?_, ?_⟩, rfl⟩
  · intro first firstMem second secondMem _ _ _ _ _ _
    rw [layer first firstMem, layer second secondMem]
  · intro requestId layerStart layerEnd expertId
    rw [made]
    rfl

/-- An event after host `"a"` has gone. -/
def remaining (event : Event) : Stimulus :=
  ⟨trioRegistry.unregister "a", event⟩

/-- Expert 7 runs on `"a"` for layer 2, and on `"b"` for layer 3 of the same range. -/
def twoLayerEvents : List Stimulus :=
  [trio (.dispatchAndJoin "p" { soleFanOut 0 [7] with layerIdx := 2 }),
    trio (.dispatchOne 0 0 true),
    trio (.expertResult "a" { soleReply 0 7 "00000000" with layerIdx := 2 } 2),
    trio (.wake 0 0), remaining (.disconnect "a"),
    remaining (.dispatchAndJoin "p" (soleFanOut 0 [7])), remaining (.dispatchOne 1 0 true)]

/-- The range has two entries for expert 7, and a snapshot may name either wallet. -/
theorem two_layers_listed :
    ∃ dispatcher, (system soleDigest soleArithmetic).Run new twoLayerEvents dispatcher ∧
      recentAssignmentsForRange dispatcher.recent.entries "r" 0 4 = [(7, "a"), (7, "b")] ∧
      lastAttempt (attempts soleDigest soleArithmetic twoLayerEvents) "r" 0 4 7 = some "b" ∧
      collect (recentAssignmentsForRange dispatcher.recent.entries.reverse "r" 0 4) 7 =
        some "a" ∧
      ¬ NamesLast (attempts soleDigest soleArithmetic twoLayerEvents) dispatcher := by
  have admitted :
      (system soleDigest soleArithmetic).Admits (fun _ _ => True) new twoLayerEvents :=
    ⟨⟨trivial, trivial⟩, ⟨⟨_, _, ⟨rfl, rfl⟩, rfl⟩, trivial⟩, ⟨le_rfl, trivial⟩,
      ⟨⟨_, _, _, ⟨rfl, rfl⟩, rfl⟩, trivial⟩, ⟨trivial, trivial⟩, ⟨trivial, trivial⟩,
      ⟨⟨_, _, ⟨rfl, rfl⟩, rfl⟩, trivial⟩, trivial⟩
  refine ⟨_, admitted.runWith, rfl, rfl, rfl, ?_⟩
  intro names
  exact absurd (names.once _ (List.Perm.refl _) "r" 0 4) (by decide)

end ExpertDispatcher

end Expert

end StratumBridge
