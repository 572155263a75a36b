import StratumBridge.Sequence.Schedule
import StratumBridge.Shard.Engine

/-!
# Layer plans and trails

The plan of a pipeline is its list of layer ranges; the schedule of the plan
says which layers are combined and from which reply each token is taken.  The
trail of a pipeline is what was seen of it so far, and it is lawful when the
steps made are the schedule's first ones and every line asks for the next.
-/

namespace StratumBridge.Shard

open Data Rpc Wire Sequence

/-- The layers of a dense shard, and whether experts are registered for
them. -/
structure LayerRange where
  bounds : Nat × Nat
  routed : Bool
  deriving DecidableEq

/-- The ranges of a list of shards. -/
def planOf (shards : List ShardDescriptor) (groups : PartialMap (Nat × Nat) (List Nat)) :
    List LayerRange :=
  shards.map fun shard =>
    ⟨layerRange shard, ((groups (layerRange shard)).filter fun ids => ids ≠ []).isSome⟩

namespace PipelineState

/-- The layer ranges of a pipeline, in the order of its shards. -/
def plan (pipeline : PipelineState) : List LayerRange :=
  planOf pipeline.shards pipeline.expertGroups

/-- The range a pipeline is at. -/
def here? (pipeline : PipelineState) : Option LayerRange :=
  pipeline.plan[pipeline.pos]?

end PipelineState

/-! ## Trails -/

/-- What is seen of a walk: a line to a miner, the experts of a layer combined,
a token taken from a reply to the given layer step. -/
inductive Mark
  | sent (wallet : Wallet) (token : Nat) (range : Nat × Nat) (layer : Option Nat)
  | combined (token : Nat) (range : Nat × Nat) (layer : Nat)
  | took (token : Nat) (reply : Option Nat)
  deriving DecidableEq

/-- A line to a miner asks for a step, everything else is one. -/
def Mark.isStep : Mark → Bool
  | sent _ _ _ _ => false
  | _ => true

/-- The first `count` layers of a range, combined in order. -/
def combinedLayers (token : Nat) (bounds : Nat × Nat) (count : Nat) : List Mark :=
  (List.range' bounds.1 count).map (.combined token bounds)

/-- The end of a range: after the model's last layer the token is taken, with
experts from the reply to one further step. -/
def closing (totalLayers token : Nat) (range : LayerRange) : List Mark :=
  if range.bounds.2 = totalLayers then
    [.took token (if range.routed then some range.bounds.2 else none)]
  else
    []

/-- The steps of one range for one token. -/
def rangeSteps (totalLayers token : Nat) (range : LayerRange) : List Mark :=
  (if range.routed then combinedLayers token range.bounds (range.bounds.2 - range.bounds.1)
    else []) ++ closing totalLayers token range

/-- The marks of a pipeline since it was started. -/
structure Trail where
  totalLayers : Nat
  plan : List LayerRange
  marks : List Mark

namespace Trail

/-- The steps made, in order. -/
def steps (trail : Trail) : List Mark :=
  trail.marks.filter Mark.isStep

/-- The steps to be made for the first tokens. -/
def scheduled (trail : Trail) (tokens : Nat) : List Mark :=
  schedule (rangeSteps trail.totalLayers) trail.plan tokens

/-- The trail goes on. -/
def add (trail : Trail) (marks : List Mark) : Trail :=
  { trail with marks := trail.marks ++ marks }

end Trail

/-- The step a line with a layer step asks for. -/
def awaitedStep (token : Nat) (range : Nat × Nat) (layer : Nat) : Mark :=
  if layer = range.2 then .took token (some layer) else .combined token range layer

/-- The laws of a walk. -/
structure Trail.Lawful (trail : Trail) : Prop where
  inOrder : ∃ tokens, trail.steps <+: trail.scheduled tokens
  awaited : ∀ before wallet token range layer after,
    trail.marks = before ++ .sent wallet token range (some layer) :: after →
      ∃ tokens, before.filter Mark.isStep ++ [awaitedStep token range layer] <+:
        trail.scheduled tokens
  stepped : ∀ wallet token range layer, .sent wallet token range layer ∈ trail.marks →
    ⟨range, true⟩ ∈ trail.plan → layer ≠ none
  onePinned : ∀ wallet other token range layer again,
    .sent wallet token range layer ∈ trail.marks → .sent other token range again ∈ trail.marks →
      ⟨range, true⟩ ∈ trail.plan → wallet = other

/-! ## A pipeline on its walk -/

theorem combinedLayers_succ (token : Nat) (bounds : Nat × Nat) (count : Nat) :
    combinedLayers token bounds (count + 1) =
      combinedLayers token bounds count ++ [.combined token bounds (bounds.1 + count)] := by
  simp [combinedLayers, List.range'_1_concat]

theorem combinedLayers_isPrefix (token : Nat) (bounds : Nat × Nat) {few many : Nat}
    (le : few ≤ many) : combinedLayers token bounds few <+: combinedLayers token bounds many := by
  obtain ⟨more, rfl⟩ := Nat.exists_eq_add_of_le le
  rw [combinedLayers, combinedLayers, ← List.range'_append_1, List.map_append]
  exact List.prefix_append _ _

namespace PipelineState

/-- The layers combined of the range a pipeline is at. -/
def layersDone (pipeline : PipelineState) : List Mark :=
  match pipeline.moeLayerWalk, pipeline.here? with
  | some (layer, _), some range =>
      combinedLayers pipeline.tokenIndex range.bounds (layer - range.bounds.1)
  | _, _ => []

/-- The steps made by a pipeline that has come this far. -/
def stepsDone (pipeline : PipelineState) : List Mark :=
  progress (rangeSteps pipeline.manifest.numLayers) pipeline.plan pipeline.tokenIndex
    pipeline.pos pipeline.layersDone

end PipelineState

/-- A layer awaited in a range: one of the range's own, or past the model's last
layer the one further step. -/
structure LayerInside (totalLayers : Nat) (range : LayerRange) (layer : Nat) : Prop where
  routed : range.routed = true
  first_le : range.bounds.1 ≤ layer
  le_last : layer ≤ range.bounds.2
  finalizing : layer = range.bounds.2 → range.bounds.2 = totalLayers

/-- A pipeline and its trail. -/
structure OnWalk (pipeline : PipelineState) (trail : Trail) : Prop where
  plan : trail.plan = pipeline.plan
  totalLayers : trail.totalLayers = pipeline.manifest.numLayers
  tiles : Tiles LayerRange.bounds 0 pipeline.plan pipeline.manifest.numLayers
  inRange : pipeline.pos < pipeline.shards.length
  inside : ∀ layer wallet range, pipeline.moeLayerWalk = some (layer, wallet) →
    pipeline.here? = some range → LayerInside pipeline.manifest.numLayers range layer
  steps : trail.steps = pipeline.stepsDone
  pinned : ∀ wallet layer range,
    .sent wallet pipeline.tokenIndex range.bounds layer ∈ trail.marks →
      pipeline.here? = some range → range.routed = true →
        ∃ at_layer, pipeline.moeLayerWalk = some (at_layer, wallet)
  reached : ∀ wallet token bounds layer, .sent wallet token bounds layer ∈ trail.marks →
    token < pipeline.tokenIndex ∨ token = pipeline.tokenIndex ∧
      ∃ index range, index ≤ pipeline.pos ∧ pipeline.plan[index]? = some range ∧
        range.bounds = bounds

section Pure

variable {pipeline after : PipelineState} {trail : Trail} {range : LayerRange}
variable {shard : ShardDescriptor} {layer : Nat} {wallet : Wallet} {output : ShardOutputWire}

theorem here?_of_shard (found : pipeline.shards[pipeline.pos]? = some shard) :
    pipeline.here? =
      some ⟨layerRange shard, (pipeline.expertGroupFor pipeline.pos).isSome⟩ := by
  simp [PipelineState.here?, PipelineState.plan, planOf, PipelineState.expertGroupFor, found]

theorem OnWalk.exists_shard (on : OnWalk pipeline trail) :
    ∃ shard, pipeline.shards[pipeline.pos]? = some shard :=
  ⟨_, List.getElem?_eq_getElem on.inRange⟩

theorem OnWalk.exists_here (on : OnWalk pipeline trail) : ∃ range, pipeline.here? = some range :=
  on.exists_shard.imp' _ fun _ found => here?_of_shard found

theorem plan_length (pipeline : PipelineState) :
    pipeline.plan.length = pipeline.shards.length := by
  simp [PipelineState.plan, planOf]

/-- The range a pipeline is at is not empty, and it is the model's last one if
and only if it belongs to the last shard. -/
theorem OnWalk.bounds (on : OnWalk pipeline trail) (here : pipeline.here? = some range) :
    range.bounds.1 < range.bounds.2 ∧
      (range.bounds.2 = pipeline.manifest.numLayers ↔
        pipeline.pos + 1 = pipeline.shards.length) := by
  have inside := on.tiles.inside here
  rw [plan_length] at inside
  exact inside.2

/-- What is awaited continues what has been done of the range. -/
theorem OnWalk.awaited_prefix (on : OnWalk pipeline trail)
    (walk : pipeline.moeLayerWalk = some (layer, wallet)) (here : pipeline.here? = some range) :
    combinedLayers pipeline.tokenIndex range.bounds (layer - range.bounds.1) ++
        [awaitedStep pipeline.tokenIndex range.bounds layer] <+:
      rangeSteps pipeline.manifest.numLayers pipeline.tokenIndex range := by
  obtain ⟨routed, first, last, finalizing⟩ := on.inside layer wallet range walk here
  rw [rangeSteps, if_pos routed]
  by_cases final : layer = range.bounds.2
  · rw [awaitedStep, if_pos final, closing, if_pos (finalizing final), if_pos routed, final]
  · have next : layer - range.bounds.1 + 1 ≤ range.bounds.2 - range.bounds.1 := by omega
    have step := combinedLayers_succ pipeline.tokenIndex range.bounds (layer - range.bounds.1)
    rw [Nat.add_sub_cancel' first] at step
    rw [awaitedStep, if_neg final, ← step]
    exact (combinedLayers_isPrefix _ _ next).trans (List.prefix_append _ _)

theorem layersDone_of_walk (walk : pipeline.moeLayerWalk = some (layer, wallet))
    (here : pipeline.here? = some range) : pipeline.layersDone =
      combinedLayers pipeline.tokenIndex range.bounds (layer - range.bounds.1) := by
  simp only [PipelineState.layersDone, walk, here]

theorem layersDone_of_none (resting : pipeline.moeLayerWalk = none) :
    pipeline.layersDone = [] := by
  simp only [PipelineState.layersDone, resting]

theorem OnWalk.scheduled (on : OnWalk pipeline trail) (tokens : Nat) : trail.scheduled tokens =
    schedule (rangeSteps pipeline.manifest.numLayers) pipeline.plan tokens := by
  rw [Trail.scheduled, on.plan, on.totalLayers]

/-- The step a walk awaits is the next one of the schedule. -/
theorem OnWalk.awaited (on : OnWalk pipeline trail)
    (walk : pipeline.moeLayerWalk = some (layer, wallet)) (here : pipeline.here? = some range) :
    trail.steps ++ [awaitedStep pipeline.tokenIndex range.bounds layer] <+:
      trail.scheduled (pipeline.tokenIndex + 1) := by
  rw [on.scheduled, on.steps, PipelineState.stepsDone, layersDone_of_walk walk here,
    progress_append]
  exact progress_prefix here (on.awaited_prefix walk here)

/-! ### Lawful trails -/

theorem eq_or_of_concat_eq {α : Type} {marks before after : List α} {mark last : α}
    (same : marks ++ [last] = before ++ mark :: after) :
    (marks = before ∧ last = mark) ∨ ∃ rest, marks = before ++ mark :: rest := by
  rcases List.eq_nil_or_concat after with rfl | ⟨rest, final, rfl⟩
  · obtain ⟨marks, last⟩ := List.append_inj' same rfl
    exact .inl ⟨marks, List.head_eq_of_cons_eq last⟩
  · rw [List.concat_eq_append, ← List.cons_append, ← List.append_assoc] at same
    exact .inr ⟨rest, (List.append_inj' same rfl).1⟩

theorem Trail.steps_add (trail : Trail) (marks : List Mark) :
    (trail.add marks).steps = trail.steps ++ marks.filter Mark.isStep := by
  simp [Trail.steps, Trail.add]

theorem Trail.scheduled_add (trail : Trail) (marks : List Mark) (tokens : Nat) :
    (trail.add marks).scheduled tokens = trail.scheduled tokens :=
  rfl

/-- A step that continues the schedule keeps a trail lawful. -/
theorem Trail.Lawful.step (lawful : trail.Lawful) {mark : Mark} {tokens : Nat}
    (isStep : mark.isStep = true) (next : trail.steps ++ [mark] <+: trail.scheduled tokens) :
    (trail.add [mark]).Lawful := by
  have old : ∀ {wallet token bounds layer},
      .sent wallet token bounds layer ∈ (trail.add [mark]).marks →
        .sent wallet token bounds layer ∈ trail.marks := by
    intro wallet token bounds layer mem
    rcases List.mem_append.mp mem with before | now
    · exact before
    · rw [List.mem_singleton] at now
      subst now
      cases isStep
  constructor
  · refine ⟨tokens, ?_⟩
    rw [Trail.steps_add, List.filter_singleton, isStep]
    exact next
  · intro before wallet token bounds layer after split
    rcases eq_or_of_concat_eq split with ⟨-, last⟩ | ⟨rest, earlier⟩
    · subst last
      cases isStep
    · exact lawful.awaited before wallet token bounds layer rest earlier
  · intro wallet token bounds layer mem routed
    exact lawful.stepped wallet token bounds layer (old mem) routed
  · intro wallet other token bounds layer again mem memAgain routed
    exact lawful.onePinned wallet other token bounds layer again (old mem) (old memAgain) routed

/-- Experts are registered by range. -/
theorem eq_of_mem_plan {first second : LayerRange} (atFirst : first ∈ pipeline.plan)
    (atSecond : second ∈ pipeline.plan) (same : first.bounds = second.bounds) :
    first = second := by
  obtain ⟨one, -, rfl⟩ := List.mem_map.mp atFirst
  obtain ⟨two, -, rfl⟩ := List.mem_map.mp atSecond
  have bounds : layerRange one = layerRange two := same
  rw [bounds]

/-- A line that asks the pinned wallet for what the pipeline awaits keeps a
trail lawful. -/
theorem OnWalk.sends_lawful (on : OnWalk pipeline trail) (lawful : trail.Lawful)
    (wallet : Wallet) (here : pipeline.here? = some range)
    (opened : range.routed = true → ∃ layer, pipeline.moeLayerWalk = some (layer, wallet)) :
    (trail.add [.sent wallet pipeline.tokenIndex range.bounds
      (pipeline.moeLayerWalk.map Prod.fst)]).Lawful := by
  have isHere : ⟨range.bounds, true⟩ ∈ trail.plan → range.routed = true := by
    intro listed
    rw [on.plan] at listed
    exact congrArg LayerRange.routed
      (eq_of_mem_plan (List.mem_of_getElem? here) listed rfl)
  constructor
  · rcases lawful.inOrder with ⟨tokens, part⟩
    exists tokens
    rw [Trail.steps_add, Trail.scheduled_add]
    simpa [Mark.isStep] using part
  · intro before other token bounds layer after split
    rcases eq_or_of_concat_eq split with ⟨rfl, last⟩ | ⟨rest, earlier⟩
    · simp only [Mark.sent.injEq, Option.map_eq_some_iff] at last
      rcases last with ⟨rfl, rfl, rfl, ⟨at_layer, pinned⟩, walk, rfl⟩
      exact ⟨_, on.awaited walk here⟩
    · exact lawful.awaited before other token bounds layer rest earlier
  · intro other token bounds layer mem routed
    rcases List.mem_append.mp mem with before | now
    · exact lawful.stepped other token bounds layer before routed
    · rw [List.mem_singleton, Mark.sent.injEq] at now
      rcases now with ⟨rfl, rfl, rfl, rfl⟩
      obtain ⟨at_layer, walk⟩ := opened (isHere routed)
      simp [walk]
  · intro first second token bounds layer again mem memAgain routed
    rcases List.mem_append.mp mem with before | now
    · rcases List.mem_append.mp memAgain with beforeAgain | nowAgain
      · exact lawful.onePinned first second token bounds layer again before beforeAgain routed
      · rw [List.mem_singleton, Mark.sent.injEq] at nowAgain
        rcases nowAgain with ⟨rfl, rfl, rfl, rfl⟩
        obtain ⟨at_layer, walk⟩ := opened (isHere routed)
        obtain ⟨_, walkFirst⟩ := on.pinned first layer range before here (isHere routed)
        rw [walk] at walkFirst
        cases walkFirst
        rfl
    · rw [List.mem_singleton, Mark.sent.injEq] at now
      rcases now with ⟨rfl, rfl, rfl, rfl⟩
      obtain ⟨at_layer, walk⟩ := opened (isHere routed)
      rcases List.mem_append.mp memAgain with beforeAgain | nowAgain
      · obtain ⟨_, walkSecond⟩ := on.pinned second again range beforeAgain here (isHere routed)
        rw [walk] at walkSecond
        cases walkSecond
        rfl
      · rw [List.mem_singleton, Mark.sent.injEq] at nowAgain
        exact nowAgain.1.symm

/-- Such a line leaves the pipeline where it is. -/
theorem OnWalk.sends (on : OnWalk pipeline trail) (wallet : Wallet)
    (here : pipeline.here? = some range)
    (opened : range.routed = true → ∃ layer, pipeline.moeLayerWalk = some (layer, wallet)) :
    OnWalk pipeline (trail.add [.sent wallet pipeline.tokenIndex range.bounds
      (pipeline.moeLayerWalk.map Prod.fst)]) where
  plan := on.plan
  totalLayers := on.totalLayers
  tiles := on.tiles
  inRange := on.inRange
  inside := on.inside
  steps := by
    rw [Trail.steps_add]
    simpa [Mark.isStep] using on.steps
  pinned := by
    intro other layer at_range mem hereToo routed
    rcases List.mem_append.mp mem with before | now
    · exact on.pinned other layer at_range before hereToo routed
    · rw [List.mem_singleton, Mark.sent.injEq] at now
      rcases now with ⟨rfl, -, -, -⟩
      rw [here] at hereToo
      cases hereToo
      exact opened routed
  reached := by
    intro other token bounds layer mem
    rcases List.mem_append.mp mem with before | now
    · exact on.reached other token bounds layer before
    · rw [List.mem_singleton, Mark.sent.injEq] at now
      rcases now with ⟨-, rfl, rfl, -⟩
      exact .inr ⟨rfl, pipeline.pos, range, Nat.le_refl _, here, rfl⟩

/-! ### Moves -/

/-- Two pipelines that stand at the same layer of the same plan. -/
structure SameWalk (pipeline after : PipelineState) : Prop where
  shards : after.shards = pipeline.shards
  groups : after.expertGroups = pipeline.expertGroups
  totalLayers : after.manifest.numLayers = pipeline.manifest.numLayers
  pos : after.pos = pipeline.pos
  tokenIndex : after.tokenIndex = pipeline.tokenIndex
  walk : after.moeLayerWalk = pipeline.moeLayerWalk

theorem SameWalk.refl (pipeline : PipelineState) : SameWalk pipeline pipeline :=
  ⟨rfl, rfl, rfl, rfl, rfl, rfl⟩

theorem sameWalk_contribute (wallet : Wallet) (pipeline : PipelineState) :
    SameWalk pipeline (ShardEngine.contribute wallet pipeline) :=
  ⟨rfl, rfl, rfl, rfl, rfl, rfl⟩

theorem SameWalk.plan (same : SameWalk pipeline after) : after.plan = pipeline.plan := by
  rw [PipelineState.plan, PipelineState.plan, same.shards, same.groups]

theorem SameWalk.here? (same : SameWalk pipeline after) : after.here? = pipeline.here? := by
  rw [PipelineState.here?, PipelineState.here?, same.plan, same.pos]

theorem SameWalk.layersDone (same : SameWalk pipeline after) :
    after.layersDone = pipeline.layersDone := by
  rw [PipelineState.layersDone, PipelineState.layersDone, same.walk, same.here?, same.tokenIndex]

theorem OnWalk.same (on : OnWalk pipeline trail) (same : SameWalk pipeline after) :
    OnWalk after trail where
  plan := on.plan.trans same.plan.symm
  totalLayers := on.totalLayers.trans same.totalLayers.symm
  tiles := by
    rw [same.plan, same.totalLayers]
    exact on.tiles
  inRange := by
    rw [same.pos, same.shards]
    exact on.inRange
  inside := by
    rw [same.walk, same.here?, same.totalLayers]
    exact on.inside
  steps := by
    rw [PipelineState.stepsDone, same.plan, same.totalLayers, same.tokenIndex, same.pos,
      same.layersDone]
    exact on.steps
  pinned := by
    rw [same.walk, same.here?, same.tokenIndex]
    exact on.pinned
  reached := by
    rw [same.plan, same.pos, same.tokenIndex]
    exact on.reached

/-- A fresh dispatch pins a wallet and awaits the first layer. -/
theorem OnWalk.opens (on : OnWalk pipeline trail) (resting : pipeline.moeLayerWalk = none)
    (found : pipeline.shards[pipeline.pos]? = some shard) (wallet : Wallet) :
    OnWalk (ShardEngine.openWalk pipeline shard wallet) trail := by
  have here := here?_of_shard found
  rw [ShardEngine.openWalk]
  split
  · rename_i group
    rw [group] at here
    have first : (layerRange shard).1 < (layerRange shard).2 := (on.bounds here).1
    refine { on with inside := ?_, steps := ?_, pinned := ?_ }
    · intro layer pinned range walk hereToo
      cases walk
      cases here.symm.trans hereToo
      exact ⟨rfl, Nat.le_refl _, Nat.le_of_lt first, fun last => absurd last (Nat.ne_of_lt first)⟩
    · have hereToo : PipelineState.here?
          { pipeline with moeLayerWalk := some (shard.layerStart.getD 0, wallet) } = _ := here
      have done := layersDone_of_walk rfl hereToo
      rw [show (layerRange shard).1 = shard.layerStart.getD 0 from rfl, Nat.sub_self] at done
      rw [on.steps, PipelineState.stepsDone, layersDone_of_none resting]
      exact congrArg (progress _ pipeline.plan pipeline.tokenIndex pipeline.pos) done.symm
    · intro other layer range mem hereToo routed
      obtain ⟨at_layer, walk⟩ := on.pinned other layer range mem hereToo routed
      rw [resting] at walk
      cases walk
  · exact on

/-- Nothing was sent yet for a place beyond the one a pipeline is at. -/
theorem OnWalk.not_sent (on : OnWalk pipeline trail) {token index : Nat} {other : Wallet}
    {layerStep : Option Nat} (found : pipeline.plan[index]? = some range)
    (beyond : pipeline.tokenIndex < token ∨ pipeline.tokenIndex = token ∧ pipeline.pos < index) :
    .sent other token range.bounds layerStep ∉ trail.marks := by
  intro mem
  rcases on.reached _ _ _ _ mem with earlier | ⟨sameToken, before, at_before, le, foundBefore, same⟩
  · omega
  · have earlier : before < index := by omega
    have lt := on.tiles.first_lt earlier foundBefore found
    rw [same] at lt
    exact Nat.lt_irrefl _ lt

theorem mem_marks_of_add {marks : List Mark} {token : Nat} {bounds : Nat × Nat}
    {layerStep : Option Nat} (allSteps : ∀ mark ∈ marks, mark.isStep = true)
    (mem : .sent wallet token bounds layerStep ∈ (trail.add marks).marks) :
    .sent wallet token bounds layerStep ∈ trail.marks := by
  rcases List.mem_append.mp mem with before | now
  · exact before
  · cases allSteps _ now

/-- A layer before the end of its range is combined. -/
theorem OnWalk.combines_lawful (on : OnWalk pipeline trail) (lawful : trail.Lawful)
    (walk : pipeline.moeLayerWalk = some (layer, wallet)) (here : pipeline.here? = some range)
    (before : layer < range.bounds.2) :
    (trail.add [.combined pipeline.tokenIndex range.bounds layer]).Lawful := by
  have next := on.awaited walk here
  rw [awaitedStep, if_neg (Nat.ne_of_lt before)] at next
  exact lawful.step rfl next

/-- A combined layer that resumes its shard is followed by the next layer, on
the same wallet. -/
theorem OnWalk.nextLayer (on : OnWalk pipeline trail)
    (walk : pipeline.moeLayerWalk = some (layer, wallet)) (here : pipeline.here? = some range)
    (before : layer < range.bounds.2)
    (resumes : layer + 1 = range.bounds.2 → range.bounds.2 = pipeline.manifest.numLayers)
    (output : ShardOutputWire) :
    OnWalk (ShardEngine.nextLayer pipeline layer output)
      (trail.add [.combined pipeline.tokenIndex range.bounds layer]) := by
  have inside := on.inside layer wallet range walk here
  have moved : (ShardEngine.nextLayer pipeline layer output).moeLayerWalk =
      some (layer + 1, wallet) := by
    simp [ShardEngine.nextLayer, walk]
  have hereToo : (ShardEngine.nextLayer pipeline layer output).here? = some range := here
  have old : ∀ {wallet token bounds layerStep},
      .sent wallet token bounds layerStep ∈
          (trail.add [.combined pipeline.tokenIndex range.bounds layer]).marks →
        .sent wallet token bounds layerStep ∈ trail.marks :=
    mem_marks_of_add (by simp [Mark.isStep])
  refine { on with inside := ?_, steps := ?_, pinned := ?_, reached := ?_ }
  · intro at_layer pinned at_range walkNow hereNow
    cases moved.symm.trans walkNow
    cases hereToo.symm.trans hereNow
    exact ⟨inside.routed, inside.first_le.trans (Nat.le_succ _), before, resumes⟩
  · have next := combinedLayers_succ pipeline.tokenIndex range.bounds (layer - range.bounds.1)
    rw [← Nat.sub_add_comm inside.first_le, Nat.add_sub_cancel' inside.first_le] at next
    rw [Trail.steps_add, on.steps, PipelineState.stepsDone, PipelineState.stepsDone,
      layersDone_of_walk walk here, layersDone_of_walk moved hereToo, progress_append]
    exact congrArg (progress _ _ _ _) next.symm
  · intro other layerStep at_range mem hereNow routed
    obtain ⟨_, walkBefore⟩ := on.pinned other layerStep at_range (old mem) hereNow routed
    cases walk.symm.trans walkBefore
    exact ⟨_, moved⟩
  · exact fun other token bounds layerStep mem =>
      on.reached other token bounds layerStep (old mem)

/-- A range whose steps are all made is left for the next shard. -/
theorem OnWalk.nextShard (on : OnWalk pipeline trail) (here : pipeline.here? = some range)
    {marks : List Mark} (allSteps : ∀ mark ∈ marks, mark.isStep = true)
    (done : pipeline.layersDone ++ marks =
      rangeSteps pipeline.manifest.numLayers pipeline.tokenIndex range)
    (notLast : pipeline.pos + 1 ≠ pipeline.shards.length) (output : ShardOutputWire) :
    OnWalk (ShardEngine.nextShard pipeline output) (trail.add marks) := by
  have inRange := on.inRange
  refine { on with inRange := ?_, inside := ?_, steps := ?_, pinned := ?_, reached := ?_ }
  · simp only [ShardEngine.nextShard]
    omega
  · intro layer wallet at_range walk
    cases walk
  · rw [Trail.steps_add, List.filter_eq_self.mpr allSteps, on.steps, PipelineState.stepsDone,
      progress_append, done, progress_segment here]
    rfl
  · intro other layerStep at_range mem hereNow
    exact absurd (mem_marks_of_add allSteps mem)
      (on.not_sent hereNow (.inr ⟨rfl, Nat.lt_succ_self _⟩))
  · intro other token bounds layerStep mem
    rcases on.reached other token bounds layerStep (mem_marks_of_add allSteps mem) with
      earlier | ⟨same, index, at_range, le, found, sameBounds⟩
    · exact .inl earlier
    · exact .inr ⟨same, index, at_range, Nat.le_succ_of_le le, found, sameBounds⟩

/-- The last range is left for the next token. -/
theorem OnWalk.nextToken (on : OnWalk pipeline trail) (here : pipeline.here? = some range)
    {marks : List Mark} (allSteps : ∀ mark ∈ marks, mark.isStep = true)
    (done : pipeline.layersDone ++ marks =
      rangeSteps pipeline.manifest.numLayers pipeline.tokenIndex range)
    (last : pipeline.pos + 1 = pipeline.shards.length) (tokenId : TokenId) :
    OnWalk (ShardEngine.nextToken (ShardEngine.recordToken pipeline tokenId) tokenId)
      (trail.add marks) := by
  have inRange := on.inRange
  refine { on with inRange := ?_, inside := ?_, steps := ?_, pinned := ?_, reached := ?_ }
  · exact Nat.zero_lt_of_lt inRange
  · intro layer wallet at_range walk
    cases walk
  · rw [Trail.steps_add, List.filter_eq_self.mpr allSteps, on.steps, PipelineState.stepsDone,
      progress_append, done, progress_segment here, last, ← plan_length, progress_round rfl]
    rfl
  · intro other layerStep at_range mem hereNow
    exact absurd (mem_marks_of_add allSteps mem) (on.not_sent hereNow (.inl (Nat.lt_succ_self _)))
  · intro other token bounds layerStep mem
    have reached := on.reached other token bounds layerStep (mem_marks_of_add allSteps mem)
    exact .inl (Nat.lt_succ_of_le (reached.elim Nat.le_of_lt fun here => here.1.le))

/-! ### The steps of a range -/

/-- The last layer of a range before the model's last one completes it. -/
theorem OnWalk.boundary_done (on : OnWalk pipeline trail)
    (walk : pipeline.moeLayerWalk = some (layer, wallet)) (here : pipeline.here? = some range)
    (last : layer + 1 = range.bounds.2)
    (notTotal : range.bounds.2 ≠ pipeline.manifest.numLayers) :
    pipeline.layersDone ++ [.combined pipeline.tokenIndex range.bounds layer] =
      rangeSteps pipeline.manifest.numLayers pipeline.tokenIndex range := by
  have inside := on.inside layer wallet range walk here
  have next := combinedLayers_succ pipeline.tokenIndex range.bounds (layer - range.bounds.1)
  rw [← Nat.sub_add_comm inside.first_le, Nat.add_sub_cancel' inside.first_le, last] at next
  rw [layersDone_of_walk walk here, rangeSteps, if_pos inside.routed, closing, if_neg notTotal,
    List.append_nil, next]

/-- Layers are only walked where experts are registered. -/
theorem OnWalk.resting (on : OnWalk pipeline trail) (here : pipeline.here? = some range)
    (unrouted : range.routed = false) : pipeline.moeLayerWalk = none := by
  cases walk : pipeline.moeLayerWalk with
  | none => rfl
  | some at_layer =>
      have routed := (on.inside _ _ range walk here).routed
      rw [unrouted] at routed
      cases routed

/-- A range without experts has no steps before the model's last layer. -/
theorem OnWalk.plain_done (on : OnWalk pipeline trail) (here : pipeline.here? = some range)
    (unrouted : range.routed = false)
    (notTotal : range.bounds.2 ≠ pipeline.manifest.numLayers) :
    pipeline.layersDone ++ [] =
      rangeSteps pipeline.manifest.numLayers pipeline.tokenIndex range := by
  simp [layersDone_of_none (on.resting here unrouted), rangeSteps, closing, unrouted, notTotal]

/-- The token completes the model's last range. -/
theorem OnWalk.token_done (on : OnWalk pipeline trail) (here : pipeline.here? = some range)
    (total : range.bounds.2 = pipeline.manifest.numLayers)
    (opened : range.routed = true →
      ∃ wallet, pipeline.moeLayerWalk = some (range.bounds.2, wallet)) :
    pipeline.layersDone ++ [.took pipeline.tokenIndex (pipeline.moeLayerWalk.map Prod.fst)] =
      rangeSteps pipeline.manifest.numLayers pipeline.tokenIndex range := by
  cases routed : range.routed with
  | true =>
      obtain ⟨wallet, walk⟩ := opened routed
      simp [layersDone_of_walk walk here, walk, rangeSteps, closing, routed, total]
  | false =>
      have resting := on.resting here routed
      simp [layersDone_of_none resting, resting, rangeSteps, closing, routed, total]

/-- The token that completes the model's last range keeps a trail lawful. -/
theorem OnWalk.takes_lawful (on : OnWalk pipeline trail) (lawful : trail.Lawful)
    (here : pipeline.here? = some range) {reply : Option Nat}
    (done : pipeline.layersDone ++ [.took pipeline.tokenIndex reply] =
      rangeSteps pipeline.manifest.numLayers pipeline.tokenIndex range) :
    (trail.add [.took pipeline.tokenIndex reply]).Lawful := by
  refine lawful.step rfl (?_ : _ <+: trail.scheduled (pipeline.tokenIndex + 1))
  rw [on.scheduled, on.steps, PipelineState.stepsDone, progress_append, done]
  exact progress_prefix here List.prefix_rfl

theorem Trail.lawful_nil (totalLayers : Nat) (plan : List LayerRange) :
    (Trail.mk totalLayers plan []).Lawful where
  inOrder := ⟨0, List.nil_prefix⟩
  awaited := by
    intro before wallet token range layer after split
    simp at split
  stepped := fun _ _ _ _ mem => by cases mem
  onePinned := fun _ _ _ _ _ _ mem => by cases mem

/-- A pipeline starts with nothing done. -/
theorem onWalk_initial {req : OpoiRequest} {manifest : ModelManifest} {graph : ModelGraph}
    {promptHex : String} (dense : ShardEngine.denseShards graph ≠ [])
    (tiles : Tiles LayerRange.bounds 0
      (ShardEngine.initialPipeline req manifest graph promptHex).plan manifest.numLayers) :
    OnWalk (ShardEngine.initialPipeline req manifest graph promptHex)
      ⟨manifest.numLayers, (ShardEngine.initialPipeline req manifest graph promptHex).plan,
        []⟩ where
  plan := rfl
  totalLayers := rfl
  tiles := tiles
  inRange := List.length_pos_iff.mpr dense
  inside := fun _ _ _ walk => by cases walk
  steps := (progress_zero _ _).symm
  pinned := fun _ _ _ mem => by cases mem
  reached := fun _ _ _ _ mem => by cases mem

end Pure

end StratumBridge.Shard
