import StratumBridge.Shard.Dense

/-!
# Whole-range replies

A miner that computes a whole range of layers in one go answers without a layer step.
A shard with experts is always asked for one layer, and a result is accepted only for
the layer asked for.  So such an answer is refused, and the assignment it leaves in
place keeps the tick away.
-/

namespace StratumBridge.Shard

open Data Rpc Wire Transition

namespace ShardEngine

/-- The line that the present pipeline of a request was last asked with. -/
def currentLine (engine : ShardEngine) (requestId : RequestId) : Option OpoiShardAssign :=
  ((sinceLast Effect.isStarted (engine.history requestId)).filterMap Effect.assign?).getLast?

/-- The pipeline has experts for a range of layers. -/
def Grouped (pipeline : PipelineState) (range : Nat × Nat) : Prop :=
  (pipeline.expertGroups range).filter (fun ids => ids ≠ []) ≠ none

variable {sha256 : Digest} {engine after : ShardEngine} {requestId : RequestId}
variable {stimulus : Stimulus} {emitted : List Effect} {pipeline : PipelineState}

/-! ## One dispatch -/

theorem openWalk_expertGroups (pipeline : PipelineState) (shard : ShardDescriptor)
    (wallet : Wallet) : (openWalk pipeline shard wallet).expertGroups = pipeline.expertGroups := by
  unfold openWalk
  split <;> rfl

theorem expertGroups_of_dispatched {registry : MinerRegistry} {last : Option Wallet}
    {later : PipelineState} (stored : dispatched registry last pipeline = some later) :
    later.expertGroups = pipeline.expertGroups := by
  unfold dispatched at stored
  (repeat' split at stored) <;> cases stored
  · rfl
  · rfl
  · rfl
  · exact openWalk_expertGroups ..

/-- A shard with experts is asked for one layer. -/
theorem openWalk_of_group {shard : ShardDescriptor} (wallet : Wallet)
    (found : pipeline.shards[pipeline.pos]? = some shard)
    (grouped : Grouped pipeline (layerRange shard)) :
    (openWalk pipeline shard wallet).moeLayerWalk ≠ none := by
  have group : (pipeline.expertGroupFor pipeline.pos).isSome = true := by
    rw [PipelineState.expertGroupFor, found, Option.bind_some]
    exact Option.isSome_iff_ne_none.mpr grouped
  rw [openWalk, if_pos group]
  exact Option.some_ne_none _

/-- A dispatch sends no line and leaves the assignment, or it sends one line and makes
the assignment for it. -/
inductive AsksOnce (pipeline : PipelineState) (assigned : Option ShardAssignment) :
    Option ShardAssignment → List Effect → Prop
  | silent {made effects} (quiet : effects.filterMap Effect.assign? = [])
      (same : made = assigned ∨ made = none) : AsksOnce pipeline assigned made effects
  | line {assignment assign effects} (one : effects.filterMap Effect.assign? = [assign])
      (step : assignment.moeLayerStep = assign.moeLayerStep)
      (walks : Grouped pipeline (assign.layerStart, assign.layerEnd) →
        assign.moeLayerStep ≠ none) :
      AsksOnce pipeline assigned (some assignment) effects

theorem asks_dispatch (registry : MinerRegistry) (last : Option Wallet)
    (assigned : Option ShardAssignment) (source : ModelSource) (pipeline : PipelineState) :
    AsksOnce pipeline assigned (assignedBy registry last assigned pipeline)
      (dispatchLines registry last requestId source pipeline) := by
  unfold assignedBy dispatchLines
  cases found : pipeline.shards[pipeline.pos]? with
  | none => exact .silent rfl (.inl rfl)
  | some shard =>
      dsimp only
      cases walk : pipeline.moeLayerWalk with
      | some walking =>
          dsimp only
          cases registry.get walking.2 with
          | none => exact .silent rfl (.inr rfl)
          | some tx => exact .line rfl rfl fun _ => Option.some_ne_none _
      | none =>
          dsimp only
          cases picked : registry.pickNext last with
          | none => exact .silent rfl (.inl rfl)
          | some wallet =>
              dsimp only
              rw [Option.bind_some]
              cases registry.get wallet with
              | none => exact .silent rfl (.inl rfl)
              | some tx =>
                  refine .line rfl rfl fun grouped => ?_
                  have opened := openWalk_of_group wallet found grouped
                  rw [shardAssignLine, ne_eq, Option.map_eq_none_iff]
                  exact opened

/-! ## One event -/

/-- An event keeps the experts of a request and assigns nothing but a placeholder, or
it dispatches a pipeline: one with the same experts, or a new one. -/
inductive LineChange (engine : ShardEngine) (requestId : RequestId) :
    Option PipelineState → Option ShardAssignment → List Effect → Prop
  | quiet {later assigned emitted} (silent : emitted.filterMap Effect.assign? = [])
      (unmarked : ∀ effect ∈ emitted, effect.isStarted = false)
      (groups : ∀ pipeline, later = some pipeline → ∃ earlier,
        engine.pipelines requestId = some earlier ∧
          pipeline.expertGroups = earlier.expertGroups)
      (fewer : ∀ assignment, assigned = some assignment →
        engine.assignments requestId = some assignment ∨ assignment.moeLayerStep ≠ none) :
      LineChange engine requestId later assigned emitted
  | dispatched {later assigned marks lines pipeline earlier}
      (groups : ∀ kept, later = some kept → kept.expertGroups = pipeline.expertGroups)
      (asks : AsksOnce pipeline (engine.assignments requestId) assigned lines)
      (unstarted : ∀ effect ∈ lines, effect.isStarted = false)
      (silent : marks.filterMap Effect.assign? = [])
      (unmarked : ∀ effect ∈ marks, effect.isStarted = false)
      (present : engine.pipelines requestId = some earlier)
      (same : pipeline.expertGroups = earlier.expertGroups) :
      LineChange engine requestId later assigned (marks ++ lines)
  | started {later assigned lines pipeline}
      (groups : ∀ kept, later = some kept → kept.expertGroups = pipeline.expertGroups)
      (asks : AsksOnce pipeline (engine.assignments requestId) assigned lines)
      (unstarted : ∀ effect ∈ lines, effect.isStarted = false) :
      LineChange engine requestId later assigned (.started requestId :: lines)

/-- A dispatch of a pipeline with the experts it had before. -/
theorem lineChange_dispatch {registry : MinerRegistry} {last : Option Wallet}
    {source : ModelSource} {earlier : PipelineState} (marks : List Effect)
    (silent : marks.filterMap Effect.assign? = [])
    (unmarked : ∀ effect ∈ marks, effect.isStarted = false)
    (present : engine.pipelines requestId = some earlier)
    (same : pipeline.expertGroups = earlier.expertGroups) :
    LineChange engine requestId (dispatched registry last pipeline)
      (assignedBy registry last (engine.assignments requestId) pipeline)
      (marks ++ dispatchLines registry last requestId source pipeline) :=
  .dispatched (fun _ stored => expertGroups_of_dispatched stored)
    (asks_dispatch registry last _ source pipeline) isStarted_dispatchLines silent unmarked present
    same

/-- The assignment is the one before. -/
theorem fewer_self (assignment : ShardAssignment)
    (assigned : engine.assignments requestId = some assignment) :
    engine.assignments requestId = some assignment ∨ assignment.moeLayerStep ≠ none :=
  .inl assigned

/-- Nothing is stored. -/
theorem none_stored (kept : PipelineState) (nothing : none = some kept) : ∃ earlier,
    engine.pipelines requestId = some earlier ∧ kept.expertGroups = earlier.expertGroups := by
  cases nothing

/-- Nothing is assigned. -/
theorem none_assigned (assignment : ShardAssignment) (nothing : none = some assignment) :
    engine.assignments requestId = some assignment ∨ assignment.moeLayerStep ≠ none := by
  cases nothing

theorem ExpertOutcome.lineChange {interior : Bool} {wallet : Wallet} {result : OpoiShardResult}
    {source : ModelSource} {expertIds : List Nat} {layerIdx : Nat} {counted : PipelineState}
    {later : Option PipelineState} {reparked : Option Call}
    (present : engine.pipelines requestId = some pipeline)
    (same : counted.expertGroups = pipeline.expertGroups)
    (outcome : ExpertOutcome interior wallet result source expertIds layerIdx counted later
      reparked emitted) :
    LineChange engine requestId later (engine.assignments requestId) emitted := by
  have stays : ∀ kept, some counted = some kept → ∃ earlier,
      engine.pipelines requestId = some earlier ∧ kept.expertGroups = earlier.expertGroups := by
    rintro _ ⟨⟩
    exact ⟨pipeline, present, same⟩
  cases outcome with
  | absent verdict => exact .quiet rfl (by simp [Effect.isStarted]) stays fewer_self
  | malformed verdict => exact .quiet rfl (by simp [Effect.isStarted]) none_stored fewer_self
  | panicked outside => exact .quiet rfl (by simp [Effect.isStarted]) stays fewer_self
  | sizing isInterior sameWallet sameResult sameSource sameLayer verdict =>
      exact .quiet rfl (by simp) stays fewer_self

theorem Change.lineChange {before later : Option PipelineState}
    {assigned : Option ShardAssignment} {calls : PartialMap Ticket Call}
    (change : Change sha256 engine requestId stimulus before later assigned calls emitted)
    (present : engine.pipelines requestId = before) :
    LineChange engine requestId later assigned emitted := by
  have stays : ∀ kept, before = some kept → ∃ earlier,
      engine.pipelines requestId = some earlier ∧ kept.expertGroups = earlier.expertGroups :=
    fun kept same => ⟨kept, present.trans same, rfl⟩
  cases change with
  | idle fewer kept =>
      refine .quiet rfl (by simp) stays ?_
      rintro assignment rfl
      rcases fewer with same | nobody
      · exact .inl same.symm
      · cases nobody
  | rejected about => exact .quiet rfl (by simp [Effect.isStarted]) stays fewer_self
  | orphaned about assigned =>
      exact .quiet rfl (by simp [Effect.isStarted]) none_stored none_assigned
  | accepted about assigned => exact .quiet rfl (by simp [Effect.isStarted]) stays none_assigned
  | unresolved parked about => exact .quiet rfl (by simp [Effect.isStarted]) stays fewer_self
  | lost parked about quiet =>
      rcases quiet with rfl | rfl
      · exact .quiet rfl (by simp) none_stored fewer_self
      · exact .quiet rfl (by simp [Effect.isStarted]) none_stored fewer_self
  | misplaced parked about outside =>
      refine .quiet rfl (by simp [Effect.isStarted]) ?_ fewer_self
      rintro _ ⟨⟩
      exact ⟨_, present, rfl⟩
  | ungrouped parked about resumes dense =>
      exact .quiet rfl (by simp [Effect.isStarted]) none_stored fewer_self
  | interior parked about layer found resumes group outcome =>
      exact outcome.lineChange present (sameWalk_contribute _ _).groups
  | submitting parked about lastToken =>
      refine .quiet rfl (by simp [Effect.isStarted]) ?_ fewer_self
      rintro _ ⟨⟩
      exact ⟨_, present, rfl⟩
  | completed parked about notLastToken outcome =>
      cases outcome with
      | unanswered lastShard answer =>
          exact .quiet rfl (by simp [Effect.isStarted]) none_stored fewer_self
      | finalized lastShard answer isLast wins => cases isLast
      | unattributed lastShard answer isLast nobody => cases isLast
      | nextToken lastShard answer notLast =>
          rw [about]
          exact lineChange_dispatch [_] rfl (by simp [Effect.isStarted]) present rfl
      | nextShard notLastShard dense =>
          rw [about]
          exact lineChange_dispatch [_] rfl (by simp [Effect.isStarted]) present rfl
      | experts notLastShard group outcome =>
          exact outcome.lineChange present (sameWalk_contribute _ _).groups
  | unsubmitted parked about => exact .quiet rfl (by simp [Effect.isStarted]) stays fewer_self
  | submitted parked about outcome =>
      cases outcome with
      | unanswered lastShard answer =>
          exact .quiet rfl (by simp [Effect.isStarted]) none_stored fewer_self
      | finalized lastShard answer isLast wins =>
          exact .quiet rfl (by simp [Effect.isStarted]) none_stored fewer_self
      | unattributed lastShard answer isLast nobody =>
          exact .quiet rfl (by simp [Effect.isStarted]) none_stored fewer_self
      | nextToken lastShard answer notLast => cases notLast
      | nextShard notLastShard dense =>
          rw [about]
          exact lineChange_dispatch [_] rfl (by simp [Effect.isStarted]) present rfl
      | experts notLastShard group outcome => exact outcome.lineChange present rfl
  | sized parked about =>
      refine .quiet rfl (by simp [Effect.isStarted]) stays ?_
      intro assignment marked
      unfold markedBy at marked
      split at marked
      · cases marked
        exact .inr (Option.some_ne_none _)
      · exact .inl marked
  | unjoined parked about => exact .quiet rfl (by simp [Effect.isStarted]) stays none_assigned
  | abandoned parked about => exact .quiet rfl (by simp [Effect.isStarted]) stays fewer_self
  | walked parked about isInterior =>
      exact lineChange_dispatch [_] rfl (by simp [Effect.isStarted]) present rfl
  | handedOver parked about isBoundary =>
      exact lineChange_dispatch [_] rfl (by simp [Effect.isStarted]) present rfl
  | redispatched polling =>
      exact lineChange_dispatch [] rfl (by simp) present rfl
  | delegated polling about => exact .quiet rfl (by simp [Effect.isStarted]) stays fewer_self
  | @started registry req rest manifest promptHex graph source before polling about =>
      exact .started (fun _ stored => expertGroups_of_dispatched stored)
        (asks_dispatch registry engine.lastAssigned _ source _) isStarted_dispatchLines

theorem currentLine_of_unmarked
    (extended : after.history requestId = engine.history requestId ++ emitted)
    (unmarked : ∀ effect ∈ emitted, effect.isStarted = false) :
    after.currentLine requestId =
      (emitted.filterMap Effect.assign?).getLast?.or (engine.currentLine requestId) := by
  rw [currentLine, extended, sinceLast_append _ unmarked, List.filterMap_append,
    List.getLast?_append]
  rfl

theorem currentLine_of_started {lines : List Effect}
    (extended : after.history requestId =
      engine.history requestId ++ .started requestId :: lines)
    (unstarted : ∀ effect ∈ lines, effect.isStarted = false) :
    after.currentLine requestId = (lines.filterMap Effect.assign?).getLast? := by
  rw [currentLine, extended, sinceLast_mark _ rfl unstarted]

/-! ## Runs -/

/-- A line for a range with experts is for one layer, and so is the assignment that is
held after it. -/
structure ByLayer (requestId : RequestId) (engine : ShardEngine) : Prop where
  walked : ∀ pipeline line, engine.pipelines requestId = some pipeline →
    engine.currentLine requestId = some line →
    Grouped pipeline (line.layerStart, line.layerEnd) → line.moeLayerStep ≠ none
  matched : ∀ assignment line, engine.assignments requestId = some assignment →
    engine.currentLine requestId = some line → line.moeLayerStep ≠ none →
    assignment.moeLayerStep ≠ none

theorem byLayer_new (requestId : RequestId) : new.ByLayer requestId where
  walked := fun _ _ present => nomatch present
  matched := fun _ _ assigned => nomatch assigned

/-- Nothing is known of a pipeline that was not asked yet. -/
theorem byLayer_of_unasked (unasked : after.currentLine requestId = none) :
    after.ByLayer requestId where
  walked := by
    intro pipeline line _ asked
    rw [unasked] at asked
    cases asked
  matched := by
    intro assignment line _ asked
    rw [unasked] at asked
    cases asked

/-- A new line, with the assignment made for it. -/
theorem byLayer_of_line {assign : OpoiShardAssign} {assignment : ShardAssignment}
    (asked : after.currentLine requestId = some assign)
    (made : after.assignments requestId = some assignment)
    (step : assignment.moeLayerStep = assign.moeLayerStep)
    (groups : ∀ kept, after.pipelines requestId = some kept →
      kept.expertGroups = pipeline.expertGroups)
    (walks : Grouped pipeline (assign.layerStart, assign.layerEnd) →
      assign.moeLayerStep ≠ none) : after.ByLayer requestId where
  walked := by
    intro kept line present isLine grouped
    rw [asked] at isLine
    cases isLine
    rw [Grouped, groups kept present] at grouped
    exact walks grouped
  matched := by
    intro held line isHeld isLine stepped
    rw [asked] at isLine
    rw [made] at isHeld
    cases isLine
    cases isHeld
    rwa [step]

/-- No new line, and no assignment but the one before or a placeholder. -/
theorem ByLayer.kept (byLayer : engine.ByLayer requestId)
    (asked : after.currentLine requestId = engine.currentLine requestId)
    (groups : ∀ kept, after.pipelines requestId = some kept → ∃ earlier,
      engine.pipelines requestId = some earlier ∧ kept.expertGroups = earlier.expertGroups)
    (fewer : ∀ assignment, after.assignments requestId = some assignment →
      engine.assignments requestId = some assignment ∨ assignment.moeLayerStep ≠ none) :
    after.ByLayer requestId where
  walked := by
    intro kept line present isLine grouped
    obtain ⟨earlier, was, same⟩ := groups kept present
    rw [asked] at isLine
    rw [Grouped, same] at grouped
    exact byLayer.walked earlier line was isLine grouped
  matched := by
    intro assignment line held isLine stepped
    rw [asked] at isLine
    rcases fewer assignment held with before | placeholder
    · exact byLayer.matched assignment line before isLine stepped
    · exact placeholder

theorem ByLayer.next (byLayer : engine.ByLayer requestId) (fresh : engine.TicketsFresh)
    (enabled : engine.enabled stimulus) :
    (next sha256 engine stimulus).ByLayer requestId := by
  have extended := history_next sha256 enabled fresh requestId
  have change := (next_change_sent sha256 enabled fresh requestId).lineChange rfl
  generalize sent sha256 engine stimulus requestId = emitted at extended change
  generalize laterEq : (ShardEngine.next sha256 engine stimulus).pipelines requestId = later
    at change
  generalize assignedEq : (ShardEngine.next sha256 engine stimulus).assignments requestId =
    assigned at change
  cases change with
  | quiet silent unmarked groups fewer =>
      have asked := currentLine_of_unmarked extended unmarked
      rw [silent] at asked
      exact byLayer.kept asked (laterEq ▸ groups) (assignedEq ▸ fewer)
  | @dispatched marks lines pipeline earlier groups asks unstarted silent unmarked present same =>
      have unmarkedAll : ∀ effect ∈ marks ++ lines, effect.isStarted = false :=
        List.forall_mem_append.mpr ⟨unmarked, unstarted⟩
      have asked := currentLine_of_unmarked extended unmarkedAll
      rw [List.filterMap_append, silent, List.nil_append] at asked
      cases asks with
      | silent quiet sameAssignment =>
          rw [quiet] at asked
          refine byLayer.kept asked ?_ ?_
          · intro kept stored
            exact ⟨earlier, present, (groups kept (laterEq ▸ stored)).trans same⟩
          · intro assignment held
            rw [assignedEq] at held
            rcases sameAssignment with rfl | rfl
            · exact .inl held
            · cases held
      | line one step walks =>
          rw [one] at asked
          exact byLayer_of_line asked assignedEq step (laterEq ▸ groups) walks
  | started groups asks unstarted =>
      have asked := currentLine_of_started extended unstarted
      cases asks with
      | silent quiet sameAssignment =>
          rw [quiet] at asked
          exact byLayer_of_unasked asked
      | line one step walks =>
          rw [one] at asked
          exact byLayer_of_line asked assignedEq step (laterEq ▸ groups) walks

theorem byLayer_of_run {events : List Stimulus}
    (run : (system sha256).Run new events engine) (requestId : RequestId) :
    engine.ByLayer requestId := by
  have both := run.invariant (I := fun engine => engine.TicketsFresh ∧ engine.ByLayer requestId)
    ⟨ticketsFresh_new, byLayer_new requestId⟩
    fun _ _ held enabled _ => ⟨held.1.next enabled, held.2.next held.1 enabled⟩
  exact both.2

/-- A result that is not the assigned one changes nothing but the log. -/
theorem handleShardResult_mismatch {assignment : ShardAssignment} {wallet : Wallet}
    {result : OpoiShardResult}
    (assigned : engine.assignments result.requestId = some assignment)
    (other : assignment.moeLayerStep ≠ result.moeLayerStep) :
    handleShardResult wallet result engine =
      engine.emit [.rejected wallet result.requestId .notAssignedToCaller] := by
  rw [handleShardResult, assigned]
  refine if_neg fun same => other ?_
  rw [same]

/-- A result without a layer step is refused wherever the shard its pipeline is at has
experts and was asked for.  Nothing but the log changes, so the assignment stays and
the request is not stalled. -/
theorem whole_range_reply_refused {events : List Stimulus}
    (run : (system sha256).Run new events engine) {shard : ShardDescriptor}
    {line : OpoiShardAssign} {expertIds : List Nat} {assignment : ShardAssignment}
    {result : OpoiShardResult}
    (present : engine.pipelines requestId = some pipeline)
    (current : pipeline.shards[pipeline.pos]? = some shard)
    (group : pipeline.expertGroupFor pipeline.pos = some expertIds)
    (asked : engine.currentLine requestId = some line)
    (here : (line.layerStart, line.layerEnd) = layerRange shard)
    (assigned : engine.assignments requestId = some assignment)
    (about : result.requestId = requestId) (whole : result.moeLayerStep = none) :
    let after := handleShardResult assignment.wallet result engine
    after = engine.emit [.rejected assignment.wallet requestId .notAssignedToCaller] ∧
      after.pipelines requestId = some pipeline ∧
      after.assignments requestId = some assignment ∧ ¬ after.Stalled requestId := by
  subst about
  have byLayer := byLayer_of_run run result.requestId
  have grouped : Grouped pipeline (line.layerStart, line.layerEnd) := by
    rw [PipelineState.expertGroupFor, current, Option.bind_some] at group
    rw [Grouped, here, group]
    exact Option.some_ne_none _
  have stepped : assignment.moeLayerStep ≠ result.moeLayerStep := by
    rw [whole]
    exact byLayer.matched _ _ assigned asked (byLayer.walked _ _ present asked grouped)
  have refused : handleShardResult assignment.wallet result engine = _ :=
    handleShardResult_mismatch assigned stepped
  intro after
  rw [show after = _ from refused]
  refine ⟨rfl, present, assigned, fun stalled => ?_⟩
  have kept : (engine.emit [.rejected assignment.wallet result.requestId
      .notAssignedToCaller]).assignments result.requestId = some assignment := assigned
  rw [stalled.2] at kept
  cases kept

/-! ## An older miner -/

/-- Three layers in two ranges, the first of two layers and with an expert. -/
def rangeGraph : ModelGraph :=
  ⟨[⟨0, "DENSE", some 0, some 2, none⟩, ⟨1, "DENSE", some 2, some 3, none⟩,
    ⟨2, "EXPERT", some 0, some 2, some 7⟩]⟩

/-- The start of the request. -/
def rangeStart : List Stimulus :=
  [⟨soleRegistry, .receivePrompt "r" "00"⟩, ⟨soleRegistry, .pollBegin []⟩,
    ⟨soleRegistry, .pollListing (some [soleRequest 9])⟩,
    ⟨soleRegistry, .pollManifest (some { soleManifest with numLayers := 3 })⟩,
    ⟨soleRegistry, .pollGraph (some rangeGraph)⟩, ⟨soleRegistry, .pollSource (some soleSource)⟩,
    ⟨soleRegistry, .pollClaim true false⟩]

/-- The first range in one go, with the router's choice for each of its layers. -/
def rangeResult : OpoiShardResult :=
  { soleResult 0 0 none with routerSelection := some [[⟨7, 0⟩], [⟨7, 0⟩]] }

theorem rangeStart_run :
    (system id).Run new rangeStart ((system id).execute new rangeStart) := by
  apply System.Admits.runWith
  exact ⟨⟨trivial, trivial⟩, ⟨⟨rfl, List.nodup_nil, nothing_stalled fun _ => rfl⟩, trivial⟩,
    ⟨rfl, trivial⟩, ⟨⟨_, _, rfl⟩, trivial⟩, ⟨⟨_, _, _, _, rfl⟩, trivial⟩,
    ⟨⟨_, _, _, _, _, rfl⟩, trivial⟩, ⟨⟨_, _, _, _, _, _, rfl⟩, trivial⟩, trivial⟩

/-- An instance of `whole_range_reply_refused`: the first range waits for its first layer. -/
theorem whole_range_reply_refused_first :
    ¬ (handleShardResult "miner" rangeResult ((system id).execute new rangeStart)).Stalled "r" := by
  have refused := whole_range_reply_refused rangeStart_run rfl rfl rfl rfl rfl rfl
    (rfl : rangeResult.requestId = "r") rfl
  exact refused.2.2.2

/-- The dispatched miner answers for its whole range: the result is refused, and the
request stays where it is. -/
theorem rangeResult_refused :
    let engine := (system id).execute new rangeStart
    let after := handleShardResult "miner" rangeResult engine
    (system id).Run new rangeStart engine ∧
      engine.assignments "r" = some ⟨"miner", 0, 0, some 0⟩ ∧
      routerVerdict [7] rangeResult ≠ .malformed ∧
      after.log = engine.log ++ [.rejected "miner" "r" .notAssignedToCaller] ∧
      after.assignments "r" = engine.assignments "r" ∧
      (after.pipelines "r").map PipelineState.pos = some 0 ∧ after.calls 0 = none :=
  ⟨rangeStart_run, rfl, by decide, rfl, rfl, rfl, rfl⟩

end ShardEngine

end StratumBridge.Shard
