import StratumBridge.Shard.Intake
import StratumBridge.Transition.Custody

/-!
# How the shard engine lets go of a request

The places at which a pipeline is removed without a row for its request: the
pinned wallet is gone, the router selection is malformed, an answer is missing,
or the final row is not stored.
-/

namespace StratumBridge.Shard

open Data Rpc Wire Transition

/-- The row an effect asks the database for, and whether it is stored. -/
def Effect.insertion : Effect → Option (NewSubmission × Bool)
  | createSubmission row stored => some (row, stored)
  | _ => none

namespace ShardEngine

/-- The dispatch of a pipeline finds that the wallet of its walk is gone. -/
def Unpinned (registry : MinerRegistry) (pipeline : PipelineState) : Prop :=
  pipeline.shards[pipeline.pos]? ≠ none ∧ ∃ layerIdx pinned,
    pipeline.moeLayerWalk = some (layerIdx, pinned) ∧ registry.get pinned = none

/-- The step removes the request's pipeline and leaves no row for it. -/
inductive Drops (engine : ShardEngine) (requestId : RequestId) : Stimulus → Prop
  | unpinnedRetry {registry rest source pipeline} (polling : engine.poll = .retrying requestId rest)
      (present : engine.pipelines requestId = some pipeline)
      (unpinned : Unpinned registry pipeline) :
      Drops engine requestId ⟨registry, .pollRetry (some source)⟩
  | unpinnedWalk {registry ticket output step pipeline}
      (parked : engine.calls ticket = some (.joining step))
      (about : step.result.requestId = requestId)
      (present : engine.pipelines requestId = some pipeline) (isInterior : step.interior = true)
      (unpinned : Unpinned registry pipeline) :
      Drops engine requestId ⟨registry, .joined ticket (some output)⟩
  | ungrouped {registry ticket source wallet result pipeline}
      (parked : engine.calls ticket = some (.resolving wallet result))
      (about : result.requestId = requestId)
      (present : engine.pipelines requestId = some pipeline) (resumes : Resumes pipeline result)
      (dense : pipeline.expertGroupFor pipeline.pos = none) :
      Drops engine requestId ⟨registry, .resolved ticket (some source)⟩
  | malformedInterior {registry ticket source wallet result pipeline expertIds}
      (parked : engine.calls ticket = some (.resolving wallet result))
      (about : result.requestId = requestId)
      (present : engine.pipelines requestId = some pipeline) (resumes : Resumes pipeline result)
      (group : pipeline.expertGroupFor pipeline.pos = some expertIds)
      (malformed : routerVerdict expertIds result = .malformed) :
      Drops engine requestId ⟨registry, .resolved ticket (some source)⟩
  | malformedBoundary {registry ticket source wallet result pipeline expertIds}
      (parked : engine.calls ticket = some (.resolving wallet result))
      (about : result.requestId = requestId)
      (present : engine.pipelines requestId = some pipeline)
      (finishes : ¬ Resumes pipeline result) (notLastToken : isLastToken pipeline = false)
      (notLastShard : pipeline.pos + 1 ≠ pipeline.shards.length)
      (group : pipeline.expertGroupFor pipeline.pos = some expertIds)
      (malformed : routerVerdict expertIds result = .malformed) :
      Drops engine requestId ⟨registry, .resolved ticket (some source)⟩
  | malformedSubmitted {registry ticket stored source wallet result pipeline expertIds}
      (parked : engine.calls ticket = some (.submitting wallet result source))
      (about : result.requestId = requestId)
      (present : engine.pipelines requestId = some pipeline)
      (notLastShard : pipeline.pos + 1 ≠ pipeline.shards.length)
      (group : pipeline.expertGroupFor pipeline.pos = some expertIds)
      (malformed : routerVerdict expertIds result = .malformed) :
      Drops engine requestId ⟨registry, .submitted ticket true stored⟩
  | unanswered {registry ticket source wallet result pipeline}
      (parked : engine.calls ticket = some (.resolving wallet result))
      (about : result.requestId = requestId)
      (present : engine.pipelines requestId = some pipeline)
      (finishes : ¬ Resumes pipeline result) (notLastToken : isLastToken pipeline = false)
      (lastShard : pipeline.pos + 1 = pipeline.shards.length)
      (answer : result.nextTokenId = none) :
      Drops engine requestId ⟨registry, .resolved ticket (some source)⟩
  | unfinished {registry ticket stored source wallet result pipeline}
      (parked : engine.calls ticket = some (.submitting wallet result source))
      (about : result.requestId = requestId)
      (present : engine.pipelines requestId = some pipeline)
      (lastShard : pipeline.pos + 1 = pipeline.shards.length)
      (cause : result.nextTokenId = none ∨ pipeline.contributions.winner = none ∨
        stored = false) :
      Drops engine requestId ⟨registry, .submitted ticket true stored⟩

variable {sha256 : Digest} {engine : ShardEngine} {requestId : RequestId}
variable {stimulus : Stimulus} {emitted : List Effect}

/-- A dispatch removes a pipeline only for want of its pinned wallet. -/
theorem unpinned_of_dispatched {registry : MinerRegistry} {last : Option Wallet}
    {pipeline : PipelineState} (gone : dispatched registry last pipeline = none) :
    Unpinned registry pipeline := by
  unfold dispatched at gone
  split at gone
  · cases gone
  · rename_i shard found
    split at gone
    · rename_i layerIdx pinned walk
      split at gone
      · cases gone
      · rename_i absent
        exact ⟨by simp [found], layerIdx, pinned, walk, by simpa using absent⟩
    · split at gone <;> cases gone

/-- A pipeline that is not in a walk stays when it is dispatched. -/
theorem isSome_dispatched {registry : MinerRegistry} {last : Option Wallet}
    {pipeline : PipelineState} (resting : pipeline.moeLayerWalk = none) :
    (dispatched registry last pipeline).isSome = true := by
  rw [Option.isSome_iff_ne_none]
  intro gone
  obtain ⟨-, _, _, walk, -⟩ := unpinned_of_dispatched gone
  rw [resting] at walk
  cases walk

@[simp]
theorem insertion_dispatchLines (registry : MinerRegistry) (last : Option Wallet)
    (requestId : RequestId) (source : ModelSource) (pipeline : PipelineState) :
    (dispatchLines registry last requestId source pipeline).filterMap Effect.insertion = [] := by
  rw [List.filterMap_eq_nil_iff]
  intro effect mem
  have line := isLine_of_mem_dispatchLines mem
  cases effect <;> first | rfl | cases line

/-- What a change amounts to for the custody of its request. -/
abbrev ChangeTurn (engine : ShardEngine) (requestId : RequestId) (stimulus : Stimulus)
    (before after : Option PipelineState) (emitted : List Effect) : Prop :=
  Turn (engine.Claims requestId false stimulus.event) (engine.Drops requestId stimulus) before after
    (emitted.filterMap Effect.insertion)

theorem ExpertOutcome.turn {interior : Bool} {wallet : Wallet} {result : OpoiShardResult}
    {source : ModelSource} {expertIds : List Nat} {layerIdx : Nat}
    {pipeline counted : PipelineState} {after : Option PipelineState} {reparked : Option Call}
    (drops : routerVerdict expertIds result = .malformed → engine.Drops requestId stimulus)
    (outcome : ExpertOutcome interior wallet result source expertIds layerIdx counted after
      reparked emitted) :
    ChangeTurn engine requestId stimulus (some pipeline) after emitted := by
  cases outcome with
  | malformed verdict => exact .drops (drops verdict)
  | _ => exact .stays rfl

theorem Change.turn {before after : Option PipelineState} {assigned : Option ShardAssignment}
    {calls : PartialMap Ticket Call}
    (change : Change sha256 engine requestId stimulus before after assigned calls emitted)
    (present : engine.pipelines requestId = before) :
    ChangeTurn engine requestId stimulus before after emitted := by
  have dispatches : ∀ {registry last pipeline held source} {mark : Effect},
      mark.insertion = none → pipeline.moeLayerWalk = none →
      ChangeTurn engine requestId stimulus (some held) (dispatched registry last pipeline)
        (mark :: dispatchLines registry last requestId source pipeline) := by
    intro registry last pipeline held source mark unmarked resting
    rw [ChangeTurn, List.filterMap_cons_none unmarked, insertion_dispatchLines]
    exact .stays (isSome_dispatched resting)
  cases change with
  | idle fewer kept => exact .stays rfl
  | rejected about => exact .stays rfl
  | orphaned about assigned => exact .stays rfl
  | accepted about assigned => exact .stays rfl
  | unresolved parked about => exact .stays rfl
  | lost parked about quiet => rcases quiet with rfl | rfl <;> exact .stays rfl
  | misplaced parked about outside => exact .stays rfl
  | ungrouped parked about resumes dense =>
      exact .drops (.ungrouped parked about present resumes dense)
  | interior parked about layer found resumes group outcome =>
      apply outcome.turn
      exact .malformedInterior parked about present ⟨_, _, layer, found, resumes⟩ group
  | submitting parked about lastToken => exact .stays rfl
  | completed parked about notLastToken outcome finishes =>
      cases outcome with
      | unanswered lastShard answer =>
          exact .drops (.unanswered parked about present finishes notLastToken lastShard answer)
      | finalized lastShard answer isLast wins => cases isLast
      | unattributed lastShard answer isLast nobody => cases isLast
      | nextToken lastShard answer notLast =>
          rw [about]
          exact dispatches rfl rfl
      | nextShard notLastShard dense =>
          rw [about]
          exact dispatches rfl rfl
      | experts notLastShard group outcome =>
          apply outcome.turn
          exact .malformedBoundary parked about present finishes notLastToken notLastShard group
  | unsubmitted parked about => exact .stays rfl
  | submitted parked about outcome =>
      cases outcome with
      | unanswered lastShard answer =>
          exact .drops (.unfinished parked about present lastShard (.inl answer))
      | finalized lastShard answer isLast wins =>
          exact .finishes fun unstored =>
            .unfinished parked about present lastShard (.inr (.inr unstored))
      | unattributed lastShard answer isLast nobody =>
          exact .drops (.unfinished parked about present lastShard (.inr (.inl nobody)))
      | nextToken lastShard answer notLast => cases notLast
      | nextShard notLastShard dense =>
          rw [about]
          exact dispatches rfl rfl
      | experts notLastShard group outcome =>
          apply outcome.turn
          exact .malformedSubmitted parked about present notLastShard group
  | sized parked about => exact .stays rfl
  | unjoined parked about => exact .stays rfl
  | abandoned parked about => exact .stays rfl
  | @walked registry ticket output step pipeline parked about isInterior =>
      rw [ChangeTurn, List.filterMap_cons_none rfl, insertion_dispatchLines]
      cases kept : dispatched registry engine.lastAssigned
        (nextLayer pipeline step.layerIdx output) with
      | some later => exact .stays rfl
      | none =>
          obtain ⟨inside, _, pinned, walk, gone⟩ := unpinned_of_dispatched kept
          obtain ⟨⟨layerIdx, _⟩, was, same⟩ := Option.map_eq_some_iff.mp walk
          cases same
          have unpinned : Unpinned registry pipeline := ⟨inside, layerIdx, _, was, gone⟩
          exact .drops (.unpinnedWalk parked about present isInterior unpinned)
  | handedOver parked about isBoundary => exact dispatches rfl rfl
  | @redispatched registry source rest pipeline polling =>
      rw [ChangeTurn, insertion_dispatchLines]
      cases kept : dispatched registry engine.lastAssigned pipeline with
      | some later => exact .stays rfl
      | none => exact .drops (.unpinnedRetry polling present (unpinned_of_dispatched kept))
  | delegated polling about => exact .stays rfl
  | @started registry req rest manifest promptHex graph source before polling about =>
      rw [ChangeTurn, List.filterMap_cons_none rfl, insertion_dispatchLines]
      have held : (dispatched registry engine.lastAssigned
          (initialPipeline req manifest graph promptHex)).isSome = true := isSome_dispatched rfl
      obtain ⟨later, kept⟩ := Option.isSome_iff_exists.mp held
      rw [kept]
      exact .starts ⟨rfl, req, rest, manifest, promptHex, graph, source, polling, about⟩

/-- A started request has a pipeline. -/
theorem isSome_startRequest (registry : MinerRegistry) (req : OpoiRequest) (source : ModelSource)
    {pipeline : PipelineState} (resting : pipeline.moeLayerWalk = none) (engine : ShardEngine) :
    ((startRequest registry false req source pipeline engine).pipelines req.requestId).isSome =
      true := by
  rw [startRequest, if_neg Bool.false_ne_true,
    (dispatchCurrent_actsOn registry source (PartialMap.insert_self ..)).pipelines_self]
  exact isSome_dispatched resting

/-- A request is started, here or at the speculative engine, only by its
claim. -/
theorem Change.claims_of_started {before after : Option PipelineState}
    {assigned : Option ShardAssignment} {calls : PartialMap Ticket Call}
    (change : Change sha256 engine requestId stimulus before after assigned calls emitted)
    (begins : .started requestId ∈ emitted ∨ .delegated requestId ∈ emitted) :
    ∃ eligible, engine.Claims requestId eligible stimulus.event := by
  cases change with
  | delegated polling about =>
      exact ⟨true, rfl, _, _, _, _, _, _, polling, about⟩
  | started polling about =>
      exact ⟨false, rfl, _, _, _, _, _, _, polling, about⟩
  | lost parked about quiet => rcases quiet with rfl | rfl <;> simp at begins
  | interior parked about layer found resumes group outcome =>
      cases outcome <;> simp at begins
  | completed parked about notLastToken outcome =>
      cases outcome with
      | experts notLastShard group outcome => cases outcome <;> simp at begins
      | _ => simp at begins
  | submitted parked about outcome =>
      cases outcome with
      | experts notLastShard group outcome => cases outcome <;> simp at begins
      | _ => simp at begins
  | _ => simp at begins

/-- An answered claim asks for no row. -/
theorem Change.insertion_of_claim {registry : MinerRegistry} {eligible : Bool}
    {before after : Option PipelineState} {assigned : Option ShardAssignment}
    {calls : PartialMap Ticket Call}
    (change : Change sha256 engine requestId ⟨registry, .pollClaim true eligible⟩ before after
      assigned calls emitted) : emitted.filterMap Effect.insertion = [] := by
  cases change with
  | idle fewer kept => rfl
  | lost parked about quiet => rcases quiet with rfl | rfl <;> rfl
  | delegated polling about => rfl
  | started polling about => rw [List.filterMap_cons_none rfl, insertion_dispatchLines]

/-- A claim takes the prompt from the cache, asks for no row, and leaves the
request with a pipeline unless it is handed over. -/
theorem Claims.turn (sha256 : Digest) {registry : MinerRegistry} {event : Event} {eligible : Bool}
    (claims : engine.Claims requestId eligible event) (enabled : engine.enabled ⟨registry, event⟩)
    (fresh : engine.TicketsFresh) :
    (next sha256 engine ⟨registry, event⟩).promptCache requestId = none ∧
      ((next sha256 engine ⟨registry, event⟩).pipelines requestId).isSome =
        ((engine.pipelines requestId).isSome || !eligible) ∧
      (sent sha256 engine ⟨registry, event⟩ requestId).filterMap Effect.insertion = [] := by
  have change := next_change_sent sha256 enabled fresh requestId
  rcases claims with ⟨rfl, req, rest, manifest, promptHex, graph, source, polling, rfl⟩
  refine ⟨?_, ?_, ?_⟩
  · simp only [next, resumeClaim, polling, if_true, (startRequest_intake ..).2]
    exact PartialMap.remove_self ..
  · cases eligible with
    | true =>
        simp only [next, resumeClaim, polling, if_true, startRequest, Bool.not_true, Bool.or_false]
        rfl
    | false =>
        simp only [next, resumeClaim, polling, if_true, Bool.not_false, Bool.or_true]
        exact isSome_startRequest registry req source rfl engine
  · exact change.insertion_of_claim

end ShardEngine

end StratumBridge.Shard
