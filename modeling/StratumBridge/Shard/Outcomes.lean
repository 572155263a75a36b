import StratumBridge.Shard.System

/-!
# The outcomes of an event of the shard engine

Every enabled event changes every request as `Change` lists.  Each entry point
acts on one request at most; the proofs follow the entry points and their
shared stretches.
-/

namespace StratumBridge.Shard

open Data Rpc Wire Transition

namespace ShardEngine

/-- `after` differs from `before` only in the pipeline and the assignment of one
request, in the given way in the calls, and in effects about that request. -/
structure ActsOn (requestId : RequestId) (before after : ShardEngine)
    (pipeline : Option PipelineState) (assigned : Option ShardAssignment)
    (calls : PartialMap Ticket Call) (emitted : List Effect) : Prop where
  pipelines : after.pipelines = Function.update before.pipelines requestId pipeline
  assignments : after.assignments = Function.update before.assignments requestId assigned
  calls : after.calls = calls
  log : after.log = before.log ++ emitted
  about : About Effect.requestId requestId emitted

namespace ActsOn

variable {requestId other : RequestId} {before middle after : ShardEngine}
variable {pipeline later : Option PipelineState} {assigned reassigned : Option ShardAssignment}
variable {calls moreCalls : PartialMap Ticket Call} {emitted more : List Effect}

theorem pipelines_self (acts : ActsOn requestId before after pipeline assigned calls emitted) :
    after.pipelines requestId = pipeline := by
  rw [acts.pipelines, Function.update_self]

theorem pipelines_of_ne (acts : ActsOn requestId before after pipeline assigned calls emitted)
    (ne : other ≠ requestId) : after.pipelines other = before.pipelines other := by
  rw [acts.pipelines, Function.update_of_ne ne]

theorem assignments_self (acts : ActsOn requestId before after pipeline assigned calls emitted) :
    after.assignments requestId = assigned := by
  rw [acts.assignments, Function.update_self]

theorem assignments_of_ne (acts : ActsOn requestId before after pipeline assigned calls emitted)
    (ne : other ≠ requestId) : after.assignments other = before.assignments other := by
  rw [acts.assignments, Function.update_of_ne ne]

theorem history_self (acts : ActsOn requestId before after pipeline assigned calls emitted) :
    after.history requestId = before.history requestId ++ emitted := by
  rw [history, acts.log]
  exact historyOf_append_self acts.about

theorem history_of_ne (acts : ActsOn requestId before after pipeline assigned calls emitted)
    (ne : other ≠ requestId) : after.history other = before.history other := by
  rw [history, acts.log]
  exact historyOf_append_of_ne acts.about ne

theorem trans (first : ActsOn requestId before middle pipeline assigned calls emitted)
    (second : ActsOn requestId middle after later reassigned moreCalls more) :
    ActsOn requestId before after later reassigned moreCalls (emitted ++ more) where
  pipelines := by rw [second.pipelines, first.pipelines, Function.update_idem]
  assignments := by rw [second.assignments, first.assignments, Function.update_idem]
  calls := second.calls
  log := by rw [second.log, first.log, List.append_assoc]
  about := first.about.append second.about

end ActsOn

/-! ## Building blocks -/

section BuildingBlocks

variable (engine : ShardEngine) {requestId : RequestId}

theorem eq_update_of_eq {α : Type} {map : PartialMap RequestId α} {value : Option α}
    (found : map requestId = value) : map = Function.update map requestId value := by
  rw [← found, Function.update_eq_self]

theorem setPipeline_actsOn (requestId : RequestId) (pipeline : PipelineState) :
    ActsOn requestId engine (engine.setPipeline requestId pipeline) (some pipeline)
      (engine.assignments requestId) engine.calls [] :=
  ⟨rfl, eq_update_of_eq rfl, rfl, (List.append_nil _).symm, about_nil⟩

theorem dropPipeline_actsOn (requestId : RequestId) :
    ActsOn requestId engine (engine.dropPipeline requestId) none (engine.assignments requestId)
      engine.calls [.dropped requestId] :=
  ⟨rfl, eq_update_of_eq rfl, rfl, rfl, about_singleton rfl⟩

theorem emit_actsOn {effects : List Effect} (about : About Effect.requestId requestId effects) :
    ActsOn requestId engine (engine.emit effects) (engine.pipelines requestId)
      (engine.assignments requestId) engine.calls effects :=
  ⟨eq_update_of_eq rfl, eq_update_of_eq rfl, rfl, rfl, about⟩

theorem endCall_actsOn (requestId : RequestId) (ticket : Ticket) :
    ActsOn requestId engine (engine.endCall ticket) (engine.pipelines requestId)
      (engine.assignments requestId) (setCall engine.calls ticket none) [] :=
  ⟨eq_update_of_eq rfl, eq_update_of_eq rfl, rfl, (List.append_nil _).symm, about_nil⟩

theorem park_actsOn (requestId : RequestId) (ticket : Ticket) (call : Call) :
    ActsOn requestId engine (engine.park ticket call) (engine.pipelines requestId)
      (engine.assignments requestId) (setCall engine.calls ticket (some call)) [] :=
  ⟨eq_update_of_eq rfl, eq_update_of_eq rfl, rfl, (List.append_nil _).symm, about_nil⟩

/-- A handler returns with a new pipeline. -/
theorem endWith_actsOn (ticket : Ticket) (pipeline : PipelineState) {effects : List Effect}
    (about : About Effect.requestId requestId effects) :
    ActsOn requestId engine
      (((engine.endCall ticket).setPipeline requestId pipeline).emit effects) (some pipeline)
      (engine.assignments requestId) (setCall engine.calls ticket none) effects :=
  ⟨rfl, eq_update_of_eq rfl, rfl, rfl, about⟩

end BuildingBlocks

theorem dispatchCurrent_actsOn (registry : MinerRegistry) {requestId : RequestId}
    (source : ModelSource) {engine : ShardEngine} {pipeline : PipelineState}
    (present : engine.pipelines requestId = some pipeline) :
    ActsOn requestId engine (dispatchCurrent registry requestId source engine)
      (dispatched registry engine.lastAssigned pipeline)
      (assignedBy registry engine.lastAssigned (engine.assignments requestId) pipeline)
      engine.calls (dispatchLines registry engine.lastAssigned requestId source pipeline) := by
  have unchanged := eq_update_of_eq present
  have unassigned := eq_update_of_eq (rfl : engine.assignments requestId = _)
  simp only [dispatchCurrent, dispatched, assignedBy, dispatchLines, present]
  cases pipeline.shards[pipeline.pos]? with
  | none => exact ⟨unchanged, unassigned, rfl, rfl, about_singleton rfl⟩
  | some shard =>
      dsimp only
      cases pipeline.moeLayerWalk with
      | some walk =>
          dsimp only
          cases registry.get walk.2 with
          | none => exact ⟨rfl, rfl, rfl, rfl, about_singleton rfl⟩
          | some tx => exact ⟨unchanged, rfl, rfl, rfl, about_singleton rfl⟩
      | none =>
          dsimp only
          cases registry.pickNext engine.lastAssigned with
          | none => exact ⟨unchanged, unassigned, rfl, (List.append_nil _).symm, about_nil⟩
          | some wallet =>
              dsimp only [Option.bind_some]
              cases registry.get wallet with
              | none => exact ⟨rfl, unassigned, rfl, (List.append_nil _).symm, about_nil⟩
              | some tx =>
                  refine ⟨rfl, ?_, rfl, rfl, about_singleton rfl⟩
                  simp only [sendStep, openWalk_tokenIndex]
                  rfl

section SharedStretches

variable {engine : ShardEngine} {pipeline : PipelineState} {result : OpoiShardResult}

theorem beginExpertStep_outcome (interior : Bool) (ticket : Ticket) (wallet : Wallet)
    (source : ModelSource) (expertIds : List Nat) (layerIdx : Nat)
    (present : engine.pipelines result.requestId = some pipeline) :
    ∃ after call emitted,
      ActsOn result.requestId engine
        (beginExpertStep interior ticket wallet result source expertIds layerIdx engine) after
        (engine.assignments result.requestId) (setCall engine.calls ticket call) emitted ∧
      ExpertOutcome interior wallet result source expertIds layerIdx pipeline after call
        emitted := by
  have ended := endCall_actsOn engine result.requestId ticket
  unfold beginExpertStep
  cases verdict : routerVerdict expertIds result with
  | absent =>
      have stops : About Effect.requestId result.requestId [.stalled result.requestId] :=
        about_singleton rfl
      have acts := ended.trans (emit_actsOn _ stops)
      rw [ended.pipelines_self, present] at acts
      exact ⟨_, _, _, acts, .absent verdict⟩
  | malformed =>
      exact ⟨_, _, _, ended.trans (dropPipeline_actsOn _ result.requestId), .malformed verdict⟩
  | selected experts =>
      dsimp only
      rw [present]
      dsimp only
      cases found : pipeline.shards[pipeline.pos]? with
      | none =>
          have stops : About Effect.requestId result.requestId [.panicked result.requestId] :=
            about_singleton rfl
          have acts := ended.trans (emit_actsOn _ stops)
          rw [ended.pipelines_self, present] at acts
          exact ⟨_, _, _, acts, .panicked found⟩
      | some shard =>
          have parks := park_actsOn engine result.requestId ticket <| .sizing
            { interior := interior
              wallet := wallet
              result := result
              source := source
              expertIds := expertIds
              layerIdx := layerIdx
              layerStart := (layerRange shard).1
              layerEnd := (layerRange shard).2
              tokenIndex := pipeline.tokenIndex
              modelId := pipeline.manifest.modelId
              ggufSha256 := pipeline.manifest.backbonePomRoot
              experts := experts }
          rw [present] at parks
          exact ⟨_, _, _, parks, .sizing rfl rfl rfl rfl rfl verdict rfl⟩

theorem ExpertOutcome.requestId {interior : Bool} {wallet : Wallet} {source : ModelSource}
    {expertIds : List Nat} {layerIdx : Nat} {after : Option PipelineState} {call : Call}
    {emitted : List Effect}
    (outcome : ExpertOutcome interior wallet result source expertIds layerIdx pipeline after
      (some call) emitted) : call.requestId = result.requestId := by
  cases outcome with
  | sizing isInterior sameWallet sameResult sameSource sameLayer verdict =>
      show Call.requestId (.sizing _) = _
      rw [Call.requestId, Call.result, sameResult]

theorem StepOutcome.requestId {sha256 : Digest} {registry : MinerRegistry} {last : Option Wallet}
    {before assigned : Option ShardAssignment} {ticket : Ticket} {wallet : Wallet}
    {source : ModelSource} {lastToken stored : Bool} {after : Option PipelineState} {call : Call}
    {emitted : List Effect}
    (outcome : StepOutcome sha256 registry last before ticket wallet result source lastToken stored
      pipeline after assigned (some call) emitted) : call.requestId = result.requestId := by
  cases outcome with
  | experts notLastShard group outcome => exact outcome.requestId

theorem finalizePipeline_actsOn (sha256 : Digest) (stored : Bool) {requestId : RequestId}
    (present : engine.pipelines requestId = some pipeline) :
    ∃ emitted,
      ActsOn requestId engine (finalizePipeline sha256 requestId stored engine) none
        (engine.assignments requestId) engine.calls emitted ∧
      ((pipeline.contributions.winner = none ∧ emitted = [.dropped requestId]) ∨
        ∃ winner, pipeline.contributions.winner = some winner ∧
          emitted =
            [.createSubmission (finalRow sha256 requestId pipeline winner) stored]) := by
  simp only [finalizePipeline, present]
  cases wins : pipeline.contributions.winner with
  | none => exact ⟨_, dropPipeline_actsOn engine requestId, .inl ⟨rfl, rfl⟩⟩
  | some winner =>
      exact ⟨_, ⟨rfl, eq_update_of_eq rfl, rfl, rfl, about_singleton rfl⟩,
        .inr ⟨winner, rfl, rfl⟩⟩

theorem completeStep_outcome (sha256 : Digest) (registry : MinerRegistry) (ticket : Ticket)
    (wallet : Wallet) (source : ModelSource) (lastToken stored : Bool)
    (present : engine.pipelines result.requestId = some pipeline) :
    ∃ after assigned call emitted,
      ActsOn result.requestId engine
        (completeStep sha256 registry ticket wallet result source lastToken stored pipeline engine)
        after assigned (setCall engine.calls ticket call) emitted ∧
      StepOutcome sha256 registry engine.lastAssigned (engine.assignments result.requestId) ticket
        wallet result source lastToken stored pipeline after assigned call emitted := by
  have ended := endCall_actsOn engine result.requestId ticket
  have advances : About Effect.requestId result.requestId [.advanced ticket result.requestId] :=
    about_singleton rfl
  unfold completeStep
  by_cases lastShard : pipeline.pos + 1 = pipeline.shards.length
  · rw [if_pos lastShard]
    cases answer : result.nextTokenId with
    | none =>
        exact ⟨_, _, _, _, ended.trans (dropPipeline_actsOn _ result.requestId),
          .unanswered lastShard answer⟩
    | some tokenId =>
        have recorded := endWith_actsOn engine ticket (recordToken pipeline tokenId) advances
        cases lastToken with
        | true =>
            rcases finalizePipeline_actsOn sha256 stored recorded.pipelines_self with
              ⟨emitted, acts, ⟨nobody, rfl⟩ | ⟨winner, wins, rfl⟩⟩
            · exact ⟨_, _, _, _, recorded.trans acts, .unattributed lastShard answer rfl nobody⟩
            · exact ⟨_, _, _, _, recorded.trans acts, .finalized lastShard answer rfl wins⟩
        | false =>
            have begun := recorded.trans (setPipeline_actsOn _ result.requestId
              (nextToken (recordToken pipeline tokenId) tokenId))
            exact ⟨_, _, _, _,
              begun.trans (dispatchCurrent_actsOn registry source begun.pipelines_self),
              .nextToken lastShard answer rfl⟩
  · rw [if_neg lastShard]
    cases group : pipeline.expertGroupFor pipeline.pos with
    | some expertIds =>
        rcases beginExpertStep_outcome false ticket wallet source expertIds _ present with
          ⟨after, call, emitted, acts, outcome⟩
        refine ⟨after, _, call, emitted, acts, .experts lastShard group outcome ?_⟩
        intro asked isAsked
        rw [isAsked, Option.getD_some]
    | none =>
        have handed := endWith_actsOn engine ticket (nextShard pipeline result.output) advances
        exact ⟨_, _, _, _,
          handed.trans (dispatchCurrent_actsOn registry source handed.pipelines_self),
          .nextShard lastShard group⟩

end SharedStretches

/-! ## Events -/

/-- Only calls of one request differ. -/
def CallsOf (requestId : RequestId) (before after : PartialMap Ticket Call) : Prop :=
  ∀ ticket call, call.requestId ≠ requestId →
    (after ticket = some call ↔ before ticket = some call)

theorem callsOf_self (requestId : RequestId) (calls : PartialMap Ticket Call) :
    CallsOf requestId calls calls :=
  fun _ _ _ => Iff.rfl

theorem callsOf_setCall {requestId : RequestId} {calls : PartialMap Ticket Call}
    {ticket : Ticket} {call : Option Call}
    (old : ∀ parked, calls ticket = some parked → parked.requestId = requestId)
    (new : ∀ parked, call = some parked → parked.requestId = requestId) :
    CallsOf requestId calls (setCall calls ticket call) := by
  intro other parked ne
  by_cases same : other = ticket
  · subst same
    rw [setCall, Function.update_self]
    constructor
    · intro found
      exact absurd (new parked found) ne
    · intro found
      exact absurd (old parked found) ne
  · rw [setCall, Function.update_of_ne same]

/-- `after` comes from `engine` by a change of one request and of no other. -/
structure Explained (sha256 : Digest) (engine : ShardEngine) (requestId : RequestId)
    (stimulus : Stimulus) (after : ShardEngine) : Prop where
  intro ::
  explained : ∃ pipeline assigned calls emitted,
    ActsOn requestId engine after pipeline assigned calls emitted ∧
    CallsOf requestId engine.calls calls ∧
    Change sha256 engine requestId stimulus (engine.pipelines requestId) pipeline assigned calls
      emitted

variable {sha256 : Digest} {engine : ShardEngine}

/-- A change of one request is idle for all others. -/
theorem Explained.change {stimulus : Stimulus} {target : RequestId} {after : ShardEngine}
    (explained : Explained sha256 engine target stimulus after) (requestId : RequestId) :
    ∃ emitted, after.history requestId = engine.history requestId ++ emitted ∧
      Change sha256 engine requestId stimulus (engine.pipelines requestId)
        (after.pipelines requestId) (after.assignments requestId) after.calls emitted := by
  rcases explained with ⟨pipeline, assigned, calls, emitted, acts, own, change⟩
  rw [acts.calls]
  by_cases same : requestId = target
  · subst same
    refine ⟨emitted, acts.history_self, ?_⟩
    rw [acts.pipelines_self, acts.assignments_self]
    exact change
  · refine ⟨[], by rw [acts.history_of_ne same, List.append_nil], ?_⟩
    rw [acts.pipelines_of_ne same]
    apply Change.idle (.inl (acts.assignments_of_ne same))
    rintro ticket call rfl
    exact own ticket call same

section Events

variable {ticket : Ticket}

/-- A handler that returns or parks again touches the calls of its request
only. -/
theorem callsOf_resumed {parked : Call} (at_ticket : engine.calls ticket = some parked)
    {call : Option Call} (new : ∀ next, call = some next → next.requestId = parked.requestId) :
    CallsOf parked.requestId engine.calls (setCall engine.calls ticket call) := by
  apply callsOf_setCall _ new
  intro other found
  rw [at_ticket] at found
  cases found
  rfl

theorem callsOf_ended {parked : Call} (at_ticket : engine.calls ticket = some parked) :
    CallsOf parked.requestId engine.calls (setCall engine.calls ticket none) :=
  callsOf_resumed at_ticket fun _ same => absurd same.symm (Option.some_ne_none _)

/-- What the handler of a fresh ticket parks is of its own request. -/
theorem handleShardResult_explained (fresh : engine.calls engine.nextTicket = none)
    (registry : MinerRegistry) (wallet : Wallet) (result : OpoiShardResult) :
    Explained sha256 engine result.requestId ⟨registry, .shardResult wallet result⟩
      (handleShardResult wallet result engine) := by
  have refuses : ∀ error, Explained sha256 engine result.requestId
      ⟨registry, .shardResult wallet result⟩
      (engine.emit [.rejected wallet result.requestId error]) := by
    intro error
    have about : About Effect.requestId result.requestId
        [.rejected wallet result.requestId error] := about_singleton rfl
    exact ⟨_, _, _, _, emit_actsOn engine about, callsOf_self _ _, .rejected rfl⟩
  unfold handleShardResult
  cases assigned : engine.assignments result.requestId with
  | none => exact refuses .unknownRequest
  | some assignment =>
      dsimp only
      by_cases matching :
          assignment = ⟨wallet, result.shardIndex, result.tokenIndex, result.moeLayerStep⟩
      · rw [if_pos matching]
        rw [matching] at assigned
        cases present : engine.pipelines result.requestId with
        | none =>
            refine ⟨none, none, engine.calls, [.accepted engine.nextTicket wallet result,
              .rejected wallet result.requestId .unknownRequest], ⟨?_, rfl, rfl, ?_, ?_⟩,
              callsOf_self _ _, ?_⟩
            · exact eq_update_of_eq present
            · exact List.append_assoc ..
            · exact (about_singleton rfl).cons rfl
            · rw [present]
              exact .orphaned rfl assigned
        | some pipeline =>
            refine ⟨some pipeline, none, setCall engine.calls engine.nextTicket
              (some (.resolving wallet result)), [.accepted engine.nextTicket wallet result],
              ⟨?_, rfl, rfl, rfl, about_singleton rfl⟩, ?_, ?_⟩
            · exact eq_update_of_eq present
            · apply callsOf_setCall
              · simp [fresh]
              · rintro _ ⟨⟩
                rfl
            · rw [present]
              exact .accepted rfl assigned
      · rw [if_neg matching]
        exact refuses .notAssignedToCaller

variable (registry : MinerRegistry)

/-- Past the routing of interior layers. -/
theorem finishStep_explained (sha256 : Digest) {wallet : Wallet} {result : OpoiShardResult}
    {pipeline : PipelineState} (parked : engine.calls ticket = some (.resolving wallet result))
    (present : engine.pipelines result.requestId = some pipeline)
    (finishes : ¬ Resumes pipeline result) (source : ModelSource) :
    Explained sha256 engine result.requestId ⟨registry, .resolved ticket (some source)⟩
      (finishStep sha256 registry ticket wallet result source (contribute wallet pipeline)
        (engine.setPipeline result.requestId (contribute wallet pipeline))) := by
  have counted := setPipeline_actsOn engine result.requestId (contribute wallet pipeline)
  unfold finishStep
  cases last : isLastToken pipeline with
  | true =>
      have submits : About Effect.requestId result.requestId
          [.submitShard result.requestId result.shardIndex result.outputHash] :=
        about_singleton rfl
      rw [if_pos (show isLastToken (contribute wallet pipeline) = true from last)]
      refine ⟨some (contribute wallet pipeline), _, _, _,
        ⟨rfl, eq_update_of_eq rfl, rfl, rfl, submits⟩, callsOf_resumed parked ?_, ?_⟩
      · rintro _ ⟨⟩
        rfl
      · rw [present]
        exact .submitting parked rfl last finishes
  | false =>
      have notLast : ¬ isLastToken (contribute wallet pipeline) = true := by
        rw [Bool.not_eq_true]
        exact last
      rw [if_neg notLast]
      rcases completeStep_outcome sha256 registry ticket wallet source false false
        counted.pipelines_self with ⟨after, assigned, call, emitted, acts, outcome⟩
      refine ⟨after, assigned, _, emitted, counted.trans acts, callsOf_resumed parked ?_, ?_⟩
      · rintro _ rfl
        exact outcome.requestId
      · rw [present]
        exact .completed parked rfl last outcome finishes

theorem resumeResolved_explained {wallet : Wallet} {result : OpoiShardResult}
    (parked : engine.calls ticket = some (.resolving wallet result))
    (source : Option ModelSource) :
    Explained sha256 engine result.requestId ⟨registry, .resolved ticket source⟩
      (resumeResolved sha256 registry ticket source engine) := by
  have ended := endCall_actsOn engine result.requestId ticket
  have refuses : About Effect.requestId result.requestId
      [.rejected wallet result.requestId .unknownRequest] := about_singleton rfl
  have own := callsOf_ended parked
  simp only [resumeResolved, parked]
  cases source with
  | none =>
      exact ⟨_, _, _, _, ended.trans (emit_actsOn _ refuses), own, .unresolved parked rfl⟩
  | some source =>
      cases present : engine.pipelines result.requestId with
      | none =>
          have gone : (engine.endCall ticket).pipelines result.requestId = none := present
          dsimp only
          cases result.moeLayerStep.isSome with
          | true =>
              rw [if_pos rfl]
              refine ⟨_, _, _, _, ended.trans (emit_actsOn _ refuses), own, ?_⟩
              rw [present, gone]
              exact .lost parked rfl (.inr rfl)
          | false =>
              refine ⟨_, _, _, _, ended, own, ?_⟩
              rw [present]
              exact .lost parked rfl (.inl rfl)
      | some pipeline =>
          have counted := setPipeline_actsOn engine result.requestId (contribute wallet pipeline)
          dsimp only
          cases layer : result.moeLayerStep with
          | none =>
              apply finishStep_explained registry sha256 parked present
              rintro ⟨_, _, some, -⟩
              rw [layer] at some
              cases some
          | some layerIdx =>
              dsimp only
              cases found : pipeline.shards[pipeline.pos]? with
              | none =>
                  have stops : About Effect.requestId result.requestId
                      [.panicked result.requestId] := about_singleton rfl
                  simp only [contribute_shards, contribute_pos, found]
                  refine ⟨some (contribute wallet pipeline), _, _, _,
                    ⟨rfl, eq_update_of_eq rfl, rfl, rfl, stops⟩, own, ?_⟩
                  rw [present]
                  exact .misplaced parked rfl found
              | some shard =>
                  simp only [contribute_shards, contribute_pos, contribute_expertGroupFor, found]
                  by_cases resumes : resumesShard layerIdx (layerRange shard).2
                      (contribute wallet pipeline).manifest.numLayers = true
                  · rw [if_pos resumes]
                    cases group : pipeline.expertGroupFor pipeline.pos with
                    | none =>
                        have acts :=
                          (counted.trans (endCall_actsOn _ result.requestId ticket)).trans
                          (dropPipeline_actsOn _ result.requestId)
                        refine ⟨_, _, _, _, acts, own, ?_⟩
                        rw [present]
                        exact .ungrouped parked rfl ⟨layerIdx, shard, layer, found, resumes⟩ group
                    | some expertIds =>
                        rcases beginExpertStep_outcome true ticket wallet source expertIds layerIdx
                          counted.pipelines_self with ⟨after, call, emitted, acts, outcome⟩
                        refine ⟨after, _, _, emitted, counted.trans acts,
                          callsOf_resumed parked ?_, ?_⟩
                        · rintro _ rfl
                          exact outcome.requestId
                        · rw [present]
                          exact .interior parked rfl layer found resumes group outcome
                  · rw [if_neg resumes]
                    apply finishStep_explained registry sha256 parked present
                    rintro ⟨_, _, sameLayer, sameShard, routed⟩
                    cases layer.symm.trans sameLayer
                    cases found.symm.trans sameShard
                    exact resumes routed

theorem resumeSubmitted_explained {wallet : Wallet} {result : OpoiShardResult}
    {source : ModelSource} (parked : engine.calls ticket = some (.submitting wallet result source))
    (submitted stored : Bool) :
    Explained sha256 engine result.requestId ⟨registry, .submitted ticket submitted stored⟩
      (resumeSubmitted sha256 registry ticket submitted stored engine) := by
  have ended := endCall_actsOn engine result.requestId ticket
  have own := callsOf_ended parked
  simp only [resumeSubmitted, parked]
  cases submitted with
  | false =>
      have stops : About Effect.requestId result.requestId [.stalled result.requestId] :=
        about_singleton rfl
      exact ⟨_, _, _, _, ended.trans (emit_actsOn _ stops), own, .unsubmitted parked rfl⟩
  | true =>
      rw [if_pos rfl]
      cases present : engine.pipelines result.requestId with
      | none =>
          refine ⟨_, _, _, _, ended, own, ?_⟩
          rw [present]
          exact .lost parked rfl (.inl rfl)
      | some pipeline =>
          rcases completeStep_outcome sha256 registry ticket wallet source true stored present with
            ⟨after, assigned, call, emitted, acts, outcome⟩
          refine ⟨after, assigned, _, emitted, acts, callsOf_resumed parked ?_, ?_⟩
          · rintro _ rfl
            exact outcome.requestId
          · rw [present]
            exact .submitted parked rfl outcome

theorem resumeSized_explained {step : ExpertStep}
    (parked : engine.calls ticket = some (.sizing step)) (minVramMb : Option Nat) :
    Explained sha256 engine step.result.requestId ⟨registry, .sized ticket minVramMb⟩
      (resumeSized ticket minVramMb engine) := by
  have joins : About Effect.requestId step.result.requestId
      [.joinRequested ticket (joinRequest step (minVramMb.getD 0))] := about_singleton rfl
  simp only [resumeSized, parked]
  refine ⟨_, _, _, _, ⟨eq_update_of_eq rfl, ?_, rfl, rfl, joins⟩, callsOf_resumed parked ?_,
    .sized parked rfl⟩
  · unfold markedBy
    cases (engine.pipelines step.result.requestId).bind PipelineState.moeLayerWalk with
    | none => exact eq_update_of_eq rfl
    | some walk => rfl
  · rintro _ ⟨⟩
    rfl

theorem resumeJoined_explained {step : ExpertStep}
    (parked : engine.calls ticket = some (.joining step)) (output : Option ShardOutputWire)
    (joinable : output ≠ none → step.Joinable) :
    Explained sha256 engine step.result.requestId ⟨registry, .joined ticket output⟩
      (resumeJoined registry ticket output engine) := by
  have ended := endCall_actsOn engine step.result.requestId ticket
  have own := callsOf_ended parked
  simp only [resumeJoined, parked]
  cases output with
  | none =>
      exact ⟨_, _, _, _, ⟨eq_update_of_eq rfl, rfl, rfl, rfl, about_singleton rfl⟩, own,
        .unjoined parked rfl⟩
  | some output =>
      have stays : (engine.endCall ticket).pipelines = engine.pipelines := rfl
      dsimp only
      rw [stays]
      cases present : engine.pipelines step.result.requestId with
      | none =>
          refine ⟨_, _, _, _, ended, own, ?_⟩
          rw [present]
          exact .lost parked rfl (.inl rfl)
      | some pipeline =>
          dsimp only
          cases side : step.interior with
          | true =>
              have walks : About Effect.requestId step.result.requestId
                  [.walked ticket step.result.requestId] := about_singleton rfl
              have fed := endWith_actsOn engine ticket (nextLayer pipeline step.layerIdx output)
                walks
              rw [if_pos rfl]
              refine ⟨_, _, _, _, fed.trans
                (dispatchCurrent_actsOn registry step.source fed.pipelines_self), own, ?_⟩
              rw [present]
              exact .walked parked rfl side (joinable (by simp))
          | false =>
              have advances : About Effect.requestId step.result.requestId
                  [.advanced ticket step.result.requestId] := about_singleton rfl
              have handed := endWith_actsOn engine ticket (nextShard pipeline output) advances
              rw [if_neg (by simp)]
              refine ⟨_, _, _, _, handed.trans
                (dispatchCurrent_actsOn registry step.source handed.pipelines_self), own, ?_⟩
              rw [present]
              exact .handedOver parked rfl side (joinable (by simp))

theorem dropCall_explained {call : Call} (registry : MinerRegistry)
    (parked : engine.calls ticket = some call) :
    Explained sha256 engine call.requestId ⟨registry, .dropped ticket⟩ (dropCall ticket engine) :=
  ⟨_, _, _, _, endCall_actsOn engine call.requestId ticket, callsOf_ended parked,
    .abandoned parked rfl⟩

/-- What leaves pipelines, calls and log alone changes no request. -/
theorem explained_of_same {after : ShardEngine} (requestId : RequestId) (stimulus : Stimulus)
    (pipelines : after.pipelines = engine.pipelines)
    (assignments : after.assignments = engine.assignments) (calls : after.calls = engine.calls)
    (log : after.log = engine.log) : Explained sha256 engine requestId stimulus after := by
  refine ⟨engine.pipelines requestId, engine.assignments requestId, engine.calls, [],
    ⟨?_, ?_, calls, ?_, about_nil⟩, callsOf_self _ _, .idle (.inl rfl) fun _ _ _ => Iff.rfl⟩
  · rw [pipelines]
    exact eq_update_of_eq rfl
  · rw [assignments]
    exact eq_update_of_eq rfl
  · rw [log, List.append_nil]

theorem resumeRetry_explained {requestId : RequestId} {rest : List RequestId}
    (polling : engine.poll = .retrying requestId rest) (source : Option ModelSource) :
    Explained sha256 engine requestId ⟨registry, .pollRetry source⟩
      (resumeRetry registry source engine) := by
  simp only [resumeRetry, polling]
  cases source with
  | none => exact explained_of_same _ _ rfl rfl rfl rfl
  | some source =>
      cases present : engine.pipelines requestId with
      | none =>
          have skips : dispatchCurrent registry requestId source engine = engine := by
            simp only [dispatchCurrent, present]
          dsimp only
          rw [skips]
          exact explained_of_same _ _ rfl rfl rfl rfl
      | some pipeline =>
          have acts := dispatchCurrent_actsOn registry source present
          refine ⟨_, _, engine.calls, _,
            ⟨acts.pipelines, acts.assignments, acts.calls, acts.log, acts.about⟩,
            callsOf_self _ _, ?_⟩
          rw [present]
          exact .redispatched polling

theorem resumeClaim_explained {req : OpoiRequest} {rest : List OpoiRequest}
    {manifest : ModelManifest} {promptHex : String} {graph : ModelGraph} {source : ModelSource}
    (polling : engine.poll = .claiming req rest manifest promptHex graph source)
    (claimed eligible : Bool) :
    Explained sha256 engine req.requestId ⟨registry, .pollClaim claimed eligible⟩
      (resumeClaim registry claimed eligible engine) := by
  simp only [resumeClaim, polling]
  cases claimed with
  | false => exact explained_of_same _ _ rfl rfl rfl rfl
  | true =>
      cases eligible with
      | true =>
          have hands : About Effect.requestId req.requestId [.delegated req.requestId] :=
            about_singleton rfl
          exact ⟨_, _, _, _, ⟨eq_update_of_eq rfl, eq_update_of_eq rfl, rfl, rfl, hands⟩,
            callsOf_self _ _,
            .delegated polling rfl⟩
      | false =>
          let pipeline := initialPipeline req manifest graph promptHex
          let taken := { engine with promptCache := engine.promptCache.remove req.requestId }
          have stores : ActsOn req.requestId engine
              ((taken.setPipeline req.requestId pipeline).emit [.started req.requestId])
              (some pipeline) (engine.assignments req.requestId) engine.calls
              [.started req.requestId] :=
            ⟨rfl, eq_update_of_eq rfl, rfl, rfl, about_singleton rfl⟩
          have acts := stores.trans
            (dispatchCurrent_actsOn registry source stores.pipelines_self)
          exact ⟨_, _, _, _, ⟨acts.pipelines, acts.assignments, acts.calls, acts.log, acts.about⟩,
            callsOf_self _ _,
            .started polling rfl⟩

end Events

/-- Every enabled event but a disconnect acts on one request. -/
theorem next_explained (sha256 : Digest) {stimulus : Stimulus} (enabled : engine.enabled stimulus)
    (stays : ∀ wallet, stimulus.event ≠ .disconnect wallet)
    (fresh : engine.calls engine.nextTicket = none) :
    ∃ target, Explained sha256 engine target stimulus (next sha256 engine stimulus) := by
  rcases stimulus with ⟨registry, event⟩
  cases event with
  | receivePrompt target promptHex => exact ⟨target, explained_of_same _ _ rfl rfl rfl rfl⟩
  | shardResult wallet result =>
      exact ⟨_, handleShardResult_explained fresh registry wallet result⟩
  | resolved ticket source =>
      rcases enabled with ⟨wallet, result, parked⟩
      exact ⟨_, resumeResolved_explained registry parked source⟩
  | submitted ticket submitted stored =>
      rcases enabled with ⟨wallet, result, source, parked⟩
      exact ⟨_, resumeSubmitted_explained registry parked submitted stored⟩
  | sized ticket minVramMb =>
      rcases enabled with ⟨step, parked⟩
      exact ⟨_, resumeSized_explained registry parked minVramMb⟩
  | joined ticket output =>
      rcases enabled with ⟨step, parked, joinable⟩
      exact ⟨_, resumeJoined_explained registry parked output joinable⟩
  | dropped ticket =>
      rcases enabled with ⟨call, parked⟩
      exact ⟨_, dropCall_explained registry parked⟩
  | disconnect wallet => exact absurd rfl (stays wallet)
  | pollBegin stalled => exact ⟨"", explained_of_same _ _ rfl rfl rfl rfl⟩
  | pollRetry source =>
      rcases enabled with ⟨target, rest, polling⟩
      exact ⟨_, resumeRetry_explained registry polling source⟩
  | pollListing requests =>
      refine ⟨"", ?_⟩
      apply explained_of_same <;> (simp only [next, resumeListing]; split <;> rfl)
  | pollManifest manifest =>
      refine ⟨"", ?_⟩
      apply explained_of_same <;> (simp only [next, resumeManifest]; (repeat' split) <;> rfl)
  | pollGraph graph =>
      refine ⟨"", ?_⟩
      apply explained_of_same <;> (simp only [next, resumeGraph]; (repeat' split) <;> rfl)
  | pollSource source =>
      refine ⟨"", ?_⟩
      apply explained_of_same <;> (simp only [next, resumeSource]; (repeat' split) <;> rfl)
  | pollClaim claimed eligible =>
      rcases enabled with ⟨req, rest, manifest, promptHex, graph, source, polling⟩
      exact ⟨_, resumeClaim_explained registry polling claimed eligible⟩

/-- The inversion rule: one enabled event leaves every request as some outcome
of `Change` says. -/
theorem next_change (sha256 : Digest) {stimulus : Stimulus} (enabled : engine.enabled stimulus)
    (fresh : engine.calls engine.nextTicket = none) (requestId : RequestId) :
    ∃ emitted, (next sha256 engine stimulus).history requestId =
        engine.history requestId ++ emitted ∧
      Change sha256 engine requestId stimulus (engine.pipelines requestId)
        ((next sha256 engine stimulus).pipelines requestId)
        ((next sha256 engine stimulus).assignments requestId)
        (next sha256 engine stimulus).calls emitted := by
  by_cases leaves : ∃ wallet, stimulus.event = .disconnect wallet
  · rcases stimulus with ⟨registry, event⟩
    rcases leaves with ⟨wallet, rfl⟩
    refine ⟨[], (List.append_nil _).symm, .idle ?_ fun _ _ _ => Iff.rfl⟩
    exact PartialMap.retain_eq_self_or_none _ _ _
  · push Not at leaves
    obtain ⟨target, explained⟩ := next_explained sha256 enabled leaves fresh
    exact explained.change requestId

/-! ## What the handlers leave alone -/

/-- Nothing was taken in: the tickets, the prompt cache and the poll tick stand
where they stood. -/
structure SameIntake (before after : ShardEngine) : Prop where
  nextTicket : after.nextTicket = before.nextTicket
  promptCache : after.promptCache = before.promptCache
  poll : after.poll = before.poll

theorem SameIntake.trans {middle after : ShardEngine} (first : SameIntake engine middle)
    (second : SameIntake middle after) : SameIntake engine after :=
  ⟨second.nextTicket.trans first.nextTicket, second.promptCache.trans first.promptCache,
    second.poll.trans first.poll⟩

section Intake

variable (sha256 : Digest) (registry : MinerRegistry) (engine : ShardEngine)
variable (requestId : RequestId) (ticket : Ticket) (wallet : Wallet)
variable (result : OpoiShardResult) (source : ModelSource)

theorem dispatchCurrent_intake :
    SameIntake engine (dispatchCurrent registry requestId source engine) := by
  unfold dispatchCurrent
  repeat' split
  all_goals exact ⟨rfl, rfl, rfl⟩

theorem finalizePipeline_intake (stored : Bool) :
    SameIntake engine (finalizePipeline sha256 requestId stored engine) := by
  unfold finalizePipeline
  repeat' split
  all_goals exact ⟨rfl, rfl, rfl⟩

theorem beginExpertStep_intake (interior : Bool) (expertIds : List Nat) (layerIdx : Nat) :
    SameIntake engine
      (beginExpertStep interior ticket wallet result source expertIds layerIdx engine) := by
  unfold beginExpertStep
  repeat' split
  all_goals exact ⟨rfl, rfl, rfl⟩

theorem completeStep_intake (lastToken stored : Bool) (pipeline : PipelineState) :
    SameIntake engine
      (completeStep sha256 registry ticket wallet result source lastToken stored pipeline
        engine) := by
  unfold completeStep
  split
  · split
    · exact ⟨rfl, rfl, rfl⟩
    · rename_i tokenId answer
      have recorded : SameIntake engine
          (((engine.endCall ticket).setPipeline result.requestId
            (recordToken pipeline tokenId)).emit [.advanced ticket result.requestId]) :=
        ⟨rfl, rfl, rfl⟩
      dsimp only
      split
      · exact recorded.trans (finalizePipeline_intake ..)
      · have begun : SameIntake _ ((((engine.endCall ticket).setPipeline result.requestId
            (recordToken pipeline tokenId)).emit [.advanced ticket result.requestId]).setPipeline
              result.requestId (nextToken (recordToken pipeline tokenId) tokenId)) :=
          recorded.trans ⟨rfl, rfl, rfl⟩
        exact begun.trans (dispatchCurrent_intake ..)
  · split
    · exact beginExpertStep_intake ..
    · have handed : SameIntake engine
          (((engine.endCall ticket).setPipeline result.requestId
            (nextShard pipeline result.output)).emit [.advanced ticket result.requestId]) :=
        ⟨rfl, rfl, rfl⟩
      exact handed.trans (dispatchCurrent_intake ..)

theorem finishStep_intake (pipeline : PipelineState) :
    SameIntake engine
      (finishStep sha256 registry ticket wallet result source pipeline engine) := by
  unfold finishStep
  split
  · exact ⟨rfl, rfl, rfl⟩
  · exact completeStep_intake ..

theorem resumeResolved_intake (found : Option ModelSource) :
    SameIntake engine (resumeResolved sha256 registry ticket found engine) := by
  have counted : ∀ requestId pipeline, SameIntake engine (engine.setPipeline requestId pipeline) :=
    fun _ _ => ⟨rfl, rfl, rfl⟩
  unfold resumeResolved
  split
  · split
    · exact ⟨rfl, rfl, rfl⟩
    · split
      · split <;> exact ⟨rfl, rfl, rfl⟩
      · dsimp only
        split
        · exact (counted _ _).trans (finishStep_intake ..)
        · split
          · exact ⟨rfl, rfl, rfl⟩
          · split
            · split
              · exact ⟨rfl, rfl, rfl⟩
              · exact (counted _ _).trans (beginExpertStep_intake ..)
            · exact (counted _ _).trans (finishStep_intake ..)
  · exact ⟨rfl, rfl, rfl⟩

theorem resumeSubmitted_intake (submitted stored : Bool) :
    SameIntake engine (resumeSubmitted sha256 registry ticket submitted stored engine) := by
  unfold resumeSubmitted
  repeat' split
  all_goals first
    | exact ⟨rfl, rfl, rfl⟩
    | exact completeStep_intake ..

theorem resumeSized_intake (minVramMb : Option Nat) :
    SameIntake engine (resumeSized ticket minVramMb engine) := by
  unfold resumeSized
  split <;> exact ⟨rfl, rfl, rfl⟩

theorem resumeJoined_intake (output : Option ShardOutputWire) :
    SameIntake engine (resumeJoined registry ticket output engine) := by
  unfold resumeJoined
  split
  · rename_i step parked
    dsimp only
    split
    · exact ⟨rfl, rfl, rfl⟩
    · split
      · exact ⟨rfl, rfl, rfl⟩
      · rename_i output pipeline present
        have fed : ∀ after effects, SameIntake engine
            (((engine.endCall ticket).setPipeline step.result.requestId after).emit effects) :=
          fun _ _ => ⟨rfl, rfl, rfl⟩
        split
        · exact (fed _ _).trans (dispatchCurrent_intake ..)
        · exact (fed _ _).trans (dispatchCurrent_intake ..)
  · exact ⟨rfl, rfl, rfl⟩

end Intake

end ShardEngine

end StratumBridge.Shard
