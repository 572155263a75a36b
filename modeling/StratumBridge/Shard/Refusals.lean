import StratumBridge.Shard.System

/-!
# Refused results

A whole call of `handle_shard_result_inner`, from its checks through every await to the
value it returns.  It consumes the assignment before it looks for the pipeline and for
the model source, so an error from there on costs the assignment.
-/

namespace StratumBridge.Shard

open Data Rpc Wire

/-- What the awaits of a call are answered with. -/
structure Awaited where
  /-- What the speculative engine returns, if the request is one of its own. -/
  delegated : Option (Except AppError Unit)
  source : Option ModelSource
  submitted : Bool
  stored : Bool
  minVramMb : Option Nat
  joined : Option ShardOutputWire

/-- The error a call ends with. -/
def Effect.refusal : Effect → Option AppError
  | rejected _ _ error => some error
  | _ => none

namespace ShardEngine

/-- The errors returned so far. -/
def refusals (engine : ShardEngine) : List AppError :=
  engine.log.filterMap Effect.refusal

/-- The steps of a call one after the other, under a ticket of its own. -/
def serve (sha256 : Digest) (registry : MinerRegistry) (wallet : Wallet)
    (result : OpoiShardResult) (answers : Awaited) (engine : ShardEngine) : ShardEngine :=
  let ticket := engine.nextTicket
  let begun := handleShardResult wallet result (engine.endCall ticket)
  let resolved := resumeResolved sha256 registry ticket answers.source begun
  let submitted :=
    resumeSubmitted sha256 registry ticket answers.submitted answers.stored resolved
  resumeJoined registry ticket answers.joined (resumeSized ticket answers.minVramMb submitted)

/-- `handle_shard_result_inner`. -/
def handleShardResultInner (sha256 : Digest) (registry : MinerRegistry) (wallet : Wallet)
    (result : OpoiShardResult) (answers : Awaited) (engine : ShardEngine) :
    Except AppError Unit × ShardEngine :=
  match answers.delegated with
  | some outcome => (outcome, engine)
  | none =>
      let after := serve sha256 registry wallet result answers engine
      match after.refusals.drop engine.refusals.length with
      | [] => (.ok (), after)
      | error :: _ => (.error error, after)

/-- The assignment that a result answers. -/
def answeredAssignment (wallet : Wallet) (result : OpoiShardResult) : ShardAssignment :=
  ⟨wallet, result.shardIndex, result.tokenIndex, result.moeLayerStep⟩

/-- The result is assigned, but the request has no pipeline or its model no source. -/
def LosesAssignment (wallet : Wallet) (result : OpoiShardResult) (answers : Awaited)
    (engine : ShardEngine) : Prop :=
  answers.delegated = none ∧
    engine.assignments result.requestId = some (answeredAssignment wallet result) ∧
    (engine.pipelines result.requestId = none ∨ answers.source = none)

variable {sha256 : Digest} {registry : MinerRegistry} {wallet : Wallet}
  {result : OpoiShardResult} {answers : Awaited} {engine : ShardEngine} {ticket : Ticket}

/-! ## Steps that return no error -/

theorem refusals_append {after : ShardEngine} {effects : List Effect}
    (logged : after.log = engine.log ++ effects)
    (silent : effects.filterMap Effect.refusal = []) : after.refusals = engine.refusals := by
  rw [refusals, logged, List.filterMap_append, silent, List.append_nil]
  rfl

@[simp]
theorem refusals_dispatchCurrent (requestId : RequestId) (source : ModelSource) :
    (dispatchCurrent registry requestId source engine).refusals = engine.refusals := by
  unfold dispatchCurrent
  split
  · rfl
  · split
    · exact refusals_append rfl rfl
    · split
      · split
        · exact refusals_append rfl rfl
        · exact refusals_append rfl rfl
      · split
        · rfl
        · dsimp only
          split
          · rfl
          · exact refusals_append rfl rfl

theorem refusals_finalizePipeline (requestId : RequestId) (stored : Bool) :
    (finalizePipeline sha256 requestId stored engine).refusals = engine.refusals := by
  unfold finalizePipeline
  split
  · rfl
  · split
    · exact refusals_append rfl rfl
    · exact refusals_append rfl rfl

/-- While the pipeline is there, the experts of a layer cause no error. -/
theorem refusals_beginExpertStep {interior : Bool} {source : ModelSource} {expertIds : List Nat}
    {layerIdx : Nat} (there : engine.pipelines result.requestId ≠ none) :
    (beginExpertStep interior ticket wallet result source expertIds layerIdx engine).refusals =
      engine.refusals := by
  unfold beginExpertStep
  split
  · exact refusals_append rfl rfl
  · exact refusals_append rfl rfl
  · split
    · rename_i missing
      exact absurd missing there
    · split
      · exact refusals_append rfl rfl
      · rfl

theorem refusals_completeStep {source : ModelSource} {isLastToken stored : Bool}
    {pipeline : PipelineState} (there : engine.pipelines result.requestId ≠ none) :
    (completeStep sha256 registry ticket wallet result source isLastToken stored pipeline
      engine).refusals = engine.refusals := by
  unfold completeStep
  split
  · split
    · exact refusals_append rfl rfl
    · dsimp only
      split
      · rw [refusals_finalizePipeline]
        exact refusals_append rfl rfl
      · rw [refusals_dispatchCurrent]
        exact refusals_append rfl rfl
  · split
    · exact refusals_beginExpertStep there
    · rw [refusals_dispatchCurrent]
      exact refusals_append rfl rfl

theorem refusals_finishStep {source : ModelSource} {pipeline : PipelineState}
    (there : engine.pipelines result.requestId ≠ none) :
    (finishStep sha256 registry ticket wallet result source pipeline engine).refusals =
      engine.refusals := by
  unfold finishStep
  split
  · exact refusals_append rfl rfl
  · exact refusals_completeStep there

theorem refusals_resumeSubmitted {submitted stored : Bool} :
    (resumeSubmitted sha256 registry ticket submitted stored engine).refusals =
      engine.refusals := by
  unfold resumeSubmitted
  split
  · split
    · split
      · rfl
      · rename_i pipeline found
        exact refusals_completeStep (by rw [found]; exact Option.some_ne_none _)
    · exact refusals_append rfl rfl
  · rfl

theorem refusals_resumeSized {minVramMb : Option Nat} :
    (resumeSized ticket minVramMb engine).refusals = engine.refusals := by
  unfold resumeSized
  split
  · exact refusals_append rfl rfl
  · rfl

theorem refusals_resumeJoined {output : Option ShardOutputWire} :
    (resumeJoined registry ticket output engine).refusals = engine.refusals := by
  unfold resumeJoined
  split
  · dsimp only
    split
    · exact refusals_append rfl rfl
    · split
      · rfl
      · rw [refusals_dispatchCurrent]
        split
        · exact refusals_append rfl rfl
        · exact refusals_append rfl rfl
  · rfl

/-- With a pipeline and a source a result that is handled is not refused any more. -/
theorem refusals_resumeResolved {source : ModelSource}
    (parked : engine.calls ticket = some (.resolving wallet result))
    (there : engine.pipelines result.requestId ≠ none) :
    (resumeResolved sha256 registry ticket (some source) engine).refusals = engine.refusals := by
  unfold resumeResolved
  rw [parked]
  dsimp only
  split
  · rename_i missing
    exact absurd missing there
  · rename_i pipeline found
    have stays : (engine.setPipeline result.requestId (contribute wallet pipeline)).pipelines
        result.requestId ≠ none := by
      simp only [setPipeline, PartialMap.insert_self]
      exact Option.some_ne_none _
    split
    · exact refusals_finishStep stays
    · split
      · exact refusals_append rfl rfl
      · split
        · split
          · exact refusals_append rfl rfl
          · exact refusals_beginExpertStep stays
        · exact refusals_finishStep stays

/-! ## The whole call -/

/-- A handler that has returned is not resumed. -/
theorem resumes_of_unparked (submitted stored : Bool) (minVramMb : Option Nat)
    (joined : Option ShardOutputWire) (unparked : engine.calls ticket = none) :
    resumeJoined registry ticket joined (resumeSized ticket minVramMb
      (resumeSubmitted sha256 registry ticket submitted stored engine)) = engine := by
  have noSubmission : resumeSubmitted sha256 registry ticket submitted stored engine = engine := by
    simp only [resumeSubmitted, unparked]
  have noSize : resumeSized ticket minVramMb engine = engine := by
    simp only [resumeSized, unparked]
  rw [noSubmission, noSize]
  simp only [resumeJoined, unparked]

theorem serve_of_unparked {begun : ShardEngine}
    (begins : handleShardResult wallet result (engine.endCall engine.nextTicket) = begun)
    (unparked : begun.calls engine.nextTicket = none) :
    serve sha256 registry wallet result answers engine = begun := by
  have unresolved : resumeResolved sha256 registry engine.nextTicket answers.source begun =
      begun := by
    simp only [resumeResolved, unparked]
  rw [serve, begins, unresolved]
  exact resumes_of_unparked _ _ _ _ unparked

/-- Nothing but an assigned result is taken. -/
theorem serve_of_no_assignment (nobody : engine.assignments result.requestId = none) :
    serve sha256 registry wallet result answers engine =
      (engine.endCall engine.nextTicket).emit
        [.rejected wallet result.requestId .unknownRequest] := by
  refine serve_of_unparked ?_ (PartialMap.remove_self ..)
  simp only [handleShardResult, endCall, nobody]

/-- What a call leaves that is refused before its result is accepted. -/
theorem serve_unassigned (unassigned : engine.assignments result.requestId ≠
      some (answeredAssignment wallet result)) :
    ∃ error, serve sha256 registry wallet result answers engine =
      (engine.endCall engine.nextTicket).emit [.rejected wallet result.requestId error] := by
  cases assigned : engine.assignments result.requestId with
  | none => exact ⟨.unknownRequest, serve_of_no_assignment assigned⟩
  | some assignment =>
      have other : assignment ≠ answeredAssignment wallet result := by
        rintro rfl
        exact unassigned assigned
      refine ⟨.notAssignedToCaller, serve_of_unparked ?_ (PartialMap.remove_self ..)⟩
      simp only [handleShardResult, endCall, assigned]
      exact if_neg other

/-- The engine once a result is accepted. -/
def take (wallet : Wallet) (result : OpoiShardResult) (engine : ShardEngine) : ShardEngine :=
  { engine.endCall engine.nextTicket with
    assignments := engine.assignments.remove result.requestId
    nextTicket := engine.nextTicket + 1
    log := engine.log ++ [.accepted engine.nextTicket wallet result] }

theorem serve_without_pipeline
    (assigned : engine.assignments result.requestId = some (answeredAssignment wallet result))
    (missing : engine.pipelines result.requestId = none) :
    serve sha256 registry wallet result answers engine =
      (take wallet result engine).emit [.rejected wallet result.requestId .unknownRequest] := by
  refine serve_of_unparked ?_ (PartialMap.remove_self ..)
  simp only [handleShardResult, endCall, assigned, missing]
  exact if_pos rfl

theorem handleShardResult_parks {pipeline : PipelineState}
    (assigned : engine.assignments result.requestId = some (answeredAssignment wallet result))
    (found : engine.pipelines result.requestId = some pipeline) :
    handleShardResult wallet result (engine.endCall engine.nextTicket) =
      (take wallet result engine).park engine.nextTicket (.resolving wallet result) := by
  simp only [handleShardResult, endCall, assigned, found]
  exact if_pos rfl

/-- An accepted result waits for its model source. -/
theorem calls_parked : ((take wallet result engine).park engine.nextTicket
    (.resolving wallet result)).calls engine.nextTicket = some (.resolving wallet result) :=
  PartialMap.insert_self ..

theorem serve_without_source {pipeline : PipelineState}
    (assigned : engine.assignments result.requestId = some (answeredAssignment wallet result))
    (found : engine.pipelines result.requestId = some pipeline) (noSource : answers.source = none) :
    serve sha256 registry wallet result answers engine =
      (((take wallet result engine).park engine.nextTicket (.resolving wallet result)).endCall
        engine.nextTicket).emit [.rejected wallet result.requestId .unknownRequest] := by
  have unresolved : resumeResolved sha256 registry engine.nextTicket none
      ((take wallet result engine).park engine.nextTicket (.resolving wallet result)) =
      (((take wallet result engine).park engine.nextTicket (.resolving wallet result)).endCall
        engine.nextTicket).emit [.rejected wallet result.requestId .unknownRequest] := by
    simp only [resumeResolved, calls_parked]
  rw [serve, handleShardResult_parks assigned found, noSource, unresolved]
  exact resumes_of_unparked _ _ _ _ (PartialMap.remove_self ..)

/-- With a pipeline and a source nothing is refused. -/
theorem refusals_serve {pipeline : PipelineState} {source : ModelSource}
    (assigned : engine.assignments result.requestId = some (answeredAssignment wallet result))
    (found : engine.pipelines result.requestId = some pipeline)
    (resolved : answers.source = some source) :
    (serve sha256 registry wallet result answers engine).refusals = engine.refusals := by
  have there : ((take wallet result engine).park engine.nextTicket
      (.resolving wallet result)).pipelines result.requestId ≠ none := by
    change engine.pipelines result.requestId ≠ none
    rw [found]
    exact Option.some_ne_none _
  rw [serve, handleShardResult_parks assigned found, resolved, refusals_resumeJoined,
    refusals_resumeSized, refusals_resumeSubmitted, refusals_resumeResolved calls_parked there]
  exact refusals_append rfl rfl

theorem inner_of_refused {base : ShardEngine} {error : AppError}
    (own : answers.delegated = none)
    (served : serve sha256 registry wallet result answers engine =
      base.emit [.rejected wallet result.requestId error])
    (quiet : base.refusals = engine.refusals) :
    handleShardResultInner sha256 registry wallet result answers engine =
      (.error error, base.emit [.rejected wallet result.requestId error]) := by
  have errors : (base.emit [.rejected wallet result.requestId error]).refusals =
      engine.refusals ++ [error] := by
    rw [← quiet]
    exact List.filterMap_append
  simp only [handleShardResultInner, own, served, errors, List.drop_left]

theorem inner_of_silent (own : answers.delegated = none)
    (quiet : (serve sha256 registry wallet result answers engine).refusals = engine.refusals) :
    handleShardResultInner sha256 registry wallet result answers engine =
      (.ok (), serve sha256 registry wallet result answers engine) := by
  simp only [handleShardResultInner, own, quiet, List.drop_length]

theorem refusals_take : (take wallet result engine).refusals = engine.refusals :=
  refusals_append rfl rfl

theorem inner_of_no_assignment (own : answers.delegated = none)
    (nobody : engine.assignments result.requestId = none) :
    (handleShardResultInner sha256 registry wallet result answers engine).1 =
      .error .unknownRequest := by
  rw [inner_of_refused own (serve_of_no_assignment nobody) rfl]

/-- A call that loses the assignment returns an error, and that is all it does. -/
theorem inner_of_loses (loses : engine.LosesAssignment wallet result answers) :
    ∃ after, handleShardResultInner sha256 registry wallet result answers engine =
        (.error .unknownRequest, after) ∧ after.pipelines = engine.pipelines ∧
      after.assignments = engine.assignments.remove result.requestId := by
  rcases loses with ⟨own, assigned, lacks⟩
  cases found : engine.pipelines result.requestId with
  | none =>
      refine ⟨_, inner_of_refused own (serve_without_pipeline assigned found) refusals_take, ?_⟩
      exact ⟨rfl, rfl⟩
  | some pipeline =>
      rcases lacks with missing | noSource
      · rw [found] at missing
        cases missing
      · refine ⟨_, inner_of_refused own (serve_without_source assigned found noSource)
          (refusals_append rfl rfl), ?_⟩
        exact ⟨rfl, rfl⟩

theorem unchanged_of_error {error : AppError} {after : ShardEngine}
    (keeps : ¬ engine.LosesAssignment wallet result answers)
    (refused : handleShardResultInner sha256 registry wallet result answers engine =
      (.error error, after)) :
    after.pipelines = engine.pipelines ∧ after.assignments = engine.assignments := by
  cases own : answers.delegated with
  | some outcome =>
      simp only [handleShardResultInner, own] at refused
      cases refused
      exact ⟨rfl, rfl⟩
  | none =>
      by_cases assigned : engine.assignments result.requestId =
          some (answeredAssignment wallet result)
      · cases found : engine.pipelines result.requestId with
        | none => exact absurd ⟨own, assigned, .inl found⟩ keeps
        | some pipeline =>
            cases resolved : answers.source with
            | none => exact absurd ⟨own, assigned, .inr resolved⟩ keeps
            | some source =>
                rw [inner_of_silent own (refusals_serve assigned found resolved)] at refused
                cases refused
      · rcases @serve_unassigned sha256 registry wallet result answers engine assigned with
          ⟨_, served⟩
        rw [inner_of_refused own served rfl] at refused
        cases refused
        exact ⟨rfl, rfl⟩

/-- An error changes nothing unless the result was assigned and its pipeline or its
model source is missing; then it costs the assignment, and nothing else. -/
theorem handleShardResultInner_unchanged_iff (sha256 : Digest) (registry : MinerRegistry)
    (wallet : Wallet) (result : OpoiShardResult) (answers : Awaited) (engine : ShardEngine) :
    ((∀ error after, handleShardResultInner sha256 registry wallet result answers engine =
        (.error error, after) →
      after.pipelines = engine.pipelines ∧ after.assignments = engine.assignments) ↔
      ¬ engine.LosesAssignment wallet result answers) ∧
    (engine.LosesAssignment wallet result answers →
      ∃ after, handleShardResultInner sha256 registry wallet result answers engine =
        (.error .unknownRequest, after) ∧ after.pipelines = engine.pipelines ∧
        after.assignments = engine.assignments.remove result.requestId) := by
  refine ⟨⟨fun unchanged loses => ?_, fun keeps _ _ refused => unchanged_of_error keeps refused⟩,
    inner_of_loses⟩
  rcases @inner_of_loses sha256 registry wallet result answers engine loses with
    ⟨after, refused, -, removed⟩
  have kept := congrFun (unchanged _ after refused).2 result.requestId
  rw [removed, PartialMap.remove_self, loses.2.1] at kept
  cases kept

/-- The answers of a call that gets this model source and nothing else. -/
def answersWith (source : Option ModelSource) : Awaited :=
  ⟨none, source, false, false, none, none⟩

/-- The first shard of a running pipeline is answered while its model source cannot be
found.  The assignment is lost, and the same result is refused once the source is back. -/
theorem assignment_lost_without_source :
    let engine := (system id).execute new (soleStart soleRegistry 2 9)
    let refused := handleShardResultInner id soleRegistry "miner" (soleResult 0 0 none)
      (answersWith none) engine
    (system id).Run new (soleStart soleRegistry 2 9) engine ∧
      engine.assignments "r" = some ⟨"miner", 0, 0, none⟩ ∧
      refused.1 = .error .unknownRequest ∧ refused.2.assignments "r" = none ∧
      (handleShardResultInner id soleRegistry "miner" (soleResult 0 0 none)
        (answersWith (some soleSource)) refused.2).1 = .error .unknownRequest ∧
      (handleShardResultInner id soleRegistry "miner" (soleResult 0 0 none)
        (answersWith (some soleSource)) engine).1 = .ok () := by
  intro engine refused
  have started : (system id).Admits (fun _ _ => True) new (soleStart soleRegistry 2 9) :=
    ⟨⟨trivial, trivial⟩, ⟨⟨rfl, List.nodup_nil, nothing_stalled fun _ => rfl⟩, trivial⟩,
      ⟨rfl, trivial⟩, ⟨⟨_, _, rfl⟩, trivial⟩, ⟨⟨_, _, _, _, rfl⟩, trivial⟩,
      ⟨⟨_, _, _, _, _, rfl⟩, trivial⟩, ⟨⟨_, _, _, _, _, _, rfl⟩, trivial⟩, trivial⟩
  exact ⟨started.runWith, rfl, rfl, rfl, inner_of_no_assignment rfl rfl, rfl⟩

end ShardEngine

end StratumBridge.Shard
