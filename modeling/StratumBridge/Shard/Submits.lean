import StratumBridge.Shard.Credit

/-!
# One submission a shard

A shard's result is submitted on-chain on the last token, before its experts are
asked.  The submissions accepted are the shards up to the pipeline's position,
and one more while the experts of a boundary layer are at work, as long as no
step that was submitted is asked for again.
-/

namespace StratumBridge.Shard

open Data Rpc Wire Transition

/-- The shards a handler is past: one, if it is on its way to the next. -/
def Call.passed : Call → Nat
  | sizing step => if step.interior then 0 else 1
  | joining step => if step.interior then 0 else 1
  | _ => 0

namespace ShardEngine

/-- The result of the request whose submission an event reports accepted. -/
def submittedResult (engine : ShardEngine) (requestId : RequestId) :
    Event → Option OpoiShardResult
  | .submitted ticket true _ =>
      match engine.calls ticket with
      | some (.submitting _ result _) =>
          if result.requestId = requestId then some result else none
      | _ => none
  | _ => none

/-- The step asks again for a result that was accepted on-chain, or may have been:
its router selection is missing, its experts do not answer, or its handler is
dropped. -/
inductive RepeatsSubmit (engine : ShardEngine) (requestId : RequestId) : Stimulus → Prop
  | unselected {registry ticket stored wallet result source pipeline}
      (parked : engine.calls ticket = some (.submitting wallet result source))
      (about : result.requestId = requestId)
      (present : engine.pipelines requestId = some pipeline)
      (notLastShard : pipeline.pos + 1 ≠ pipeline.shards.length)
      (group : pipeline.expertGroupFor pipeline.pos ≠ none)
      (missing : result.routerSelection = none) :
      RepeatsSubmit engine requestId ⟨registry, .submitted ticket true stored⟩
  | unjoined {registry ticket step pipeline}
      (parked : engine.calls ticket = some (.joining step))
      (about : step.result.requestId = requestId)
      (present : engine.pipelines requestId = some pipeline)
      (lastToken : isLastToken pipeline = true) (isBoundary : step.interior = false) :
      RepeatsSubmit engine requestId ⟨registry, .joined ticket none⟩
  | unheard {registry ticket wallet result source}
      (parked : engine.calls ticket = some (.submitting wallet result source))
      (about : result.requestId = requestId) :
      RepeatsSubmit engine requestId ⟨registry, .dropped ticket⟩
  | abandoned {registry ticket call step pipeline} (parked : engine.calls ticket = some call)
      (isStep : call.step? = some step) (about : call.requestId = requestId)
      (present : engine.pipelines requestId = some pipeline)
      (lastToken : isLastToken pipeline = true) (isBoundary : step.interior = false) :
      RepeatsSubmit engine requestId ⟨registry, .dropped ticket⟩

/-- The dense shards of the request that is claimed have different indexes. -/
def ClaimsDistinct (requestId : RequestId) (engine : ShardEngine) (stimulus : Stimulus) : Prop :=
  ∀ req rest manifest promptHex graph source, stimulus.event = .pollClaim true false →
    engine.poll = .claiming req rest manifest promptHex graph source → req.requestId = requestId →
      ((denseShards graph).map ShardDescriptor.shardIndex).Nodup

/-- The shards of the request are distinct, and none is asked for again after
its submission. -/
structure SubmitGuard (requestId : RequestId) (engine : ShardEngine) (stimulus : Stimulus) :
    Prop where
  distinct : engine.ClaimsDistinct requestId stimulus
  onward : ¬ engine.RepeatsSubmit requestId stimulus

/-! ## The invariant -/

/-- The submissions recorded for a pipeline and its handler. -/
structure Recorded (pipeline : PipelineState) (passed : Nat) (record : List OpoiShardResult) :
    Prop where
  distinct : (pipeline.shards.map ShardDescriptor.shardIndex).Nodup
  inTime : pipeline.tokenIndex + 1 ≤ max 1 pipeline.maxTokens.toNat
  record : record.map OpoiShardResult.shardIndex =
    if isLastToken pipeline then
      (pipeline.shards.take (pipeline.pos + passed)).map ShardDescriptor.shardIndex
    else []

/-- The submissions of a request, its pipeline and its handler. -/
structure Submits (pipeline : Option PipelineState) (hand : Option Call)
    (record : List OpoiShardResult) : Prop where
  once : (record.map OpoiShardResult.shardIndex).Nodup
  place : ∀ current, pipeline = some current →
    Recorded current ((hand.map Call.passed).getD 0) record
  lastToken : ∀ current wallet result source, pipeline = some current →
    hand = some (.submitting wallet result source) → isLastToken current = true

section Step

variable {sha256 : Digest} {engine : ShardEngine} {requestId : RequestId}
variable {stimulus : Stimulus} {ticket : Ticket} {call : Call} {hand : Option Call}
variable {emitted : List Effect} {record : List OpoiShardResult} {passed : Nat}
variable {pipeline after : PipelineState}

/-- A pipeline at the same shard and token. -/
theorem Recorded.same (recorded : Recorded pipeline passed record)
    (place : SamePlace pipeline after) (maxTokens : after.maxTokens = pipeline.maxTokens) :
    Recorded after passed record := by
  have last : isLastToken after = isLastToken pipeline := by
    rw [isLastToken, isLastToken, maxTokens, place.tokenIndex]
  constructor
  · rw [place.shards]
    exact recorded.distinct
  · rw [place.tokenIndex, maxTokens]
    exact recorded.inTime
  · rw [last, place.shards, place.pos]
    exact recorded.record

theorem Recorded.contribute (recorded : Recorded pipeline passed record) (wallet : Wallet) :
    Recorded (contribute wallet pipeline) passed record :=
  recorded.same (samePlace_contribute ..) rfl

theorem maxTokens_of_dispatched {registry : MinerRegistry} {last : Option Wallet}
    (stored : dispatched registry last pipeline = some after) :
    after.maxTokens = pipeline.maxTokens := by
  unfold dispatched at stored
  split at stored
  · cases stored
    rfl
  · split at stored
    · split at stored
      · cases stored
        rfl
      · cases stored
    · split at stored
      · cases stored
        rfl
      · cases stored
        unfold openWalk
        split <;> rfl

theorem Submits.gone (once : (record.map OpoiShardResult.shardIndex).Nodup)
    (hand : Option Call) : Submits none hand record where
  once := once
  place := fun _ present => by cases present
  lastToken := fun _ _ _ _ present => by cases present

/-- A request whose handler returned. -/
theorem Recorded.rests (recorded : Recorded pipeline 0 record)
    (once : (record.map OpoiShardResult.shardIndex).Nodup) :
    Submits (some pipeline) none record := by
  constructor
  · exact once
  · rintro _ ⟨⟩
    exact recorded
  · rintro _ _ _ _ _ ⟨⟩

theorem Recorded.dispatched (recorded : Recorded pipeline 0 record)
    (once : (record.map OpoiShardResult.shardIndex).Nodup) (registry : MinerRegistry)
    (last : Option Wallet) : Submits (dispatched registry last pipeline) none record := by
  constructor
  · exact once
  · intro current stored
    exact recorded.same (samePlace_of_dispatched stored) (maxTokens_of_dispatched stored)
  · rintro _ _ _ _ _ ⟨⟩

/-- A request whose handler is at work on it. -/
theorem Recorded.handled (recorded : Recorded pipeline call.passed record)
    (once : (record.map OpoiShardResult.shardIndex).Nodup)
    (lastToken : ∀ wallet result source, call = .submitting wallet result source →
      isLastToken pipeline = true) : Submits (some pipeline) (some call) record := by
  constructor
  · exact once
  · rintro _ ⟨⟩
    exact recorded
  · rintro _ wallet result source ⟨⟩ ⟨⟩
    exact lastToken wallet result source rfl

/-- The relay goes on to the next shard. -/
theorem Recorded.nextShard (recorded : Recorded pipeline 1 record) (output : ShardOutputWire) :
    Recorded (nextShard pipeline output) 0 record :=
  ⟨recorded.distinct, recorded.inTime, recorded.record⟩

theorem Recorded.nextLayer (recorded : Recorded pipeline passed record) (layerIdx : Nat)
    (output : ShardOutputWire) : Recorded (nextLayer pipeline layerIdx output) passed record :=
  ⟨recorded.distinct, recorded.inTime, recorded.record⟩

/-- Before the last token nothing is submitted, wherever the pipeline is. -/
theorem Recorded.early (recorded : Recorded pipeline passed record)
    (early : isLastToken pipeline = false) (other : Nat) : Recorded pipeline other record := by
  have nothing := recorded.record
  rw [early] at nothing
  refine ⟨recorded.distinct, recorded.inTime, ?_⟩
  rw [early]
  exact nothing

theorem Recorded.nextToken (recorded : Recorded pipeline passed record)
    (early : isLastToken pipeline = false) (tokenId : TokenId) :
    Recorded (nextToken (recordToken pipeline tokenId) tokenId) 0 record := by
  have nothing := recorded.record
  rw [early] at nothing
  constructor
  · exact recorded.distinct
  · rw [isLastToken, decide_eq_false_iff_not] at early
    simp only [ShardEngine.nextToken, recordToken]
    omega
  · rw [nothing]
    simp [ShardEngine.nextToken]

/-- The result of the pipeline's shard is accepted on-chain. -/
theorem Recorded.submits (recorded : Recorded pipeline 0 record)
    (lastToken : isLastToken pipeline = true) {result : OpoiShardResult}
    (step : pipeline.stepKey? = some (answeredStep result)) :
    Recorded pipeline 1 (record ++ [result]) ∧
      ((record ++ [result]).map OpoiShardResult.shardIndex).Nodup := by
  obtain ⟨shard, found, key⟩ := Option.map_eq_some_iff.mp step
  have index : result.shardIndex = shard.shardIndex := (congrArg StepKey.shardIndex key).symm
  have inside := (List.getElem?_eq_some_iff.mp found).1
  have upTo : (record ++ [result]).map OpoiShardResult.shardIndex =
      (pipeline.shards.take (pipeline.pos + 1)).map ShardDescriptor.shardIndex := by
    have before := recorded.record
    rw [lastToken, if_pos rfl] at before
    rw [List.map_append, before, List.take_add_one, found, List.map_append, Option.toList_some,
      List.map_singleton, List.map_singleton, index]
    rfl
  constructor
  · exact ⟨recorded.distinct, recorded.inTime, by rw [lastToken, if_pos rfl, upTo]⟩
  · rw [upTo]
    exact recorded.distinct.sublist ((List.take_sublist _ _).map _)

/-- The handler stops short of the next shard. -/
theorem Recorded.stops (recorded : Recorded pipeline call.passed record)
    (onward : ∀ step, call.step? = some step → isLastToken pipeline = true →
      step.interior = true) : Recorded pipeline 0 record := by
  cases last : isLastToken pipeline with
  | false => exact recorded.early last 0
  | true =>
      cases call with
      | resolving wallet result => exact recorded
      | submitting wallet result source => exact recorded
      | sizing step => simpa [Call.passed, onward step rfl last] using recorded
      | joining step => simpa [Call.passed, onward step rfl last] using recorded

/-- The look-up of experts, at rest if the router selection is missing. -/
theorem Recorded.looksUp {interior : Bool} {wallet : Wallet} {result : OpoiShardResult}
    {source : ModelSource} {expertIds : List Nat} {layerIdx : Nat} {kept : Option PipelineState}
    {reparked : Option Call}
    (onward : Recorded pipeline (if interior then 0 else 1) record)
    (missing : result.routerSelection = none → Recorded pipeline 0 record)
    (once : (record.map OpoiShardResult.shardIndex).Nodup)
    (inside : pipeline.pos < pipeline.shards.length)
    (outcome : ExpertOutcome interior wallet result source expertIds layerIdx pipeline kept reparked
      emitted) : Submits kept reparked record := by
  cases outcome with
  | absent verdict => exact (missing (routerSelection_of_absent verdict)).rests once
  | malformed verdict => exact .gone once none
  | panicked outside =>
      rw [List.getElem?_eq_none_iff] at outside
      exact absurd inside (Nat.not_lt.mpr outside)
  | @sizing step isInterior sameWallet sameResult sameSource sameLayer verdict =>
      apply Recorded.handled _ once
      · rintro _ _ _ ⟨⟩
      · rw [Call.passed, isInterior]
        exact onward

/-- The completion of a step before the last token. -/
theorem Recorded.completes {registry : MinerRegistry} {last : Option Wallet} {wallet : Wallet}
    {result : OpoiShardResult} {source : ModelSource} {stored : Bool}
    {before assigned : Option ShardAssignment} {kept : Option PipelineState}
    {reparked : Option Call} (recorded : Recorded pipeline 0 record)
    (early : isLastToken pipeline = false)
    (once : (record.map OpoiShardResult.shardIndex).Nodup)
    (inside : pipeline.pos < pipeline.shards.length)
    (outcome : StepOutcome sha256 registry last before ticket wallet result source false stored
      pipeline kept assigned reparked emitted) : Submits kept reparked record := by
  cases outcome with
  | unanswered lastShard answer => exact .gone once none
  | finalized lastShard answer isLast wins => cases isLast
  | unattributed lastShard answer isLast nobody => cases isLast
  | nextToken lastShard answer notLast => exact (recorded.nextToken early _).dispatched once _ _
  | nextShard notLastShard dense =>
      exact ((recorded.early early 1).nextShard _).dispatched once _ _
  | experts notLastShard group outcome =>
      exact (recorded.early early 1).looksUp (fun _ => recorded) once inside outcome

/-- The completion of a step that was submitted. -/
theorem Recorded.completesLast {registry : MinerRegistry} {last : Option Wallet} {wallet : Wallet}
    {result : OpoiShardResult} {source : ModelSource} {stored : Bool}
    {before assigned : Option ShardAssignment} {kept : Option PipelineState}
    {reparked : Option Call} (recorded : Recorded pipeline 1 record)
    (once : (record.map OpoiShardResult.shardIndex).Nodup)
    (inside : pipeline.pos < pipeline.shards.length)
    (onward : pipeline.pos + 1 ≠ pipeline.shards.length →
      pipeline.expertGroupFor pipeline.pos ≠ none → result.routerSelection ≠ none)
    (outcome : StepOutcome sha256 registry last before ticket wallet result source true stored
      pipeline kept assigned reparked emitted) : Submits kept reparked record := by
  cases outcome with
  | unanswered lastShard answer => exact .gone once none
  | finalized lastShard answer isLast wins => exact .gone once none
  | unattributed lastShard answer isLast nobody => exact .gone once none
  | nextToken lastShard answer notLast => cases notLast
  | nextShard notLastShard dense => exact (recorded.nextShard _).dispatched once _ _
  | experts notLastShard group outcome =>
      apply recorded.looksUp _ once inside outcome
      exact fun missing => absurd missing (onward notLastShard (by simp [group]))

/-- A step at which no submission is accepted keeps the record, or starts it
over. -/
theorem Submits.next {before later : Option PipelineState} {assigned left : Option ShardAssignment}
    {reparked : Option Call} (submits : Submits before hand record)
    (holds : engine.Holds requestId before assigned hand)
    (guarded : engine.SubmitGuard requestId stimulus)
    (unseen : submittedResult engine requestId stimulus.event = none)
    (begins : .started requestId ∈ emitted →
      ∃ eligible, engine.Claims requestId eligible stimulus.event)
    (moves : HandStep sha256 engine requestId stimulus before assigned hand later left reparked
      emitted) :
    Submits later reparked (if .started requestId ∈ emitted then [] else record) := by
  have once := submits.once
  have goesOn : (∀ claimed eligible, stimulus.event ≠ .pollClaim claimed eligible) →
      Submits later reparked record →
        Submits later reparked (if .started requestId ∈ emitted then [] else record) := by
    intro notClaim kept
    rw [if_neg]
    · exact kept
    · intro starts
      obtain ⟨eligible, claims, -⟩ := begins starts
      exact notClaim true eligible claims
  cases moves with
  | idle fewer => simpa using submits
  | rejected => exact goesOn (by simp) submits
  | delegated => simpa using submits
  | accepted about step =>
      apply goesOn (by simp)
      apply Recorded.handled (submits.place _ rfl) once
      rintro _ _ _ ⟨⟩
  | unresolved parked => exact goesOn (by simp) ((submits.place _ rfl).rests once)
  | ungrouped parked => exact goesOn (by simp) (.gone once none)
  | interior parked resumes layer group outcome =>
      have recorded := (submits.place _ rfl).contribute
      exact goesOn (by simp) ((recorded _).looksUp (fun _ => recorded _) once holds.inRange outcome)
  | submitting parked lastToken finishes =>
      have recorded := (submits.place _ rfl).contribute
      exact goesOn (by simp) (Recorded.handled (recorded _) once fun _ _ _ _ => lastToken)
  | completed parked about notLastToken finishes outcome =>
      have recorded := (submits.place _ rfl).contribute
      exact goesOn (by simp) ((recorded _).completes notLastToken once holds.inRange outcome)
  | unsubmitted parked => exact goesOn (by simp) ((submits.place _ rfl).rests once)
  | submitted parked about outcome => simp [submittedResult, parked, about] at unseen
  | sized parked =>
      apply goesOn (by simp)
      apply Recorded.handled (submits.place _ rfl) once
      rintro _ _ _ ⟨⟩
  | @unjoined registry ticket step pipeline assigned parked =>
      have recorded : Recorded pipeline (Call.joining step).passed record := submits.place _ rfl
      apply goesOn (by simp)
      apply Recorded.rests _ once
      obtain ⟨ticket, found, about⟩ := (holds.hand _).mp rfl
      apply recorded.stops
      rintro _ ⟨⟩ last
      by_contra isBoundary
      exact guarded.onward (.unjoined parked about holds.pipeline last
        (Bool.eq_false_of_not_eq_true isBoundary))
  | @abandoned registry ticket call pipeline assigned parked about =>
      have recorded : Recorded pipeline call.passed record := submits.place _ rfl
      apply goesOn (by simp)
      apply Recorded.rests _ once
      apply recorded.stops
      intro step isStep last
      by_contra isBoundary
      exact guarded.onward (.abandoned parked isStep about holds.pipeline last
        (Bool.eq_false_of_not_eq_true isBoundary))
  | walked parked isInterior =>
      have recorded := submits.place _ rfl
      simp only [Option.map_some, Option.getD_some, Call.passed, isInterior, if_true] at recorded
      exact goesOn (by simp) ((recorded.nextLayer _ _).dispatched once _ _)
  | handedOver parked isBoundary =>
      have recorded := submits.place _ rfl
      simp only [Option.map_some, Option.getD_some, Call.passed, isBoundary] at recorded
      exact goesOn (by simp) ((recorded.nextShard _).dispatched once _ _)
  | redispatched => exact goesOn (by simp) ((submits.place _ rfl).dispatched once _ _)
  | @started registry last req rest manifest promptHex graph source polling about dense =>
      rw [if_pos List.mem_cons_self]
      have empty : (([] : List OpoiShardResult).map OpoiShardResult.shardIndex).Nodup := .nil
      apply Recorded.dispatched _ empty
      constructor
      · exact guarded.distinct req rest manifest promptHex graph source rfl polling about
      · exact le_max_left _ _
      · simp [initialPipeline]

theorem parked_of_submittedResult {event : Event} {result : OpoiShardResult}
    (seen : submittedResult engine requestId event = some result) :
    ∃ ticket stored wallet source, event = .submitted ticket true stored ∧
      engine.calls ticket = some (.submitting wallet result source) ∧
      result.requestId = requestId := by
  unfold submittedResult at seen
  split at seen
  · rename_i ticket stored
    split at seen
    · rename_i wallet other source parked
      split at seen
      · rename_i about
        cases seen
        exact ⟨ticket, stored, wallet, source, rfl, parked, about⟩
      · cases seen
    · cases seen
  · cases seen

/-- An accepted submission completes its step. -/
theorem submitted_outcome (sha256 : Digest) (registry : MinerRegistry) (stored : Bool)
    {wallet : Wallet} {result : OpoiShardResult} {source : ModelSource}
    (parked : engine.calls ticket = some (.submitting wallet result source))
    (present : engine.pipelines result.requestId = some pipeline) :
    ∃ reparked emitted,
      StepOutcome sha256 registry engine.lastAssigned (engine.assignments result.requestId) ticket
        wallet result source true stored pipeline
        ((next sha256 engine ⟨registry, .submitted ticket true stored⟩).pipelines result.requestId)
        ((next sha256 engine ⟨registry, .submitted ticket true stored⟩).assignments
          result.requestId) reparked emitted ∧
      (next sha256 engine ⟨registry, .submitted ticket true stored⟩).calls =
        setCall engine.calls ticket reparked := by
  rcases completeStep_outcome sha256 registry ticket wallet source true stored present with
    ⟨kept, assigned, reparked, emitted, acts, outcome⟩
  refine ⟨reparked, emitted, ?_⟩
  simp only [next, resumeSubmitted, parked, if_true, present]
  rw [acts.pipelines_self, acts.assignments_self]
  exact ⟨outcome, acts.calls⟩

/-- A step at which a submission is accepted records it. -/
theorem Submits.accepts {before later : Option PipelineState}
    {assigned left : Option ShardAssignment} {reparked : Option Call}
    (submits : Submits before hand record) (holds : engine.Holds requestId before assigned hand)
    (onward : ¬ engine.RepeatsSubmit requestId stimulus) {result : OpoiShardResult}
    (seen : submittedResult engine requestId stimulus.event = some result)
    (after : (ShardEngine.next sha256 engine stimulus).Holds requestId later left reparked) :
    Submits later reparked (record ++ [result]) := by
  rcases stimulus with ⟨registry, event⟩
  obtain ⟨ticket, stored, wallet, source, rfl, parked, about⟩ := parked_of_submittedResult seen
  have orderly := holds.sequential.orderly
  obtain ⟨pipeline, present, -⟩ := orderly.handled ticket _ parked about
  cases holds.pipeline.symm.trans present
  cases (holds.hand _).mpr ⟨ticket, parked, about⟩
  rcases (submits.place _ rfl).submits (submits.lastToken _ _ _ _ rfl rfl) holds.step with
    ⟨recorded, once⟩
  rcases submitted_outcome sha256 registry stored parked (about ▸ present) with
    ⟨next, emitted, outcome, calls⟩
  have own : ∀ call, next = some call → call.requestId = requestId := by
    rintro call rfl
    exact outcome.requestId.trans about
  cases (orderly.inHand_setCall parked about calls own).unique after.hand
  rw [about, after.pipeline] at outcome
  apply recorded.completesLast once holds.inRange _ outcome
  intro notLastShard group missing
  exact onward (.unselected parked about present notLastShard group missing)

end Step

/-! ## Runs -/

section Runs

variable {sha256 : Digest} {engine : ShardEngine} {requestId : RequestId}
variable {events : List Stimulus}

end Runs

end ShardEngine

end StratumBridge.Shard
