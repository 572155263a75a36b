import Mathlib.Data.Prod.Lex
import Mathlib.Order.WithBot
import StratumBridge.Shard.Hand
import StratumBridge.Shard.Walk

/-!
# What wallets are credited for

A result is counted for its wallet once its model source is known, before it is
submitted, before its router selection is looked at and before its experts
answer.  Where one of these fails the step is asked for again, and the result
stays counted.  Every count is a step the pipeline completed, or a result it
stalled on; the count in the hands of a handler will be one of the two.
-/

namespace StratumBridge.Shard

open Data Rpc Wire Transition

/-- The place of a step: its token, its shard and its layer, in the order in
which they are computed. -/
abbrev Place := Nat ×ₗ Nat ×ₗ WithBot Nat

/-- The step a pipeline is at. -/
def PipelineState.place (pipeline : PipelineState) : Place :=
  toLex (pipeline.tokenIndex,
    toLex (pipeline.pos, pipeline.moeLayerWalk.elim ⊥ fun walk => WithBot.some walk.1))

/-- The ticket of the handler an event resumes. -/
def Event.ticket? : Event → Option Ticket
  | resolved ticket _ => some ticket
  | submitted ticket _ _ => some ticket
  | sized ticket _ => some ticket
  | joined ticket _ => some ticket
  | _ => none

/-- The wallet whose count is in the hands of a handler. -/
def Call.owed : Call → List Wallet
  | resolving _ _ => []
  | submitting wallet _ _ => [wallet]
  | sizing step => [step.wallet]
  | joining step => [step.wallet]

/-- What became of the results of a request since its pipeline was started, the
newest first: the steps completed with one, and the wallets of those it stalled
on. -/
structure Tally where
  completed : List (Wallet × Place)
  stalled : List Wallet

/-- The wallets of all results. -/
def Tally.wallets (tally : Tally) : List Wallet :=
  tally.completed.map Prod.fst ++ tally.stalled

namespace ShardEngine

/-- The tally after one more effect of an event. -/
def tallyEffect (engine : ShardEngine) (requestId : RequestId) (event : Event) (tally : Tally) :
    Effect → Tally
  | .started _ => ⟨[], []⟩
  | .advanced ticket _ | .walked ticket _ =>
      match engine.calls ticket, engine.pipelines requestId with
      | some call, some pipeline =>
          { tally with completed := (call.wallet, pipeline.place) :: tally.completed }
      | _, _ => tally
  | .stalled _ =>
      match event.ticket?.bind engine.calls with
      | some call => { tally with stalled := call.wallet :: tally.stalled }
      | none => tally
  | _ => tally

/-- The wallets whose counts were in the hands of the handler an event drops. -/
def forsaken (engine : ShardEngine) (requestId : RequestId) : Event → List Wallet
  | .dropped ticket =>
      match engine.calls ticket with
      | some call => if call.requestId = requestId then call.owed else []
      | none => []
  | _ => []

/-- The tally after the effects of one event.  A request stalls on the result of a
dropped handler as well. -/
def tallyStep (engine : ShardEngine) (requestId : RequestId) (event : Event)
    (emitted : List Effect) (tally : Tally) : Tally :=
  let told := emitted.foldl (tallyEffect engine requestId event) tally
  { told with stalled := engine.forsaken requestId event ++ told.stalled }

section Progress

variable {registry : MinerRegistry} {last : Option Wallet} {pipeline after : PipelineState}

theorem place_le_openWalk (shard : ShardDescriptor) (wallet : Wallet)
    (resting : pipeline.moeLayerWalk = none) :
    pipeline.place ≤ (openWalk pipeline shard wallet).place := by
  unfold openWalk
  split
  · rw [PipelineState.place, PipelineState.place, resting, Prod.Lex.toLex_le_toLex]
    refine .inr ⟨rfl, ?_⟩
    rw [Prod.Lex.toLex_le_toLex]
    exact .inr ⟨rfl, bot_le⟩
  · exact le_rfl

/-- A dispatch leaves the counts alone and takes no step back. -/
theorem place_le_dispatched (stored : dispatched registry last pipeline = some after) :
    after.contributions = pipeline.contributions ∧ pipeline.place ≤ after.place := by
  unfold dispatched at stored
  split at stored
  · cases stored
    exact ⟨rfl, le_rfl⟩
  · split at stored
    · split at stored
      · cases stored
        exact ⟨rfl, le_rfl⟩
      · cases stored
    · rename_i resting
      split at stored
      · cases stored
        exact ⟨rfl, le_rfl⟩
      · rename_i wallet picked
        cases stored
        refine ⟨?_, place_le_openWalk _ wallet resting⟩
        unfold openWalk
        split <;> rfl

theorem place_lt_nextShard (pipeline : PipelineState) (output : ShardOutputWire) :
    pipeline.place < (nextShard pipeline output).place := by
  rw [PipelineState.place, PipelineState.place, Prod.Lex.toLex_lt_toLex]
  refine .inr ⟨rfl, ?_⟩
  rw [Prod.Lex.toLex_lt_toLex]
  exact .inl (Nat.lt_succ_self _)

theorem place_lt_nextToken (pipeline : PipelineState) (tokenId : TokenId) :
    pipeline.place < (nextToken pipeline tokenId).place := by
  rw [PipelineState.place, PipelineState.place, Prod.Lex.toLex_lt_toLex]
  exact .inl (Nat.lt_succ_self _)

theorem place_lt_nextLayer {layerIdx : Nat} (output : ShardOutputWire)
    (walking : pipeline.moeLayerWalk.map Prod.fst = some layerIdx) :
    pipeline.place < (nextLayer pipeline layerIdx output).place := by
  obtain ⟨walk, walks, rfl⟩ := Option.map_eq_some_iff.mp walking
  rw [PipelineState.place, PipelineState.place, Prod.Lex.toLex_lt_toLex]
  refine .inr ⟨rfl, ?_⟩
  rw [Prod.Lex.toLex_lt_toLex]
  refine .inr ⟨rfl, ?_⟩
  simp only [nextLayer, walks, Option.map_some, Option.elim_some]
  exact WithBot.coe_lt_coe.mpr (Nat.lt_succ_self _)

end Progress

/-! ## The tally of one event -/

section Effects

variable {engine : ShardEngine} {requestId : RequestId} {event : Event} {tally : Tally}
variable {ticket : Ticket} {call : Call} {pipeline : PipelineState}

theorem foldl_tallyEffect_of_isLine {effects : List Effect}
    (lines : ∀ effect ∈ effects, effect.isLine = true) :
    effects.foldl (tallyEffect engine requestId event) tally = tally := by
  induction effects with
  | nil => rfl
  | cons effect effects ih =>
      obtain ⟨line, rest⟩ := List.forall_mem_cons.mp lines
      have untold : tallyEffect engine requestId event tally effect = tally := by
        cases effect <;> first | rfl | cases line
      rw [List.foldl_cons, untold]
      exact ih rest

@[simp]
theorem tallyEffect_dispatchLines (registry : MinerRegistry) (last : Option Wallet)
    (about : RequestId) (source : ModelSource) (pipeline : PipelineState) :
    (dispatchLines registry last about source pipeline).foldl
      (tallyEffect engine requestId event) tally = tally :=
  foldl_tallyEffect_of_isLine fun _ => isLine_of_mem_dispatchLines

theorem tallyEffect_advanced (parked : engine.calls ticket = some call)
    (present : engine.pipelines requestId = some pipeline) (about : RequestId) :
    tallyEffect engine requestId event tally (.advanced ticket about) =
      { tally with completed := (call.wallet, pipeline.place) :: tally.completed } := by
  simp only [tallyEffect, parked, present]

theorem tallyEffect_walked (parked : engine.calls ticket = some call)
    (present : engine.pipelines requestId = some pipeline) (about : RequestId) :
    tallyEffect engine requestId event tally (.walked ticket about) =
      { tally with completed := (call.wallet, pipeline.place) :: tally.completed } := by
  simp only [tallyEffect, parked, present]

theorem forsaken_of_untouched {stimulus : Stimulus}
    (untouched : ∀ ticket, stimulus.event = .dropped ticket → ∀ call,
      engine.calls ticket = some call → call.requestId ≠ requestId) :
    engine.forsaken requestId stimulus.event = [] := by
  cases drops : stimulus.event with
  | dropped ticket =>
      cases parked : engine.calls ticket with
      | none => simp [forsaken, parked]
      | some call => simp [forsaken, parked, untouched ticket drops call parked]
  | _ => rfl

theorem forsaken_of_dropped (parked : engine.calls ticket = some call)
    (about : call.requestId = requestId) :
    engine.forsaken requestId (.dropped ticket) = call.owed := by
  simp [forsaken, parked, about]

theorem tallyEffect_stalled (resumes : event.ticket? = some ticket)
    (parked : engine.calls ticket = some call) (about : RequestId) :
    tallyEffect engine requestId event tally (.stalled about) =
      { tally with stalled := call.wallet :: tally.stalled } := by
  simp only [tallyEffect, resumes, Option.bind_some, parked]

end Effects

/-! ## The invariant -/

/-- The tally of a request accounts for the counts of its pipeline.  The steps
completed lie behind the pipeline, each after those before it; and a counted
result that is handled is the one count in excess. -/
structure Accounted (pipeline : Option PipelineState) (hand : Option Call) (tally : Tally) :
    Prop where
  ordered : (tally.completed.map Prod.snd).Pairwise (· > ·)
  behind : ∀ current, pipeline = some current →
    ∀ place ∈ tally.completed.map Prod.snd, place < current.place
  tallies : ∀ current, pipeline = some current →
    current.contributions.Tallies ((hand.map Call.owed).getD [] ++ tally.wallets)
  layered : ∀ call step, hand = some call → call.step? = some step → step.interior = true →
    step.result.moeLayerStep = some step.layerIdx

section Step

variable {sha256 : Digest} {engine : ShardEngine} {requestId : RequestId}
variable {stimulus : Stimulus} {event : Event} {ticket : Ticket} {call : Call} {hand : Option Call}
variable {emitted : List Effect} {tally : Tally} {pipeline counted later : PipelineState}

theorem Accounted.gone (accounted : Accounted (some pipeline) hand tally) :
    Accounted none none tally where
  ordered := accounted.ordered
  behind := fun _ present => by cases present
  tallies := fun _ present => by cases present
  layered := fun _ _ isHand => by cases isHand

/-- The handled result completes its step, and the pipeline is dispatched. -/
theorem Accounted.advances (accounted : Accounted (some pipeline) hand tally)
    {wallet : Wallet} {advanced : PipelineState} (ahead : pipeline.place < advanced.place)
    (told : advanced.contributions.Tallies (wallet :: tally.wallets))
    (registry : MinerRegistry) (last : Option Wallet) :
    Accounted (dispatched registry last advanced) none
      { tally with completed := (wallet, pipeline.place) :: tally.completed } := by
  constructor
  · exact List.pairwise_cons.mpr ⟨accounted.behind pipeline rfl, accounted.ordered⟩
  · intro current stored place mem
    have further := (place_le_dispatched stored).2
    rcases List.mem_cons.mp mem with rfl | earlier
    · exact ahead.trans_le further
    · exact ((accounted.behind pipeline rfl place earlier).trans ahead).trans_le further
  · intro current stored
    rw [(place_le_dispatched stored).1]
    exact told
  · rintro _ _ ⟨⟩

/-- The handled result completes the last step, and the pipeline is gone. -/
theorem Accounted.finishes (accounted : Accounted (some pipeline) hand tally) (wallet : Wallet) :
    Accounted none none
      { tally with completed := (wallet, pipeline.place) :: tally.completed } where
  ordered := List.pairwise_cons.mpr ⟨accounted.behind pipeline rfl, accounted.ordered⟩
  behind := fun _ present => by cases present
  tallies := fun _ present => by cases present
  layered := fun _ _ isHand => by cases isHand

/-- The pipeline stalls on the handled result. -/
theorem Accounted.stalls (accounted : Accounted (some pipeline) hand tally)
    (place : counted.place = pipeline.place) {wallet : Wallet}
    (told : counted.contributions.Tallies (wallet :: tally.wallets)) :
    Accounted (some counted) none { tally with stalled := wallet :: tally.stalled } := by
  constructor
  · exact accounted.ordered
  · rintro _ ⟨⟩
    rw [place]
    exact accounted.behind pipeline rfl
  · rintro _ ⟨⟩
    exact told.perm List.perm_middle.symm
  · rintro _ _ ⟨⟩

/-- The handler is dropped, with the count it had in hand. -/
theorem Accounted.abandoned (accounted : Accounted (some pipeline) (some call) tally) :
    Accounted (some pipeline) none { tally with stalled := call.owed ++ tally.stalled } where
  ordered := accounted.ordered
  behind := accounted.behind
  tallies := by
    intro current present
    refine (accounted.tallies current present).perm ?_
    simp only [Tally.wallets, Option.map_some, Option.getD_some, Option.map_none,
      Option.getD_none, List.nil_append, ← List.append_assoc]
    exact (List.perm_append_comm).append_right _
  layered := fun _ _ isHand => by cases isHand

/-- The handler of a counted result parks again. -/
theorem Accounted.goesOn (accounted : Accounted (some pipeline) hand tally)
    (place : counted.place = pipeline.place)
    (told : counted.contributions.Tallies (call.owed ++ tally.wallets))
    (layered : ∀ step, call.step? = some step → step.interior = true →
      step.result.moeLayerStep = some step.layerIdx) :
    Accounted (some counted) (some call) tally := by
  constructor
  · exact accounted.ordered
  · rintro _ ⟨⟩
    rw [place]
    exact accounted.behind pipeline rfl
  · rintro _ ⟨⟩
    exact told
  · rintro _ step ⟨⟩
    exact layered step

/-- The look-up of experts keeps a request accounted for. -/
theorem Accounted.looksUp (accounted : Accounted (some pipeline) hand tally)
    (inside : counted.pos < counted.shards.length) {wallet : Wallet}
    (parked : engine.calls ticket = some call) (ofWallet : call.wallet = wallet)
    (resumes : event.ticket? = some ticket) (place : counted.place = pipeline.place)
    (told : counted.contributions.Tallies (wallet :: tally.wallets)) {interior : Bool}
    {result : OpoiShardResult} {source : ModelSource} {expertIds : List Nat} {layerIdx : Nat}
    (layered : interior = true → result.moeLayerStep = some layerIdx)
    {kept : Option PipelineState} {reparked : Option Call}
    (outcome : ExpertOutcome interior wallet result source expertIds layerIdx counted kept reparked
      emitted) :
    Accounted kept reparked (emitted.foldl (tallyEffect engine requestId event) tally) := by
  cases outcome with
  | absent verdict =>
      rw [List.foldl_cons, tallyEffect_stalled resumes parked, ofWallet]
      exact accounted.stalls place told
  | malformed verdict => exact accounted.gone
  | panicked outside =>
      rw [List.getElem?_eq_none_iff] at outside
      exact absurd inside (Nat.not_lt.mpr outside)
  | @sizing step isInterior sameWallet sameResult sameSource sameLayer verdict =>
      apply accounted.goesOn place
      · rw [Call.owed, sameWallet]
        exact told
      · rintro _ ⟨⟩ walks
        rw [sameResult, sameLayer]
        exact layered (isInterior.symm.trans walks)

/-- The completion of a step keeps a request accounted for. -/
theorem Accounted.completes (accounted : Accounted (some pipeline) hand tally)
    (present : engine.pipelines requestId = some pipeline)
    (inside : counted.pos < counted.shards.length) {wallet : Wallet}
    (parked : engine.calls ticket = some call) (ofWallet : call.wallet = wallet)
    (resumes : event.ticket? = some ticket) (place : counted.place = pipeline.place)
    (told : counted.contributions.Tallies (wallet :: tally.wallets))
    {registry : MinerRegistry} {last : Option Wallet} {result : OpoiShardResult}
    {source : ModelSource} {lastToken stored : Bool} {before assigned : Option ShardAssignment}
    {kept : Option PipelineState} {reparked : Option Call}
    (outcome : StepOutcome sha256 registry last before ticket wallet result source lastToken stored
      counted kept assigned reparked emitted) :
    Accounted kept reparked (emitted.foldl (tallyEffect engine requestId event) tally) := by
  cases outcome with
  | unanswered lastShard answer => exact accounted.gone
  | finalized lastShard answer isLast wins =>
      rw [List.foldl_cons, tallyEffect_advanced parked present]
      exact accounted.finishes _
  | unattributed lastShard answer isLast nobody =>
      rw [List.foldl_cons, tallyEffect_advanced parked present]
      exact accounted.finishes _
  | nextToken lastShard answer notLast =>
      rw [List.foldl_cons, tallyEffect_advanced parked present, tallyEffect_dispatchLines, ofWallet]
      apply accounted.advances
      · exact place ▸ place_lt_nextToken (recordToken counted _) _
      · exact told
  | nextShard notLastShard dense =>
      rw [List.foldl_cons, tallyEffect_advanced parked present, tallyEffect_dispatchLines, ofWallet]
      apply accounted.advances
      · exact place ▸ place_lt_nextShard counted _
      · exact told
  | experts notLastShard group outcome =>
      exact accounted.looksUp inside parked ofWallet resumes place told
        (fun isTrue => absurd isTrue Bool.false_ne_true) outcome

/-- The effects of a step keep a request accounted for, unless a handler is dropped. -/
theorem Accounted.told {before after : Option PipelineState}
    {assigned left : Option ShardAssignment} {reparked : Option Call}
    (accounted : Accounted before hand tally) (holds : engine.Holds requestId before assigned hand)
    (moves : HandStep sha256 engine requestId stimulus before assigned hand after left reparked
      emitted) (goesOn : ∀ ticket, stimulus.event ≠ .dropped ticket) :
    Accounted after reparked
      (emitted.foldl (tallyEffect engine requestId stimulus.event) tally) := by
  cases moves with
  | idle fewer untouched => exact accounted
  | rejected => exact accounted
  | delegated => exact accounted
  | accepted about step =>
      exact ⟨accounted.ordered, accounted.behind, accounted.tallies, by rintro _ _ ⟨⟩ ⟨⟩⟩
  | unresolved parked =>
      exact ⟨accounted.ordered, accounted.behind, accounted.tallies, by rintro _ _ ⟨⟩⟩
  | ungrouped parked => exact accounted.gone
  | interior parked resumes layer group outcome =>
      apply accounted.looksUp _ parked rfl rfl _ _ (fun _ => layer) outcome
      · exact holds.inRange
      · rfl
      · exact (accounted.tallies _ rfl).credit _
  | @submitting _ _ _ wallet _ pipeline parked lastToken finishes =>
      have place : (contribute wallet pipeline).place = pipeline.place := rfl
      apply accounted.goesOn place
      · exact (accounted.tallies _ rfl).credit _
      · rintro _ ⟨⟩
  | completed parked about notLastToken finishes outcome =>
      apply accounted.completes holds.pipeline _ parked rfl rfl _ _ outcome
      · exact holds.inRange
      · rfl
      · exact (accounted.tallies _ rfl).credit _
  | unsubmitted parked =>
      rw [List.foldl_cons, tallyEffect_stalled rfl parked]
      exact accounted.stalls rfl (accounted.tallies _ rfl)
  | submitted parked about outcome =>
      exact accounted.completes holds.pipeline holds.inRange parked rfl rfl rfl
        (accounted.tallies _ rfl) outcome
  | sized parked =>
      apply accounted.goesOn rfl
      · exact accounted.tallies _ rfl
      · rintro _ ⟨⟩
        exact accounted.layered _ _ rfl rfl
  | unjoined parked =>
      rw [List.foldl_cons, tallyEffect_stalled rfl parked]
      exact accounted.stalls rfl (accounted.tallies _ rfl)
  | abandoned parked about => exact absurd rfl (goesOn _)
  | walked parked isInterior =>
      have layer := accounted.layered _ _ rfl rfl isInterior
      have told := accounted.tallies _ rfl
      rw [List.foldl_cons, tallyEffect_walked parked holds.pipeline, tallyEffect_dispatchLines]
      apply accounted.advances
      · exact place_lt_nextLayer _ (holds.walk.trans layer)
      · exact told
  | handedOver parked isBoundary =>
      have told := accounted.tallies _ rfl
      rw [List.foldl_cons, tallyEffect_advanced parked holds.pipeline, tallyEffect_dispatchLines]
      apply accounted.advances
      · exact place_lt_nextShard _ _
      · exact told
  | redispatched =>
      rw [tallyEffect_dispatchLines]
      constructor
      · exact accounted.ordered
      · intro current stored place mem
        exact (accounted.behind _ rfl place mem).trans_le (place_le_dispatched stored).2
      · intro current stored
        rw [(place_le_dispatched stored).1]
        exact accounted.tallies _ rfl
      · rintro _ _ ⟨⟩
  | started polling about dense =>
      rw [List.foldl_cons, tallyEffect_dispatchLines]
      constructor
      · exact .nil
      · intro current stored place mem
        cases mem
      · intro current stored
        rw [(place_le_dispatched stored).1]
        exact Contributions.tallies_empty
      · rintro _ _ ⟨⟩

/-- Every step keeps a request accounted for. -/
theorem Accounted.next {before after : Option PipelineState}
    {assigned left : Option ShardAssignment} {reparked : Option Call}
    (accounted : Accounted before hand tally) (holds : engine.Holds requestId before assigned hand)
    (moves : HandStep sha256 engine requestId stimulus before assigned hand after left reparked
      emitted) :
    Accounted after reparked (tallyStep engine requestId stimulus.event emitted tally) := by
  by_cases drops : ∃ ticket, stimulus.event = .dropped ticket
  · rcases stimulus with ⟨registry, event⟩
    rcases drops with ⟨ticket, rfl⟩
    cases moves with
    | idle fewer untouched =>
        rw [tallyStep, forsaken_of_untouched untouched]
        exact accounted
    | abandoned parked about =>
        rw [tallyStep, forsaken_of_dropped parked about]
        exact accounted.abandoned
  · push Not at drops
    rw [tallyStep, forsaken_of_untouched fun ticket dropped => absurd dropped (drops ticket)]
    exact accounted.told holds moves drops

/-! ## Stalls -/

/-- The step stalls the request on a result that is counted: a result for the
experts carries no router selection, its submission fails, its experts do not
answer, or its handler is dropped. -/
inductive StallsCounted (engine : ShardEngine) (requestId : RequestId) : Stimulus → Prop
  | unselected {registry ticket source wallet result pipeline}
      (parked : engine.calls ticket = some (.resolving wallet result))
      (about : result.requestId = requestId)
      (present : engine.pipelines requestId = some pipeline)
      (routed : Resumes pipeline result ∨
        isLastToken pipeline = false ∧ pipeline.pos + 1 ≠ pipeline.shards.length)
      (group : pipeline.expertGroupFor pipeline.pos ≠ none)
      (missing : result.routerSelection = none) :
      StallsCounted engine requestId ⟨registry, .resolved ticket (some source)⟩
  | unselectedSubmitted {registry ticket stored wallet result source pipeline}
      (parked : engine.calls ticket = some (.submitting wallet result source))
      (about : result.requestId = requestId)
      (present : engine.pipelines requestId = some pipeline)
      (notLastShard : pipeline.pos + 1 ≠ pipeline.shards.length)
      (group : pipeline.expertGroupFor pipeline.pos ≠ none)
      (missing : result.routerSelection = none) :
      StallsCounted engine requestId ⟨registry, .submitted ticket true stored⟩
  | unsubmitted {registry ticket stored wallet result source}
      (parked : engine.calls ticket = some (.submitting wallet result source))
      (about : result.requestId = requestId) :
      StallsCounted engine requestId ⟨registry, .submitted ticket false stored⟩
  | unjoined {registry ticket step} (parked : engine.calls ticket = some (.joining step))
      (about : step.result.requestId = requestId) :
      StallsCounted engine requestId ⟨registry, .joined ticket none⟩
  | abandoned {registry ticket call} (parked : engine.calls ticket = some call)
      (about : call.requestId = requestId) (counted : call.owed ≠ []) :
      StallsCounted engine requestId ⟨registry, .dropped ticket⟩

theorem routerSelection_of_absent {expertIds : List Nat} {result : OpoiShardResult}
    (verdict : routerVerdict expertIds result = .absent) : result.routerSelection = none := by
  unfold routerVerdict at verdict
  split at verdict
  · assumption
  · split at verdict
    · cases verdict
    · split at verdict
      · cases verdict
      · split at verdict <;> cases verdict

/-- The step records a request as a row: its last result was submitted, and the
row goes to the wallet its counts say. -/
theorem Change.finalizes {before later : Option PipelineState}
    {assigned : Option ShardAssignment} {calls : PartialMap Ticket Call} {row : NewSubmission}
    {inserted : Bool}
    (change : Change sha256 engine requestId stimulus before later assigned calls emitted)
    (present : engine.pipelines requestId = before)
    (created : .createSubmission row inserted ∈ emitted) :
    ∃ ticket wallet result source pipeline,
      stimulus.event = .submitted ticket true inserted ∧
      engine.calls ticket = some (.submitting wallet result source) ∧
      result.requestId = requestId ∧ engine.pipelines requestId = some pipeline ∧
      pipeline.pos + 1 = pipeline.shards.length ∧
      pipeline.contributions.winner = some row.minerWallet ∧
      (∃ tokenId, result.nextTokenId = some tokenId ∧
        row = finalRow sha256 requestId (recordToken pipeline tokenId) row.minerWallet) ∧
      emitted = [.advanced ticket requestId, .createSubmission row inserted] := by
  cases change with
  | lost parked about quiet => rcases quiet with rfl | rfl <;> simp at created
  | interior parked about layer found resumes group outcome =>
      cases outcome <;> simp at created
  | completed parked about notLastToken outcome finishes =>
      cases outcome with
      | finalized lastShard answer isLast wins => cases isLast
      | experts notLastShard group outcome => cases outcome <;> simp at created
      | _ => simp at created
  | submitted parked about outcome =>
      cases outcome with
      | finalized lastShard answer isLast wins =>
          simp only [List.mem_cons, reduceCtorEq, List.not_mem_nil, or_false, false_or,
            Effect.createSubmission.injEq] at created
          rcases created with ⟨rfl, rfl⟩
          rw [about]
          exact ⟨_, _, _, _, _, rfl, parked, about, present, lastShard, wins, ⟨_, answer, rfl⟩, rfl⟩
      | experts notLastShard group outcome => cases outcome <;> simp at created
      | _ => simp at created
  | _ => simp at created

end Step

/-! ## Runs -/

section Runs

variable {sha256 : Digest} {engine : ShardEngine} {requestId : RequestId}
variable {events : List Stimulus} {stimulus : Stimulus}

end Runs

/-! ## A request over two layers -/

/-- Two layers in two ranges, the first one with an expert. -/
def stallGraph : ModelGraph :=
  ⟨[⟨0, "DENSE", some 0, some 1, none⟩, ⟨1, "DENSE", some 1, some 2, none⟩,
    ⟨2, "EXPERT", some 0, some 1, some 7⟩]⟩

/-- The guard of the example run: nothing stalls it once counted, and what is
claimed has the two layers. -/
structure CountedGuard (engine : ShardEngine) (stimulus : Stimulus) : Prop where
  settled : engine.settled stimulus = true
  answers : engine.AnswersWalk "r" stimulus
  goesOn : ¬ engine.StallsCounted "r" stimulus
  claims : ∀ req rest manifest promptHex graph source, stimulus.event = .pollClaim true false →
    engine.poll = .claiming req rest manifest promptHex graph source → graph = stallGraph

theorem CountedGuard.serialAt {engine : ShardEngine} {stimulus : Stimulus}
    (met : engine.CountedGuard stimulus) (fresh : engine.TicketsFresh) :
    engine.SerialAt "r" stimulus :=
  serialAt_of_answersWalk (oneByOne_of_settled fresh met.settled) met.answers

end ShardEngine

end StratumBridge.Shard
