import StratumBridge.Shard.Serial
import StratumBridge.Shard.Sessions

/-!
# Outstanding steps of the shard engine

The tick dispatches every pipeline without an assignment, so an assignment that stays
has to be for the step the pipeline waits for, at a wallet that can answer it.  A
dispatch that finds nobody sends nothing and returns.  It leaves the placeholder of an
expert step where it is, and nothing is out for the pipeline from then on.
-/

namespace StratumBridge.Shard

open Data Rpc Wire Transition

/-- The wallet a dispatch of a pipeline goes to. -/
def PipelineState.recipient? (registry : MinerRegistry) (last : Option Wallet)
    (pipeline : PipelineState) : Option Wallet :=
  (pipeline.shards[pipeline.pos]?).bind fun _ =>
    match pipeline.moeLayerWalk with
    | some (_, pinned) => if (registry.get pinned).isSome then some pinned else none
    | none => registry.pickNext last

/-- A dispatch of the pipeline leaves it and its assignment alone. -/
def PipelineState.Unsent (registry : MinerRegistry) (last : Option Wallet)
    (pipeline : PipelineState) : Prop :=
  pipeline.shards[pipeline.pos]? = none ∨
    pipeline.moeLayerWalk = none ∧ registry.pickNext last = none

namespace ShardEngine

/-- A handler of the request waits for its experts. -/
def Joining (engine : ShardEngine) (requestId : RequestId) : Prop :=
  ∃ ticket step, engine.calls ticket = some (.joining step) ∧ step.result.requestId = requestId

/-- A handler of the request waits for its experts, and goes on doing so. -/
def StaysJoining (engine : ShardEngine) (requestId : RequestId) (event : Event) : Prop :=
  ∃ ticket step, engine.calls ticket = some (.joining step) ∧
    step.result.requestId = requestId ∧ (∀ output, event ≠ .joined ticket output) ∧
      event ≠ .dropped ticket

/-- What the dropped handler leaves behind for its request goes with the wallet, or another
handler still has to end. -/
def Releases (engine : ShardEngine) (requestId : RequestId) (wallet : Wallet) (ticket : Ticket) :
    Prop :=
  ∀ call assignment, engine.calls ticket = some call → call.requestId = requestId →
    engine.assignments requestId = some assignment →
      assignment.wallet = wallet ∨ engine.StaysJoining requestId (.dropped ticket)

/-- The wallet is assigned a step of a pipeline, and not as a placeholder. -/
def Engaged (engine : ShardEngine) (requestId : RequestId) (wallet : Wallet) : Prop :=
  ∃ pipeline assignment, engine.pipelines requestId = some pipeline ∧
    engine.assignments requestId = some assignment ∧ ¬ engine.Joining requestId ∧
    assignment.wallet = wallet

/-- The conditions on a step under which what it sends for the request goes to wallets
that are served: the recipient of a dispatch is, and where there is none, no assignment is
left behind, unless another handler still has to end. -/
structure TendGuard (served : Wallet → Prop) (requestId : RequestId) (engine : ShardEngine)
    (stimulus : Stimulus) : Prop where
  reached : ∀ pipeline wallet, Dispatching engine requestId stimulus.event pipeline →
    pipeline.recipient? stimulus.registry engine.lastAssigned = some wallet → served wallet
  vacant : ∀ pipeline, Dispatching engine requestId stimulus.event pipeline →
    pipeline.Unsent stimulus.registry engine.lastAssigned →
      engine.assignments requestId = none ∨ engine.StaysJoining requestId stimulus.event

/-- A boundary layer is handed over to a shard the pipeline has. -/
def HandsOverInside (engine : ShardEngine) (stimulus : Stimulus) : Prop :=
  ∀ ticket output step pipeline, stimulus.event = .joined ticket (some output) →
    engine.calls ticket = some (.joining step) → step.interior = false →
      engine.pipelines step.result.requestId = some pipeline →
        pipeline.pos + 1 < pipeline.shards.length

/-- No tick has died, and every pipeline has the shard it is at. -/
structure Inside (engine : ShardEngine) : Prop where
  ticking : engine.poll ≠ .stopped
  within : ∀ requestId pipeline, engine.pipelines requestId = some pipeline →
    pipeline.pos < pipeline.shards.length

/-- What is assigned is the current step, at a wallet that is served, or the placeholder
of a handler that waits for its experts. -/
def Tended (served : Wallet → Prop) (engine : ShardEngine) (requestId : RequestId) : Prop :=
  ∀ pipeline assignment, engine.pipelines requestId = some pipeline →
    engine.assignments requestId = some assignment →
      engine.Joining requestId ∨
        pipeline.stepKey? = some assignment.stepKey ∧ served assignment.wallet

/-- The tick only claims requests with dense shards. -/
def ClaimsDense (engine : ShardEngine) : Prop :=
  ∀ req rest manifest promptHex graph source,
    engine.poll = .claiming req rest manifest promptHex graph source → denseShards graph ≠ []

variable {sha256 : Digest} {registry : MinerRegistry} {last : Option Wallet}
variable {served : Wallet → Prop} {engine after : ShardEngine} {requestId : RequestId}
variable {stimulus : Stimulus} {pipeline : PipelineState} {emitted : List Effect}

theorem claimsDense_new : new.ClaimsDense :=
  fun _ _ _ _ _ _ claims => by cases claims

theorem ClaimsDense.next (dense : engine.ClaimsDense) (enabled : engine.enabled stimulus) :
    (next sha256 engine stimulus).ClaimsDense := by
  intro req rest manifest promptHex graph source claims
  rcases next_poll_claiming sha256 enabled claims with before | now
  · exact dense req rest manifest promptHex graph source before
  · exact now

/-! ## The tick goes on -/

theorem inside_new : new.Inside :=
  ⟨nofun, nofun⟩

theorem Inside.calm (inside : engine.Inside) (requestId : RequestId) :
    engine.dispatchPanics requestId = false := by
  unfold dispatchPanics
  cases present : engine.pipelines requestId with
  | none => rfl
  | some pipeline =>
      have found := List.getElem?_eq_getElem (inside.within requestId pipeline present)
      simp [found]

theorem Inside.ticking_next (inside : engine.Inside) (enabled : engine.enabled stimulus) :
    (next sha256 engine stimulus).poll ≠ .stopped := by
  have requests : ∀ (engine : ShardEngine) rest, nextRequest engine rest ≠ .stopped := by
    intro engine rest
    induction rest with
    | nil => simp [nextRequest]
    | cons first others ih =>
        unfold nextRequest
        split
        · exact ih
        · simp
  have retries : ∀ (engine : ShardEngine) rest, nextStalled engine rest ≠ .stopped := by
    intro engine rest
    induction rest with
    | nil => simp [nextStalled]
    | cons first others ih =>
        unfold nextStalled
        split
        · simp
        · exact ih
  cases isPoll : stimulus.event.isPoll with
  | false =>
      rw [next_poll sha256 engine stimulus isPoll]
      exact inside.ticking
  | true =>
      rcases stimulus with ⟨registry, event⟩
      cases event with
      | pollBegin stalled => exact retries engine stalled
      | pollRetry source =>
          rcases enabled with ⟨requestId, rest, polling⟩
          simp only [next, resumeRetry, polling]
          cases source with
          | none => exact retries engine rest
          | some source =>
              dsimp only
              rw [inside.calm requestId, if_neg Bool.false_ne_true]
              exact retries _ rest
      | pollListing answer =>
          have polling : engine.poll = .listing := enabled
          simp only [next, resumeListing, polling]
          exact requests _ _
      | pollManifest manifest =>
          rcases enabled with ⟨current, rest, polling⟩
          rcases resumeManifest_poll polling manifest with ⟨-, turned | ⟨-, _, _, on⟩⟩
          · simp only [next, turned]
            exact requests _ _
          · simp only [next, on, ne_eq, reduceCtorEq, not_false_eq_true]
      | pollGraph graph =>
          rcases enabled with ⟨current, rest, manifest, promptHex, polling⟩
          rcases resumeGraph_poll polling graph with ⟨-, turned | ⟨_, on⟩⟩
          · simp only [next, turned]
            exact requests _ _
          · simp only [next, on, ne_eq, reduceCtorEq, not_false_eq_true]
      | pollSource source =>
          rcases enabled with ⟨current, rest, manifest, promptHex, graph, polling⟩
          rcases resumeSource_poll polling source with ⟨-, turned | ⟨-, _, on⟩⟩
          · simp only [next, turned]
            exact requests _ _
          · simp only [next, on, ne_eq, reduceCtorEq, not_false_eq_true]
      | pollClaim claimed eligible =>
          rcases enabled with ⟨current, rest, manifest, promptHex, graph, source, polling⟩
          simp only [next, resumeClaim, polling]
          exact requests _ _
      | _ => cases isPoll

/-- A completed step leaves the pipeline at a shard it has. -/
theorem StepOutcome.within {assigned left : Option ShardAssignment} {ticket : Ticket}
    {wallet : Wallet} {result : OpoiShardResult} {source : ModelSource}
    {lastToken stored : Bool} {later : Option PipelineState} {call : Option Call}
    (outcome : StepOutcome sha256 registry last assigned ticket wallet result source lastToken
      stored pipeline later left call emitted) (inside : pipeline.pos < pipeline.shards.length)
    {current : PipelineState} (found : later = some current) :
    current.pos < current.shards.length := by
  cases outcome with
  | unanswered | finalized | unattributed => cases found
  | nextToken lastShard answer notLast =>
      have place := samePlace_of_dispatched found
      rw [place.pos, place.shards]
      exact Nat.zero_lt_of_lt inside
  | nextShard notLastShard dense =>
      have place := samePlace_of_dispatched found
      rw [place.pos, place.shards]
      exact lt_of_le_of_ne inside notLastShard
  | experts notLastShard group outcome layer =>
      subst found
      cases outcome.stays
      exact inside

/-- Nothing but the hand-over of a boundary layer takes a pipeline past its shards. -/
theorem Inside.next (inside : engine.Inside) (fresh : engine.TicketsFresh)
    (dense : engine.ClaimsDense) (enabled : engine.enabled stimulus)
    (hands : HandsOverInside engine stimulus) : (next sha256 engine stimulus).Inside := by
  refine ⟨inside.ticking_next enabled, fun requestId current found => ?_⟩
  have change := next_change_sent sha256 enabled fresh requestId
  generalize before : engine.pipelines requestId = earlier at change
  generalize (ShardEngine.next sha256 engine stimulus).assignments requestId = assigned at change
  generalize (ShardEngine.next sha256 engine stimulus).calls = calls at change
  generalize sent sha256 engine stimulus requestId = emitted at change
  rw [found] at change
  generalize kept : some current = later at change
  have within : ∀ was, earlier = some was → was.pos < was.shards.length :=
    fun was same => inside.within requestId was (before.trans same)
  cases change with
  | idle | rejected | accepted | unresolved | unsubmitted | sized | unjoined | abandoned |
      delegated => exact within current kept.symm
  | orphaned | lost | ungrouped => cases kept
  | misplaced parked about outside =>
      cases kept
      have held := within _ rfl
      exact held
  | submitting parked about lastToken finishes =>
      cases kept
      have held := within _ rfl
      exact held
  | interior parked about layer found resumes group outcome =>
      subst kept
      cases outcome.stays
      have held := within _ rfl
      exact held
  | completed parked about notLastToken outcome finishes =>
      have held := within _ rfl
      exact outcome.within held kept.symm
  | submitted parked about outcome =>
      have held := within _ rfl
      exact outcome.within held kept.symm
  | walked parked about isInterior joinable =>
      have place := samePlace_of_dispatched kept.symm
      rw [place.pos, place.shards]
      have held := within _ rfl
      exact held
  | handedOver parked about isBoundary joinable =>
      have place := samePlace_of_dispatched kept.symm
      rw [place.pos, place.shards]
      exact hands _ _ _ _ rfl parked isBoundary (about ▸ before)
  | redispatched polling =>
      have place := samePlace_of_dispatched kept.symm
      rw [place.pos, place.shards]
      have held := within _ rfl
      exact held
  | started polling about =>
      have place := samePlace_of_dispatched kept.symm
      rw [place.pos, place.shards]
      exact List.length_pos_iff.mpr (dense _ _ _ _ _ _ polling)

/-! ## A dispatch -/

/-- A dispatch is not sent, drops the pipeline, or assigns the current step to its
recipient. -/
theorem dispatched_recipient (registry : MinerRegistry) (last : Option Wallet)
    (assigned : Option ShardAssignment) (pipeline : PipelineState) :
    (pipeline.Unsent registry last ∧ assignedBy registry last assigned pipeline = assigned) ∨
      dispatched registry last pipeline = none ∨
      ∃ kept assignment, dispatched registry last pipeline = some kept ∧
        assignedBy registry last assigned pipeline = some assignment ∧
        kept.stepKey? = some assignment.stepKey ∧
        pipeline.recipient? registry last = some assignment.wallet := by
  unfold dispatched assignedBy PipelineState.Unsent PipelineState.recipient?
  cases found : pipeline.shards[pipeline.pos]? with
  | none => exact .inl ⟨.inl rfl, rfl⟩
  | some shard =>
      dsimp only
      cases walk : pipeline.moeLayerWalk with
      | some layer =>
          dsimp only
          cases channel : registry.get layer.2 with
          | none => exact .inr (.inl rfl)
          | some tx =>
              refine .inr (.inr ⟨pipeline, _, rfl, rfl, ?_, ?_⟩)
              · simp [PipelineState.stepKey?, ShardAssignment.stepKey, found, walk]
              · rfl
      | none =>
          dsimp only
          cases picked : registry.pickNext last with
          | none => exact .inl ⟨.inr ⟨rfl, rfl⟩, rfl⟩
          | some wallet =>
              obtain ⟨tx, channel⟩ := (MinerRegistry.eligible_of_pickNext picked).1
              dsimp only
              rw [channel]
              refine .inr (.inr ⟨openWalk pipeline shard wallet, _, rfl, rfl, ?_, rfl⟩)
              simp [PipelineState.stepKey?, ShardAssignment.stepKey, found]

/-- What a guarded dispatch leaves is tended. -/
theorem tended_of_dispatched (guarded : TendGuard served requestId engine stimulus)
    (dispatching : Dispatching engine requestId stimulus.event pipeline)
    (kept : after.pipelines requestId =
      dispatched stimulus.registry engine.lastAssigned pipeline)
    (left : after.assignments requestId = assignedBy stimulus.registry engine.lastAssigned
      (engine.assignments requestId) pipeline)
    (stays : engine.StaysJoining requestId stimulus.event → after.Joining requestId) :
    after.Tended served requestId := by
  intro current assignment present assigned
  rw [kept] at present
  rw [left] at assigned
  rcases dispatched_recipient stimulus.registry engine.lastAssigned
    (engine.assignments requestId) pipeline with
    ⟨unsent, same⟩ | gone | ⟨later, made, stored, assigns, step, recipient⟩
  · rcases guarded.vacant pipeline dispatching unsent with nothing | joining
    · rw [same, nothing] at assigned
      cases assigned
    · exact .inl (stays joining)
  · rw [gone] at present
    cases present
  · rw [stored] at present
    rw [assigns] at assigned
    cases present
    cases assigned
    exact .inr ⟨step, guarded.reached pipeline _ dispatching recipient⟩

/-! ## Each event -/

/-- A pipeline at the same step, with no new assignment and every join still under way. -/
theorem Tended.of_fewer (tended : engine.Tended served requestId)
    (steps : ∀ later, after.pipelines requestId = some later → ∃ earlier,
      engine.pipelines requestId = some earlier ∧ later.stepKey? = earlier.stepKey?)
    (fewer : ∀ assignment, after.assignments requestId = some assignment →
      engine.assignments requestId = some assignment)
    (joins : engine.Joining requestId → after.Joining requestId) :
    after.Tended served requestId := by
  intro later assignment present assigned
  obtain ⟨earlier, was, same⟩ := steps later present
  rcases tended earlier assignment was (fewer assignment assigned) with joining | ⟨step, reached⟩
  · exact .inl (joins joining)
  · exact .inr ⟨same.trans step, reached⟩

theorem tended_of_unassigned (nothing : after.assignments requestId = none) :
    after.Tended served requestId := by
  intro later assignment present assigned
  rw [nothing] at assigned
  cases assigned

theorem tended_of_absent (gone : after.pipelines requestId = none) :
    after.Tended served requestId := by
  intro later assignment present
  rw [gone] at present
  cases present

/-- A handler that does not wait for experts leaves those that do. -/
theorem Joining.of_setCall {ticket : Ticket} {call : Call} {reparked : Option Call}
    (joining : engine.Joining requestId) (parked : engine.calls ticket = some call)
    (notJoining : ∀ step, call ≠ .joining step)
    (calls : after.calls = setCall engine.calls ticket reparked) : after.Joining requestId := by
  rcases joining with ⟨other, step, waits, about⟩
  refine ⟨other, step, ?_, about⟩
  have ne : other ≠ ticket := by
    rintro rfl
    exact notJoining step (Option.some.inj (parked.symm.trans waits))
  rw [calls, setCall, Function.update_of_ne ne]
  exact waits

/-- What goes on joining is not touched by the handler that resumes. -/
theorem StaysJoining.joining {ticket : Ticket} {output : Option ShardOutputWire}
    (stays : engine.StaysJoining requestId stimulus.event)
    (resumes : stimulus.event = .joined ticket output)
    (calls : after.calls = setCall engine.calls ticket none) : after.Joining requestId := by
  rcases stays with ⟨other, step, waits, about, untouched, -⟩
  refine ⟨other, step, ?_, about⟩
  have ne : other ≠ ticket := by
    rintro rfl
    exact untouched output resumes
  rw [calls, setCall, Function.update_of_ne ne]
  exact waits

theorem StaysJoining.forget {event : Event} (stays : engine.StaysJoining requestId event) :
    engine.Joining requestId := by
  rcases stays with ⟨ticket, step, waits, about, -⟩
  exact ⟨ticket, step, waits, about⟩

/-- The completion of a step, after a handler that does not wait for experts. -/
theorem Tended.completes (tended : engine.Tended served requestId)
    (guarded : TendGuard served requestId engine stimulus) {ticket : Ticket} {call : Call}
    {wallet : Wallet} {result : OpoiShardResult} {source : ModelSource} {lastToken stored : Bool}
    {counted : PipelineState} {reparked : Option Call}
    (present : engine.pipelines requestId = some pipeline)
    (step : counted.stepKey? = pipeline.stepKey?)
    (parked : engine.calls ticket = some call) (notJoining : ∀ step, call ≠ .joining step)
    (calls : after.calls = setCall engine.calls ticket reparked)
    (tokens : ∀ tokenId, lastToken = false → counted.pos + 1 = counted.shards.length →
      result.nextTokenId = some tokenId → Dispatching engine requestId stimulus.event
        (nextToken (recordToken counted tokenId) tokenId))
    (shards : counted.pos + 1 ≠ counted.shards.length →
      counted.expertGroupFor counted.pos = none →
      Dispatching engine requestId stimulus.event (nextShard counted result.output))
    (outcome : StepOutcome sha256 stimulus.registry engine.lastAssigned
      (engine.assignments requestId) ticket wallet result source lastToken stored counted
      (after.pipelines requestId) (after.assignments requestId) reparked emitted) :
    after.Tended served requestId := by
  have joins : engine.Joining requestId → after.Joining requestId :=
    fun joining => joining.of_setCall parked notJoining calls
  generalize kept : after.pipelines requestId = later at outcome
  generalize left : after.assignments requestId = assigned at outcome
  cases outcome with
  | unanswered lastShard answer => exact tended_of_absent kept
  | finalized lastShard answer isLast wins => exact tended_of_absent kept
  | unattributed lastShard answer isLast nobody => exact tended_of_absent kept
  | nextToken lastShard answer notLast =>
      exact tended_of_dispatched guarded (tokens _ notLast lastShard answer) kept left
        fun stays => joins stays.forget
  | nextShard notLastShard dense =>
      exact tended_of_dispatched guarded (shards notLastShard dense) kept left
        fun stays => joins stays.forget
  | experts notLastShard group outcome =>
      refine tended.of_fewer ?_ (fun _ found => left.symm.trans found) joins
      intro current found
      rw [← kept, found] at outcome
      exact ⟨pipeline, present, (congrArg PipelineState.stepKey? outcome.stays).trans step⟩

/-- Every guarded event keeps a request tended. -/
theorem Tended.next (tended : engine.Tended served requestId) (fresh : engine.TicketsFresh)
    (enabled : engine.enabled stimulus) (guarded : TendGuard served requestId engine stimulus)
    (stays : ∀ ticket, stimulus.event ≠ .dropped ticket) :
    (next sha256 engine stimulus).Tended served requestId := by
  have change := next_change_sent sha256 enabled fresh requestId
  generalize sent sha256 engine stimulus requestId = emitted at change
  generalize before : engine.pipelines requestId = earlier at change
  generalize kept : (ShardEngine.next sha256 engine stimulus).pipelines requestId = later at change
  generalize left : (ShardEngine.next sha256 engine stimulus).assignments requestId = assigned
    at change
  generalize moved : (ShardEngine.next sha256 engine stimulus).calls = calls at change
  -- a handler that ends or parks at the same step, with the assignment as it is
  have resumes : ∀ {ticket : Ticket} {call : Call} {reparked : Option Call},
      engine.calls ticket = some call → (∀ step, call ≠ .joining step) →
      calls = setCall engine.calls ticket reparked → assigned = engine.assignments requestId →
      (∀ current, later = some current → ∃ was, earlier = some was ∧
        current.stepKey? = was.stepKey?) →
      (ShardEngine.next sha256 engine stimulus).Tended served requestId := by
    intro ticket call reparked parked notJoining replaced same steps
    refine tended.of_fewer ?_ (fun _ found => same.symm.trans (left.symm.trans found))
      fun joining => joining.of_setCall parked notJoining (moved.trans replaced)
    intro current found
    obtain ⟨was, isWas, step⟩ := steps current (kept.symm.trans found)
    exact ⟨was, before.trans isWas, step⟩
  have goesOn : calls = engine.calls → assigned = engine.assignments requestId →
      later = earlier → (ShardEngine.next sha256 engine stimulus).Tended served requestId := by
    intro same unchanged stored
    refine tended.of_fewer ?_ (fun _ found => unchanged.symm.trans (left.symm.trans found)) ?_
    · intro current found
      exact ⟨current, before.trans (stored.symm.trans (kept.symm.trans found)), rfl⟩
    · rintro ⟨ticket, step, waits, about⟩
      exact ⟨ticket, step, by rw [moved, same]; exact waits, about⟩
  have sameCalls : calls = engine.calls → engine.StaysJoining requestId stimulus.event →
      (ShardEngine.next sha256 engine stimulus).Joining requestId := by
    rintro same ⟨ticket, step, waits, about, -, -⟩
    exact ⟨ticket, step, by rw [moved, same]; exact waits, about⟩
  cases change with
  | idle fewer same =>
      refine tended.of_fewer ?_ ?_ ?_
      · exact fun current found => ⟨current, before.trans (kept.symm.trans found), rfl⟩
      · intro assignment found
        rcases fewer with equal | gone
        · exact equal.symm.trans (left.symm.trans found)
        · cases gone.symm.trans (left.symm.trans found)
      · rintro ⟨ticket, step, waits, about⟩
        refine ⟨ticket, step, ?_, about⟩
        rw [moved]
        exact (same ticket (.joining step) about).mpr waits
  | rejected about => exact goesOn rfl rfl rfl
  | orphaned about assigned => exact tended_of_unassigned left
  | accepted about assigned => exact tended_of_unassigned left
  | unresolved parked about =>
      exact resumes parked (by simp) rfl rfl fun current found => ⟨current, found, rfl⟩
  | lost parked about quiet => exact tended_of_absent kept
  | misplaced parked about outside =>
      refine resumes parked (by simp) rfl rfl ?_
      rintro _ ⟨⟩
      exact ⟨_, rfl, stepKey?_contribute ..⟩
  | ungrouped parked about grouped dense => exact tended_of_absent kept
  | interior parked about layer found grouped group outcome =>
      refine resumes parked (by simp) rfl rfl ?_
      rintro _ rfl
      exact ⟨_, rfl,
        (congrArg PipelineState.stepKey? outcome.stays).trans (stepKey?_contribute ..)⟩
  | submitting parked about lastToken =>
      refine resumes parked (by simp) rfl rfl ?_
      rintro _ ⟨⟩
      exact ⟨_, rfl, stepKey?_contribute ..⟩
  | completed parked about notLastToken outcome =>
      exact tended.completes guarded before (stepKey?_contribute ..) parked (by simp) moved
        (fun _ _ lastShard answer => .nextToken parked about before notLastToken lastShard answer)
        (fun notLastShard dense => .nextShard parked about before notLastToken notLastShard dense)
        (kept ▸ left ▸ outcome)
  | unsubmitted parked about =>
      exact resumes parked (by simp) rfl rfl fun current found => ⟨current, found, rfl⟩
  | submitted parked about outcome =>
      exact tended.completes guarded before rfl parked (by simp) moved
        (fun _ notLast => by cases notLast)
        (fun notLastShard dense => .submitted parked about before notLastShard dense)
        (kept ▸ left ▸ outcome)
  | @sized registry ticket minVramMb step _ parked about =>
      intro current assignment present assigned
      refine .inl ⟨ticket, step, ?_, about⟩
      rw [moved, setCall, Function.update_self]
  | unjoined parked about => exact tended_of_unassigned left
  | @abandoned registry ticket => exact absurd rfl (stays ticket)
  | walked parked about isInterior =>
      exact tended_of_dispatched guarded (.walked parked about before isInterior) kept left
        fun stays => stays.joining rfl moved
  | handedOver parked about isBoundary =>
      exact tended_of_dispatched guarded (.handedOver parked about before isBoundary) kept left
        fun stays => stays.joining rfl moved
  | redispatched polling =>
      exact tended_of_dispatched guarded (.retried polling before) kept left (sameCalls rfl)
  | delegated polling about => exact goesOn rfl rfl rfl
  | started polling about =>
      exact tended_of_dispatched guarded (.started polling about) kept left (sameCalls rfl)

/-- The end of a session takes the assignments of its wallet, and with them those its
dropped handler leaves behind. -/
theorem Tended.disconnect (tended : engine.Tended served requestId) (wallet : Wallet) :
    (onDisconnect wallet engine).Tended served requestId := by
  intro pipeline assignment present assigned
  exact tended pipeline assignment present (PartialMap.retain_eq_some_iff.mp assigned).1

theorem Tended.leave (tended : engine.Tended served requestId) {wallet : Wallet}
    {ticket : Ticket} (releases : engine.Releases requestId wallet ticket) :
    (onDisconnect wallet (dropCall ticket engine)).Tended served requestId := by
  intro pipeline assignment present assigned
  obtain ⟨held, kept⟩ := PartialMap.retain_eq_some_iff.mp assigned
  have notGone : assignment.wallet ≠ wallet := of_decide_eq_true kept
  have remains : ∀ {other step}, engine.calls other = some (.joining step) → other ≠ ticket →
      step.result.requestId = requestId →
        (onDisconnect wallet (dropCall ticket engine)).Joining requestId :=
    fun waits ne about => ⟨_, _, (PartialMap.remove_of_ne _ ne).trans waits, about⟩
  rcases tended pipeline assignment present held with ⟨other, step, waits, about⟩ | current
  · by_cases same : other = ticket
    · subst same
      rcases releases _ assignment waits about held with gone | ⟨another, own, joins, same, -, ne⟩
      · exact absurd gone notGone
      · exact .inl (remains joins (fun equal => ne (congrArg _ equal.symm)) same)
    · exact .inl (remains waits same about)
  · exact .inr current

/-- Other wallets may be served, as long as those at work still are. -/
theorem Tended.of_engaged (tended : engine.Tended served requestId) {reachable : Wallet → Prop}
    (engaged : ∀ wallet, engine.Engaged requestId wallet → served wallet → reachable wallet) :
    engine.Tended reachable requestId := by
  intro pipeline assignment present assigned
  by_cases joining : engine.Joining requestId
  · exact .inl joining
  · rcases tended pipeline assignment present assigned with busy | ⟨step, reached⟩
    · exact absurd busy joining
    · exact .inr ⟨step,
        engaged _ ⟨pipeline, assignment, present, assigned, joining, rfl⟩ reached⟩

end ShardEngine

end StratumBridge.Shard
