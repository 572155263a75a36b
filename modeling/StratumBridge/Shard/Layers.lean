import StratumBridge.Shard.Walk

/-!
# Every layer in order

The placeholder of a range that was left may be answered while nobody was there to
dispatch the next range to.  Such a result strays: it is for a layer before the range
its pipeline is at, no join of its experts succeeds, and its handler ends with the
walk as it was.  So layers are walked as planned as long as handlers run one after
another and pinned wallets stay connected.
-/

namespace StratumBridge.Shard

open Data Rpc Wire Transition Sequence

namespace ShardEngine

/-! ## A result that strays -/

/-- The handler of a result for a layer before the range its pipeline is at. -/
structure Stray (pipeline : PipelineState) (call : Call) : Prop where
  resting : pipeline.moeLayerWalk = none
  behind : ∃ layer, call.result.moeLayerStep = some layer ∧
    ∀ range, pipeline.here? = some range → layer < range.bounds.1
  unsubmitted : ∀ wallet result source, call ≠ .submitting wallet result source
  unjoinable : ∀ step, call.step? = some step → ¬ step.Joinable

/-- A request whose only handler strays. -/
structure Astray (requestId : RequestId) (engine : ShardEngine) (pipeline : PipelineState)
    (left : Trail) (ticket : Ticket) (call : Call) : Prop where
  present : engine.pipelines requestId = some pipeline
  unassigned : engine.assignments requestId = none
  parked : engine.calls ticket = some call
  about : call.requestId = requestId
  single : ∀ other another, engine.calls other = some another → another.requestId = requestId →
    other = ticket
  stray : Stray pipeline call
  onWalk : OnWalk pipeline left
  lawful : left.Lawful
  once : (engine.applied requestId).Nodup
  given : ∀ ticket ∈ engine.applied requestId, ticket < engine.nextTicket

/-- A request on its walk, with its handler at its step or astray. -/
inductive OnCourse (requestId : RequestId) (engine : ShardEngine) (trail : Option Trail) : Prop
  | walking (orderly : engine.Orderly requestId) (walking : Walking requestId engine trail) :
      OnCourse requestId engine trail
  | astray {pipeline left ticket call} (isTrail : trail = some left)
      (astray : Astray requestId engine pipeline left ticket call) :
      OnCourse requestId engine trail

section Step

variable {sha256 : Digest} {engine after : ShardEngine} {requestId : RequestId}
variable {stimulus : Stimulus} {ticket : Ticket} {call : Call} {emitted : List Effect}
variable {trail : Option Trail} {left : Trail} {pipeline counted : PipelineState}

/-- A stray result is routed as an interior layer of the range its pipeline is at. -/
theorem Stray.resumes (stray : Stray pipeline call) (on : OnWalk pipeline left) :
    Resumes pipeline call.result := by
  obtain ⟨layer, asked, behind⟩ := stray.behind
  obtain ⟨shard, found⟩ := on.exists_shard
  have here := here?_of_shard found
  have before := behind _ here
  have nonempty := (on.bounds here).1
  refine ⟨layer, shard, asked, found, ?_⟩
  simp only [resumesShard, decide_eq_true_eq]
  dsimp only at before nonempty
  omega

/-- An expert step of a stray result is for a layer outside its range. -/
theorem Stray.not_joinable (stray : Stray pipeline call) (same : SameWalk pipeline counted)
    {step : ExpertStep} {shard : ShardDescriptor} (place : StepPlace counted step shard)
    (ofResult : step.result = call.result) : ¬ step.Joinable := by
  obtain ⟨layer, asked, behind⟩ := stray.behind
  have here := here?_of_shard place.found
  rw [same.here?] at here
  have before := behind _ here
  have isLayer := place.layerIdx
  rw [ofResult, asked, Option.getD_some] at isLayer
  rintro ⟨-, first_le, -⟩
  rw [place.layerStart, isLayer] at first_le
  exact absurd first_le (Nat.not_le.mpr before)

theorem Astray.own (astray : Astray requestId engine pipeline left ticket call)
    {other : Ticket} {another : Call} (parked : engine.calls other = some another)
    (about : another.requestId = requestId) : other = ticket ∧ another = call := by
  cases astray.single other another parked about
  exact ⟨rfl, Option.some.inj (parked.symm.trans astray.parked)⟩

/-- An event that leaves the request as it is. -/
theorem Astray.kept (astray : Astray requestId engine pipeline left ticket call)
    (extended : after.history requestId = engine.history requestId ++ emitted)
    (nothing : emitted.filterMap Effect.appliedBy = [])
    (tickets : engine.nextTicket ≤ after.nextTicket)
    (same : after.pipelines requestId = engine.pipelines requestId)
    (vacant : after.assignments requestId = none)
    (calls : ∀ ticket call, call.requestId = requestId →
      (after.calls ticket = some call ↔ engine.calls ticket = some call)) :
    Astray requestId after pipeline left ticket call := by
  have applies : after.applied requestId = engine.applied requestId := by
    rw [applied_of_history extended, nothing, List.append_nil]
  constructor
  · exact same.trans astray.present
  · exact vacant
  · exact (calls ticket call astray.about).mpr astray.parked
  · exact astray.about
  · intro other another parked about
    exact astray.single other another ((calls other another about).mp parked) about
  · exact astray.stray
  · exact astray.onWalk
  · exact astray.lawful
  · rw [applies]
    exact astray.once
  · rw [applies]
    exact fun used mem => (astray.given used mem).trans_le tickets

/-- The stray handler goes on to its next call. -/
theorem Astray.reparked (astray : Astray requestId engine pipeline left ticket call)
    {next : Call} (extended : after.history requestId = engine.history requestId ++ emitted)
    (nothing : emitted.filterMap Effect.appliedBy = [])
    (tickets : engine.nextTicket ≤ after.nextTicket)
    (stored : after.pipelines requestId = some counted) (same : SameWalk pipeline counted)
    (vacant : after.assignments requestId = none)
    (calls : after.calls = setCall engine.calls ticket (some next))
    (about : next.requestId = requestId) (stray : Stray counted next) :
    Astray requestId after counted left ticket next := by
  have applies : after.applied requestId = engine.applied requestId := by
    rw [applied_of_history extended, nothing, List.append_nil]
  constructor
  · exact stored
  · exact vacant
  · rw [calls, setCall, Function.update_self]
  · exact about
  · intro other another found own
    by_contra ne
    rw [calls, setCall, Function.update_of_ne ne] at found
    exact ne (astray.single other another found own)
  · exact stray
  · exact astray.onWalk.same same
  · exact astray.lawful
  · rw [applies]
    exact astray.once
  · rw [applies]
    exact fun used mem => (astray.given used mem).trans_le tickets

/-- The stray handler ends, with its pipeline where it was or dropped. -/
theorem Astray.ended (astray : Astray requestId engine pipeline left ticket call)
    (extended : after.history requestId = engine.history requestId ++ emitted)
    (nothing : emitted.filterMap Effect.appliedBy = [])
    (tickets : engine.nextTicket ≤ after.nextTicket)
    (stored : ∀ later, after.pipelines requestId = some later → SameWalk pipeline later)
    (vacant : after.assignments requestId = none)
    (calls : after.calls = setCall engine.calls ticket none) :
    OnCourse requestId after (some left) := by
  have quiet : after.Quiet requestId := quiet_of_ended astray.single calls
  have applies : after.applied requestId = engine.applied requestId := by
    rw [applied_of_history extended, nothing, List.append_nil]
  apply OnCourse.walking
  · apply orderly_of_quiet quiet
    · rw [vacant]
      apply fits_unassigned
      intro later present
      rw [(stored later present).pos, (stored later present).shards]
      exact astray.onWalk.inRange
    · rw [applies]
      exact astray.once
    · rw [applies]
      exact fun used mem => (astray.given used mem).trans_le tickets
  · constructor
    · rintro _ ⟨⟩
      exact astray.lawful
    · exact fun later present => ⟨left, rfl, astray.onWalk.same (stored later present)⟩
    · refine fun _ _ _ _ _ _ => ⟨quiet, fun assignment now => ?_⟩
      cases vacant.symm.trans now
    · intro later range assignment layer _ _ _ now
      cases vacant.symm.trans now
    · exact fun ticket wallet result source later parked about =>
        absurd about (quiet _ _ parked)
    · exact fun ticket call step later parked _ about => absurd about (quiet _ _ parked)

/-- While a request is astray, no effect of it leaves a mark. -/
theorem trailNext_of_unmarked
    (extended : (next sha256 engine stimulus).history requestId =
      engine.history requestId ++ emitted)
    (notStarted : .started requestId ∉ emitted)
    (unmarked : emitted.flatMap (markOf engine requestId) = []) :
    trailNext sha256 requestId engine trail stimulus = trail := by
  have isSent : sent sha256 engine stimulus requestId = emitted := by
    rw [sent, extended, List.drop_left]
  simp only [trailNext, isSent, notStarted, if_false, unmarked, Trail.add_nil, Option.map_id']

/-- The handler of a stray result ends without a trace, or is on its way to a join
that fails. -/
theorem Astray.next (astray : Astray requestId engine pipeline left ticket call)
    (fresh : engine.TicketsFresh) (clear : engine.PollClear) (polls : engine.PollOrderly)
    (enabled : engine.enabled stimulus) :
    OnCourse requestId (next sha256 engine stimulus)
      (trailNext sha256 requestId engine (some left) stimulus) := by
  have tickets := nextTicket_le_next sha256 engine stimulus
  obtain ⟨emitted, extended, change⟩ := next_change sha256 enabled (fresh _ le_rfl) requestId
  have stays : .started requestId ∉ emitted → emitted.flatMap (markOf engine requestId) = [] →
      OnCourse requestId (ShardEngine.next sha256 engine stimulus) (some left) →
        OnCourse requestId (ShardEngine.next sha256 engine stimulus)
          (trailNext sha256 requestId engine (some left) stimulus) := by
    intro notStarted unmarked onCourse
    rwa [trailNext_of_unmarked extended notStarted unmarked]
  generalize before : engine.pipelines requestId = earlier at change
  generalize kept : (ShardEngine.next sha256 engine stimulus).pipelines requestId = later at change
  generalize made : (ShardEngine.next sha256 engine stimulus).assignments requestId = assigned
    at change
  generalize moved : (ShardEngine.next sha256 engine stimulus).calls = calls at change
  cases before.symm.trans astray.present
  have unchanged : later = some pipeline → calls = engine.calls → assigned = none →
      emitted.filterMap Effect.appliedBy = [] →
        OnCourse requestId (ShardEngine.next sha256 engine stimulus) (some left) :=
    fun stored unmoved vacant nothing => .astray rfl (astray.kept extended nothing tickets
      (kept.trans (stored.trans before.symm)) (made.trans vacant)
      (fun ticket call _ => by rw [moved, unmoved]))
  have ends : (∀ counted, later = some counted → SameWalk pipeline counted) →
      calls = setCall engine.calls ticket none → assigned = none →
      emitted.filterMap Effect.appliedBy = [] →
        OnCourse requestId (ShardEngine.next sha256 engine stimulus) (some left) :=
    fun stored replaced vacant nothing => astray.ended extended nothing tickets
      (fun counted present => stored counted (kept.symm.trans present)) (made.trans vacant)
      (moved.trans replaced)
  have resumes := astray.stray.resumes astray.onWalk
  cases change with
  | idle fewer same =>
      apply stays (by simp) rfl
      exact .astray rfl (astray.kept extended rfl tickets (kept.trans before.symm)
        (made.trans (fewer.elim (·.trans astray.unassigned) id)) (by rwa [moved]))
  | rejected about => exact stays (by simp) rfl (unchanged rfl rfl astray.unassigned rfl)
  | accepted about assigned => cases assigned.symm.trans astray.unassigned
  | unresolved parked about =>
      obtain ⟨rfl, rfl⟩ := astray.own parked about
      exact stays (by simp) rfl
        (ends (by rintro _ ⟨⟩; exact .refl _) rfl astray.unassigned rfl)
  | misplaced parked about outside =>
      obtain ⟨shard, found⟩ := astray.onWalk.exists_shard
      cases found.symm.trans outside
  | ungrouped parked about routed dense =>
      obtain ⟨rfl, rfl⟩ := astray.own parked about
      exact stays (by simp) rfl (ends (by simp) rfl astray.unassigned rfl)
  | @interior registry ticket source wallet result _ shard layerIdx expertIds _ _ _ parked about
      layer found routed group outcome =>
      obtain ⟨rfl, rfl⟩ := astray.own parked about
      have same : SameWalk pipeline (contribute wallet pipeline) := sameWalk_contribute ..
      cases outcome with
      | absent verdict =>
          exact stays (by simp) rfl
            (ends (by rintro _ ⟨⟩; exact same) rfl astray.unassigned rfl)
      | malformed verdict =>
          exact stays (by simp) rfl (ends (by simp) rfl astray.unassigned rfl)
      | panicked outside =>
          exact stays (by simp) rfl
            (ends (by rintro _ ⟨⟩; exact same) rfl astray.unassigned rfl)
      | @sizing step isInterior sameWallet sameResult sameSource sameLayer verdict sameToken =>
          have parks : (ShardEngine.next sha256 engine
              ⟨registry, .resolved ticket (some source)⟩).calls ticket = some (.sizing step) := by
            rw [moved, setCall, Function.update_self]
          obtain ⟨shard, place⟩ := resumeResolved_sizing parked (about ▸ before) parks
          apply stays (by simp) rfl
          apply OnCourse.astray rfl (astray.reparked extended rfl tickets kept same
            (made.trans astray.unassigned) moved
            (by rw [Call.requestId, Call.result, sameResult]; exact about) _)
          constructor
          · exact same.walk.trans astray.stray.resting
          · rw [Call.result, sameResult, same.here?]
            exact astray.stray.behind
          · simp
          · rintro _ ⟨⟩
            exact astray.stray.not_joinable same place sameResult
  | submitting parked about lastToken finishes =>
      obtain ⟨rfl, rfl⟩ := astray.own parked about
      exact absurd resumes finishes
  | completed parked about notLastToken outcome finishes =>
      obtain ⟨rfl, rfl⟩ := astray.own parked about
      exact absurd resumes finishes
  | unsubmitted parked about =>
      obtain ⟨rfl, rfl⟩ := astray.own parked about
      exact absurd rfl (astray.stray.unsubmitted _ _ _)
  | submitted parked about outcome =>
      obtain ⟨rfl, rfl⟩ := astray.own parked about
      exact absurd rfl (astray.stray.unsubmitted _ _ _)
  | @sized registry ticket minVramMb step _ parked about =>
      obtain ⟨rfl, rfl⟩ := astray.own parked about
      have unmarked : markedBy step (some pipeline) (engine.assignments requestId) = none := by
        simp [markedBy, astray.stray.resting, astray.unassigned]
      apply stays (by simp) rfl
      apply OnCourse.astray rfl (astray.reparked extended rfl tickets kept (.refl _)
        (made.trans unmarked) moved about _)
      exact ⟨astray.stray.resting, astray.stray.behind, by simp, astray.stray.unjoinable⟩
  | unjoined parked about =>
      obtain ⟨rfl, rfl⟩ := astray.own parked about
      exact stays (by simp) rfl (ends (by rintro _ ⟨⟩; exact .refl _) rfl rfl rfl)
  | walked parked about isInterior joinable =>
      obtain ⟨rfl, rfl⟩ := astray.own parked about
      exact absurd joinable (astray.stray.unjoinable _ rfl)
  | handedOver parked about isBoundary joinable =>
      obtain ⟨rfl, rfl⟩ := astray.own parked about
      exact absurd joinable (astray.stray.unjoinable _ rfl)
  | abandoned parked about =>
      obtain ⟨rfl, rfl⟩ := astray.own parked about
      exact stays (by simp) rfl
        (ends (by rintro _ ⟨⟩; exact .refl _) rfl astray.unassigned rfl)
  | redispatched polling =>
      obtain ⟨quiet, -⟩ := polls.waiting requestId (by simp [polling, Poll.stalled])
      exact absurd astray.about (quiet ticket call astray.parked)
  | delegated polling about =>
      exact stays (by simp) rfl (unchanged rfl rfl astray.unassigned rfl)
  | started polling about =>
      have absent := clear _ (by rw [polling]; rfl)
      rw [about] at absent
      cases absent.symm.trans before

/-- A result accepted for a range that was left strays. -/
theorem onCourse_of_stale (orderly : engine.Orderly requestId)
    (walking : Walking requestId engine trail) (oneByOne : engine.OneByOne stimulus)
    (stale : ¬ engine.AnswersWalk requestId stimulus) :
    OnCourse requestId (next sha256 engine stimulus)
      (trailNext sha256 requestId engine trail stimulus) := by
  rcases stimulus with ⟨registry, event⟩
  simp only [AnswersWalk, not_forall, exists_prop, not_not] at stale
  obtain ⟨wallet, result, rfl, rfl, assigned, asked, pipeline, present, resting⟩ := stale
  obtain ⟨layer, asks⟩ := Option.ne_none_iff_exists'.mp asked
  obtain ⟨left, rfl, on⟩ := walking.onWalk pipeline present
  have accepts : next sha256 engine ⟨registry, .shardResult wallet result⟩ =
      { engine with
        assignments := engine.assignments.remove result.requestId
        nextTicket := engine.nextTicket + 1
        log := engine.log ++ [Effect.accepted engine.nextTicket wallet result]
        calls := engine.calls.insert engine.nextTicket (.resolving wallet result) } := by
    simp only [next, handleShardResult, assigned, present, if_true]
    rfl
  have extended : (next sha256 engine ⟨registry, .shardResult wallet result⟩).history
      result.requestId = engine.history result.requestId ++
        [.accepted engine.nextTicket wallet result] := by
    simp [accepts, history, historyOf, Effect.requestId]
  have applies : (next sha256 engine ⟨registry, .shardResult wallet result⟩).applied
      result.requestId = engine.applied result.requestId := by
    rw [applied_of_history extended]
    exact List.append_nil _
  rw [trailNext_of_unmarked extended (by simp) rfl]
  suffices strays : Astray result.requestId
      (next sha256 engine ⟨registry, .shardResult wallet result⟩) pipeline left engine.nextTicket
      (.resolving wallet result) from .astray rfl strays
  constructor
  · rw [accepts]
    exact present
  · rw [accepts]
    exact PartialMap.remove_self ..
  · rw [accepts]
    exact PartialMap.insert_self ..
  · rfl
  · intro other another found own
    by_contra ne
    rw [accepts] at found
    exact oneByOne assigned other another ((PartialMap.insert_of_ne _ _ ne).symm.trans found) own
  · refine ⟨resting, ⟨layer, asks, fun range here => ?_⟩, by simp,
      fun step isStep => by cases isStep⟩
    exact walking.leftover pipeline range _ layer present here resting assigned asks
  · exact on
  · exact walking.lawful left rfl
  · rw [applies]
    exact orderly.once
  · rw [applies, accepts]
    exact fun used mem => (orderly.given used mem).trans (Nat.lt_succ_self _)

/-- Every event that meets the premises keeps a request on its walk. -/
theorem OnCourse.next (course : OnCourse requestId engine trail) (fresh : engine.TicketsFresh)
    (clear : engine.PollClear) (polls : engine.PollOrderly) (enabled : engine.enabled stimulus)
    (premises : engine.WalkPremises stimulus) :
    OnCourse requestId (next sha256 engine stimulus)
      (trailNext sha256 requestId engine trail stimulus) := by
  cases course with
  | walking orderly walking =>
      by_cases answers : engine.AnswersWalk requestId stimulus
      · exact .walking
          (orderly.next fresh clear polls enabled
            (serialAt_of_answersWalk premises.oneByOne answers))
          (walking.next ⟨fresh, clear, polls, orderly⟩ enabled premises answers)
      · exact onCourse_of_stale orderly walking premises.oneByOne answers
  | astray isTrail astray =>
      subst isTrail
      exact astray.next fresh clear polls enabled

end Step

/-! ## Runs -/

section Runs

variable {sha256 : Digest} {engine : ShardEngine} {requestId : RequestId}
variable {events : List Stimulus}

/-- The walk of a request: its trail is lawful and has come exactly as far as
its pipeline, which awaits a layer of its range. -/
structure WalksLayers (engine : ShardEngine) (requestId : RequestId) (trail : Option Trail) :
    Prop where
  lawful : ∀ left, trail = some left → left.Lawful
  place : ∀ pipeline, engine.pipelines requestId = some pipeline →
    ∃ left, trail = some left ∧ left.plan = pipeline.plan ∧
      left.totalLayers = pipeline.manifest.numLayers ∧ left.steps = pipeline.stepsDone
  inside : ∀ pipeline layer wallet, engine.pipelines requestId = some pipeline →
    pipeline.moeLayerWalk = some (layer, wallet) →
      ∃ range, pipeline.here? = some range ∧
        LayerInside pipeline.manifest.numLayers range layer

theorem OnCourse.walksLayers {trail : Option Trail} (course : OnCourse requestId engine trail) :
    WalksLayers engine requestId trail := by
  cases course with
  | walking orderly walking =>
      constructor
      · exact walking.lawful
      · intro pipeline present
        obtain ⟨left, isTrail, on⟩ := walking.onWalk pipeline present
        exact ⟨left, isTrail, on.plan, on.totalLayers, on.steps⟩
      · intro pipeline layer wallet present walk
        obtain ⟨left, -, on⟩ := walking.onWalk pipeline present
        obtain ⟨range, here⟩ := on.exists_here
        exact ⟨range, here, on.inside layer wallet range walk here⟩
  | @astray pipeline left ticket call isTrail astray =>
      subst isTrail
      have on := astray.onWalk
      constructor
      · rintro _ ⟨⟩
        exact astray.lawful
      · intro later present
        cases astray.present.symm.trans present
        exact ⟨left, rfl, on.plan, on.totalLayers, on.steps⟩
      · intro later layer wallet present walk
        cases astray.present.symm.trans present
        cases astray.stray.resting.symm.trans walk

/-- Along every run that meets the premises, layers are walked as planned. -/
theorem layers_walked_in_order
    (run : (system sha256).RunWith WalkPremises new events engine) (requestId : RequestId) :
    WalksLayers engine requestId (trailOf sha256 requestId events) := by
  have both := (run.watched (trailNext sha256 requestId) none).invariant
    (I := fun both => both.1.TicketsFresh ∧ both.1.PollClear ∧ both.1.PollOrderly ∧
      OnCourse requestId both.1 both.2)
    ⟨ticketsFresh_new, pollClear_new, pollOrderly_new,
      .walking (orderly_new requestId) (walking_new requestId)⟩
    (by
      rintro ⟨state, left⟩ stimulus ⟨fresh, clear, polls, course⟩ enabled premises
      have offered : state.enabled stimulus := enabled
      exact ⟨fresh.next offered, clear.next fresh offered,
        polls.next fresh offered premises.oneByOne.collectsQuiet,
        course.next fresh clear polls offered premises⟩)
  exact both.2.2.2.walksLayers

/-- A pinned wallet was pinned before the event, or is connected now. -/
theorem pinned_next {stimulus : Stimulus} {pipeline : PipelineState} {layer : Nat}
    {wallet : Wallet} (fresh : engine.TicketsFresh) (enabled : engine.enabled stimulus)
    (present : (next sha256 engine stimulus).pipelines requestId = some pipeline)
    (walk : pipeline.moeLayerWalk = some (layer, wallet)) :
    (∃ earlier before, engine.pipelines requestId = some earlier ∧
      earlier.moeLayerWalk = some (before, wallet)) ∨ stimulus.registry.Registered wallet := by
  have change := (next_change_sent sha256 enabled fresh requestId).sessionChange rfl
  have pinned : ∀ {earlier}, engine.pipelines requestId = some earlier →
      SameSession earlier pipeline → ∃ earlier before, engine.pipelines requestId = some earlier ∧
        earlier.moeLayerWalk = some (before, wallet) := by
    intro earlier was same
    have pin := same.pinned
    rw [walk] at pin
    obtain ⟨⟨before, _⟩, walked, rfl⟩ := Option.map_eq_some_iff.mp pin.symm
    exact ⟨earlier, before, was, walked⟩
  have dispatching : ∀ {current}, Dispatching engine requestId stimulus.event current →
      dispatched stimulus.registry engine.lastAssigned current = some pipeline →
        (∃ earlier before, engine.pipelines requestId = some earlier ∧
          earlier.moeLayerWalk = some (before, wallet)) ∨
        stimulus.registry.Registered wallet := by
    intro current dispatching stored
    rcases moeLayerWalk_of_dispatched stored walk with rfl | ⟨-, eligible⟩
    · obtain ⟨earlier, was, same⟩ := dispatching.sameSession (by simp [walk])
      exact .inl (pinned was same)
    · exact .inr eligible.1
  rw [present] at change
  generalize stored : some pipeline = later at change
  generalize sent sha256 engine stimulus requestId = emitted at change
  cases change with
  | quiet silent unmarked same =>
      obtain ⟨earlier, was, sameSession⟩ := same pipeline stored.symm
      exact .inl (pinned was sameSession)
  | dispatched onDispatch notAssign marked => exact dispatching onDispatch stored.symm
  | redispatched onDispatch => exact dispatching onDispatch stored.symm

/-- While the same wallets are connected at every event, pinned wallets stay
connected. -/
theorem pinnedConnected_of_steady {guard : ShardEngine → Stimulus → Prop} {wallets : Set Wallet}
    (run : (system sha256).RunWith
      (fun engine stimulus => guard engine stimulus ∧
        ∀ wallet, stimulus.registry.Registered wallet ↔ wallet ∈ wallets) new events engine) :
    (system sha256).RunWith (fun engine stimulus => guard engine stimulus ∧
      engine.PinnedConnected stimulus) new events engine := by
  apply run.strengthen (I := fun engine => engine.TicketsFresh ∧
    ∀ requestId pipeline layer wallet, engine.pipelines requestId = some pipeline →
      pipeline.moeLayerWalk = some (layer, wallet) → wallet ∈ wallets)
  · exact ⟨ticketsFresh_new, fun _ _ _ _ present => by cases present⟩
  · rintro state stimulus ⟨fresh, among⟩ enabled ⟨met, steady⟩
    refine ⟨⟨fresh.next enabled, ?_⟩, met, ?_⟩
    · intro requestId pipeline layer wallet present walk
      rcases pinned_next fresh enabled present walk with ⟨earlier, before, was, walked⟩ | connected
      · exact among requestId earlier before wallet was walked
      · exact (steady wallet).mp connected
    · intro requestId pipeline layer wallet present walk
      exact (steady wallet).mpr (among requestId pipeline layer wallet present walk)

end Runs

/-! ## A walk through two ranges -/

/-- Three layers in two ranges, each with one expert. -/
def walkGraph : ModelGraph :=
  ⟨[⟨0, "DENSE", some 0, some 1, none⟩, ⟨1, "DENSE", some 1, some 3, none⟩,
    ⟨2, "EXPERT", some 0, some 1, some 7⟩, ⟨3, "EXPERT", some 1, some 3, some 7⟩]⟩

/-- The miner's answer for a layer, routed to the expert. -/
def walkAnswer (shardIndex layer : Nat) (nextTokenId : Option TokenId) : Stimulus :=
  ⟨soleRegistry, .shardResult "miner"
    { soleResult shardIndex 0 nextTokenId with
      routerSelection := some [[⟨7, 0⟩]]
      moeLayerStep := some layer }⟩

/-- The start of the request, and the first layer.  The miner is banned while the
experts of that layer compute, so nobody is there for the next range, and answers the
layer again. -/
def strayEvents : List Stimulus :=
  [⟨soleRegistry, .receivePrompt "r" "00"⟩, ⟨soleRegistry, .pollBegin []⟩,
    ⟨soleRegistry, .pollListing (some [soleRequest 9])⟩,
    ⟨soleRegistry, .pollManifest (some { soleManifest with numLayers := 3 })⟩,
    ⟨soleRegistry, .pollGraph (some walkGraph)⟩, ⟨soleRegistry, .pollSource (some soleSource)⟩,
    ⟨soleRegistry, .pollClaim true false⟩, walkAnswer 0 0 none, soleResolved 0,
    ⟨soleRegistry, .sized 0 none⟩, walkJoined (soleRegistry.ban "miner") 0, walkAnswer 0 0 none,
    soleResolved 1, ⟨soleRegistry, .sized 1 none⟩, ⟨soleRegistry, .joined 1 none⟩]

/-- The tick dispatches the second range; the experts of its first layer fail. -/
def failedEvents : List Stimulus :=
  [⟨soleRegistry, .pollBegin ["r"]⟩, ⟨soleRegistry, .pollRetry (some soleSource)⟩,
    ⟨soleRegistry, .pollListing none⟩, walkAnswer 1 1 none, soleResolved 2,
    ⟨soleRegistry, .sized 2 none⟩, ⟨soleRegistry, .joined 2 none⟩]

/-- The next tick asks for the layer again; the last layer follows, and the reply
with the token. -/
def finishedEvents : List Stimulus :=
  [⟨soleRegistry, .pollBegin ["r"]⟩, ⟨soleRegistry, .pollRetry (some soleSource)⟩,
    walkAnswer 1 1 none, soleResolved 3, ⟨soleRegistry, .sized 3 none⟩, walkJoined soleRegistry 3,
    walkAnswer 1 2 none, soleResolved 4, ⟨soleRegistry, .sized 4 none⟩, walkJoined soleRegistry 4,
    walkAnswer 1 3 (some 5), soleResolved 5]

def walkEvents : List Stimulus :=
  strayEvents ++ failedEvents ++ finishedEvents

theorem registered_soleRegistry (wallet : Wallet) :
    soleRegistry.Registered wallet ↔ wallet ∈ ({"miner"} : Set Wallet) := by
  rw [MinerRegistry.registered_iff_mem_keys]
  exact List.mem_singleton

theorem claimsTiled_of_ne {engine : ShardEngine} {stimulus : Stimulus}
    (notClaim : ∀ claimed eligible, stimulus.event ≠ .pollClaim claimed eligible) :
    engine.ClaimsTiled stimulus :=
  fun claimed eligible _ _ _ _ _ _ isClaim => absurd isClaim (notClaim claimed eligible)

/-- The guard of the example run: one miner stays connected. -/
def SteadyGuard (engine : ShardEngine) (stimulus : Stimulus) : Prop :=
  (engine.settled stimulus = true ∧ engine.ClaimsTiled stimulus) ∧
    ∀ wallet, stimulus.registry.Registered wallet ↔ wallet ∈ ({"miner"} : Set Wallet)

/-- The tick claims a request. -/
def isClaim : Event → Bool
  | .pollClaim .. => true
  | _ => false

theorem steadyGuard_of_settled {engine : ShardEngine} {event : Event}
    (steady : (engine.settled ⟨soleRegistry, event⟩ && !isClaim event) = true) :
    engine.SteadyGuard ⟨soleRegistry, event⟩ := by
  obtain ⟨settled, noClaim⟩ := (Bool.and_eq_true ..).mp steady
  refine ⟨⟨settled, claimsTiled_of_ne ?_⟩, registered_soleRegistry⟩
  rintro claimed eligible rfl
  cases noClaim

theorem strayEvents_run : (system id).RunWith SteadyGuard new strayEvents
    ((system id).execute new strayEvents) := by
  apply System.Admits.runWith
  refine ⟨⟨trivial, steadyGuard_of_settled rfl⟩,
    ⟨⟨rfl, List.nodup_nil, nothing_stalled fun _ => rfl⟩, steadyGuard_of_settled rfl⟩,
    ⟨rfl, steadyGuard_of_settled rfl⟩, ⟨⟨_, _, rfl⟩, steadyGuard_of_settled rfl⟩,
    ⟨⟨_, _, _, _, rfl⟩, steadyGuard_of_settled rfl⟩,
    ⟨⟨_, _, _, _, _, rfl⟩, steadyGuard_of_settled rfl⟩,
    ⟨⟨_, _, _, _, _, _, rfl⟩, ⟨rfl, ?_⟩, registered_soleRegistry⟩,
    ⟨trivial, steadyGuard_of_settled rfl⟩, ⟨⟨_, _, rfl⟩, steadyGuard_of_settled rfl⟩,
    ⟨⟨_, rfl⟩, steadyGuard_of_settled rfl⟩,
    ⟨⟨_, rfl, fun _ => by decide⟩, ⟨rfl, claimsTiled_of_ne nofun⟩, registered_soleRegistry⟩,
    ⟨trivial, steadyGuard_of_settled rfl⟩, ⟨⟨_, _, rfl⟩, steadyGuard_of_settled rfl⟩,
    ⟨⟨_, rfl⟩, steadyGuard_of_settled rfl⟩,
    ⟨⟨_, rfl, fun answers => absurd rfl answers⟩, steadyGuard_of_settled rfl⟩, trivial⟩
  rintro claimed eligible req rest manifest promptHex graph source _ polling
  cases polling
  decide

theorem failedEvents_run : (system id).RunWith SteadyGuard new (strayEvents ++ failedEvents)
    ((system id).execute ((system id).execute new strayEvents) failedEvents) := by
  apply strayEvents_run.append
  apply System.Admits.runWith
  exact ⟨⟨⟨rfl, List.nodup_singleton _,
        stalled_singleton strayEvents_run (by decide) ⟨Option.some_ne_none _, rfl⟩⟩,
      steadyGuard_of_settled rfl⟩, ⟨⟨_, _, rfl⟩, steadyGuard_of_settled rfl⟩,
    ⟨rfl, steadyGuard_of_settled rfl⟩, ⟨trivial, steadyGuard_of_settled rfl⟩,
    ⟨⟨_, _, rfl⟩, steadyGuard_of_settled rfl⟩, ⟨⟨_, rfl⟩, steadyGuard_of_settled rfl⟩,
    ⟨⟨_, rfl, fun answers => absurd rfl answers⟩, steadyGuard_of_settled rfl⟩, trivial⟩

theorem walkEvents_run : (system id).RunWith SteadyGuard new walkEvents
    ((system id).execute new walkEvents) := by
  have last : (system id).execute new walkEvents = (system id).execute
      ((system id).execute ((system id).execute new strayEvents) failedEvents) finishedEvents := by
    rw [walkEvents, System.execute, List.foldl_append, List.foldl_append]
    rfl
  rw [last]
  apply failedEvents_run.append
  apply System.Admits.runWith
  exact ⟨⟨⟨rfl, List.nodup_singleton _,
        stalled_singleton failedEvents_run (by decide) ⟨Option.some_ne_none _, rfl⟩⟩,
      steadyGuard_of_settled rfl⟩, ⟨⟨_, _, rfl⟩, steadyGuard_of_settled rfl⟩,
    ⟨trivial, steadyGuard_of_settled rfl⟩, ⟨⟨_, _, rfl⟩, steadyGuard_of_settled rfl⟩,
    ⟨⟨_, rfl⟩, steadyGuard_of_settled rfl⟩,
    ⟨⟨_, rfl, fun _ => by decide⟩, steadyGuard_of_settled rfl⟩,
    ⟨trivial, steadyGuard_of_settled rfl⟩, ⟨⟨_, _, rfl⟩, steadyGuard_of_settled rfl⟩,
    ⟨⟨_, rfl⟩, steadyGuard_of_settled rfl⟩,
    ⟨⟨_, rfl, fun _ => by decide⟩, steadyGuard_of_settled rfl⟩,
    ⟨trivial, steadyGuard_of_settled rfl⟩, ⟨⟨_, _, rfl⟩, steadyGuard_of_settled rfl⟩, trivial⟩

/-- An instance of `layers_walked_in_order`: the single layer of the first range is
combined, its repeated answer comes to nothing, and both layers of the second range
are combined before the token is taken. -/
theorem layers_walked_in_order_first :
    WalksLayers ((system id).execute new walkEvents) "r" (trailOf id "r" walkEvents) ∧
      (trailOf id "r" walkEvents).map Trail.steps =
        some [.combined 0 (0, 1) 0, .combined 0 (1, 3) 1, .combined 0 (1, 3) 2,
          .took 0 (some 3)] := by
  have oneByOne : (system id).RunWith
      (fun engine stimulus => (engine.OneByOne stimulus ∧ engine.ClaimsTiled stimulus) ∧
        ∀ wallet, stimulus.registry.Registered wallet ↔ wallet ∈ ({"miner"} : Set Wallet))
      new walkEvents ((system id).execute new walkEvents) := by
    apply walkEvents_run.strengthen (I := TicketsFresh) ticketsFresh_new
    intro state stimulus fresh enabled met
    exact ⟨fresh.next enabled, ⟨oneByOne_of_settled fresh met.1.1, met.1.2⟩, met.2⟩
  have run : (system id).RunWith WalkPremises new walkEvents ((system id).execute new walkEvents) :=
    (pinnedConnected_of_steady oneByOne).mono fun _ _ met => ⟨met.1.1, met.2, met.1.2⟩
  exact ⟨layers_walked_in_order run "r", by decide⟩

end ShardEngine

end StratumBridge.Shard
