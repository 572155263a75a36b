import StratumBridge.Shard.Topology
import StratumBridge.Wire.Format

/-!
# Reports to the admin panel

`topology_report`: a tick takes the requests that have a pipeline, and posts the topology
snapshot of one after another, with the pool id merged into it.  While an answer is awaited
the engine goes on, so that a request may be gone when its turn comes.
-/

namespace StratumBridge.Wire

open Data Rpc
open Expert (PartKind PartStatus TopologyExpert TopologyPart TopologySnapshot)

/-! ## The snapshot as JSON -/

/-- An optional value that is written as null if there is none. -/
def nullable {α : Type} (codec : Codec Value α) : Codec Value (Option α) where
  write
    | none => .null
    | some a => codec.write a
  read value := if value.isNull then some none else (codec.read value).map some

/-- A counter of whatever width. -/
def counter : Codec Value Nat where
  write count := .integer count
  read
    | .integer value => some value.toNat
    | _ => none

/-- `TopologyPart::kind`. -/
def partKind : Codec Value PartKind where
  write
    | .dense => .string "dense"
    | .expertGroup => .string "expert_group"
  read value :=
    if value.asStr = some "dense" then some .dense
    else if value.asStr = some "expert_group" then some .expertGroup
    else none

/-- `TopologyPart::status`. -/
def partStatus : Codec Value PartStatus where
  write
    | .done => .string "done"
    | .current => .string "current"
    | .pending => .string "pending"
  read value :=
    if value.asStr = some "done" then some .done
    else if value.asStr = some "current" then some .current
    else if value.asStr = some "pending" then some .pending
    else none

open Data.Field (required)

def minerSnapshot : Record String Value MinerSnapshot :=
  (Record.cons (required "wallet" string) <|
    .cons (required "draft_capable" boolean) <|
    .cons (required "auditor_capable" boolean) <|
    .cons (required "expert_capable" boolean) <|
    .cons (required "expert_vram_mb" (nullable counter)) <|
    .cons (required "banned" boolean) .done).as
  ⟨fun (wallet, draftCapable, auditorCapable, expertCapable, expertVramMb, banned, _) =>
      ⟨wallet, draftCapable, auditorCapable, expertCapable, expertVramMb, banned⟩,
    fun miner => (miner.wallet, miner.draftCapable, miner.auditorCapable, miner.expertCapable,
      miner.expertVramMb, miner.banned, ()),
    fun _ => rfl, fun _ => rfl⟩

def topologyExpert : Record String Value TopologyExpert :=
  (Record.cons (required "expert_id" counter) <|
    .cons (required "wallet" (nullable string)) <|
    .cons (required "vram_mb" (nullable counter)) <|
    .cons (required "activated" boolean) .done).as
  ⟨fun (expertId, wallet, vramMb, activated, _) => ⟨expertId, wallet, vramMb, activated⟩,
    fun expert => (expert.expertId, expert.wallet, expert.vramMb, expert.activated, ()),
    fun _ => rfl, fun _ => rfl⟩

def topologyPart : Record String Value TopologyPart :=
  (Record.cons (required "kind" partKind) <|
    .cons (required "shard_index" counter) <|
    .cons (required "layer_start" counter) <|
    .cons (required "layer_end" counter) <|
    .cons (required "status" partStatus) <|
    .cons (required "primary_wallet" (nullable string)) <|
    .cons (required "primary_vram_mb" (nullable counter)) <|
    .cons (required "experts" topologyExpert.codec.list) .done).as
  ⟨fun (kind, shardIndex, layerStart, layerEnd, status, primaryWallet, primaryVramMb, experts, _) =>
      ⟨kind, shardIndex, layerStart, layerEnd, status, primaryWallet, primaryVramMb, experts⟩,
    fun part => (part.kind, part.shardIndex, part.layerStart, part.layerEnd, part.status,
      part.primaryWallet, part.primaryVramMb, part.experts, ()),
    fun _ => rfl, fun _ => rfl⟩

def topologySnapshot : Record String Value TopologySnapshot :=
  (Record.cons (required "request_id" string) <|
    .cons (required "model_id" string) <|
    .cons (required "arch_type" string) <|
    .cons (required "num_layers" counter) <|
    .cons (required "current_pos" counter) <|
    .cons (required "current_token_index" counter) <|
    .cons (required "parts" topologyPart.codec.list) <|
    .cons (required "connected_miners" minerSnapshot.codec.list) .done).as
  ⟨fun (requestId, modelId, archType, numLayers, currentPos, currentTokenIndex, parts, miners, _) =>
      ⟨requestId, modelId, archType, numLayers, currentPos, currentTokenIndex, parts, miners⟩,
    fun snapshot => (snapshot.requestId, snapshot.modelId, snapshot.archType, snapshot.numLayers,
      snapshot.currentPos, snapshot.currentTokenIndex, snapshot.parts, snapshot.connectedMiners,
      ()),
    fun _ => rfl, fun _ => rfl⟩

@[simp]
theorem survives_counter (count : Nat) : counter.Survives count :=
  rfl

@[simp]
theorem survives_partKind (kind : PartKind) : partKind.Survives kind := by
  cases kind <;> rfl

@[simp]
theorem survives_partStatus (status : PartStatus) : partStatus.Survives status := by
  cases status <;> rfl

/-- What is written must not look like null. -/
theorem survives_nullable {α : Type} (codec : Codec Value α)
    (present : ∀ a, (codec.write a).isNull = false) (a : Option α) :
    (nullable codec).Survives a ↔ ∀ held, a = some held → codec.Survives held := by
  cases a with
  | none => simp [Codec.Survives, nullable, Value.isNull]
  | some held => simp [Codec.Survives, nullable, present]

@[simp]
theorem survives_nullable_counter (count : Option Nat) : (nullable counter).Survives count := by
  rw [survives_nullable counter fun _ => rfl]
  exact fun _ _ => rfl

@[simp]
theorem survives_nullable_string (text : Option String) : (nullable string).Survives text := by
  rw [survives_nullable string fun _ => rfl]
  exact fun _ _ => rfl

@[simp]
theorem survives_minerSnapshot (miner : MinerSnapshot) : minerSnapshot.Survives miner := by
  simp [minerSnapshot]

@[simp]
theorem survives_topologyExpert (expert : TopologyExpert) : topologyExpert.Survives expert := by
  simp [topologyExpert]

@[simp]
theorem survives_topologyPart (part : TopologyPart) : topologyPart.Survives part := by
  simp [topologyPart]

@[simp]
theorem survives_topologySnapshot (snapshot : TopologySnapshot) :
    topologySnapshot.Survives snapshot := by
  simp [topologySnapshot]

end StratumBridge.Wire

namespace StratumBridge.Shard

open Data Rpc Wire Transition
open Expert (TopologySnapshot)

/-! ## The body of a report -/

/-- `Map::insert`. -/
def insertField (name : String) (value : Value) : List (String × Value) → List (String × Value)
  | [] => [(name, value)]
  | field :: fields =>
      if field.1 = name then (name, value) :: fields
      else field :: insertField name value fields

/-- `with_pool_id`. -/
def withPoolId (snapshotJson : Value) (poolId : String) : Value :=
  match snapshotJson with
  | .object map => .object (insertField "pool_id" (.string poolId) map)
  | other => other

/-- The body that is posted for a snapshot. -/
def reportBody (snapshot : TopologySnapshot) (poolId : String) : Value :=
  withPoolId (topologySnapshot.codec.write snapshot) poolId

theorem lookup_cons_ite (other : String) (field : String × Value)
    (fields : List (String × Value)) :
    (field :: fields).lookup other =
      if other = field.1 then some field.2 else fields.lookup other := by
  by_cases same : other = field.1
  · subst same
    rw [if_pos rfl, List.lookup_cons, beq_self_eq_true]
  · rw [if_neg same, List.lookup_cons, beq_eq_false_iff_ne.mpr same]

theorem lookup_insertField (name other : String) (value : Value) (fields : List (String × Value)) :
    (insertField name value fields).lookup other =
      if other = name then some value else fields.lookup other := by
  induction fields with
  | nil => exact lookup_cons_ite other (name, value) []
  | cons field fields ih =>
      rw [insertField]
      split
      · rename_i found
        rw [lookup_cons_ite, lookup_cons_ite, found]
        by_cases same : other = name <;> simp only [same, if_true, if_false]
      · rename_i elsewhere
        rw [lookup_cons_ite, lookup_cons_ite, ih]
        by_cases same : other = name
        · subst same
          rw [if_pos rfl, if_neg (Ne.symm elsewhere), if_pos rfl]
        · rw [if_neg same, if_neg same]

/-- The pool id replaces whatever is under its name, and every other field stays. -/
theorem get_reportBody (snapshot : TopologySnapshot) (poolId name : String) :
    (reportBody snapshot poolId).get name =
      if name = "pool_id" then some (.string poolId)
      else (topologySnapshot.write snapshot).lookup name :=
  lookup_insertField ..

/-- The snapshot is read back from its report. -/
theorem read_reportBody (snapshot : TopologySnapshot) (poolId : String) :
    topologySnapshot.codec.read (reportBody snapshot poolId) = some snapshot := by
  apply (survives_topologySnapshot snapshot).read_table
  intro name mem
  have foreign : name ≠ "pool_id" := by
    rintro rfl
    revert mem
    decide
  rw [lookup_insertField, if_neg foreign]

/-- Reports are told apart by their fields, in whatever order these stand, exactly if their
snapshots or their pool ids are. -/
theorem reportBody_inj_iff {first second : TopologySnapshot} {poolId otherId : String} :
    (∀ name, (reportBody first poolId).get name = (reportBody second otherId).get name) ↔
      first = second ∧ poolId = otherId := by
  constructor
  · intro same
    have pool := same "pool_id"
    rw [get_reportBody, get_reportBody, if_pos rfl, if_pos rfl] at pool
    cases pool
    refine ⟨?_, rfl⟩
    have read : topologySnapshot.codec.read (reportBody first poolId) = some second := by
      apply (survives_topologySnapshot second).read_table
      intro name mem
      have foreign : name ≠ "pool_id" := by
        rintro rfl
        revert mem
        decide
      have field := same name
      rw [get_reportBody second, if_neg foreign] at field
      exact field
    exact Option.some.inj ((read_reportBody first poolId).symm.trans read)
  · rintro ⟨rfl, rfl⟩ name
    rfl

/-! ## A tick -/

/-- Where reports go, and the pool they are for. -/
structure ReportTarget where
  reportUrl : String
  apiKey : String
  poolId : String

/-- A POST; the key is its header `x-admin-report-key`. -/
structure ReportPost where
  url : String
  apiKey : String
  body : Value

/-- `trim_end_matches`. -/
def trimEndMatches (text : String) (last : Char) : String :=
  String.ofList (text.toList.reverse.dropWhile fun char => char = last).reverse

/-- The POST of a snapshot. -/
def reportPost (target : ReportTarget) (snapshot : TopologySnapshot) : ReportPost where
  url := trimEndMatches target.reportUrl '/' ++ "/report"
  apiKey := target.apiKey
  body := reportBody snapshot target.poolId

/-- What a snapshot shows beside the engine. -/
structure Surroundings where
  registry : MinerRegistry
  walks : Nat → List (Expert.ExpertAssignmentKey × Wallet)

/-- The snapshot of a request at a moment. -/
def snapshotOf (engine : ShardEngine) (around : Surroundings) (requestId : RequestId) :
    Option TopologySnapshot :=
  Expert.topologySnapshot engine around.registry (engine.dispatchLog requestId) around.walks
    requestId

/-- The loop of `report_tick` up to its next post, and the requests left after that. -/
def nextReport (engine : ShardEngine) (around : Surroundings) :
    List RequestId → Option (TopologySnapshot × List RequestId)
  | [] => none
  | requestId :: rest =>
      match snapshotOf engine around requestId with
      | none => nextReport engine around rest
      | some snapshot => some (snapshot, rest)

/-- The reporting task beside the engine: while a post is being answered, the requests left
in the tick.  All posts are kept. -/
structure Reporter where
  engine : ShardEngine
  posting : Option (List RequestId)
  posts : List ReportPost

/-- What can happen. -/
inductive ReportEvent
  | engine (stimulus : Stimulus)
  | reportTick (active : List RequestId) (around : Surroundings)
  | answered (around : Surroundings)

/-- A tick begins. -/
def ReportEvent.isTick : ReportEvent → Bool
  | reportTick _ _ => true
  | _ => false

/-- What a snapshot would show beside the engine when the event happens. -/
def ReportEvent.around : ReportEvent → Option Surroundings
  | engine _ => none
  | reportTick _ around => some around
  | answered around => some around

namespace Reporter

/-- The tick goes on over the requests. -/
def resume (target : ReportTarget) (around : Surroundings) (requestIds : List RequestId)
    (reporter : Reporter) : Reporter :=
  match nextReport reporter.engine around requestIds with
  | none => { reporter with posting := none }
  | some (snapshot, rest) =>
      { reporter with
        posting := some rest
        posts := reporter.posts ++ [reportPost target snapshot] }

/-- One event.  Whatever is answered, the tick goes on. -/
def next (sha256 : Digest) (target : ReportTarget) (reporter : Reporter) : ReportEvent → Reporter
  | .engine stimulus =>
      { reporter with engine := ShardEngine.next sha256 reporter.engine stimulus }
  | .reportTick active around => resume target around active reporter
  | .answered around => resume target around (reporter.posting.getD []) reporter

/-- A tick begins after the one before has ended, with the requests that have a pipeline. -/
def enabled (reporter : Reporter) : ReportEvent → Prop
  | .engine stimulus => reporter.engine.enabled stimulus
  | .reportTick active _ =>
      reporter.posting = none ∧ active.Nodup ∧
        ∀ requestId, requestId ∈ active ↔ (reporter.engine.pipelines requestId).isSome
  | .answered _ => reporter.posting ≠ none

/-- The reporter as a system of events. -/
def system (sha256 : Digest) (target : ReportTarget) : System Reporter ReportEvent where
  enabled := enabled
  next := next sha256 target

/-- What a tick has posted by now: snapshots of the engine and its surroundings as they were
at a step of it, at most one of a request, and when it has ended, one of every request that
was there all along. -/
structure Reported (target : ReportTarget) (before : List ReportPost)
    (step : Reporter → ReportEvent → Prop) (moments : List Reporter)
    (snapshots : List TopologySnapshot) (reporter : Reporter) : Prop where
  posted : reporter.posts = before ++ snapshots.map (reportPost target)
  once : (snapshots.map TopologySnapshot.requestId).Nodup
  taken : ∀ snapshot ∈ snapshots, ∃ moment event around, step moment event ∧
    event.around = some around ∧
      snapshotOf moment.engine around snapshot.requestId = some snapshot
  all : reporter.posting = none → ∀ requestId,
    (∀ moment ∈ moments, (moment.engine.pipelines requestId).isSome) →
      requestId ∈ snapshots.map TopologySnapshot.requestId

variable {sha256 : Digest} {target : ReportTarget} {around : Surroundings}
  {active left : List RequestId} {reporter start : Reporter} {before : List ReportPost}
  {step : Reporter → ReportEvent → Prop} {moments : List Reporter}
  {snapshots : List TopologySnapshot}

theorem snapshotOf_eq_none_iff {engine : ShardEngine} {requestId : RequestId} :
    snapshotOf engine around requestId = none ↔ engine.pipelines requestId = none := by
  rw [snapshotOf, Expert.topologySnapshot]
  cases engine.pipelines requestId with
  | none => simp
  | some pipeline => simp

theorem requestId_of_snapshotOf {engine : ShardEngine} {requestId : RequestId}
    {snapshot : TopologySnapshot} (taken : snapshotOf engine around requestId = some snapshot) :
    snapshot.requestId = requestId := by
  rw [snapshotOf, Expert.topologySnapshot] at taken
  cases found : engine.pipelines requestId with
  | none =>
      rw [found] at taken
      cases taken
  | some pipeline =>
      rw [found] at taken
      cases taken
      rfl

/-- The loop ends over requests that are all gone. -/
theorem gone_of_nextReport {engine : ShardEngine}
    (ends : nextReport engine around left = none) :
    ∀ requestId ∈ left, engine.pipelines requestId = none := by
  induction left with
  | nil => exact List.forall_mem_nil _
  | cons requestId rest ih =>
      rw [nextReport] at ends
      cases taken : snapshotOf engine around requestId with
      | none =>
          rw [taken] at ends
          exact List.forall_mem_cons.mpr ⟨snapshotOf_eq_none_iff.mp taken, ih ends⟩
      | some snapshot =>
          rw [taken] at ends
          cases ends

/-- The loop passes over requests that are gone, and stops at the first one that is not. -/
theorem split_of_nextReport {engine : ShardEngine} {snapshot : TopologySnapshot}
    {rest : List RequestId} (stops : nextReport engine around left = some (snapshot, rest)) :
    ∃ gone, left = gone ++ snapshot.requestId :: rest ∧
      (∀ requestId ∈ gone, engine.pipelines requestId = none) ∧
      snapshotOf engine around snapshot.requestId = some snapshot := by
  induction left with
  | nil => cases stops
  | cons requestId others ih =>
      rw [nextReport] at stops
      cases taken : snapshotOf engine around requestId with
      | none =>
          rw [taken] at stops
          obtain ⟨gone, rfl, absent, shown⟩ := ih stops
          exact ⟨requestId :: gone, rfl,
            List.forall_mem_cons.mpr ⟨snapshotOf_eq_none_iff.mp taken, absent⟩, shown⟩
      | some found =>
          rw [taken] at stops
          cases stops
          cases requestId_of_snapshotOf taken
          exact ⟨[], rfl, List.forall_mem_nil _, taken⟩

/-- A tick under way: the requests it has been through, with those it has posted among them,
and those that are left. -/
structure Underway (target : ReportTarget) (before : List ReportPost) (active : List RequestId)
    (step : Reporter → ReportEvent → Prop) (moments : List Reporter)
    (snapshots : List TopologySnapshot) (through left : List RequestId)
    (posts : List ReportPost) : Prop where
  posted : posts = before ++ snapshots.map (reportPost target)
  split : active = through ++ left
  among : (snapshots.map TopologySnapshot.requestId).Sublist through
  taken : ∀ snapshot ∈ snapshots, ∃ moment event around, step moment event ∧
    event.around = some around ∧
      snapshotOf moment.engine around snapshot.requestId = some snapshot
  gone : ∀ requestId ∈ through, requestId ∈ snapshots.map TopologySnapshot.requestId ∨
    ∃ moment ∈ moments, moment.engine.pipelines requestId = none

section Tick

variable {through : List RequestId} {posts : List ReportPost}

theorem Underway.mono
    (underway : Underway target before active step moments snapshots through left posts)
    {more : Reporter → ReportEvent → Prop} {later : List Reporter}
    (continues : ∀ moment event, step moment event → more moment event)
    (grows : ∀ moment ∈ moments, moment ∈ later) :
    Underway target before active more later snapshots through left posts where
  posted := underway.posted
  split := underway.split
  among := underway.among
  taken snapshot mem := by
    obtain ⟨moment, event, around, seen, shown⟩ := underway.taken snapshot mem
    exact ⟨moment, event, around, continues moment event seen, shown⟩
  gone requestId mem := by
    rcases underway.gone requestId mem with reported | ⟨moment, seen, absent⟩
    · exact .inl reported
    · exact .inr ⟨moment, grows moment seen, absent⟩

/-- The tick goes on to its next post, or to its end. -/
theorem Underway.resume
    (underway : Underway target before active step moments snapshots through left reporter.posts)
    {event : ReportEvent} (stepped : step reporter event) (shows : event.around = some around)
    (now : ∃ moment ∈ moments, moment.engine = reporter.engine) :
    ∃ snapshots through, Underway target before active step moments snapshots through
      ((resume target around left reporter).posting.getD [])
      (resume target around left reporter).posts := by
  obtain ⟨moment, seen, same⟩ := now
  unfold Reporter.resume
  cases stops : nextReport reporter.engine around left with
  | none =>
      have absent := gone_of_nextReport stops
      refine ⟨snapshots, through ++ left, underway.posted, ?_, ?_, underway.taken, ?_⟩
      · rw [underway.split]
        exact (List.append_nil _).symm
      · exact underway.among.trans (List.sublist_append_left _ _)
      · intro requestId mem
        rcases List.mem_append.mp mem with earlier | now
        · exact underway.gone requestId earlier
        · exact .inr ⟨moment, seen, same ▸ absent requestId now⟩
  | some found =>
      obtain ⟨snapshot, rest⟩ := found
      obtain ⟨skipped, rfl, absent, shown⟩ := split_of_nextReport stops
      refine ⟨snapshots ++ [snapshot], through ++ (skipped ++ [snapshot.requestId]), ?_, ?_, ?_, ?_,
        ?_⟩
      · rw [List.map_append, ← List.append_assoc, ← underway.posted]
        rfl
      · rw [underway.split]
        simp
      · rw [List.map_append]
        exact underway.among.append (List.sublist_append_right _ _)
      · intro each mem
        rcases List.mem_append.mp mem with earlier | now
        · exact underway.taken each earlier
        · cases List.mem_singleton.mp now
          exact ⟨reporter, event, around, stepped, shows, shown⟩
      · intro requestId mem
        rw [List.map_append]
        rcases List.mem_append.mp mem with earlier | now
        · exact (underway.gone requestId earlier).imp_left (List.mem_append_left _)
        · rcases List.mem_append.mp now with missing | posted
          · exact .inr ⟨moment, seen, same ▸ absent requestId missing⟩
          · exact .inl (List.mem_append_right _ posted)

@[simp]
theorem resume_engine : (resume target around left reporter).engine = reporter.engine := by
  unfold resume
  split <;> rfl

/-- Between ticks, whatever the engine does, the tick that runs stays on its way. -/
theorem underway_of_run {first : ReportEvent} {events : List ReportEvent}
    (begins : (system sha256 target).enabled start first)
    (run : (system sha256 target).RunWith (fun _ event => event.isTick = false)
      ((system sha256 target).next start first) events reporter)
    (init : ∃ snapshots through, Underway target before active
      ((system sha256 target).Taken start [first]) [(system sha256 target).next start first]
      snapshots through (((system sha256 target).next start first).posting.getD [])
      ((system sha256 target).next start first).posts) :
    ∃ snapshots through, Underway target before active
      ((system sha256 target).Taken start (first :: events))
      ((system sha256 target).visited ((system sha256 target).next start first) events)
      snapshots through (reporter.posting.getD []) reporter.posts := by
  induction run with
  | nil => exact init
  | @snoc events state event run _ noTick ih =>
      obtain ⟨snapshots, through, underway⟩ := ih
      rw [System.visited_snoc, ← run.finish_eq, ← List.cons_append]
      have began : (system sha256 target).Run start (first :: events) state :=
        (System.RunWith.nil.snoc begins trivial).append run.run
      have later : Underway target before active
          ((system sha256 target).Taken start (first :: events ++ [event]))
          ((system sha256 target).visited ((system sha256 target).next start first) events ++
            [(system sha256 target).next state event]) snapshots through (state.posting.getD [])
          state.posts :=
        underway.mono (fun _ _ earlier => System.taken_snoc_iff.mpr (.inl earlier))
          fun moment mem => List.mem_append_left _ mem
      cases event with
      | engine stimulus => exact ⟨snapshots, through, later⟩
      | reportTick active around => cases noTick
      | answered around =>
          apply later.resume (System.taken_snoc_iff.mpr (.inr ⟨rfl, began⟩)) rfl
          exact ⟨_, List.mem_append_right _ List.mem_cons_self, resume_engine⟩

/-- In every run from the begin of a tick to the next one, whatever the engine does in
between, what has been posted is as it should be. -/
theorem reported_of_run {events : List ReportEvent}
    (begins : (system sha256 target).enabled start (.reportTick active around))
    (run : (system sha256 target).RunWith (fun _ event => event.isTick = false)
      ((system sha256 target).next start (.reportTick active around)) events reporter) :
    ∃ snapshots, Reported target start.posts
      ((system sha256 target).Taken start (.reportTick active around :: events))
      ((system sha256 target).visited
        ((system sha256 target).next start (.reportTick active around)) events) snapshots
      reporter := by
  have fresh : Underway target start.posts active
      ((system sha256 target).Taken start [.reportTick active around])
      [(system sha256 target).next start (.reportTick active around)] [] [] active start.posts :=
    ⟨(List.append_nil _).symm, rfl, .slnil, nofun, nofun⟩
  have begun : (system sha256 target).Taken start [.reportTick active around] start
      (.reportTick active around) := ⟨[], [], rfl, .nil⟩
  obtain ⟨snapshots, through, underway⟩ := underway_of_run begins run
    (fresh.resume begun rfl ⟨_, List.mem_cons_self, resume_engine⟩)
  obtain ⟨-, distinct, listed⟩ := begins
  refine ⟨snapshots, underway.posted, ?_, underway.taken, ?_⟩
  · rw [underway.split] at distinct
    exact distinct.of_append_left.sublist underway.among
  · intro ended requestId live
    have first : (system sha256 target).next start (.reportTick active around) ∈
        (system sha256 target).visited
          ((system sha256 target).next start (.reportTick active around)) events := by
      cases events <;> exact List.mem_cons_self
    have present : requestId ∈ active := by
      have here := live _ first
      rw [show ((system sha256 target).next start (.reportTick active around)).engine =
        start.engine from resume_engine] at here
      exact (listed requestId).mpr here
    rw [underway.split, ended, Option.getD_none, List.append_nil] at present
    rcases underway.gone requestId present with reported | ⟨moment, seen, absent⟩
    · exact reported
    · have here := live moment seen
      rw [absent] at here
      cases here

/-- Two requests with pipelines. -/
def pairEngine : ShardEngine :=
  { ShardEngine.new with
    pipelines := fun requestId =>
      if requestId = "r" ∨ requestId = "q" then
        some (ShardEngine.initialPipeline (ShardEngine.soleRequest 1) ShardEngine.soleManifest
          (ShardEngine.soleGraph 1) "00")
      else none }

def pairStart : Reporter :=
  ⟨pairEngine, none, []⟩

def pairTarget : ReportTarget :=
  ⟨"url/", "key", "pool"⟩

def pairAround : Surroundings :=
  ⟨ShardEngine.soleRegistry, fun _ => []⟩

/-- A miner leaves between the two posts. -/
def pairEvents : List ReportEvent :=
  [.engine ⟨ShardEngine.soleRegistry, .disconnect "miner"⟩, .answered pairAround,
    .answered pairAround]

/-- An instance of `reported_of_run`: a tick with two posts. -/
theorem reported_of_run_pair :
    ∃ snapshots, Reported pairTarget []
      ((system id pairTarget).Taken pairStart (.reportTick ["r", "q"] pairAround :: pairEvents))
      ((system id pairTarget).visited
      ((system id pairTarget).next pairStart (.reportTick ["r", "q"] pairAround)) pairEvents)
      snapshots ((system id pairTarget).execute
        ((system id pairTarget).next pairStart (.reportTick ["r", "q"] pairAround))
        pairEvents) := by
  have begins : (system id pairTarget).enabled pairStart (.reportTick ["r", "q"] pairAround) := by
    refine ⟨rfl, by decide, fun requestId => ?_⟩
    by_cases held : requestId = "r" ∨ requestId = "q" <;> simp [pairStart, pairEngine, held]
  have run : (system id pairTarget).RunWith (fun _ event => event.isTick = false)
      ((system id pairTarget).next pairStart (.reportTick ["r", "q"] pairAround)) pairEvents
      ((system id pairTarget).execute
        ((system id pairTarget).next pairStart (.reportTick ["r", "q"] pairAround))
        pairEvents) := by
    apply System.Admits.runWith
    exact ⟨⟨trivial, rfl⟩, ⟨nofun, rfl⟩, ⟨nofun, rfl⟩, trivial⟩
  exact reported_of_run begins run

end Tick

end Reporter

end StratumBridge.Shard
