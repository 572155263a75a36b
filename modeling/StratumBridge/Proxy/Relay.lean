import StratumBridge.Proxy.Session
import StratumBridge.Transition.Run

/-!
# What a session relays

The lines of the bridge's own methods stay with the bridge, and all others go on,
each once, in order and as they came.  What is written is always a beginning of that;
the rest waits in the queue of a writer until it is written or the writer ends.
Every line that asks for a reply gets one with its id, when its handler returns if it
has one.
-/

namespace StratumBridge.Proxy

open Data Rpc Transition

/-- What can happen to a session: its readers read a line, a handler returns, an
engine sends a line, a writer writes its next line or fails to, the registry changes
elsewhere, a reader ends, and at last the writers are aborted. -/
inductive Event
  | minerLine (line : String)
  | handlerReturned (dbText : String) (returned : Except AppError Int)
  | poolLine (line : String)
  | pushed (line : String)
  | wroteDown
  | wroteUp
  | failedDown
  | failedUp
  | elsewhere (registry : MinerRegistry)
  | finished
  | aborted

namespace Session

/-- One event. -/
def next (serde : Serde) (session : Session) : Event → Session
  | .minerLine line => session.readDown serde line
  | .handlerReturned dbText returned => session.handlerReturned dbText returned
  | .poolLine line => session.readUp serde line
  | .pushed line => session.sendDown (.pushed line)
  | .wroteDown => { session with down := session.down.writeNext }
  | .wroteUp => { session with up := session.up.writeNext }
  | .failedDown => { session with down := session.down.close }
  | .failedUp => { session with up := session.up.close }
  | .elsewhere registry => { session with registry := registry }
  | .finished => session.finish
  | .aborted => session.abort

/-- A line has no newline; the miner's reader waits for its handler, and only the
writers outlive the readers. -/
def enabled (session : Session) : Event → Prop
  | .minerLine line =>
      session.phase = .relaying ∧ session.handling.isNone ∧ '\n' ∉ line.toList
  | .handlerReturned _ _ => session.phase = .relaying ∧ session.handling.isSome
  | .poolLine line => session.phase = .relaying ∧ '\n' ∉ line.toList
  | .finished => session.phase = .relaying
  | .aborted => session.phase = .ending
  | _ => True

/-- A session as a system of events. -/
def system (serde : Serde) : System Session Event where
  enabled := enabled
  next := next serde

end Session

/-! ## What is to be relayed -/

/-- The lines of the miner, as they were read. -/
def minerLines (events : List Event) : List String :=
  events.filterMap fun event =>
    match event with
    | .minerLine line => some line
    | _ => none

/-- The lines of the pool, as they were read. -/
def poolLines (events : List Event) : List String :=
  events.filterMap fun event =>
    match event with
    | .poolLine line => some line
    | _ => none

/-- The kinds of lines that go to a handler. -/
def kinds : List Kind :=
  [.submitResult, .shardResult, .auditResult, .expertResult, .draftResult, .kvRollbackAck]

/-- The methods of a miner's line that the bridge keeps to itself. -/
def ownMethods : List String :=
  "opoi.capabilities" :: kinds.map Kind.method

/-- The line of a miner is for the pool. -/
def forPool (serde : Serde) (line : String) : Bool :=
  !(method (serde.fromStr line)).any ownMethods.contains

/-- The line of the pool is for the miner. -/
def forMiner (serde : Serde) (line : String) : Bool :=
  !(method (serde.fromStr line)).any isOpoi

/-- The id of a line that is to be answered. -/
def idToAnswer (serde : Serde) (line : String) : Option Value :=
  let value := serde.fromStr line
  ((method value).bind fun name => kinds.find? fun kind => kind.method == name).bind fun kind =>
    if kind.answered then some (idOf value) else none

/-- The line of the pool that a line for the miner is. -/
def Outgoing.ofPool : Outgoing → Option String
  | relayed line => some line
  | _ => none

/-- The id that a reply carries. -/
def Outgoing.repliesTo : Outgoing → Option (Option Value)
  | reply value => some (value.get "id")
  | _ => none

/-- The id of a reply that is still to come. -/
def Session.awaited (session : Session) : List Value :=
  (session.handling.bind fun handling =>
    if handling.kind.answered then some handling.id else none).toList

/-- The bridge's own lines and the others are kept apart, and nothing is lost,
repeated or moved on the way to a writer. -/
structure Separates (serde : Serde) (events : List Event) (session : Session) : Prop where
  upstream : session.up.Carries ((minerLines events).filter (forPool serde))
  downstream : ∃ sent, session.down.Carries sent ∧
    sent.filterMap Outgoing.ofPool = (poolLines events).filter (forMiner serde) ∧
    sent.filterMap Outgoing.repliesTo ++ session.awaited.map some =
      ((minerLines events).filterMap (idToAnswer serde)).map some
  sameUp : ∀ line ∈ session.up.written, terminated line = line ++ "\n"
  sameDown : ∀ line, .relayed line ∈ session.down.written →
    terminated ((Outgoing.relayed line).text serde) = line ++ "\n"

/-! ## One line of the miner -/

variable {serde : Serde} {session after : Session} {events : List Event} {event : Event}
  {line : String}

/-- What a line of the miner does: it goes to the pool, is refused in a reply, is handed
to a handler, or stays without a reply. -/
inductive Reads (serde : Serde) (line : String) (session after : Session) : Prop
  | relayed (outside : forPool serde line = true) (unasked : idToAnswer serde line = none)
      (up : after.up = session.up.send line) (down : after.down = session.down)
      (handling : after.handling = session.handling)
  | refused (own : forPool serde line = false) (id error : Value)
      (asked : idToAnswer serde line = some id) (up : after.up = session.up)
      (down : after.down = session.down.send (.reply (buildError id error)))
      (handling : after.handling = session.handling)
  | handed (own : forPool serde line = false) (handling : Handling)
      (asked : idToAnswer serde line =
        if handling.kind.answered then some handling.id else none)
      (up : after.up = session.up) (down : after.down = session.down)
      (handed : after.handling = some handling)
  | kept (own : forPool serde line = false) (unasked : idToAnswer serde line = none)
      (up : after.up = session.up) (down : after.down = session.down)
      (handling : after.handling = session.handling)

theorem forPool_of_kind {kind : Kind} (named : method (serde.fromStr line) = some kind.method) :
    forPool serde line = false := by
  rw [forPool, named, Option.any_some, Bool.not_eq_false']
  cases kind <;> decide

theorem idToAnswer_of_kind {kind : Kind}
    (named : method (serde.fromStr line) = some kind.method) :
    idToAnswer serde line =
      if kind.answered then some (idOf (serde.fromStr line)) else none := by
  have found : kinds.find? (fun other => other.method == kind.method) = some kind := by
    cases kind <;> decide
  rw [idToAnswer, named, Option.bind_some, found, Option.bind_some]

theorem intercept_reads {kind : Kind}
    (named : method (serde.fromStr line) = some kind.method) :
    Reads serde line session (session.intercept serde kind (serde.fromStr line)) := by
  have own := forPool_of_kind named
  have asked := idToAnswer_of_kind named
  have refuses (error : Value) : Reads serde line session
      (if kind.answered then
        session.sendDown (.reply (buildError (idOf (serde.fromStr line)) error))
      else session) := by
    cases answered : kind.answered with
    | true =>
        rw [answered, if_pos rfl] at asked
        rw [if_pos rfl]
        exact .refused own _ error asked rfl rfl rfl
    | false =>
        rw [answered, if_neg Bool.false_ne_true] at asked
        rw [if_neg Bool.false_ne_true]
        exact .kept own asked rfl rfl rfl
  unfold Session.intercept
  dsimp only
  split
  · exact refuses _
  · split
    · exact refuses _
    · exact .handed own _ asked rfl rfl rfl

/-- A line of no method of the bridge goes to the pool and gets no reply from here. -/
theorem outside_iff : forPool serde line = true ↔
    ∀ name ∈ ownMethods, method (serde.fromStr line) ≠ some name := by
  cases named : method (serde.fromStr line) with
  | none => simp [forPool, named]
  | some name =>
      simp only [forPool, named, Option.any_some, Bool.not_eq_true', List.contains_eq_mem,
        decide_eq_false_iff_not, ne_eq, Option.some.injEq]
      constructor
      · rintro outside other mem rfl
        exact outside mem
      · intro foreign mem
        exact foreign name mem rfl

theorem unasked_of_outside (outside : forPool serde line = true) :
    idToAnswer serde line = none := by
  rw [idToAnswer]
  cases found : (method (serde.fromStr line)).bind
      fun name => kinds.find? fun kind => kind.method == name with
  | none => rfl
  | some kind =>
      obtain ⟨name, named, first⟩ := Option.bind_eq_some_iff.mp found
      have matched := List.find?_some first
      have same : kind.method = name := eq_of_beq matched
      have listed : kind ∈ kinds := List.mem_of_find?_eq_some first
      refine absurd named ?_
      rw [← same]
      exact outside_iff.mp outside _ (List.mem_cons_of_mem _ (List.mem_map_of_mem listed))

theorem sendUp_reads (outside : forPool serde line = true) (up : after.up = session.up)
    (down : after.down = session.down) (handling : after.handling = session.handling) :
    Reads serde line session (after.sendUp line) := by
  refine .relayed outside (unasked_of_outside outside) ?_ down handling
  rw [Session.sendUp, up]

/-- What one line of the miner does. -/
theorem readDown_reads : Reads serde line session (session.readDown serde line) := by
  unfold Session.readDown
  dsimp only
  split
  · exact intercept_reads ‹_›
  · exact intercept_reads ‹_›
  · exact intercept_reads ‹_›
  · exact intercept_reads ‹_›
  · exact intercept_reads ‹_›
  · exact intercept_reads ‹_›
  · rename_i named
    have own : forPool serde line = false := by
      rw [forPool, named]
      decide
    have unasked : idToAnswer serde line = none := by
      rw [idToAnswer, named]
      rfl
    unfold Session.readCapabilities
    split
    · exact .kept own unasked rfl rfl rfl
    · exact .kept own unasked rfl rfl rfl
  · rename_i named
    have outside : forPool serde line = true := by
      rw [forPool, named]
      decide
    unfold Session.readAuthorize
    split
    · exact sendUp_reads outside rfl rfl rfl
    · exact sendUp_reads outside rfl rfl rfl
  · rename_i named
    have outside : forPool serde line = true := by
      rw [forPool, named]
      decide
    exact sendUp_reads outside rfl rfl rfl
  · have outside : forPool serde line = true := by
      refine outside_iff.mpr ?_
      simp only [ownMethods, kinds, List.map_cons, List.map_nil, Kind.method, List.forall_mem_cons]
      simp_all
    exact sendUp_reads outside rfl rfl rfl

/-! ## Runs -/

/-- What is kept of the two outboxes. -/
structure Kept (serde : Serde) (events : List Event) (session : Session) : Prop where
  upstream : session.up.Carries ((minerLines events).filter (forPool serde))
  downstream : ∃ sent, session.down.Carries sent ∧
    sent.filterMap Outgoing.ofPool = (poolLines events).filter (forMiner serde) ∧
    sent.filterMap Outgoing.repliesTo ++ session.awaited.map some =
      ((minerLines events).filterMap (idToAnswer serde)).map some
  unbroken : ∀ line ∈ minerLines events ++ poolLines events, '\n' ∉ line.toList

theorem kept_start (tx : Channel) (registry : MinerRegistry) :
    Kept serde [] (.start tx registry) where
  upstream := Outbox.carries_empty
  downstream := ⟨[], Outbox.carries_empty, rfl, rfl⟩
  unbroken line mem := by cases mem

/-- The event reads no line. -/
def Event.isQuiet : Event → Bool
  | minerLine _ => false
  | poolLine _ => false
  | _ => true

theorem lines_of_isQuiet (events : List Event) (event : Event) (quiet : event.isQuiet = true) :
    minerLines (events ++ [event]) = minerLines events ∧
      poolLines (events ++ [event]) = poolLines events := by
  cases event with
  | minerLine line => cases quiet
  | poolLine line => cases quiet
  | _ => simp [minerLines, poolLines]

theorem minerLines_snoc (events : List Event) (line : String) :
    minerLines (events ++ [.minerLine line]) = minerLines events ++ [line] ∧
      poolLines (events ++ [.minerLine line]) = poolLines events := by
  simp [minerLines, poolLines]

theorem poolLines_snoc (events : List Event) (line : String) :
    minerLines (events ++ [.poolLine line]) = minerLines events ∧
      poolLines (events ++ [.poolLine line]) = poolLines events ++ [line] := by
  simp [minerLines, poolLines]

/-- An event that reads no line, and sends lines of the bridge's own. -/
theorem Kept.sends (kept : Kept serde events session) (quiet : event.isQuiet = true)
    (up : ∀ sent, session.up.Carries sent → after.up.Carries sent) {own : List Outgoing}
    (down : ∀ sent, session.down.Carries sent → after.down.Carries (sent ++ own))
    (unrelayed : own.filterMap Outgoing.ofPool = [])
    (answers : own.filterMap Outgoing.repliesTo ++ after.awaited.map some =
      session.awaited.map some) : Kept serde (events ++ [event]) after := by
  rcases kept.downstream with ⟨sent, carries, relayed, replies⟩
  have lines := lines_of_isQuiet events event quiet
  constructor
  · rw [lines.1]
    exact up _ kept.upstream
  · refine ⟨sent ++ own, down sent carries, ?_, ?_⟩
    · rw [lines.2, List.filterMap_append, unrelayed, List.append_nil]
      exact relayed
    · rw [lines.1, List.filterMap_append, List.append_assoc, answers]
      exact replies
  · rw [lines.1, lines.2]
    exact kept.unbroken

/-- An event that reads no line and sends none. -/
theorem Kept.quiet (kept : Kept serde events session) (quiet : event.isQuiet = true)
    (up : ∀ sent, session.up.Carries sent → after.up.Carries sent)
    (down : ∀ sent, session.down.Carries sent → after.down.Carries sent)
    (awaited : after.awaited = session.awaited) : Kept serde (events ++ [event]) after := by
  have nothing : ∀ sent, session.down.Carries sent → after.down.Carries (sent ++ []) := by
    intro sent carries
    rw [List.append_nil]
    exact down sent carries
  exact kept.sends quiet up nothing rfl (congrArg (List.map some) awaited)

theorem Kept.minerLine (kept : Kept serde events session) (whole : '\n' ∉ line.toList)
    (idle : session.handling = none) (reads : Reads serde line session after) :
    Kept serde (events ++ [.minerLine line]) after := by
  rcases kept.downstream with ⟨sent, carries, relayed, replies⟩
  have lines := minerLines_snoc events line
  have unbroken : ∀ other ∈ minerLines (events ++ [.minerLine line]) ++
      poolLines (events ++ [.minerLine line]), '\n' ∉ other.toList := by
    intro other mem
    rw [lines.1, lines.2, List.append_assoc, List.mem_append, List.mem_append] at mem
    rcases mem with old | new | old
    · exact kept.unbroken other (List.mem_append_left _ old)
    · cases List.mem_singleton.mp new
      exact whole
    · exact kept.unbroken other (List.mem_append_right _ old)
  have stays (own : forPool serde line = false) :
      (minerLines (events ++ [.minerLine line])).filter (forPool serde) =
        (minerLines events).filter (forPool serde) := by
    rw [lines.1, List.filter_append, List.filter_cons_of_neg (by rw [own]; decide)]
    exact List.append_nil _
  have ids : ((minerLines (events ++ [.minerLine line])).filterMap (idToAnswer serde)).map some =
      sent.filterMap Outgoing.repliesTo ++ (idToAnswer serde line).toList.map some := by
    have nothing : session.awaited = [] := by rw [Session.awaited, idle]; rfl
    rw [nothing, List.map_nil, List.append_nil] at replies
    rw [lines.1, List.filterMap_append, List.map_append, ← replies]
    cases asked : idToAnswer serde line with
    | none => simp [asked]
    | some id => simp [asked]
  cases reads with
  | relayed outside unasked up down handling =>
      refine ⟨?_, ⟨sent, down ▸ carries, lines.2 ▸ relayed, ?_⟩, unbroken⟩
      · rw [lines.1, List.filter_append, List.filter_cons_of_pos outside, up]
        exact kept.upstream.send line
      · rw [ids, unasked, Session.awaited, handling, idle]
        rfl
  | refused own id error asked up down handling =>
      refine ⟨?_, ⟨_, down ▸ carries.send _, ?_, ?_⟩, unbroken⟩
      · rw [stays own, up]
        exact kept.upstream
      · rw [lines.2, List.filterMap_append, relayed]
        exact List.append_nil _
      · rw [ids, asked, Session.awaited, handling, idle, List.filterMap_append]
        exact List.append_nil _
  | handed own handling asked up down handed =>
      refine ⟨?_, ⟨sent, down ▸ carries, lines.2 ▸ relayed, ?_⟩, unbroken⟩
      · rw [stays own, up]
        exact kept.upstream
      · rw [ids, asked, Session.awaited, handed]
        rfl
  | kept own unasked up down handling =>
      refine ⟨?_, ⟨sent, down ▸ carries, lines.2 ▸ relayed, ?_⟩, unbroken⟩
      · rw [stays own, up]
        exact kept.upstream
      · rw [ids, unasked, Session.awaited, handling, idle]
        rfl

/-- A line of the pool, which goes to the miner or is dropped. -/
theorem readUp_cases (serde : Serde) (line : String) (session : Session) :
    (session.readUp serde line).up = session.up ∧
      (session.readUp serde line).handling = session.handling ∧
      (session.readUp serde line).down =
        if forMiner serde line then session.down.send (.relayed line) else session.down := by
  have confirms (value : Option Value) : (session.confirm value).up = session.up ∧
      (session.confirm value).handling = session.handling ∧
      (session.confirm value).down = session.down := by
    unfold Session.confirm
    split
    · exact ⟨rfl, rfl, rfl⟩
    · split
      · split
        · exact ⟨rfl, rfl, rfl⟩
        · exact ⟨rfl, rfl, rfl⟩
      · exact ⟨rfl, rfl, rfl⟩
  rw [Session.readUp, forMiner]
  cases (method (serde.fromStr line)).any isOpoi with
  | true => exact ⟨rfl, rfl, rfl⟩
  | false =>
      obtain ⟨up, handling, down⟩ := confirms (serde.fromStr line)
      refine ⟨up, handling, ?_⟩
      rw [if_neg Bool.false_ne_true, Bool.not_false, if_pos rfl, Session.sendDown, down]

theorem Kept.poolLine (kept : Kept serde events session) (whole : '\n' ∉ line.toList) :
    Kept serde (events ++ [.poolLine line]) (session.readUp serde line) := by
  rcases kept.downstream with ⟨sent, carries, relayed, replies⟩
  obtain ⟨up, handling, down⟩ := readUp_cases serde line session
  have lines := poolLines_snoc events line
  have awaited : (session.readUp serde line).awaited = session.awaited := by
    rw [Session.awaited, handling, Session.awaited]
  constructor
  · rw [lines.1, up]
    exact kept.upstream
  · rw [lines.1, lines.2, awaited, down, List.filter_append]
    cases passes : forMiner serde line with
    | true =>
        refine ⟨_, carries.send (.relayed line), ?_, ?_⟩
        · rw [List.filterMap_append, relayed, List.filter_cons_of_pos passes]
          rfl
        · rw [List.filterMap_append, ← replies]
          simp [Outgoing.repliesTo]
    | false =>
        refine ⟨sent, carries, ?_, replies⟩
        rw [relayed, List.filter_cons_of_neg (by rw [passes]; decide)]
        exact (List.append_nil _).symm
  · rw [lines.1, lines.2]
    intro other mem
    rcases List.mem_append.mp mem with old | mem
    · exact kept.unbroken other (List.mem_append_left _ old)
    · rcases List.mem_append.mp mem with old | new
      · exact kept.unbroken other (List.mem_append_right _ old)
      · cases List.mem_singleton.mp new
        exact whole

/-- A handler returns, and its line is answered. -/
theorem Kept.handlerReturned (kept : Kept serde events session) {handling : Handling}
    (awaits : session.handling = some handling) (dbText : String)
    (returned : Except AppError Int) :
    Kept serde (events ++ [.handlerReturned dbText returned])
      (session.handlerReturned dbText returned) := by
  have answers (result error : Value) (answered : handling.kind.answered = true) :
      Kept serde (events ++ [.handlerReturned dbText returned])
        ({ session with handling := none }.sendDown (.reply (reply handling.id result error))) := by
    have awaited : session.awaited = [handling.id] := by
      rw [Session.awaited, awaits, Option.bind_some, if_pos answered]
      rfl
    refine kept.sends rfl (fun _ carries => carries) (fun _ carries => carries.send _) rfl ?_
    rw [awaited]
    rfl
  unfold Session.handlerReturned
  rw [awaits]
  dsimp only
  cases answered : handling.kind.answered with
  | true =>
      rw [if_pos rfl]
      cases returned with
      | ok submissionId => exact answers _ _ answered
      | error error => exact answers _ _ answered
  | false =>
      rw [if_neg Bool.false_ne_true]
      refine kept.quiet rfl (fun _ carries => carries) (fun _ carries => carries) ?_
      rw [Session.awaited, Session.awaited, awaits, Option.bind_some, answered,
        if_neg Bool.false_ne_true]
      rfl

/-- Every event keeps the outboxes. -/
theorem Kept.next (kept : Kept serde events session) (enabled : session.enabled event) :
    Kept serde (events ++ [event]) (session.next serde event) := by
  cases event with
  | minerLine line =>
      rcases enabled with ⟨-, idle, whole⟩
      exact kept.minerLine whole (Option.isNone_iff_eq_none.mp idle) readDown_reads
  | handlerReturned dbText returned =>
      obtain ⟨handling, awaits⟩ := Option.isSome_iff_exists.mp enabled.2
      exact kept.handlerReturned awaits dbText returned
  | poolLine line => exact kept.poolLine enabled.2
  | pushed line =>
      exact kept.sends rfl (fun _ carries => carries)
        (fun _ carries => carries.send (.pushed line)) rfl rfl
  | wroteDown =>
      exact kept.quiet rfl (fun _ carries => carries) (fun _ carries => carries.writeNext) rfl
  | wroteUp =>
      exact kept.quiet rfl (fun _ carries => carries.writeNext) (fun _ carries => carries) rfl
  | failedDown =>
      exact kept.quiet rfl (fun _ carries => carries) (fun _ carries => carries.close) rfl
  | failedUp =>
      exact kept.quiet rfl (fun _ carries => carries.close) (fun _ carries => carries) rfl
  | elsewhere registry =>
      exact kept.quiet rfl (fun _ carries => carries) (fun _ carries => carries) rfl
  | finished => exact kept.quiet rfl (fun _ carries => carries) (fun _ carries => carries) rfl
  | aborted =>
      exact kept.quiet rfl (fun _ carries => carries.close) (fun _ carries => carries.close) rfl

/-- A line without a newline gets one. -/
theorem terminated_eq (whole : '\n' ∉ line.toList) : terminated line = line ++ "\n" := by
  refine if_neg ?_
  intro last
  exact whole (List.mem_of_getLast? last)

/-- In every run the lines of the bridge's own methods stay with the bridge, and all the
other lines are written as they came, once and in order, for as long as their writer
lives; and every line that asks for a reply gets one with its id. -/
theorem separates_of_run {tx : Channel} {registry : MinerRegistry}
    (run : (Session.system serde).Run (.start tx registry) events session) :
    Separates serde events session := by
  have kept : Kept serde events session := by
    induction run with
    | nil => exact kept_start tx registry
    | snoc _ enabled _ ih => exact ih.next enabled
  rcases kept.downstream with ⟨sent, carries, relayed, replies⟩
  refine ⟨kept.upstream, kept.downstream, ?_, ?_⟩
  · intro line mem
    have passed := List.mem_filter.mp (kept.upstream.inOrder.subset mem)
    exact terminated_eq (kept.unbroken line (List.mem_append_left _ passed.1))
  · intro line mem
    have among : line ∈ sent.filterMap Outgoing.ofPool :=
      List.mem_filterMap.mpr ⟨_, carries.inOrder.subset mem, rfl⟩
    rw [relayed] at among
    have passed := List.mem_filter.mp among
    exact terminated_eq (kept.unbroken line (List.mem_append_right _ passed.1))

/-! ## Short sessions -/

/-- The lines of the examples. -/
def authorizeLine : String :=
  "\x7b\"id\":2,\"method\":\"mining.authorize\",\"params\":[\"w.rig\"]\x7d"

def authorizedLine : String :=
  "\x7b\"id\":2,\"result\":true\x7d"

def submitLine : String :=
  "\x7b\"id\":5,\"method\":\"opoi.submit_result\",\"params\":[]\x7d"

def pingLine : String :=
  "\x7b\"method\":\"opoi.ping\"\x7d"

/-- What they are read as. -/
def sampleSerde : Serde where
  fromStr text :=
    if text = authorizeLine then
      some (.object [("id", .integer 2), ("method", .string "mining.authorize"),
        ("params", .array [.string "w.rig"])])
    else if text = authorizedLine then
      some (.object [("id", .integer 2), ("result", .bool true)])
    else if text = submitLine then
      some (.object [("id", .integer 5), ("method", .string "opoi.submit_result"),
        ("params", .array [])])
    else if text = pingLine then
      some (.object [("method", .string "opoi.ping")])
    else
      none
  fromValue _ _ := false
  toText _ := ""

/-- A miner is authorized, and submits a result without its parameter. -/
def sampleEvents : List Event :=
  [.minerLine authorizeLine, .wroteUp, .poolLine authorizedLine, .wroteDown,
    .minerLine submitLine, .wroteDown]

theorem separates_sample : Separates sampleSerde sampleEvents
    ((Session.system sampleSerde).execute (.start 0 .new) sampleEvents) := by
  have admitted : (Session.system sampleSerde).Admits (fun _ _ => True) (.start 0 .new)
      sampleEvents :=
    ⟨⟨⟨rfl, rfl, by decide⟩, trivial⟩, ⟨trivial, trivial⟩, ⟨⟨rfl, by decide⟩, trivial⟩,
      ⟨trivial, trivial⟩, ⟨⟨rfl, rfl, by decide⟩, trivial⟩, ⟨trivial, trivial⟩, trivial⟩
  exact separates_of_run admitted.runWith

/-- A method of the bridge that no handler knows goes to the pool. -/
theorem unknown_method_relayed :
    ∃ events session, (Session.system sampleSerde).Run (.start 0 .new) events session ∧
      ∃ line ∈ session.up.written, (method (sampleSerde.fromStr line)).any isOpoi = true := by
  have admitted : (Session.system sampleSerde).Admits (fun _ _ => True) (.start 0 .new)
      [.minerLine pingLine, .wroteUp] :=
    ⟨⟨⟨rfl, rfl, by decide⟩, trivial⟩, ⟨trivial, trivial⟩, trivial⟩
  refine ⟨_, _, admitted.runWith, pingLine, ?_, by decide⟩
  exact List.mem_singleton_self _

end StratumBridge.Proxy
