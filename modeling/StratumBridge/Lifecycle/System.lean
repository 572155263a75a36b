import StratumBridge.Lifecycle.Commit
import StratumBridge.Transition.Run

/-!
# The submission lifecycle

One bridge process and its restarts, as far as they touch the submission
tables: the startup recovery, one commit task for each row, and the reveal tick
that also publishes.  Code between two awaits is one event.
-/

namespace StratumBridge.Lifecycle

open Data Wire Transition

/-- What csd does with a reveal. -/
inductive RevealAnswer
  | accepted (txid : String)
  /-- Accepted, but the bridge sees an error. -/
  | unheard
  | rejected
  deriving DecidableEq

/-- Where `poll_reveal_tick` stands. -/
inductive RevealTick
  | idle
  | revealing (candidate : RevealCandidate) (rest : List RevealCandidate)
      (groups : List (List RevealCandidate))
  | markingAttempt (candidate : RevealCandidate) (txid : String)
      (groups : List (List RevealCandidate))
  | markingSubmission (candidate : RevealCandidate) (txid : String)
      (groups : List (List RevealCandidate))
  /-- `list_revealed_unpublished` is under way. -/
  | listing
  | publishing (row : SubmissionId × Submission) (rest : List (SubmissionId × Submission))
  | pricing (row : SubmissionId × Submission) (rest : List (SubmissionId × Submission))
  | markingPublished (row : SubmissionId × Submission) (reward : Rat)
      (rest : List (SubmissionId × Submission))
  deriving DecidableEq

namespace RevealTick

/-- `try_reveal_any` on the next submission that has candidates. -/
def nextGroup : List (List RevealCandidate) → RevealTick
  | [] => .listing
  | [] :: groups => nextGroup groups
  | (candidate :: rest) :: groups => .revealing candidate rest groups

/-- `do_publish` on the next row. -/
def nextRow : List (SubmissionId × Submission) → RevealTick
  | [] => .idle
  | row :: rest => .publishing row rest

/-- The statement that is under way. -/
def statement (db : Database) : RevealTick → Option Database
  | .markingAttempt candidate txid _ => db.markAttemptRevealed candidate.attemptId txid
  | .markingSubmission candidate txid _ => db.markRevealed candidate.submissionId txid
  | .markingPublished row reward _ => db.markPublished row.1 reward
  | _ => none

/-- A statement is under way. -/
def writes : RevealTick → Bool
  | .markingAttempt _ _ _ => true
  | .markingSubmission _ _ _ => true
  | .markingPublished _ _ _ => true
  | _ => false

/-- What follows a statement, whatever became of it. -/
def written : RevealTick → RevealTick
  | .markingAttempt candidate txid groups => .markingSubmission candidate txid groups
  | .markingSubmission _ _ groups => nextGroup groups
  | .markingPublished _ _ rest => nextRow rest
  | tick => tick

/-- What follows the answer to a reveal. -/
def answered : RevealTick → RevealAnswer → RevealTick
  | .revealing candidate _ groups, .accepted txid => .markingAttempt candidate txid groups
  | .revealing _ rest groups, _ => nextGroup (rest :: groups)
  | tick, _ => tick

/-- What follows the answer to `submit_content`. -/
def contentSubmitted : RevealTick → Bool → RevealTick
  | .publishing row rest, true => .pricing row rest
  | .publishing _ rest, false => nextRow rest
  | tick, _ => tick

/-- What follows the look at the request's price. -/
def priced : RevealTick → Rat → RevealTick
  | .pricing row rest, reward => .markingPublished row reward rest
  | tick, _ => tick

end RevealTick

/-- Whether the process runs, and whether its recovery pass is over. -/
inductive Phase
  | down
  | recovering (queue : List SubmissionId)
  | serving
  deriving DecidableEq

/-- What csd said, and which successful commits were stored. -/
inductive Record
  | told (id : SubmissionId) (address : String) (nonceHex : String)
  | stored (id : SubmissionId) (address : String)
  | revealed (id : SubmissionId) (address : String)
  deriving DecidableEq

/-- The database, the tasks of the process, and a log of the records so far. -/
structure Service where
  db : Database
  phase : Phase
  commits : IndexMap SubmissionId CommitTask
  tick : RevealTick
  log : List Record

/-- What can happen to the service. -/
inductive Event
  /-- The process starts and reads the RECEIVED rows. -/
  | boot (queue : List SubmissionId)
  /-- The recovery pass goes on with the next row. -/
  | resume
  /-- The recovery pass is over, and the loops start. -/
  | serve
  | crash
  /-- A handler creates a row and, if it hears of it, spawns the commit task. -/
  | create (row : NewSubmission) (outcome : Outcome)
  | commit (id : SubmissionId) (signal : Signal)
  /-- A tick reads the chain height and the candidates. -/
  | tickBegin (height : UInt64) (groups : List (List RevealCandidate))
  | revealAnswered (answer : RevealAnswer)
  | tickWritten (outcome : Outcome)
  /-- The tick reads the revealed rows, or ends because that failed. -/
  | listed (rows : Option (List (SubmissionId × Submission)))
  | contentSubmitted (taken : Bool)
  | priced (reward : Rat)

/-- The candidates by submission, in any order that a hash map and a query
without `ORDER BY` may produce. -/
structure Grouping (candidates : List RevealCandidate) (groups : List (List RevealCandidate)) :
    Prop where
  perm : groups.flatten.Perm candidates
  together : ∀ group ∈ groups, ∀ first ∈ group, ∀ second ∈ group,
    first.submissionId = second.submissionId
  apart : groups.Pairwise fun group later => ∀ first ∈ group, ∀ second ∈ later,
    first.submissionId ≠ second.submissionId

namespace CommitTask

/-- What a signal adds to the log. -/
def records (id : SubmissionId) (db : Database) : CommitTask → Signal → List Record
  | .collecting _ _ _, .answered address (.ok result) => [.told id address result.nonceHex]
  | .persisting _ ((address, .ok result) :: _) _, .written outcome =>
      if outcome.applies ∧ (db.upsertCommitAttemptSuccess id address result).isSome then
        [.stored id address]
      else []
  | _, _ => []

end CommitTask

namespace Service

/-- Before the first start. -/
def new : Service :=
  ⟨Database.empty, .down, IndexMap.empty, .idle, []⟩

/-- A handler creates a row. -/
def create (pool : StakePool) (row : NewSubmission) (outcome : Outcome) (service : Service) :
    Service :=
  match outcome.applies, service.db.createSubmission row with
  | true, some db =>
      { service with
        db
        commits :=
          if outcome = .done then
            service.commits.insert service.db.submissions.nextId (CommitTask.start pool)
          else service.commits }
  | _, _ => service

/-- A commit task goes on. -/
def commit (pool : StakePool) (id : SubmissionId) (signal : Signal) (service : Service) :
    Service :=
  match service.commits.get? id with
  | some task =>
      { service with
        db := task.write id signal service.db
        commits :=
          match task.advance pool signal with
          | some rest => service.commits.insert id rest
          | none => service.commits.shiftRemove id
        log := service.log ++ task.records id service.db signal }
  | none => service

/-- The recovery pass spawns the task of the next row. -/
def resume (pool : StakePool) (service : Service) : Service :=
  match service.phase with
  | .recovering (id :: queue) =>
      { service with
        phase := .recovering queue
        commits := service.commits.insert id (CommitTask.start pool) }
  | _ => service

/-- csd answers the reveal that is under way. -/
def revealAnswered (answer : RevealAnswer) (service : Service) : Service :=
  match service.tick, answer with
  | .revealing _ _ _, .rejected => { service with tick := service.tick.answered answer }
  | .revealing candidate _ _, _ =>
      { service with
        tick := service.tick.answered answer
        log := service.log ++ [.revealed candidate.submissionId candidate.opoiAddress] }
  | _, _ => service

/-- One event. -/
def next (pool : StakePool) (service : Service) : Event → Service
  | .boot queue => { service with phase := .recovering queue }
  | .resume => service.resume pool
  | .serve => { service with phase := .serving }
  | .crash =>
      { service with
        phase := .down
        commits := IndexMap.empty
        tick := .idle }
  | .create row outcome => service.create pool row outcome
  | .commit id signal => service.commit pool id signal
  | .tickBegin _ groups => { service with tick := .nextGroup groups }
  | .revealAnswered answer => service.revealAnswered answer
  | .tickWritten outcome =>
      { service with
        db := outcome.settle (service.tick.statement service.db) service.db
        tick := service.tick.written }
  | .listed (some rows) => { service with tick := .nextRow rows }
  | .listed none => { service with tick := .idle }
  | .contentSubmitted taken => { service with tick := service.tick.contentSubmitted taken }
  | .priced reward => { service with tick := service.tick.priced reward }

/-- The events that can happen next. -/
def enabled (service : Service) : Event → Prop
  | .boot queue => service.phase = .down ∧ queue.Perm service.db.listReceived
  | .resume =>
      (∃ id queue, service.phase = .recovering (id :: queue)) ∧
        service.commits.entries.length < concurrency
  | .serve => service.phase = .recovering [] ∧ service.commits.entries = []
  | .crash => True
  | .create _ _ => service.phase = .serving
  | .commit id signal => ∃ task, service.commits.get? id = some task ∧ task.accepts signal
  | .tickBegin height groups =>
      service.phase = .serving ∧ service.tick = .idle ∧
        Grouping (service.db.listRevealReadyCandidates height) groups
  | .revealAnswered _ => ∃ candidate rest groups, service.tick = .revealing candidate rest groups
  | .tickWritten _ => service.tick.writes = true
  | .listed none => service.tick = .listing
  | .listed (some rows) =>
      service.tick = .listing ∧ rows.Perm service.db.listRevealedUnpublished
  | .contentSubmitted _ => ∃ row rest, service.tick = .publishing row rest
  | .priced _ => ∃ row rest, service.tick = .pricing row rest

/-- The lifecycle as a system of events. -/
def system (pool : StakePool) : System Service Event where
  enabled := enabled
  next := next pool

/-! ## An example deployment -/

/-- A stake pool of one address. -/
def solePool : StakePool :=
  ⟨["a"], by decide⟩

/-- A response to one request. -/
def soleResponse : NewSubmission where
  minerWallet := "w"
  requestId := "r"
  model := none
  promptHash := none
  responseHash := "h"
  responseHex := "00"
  tokenCount := 1

/-- The result of its commit. -/
def soleCommit : CommitResult :=
  ⟨"c", "n", 5⟩

/-- Its candidate once it is committed. -/
def soleCandidate : RevealCandidate :=
  ⟨1, 1, "a", "n", "r", "h", 1⟩

theorem grouping_sole : Grouping [soleCandidate] [[soleCandidate]] where
  perm := .refl _
  together := by decide
  apart := by decide

/-- The first start, and a response whose commit csd accepts. -/
def answeredEvents : List Event :=
  [.boot [], .serve, .create soleResponse .done, .commit 1 (.answered "a" (.ok soleCommit))]

theorem admits_answeredEvents :
    (system solePool).Admits (fun _ _ => True) new answeredEvents :=
  ⟨⟨⟨rfl, .refl _⟩, trivial⟩, ⟨⟨rfl, rfl⟩, trivial⟩, ⟨rfl, trivial⟩,
    ⟨⟨_, rfl, List.mem_singleton_self "a"⟩, trivial⟩, trivial⟩

end Service

end StratumBridge.Lifecycle
