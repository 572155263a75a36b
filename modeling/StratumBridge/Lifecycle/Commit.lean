import StratumBridge.Lifecycle.Rows

/-!
# The commit task

`do_commit` commits a response with every address of the stake pool, in up to
five rounds.  What an address answers, whether its attempt is stored and
whether the submission is marked are three separate things; the task goes on
whatever becomes of its writes.
-/

namespace StratumBridge.Lifecycle

open Data

/-- The bridge's stake identities; there is at least one. -/
structure StakePool where
  addresses : List String
  nonempty : addresses ≠ []

/-- How a write statement ends. -/
inductive Outcome
  | done
  /-- The statement was carried out, but its answer was lost. -/
  | unheard
  | failed
  deriving DecidableEq

/-- The statement was carried out. -/
def Outcome.applies : Outcome → Bool
  | .failed => false
  | _ => true

/-- The database after a statement: the result unless the statement failed or
was refused. -/
def Outcome.settle (outcome : Outcome) (result : Option Database) (db : Database) : Database :=
  if outcome.applies then result.getD db else db

/-- What csd answers to a commit: its result, or the text of an error. -/
abbrev CommitAnswer := Except String CommitResult

/-- Rounds of commits before the submission is given up. -/
def maxRounds : Nat :=
  5

/-- Commits that are under way at the same time. -/
def concurrency : Nat :=
  4

/-- Where a call of `do_commit` stands. -/
inductive CommitTask
  /-- Commits of a round are under way; answers are collected as they come. -/
  | collecting (round : Nat) (waiting : List String) (results : List (String × CommitAnswer))
  /-- The attempts of a round are being stored, the head of `results` now. -/
  | persisting (round : Nat) (results : List (String × CommitAnswer))
      (firstSuccess : Option CommitResult)
  /-- `mark_committed` is under way. -/
  | marking (result : CommitResult)
  /-- Suspended stakes are renewed before the next round. -/
  | resting (round : Nat)
  /-- `mark_failed` is under way. -/
  | failing
  deriving DecidableEq

/-- What a call of `do_commit` waits for. -/
inductive Signal
  | answered (address : String) (answer : CommitAnswer)
  | written (outcome : Outcome)
  | rested
  deriving DecidableEq

namespace CommitTask

/-- A round starts with every address of the pool. -/
def startRound (pool : StakePool) (round : Nat) : CommitTask :=
  .collecting round pool.addresses []

/-- The first round. -/
def start (pool : StakePool) : CommitTask :=
  startRound pool 1

/-- What comes after the last attempt of a round. -/
def endRound (round : Nat) : Option CommitResult → CommitTask
  | some result => .marking result
  | none => if round < maxRounds then .resting round else .failing

/-- Store the attempts that are left, or end the round. -/
def persist (round : Nat) (firstSuccess : Option CommitResult) :
    List (String × CommitAnswer) → CommitTask
  | [] => endRound round firstSuccess
  | results => .persisting round results firstSuccess

/-- Collect the answers that are left, or start storing the attempts. -/
def collect (round : Nat) (results : List (String × CommitAnswer)) : List String → CommitTask
  | [] => persist round none results
  | waiting => .collecting round waiting results

/-- The first success of a round, given the next answer. -/
def noteSuccess (firstSuccess : Option CommitResult) : CommitAnswer → Option CommitResult
  | .ok result => firstSuccess <|> some result
  | .error _ => firstSuccess

/-- The statement that stores an attempt. -/
def storeAttempt (id : SubmissionId) (address : String) (answer : CommitAnswer) (db : Database) :
    Option Database :=
  match answer with
  | .ok result => db.upsertCommitAttemptSuccess id address result
  | .error reason => db.upsertCommitAttemptFailure id address reason

/-- The signals a call can get: at most four commits are under way, in the
order of the pool. -/
def accepts : CommitTask → Signal → Prop
  | .collecting _ waiting _, .answered address _ => address ∈ waiting.take concurrency
  | .persisting _ (_ :: _) _, .written _ => True
  | .marking _, .written _ => True
  | .failing, .written _ => True
  | .resting _, .rested => True
  | _, _ => False

/-- The rest of the call, if any is left. -/
def advance (pool : StakePool) : CommitTask → Signal → Option CommitTask
  | .collecting round waiting results, .answered address answer =>
      some (collect round (results ++ [(address, answer)]) (waiting.erase address))
  | .persisting round ((_, answer) :: results) firstSuccess, .written _ =>
      some (persist round (noteSuccess firstSuccess answer) results)
  | .resting round, .rested => some (startRound pool (round + 1))
  | .marking _, .written _ => none
  | .failing, .written _ => none
  | task, _ => some task

/-- The reason under which a submission is given up. -/
def failureReason : String :=
  "all stake-pool addresses failed to commit"

/-- The statement that is under way. -/
def statement (id : SubmissionId) (db : Database) : CommitTask → Option Database
  | .persisting _ ((address, answer) :: _) _ => storeAttempt id address answer db
  | .marking result => db.markCommitted id result
  | .failing => db.markFailed id failureReason
  | _ => none

/-- The database after a signal to the call for `id`. -/
def write (id : SubmissionId) (task : CommitTask) (signal : Signal) (db : Database) : Database :=
  match signal with
  | .written outcome => outcome.settle (task.statement id db) db
  | _ => db

end CommitTask

end StratumBridge.Lifecycle
