import StratumBridge.Data.Table
import StratumBridge.Wire.Messages

/-!
# Submission rows

The tables `opoi_submissions` and `opoi_commit_attempts` and the statements the
bridge runs on them.  None of the updates looks at the status it replaces.
Timestamps are left out, and amounts are exact rationals.
-/

namespace StratumBridge.Lifecycle

open Data Wire

/-- The id of a row of `opoi_submissions`. -/
abbrev SubmissionId := Nat

/-- The status column of a submission. -/
inductive SubmissionStatus
  | received
  | committed
  | revealed
  | published
  | failed
  deriving DecidableEq

/-- A row of `opoi_submissions`. -/
structure Submission extends NewSubmission where
  status : SubmissionStatus
  failReason : Option String
  commitTxid : Option String
  commitNonceHex : Option String
  commitWindowClosesAtHeight : Option Int
  revealTxid : Option String
  contentPublished : Bool
  rewardAmount : Option Rat
  paid : Bool
  payoutTxid : Option String
  deriving DecidableEq

/-- `uq_opoi_submissions_active_request`: rows that are not FAILED have
distinct requests. -/
def Submission.activeRequest (row : Submission) : Option RequestId :=
  if row.status = .failed then none else some row.requestId

/-- The status column of a commit attempt. -/
inductive AttemptStatus
  | committed
  | revealed
  | failed
  deriving DecidableEq

/-- A row of `opoi_commit_attempts`. -/
structure CommitAttempt where
  submissionId : SubmissionId
  opoiAddress : String
  status : AttemptStatus
  commitTxid : Option String
  commitNonceHex : Option String
  commitWindowClosesAtHeight : Option Int
  revealTxid : Option String
  failReason : Option String
  deriving DecidableEq

/-- `uq_opoi_commit_attempts_submission_address`. -/
def CommitAttempt.target (attempt : CommitAttempt) : Option (SubmissionId × String) :=
  some (attempt.submissionId, attempt.opoiAddress)

/-- The two tables. -/
structure Database where
  submissions : Table Submission RequestId Submission.activeRequest
  attempts : Table CommitAttempt (SubmissionId × String) CommitAttempt.target

/-- What csd returns for an accepted commit. -/
structure CommitResult where
  txid : String
  nonceHex : String
  commitWindowClosesAtHeight : UInt64
  deriving DecidableEq

/-- The closing height as the `INTEGER` column stores it: `as i32`. -/
def CommitResult.closesAt (result : CommitResult) : Int :=
  result.commitWindowClosesAtHeight.toUInt32.toInt32.toInt

/-- An attempt that can be revealed, joined with its submission. -/
structure RevealCandidate where
  attemptId : Nat
  submissionId : SubmissionId
  opoiAddress : String
  nonceHex : String
  requestId : RequestId
  responseHash : String
  tokenCount : Int32
  deriving DecidableEq

/-- Failure reasons are cut to 2000 characters. -/
def truncated (reason : String) : String :=
  String.ofList (reason.toList.take 2000)

namespace Database

/-- A database without rows. -/
def empty : Database :=
  ⟨Table.empty, Table.empty⟩

/-- `create_submission`. -/
def createSubmission (row : NewSubmission) (db : Database) : Option Database := do
  let submissions ← db.submissions.insert
    { row with
      status := .received
      failReason := none
      commitTxid := none
      commitNonceHex := none
      commitWindowClosesAtHeight := none
      revealTxid := none
      contentPublished := false
      rewardAmount := none
      paid := false
      payoutTxid := none }
  pure { db with submissions }

/-- An update of one submission. -/
def updateSubmission (id : SubmissionId) (change : Submission → Submission) (db : Database) :
    Option Database := do
  let submissions ← db.submissions.update id change
  pure { db with submissions }

/-- `mark_committed`. -/
def markCommitted (id : SubmissionId) (result : CommitResult) (db : Database) :
    Option Database :=
  db.updateSubmission id fun row =>
    { row with
      status := .committed
      commitTxid := some result.txid
      commitNonceHex := some result.nonceHex
      commitWindowClosesAtHeight := some result.closesAt }

/-- `mark_revealed`. -/
def markRevealed (id : SubmissionId) (revealTxid : String) (db : Database) : Option Database :=
  db.updateSubmission id fun row =>
    { row with
      status := .revealed
      revealTxid := some revealTxid }

/-- `mark_published`. -/
def markPublished (id : SubmissionId) (rewardAmount : Rat) (db : Database) : Option Database :=
  db.updateSubmission id fun row =>
    { row with
      status := .published
      contentPublished := true
      rewardAmount := some rewardAmount }

/-- `mark_failed`. -/
def markFailed (id : SubmissionId) (reason : String) (db : Database) : Option Database :=
  db.updateSubmission id fun row =>
    { row with
      status := .failed
      failReason := some (truncated reason) }

/-- `list_received`. -/
def listReceived (db : Database) : List SubmissionId :=
  (db.submissions.select fun row => row.status = .received).map Prod.fst

/-- `list_revealed_unpublished`. -/
def listRevealedUnpublished (db : Database) : List (SubmissionId × Submission) :=
  db.submissions.select fun row => row.status = .revealed && !row.contentPublished

/-- `list_unpaid_published`.  `withheld` are the requests under an active
WITHHOLD_PAY consequence. -/
def listUnpaidPublished (withheld : List RequestId) (db : Database) :
    List (SubmissionId × Submission) :=
  db.submissions.select fun row =>
    row.status = .published && !row.paid && !withheld.contains row.requestId

/-- `mark_paid`. -/
def markPaid (requestIds : List RequestId) (payoutTxid : String) (db : Database) :
    Option Database := do
  let submissions ← db.submissions.updateWhere (fun row => requestIds.contains row.requestId)
    fun row =>
      { row with
        paid := true
        payoutTxid := some payoutTxid }
  pure { db with submissions }

/-- `upsert_commit_attempt_success`. -/
def upsertCommitAttemptSuccess (id : SubmissionId) (opoiAddress : String)
    (result : CommitResult) (db : Database) : Option Database := do
  let attempts ← db.attempts.upsert (id, opoiAddress)
    { submissionId := id
      opoiAddress
      status := .committed
      commitTxid := some result.txid
      commitNonceHex := some result.nonceHex
      commitWindowClosesAtHeight := some result.closesAt
      revealTxid := none
      failReason := none }
    fun attempt =>
      { attempt with
        status := .committed
        commitTxid := some result.txid
        commitNonceHex := some result.nonceHex
        commitWindowClosesAtHeight := some result.closesAt
        failReason := none }
  pure { db with attempts }

/-- `upsert_commit_attempt_failure`. -/
def upsertCommitAttemptFailure (id : SubmissionId) (opoiAddress : String) (reason : String)
    (db : Database) : Option Database := do
  let attempts ← db.attempts.upsert (id, opoiAddress)
    { submissionId := id
      opoiAddress
      status := .failed
      commitTxid := none
      commitNonceHex := none
      commitWindowClosesAtHeight := none
      revealTxid := none
      failReason := some (truncated reason) }
    fun attempt =>
      { attempt with
        status := .failed
        failReason := some (truncated reason) }
  pure { db with attempts }

/-- The candidate of an attempt, if it is COMMITTED with its window closed and
its submission is COMMITTED.  A COMMITTED attempt always has a nonce. -/
def revealCandidate (db : Database) (height : UInt64) :
    Nat × CommitAttempt → Option RevealCandidate
  | (attemptId, attempt) => do
      let row ← db.submissions.find? attempt.submissionId
      let closesAt ← attempt.commitWindowClosesAtHeight
      let nonceHex ← attempt.commitNonceHex
      if attempt.status = .committed ∧ closesAt ≤ height.toInt64.toInt ∧
          row.status = .committed then
        some
          { attemptId
            submissionId := attempt.submissionId
            opoiAddress := attempt.opoiAddress
            nonceHex
            requestId := row.requestId
            responseHash := row.responseHash
            tokenCount := row.tokenColumn }
      else none

/-- `list_reveal_ready_candidates`. -/
def listRevealReadyCandidates (height : UInt64) (db : Database) : List RevealCandidate :=
  db.attempts.rows.entries.filterMap (db.revealCandidate height)

/-- `mark_attempt_revealed`. -/
def markAttemptRevealed (attemptId : Nat) (revealTxid : String) (db : Database) :
    Option Database := do
  let attempts ← db.attempts.update attemptId fun attempt =>
    { attempt with
      status := .revealed
      revealTxid := some revealTxid }
  pure { db with attempts }

/-- The status of a submission. -/
def status (db : Database) (id : SubmissionId) : Option SubmissionStatus :=
  (db.submissions.find? id).map Submission.status

/-! ## Statuses after a statement -/

variable {db after : Database} {id : SubmissionId}

theorem status_createSubmission {row : NewSubmission}
    (created : db.createSubmission row = some after) (other : SubmissionId) :
    after.status other =
      if other = db.submissions.nextId then some .received else db.status other := by
  obtain ⟨submissions, inserted, same⟩ := Option.bind_eq_some_iff.mp created
  cases same
  rw [status, Table.find?_insert inserted, status]
  split <;> rfl

/-- The statement sets the status of one submission, if that exists. -/
def Marks (db : Database) (id : SubmissionId) (now : SubmissionStatus) (after : Database) :
    Prop :=
  ∀ other, after.status other =
    if other = id then (db.status id).map fun _ => now else db.status other

theorem marks_updateSubmission {change : Submission → Submission} {now : SubmissionStatus}
    (sets : ∀ row, (change row).status = now)
    (updated : db.updateSubmission id change = some after) : db.Marks id now after := by
  intro other
  obtain ⟨submissions, found, same⟩ := Option.bind_eq_some_iff.mp updated
  cases same
  rw [status, Table.find?_update found, status, status]
  split
  · cases db.submissions.find? id with
    | none => rfl
    | some row => simp [sets]
  · rfl

theorem marks_markCommitted {result : CommitResult}
    (marked : db.markCommitted id result = some after) : db.Marks id .committed after :=
  marks_updateSubmission (fun _ => rfl) marked

theorem marks_markRevealed {txid : String} (marked : db.markRevealed id txid = some after) :
    db.Marks id .revealed after :=
  marks_updateSubmission (fun _ => rfl) marked

theorem marks_markPublished {reward : Rat} (marked : db.markPublished id reward = some after) :
    db.Marks id .published after :=
  marks_updateSubmission (fun _ => rfl) marked

theorem marks_markFailed {reason : String} (marked : db.markFailed id reason = some after) :
    db.Marks id .failed after :=
  marks_updateSubmission (fun _ => rfl) marked

theorem attempts_updateSubmission {change : Submission → Submission}
    (updated : db.updateSubmission id change = some after) : after.attempts = db.attempts := by
  obtain ⟨submissions, updated, same⟩ := Option.bind_eq_some_iff.mp updated
  cases same
  rfl

theorem attempts_createSubmission {row : NewSubmission}
    (created : db.createSubmission row = some after) : after.attempts = db.attempts := by
  obtain ⟨submissions, inserted, same⟩ := Option.bind_eq_some_iff.mp created
  cases same
  rfl

theorem submissions_upsertCommitAttemptSuccess {address : String} {result : CommitResult}
    (upserted : db.upsertCommitAttemptSuccess id address result = some after) :
    after.submissions = db.submissions := by
  obtain ⟨attempts, upserted, same⟩ := Option.bind_eq_some_iff.mp upserted
  cases same
  rfl

theorem submissions_upsertCommitAttemptFailure {address reason : String}
    (upserted : db.upsertCommitAttemptFailure id address reason = some after) :
    after.submissions = db.submissions := by
  obtain ⟨attempts, upserted, same⟩ := Option.bind_eq_some_iff.mp upserted
  cases same
  rfl

theorem submissions_markAttemptRevealed {attemptId : Nat} {txid : String}
    (marked : db.markAttemptRevealed attemptId txid = some after) :
    after.submissions = db.submissions := by
  obtain ⟨attempts, updated, same⟩ := Option.bind_eq_some_iff.mp marked
  cases same
  rfl

/-- `mark_paid` pays the rows of its requests and leaves the others as they are. -/
theorem find?_markPaid {requestIds : List RequestId} {txid : String} {row : Submission}
    (marked : db.markPaid requestIds txid = some after)
    (found : db.submissions.find? id = some row) :
    ∃ now, after.submissions.find? id = some now ∧
      now.toNewSubmission = row.toNewSubmission ∧ now.rewardAmount = row.rewardAmount ∧
      (now.paid = true ↔ row.requestId ∈ requestIds ∨ row.paid = true) := by
  obtain ⟨submissions, updated, same⟩ := Option.bind_eq_some_iff.mp marked
  cases same
  rw [Table.find?_updateWhere updated, found, Option.map_some]
  refine ⟨_, rfl, ?_⟩
  by_cases listed : row.requestId ∈ requestIds
  · simp [listed]
  · simp [listed]

/-- A row of another request is not touched. -/
theorem find?_markPaid_of_unlisted {requestIds : List RequestId} {txid : String}
    (marked : db.markPaid requestIds txid = some after)
    (unlisted : ∀ row, db.submissions.find? id = some row → row.requestId ∉ requestIds) :
    after.submissions.find? id = db.submissions.find? id := by
  obtain ⟨submissions, updated, same⟩ := Option.bind_eq_some_iff.mp marked
  cases same
  rw [Table.find?_updateWhere updated]
  cases found : db.submissions.find? id with
  | none => rfl
  | some row => simp [unlisted row found]

/-- `mark_paid` creates no row. -/
theorem exists_of_find?_markPaid {requestIds : List RequestId} {txid : String} {now : Submission}
    (marked : db.markPaid requestIds txid = some after)
    (found : after.submissions.find? id = some now) :
    ∃ row, db.submissions.find? id = some row ∧
      now.toNewSubmission = row.toNewSubmission ∧ now.rewardAmount = row.rewardAmount ∧
      (now.paid = true ↔ row.requestId ∈ requestIds ∨ row.paid = true) := by
  cases stood : db.submissions.find? id with
  | none =>
      obtain ⟨submissions, updated, same⟩ := Option.bind_eq_some_iff.mp marked
      cases same
      rw [Table.find?_updateWhere updated, stood] at found
      cases found
  | some row =>
      obtain ⟨kept, stands, facts⟩ := find?_markPaid marked stood
      cases found.symm.trans stands
      exact ⟨row, rfl, facts⟩

/-- `mark_paid` is never refused. -/
theorem exists_markPaid (db : Database) (requestIds : List RequestId) (txid : String) :
    ∃ after, db.markPaid requestIds txid = some after := by
  have accepted : (db.submissions.updateWhere (fun row => requestIds.contains row.requestId)
      fun row =>
        { row with
          paid := true
          payoutTxid := some txid }).isSome = true :=
    Table.updateWhere_isSome fun _ => rfl
  obtain ⟨submissions, updated⟩ := Option.isSome_iff_exists.mp accepted
  exact ⟨{ db with submissions }, Option.bind_eq_some_iff.mpr ⟨submissions, updated, rfl⟩⟩

end Database

end StratumBridge.Lifecycle
