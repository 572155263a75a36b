import StratumBridge.Lifecycle.Rows
import StratumBridge.Opoi.Engine

/-!
# One submitted result

A call of `handle_submit_result` from its checks to the commit task that it starts,
with the engine, the database and the tasks in one place.  It either changes nothing
or does all that an accepted result calls for.
-/

namespace StratumBridge.Opoi

open Data Rpc Wire Lifecycle

/-- What a commit task is started with. -/
structure CommitArgs where
  submissionId : SubmissionId
  requestId : RequestId
  responseHash : String
  tokenCount : UInt32
  deriving DecidableEq

/-- The engine, the submissions, and the commit tasks started so far. -/
structure Counter where
  engine : OpoiEngine
  db : Database
  commits : List CommitArgs

/-- `find_active_by_request_id`. -/
def findActiveByRequestId (requestId : RequestId) (db : Database) : Option SubmissionId :=
  db.submissions.idOf requestId

/-- No row of the request is found only when all of them are FAILED. -/
theorem failed_of_findActive {requestId : RequestId} {db : Database} {id : SubmissionId}
    {row : Submission} (missing : findActiveByRequestId requestId db = none)
    (found : db.submissions.find? id = some row) (same : row.requestId = requestId) :
    row.status = .failed := by
  have unkeyed := Table.idOf_eq_none missing found
  by_contra active
  rw [Submission.activeRequest, if_neg active, same] at unkeyed
  exact unkeyed rfl

namespace Counter

/-- What the insert of a row leads to. -/
def store (params : OpoiSubmitResultParams) (row : NewSubmission) (stored : Bool)
    (counter : Counter) : Except AppError SubmissionId × Counter :=
  match stored, counter.db.createSubmission row with
  | true, some db =>
      let id := counter.db.submissions.nextId
      (.ok id,
        { engine :=
            { counter.engine with
              assignments := counter.engine.assignments.remove params.requestId
              pending := counter.engine.pending.remove params.requestId }
          db
          commits :=
            counter.commits ++ [⟨id, params.requestId, params.responseHash, params.tokenCount⟩] })
  | _, _ => (.error .db, counter)

/-- What comes of the checks behind the first, if the query is carried out. -/
def verdict (sha256 : Digest) (wallet : Wallet) (params : OpoiSubmitResultParams)
    (looked : Bool) (counter : Counter) : Except AppError NewSubmission :=
  OpoiEngine.verdict sha256 wallet params (counter.engine.pending params.requestId)
    (if looked then some (findActiveByRequestId params.requestId counter.db).isSome else none)

/-- `handle_submit_result`; the query and the insert are carried out or fail. -/
def handleSubmitResult (sha256 : Digest) (wallet : Wallet) (params : OpoiSubmitResultParams)
    (looked stored : Bool) (counter : Counter) : Except AppError SubmissionId × Counter :=
  match counter.engine.assignments.assignee params.requestId with
  | none => (.error .unknownRequest, counter)
  | some assigned =>
      if assigned ≠ wallet then
        (.error .notAssignedToCaller, counter)
      else
        match counter.verdict sha256 wallet params looked with
        | .error error => (.error error, counter)
        | .ok row => counter.store params row stored

variable {sha256 : Digest} {wallet : Wallet} {params : OpoiSubmitResultParams}
  {looked stored : Bool} {counter after : Counter}

/-! ## Refusal -/

theorem store_error {row : NewSubmission} {error : AppError}
    (refused : counter.store params row stored = (.error error, after)) : after = counter := by
  unfold store at refused
  split at refused
  · cases refused
  · cases refused
    rfl

theorem handleSubmitResult_error {error : AppError}
    (refused : counter.handleSubmitResult sha256 wallet params looked stored =
      (.error error, after)) : after = counter := by
  unfold handleSubmitResult at refused
  split at refused
  · cases refused
    rfl
  · split at refused
    · cases refused
      rfl
    · split at refused
      · cases refused
        rfl
      · exact store_error refused

/-! ## Acceptance -/

/-- What an accepted insert leaves. -/
structure Stores (params : OpoiSubmitResultParams) (row : NewSubmission) (id : SubmissionId)
    (counter after : Counter) : Prop where
  fresh : counter.db.submissions.find? id = none
  present : ∃ now, after.db.submissions.find? id = some now ∧ now.toNewSubmission = row ∧
    now.status = .received
  others : ∀ other, other ≠ id →
    after.db.submissions.find? other = counter.db.submissions.find? other
  attempts : after.db.attempts = counter.db.attempts
  engine : after.engine =
    { counter.engine with
      assignments := counter.engine.assignments.remove params.requestId
      pending := counter.engine.pending.remove params.requestId }
  commits : after.commits =
    counter.commits ++ [⟨id, params.requestId, params.responseHash, params.tokenCount⟩]

theorem store_ok {row : NewSubmission} {id : SubmissionId}
    (accepted : counter.store params row stored = (.ok id, after)) :
    counter.Stores params row id after := by
  unfold store at accepted
  split at accepted
  · rename_i db created
    cases accepted
    obtain ⟨submissions, inserted, same⟩ := Option.bind_eq_some_iff.mp created
    cases same
    have found := Table.find?_insert inserted
    exact
      { fresh := Table.find?_nextId _
        present := ⟨_, (found _).trans (if_pos rfl), rfl, rfl⟩
        others := fun other ne => (found other).trans (if_neg ne)
        attempts := rfl
        engine := rfl
        commits := rfl }
  · cases accepted

/-- A row is made only of a result that passed every check. -/
theorem of_verdict {row : NewSubmission}
    (passed : counter.verdict sha256 wallet params looked = .ok row) :
    findActiveByRequestId params.requestId counter.db = none ∧
      row = OpoiEngine.submissionRow wallet params (counter.engine.pending params.requestId) ∧
      ∃ raw, hexDecode params.responseHex = some raw ∧
        OpoiEngine.eqIgnoreAsciiCase (sha256Hex sha256 raw) params.responseHash = true := by
  unfold verdict OpoiEngine.verdict at passed
  split at passed
  · cases passed
  · cases passed
  · rename_i inactive
    have missing : findActiveByRequestId params.requestId counter.db = none := by
      split at inactive
      · have unfound := Option.isSome_eq_false_iff.mp (Option.some.inj inactive)
        exact Option.isNone_iff_eq_none.mp unfound
      · cases inactive
    split at passed
    · cases passed
    · rename_i raw decoded
      split at passed
      · rename_i same
        cases passed
        exact ⟨missing, rfl, raw, decoded, same⟩
      · cases passed

theorem handleSubmitResult_ok {id : SubmissionId}
    (accepted : counter.handleSubmitResult sha256 wallet params looked stored = (.ok id, after)) :
    counter.engine.assignments params.requestId = some wallet ∧
      ∃ row, counter.verdict sha256 wallet params looked = .ok row ∧
        counter.Stores params row id after := by
  unfold handleSubmitResult at accepted
  split at accepted
  · cases accepted
  · rename_i assigned held
    split at accepted
    · cases accepted
    · rename_i isCaller
      rw [ne_eq, not_not] at isCaller
      subst isCaller
      split at accepted
      · cases accepted
      · rename_i row passed
        exact ⟨held, row, passed, store_ok accepted⟩

/-- A result is refused without a trace.  One that is accepted was assigned to its
wallet, had no submission, and carries the hash of its bytes; one RECEIVED row is added
for it, it leaves the assignments and the cache, and one commit task is started. -/
theorem handleSubmitResult_atomic (sha256 : Digest) (wallet : Wallet)
    (params : OpoiSubmitResultParams) (looked stored : Bool) (counter : Counter) :
    (∀ error after, counter.handleSubmitResult sha256 wallet params looked stored =
      (.error error, after) → after = counter) ∧
    (∀ id after, counter.handleSubmitResult sha256 wallet params looked stored =
      (.ok id, after) →
      counter.engine.assignments params.requestId = some wallet ∧
      (∀ other row, counter.db.submissions.find? other = some row →
        row.requestId = params.requestId → row.status = .failed) ∧
      (∃ raw, hexDecode params.responseHex = some raw ∧
        OpoiEngine.eqIgnoreAsciiCase (sha256Hex sha256 raw) params.responseHash = true) ∧
      (counter.db.submissions.find? id = none ∧
        (∃ row, after.db.submissions.find? id = some row ∧ row.status = .received ∧
          row.minerWallet = wallet ∧ row.requestId = params.requestId ∧
          row.responseHash = params.responseHash ∧ row.responseHex = params.responseHex ∧
          row.tokenColumn = params.tokenCount.toInt32) ∧
        (∀ other, other ≠ id →
          after.db.submissions.find? other = counter.db.submissions.find? other) ∧
        after.db.attempts = counter.db.attempts) ∧
      after.engine =
        { counter.engine with
          assignments := counter.engine.assignments.remove params.requestId
          pending := counter.engine.pending.remove params.requestId } ∧
      after.commits = counter.commits ++
        [⟨id, params.requestId, params.responseHash, params.tokenCount⟩]) := by
  refine ⟨fun _ _ refused => handleSubmitResult_error refused, fun id after accepted => ?_⟩
  obtain ⟨assigned, made, passed, stores⟩ := handleSubmitResult_ok accepted
  obtain ⟨inactive, rfl, hashed⟩ := of_verdict passed
  rcases stores.present with ⟨row, found, same, received⟩
  have column : row.tokenColumn = params.tokenCount.toInt32 := by
    rw [same]
    change (UInt32.ofNat params.tokenCount.toNat).toInt32 = _
    rw [UInt32.ofNat_toNat]
  refine ⟨assigned, fun other row => failed_of_findActive inactive, hashed,
    ⟨stores.fresh, ⟨row, found, received, ?_⟩, stores.others, stores.attempts⟩, stores.engine,
    stores.commits⟩
  rw [same] at column ⊢
  exact ⟨rfl, rfl, rfl, rfl, column⟩

/-! ## The steps of the handler -/

/-- The steps of a handler that is never kept waiting. -/
def steps (sha256 : Digest) (wallet : Wallet) (params : OpoiSubmitResultParams)
    (active : Option Bool) (created : Bool) (engine : OpoiEngine) : OpoiEngine :=
  ((engine.handleSubmitResult wallet params).resumeChecked sha256 engine.nextTicket
    active).resumeCreated engine.nextTicket created

theorem steps_refused (sha256 : Digest) (wallet : Wallet) (params : OpoiSubmitResultParams)
    (active : Option Bool) (engine : OpoiEngine) :
    (steps sha256 wallet params active false engine).assignments = engine.assignments ∧
      (steps sha256 wallet params active false engine).pending = engine.pending := by
  have begun : (engine.handleSubmitResult wallet params).assignments = engine.assignments ∧
      (engine.handleSubmitResult wallet params).pending = engine.pending := by
    unfold OpoiEngine.handleSubmitResult
    split
    · exact ⟨rfl, rfl⟩
    · split <;> exact ⟨rfl, rfl⟩
  have checked : ∀ engine : OpoiEngine, ∀ ticket,
      (engine.resumeChecked sha256 ticket active).assignments = engine.assignments ∧
        (engine.resumeChecked sha256 ticket active).pending = engine.pending := by
    intro engine ticket
    unfold OpoiEngine.resumeChecked
    split
    · split <;> exact ⟨rfl, rfl⟩
    · exact ⟨rfl, rfl⟩
  have failed : ∀ engine : OpoiEngine, ∀ ticket,
      (engine.resumeCreated ticket false).assignments = engine.assignments ∧
        (engine.resumeCreated ticket false).pending = engine.pending := by
    intro engine ticket
    unfold OpoiEngine.resumeCreated
    split
    · rw [if_neg Bool.false_ne_true]
      exact ⟨rfl, rfl⟩
    · exact ⟨rfl, rfl⟩
  constructor
  · exact (failed _ _).1.trans ((checked _ _).1.trans begun.1)
  · exact (failed _ _).2.trans ((checked _ _).2.trans begun.2)

theorem resumeCreated_true {engine : OpoiEngine} {ticket : Nat} {row : NewSubmission}
    (waiting : engine.calls ticket = some (.creating row)) :
    (engine.resumeCreated ticket true).assignments = engine.assignments.remove row.requestId ∧
      (engine.resumeCreated ticket true).pending = engine.pending.remove row.requestId := by
  unfold OpoiEngine.resumeCreated
  rw [waiting]
  exact ⟨rfl, rfl⟩

theorem steps_accepted {engine : OpoiEngine} {active : Option Bool} {row : NewSubmission}
    (assigned : engine.assignments params.requestId = some wallet)
    (passed : OpoiEngine.verdict sha256 wallet params (engine.pending params.requestId) active =
      .ok row) :
    (steps sha256 wallet params active true engine).assignments =
        engine.assignments.remove row.requestId ∧
      (steps sha256 wallet params active true engine).pending =
        engine.pending.remove row.requestId := by
  have begun : engine.handleSubmitResult wallet params =
      engine.park (.checking wallet params) := by
    rw [OpoiEngine.handleSubmitResult, AssignmentTracker.assignee, assigned]
    exact if_neg (not_not.mpr rfl)
  have parked : (engine.park (.checking wallet params)).calls engine.nextTicket =
      some (.checking wallet params) := PartialMap.insert_self ..
  have checked : (engine.park (.checking wallet params)).resumeChecked sha256 engine.nextTicket
      active = { engine.park (.checking wallet params) with
        calls := (engine.park (.checking wallet params)).calls.insert engine.nextTicket
          (.creating row) } := by
    have same : (engine.park (.checking wallet params)).pending = engine.pending := rfl
    simp only [OpoiEngine.resumeChecked, parked, same, passed]
  have waiting : ((engine.park (.checking wallet params)).resumeChecked sha256 engine.nextTicket
      active).calls engine.nextTicket = some (.creating row) := by
    rw [checked]
    exact PartialMap.insert_self ..
  have stored := resumeCreated_true waiting
  rw [checked] at stored
  rw [steps, begun, checked]
  exact stored

/-- They change the assignments and the cache as the call does. -/
theorem steps_handleSubmitResult (sha256 : Digest) (wallet : Wallet)
    (params : OpoiSubmitResultParams) (looked stored : Bool) (counter : Counter) :
    let call := counter.handleSubmitResult sha256 wallet params looked stored
    let active := if looked then
      some (findActiveByRequestId params.requestId counter.db).isSome else none
    (steps sha256 wallet params active call.1.isOk counter.engine).assignments =
        call.2.engine.assignments ∧
      (steps sha256 wallet params active call.1.isOk counter.engine).pending =
        call.2.engine.pending := by
  intro call active
  cases outcome : call.1 with
  | error error =>
      have unchanged : call.2 = counter := handleSubmitResult_error (Prod.ext outcome rfl)
      rw [unchanged]
      exact steps_refused sha256 wallet params active counter.engine
  | ok id =>
      rcases handleSubmitResult_ok (Prod.ext outcome rfl : call = (.ok id, call.2)) with
        ⟨assigned, row, passed, stores⟩
      rw [stores.engine]
      have same : row.requestId = params.requestId := by
        rw [(of_verdict passed).2.1]
        rfl
      have done := steps_accepted assigned passed
      rw [same] at done
      exact done

end Counter

end StratumBridge.Opoi
