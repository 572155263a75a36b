import StratumBridge.Data.PartialMap
import StratumBridge.Registry.Core
import StratumBridge.Wire.Codec
import Mathlib.Data.List.Infix

/-!
# The whole-model engine

`OpoiEngine` up to the stored submission: the cache of pending requests, the
tracker of assignments, and the tick that pushes a request with a prompt to the
next connected miner.  Code between two awaits is one step; a handler that
waits is parked under its ticket.
-/

namespace StratumBridge.Opoi

open Data Rpc Wire

/-- `OpoiRequest`, with the fields that the shard engine does not read. -/
structure TaskRequest extends OpoiRequest where
  payment : Rat
  feePerToken : Rat
  taskType : Option String
  taskClass : Option String
  deriving DecidableEq

/-- `PendingRequest`. -/
structure PendingRequest where
  request : TaskRequest
  promptHex : Option String
  deriving DecidableEq

/-! ## Assignments -/

/-- `AssignmentTracker`: the miner each request was pushed to. -/
abbrev AssignmentTracker := PartialMap RequestId Wallet

namespace AssignmentTracker

/-- `try_assign`: whether this call made the entry, and the tracker after it. -/
def tryAssign (requestId : RequestId) (wallet : Wallet) (tracker : AssignmentTracker) :
    Bool × AssignmentTracker :=
  match tracker requestId with
  | some _ => (false, tracker)
  | none => (true, tracker.insert requestId wallet)

/-- `assignee`. -/
def assignee (requestId : RequestId) (tracker : AssignmentTracker) : Option Wallet :=
  tracker requestId

/-- `release_for_wallet`. -/
def releaseForWallet (wallet : Wallet) (tracker : AssignmentTracker) : AssignmentTracker :=
  tracker.retain fun minerWallet => minerWallet ≠ wallet

end AssignmentTracker

/-! ## State -/

/-- A parked handler: `receive_prompt` at its look-up, or
`handle_submit_result` at its duplicate check or its insert. -/
inductive Call
  | fetching (requestId : RequestId) (promptHex : String) (model : Option String)
      (maxTokens : Option UInt32)
  | checking (wallet : Wallet) (params : OpoiSubmitResultParams)
  | creating (row : NewSubmission)
  deriving DecidableEq

/-- Where `poll_and_assign_tick` stands.  The locals of a candidate are the
fields of the line that may be sent for it. -/
inductive Poll
  | idle
  | listing
  | checking (req : TaskRequest) (rest : List TaskRequest)
  | collecting
  | manifest (assign : OpoiAssign) (rest : List RequestId)
  deriving DecidableEq

/-- What the engine does to its surroundings. -/
inductive Effect
  /-- The answer to the requester. -/
  | intake (requestId : RequestId) (accepted : Bool)
  /-- An `opoi.assign` line. -/
  | assigned (wallet : Wallet) (tx : Channel) (assign : OpoiAssign)
  | rejected (wallet : Wallet) (requestId : RequestId) (error : AppError)
  /-- The submission is acknowledged and its commit task spawned. -/
  | accepted (row : NewSubmission)
  | panicked (requestId : RequestId)
  deriving DecidableEq

/-- `OpoiEngine`, with its parked calls, its poll tick and its history. -/
structure OpoiEngine where
  assignments : AssignmentTracker
  pending : PartialMap RequestId PendingRequest
  lastAssigned : Option Wallet
  calls : PartialMap Ticket Call
  nextTicket : Ticket
  poll : Poll
  log : List Effect

namespace OpoiEngine

/-- `OpoiEngine::new`. -/
def new : OpoiEngine where
  assignments := PartialMap.empty
  pending := PartialMap.empty
  lastAssigned := none
  calls := PartialMap.empty
  nextTicket := 0
  poll := .idle
  log := []

/-- Append to the history. -/
def emit (engine : OpoiEngine) (effects : List Effect) : OpoiEngine :=
  { engine with log := engine.log ++ effects }

/-- Put a request into the cache. -/
def setPending (engine : OpoiEngine) (requestId : RequestId) (entry : PendingRequest) :
    OpoiEngine :=
  { engine with pending := engine.pending.insert requestId entry }

/-- A handler parks for the first time. -/
def park (engine : OpoiEngine) (call : Call) : OpoiEngine :=
  { engine with
    calls := engine.calls.insert engine.nextTicket call
    nextTicket := engine.nextTicket + 1 }

/-- A handler returns, or its future is dropped. -/
def endCall (engine : OpoiEngine) (ticket : Ticket) : OpoiEngine :=
  { engine with calls := engine.calls.remove ticket }

/-! ## Prompt intake -/

/-- `receive_prompt` up to its look-up. -/
def receivePrompt (requestId : RequestId) (promptHex : String) (model : Option String)
    (maxTokens : Option UInt32) (engine : OpoiEngine) : OpoiEngine :=
  match engine.pending requestId with
  | some entry =>
      (engine.setPending requestId { entry with promptHex := some promptHex }).emit
        [.intake requestId true]
  | none => engine.park (.fetching requestId promptHex model maxTokens)

/-- The entry made for a request the daemon does not know yet. -/
def provisional (requestId : RequestId) (promptHex model : String) (maxTokens : UInt32) :
    PendingRequest where
  request :=
    { requestId
      model
      promptHash := ""
      maxTokens
      payment := 0
      feePerToken := 0
      taskType := none
      taskClass := none }
  promptHex := some promptHex

/-- The entry a prompt is stored in after its look-up. -/
def fetchedEntry (requestId : RequestId) (promptHex : String) (model : Option String)
    (maxTokens : Option UInt32) : Option TaskRequest → Option PendingRequest
  | some request => some ⟨request, some promptHex⟩
  | none =>
      match model, maxTokens with
      | some model, some maxTokens => some (provisional requestId promptHex model maxTokens)
      | _, _ => none

/-- After `get_request`. -/
def resumeFetched (ticket : Ticket) (answer : Option TaskRequest) (engine : OpoiEngine) :
    OpoiEngine :=
  match engine.calls ticket with
  | some (.fetching requestId promptHex model maxTokens) =>
      match fetchedEntry requestId promptHex model maxTokens answer with
      | some entry =>
          ((engine.endCall ticket).setPending requestId entry).emit [.intake requestId true]
      | none => (engine.endCall ticket).emit [.intake requestId false]
  | _ => engine

/-! ## Results -/

/-- The start of `handle_submit_result`. -/
def handleSubmitResult (wallet : Wallet) (params : OpoiSubmitResultParams)
    (engine : OpoiEngine) : OpoiEngine :=
  match engine.assignments.assignee params.requestId with
  | none => engine.emit [.rejected wallet params.requestId .unknownRequest]
  | some assigned =>
      if assigned ≠ wallet then
        engine.emit [.rejected wallet params.requestId .notAssignedToCaller]
      else
        engine.park (.checking wallet params)

/-- `eq_ignore_ascii_case`. -/
def eqIgnoreAsciiCase (first second : String) : Bool :=
  first.toList.map Char.toLower = second.toList.map Char.toLower

/-- The row a result is stored as. -/
def submissionRow (wallet : Wallet) (params : OpoiSubmitResultParams)
    (entry : Option PendingRequest) : NewSubmission where
  minerWallet := wallet
  requestId := params.requestId
  model := entry.map fun entry => entry.request.model
  promptHash := entry.map fun entry => entry.request.promptHash
  responseHash := params.responseHash
  responseHex := params.responseHex
  tokenCount := params.tokenCount.toNat

/-- What follows the duplicate check: the row to be inserted, or an error.
`active` is whether the query found a row, if it did not fail. -/
def verdict (sha256 : Digest) (wallet : Wallet) (params : OpoiSubmitResultParams)
    (entry : Option PendingRequest) : Option Bool → Except AppError NewSubmission
  | none => .error .db
  | some true => .error (.rejected "request_id already has an active submission")
  | some false =>
      match hexDecode params.responseHex with
      | none => .error (.rejected "response_hex is not valid hex")
      | some raw =>
          if eqIgnoreAsciiCase (sha256Hex sha256 raw) params.responseHash then
            .ok (submissionRow wallet params entry)
          else
            .error (.rejected "response_hash does not match sha256(response_hex)")

/-- After the duplicate check of `handle_submit_result`. -/
def resumeChecked (sha256 : Digest) (ticket : Ticket) (active : Option Bool)
    (engine : OpoiEngine) : OpoiEngine :=
  match engine.calls ticket with
  | some (.checking wallet params) =>
      match verdict sha256 wallet params (engine.pending params.requestId) active with
      | .ok row => { engine with calls := engine.calls.insert ticket (.creating row) }
      | .error error =>
          (engine.endCall ticket).emit [.rejected wallet params.requestId error]
  | _ => engine

/-- After `create_submission`. -/
def resumeCreated (ticket : Ticket) (created : Bool) (engine : OpoiEngine) : OpoiEngine :=
  match engine.calls ticket with
  | some (.creating row) =>
      if created then
        { engine.endCall ticket with
          assignments := engine.assignments.remove row.requestId
          pending := engine.pending.remove row.requestId
          log := engine.log ++ [.accepted row] }
      else
        (engine.endCall ticket).emit [.rejected row.minerWallet row.requestId .db]
  | _ => engine

/-- `on_disconnect`. -/
def onDisconnect (wallet : Wallet) (engine : OpoiEngine) : OpoiEngine :=
  { engine with assignments := engine.assignments.releaseForWallet wallet }

/-! ## The poll tick -/

/-- The next listed request that is not cached; after the last one the
candidates are collected. -/
def nextListed (engine : OpoiEngine) : List TaskRequest → Poll
  | [] => .collecting
  | req :: rest =>
      if (engine.pending req.requestId).isSome then nextListed engine rest
      else .checking req rest

/-- After `list_pending_requests`. -/
def resumeListing (requests : Option (List TaskRequest)) (engine : OpoiEngine) : OpoiEngine :=
  match engine.poll with
  | .listing =>
      match requests with
      | none => { engine with poll := .idle }
      | some requests => { engine with poll := nextListed engine requests }
  | _ => engine

/-- `or_insert_with`, for a request without a prompt. -/
def cache (req : TaskRequest) (engine : OpoiEngine) : OpoiEngine :=
  match engine.pending req.requestId with
  | some _ => engine
  | none => engine.setPending req.requestId ⟨req, none⟩

/-- After the look for an active submission of a listed request. -/
def resumeListed (active : Option Bool) (engine : OpoiEngine) : OpoiEngine :=
  match engine.poll with
  | .checking req rest =>
      match active with
      | none => { engine with poll := .idle }
      | some true => { engine with poll := nextListed engine rest }
      | some false =>
          let cached := cache req engine
          { cached with poll := nextListed cached rest }
  | _ => engine

/-- A request with a prompt and without an assignee. -/
def Candidate (engine : OpoiEngine) (requestId : RequestId) : Prop :=
  (∃ entry, engine.pending requestId = some entry ∧ entry.promptHex ≠ none) ∧
    engine.assignments.assignee requestId = none

/-- The line that may be sent for a candidate. -/
def assignLine (requestId : RequestId) (request : TaskRequest) (promptHex : String) :
    OpoiAssign where
  requestId := requestId
  model := request.model
  promptHex := promptHex
  maxTokens := request.maxTokens
  taskType := request.taskType
  taskClass := request.taskClass

/-- The next candidate that is still cached.  Its prompt is unwrapped. -/
def nextCandidate (engine : OpoiEngine) : List RequestId → OpoiEngine
  | [] => { engine with poll := .idle }
  | requestId :: rest =>
      match engine.pending requestId with
      | none => nextCandidate engine rest
      | some entry =>
          match entry.promptHex with
          | none => { engine.emit [.panicked requestId] with poll := .idle }
          | some promptHex =>
              { engine with poll := .manifest (assignLine requestId entry.request promptHex) rest }

/-- The collected candidates. -/
def resumeCollecting (candidates : List RequestId) (engine : OpoiEngine) : OpoiEngine :=
  match engine.poll with
  | .collecting => nextCandidate engine candidates
  | _ => engine

/-- `to_lowercase().contains("not found")`.  No character outside ASCII has one
of these letters as its lower case. -/
def saysNotFound (error : String) : Bool :=
  "not found".toList <:+: error.toList.map Char.toLower

/-- The answers of `get_model_manifest` with which the tick goes on: a manifest
that is not ACTIVE, or the error that there is none. -/
def isPlain : Except String ModelManifest → Bool
  | .ok manifest => manifest.status ≠ "ACTIVE"
  | .error error => saysNotFound error

/-- Claim the request for the picked wallet and send the line.  `delivered` is
whether the session's channel still takes it. -/
def pushAssign (registry : MinerRegistry) (assign : OpoiAssign) (wallet : Wallet)
    (delivered : Bool) (engine : OpoiEngine) : OpoiEngine :=
  match engine.assignments.tryAssign assign.requestId wallet with
  | (false, _) => engine
  | (true, claimed) =>
      match registry.get wallet with
      | some tx =>
          if delivered then
            { engine with
              assignments := claimed
              log := engine.log ++ [.assigned wallet tx assign] }
          else
            { engine with assignments := claimed.remove assign.requestId }
      | none => { engine with assignments := claimed.remove assign.requestId }

/-- After `get_model_manifest`. -/
def resumeManifest (registry : MinerRegistry) (answer : Except String ModelManifest)
    (delivered : Bool) (engine : OpoiEngine) : OpoiEngine :=
  match engine.poll with
  | .manifest assign rest =>
      if isPlain answer then
        match registry.pickNext engine.lastAssigned with
        | none => { engine with poll := .idle }
        | some wallet =>
            nextCandidate
              (pushAssign registry assign wallet delivered
                { engine with lastAssigned := some wallet })
              rest
      else
        nextCandidate engine rest
  | _ => engine

end OpoiEngine

end StratumBridge.Opoi
