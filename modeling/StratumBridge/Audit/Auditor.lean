import StratumBridge.Registry.Core
import StratumBridge.Wire.Codec

/-!
# The auditor

`B3LiteAuditor` as a state with one function for each stretch of code between two
awaits.  `audit_tick` is a single task, and `Tick` is where it stands; a oneshot
channel is a `Waiter`, whose sender sits in `pending`.  What the database and the
subprocess answer is left open.

What the auditor sends, asks for and writes is appended to `log`, which nothing
reads back.
-/

namespace StratumBridge.Audit

open Data Wire

/-- The state of a receipt's audit. -/
inductive AuditStatus
  | none
  | pending
  | admissible
  | divergent
  | inconclusive
  deriving DecidableEq

/-- What is stored beside a verdict: why there is none, or the positions. -/
inductive AuditDetail
  | reason (text : String)
  | positions (positions : List AuditPositionWire)
  deriving DecidableEq

/-- `B3LiteReceipt`. -/
structure B3LiteReceipt where
  id : Nat
  requestId : RequestId
  minerWallet : Wallet
  modelId : String
  ggufSha256 : String
  promptHash : Option String
  promptHex : String
  responseHash : String
  generatedTokenIdsHex : String
  totalLayers : Int32
  signatureHex : String
  sampled : Bool
  auditStatus : AuditStatus
  auditDetail : Option AuditDetail
  deriving DecidableEq

/-- The `action` of a consequence row. -/
inductive ConsequenceAction
  | withholdPay
  | reputationFlag
  | ejected
  deriving DecidableEq

/-- A oneshot channel. -/
abbrev Waiter := Nat

/-- `EJECT_AFTER_DIVERGENCES`. -/
def ejectAfterDivergences : Int :=
  3

/-! ## The audit of one receipt -/

/-- `decode_prompt_hex`. -/
def decodePromptHex (text : String) : Option String :=
  (hexDecode text).bind fun bytes => String.fromUTF8? ⟨bytes.toArray⟩

/-- `decode_token_ids_hex`. -/
def decodeTokenIdsHex (text : String) : Option (List TokenId) :=
  (hexDecode text).bind wordsOfBytes

/-- `all_admissible`. -/
def allAdmissible (positions : List AuditPositionWire) : Bool :=
  !positions.isEmpty && positions.all AuditPositionWire.admissible

/-- What both ways of replaying a receipt are given. -/
structure Replay where
  receipt : B3LiteReceipt
  source : ModelSource
  promptText : String
  committedTokenIds : List TokenId
  deriving DecidableEq

/-- The request file of the subprocess, without the directory of its cache. -/
structure AuditRequest where
  modelId : String
  ggufUrl : String
  ggufSha256 : String
  tokenizerUrl : String
  tokenizerSha256 : String
  promptText : String
  committedTokenIds : List TokenId
  totalLayers : Int32
  deriving DecidableEq

namespace Replay

/-- The `opoi.audit_assign` line. -/
def assign (replay : Replay) : OpoiAuditAssign where
  requestId := replay.receipt.requestId
  modelId := replay.receipt.modelId
  ggufUrl := replay.source.ggufUrl
  ggufSha256 := replay.receipt.ggufSha256
  tokenizerUrl := replay.source.tokenizerUrl
  tokenizerSha256 := replay.source.tokenizerSha256
  promptHex := hexEncode replay.promptText.toUTF8.data.toList
  committedTokenIds := replay.committedTokenIds
  totalLayers := replay.receipt.totalLayers.toUInt32

/-- The subprocess's request. -/
def request (replay : Replay) : AuditRequest where
  modelId := replay.receipt.modelId
  ggufUrl := replay.source.ggufUrl
  ggufSha256 := replay.receipt.ggufSha256
  tokenizerUrl := replay.source.tokenizerUrl
  tokenizerSha256 := replay.source.tokenizerSha256
  promptText := replay.promptText
  committedTokenIds := replay.committedTokenIds
  totalLayers := replay.receipt.totalLayers

end Replay

/-- The checks of `run_one` before it looks for an auditor. -/
def prepare (receipt : B3LiteReceipt) (source : Option ModelSource) : Except String Replay :=
  match source with
  | none => .error "no ModelSource entry for this model_id"
  | some source =>
      match decodePromptHex receipt.promptHex with
      | none => .error "prompt_hex did not decode to valid UTF-8"
      | some promptText =>
          match decodeTokenIdsHex receipt.generatedTokenIdsHex with
          | none => .error "generated_token_ids_hex was not a multiple of 4 bytes"
          | some committedTokenIds => .ok ⟨receipt, source, promptText, committedTokenIds⟩

/-- What is replayed is the receipt, from a source, with its texts decoded. -/
theorem of_prepare {receipt : B3LiteReceipt} {source : Option ModelSource} {replay : Replay}
    (prepared : prepare receipt source = .ok replay) :
    replay.receipt = receipt ∧ source = some replay.source ∧
      decodePromptHex receipt.promptHex = some replay.promptText ∧
      decodeTokenIdsHex receipt.generatedTokenIdsHex = some replay.committedTokenIds := by
  unfold prepare at prepared
  split at prepared
  · cases prepared
  · split at prepared
    · cases prepared
    · split at prepared
      · cases prepared
      · cases prepared
        exact ⟨rfl, rfl, ‹_›, ‹_›⟩

/-- The `reason` of a confirmed divergence. -/
def divergenceReason (receipt : B3LiteReceipt) : String :=
  "B3-lite audit found a real divergence for request_id=" ++ receipt.requestId

/-- The `reason` of an ejection. -/
def ejectReason (count : Int) : String :=
  toString count ++ " confirmed B3-lite divergences (threshold " ++
    toString ejectAfterDivergences ++ ")"

/-! ## State -/

/-- Where `audit_tick` stands, with the receipts still to come. -/
inductive Tick
  | idle
  | listing
  | resolving (receipt : B3LiteReceipt) (rest : List B3LiteReceipt)
  | waiting (waiter : Waiter) (replay : Replay) (rest : List B3LiteReceipt)
  | replaying (receipt : B3LiteReceipt) (rest : List B3LiteReceipt)
  | closing (reason : String) (receipt : B3LiteReceipt) (rest : List B3LiteReceipt)
  | marking (positions : List AuditPositionWire) (receipt : B3LiteReceipt)
      (rest : List B3LiteReceipt)
  | withholding (receipt : B3LiteReceipt) (rest : List B3LiteReceipt)
  | flagging (receipt : B3LiteReceipt) (rest : List B3LiteReceipt)
  | counting (receipt : B3LiteReceipt) (rest : List B3LiteReceipt)
  | ejecting (count : Int) (receipt : B3LiteReceipt) (rest : List B3LiteReceipt)
  deriving DecidableEq

/-- What the auditor does to its surroundings.  `stored` is whether the table took
a write. -/
inductive Effect
  | auditAssign (wallet : Wallet) (tx : Channel) (assign : OpoiAuditAssign)
  | subprocess (request : AuditRequest)
  | delivered (waiter : Waiter) (wallet : Wallet) (result : OpoiAuditResult)
  | returned (waiter : Waiter) (replay : Replay) (positions : List AuditPositionWire)
  | rejected (wallet : Wallet) (requestId : RequestId) (error : AppError)
  | marked (receiptId : Nat) (status : AuditStatus) (detail : AuditDetail) (stored : Bool)
  | consequence (receipt : B3LiteReceipt) (action : ConsequenceAction) (reason : String)
      (stored : Bool)
  | banned (wallet : Wallet)
  deriving DecidableEq

/-- `B3LiteAuditor`, with its tick and its history. -/
structure B3LiteAuditor where
  trustedWallets : List Wallet
  auditAssignments : PartialMap RequestId Wallet
  pending : PartialMap RequestId Waiter
  replies : PartialMap Waiter (List AuditPositionWire)
  nextWaiter : Waiter
  tick : Tick
  log : List Effect

namespace B3LiteAuditor

/-- `B3LiteAuditor::new`. -/
def new (trustedWallets : List Wallet) : B3LiteAuditor where
  trustedWallets := trustedWallets
  auditAssignments := PartialMap.empty
  pending := PartialMap.empty
  replies := PartialMap.empty
  nextWaiter := 0
  tick := .idle
  log := []

/-- Append to the history. -/
def emit (auditor : B3LiteAuditor) (effects : List Effect) : B3LiteAuditor :=
  { auditor with log := auditor.log ++ effects }

/-- Both maps forget a request. -/
def forget (auditor : B3LiteAuditor) (requestId : RequestId) : B3LiteAuditor :=
  { auditor with
    auditAssignments := auditor.auditAssignments.remove requestId
    pending := auditor.pending.remove requestId }

/-- The tick goes on to the next receipt. -/
def goOn (auditor : B3LiteAuditor) (rest : List B3LiteReceipt) : B3LiteAuditor :=
  { auditor with
    tick :=
      match rest with
      | [] => .idle
      | receipt :: rest => .resolving receipt rest }

/-- The start of `dispatch_via_subprocess`. -/
def dispatchViaSubprocess (replay : Replay) (rest : List B3LiteReceipt)
    (auditor : B3LiteAuditor) : B3LiteAuditor :=
  { auditor with
    tick := .replaying replay.receipt rest
    log := auditor.log ++ [.subprocess replay.request] }

/-- `dispatch_via_stratum` up to its await.  Where it fails at once, the
subprocess takes over.  `isOpen` is whether the other end of the wallet's channel
is still there. -/
def dispatchViaStratum (registry : MinerRegistry) (wallet : Wallet) (isOpen : Bool)
    (replay : Replay) (rest : List B3LiteReceipt) (auditor : B3LiteAuditor) : B3LiteAuditor :=
  match registry.get wallet with
  | none => dispatchViaSubprocess replay rest auditor
  | some tx =>
      let noted :=
        { auditor with
          auditAssignments := auditor.auditAssignments.insert replay.receipt.requestId wallet
          pending := auditor.pending.insert replay.receipt.requestId auditor.nextWaiter
          nextWaiter := auditor.nextWaiter + 1 }
      if isOpen then
        { noted with
          tick := .waiting auditor.nextWaiter replay rest
          log := noted.log ++ [.auditAssign wallet tx replay.assign] }
      else
        dispatchViaSubprocess replay rest (noted.forget replay.receipt.requestId)

/-! ## The tick -/

/-- After `list_pending_b3lite_audits`. -/
def resumeListing (receipts : Option (List B3LiteReceipt)) (auditor : B3LiteAuditor) :
    B3LiteAuditor :=
  match auditor.tick with
  | .listing => auditor.goOn (receipts.getD [])
  | _ => auditor

/-- `run_one` after the model source is resolved. -/
def resumeResolved (registry : MinerRegistry) (source : Option ModelSource) (isOpen : Bool)
    (auditor : B3LiteAuditor) : B3LiteAuditor :=
  match auditor.tick with
  | .resolving receipt rest =>
      match prepare receipt source with
      | .error reason => { auditor with tick := .closing reason receipt rest }
      | .ok replay =>
          match registry.pickAuditorCapable auditor.trustedWallets receipt.minerWallet with
          | some wallet => dispatchViaStratum registry wallet isOpen replay rest auditor
          | none => dispatchViaSubprocess replay rest auditor
  | _ => auditor

/-- `dispatch_via_stratum` after its await: with the reply if there is one, else
because its sender is gone or the time is over. -/
def wake (auditor : B3LiteAuditor) : B3LiteAuditor :=
  match auditor.tick with
  | .waiting waiter replay rest =>
      let cleared := auditor.forget replay.receipt.requestId
      match auditor.replies waiter with
      | some positions =>
          { cleared with
            tick := .marking positions replay.receipt rest
            log := cleared.log ++ [.returned waiter replay positions] }
      | none => dispatchViaSubprocess replay rest cleared
  | _ => auditor

/-- `dispatch_via_subprocess` returns. -/
def resumeReplayed (answer : Except String (List AuditPositionWire)) (auditor : B3LiteAuditor) :
    B3LiteAuditor :=
  match auditor.tick with
  | .replaying receipt rest =>
      match answer with
      | .error reason => { auditor with tick := .closing reason receipt rest }
      | .ok positions => { auditor with tick := .marking positions receipt rest }
  | _ => auditor

/-- The status a list of positions amounts to. -/
def verdict (positions : List AuditPositionWire) : AuditStatus :=
  if allAdmissible positions then .admissible else .divergent

/-- After `mark_b3lite_audit_result`, whether or not it succeeded. -/
def resumeMarked (stored : Bool) (auditor : B3LiteAuditor) : B3LiteAuditor :=
  match auditor.tick with
  | .closing reason receipt rest =>
      (auditor.emit [.marked receipt.id .inconclusive (.reason reason) stored]).goOn rest
  | .marking positions receipt rest =>
      let marked :=
        auditor.emit [.marked receipt.id (verdict positions) (.positions positions) stored]
      if allAdmissible positions then
        marked.goOn rest
      else
        { marked with tick := .withholding receipt rest }
  | _ => auditor

/-- After `insert_b3lite_consequence`, whether or not it succeeded. -/
def resumeInserted (stored : Bool) (auditor : B3LiteAuditor) : B3LiteAuditor :=
  match auditor.tick with
  | .withholding receipt rest =>
      { auditor.emit [.consequence receipt .withholdPay (divergenceReason receipt) stored] with
        tick := .flagging receipt rest }
  | .flagging receipt rest =>
      { auditor.emit [.consequence receipt .reputationFlag (divergenceReason receipt) stored] with
        tick := .counting receipt rest }
  | .ejecting count receipt rest =>
      (auditor.emit [.consequence receipt .ejected (ejectReason count) stored]).goOn rest
  | _ => auditor

/-- After `count_withhold_consequences`. -/
def resumeCounted (count : Option Int) (auditor : B3LiteAuditor) : B3LiteAuditor :=
  match auditor.tick with
  | .counting receipt rest =>
      match count with
      | none => auditor.goOn rest
      | some n =>
          if ejectAfterDivergences ≤ n then
            { auditor.emit [.banned receipt.minerWallet] with tick := .ejecting n receipt rest }
          else
            auditor.goOn rest
  | _ => auditor

/-! ## Replies and disconnects -/

/-- `handle_audit_result`. -/
def handleAuditResult (wallet : Wallet) (result : OpoiAuditResult) (auditor : B3LiteAuditor) :
    B3LiteAuditor :=
  match auditor.auditAssignments result.requestId with
  | none => auditor.emit [.rejected wallet result.requestId .unknownRequest]
  | some assigned =>
      if assigned = wallet then
        match auditor.pending result.requestId with
        | none => auditor
        | some waiter =>
            { auditor with
              pending := auditor.pending.remove result.requestId
              replies := auditor.replies.insert waiter result.positions
              log := auditor.log ++ [.delivered waiter wallet result] }
      else
        auditor.emit [.rejected wallet result.requestId .notAssignedToCaller]

/-- `on_disconnect`. -/
def onDisconnect (wallet : Wallet) (auditor : B3LiteAuditor) : B3LiteAuditor :=
  { auditor with
    auditAssignments := auditor.auditAssignments.retain fun assigned => assigned ≠ wallet
    pending := fun requestId =>
      if auditor.auditAssignments requestId = some wallet then none
      else auditor.pending requestId }

end B3LiteAuditor

end StratumBridge.Audit
