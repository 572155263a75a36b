import StratumBridge.Rpc.Types
import Mathlib.Algebra.Group.Nat.Defs

/-!
# Messages between the bridge and its miners

The `opoi.*` extension messages the engines, the expert dispatcher and the
auditor exchange with downstream miners, field for field.
-/

namespace StratumBridge.Wire

/-- The bit pattern of an `f32`. -/
abbrev F32 := UInt32

/-- `opoi.assign`. -/
structure OpoiAssign where
  requestId : RequestId
  model : String
  promptHex : String
  maxTokens : UInt32
  taskType : Option String
  taskClass : Option String
  deriving DecidableEq

/-- `opoi.submit_result`. -/
structure OpoiSubmitResultParams where
  requestId : RequestId
  responseHash : String
  responseHex : String
  tokenCount : UInt32
  deriving DecidableEq

/-- What a shard is given to compute on. -/
inductive ShardInputWire
  | prompt (promptHex : String)
  | nextTokenId (tokenId : TokenId)
  | tokenIds (tokenIds : List TokenId)
  | tensor (shape : List Nat) (dataHex : String)
  deriving DecidableEq

/-- `opoi.shard_assign`. -/
structure OpoiShardAssign where
  requestId : RequestId
  modelId : String
  shardIndex : Nat
  layerStart : Nat
  layerEnd : Nat
  totalLayers : Nat
  tokenIndex : Nat
  maxTokens : UInt32
  input : ShardInputWire
  modelGgufUrl : String
  modelGgufSha256 : String
  modelTokenizerUrl : Option String
  modelTokenizerSha256 : Option String
  moeLayerStep : Option Nat
  deriving DecidableEq

/-- A tensor on the wire: its shape and its little-endian payload in hex. -/
structure ShardOutputWire where
  shape : List Nat
  dataHex : String
  deriving DecidableEq

/-- One expert chosen by the primary's router, with its combine weight. -/
structure RouterExpertChoice where
  expertId : Nat
  weight : F32
  deriving DecidableEq

/-- `opoi.shard_result`. -/
structure OpoiShardResult where
  requestId : RequestId
  shardIndex : Nat
  tokenIndex : Nat
  outputHash : String
  output : ShardOutputWire
  nextTokenId : Option TokenId
  nextTokenIds : Option (List TokenId)
  routerSelection : Option (List (List RouterExpertChoice))
  moeLayerStep : Option Nat
  deriving DecidableEq

/-- What a draft model is seeded with. -/
inductive DraftInputWire
  | prompt (promptHex : String)
  | nextTokenId (tokenId : TokenId)
  deriving DecidableEq

/-- `opoi.draft_generate`. -/
structure OpoiDraftGenerate where
  requestId : RequestId
  modelId : String
  totalLayers : Nat
  k : Nat
  input : DraftInputWire
  modelGgufUrl : String
  modelGgufSha256 : String
  modelTokenizerUrl : Option String
  modelTokenizerSha256 : Option String
  deriving DecidableEq

/-- `opoi.draft_result`. -/
structure OpoiDraftResult where
  requestId : RequestId
  draftTokenIds : List TokenId
  deriving DecidableEq

/-- `opoi.kv_rollback`. -/
structure OpoiKvRollback where
  requestId : RequestId
  shardIndex : Nat
  keepUntilPos : Nat
  finalize : Bool
  deriving DecidableEq

/-- `opoi.kv_rollback_ack`. -/
structure OpoiKvRollbackAck where
  requestId : RequestId
  shardIndex : Nat
  ok : Bool
  finalizedHash : Option String
  deriving DecidableEq

/-- What an expert is given to compute on. -/
inductive ExpertInputWire
  | tensor (shape : List Nat) (dataHex : String)
  deriving DecidableEq

/-- What an expert answers. -/
structure ExpertOutputWire where
  shape : List Nat
  dataHex : String
  deriving DecidableEq

/-- `opoi.expert_assign`. -/
structure OpoiExpertAssign where
  requestId : RequestId
  modelId : String
  layerStart : Nat
  layerEnd : Nat
  layerIdx : Nat
  expertId : Nat
  tokenIndex : Nat
  input : ExpertInputWire
  inputHash : String
  modelGgufUrl : String
  modelGgufSha256 : String
  deriving DecidableEq

/-- `opoi.expert_result`. -/
structure OpoiExpertResult where
  requestId : RequestId
  layerStart : Nat
  layerEnd : Nat
  layerIdx : Nat
  expertId : Nat
  tokenIndex : Nat
  outputHash : String
  output : ExpertOutputWire
  deriving DecidableEq

/-- `opoi.audit_assign`. -/
structure OpoiAuditAssign where
  requestId : RequestId
  modelId : String
  ggufUrl : String
  ggufSha256 : String
  tokenizerUrl : String
  tokenizerSha256 : String
  promptHex : String
  committedTokenIds : List TokenId
  totalLayers : UInt32
  deriving DecidableEq

/-- What an auditor finds for one committed token. -/
structure AuditPositionWire where
  step : Nat
  committedTokenId : TokenId
  auditorTokenId : TokenId
  admissible : Bool
  deriving DecidableEq

/-- `opoi.audit_result`. -/
structure OpoiAuditResult where
  requestId : RequestId
  positions : List AuditPositionWire
  deriving DecidableEq

/-- The shard index under which a draft model's own session is addressed. -/
def draftSessionShardIndex : Nat :=
  2 ^ 32 - 1

/-- `u32::MAX`. -/
def u32Max : UInt32 :=
  UInt32.ofNat (2 ^ 32 - 1)

/-- The columns of a new `opoi_submissions` row that its creator chooses. -/
structure NewSubmission where
  minerWallet : Wallet
  requestId : RequestId
  model : Option String
  promptHash : Option String
  responseHash : String
  responseHex : String
  tokenCount : Nat
  deriving DecidableEq

/-- The creator's `u32` count as the `INTEGER` column stores it: `as i32`. -/
def NewSubmission.tokenColumn (sub : NewSubmission) : Int32 :=
  (UInt32.ofNat sub.tokenCount).toInt32

end StratumBridge.Wire
