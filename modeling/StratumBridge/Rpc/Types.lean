import Mathlib.Init

/-!
# Daemon-side data

The parts of the `csd` JSON-RPC results that the dispatch engines read, and the
operator configuration that says where a model is downloaded from.  Unsigned
counters are natural numbers; where the bridge narrows one with a cast, the
cast is written out at that place.
-/

namespace StratumBridge

/-- A request identifier, as the daemon spells it. -/
abbrev RequestId := String

/-- A miner's payout address, with the worker suffix already removed. -/
abbrev Wallet := String

/-- A vocabulary index. -/
abbrev TokenId := UInt32

/-- The name of a handler call that is parked at an await. -/
abbrev Ticket := Nat

namespace Rpc

/-- The manifest fields the shard pipelines use. -/
structure ModelManifest where
  modelId : String
  archType : String
  numLayers : Nat
  backbonePomRoot : String
  status : String
  deriving DecidableEq

/-- One node of a Model Execution Graph. -/
structure ShardDescriptor where
  shardIndex : Nat
  shardType : String
  layerStart : Option Nat
  layerEnd : Option Nat
  expertId : Option Nat
  deriving DecidableEq

/-- A model's execution graph. -/
structure ModelGraph where
  shards : List ShardDescriptor
  deriving DecidableEq

/-- A pending inference request, without its pricing. -/
structure OpoiRequest where
  requestId : RequestId
  model : String
  promptHash : String
  maxTokens : UInt32
  deriving DecidableEq

end Rpc

/-- Where the target model and its tokenizer are downloaded from. -/
structure ModelSource where
  ggufUrl : String
  tokenizerUrl : String
  tokenizerSha256 : String
  deriving DecidableEq

/-- Where the draft model of a target model is downloaded from. -/
structure DraftModelSource where
  draftModelId : String
  draftGgufUrl : String
  draftGgufSha256 : String
  draftTokenizerUrl : String
  draftTokenizerSha256 : String
  draftTotalLayers : Nat
  deriving DecidableEq

/-- Why a handler rejects a miner's line.  Errors raised by the database or
another library are not distinguished further. -/
inductive AppError
  | unauthorized
  | unknownRequest
  | notAssignedToCaller
  | rejected (reason : String)
  | rpc (reason : String)
  | db
  deriving DecidableEq

end StratumBridge
