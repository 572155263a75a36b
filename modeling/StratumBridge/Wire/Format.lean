import StratumBridge.Data.Record
import StratumBridge.Rpc.Client
import StratumBridge.Wire.Messages

/-!
# The messages as JSON

What `serde` derives for the messages between the bridge and its miners: how each is
written, and what it is read from.  Fields are read by name from an object or in their
order from an array; unknown fields of an object are ignored.  An optional field is left
out if there is nothing to write, and read as nothing if it is missing or null.

A counter is written as it is and read if it fits its type.  How `serde_json` turns
numbers into single-precision floats and back is a parameter.
-/

namespace StratumBridge.Wire

open Data Rpc

instance : Document String Value where
  view
    | .array items => .items items
    | .object fields => .entries fields
    | _ => .leaf
  list := .array
  table := .object
  key := .string
  asKey := Value.asStr
  isNull := Value.isNull
  view_list _ := rfl
  view_table _ := rfl
  asKey_key _ := rfl

/-! ## Plain values -/

/-- `String`. -/
def string : Codec Value String where
  write := .string
  read := Value.asStr

/-- `bool`. -/
def boolean : Codec Value Bool where
  write := .bool
  read := Value.asBool

/-- An unsigned counter below a bound. -/
def unsigned (bound : Nat) : Codec Value Nat where
  write count := .integer count
  read value := value.asU64.filter (· < bound)

/-- `u32`. -/
def u32 : Codec Value Nat :=
  unsigned (2 ^ 32)

/-- `usize`. -/
def usize : Codec Value Nat :=
  unsigned (2 ^ 64)

/-- `u32`, where the code computes with it as such. -/
def word : Codec Value UInt32 where
  write count := .integer count.toNat
  read value := (u32.read value).map UInt32.ofNat

/-- How `serde_json` turns numbers into an `f32` and back. -/
structure Floats where
  ofInteger : Int → F32
  ofText : String → F32
  toValue : F32 → Value

/-- `f32`. -/
def float (floats : Floats) : Codec Value F32 where
  write := floats.toValue
  read
    | .integer value => some (floats.ofInteger value)
    | .float text => some (floats.ofText text)
    | _ => none

@[simp]
theorem survives_string (text : String) : string.Survives text :=
  rfl

@[simp]
theorem survives_boolean (value : Bool) : boolean.Survives value :=
  rfl

theorem read_unsigned_iff {bound : Nat} (small : bound ≤ 2 ^ 64) {value : Value} {count : Nat} :
    (unsigned bound).read value = some count ↔ value = .integer count ∧ count < bound := by
  simp only [unsigned, Option.filter_eq_some_iff, decide_eq_true_eq]
  constructor
  · rintro ⟨read, below⟩
    refine ⟨?_, below⟩
    cases value with
    | integer held =>
        rw [Value.asU64] at read
        split at read
        · cases read
          congr
          omega
        · cases read
    | _ => cases read
  · rintro ⟨rfl, below⟩
    refine ⟨?_, below⟩
    rw [Value.asU64, if_pos (by omega), Int.toNat_natCast]

theorem read_u32_iff {value : Value} {count : Nat} :
    u32.read value = some count ↔ value = .integer count ∧ count < 2 ^ 32 :=
  read_unsigned_iff (by decide)

@[simp]
theorem survives_u32 (count : Nat) : u32.Survives count ↔ count < 2 ^ 32 :=
  read_u32_iff.trans (and_iff_right rfl)

@[simp]
theorem survives_usize (count : Nat) : usize.Survives count ↔ count < 2 ^ 64 :=
  (read_unsigned_iff (Nat.le_refl _)).trans (and_iff_right rfl)

@[simp]
theorem survives_word (count : UInt32) : word.Survives count := by
  have read : u32.read (.integer count.toNat) = some count.toNat :=
    read_u32_iff.mpr ⟨rfl, count.toNat_lt⟩
  simp [Codec.Survives, word, read]

theorem yields_u32 : u32.Yields (· < 2 ^ 32) :=
  fun _ _ read => (read_u32_iff.mp read).2

theorem yields_usize : usize.Yields (· < 2 ^ 64) :=
  fun _ _ read => ((read_unsigned_iff (Nat.le_refl _)).mp read).2

/-- Nothing is claimed of what is read. -/
theorem yields_any {α : Type} (codec : Codec Value α) : codec.Yields fun _ => True :=
  fun _ _ _ => trivial

/-! ## Fields -/

open Data.Field (required optional defaulted)

variable {α : Type}

@[simp]
theorem survives_text (name : String) (text : Option String) :
    (optional name string).Survives text := by
  rw [Field.survives_optional name string fun _ => rfl]
  exact fun _ _ => rfl

@[simp]
theorem survives_count (name : String) (count : Option Nat) :
    (optional name u32).Survives count ↔ ∀ held, count = some held → held < 2 ^ 32 := by
  simp [Field.survives_optional name u32 fun _ => rfl]

@[simp]
theorem survives_token (name : String) (token : Option UInt32) :
    (optional name word).Survives token := by
  simp [Field.survives_optional name word fun _ => rfl]

@[simp]
theorem survives_items (name : String) (codec : Codec Value α) (items : Option (List α)) :
    (optional name codec.list).Survives items ↔
      ∀ held, items = some held → ∀ a ∈ held, codec.Survives a := by
  simp [Field.survives_optional name codec.list fun _ => rfl]

/-! ## From the bridge -/

def opoiAssign : Record String Value OpoiAssign :=
  (Record.cons (required "request_id" string) <|
    .cons (required "model" string) <|
    .cons (required "prompt_hex" string) <|
    .cons (required "max_tokens" word) <|
    .cons (optional "task_type" string) <|
    .cons (optional "task_class" string) .done).as
  ⟨fun (requestId, model, promptHex, maxTokens, taskType, taskClass, _) =>
      ⟨requestId, model, promptHex, maxTokens, taskType, taskClass⟩,
    fun assign => (assign.requestId, assign.model, assign.promptHex, assign.maxTokens,
      assign.taskType, assign.taskClass, ()),
    fun _ => rfl, fun _ => rfl⟩

/-- `ShardInputWire`. -/
def shardInput : Codec Value ShardInputWire :=
  ((Tagged.or (.variant "Prompt" (.single (required "prompt_hex" string))) <|
    .or (.variant "NextTokenId" (.single (required "token_id" word))) <|
    .or (.variant "TokenIds" (.single (required "token_ids" word.list))) <|
    .variant "Tensor" (.cons (required "shape" usize.list) <|
      .single (required "data_hex" string))).codec "kind").as
  ⟨fun
    | .inl promptHex => .prompt promptHex
    | .inr (.inl tokenId) => .nextTokenId tokenId
    | .inr (.inr (.inl tokenIds)) => .tokenIds tokenIds
    | .inr (.inr (.inr (shape, dataHex))) => .tensor shape dataHex,
    fun
    | .prompt promptHex => .inl promptHex
    | .nextTokenId tokenId => .inr (.inl tokenId)
    | .tokenIds tokenIds => .inr (.inr (.inl tokenIds))
    | .tensor shape dataHex => .inr (.inr (.inr (shape, dataHex))),
    by rintro (_ | _ | _ | _) <;> rfl, by rintro ⟨⟩ <;> rfl⟩

def opoiShardAssign : Record String Value OpoiShardAssign :=
  (Record.cons (required "request_id" string) <|
    .cons (required "model_id" string) <|
    .cons (required "shard_index" u32) <|
    .cons (required "layer_start" u32) <|
    .cons (required "layer_end" u32) <|
    .cons (required "total_layers" u32) <|
    .cons (required "token_index" u32) <|
    .cons (required "max_tokens" word) <|
    .cons (required "input" shardInput) <|
    .cons (required "model_gguf_url" string) <|
    .cons (required "model_gguf_sha256" string) <|
    .cons (optional "model_tokenizer_url" string) <|
    .cons (optional "model_tokenizer_sha256" string) <|
    .cons (optional "moe_layer_step" u32) .done).as
  ⟨fun (requestId, modelId, shardIndex, layerStart, layerEnd, totalLayers, tokenIndex, maxTokens,
        input, ggufUrl, ggufSha256, tokenizerUrl, tokenizerSha256, layerStep, _) =>
      ⟨requestId, modelId, shardIndex, layerStart, layerEnd, totalLayers, tokenIndex, maxTokens,
        input, ggufUrl, ggufSha256, tokenizerUrl, tokenizerSha256, layerStep⟩,
    fun assign => (assign.requestId, assign.modelId, assign.shardIndex, assign.layerStart,
      assign.layerEnd, assign.totalLayers, assign.tokenIndex, assign.maxTokens, assign.input,
      assign.modelGgufUrl, assign.modelGgufSha256, assign.modelTokenizerUrl,
      assign.modelTokenizerSha256, assign.moeLayerStep, ()),
    fun _ => rfl, fun _ => rfl⟩

/-- `DraftInputWire`. -/
def draftInput : Codec Value DraftInputWire :=
  ((Tagged.or (.variant "Prompt" (.single (required "prompt_hex" string))) <|
    .variant "NextTokenId" (.single (required "token_id" word))).codec "kind").as
  ⟨fun
    | .inl promptHex => .prompt promptHex
    | .inr tokenId => .nextTokenId tokenId,
    fun
    | .prompt promptHex => .inl promptHex
    | .nextTokenId tokenId => .inr tokenId,
    by rintro (_ | _) <;> rfl, by rintro ⟨⟩ <;> rfl⟩

def opoiDraftGenerate : Record String Value OpoiDraftGenerate :=
  (Record.cons (required "request_id" string) <|
    .cons (required "model_id" string) <|
    .cons (required "total_layers" u32) <|
    .cons (required "k" u32) <|
    .cons (required "input" draftInput) <|
    .cons (required "model_gguf_url" string) <|
    .cons (required "model_gguf_sha256" string) <|
    .cons (optional "model_tokenizer_url" string) <|
    .cons (optional "model_tokenizer_sha256" string) .done).as
  ⟨fun (requestId, modelId, totalLayers, k, input, ggufUrl, ggufSha256, tokenizerUrl,
        tokenizerSha256, _) =>
      ⟨requestId, modelId, totalLayers, k, input, ggufUrl, ggufSha256, tokenizerUrl,
        tokenizerSha256⟩,
    fun assign => (assign.requestId, assign.modelId, assign.totalLayers, assign.k, assign.input,
      assign.modelGgufUrl, assign.modelGgufSha256, assign.modelTokenizerUrl,
      assign.modelTokenizerSha256, ()),
    fun _ => rfl, fun _ => rfl⟩

def opoiKvRollback : Record String Value OpoiKvRollback :=
  (Record.cons (required "request_id" string) <|
    .cons (required "shard_index" u32) <|
    .cons (required "keep_until_pos" u32) <|
    .cons (required "finalize" boolean) .done).as
  ⟨fun (requestId, shardIndex, keepUntilPos, finalize, _) =>
      ⟨requestId, shardIndex, keepUntilPos, finalize⟩,
    fun rollback => (rollback.requestId, rollback.shardIndex, rollback.keepUntilPos,
      rollback.finalize, ()),
    fun _ => rfl, fun _ => rfl⟩

def opoiAuditAssign : Record String Value OpoiAuditAssign :=
  (Record.cons (required "request_id" string) <|
    .cons (required "model_id" string) <|
    .cons (required "gguf_url" string) <|
    .cons (required "gguf_sha256" string) <|
    .cons (required "tokenizer_url" string) <|
    .cons (required "tokenizer_sha256" string) <|
    .cons (required "prompt_hex" string) <|
    .cons (required "committed_token_ids" word.list) <|
    .cons (required "total_layers" word) .done).as
  ⟨fun (requestId, modelId, ggufUrl, ggufSha256, tokenizerUrl, tokenizerSha256, promptHex,
        committedTokenIds, totalLayers, _) =>
      ⟨requestId, modelId, ggufUrl, ggufSha256, tokenizerUrl, tokenizerSha256, promptHex,
        committedTokenIds, totalLayers⟩,
    fun assign => (assign.requestId, assign.modelId, assign.ggufUrl, assign.ggufSha256,
      assign.tokenizerUrl, assign.tokenizerSha256, assign.promptHex, assign.committedTokenIds,
      assign.totalLayers, ()),
    fun _ => rfl, fun _ => rfl⟩

/-- `ExpertInputWire`. -/
def expertInput : Codec Value ExpertInputWire :=
  ((Tagged.variant "Tensor" (.cons (required "shape" usize.list) <|
    .single (required "data_hex" string))).codec "kind").as
  ⟨fun (shape, dataHex) => .tensor shape dataHex,
    fun | .tensor shape dataHex => (shape, dataHex),
    fun _ => rfl, fun _ => rfl⟩

def opoiExpertAssign : Record String Value OpoiExpertAssign :=
  (Record.cons (required "request_id" string) <|
    .cons (required "model_id" string) <|
    .cons (required "layer_start" u32) <|
    .cons (required "layer_end" u32) <|
    .cons (required "layer_idx" u32) <|
    .cons (required "expert_id" u32) <|
    .cons (required "token_index" u32) <|
    .cons (required "input" expertInput) <|
    .cons (required "input_hash" string) <|
    .cons (required "model_gguf_url" string) <|
    .cons (required "model_gguf_sha256" string) .done).as
  ⟨fun (requestId, modelId, layerStart, layerEnd, layerIdx, expertId, tokenIndex, input, inputHash,
        ggufUrl, ggufSha256, _) =>
      ⟨requestId, modelId, layerStart, layerEnd, layerIdx, expertId, tokenIndex, input, inputHash,
        ggufUrl, ggufSha256⟩,
    fun assign => (assign.requestId, assign.modelId, assign.layerStart, assign.layerEnd,
      assign.layerIdx, assign.expertId, assign.tokenIndex, assign.input, assign.inputHash,
      assign.modelGgufUrl, assign.modelGgufSha256, ()),
    fun _ => rfl, fun _ => rfl⟩

/-! ## From a miner -/

def opoiSubmitResultParams : Record String Value OpoiSubmitResultParams :=
  (Record.cons (required "request_id" string) <|
    .cons (required "response_hash" string) <|
    .cons (required "response_hex" string) <|
    .cons (defaulted "token_count" word 0) .done).as
  ⟨fun (requestId, responseHash, responseHex, tokenCount, _) =>
      ⟨requestId, responseHash, responseHex, tokenCount⟩,
    fun params => (params.requestId, params.responseHash, params.responseHex, params.tokenCount,
      ()),
    fun _ => rfl, fun _ => rfl⟩

def shardOutput : Record String Value ShardOutputWire :=
  (Record.cons (required "shape" usize.list) <|
    .cons (required "data_hex" string) .done).as
  ⟨fun (shape, dataHex, _) => ⟨shape, dataHex⟩, fun output => (output.shape, output.dataHex, ()),
    fun _ => rfl, fun _ => rfl⟩

def routerExpertChoice (floats : Floats) : Record String Value RouterExpertChoice :=
  (Record.cons (required "expert_id" u32) <|
    .cons (required "weight" (float floats)) .done).as
  ⟨fun (expertId, weight, _) => ⟨expertId, weight⟩,
    fun choice => (choice.expertId, choice.weight, ()),
    fun _ => rfl, fun _ => rfl⟩

def opoiShardResult (floats : Floats) : Record String Value OpoiShardResult :=
  (Record.cons (required "request_id" string) <|
    .cons (required "shard_index" u32) <|
    .cons (required "token_index" u32) <|
    .cons (required "output_hash" string) <|
    .cons (required "output" shardOutput.codec) <|
    .cons (optional "next_token_id" word) <|
    .cons (optional "next_token_ids" word.list) <|
    .cons (optional "router_selection" (routerExpertChoice floats).codec.list.list) <|
    .cons (optional "moe_layer_step" u32) .done).as
  ⟨fun (requestId, shardIndex, tokenIndex, outputHash, output, nextTokenId, nextTokenIds,
        routerSelection, layerStep, _) =>
      ⟨requestId, shardIndex, tokenIndex, outputHash, output, nextTokenId, nextTokenIds,
        routerSelection, layerStep⟩,
    fun result => (result.requestId, result.shardIndex, result.tokenIndex, result.outputHash,
      result.output, result.nextTokenId, result.nextTokenIds, result.routerSelection,
      result.moeLayerStep, ()),
    fun _ => rfl, fun _ => rfl⟩

def opoiDraftResult : Record String Value OpoiDraftResult :=
  (Record.cons (required "request_id" string) <|
    .cons (required "draft_token_ids" word.list) .done).as
  ⟨fun (requestId, draftTokenIds, _) => ⟨requestId, draftTokenIds⟩,
    fun result => (result.requestId, result.draftTokenIds, ()),
    fun _ => rfl, fun _ => rfl⟩

def opoiKvRollbackAck : Record String Value OpoiKvRollbackAck :=
  (Record.cons (required "request_id" string) <|
    .cons (required "shard_index" u32) <|
    .cons (required "ok" boolean) <|
    .cons (optional "finalized_hash" string) .done).as
  ⟨fun (requestId, shardIndex, ok, finalizedHash, _) => ⟨requestId, shardIndex, ok, finalizedHash⟩,
    fun ack => (ack.requestId, ack.shardIndex, ack.ok, ack.finalizedHash, ()),
    fun _ => rfl, fun _ => rfl⟩

def auditPosition : Record String Value AuditPositionWire :=
  (Record.cons (required "step" usize) <|
    .cons (required "committed_token_id" word) <|
    .cons (required "auditor_token_id" word) <|
    .cons (required "admissible" boolean) .done).as
  ⟨fun (step, committedTokenId, auditorTokenId, admissible, _) =>
      ⟨step, committedTokenId, auditorTokenId, admissible⟩,
    fun position => (position.step, position.committedTokenId, position.auditorTokenId,
      position.admissible, ()),
    fun _ => rfl, fun _ => rfl⟩

def opoiAuditResult : Record String Value OpoiAuditResult :=
  (Record.cons (required "request_id" string) <|
    .cons (required "positions" auditPosition.codec.list) .done).as
  ⟨fun (requestId, positions, _) => ⟨requestId, positions⟩,
    fun result => (result.requestId, result.positions, ()),
    fun _ => rfl, fun _ => rfl⟩

def expertOutput : Record String Value ExpertOutputWire :=
  (Record.cons (required "shape" usize.list) <|
    .cons (required "data_hex" string) .done).as
  ⟨fun (shape, dataHex, _) => ⟨shape, dataHex⟩, fun output => (output.shape, output.dataHex, ()),
    fun _ => rfl, fun _ => rfl⟩

def opoiExpertResult : Record String Value OpoiExpertResult :=
  (Record.cons (required "request_id" string) <|
    .cons (required "layer_start" u32) <|
    .cons (required "layer_end" u32) <|
    .cons (required "layer_idx" u32) <|
    .cons (required "expert_id" u32) <|
    .cons (required "token_index" u32) <|
    .cons (required "output_hash" string) <|
    .cons (required "output" expertOutput.codec) .done).as
  ⟨fun (requestId, layerStart, layerEnd, layerIdx, expertId, tokenIndex, outputHash, output, _) =>
      ⟨requestId, layerStart, layerEnd, layerIdx, expertId, tokenIndex, outputHash, output⟩,
    fun result => (result.requestId, result.layerStart, result.layerEnd, result.layerIdx,
      result.expertId, result.tokenIndex, result.outputHash, result.output, ()),
    fun _ => rfl, fun _ => rfl⟩

end StratumBridge.Wire
