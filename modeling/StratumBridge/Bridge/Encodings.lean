import StratumBridge.Audit.Auditor
import StratumBridge.Audit.Signatures
import StratumBridge.Shard.Engine
import StratumBridge.Speculative.Engine
import StratumBridge.Wire.Hex

/-!
# Token ids and tensors in hex

The response of either engine and the receipt of the shard engine spell token ids
alike, and the auditor reads back what they spell.
-/

namespace StratumBridge

open Wire Audit
open Shard (PipelineState)
open Speculative (SpecPipeline)

/-- The loop of every encoder: the bytes of a token id go behind those of the ids
before it. -/
def extendRaw (tokenIds : List TokenId) : List UInt8 :=
  tokenIds.foldl (fun raw tokenId => raw ++ leBytes tokenId) []

theorem extendRaw_eq (tokenIds : List TokenId) : extendRaw tokenIds = responseBytes tokenIds := by
  have prefixed (raw : List UInt8) :
      tokenIds.foldl (fun raw tokenId => raw ++ leBytes tokenId) raw =
        raw ++ tokenIds.flatMap leBytes := by
    induction tokenIds generalizing raw with
    | nil => rw [List.foldl_nil, List.flatMap_nil, List.append_nil]
    | cons tokenId rest ih =>
        rw [List.foldl_cons, ih, List.flatMap_cons, List.append_assoc]
  exact prefixed []

/-- What the auditor reads of a response are its token ids. -/
theorem decodeTokenIdsHex_responseBytes (tokenIds : List TokenId) :
    decodeTokenIdsHex (hexEncode (responseBytes tokenIds)) = some tokenIds := by
  rw [decodeTokenIdsHex, hexDecode_hexEncode, Option.bind_some, responseBytes,
    wordsOfBytes_flatMap_leBytes]

/-- The three encoders of token ids agree, the auditor's decoder undoes them, and it
accepts exactly whole words in hex, of which encoding spells the lower case; the codec
of tensors does the same with the bit patterns of floats. -/
theorem encodings_agree :
    (∀ (sha256 : Digest) (mac : Mac) (config : B3LiteConfig) (requestId : RequestId)
        (wallet : Wallet) (responseHash : String) (pipeline : PipelineState)
        (spec : SpecPipeline), spec.generatedTokenIds = pipeline.generatedTokenIds →
      let text := hexEncode (extendRaw pipeline.generatedTokenIds)
      (buildResponse sha256 pipeline.generatedTokenIds).2 = text ∧
        (recordB3liteReceipt mac config requestId wallet pipeline
          responseHash).generatedTokenIdsHex = text ∧
        (Speculative.SpeculativeEngine.finalRow sha256 requestId spec wallet).responseHex =
          text ∧
        decodeTokenIdsHex text = some pipeline.generatedTokenIds) ∧
    (∀ sha256, Function.Injective fun tokenIds => (buildResponse sha256 tokenIds).2) ∧
    (∀ text, ((decodeTokenIdsHex text).isSome = true ↔
        (∀ digit ∈ text.toList, isHexDigit digit = true) ∧ 8 ∣ text.length) ∧
      ∀ tokenIds, decodeTokenIdsHex text = some tokenIds →
        ∀ sha256, (buildResponse sha256 tokenIds).2 = text.toLower) ∧
    (∀ values, hexToF32 (f32ToHex values) = some values) ∧
    (∀ text, ((hexToF32 text).isSome = true ↔
        (∀ digit ∈ text.toList, isHexDigit digit = true) ∧ 8 ∣ text.length) ∧
      ∀ values, hexToF32 text = some values → f32ToHex values = text.toLower) := by
  refine ⟨?_, ?_, ?_, hexToF32_f32ToHex, ?_⟩
  · intro sha256 mac config requestId wallet responseHash pipeline spec same text
    have spelled : text = hexEncode (responseBytes pipeline.generatedTokenIds) :=
      congrArg hexEncode (extendRaw_eq _)
    rw [spelled]
    refine ⟨rfl, rfl, ?_, decodeTokenIdsHex_responseBytes _⟩
    exact congrArg (fun tokenIds => hexEncode (responseBytes tokenIds)) same
  · intro sha256 first second same
    apply Option.some.inj
    rw [← decodeTokenIdsHex_responseBytes, ← decodeTokenIdsHex_responseBytes]
    exact congrArg decodeTokenIdsHex same
  · intro text
    exact ⟨isSome_words_iff, fun tokenIds reads sha256 => hexEncode_words reads⟩
  · intro text
    exact ⟨isSome_words_iff, fun values reads => hexEncode_words reads⟩

end StratumBridge
