import StratumBridge.Audit.Tables
import StratumBridge.Data.Frames
import StratumBridge.Shard.Engine

/-!
# Signed receipts

The receipt of a finished pipeline and the signature over it.  The signature commits
to the fields it is made of, as long as none of them is too long for its length; the
prompt and the number of layers are not among them.

HMAC-SHA256 is a function of the secret and the message.
-/

namespace StratumBridge.Audit

open Data Wire Shard

/-- A keyed hash. -/
abbrev Mac := List UInt8 → List UInt8 → List UInt8

/-- `ReceiptFields`. -/
structure ReceiptFields where
  requestId : RequestId
  minerWallet : Wallet
  modelId : String
  ggufSha256 : String
  responseHash : String
  generatedTokenIds : List TokenId
  deriving DecidableEq

namespace ReceiptFields

/-- The texts, in the order in which they are signed. -/
def texts (fields : ReceiptFields) : List String :=
  [fields.requestId, fields.minerWallet, fields.modelId, fields.ggufSha256, fields.responseHash]

/-- No text and no list is too long for its length. -/
def Short (fields : ReceiptFields) : Prop :=
  (∀ text ∈ fields.texts, text.toUTF8.data.toList.length < 2 ^ 32) ∧
    fields.generatedTokenIds.length < 2 ^ 32

instance (fields : ReceiptFields) : Decidable fields.Short :=
  inferInstanceAs (Decidable (_ ∧ _))

end ReceiptFields

/-- A length as a little-endian `u32`. -/
def lengthBytes (length : Nat) : List UInt8 :=
  leBytes (UInt32.ofNat length)

/-- `canonical_bytes`. -/
def canonicalBytes (fields : ReceiptFields) : List UInt8 :=
  frames lengthBytes (fields.texts.map fun text => text.toUTF8.data.toList) ++
    (lengthBytes fields.generatedTokenIds.length ++ fields.generatedTokenIds.flatMap leBytes)

/-- `sign_receipt`. -/
def signReceipt (mac : Mac) (secret : List UInt8) (fields : ReceiptFields) : String :=
  hexEncode (mac secret (canonicalBytes fields))

/-- `eq_ignore_ascii_case`. -/
def eqIgnoreAsciiCase (first second : String) : Bool :=
  first.toList.map Char.toLower == second.toList.map Char.toLower

/-- `verify_receipt`. -/
def verifyReceipt (mac : Mac) (secret : List UInt8) (fields : ReceiptFields)
    (signatureHex : String) : Bool :=
  eqIgnoreAsciiCase (signReceipt mac secret fields) signatureHex

/-- `B3LiteConfig`, with its rate as the signatures that are sampled at it. -/
structure B3LiteConfig where
  secret : List UInt8
  shouldSample : String → Bool

/-- What `record_b3lite_receipt` signs. -/
def receiptFields (requestId : RequestId) (minerWallet : Wallet) (pipeline : PipelineState)
    (responseHash : String) : ReceiptFields where
  requestId := requestId
  minerWallet := minerWallet
  modelId := pipeline.manifest.modelId
  ggufSha256 := pipeline.manifest.backbonePomRoot
  responseHash := responseHash
  generatedTokenIds := pipeline.generatedTokenIds

/-- `record_b3lite_receipt`. -/
def recordB3liteReceipt (mac : Mac) (config : B3LiteConfig) (requestId : RequestId)
    (minerWallet : Wallet) (pipeline : PipelineState) (responseHash : String) : NewReceipt :=
  let signature := signReceipt mac config.secret
    (receiptFields requestId minerWallet pipeline responseHash)
  { requestId := requestId
    minerWallet := minerWallet
    modelId := pipeline.manifest.modelId
    ggufSha256 := pipeline.manifest.backbonePomRoot
    promptHash := some pipeline.promptHash
    promptHex := pipeline.originalPromptHex
    responseHash := responseHash
    generatedTokenIdsHex := hexEncode (pipeline.generatedTokenIds.flatMap leBytes)
    totalLayers := Int32.ofNat pipeline.manifest.numLayers
    signatureHex := signature
    sampled := config.shouldSample signature }

/-! ## What a signature commits to -/

theorem counts_lengthBytes : Counts lengthBytes 4 (2 ^ 32) where
  length _ := rfl
  injective m n small alsoSmall same := by
    have words := congrArg UInt32.toNat (leBytes_injective same)
    have size : UInt32.size = 2 ^ 32 := rfl
    rw [UInt32.toNat_ofNat_of_lt' (by omega), UInt32.toNat_ofNat_of_lt' (by omega)] at words
    exact words

theorem utf8_injective : Function.Injective fun text : String => text.toUTF8.data.toList := by
  intro first second same
  apply String.toByteArray_inj.mp
  apply ByteArray.ext
  exact Array.toList_inj.mp same

/-- Short receipts with the same canonical bytes are the same. -/
theorem canonicalBytes_injective {first second : ReceiptFields} (small : first.Short)
    (alsoSmall : second.Short) (same : canonicalBytes first = canonicalBytes second) :
    first = second := by
  have bounded : ∀ fields : ReceiptFields, fields.Short →
      ∀ content ∈ fields.texts.map fun text => text.toUTF8.data.toList,
        content.length < 2 ^ 32 := by
    intro fields short content mem
    obtain ⟨text, listed, rfl⟩ := List.mem_map.mp mem
    exact short.1 text listed
  have many : (first.texts.map fun text => text.toUTF8.data.toList).length =
      (second.texts.map fun text => text.toUTF8.data.toList).length := rfl
  have parts := frames_append_inj counts_lengthBytes many (bounded first small)
    (bounded second alsoSmall) same
  have tokens := counts_lengthBytes.append_inj small.2 alsoSmall.2 parts.2
  have ids : first.generatedTokenIds = second.generatedTokenIds := by
    apply Option.some.inj
    rw [← wordsOfBytes_flatMap_leBytes, ← wordsOfBytes_flatMap_leBytes, tokens.2]
  have texts : first.texts = second.texts :=
    List.map_injective_iff.mpr utf8_injective parts.1
  rcases first with ⟨request, wallet, model, file, response, firstIds⟩
  rcases second with ⟨otherRequest, otherWallet, otherModel, otherFile, otherResponse, otherIds⟩
  simp only [ReceiptFields.texts, List.cons.injEq, and_true] at texts
  rcases texts with ⟨rfl, rfl, rfl, rfl, rfl⟩
  cases ids
  rfl

/-- Two short receipts are signed alike exactly when they agree in every field. -/
theorem canonicalBytes_eq_iff {first second : ReceiptFields} (small : first.Short)
    (alsoSmall : second.Short) : canonicalBytes first = canonicalBytes second ↔
      first.requestId = second.requestId ∧ first.minerWallet = second.minerWallet ∧
        first.modelId = second.modelId ∧ first.ggufSha256 = second.ggufSha256 ∧
        first.responseHash = second.responseHash ∧
        first.generatedTokenIds = second.generatedTokenIds := by
  constructor
  · intro same
    cases canonicalBytes_injective small alsoSmall same
    exact ⟨rfl, rfl, rfl, rfl, rfl, rfl⟩
  · rintro ⟨request, wallet, model, file, response, ids⟩
    rw [canonicalBytes, canonicalBytes, ReceiptFields.texts, ReceiptFields.texts, request, wallet,
      model, file, response, ids]

/-- A byte that is shifted from one field into the next changes the message. -/
theorem canonicalBytes_shifted_ne :
    canonicalBytes ⟨"ab", "c", "m", "g", "r", []⟩ ≠ canonicalBytes ⟨"a", "bc", "m", "g", "r", []⟩ :=
  fun same => absurd ((canonicalBytes_eq_iff (by decide) (by decide)).mp same) (by decide)

theorem toLower_hexDigit (nibble : UInt8) (small : nibble < 16) :
    (hexDigit nibble).toLower = hexDigit nibble := by
  have all : ∀ n : Fin 16, (hexDigit (UInt8.ofNat n)).toLower = hexDigit (UInt8.ofNat n) := by
    decide
  have bound : nibble.toNat < 16 := by simpa using UInt8.lt_iff_toNat_lt.mp small
  simpa using all ⟨nibble.toNat, bound⟩

theorem map_toLower_hexEncode (bytes : List UInt8) :
    (hexEncode bytes).toList.map Char.toLower = (hexEncode bytes).toList := by
  rw [hexEncode, String.toList_ofList]
  induction bytes with
  | nil => rfl
  | cons byte bytes ih =>
      rw [List.flatMap_cons, List.map_append, ih]
      simp only [List.map_cons, List.map_nil, toLower_hexDigit _ (highNibble_lt byte),
        toLower_hexDigit _ (lowNibble_lt byte)]

/-- Under a hash that tells messages apart, a signature verifies exactly what has the
canonical bytes that were signed. -/
theorem verifyReceipt_signReceipt {mac : Mac} {secret : List UInt8}
    (injective : Function.Injective (mac secret)) (fields signed : ReceiptFields) :
    verifyReceipt mac secret fields (signReceipt mac secret signed) = true ↔
      canonicalBytes fields = canonicalBytes signed := by
  rw [verifyReceipt, eqIgnoreAsciiCase, beq_iff_eq, signReceipt, signReceipt,
    map_toLower_hexEncode, map_toLower_hexEncode]
  constructor
  · intro same
    exact injective (hexEncode_injective (String.toList_inj.mp same))
  · intro same
    rw [same]

/-- So it commits to all the fields of a short receipt. -/
theorem verifyReceipt_iff {mac : Mac} {secret : List UInt8}
    (injective : Function.Injective (mac secret)) {fields signed : ReceiptFields}
    (small : fields.Short) (alsoSmall : signed.Short) :
    verifyReceipt mac secret fields (signReceipt mac secret signed) = true ↔ fields = signed := by
  rw [verifyReceipt_signReceipt injective]
  constructor
  · exact canonicalBytes_injective small alsoSmall
  · exact congrArg canonicalBytes

end StratumBridge.Audit
