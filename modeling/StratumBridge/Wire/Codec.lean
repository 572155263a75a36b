import StratumBridge.Wire.Messages

/-!
# Byte and hex encodings

The base-16 codec and the little-endian encoding of 32-bit words, as the
engines use them for response bytes and tensor payloads.
-/

namespace StratumBridge.Wire

/-- A cryptographic digest of a byte string. -/
abbrev Digest := List UInt8 → List UInt8

/-- `u32::to_le_bytes`. -/
def leBytes (word : UInt32) : List UInt8 :=
  [word.toUInt8, (word >>> 8).toUInt8, (word >>> 16).toUInt8, (word >>> 24).toUInt8]

/-- `u32::from_le_bytes` on the first four bytes. -/
def ofLeBytes (b0 b1 b2 b3 : UInt8) : UInt32 :=
  b0.toUInt32 ||| (b1.toUInt32 <<< 8) ||| (b2.toUInt32 <<< 16) ||| (b3.toUInt32 <<< 24)

/-- The lower-case hex digit of a nibble. -/
def hexDigit (nibble : UInt8) : Char :=
  if nibble < 10 then Char.ofNat (48 + nibble.toNat) else Char.ofNat (87 + nibble.toNat)

/-- `hex::encode`. -/
def hexEncode (bytes : List UInt8) : String :=
  String.ofList (bytes.flatMap fun byte => [hexDigit (byte / 16), hexDigit (byte % 16)])

/-- The value of a hex digit of either case. -/
def hexValue (digit : Char) : Option UInt8 :=
  if '0' ≤ digit ∧ digit ≤ '9' then some (digit.toNat - 48).toUInt8
  else if 'a' ≤ digit ∧ digit ≤ 'f' then some (digit.toNat - 87).toUInt8
  else if 'A' ≤ digit ∧ digit ≤ 'F' then some (digit.toNat - 55).toUInt8
  else none

/-- Decode a sequence of digit pairs. -/
def hexDecodeDigits : List Char → Option (List UInt8)
  | [] => some []
  | [_] => none
  | high :: low :: rest => do
      let first ← hexValue high
      let second ← hexValue low
      let bytes ← hexDecodeDigits rest
      pure ((first * 16 + second) :: bytes)

/-- `hex::decode`. -/
def hexDecode (text : String) : Option (List UInt8) :=
  hexDecodeDigits text.toList

theorem hexValue_hexDigit (nibble : UInt8) (small : nibble < 16) :
    hexValue (hexDigit nibble) = some nibble := by
  have all : ∀ n : Fin 16, hexValue (hexDigit (UInt8.ofNat n)) = some (UInt8.ofNat n) := by decide
  have bound : nibble.toNat < 16 := by simpa using UInt8.lt_iff_toNat_lt.mp small
  simpa using all ⟨nibble.toNat, bound⟩

theorem highNibble_lt (byte : UInt8) : byte / 16 < 16 := by
  rw [UInt8.lt_iff_toNat_lt, UInt8.toNat_div]
  have bound := byte.toNat_lt
  simp
  omega

theorem lowNibble_lt (byte : UInt8) : byte % 16 < 16 := by
  rw [UInt8.lt_iff_toNat_lt, UInt8.toNat_mod]
  simp
  omega

theorem hexDecodeDigits_hexDigits (bytes : List UInt8) :
    hexDecodeDigits (bytes.flatMap fun byte => [hexDigit (byte / 16), hexDigit (byte % 16)]) =
      some bytes := by
  induction bytes with
  | nil => rfl
  | cons byte bytes ih =>
      have whole : byte / 16 * 16 + byte % 16 = byte := by
        have bound := byte.toNat_lt
        apply UInt8.toNat.inj
        simp
        omega
      simp only [List.flatMap_cons, List.cons_append, List.nil_append, hexDecodeDigits,
        hexValue_hexDigit _ (highNibble_lt byte), hexValue_hexDigit _ (lowNibble_lt byte), ih]
      simp [whole]

/-- Decoding undoes encoding. -/
theorem hexDecode_hexEncode (bytes : List UInt8) : hexDecode (hexEncode bytes) = some bytes := by
  rw [hexDecode, hexEncode, String.toList_ofList]
  exact hexDecodeDigits_hexDigits bytes

theorem hexEncode_injective : Function.Injective hexEncode := by
  intro first second same
  apply Option.some.inj
  rw [← hexDecode_hexEncode, ← hexDecode_hexEncode, same]

/-- Read consecutive little-endian words; a trailing partial word is an
error. -/
def wordsOfBytes : List UInt8 → Option (List F32)
  | [] => some []
  | b0 :: b1 :: b2 :: b3 :: rest => (wordsOfBytes rest).map (ofLeBytes b0 b1 b2 b3 :: ·)
  | _ => none

theorem ofLeBytes_leBytes (word : UInt32) :
    ofLeBytes word.toUInt8 (word >>> 8).toUInt8 (word >>> 16).toUInt8 (word >>> 24).toUInt8 =
      word := by
  apply UInt32.toBitVec_inj.mp
  simp only [ofLeBytes, UInt32.toBitVec_or, UInt32.toBitVec_shiftLeft, UInt8.toBitVec_toUInt32,
    UInt32.toBitVec_toUInt8, UInt32.toBitVec_shiftRight]
  ext index bound
  simp
  grind

/-- Words are read back from their bytes. -/
theorem wordsOfBytes_flatMap_leBytes (words : List UInt32) :
    wordsOfBytes (words.flatMap leBytes) = some words := by
  induction words with
  | nil => rfl
  | cons word words ih =>
      rw [List.flatMap_cons, leBytes]
      simp only [List.cons_append, List.nil_append, wordsOfBytes, ih, ofLeBytes_leBytes,
        Option.map_some]

/-- Different words have different bytes. -/
theorem leBytes_injective : Function.Injective leBytes := by
  intro first second same
  have words : [first] = [second] := by
    have texts : [first].flatMap leBytes = [second].flatMap leBytes := by
      simp only [List.flatMap_singleton, same]
    apply Option.some.inj
    rw [← wordsOfBytes_flatMap_leBytes, ← wordsOfBytes_flatMap_leBytes, texts]
  exact (List.cons.inj words).1

/-- `hex_to_f32`, keeping each `f32` as its bit pattern. -/
def hexToF32 (text : String) : Option (List F32) :=
  (hexDecode text).bind wordsOfBytes

/-- `f32_to_le_bytes`. -/
def f32ToLeBytes (data : List F32) : List UInt8 :=
  data.flatMap leBytes

/-- `f32_to_hex`. -/
def f32ToHex (data : List F32) : String :=
  hexEncode (f32ToLeBytes data)

/-- Floats are read back from their hex. -/
theorem hexToF32_f32ToHex (data : List F32) : hexToF32 (f32ToHex data) = some data := by
  rw [hexToF32, f32ToHex, hexDecode_hexEncode, Option.bind_some, f32ToLeBytes,
    wordsOfBytes_flatMap_leBytes]

/-- `sha256_hex`. -/
def sha256Hex (sha256 : Digest) (data : List UInt8) : String :=
  hexEncode (sha256 data)

/-- The response bytes of a pipeline: every generated token id, little-endian,
in generation order. -/
def responseBytes (tokenIds : List TokenId) : List UInt8 :=
  tokenIds.flatMap leBytes

/-- `build_response`: the response hash and the response in hex. -/
def buildResponse (sha256 : Digest) (tokenIds : List TokenId) : String × String :=
  (hexEncode (sha256 (responseBytes tokenIds)), hexEncode (responseBytes tokenIds))

example : hexEncode (responseBytes [1, 2]) = "0100000002000000" := by decide

example : hexToF32 "0000803f" = some [0x3f800000] := by decide

end StratumBridge.Wire
