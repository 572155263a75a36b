import StratumBridge.Wire.Codec
import Mathlib.Tactic.SplitIfs

/-!
# What the hex decoders accept

Hex of either case with whole bytes, and whole words where words are read.  What is
read is what the digits say, so encoding it again spells the same text in lower case.
-/

namespace StratumBridge.Wire

/-- A hex digit of either case. -/
def isHexDigit (digit : Char) : Bool :=
  ('0' ≤ digit && digit ≤ '9') || ('a' ≤ digit && digit ≤ 'f') || ('A' ≤ digit && digit ≤ 'F')

/-- The two digits of each byte. -/
def hexDigits (bytes : List UInt8) : List Char :=
  bytes.flatMap fun byte => [hexDigit (byte / 16), hexDigit (byte % 16)]

theorem hexDigits_cons (byte : UInt8) (bytes : List UInt8) :
    hexDigits (byte :: bytes) =
      [hexDigit (byte / 16), hexDigit (byte % 16)] ++ hexDigits bytes :=
  List.flatMap_cons

/-! ## Digits -/

theorem toNat_lt_of_isHexDigit {digit : Char} (isHex : isHexDigit digit = true) :
    digit.toNat < 128 := by
  simp only [isHexDigit, Bool.or_eq_true, Bool.and_eq_true, decide_eq_true_eq, Char.le_def,
    UInt32.le_iff_toNat_le] at isHex
  change digit.val.toNat < 128
  have nine : '9'.val.toNat = 57 := rfl
  have small : 'f'.val.toNat = 102 := rfl
  have capital : 'F'.val.toNat = 70 := rfl
  omega

theorem isSome_hexValue (digit : Char) : (hexValue digit).isSome = isHexDigit digit := by
  unfold hexValue isHexDigit
  split_ifs <;> simp_all

/-- The value of a digit is that of its lower case. -/
theorem hexDigit_of_hexValue {digit : Char} {value : UInt8}
    (reads : hexValue digit = some value) : value < 16 ∧ hexDigit value = digit.toLower := by
  have all : ∀ code : Fin 128, ∀ value ∈ hexValue (Char.ofNat code),
      value < 16 ∧ hexDigit value = (Char.ofNat code).toLower := by decide +kernel
  have isHex : isHexDigit digit = true := by
    rw [← isSome_hexValue, reads, Option.isSome_some]
  have this := all ⟨digit.toNat, toNat_lt_of_isHexDigit isHex⟩ value
  rw [Char.ofNat_toNat] at this
  exact this reads

/-! ## Bytes -/

/-- Two digits are a byte, whose digits are theirs in lower case. -/
theorem hexDigits_pair {high low : Char} {first second : UInt8}
    (readsHigh : hexValue high = some first) (readsLow : hexValue low = some second) :
    [hexDigit ((first * 16 + second) / 16), hexDigit ((first * 16 + second) % 16)] =
      [high.toLower, low.toLower] := by
  obtain ⟨smallHigh, isHigh⟩ := hexDigit_of_hexValue readsHigh
  obtain ⟨smallLow, isLow⟩ := hexDigit_of_hexValue readsLow
  have boundHigh : first.toNat < 16 := by simpa using UInt8.lt_iff_toNat_lt.mp smallHigh
  have boundLow : second.toNat < 16 := by simpa using UInt8.lt_iff_toNat_lt.mp smallLow
  have whole : (first * 16 + second) / 16 = first := by
    apply UInt8.toNat.inj
    simp
    omega
  have part : (first * 16 + second) % 16 = second := by
    apply UInt8.toNat.inj
    simp
    omega
  rw [whole, part, isHigh, isLow]

/-- What is read has the digits of the text in lower case. -/
theorem hexDigits_of_hexDecodeDigits {digits : List Char} {bytes : List UInt8}
    (reads : hexDecodeDigits digits = some bytes) :
    hexDigits bytes = digits.map Char.toLower := by
  induction digits using hexDecodeDigits.induct generalizing bytes with
  | case1 =>
      cases reads
      rfl
  | case2 => cases reads
  | case3 high low rest ih =>
      simp only [hexDecodeDigits, Option.bind_eq_bind, Option.bind_eq_some_iff] at reads
      rcases reads with ⟨first, readsHigh, second, readsLow, later, readsRest, whole⟩
      cases whole
      rw [hexDigits_cons, hexDigits_pair readsHigh readsLow, ih readsRest]
      rfl

/-- Exactly pairs of hex digits are read. -/
theorem isSome_hexDecodeDigits_iff (digits : List Char) :
    (hexDecodeDigits digits).isSome = true ↔
      (∀ digit ∈ digits, isHexDigit digit = true) ∧ 2 ∣ digits.length := by
  induction digits using hexDecodeDigits.induct with
  | case1 => simp [hexDecodeDigits]
  | case2 digit => simp [hexDecodeDigits]
  | case3 high low rest ih =>
      have even : 2 ∣ (high :: low :: rest).length ↔ 2 ∣ rest.length := by
        simp only [List.length_cons]
        omega
      have parts : (hexDecodeDigits (high :: low :: rest)).isSome =
          ((hexValue high).isSome && (hexValue low).isSome && (hexDecodeDigits rest).isSome) := by
        rw [hexDecodeDigits]
        cases hexValue high <;> cases hexValue low <;> cases hexDecodeDigits rest <;> rfl
      rw [parts, isSome_hexValue, isSome_hexValue, Bool.and_eq_true, Bool.and_eq_true, ih, even]
      simp only [List.forall_mem_cons, and_assoc]

/-! ## Words -/

/-- The bits of a word, byte by byte. -/
theorem getLsbD_ofLeBytes (b0 b1 b2 b3 : UInt8) {index : Nat} (bound : index < 32) :
    (ofLeBytes b0 b1 b2 b3).toBitVec.getLsbD index =
      if index < 8 then b0.toBitVec.getLsbD index
      else if index < 16 then b1.toBitVec.getLsbD (index - 8)
      else if index < 24 then b2.toBitVec.getLsbD (index - 16)
      else b3.toBitVec.getLsbD (index - 24) := by
  have beyond : ∀ (byte : UInt8) (index : Nat), 8 ≤ index → byte.toBitVec.getLsbD index = false :=
    fun byte index far => BitVec.getLsbD_of_ge _ _ far
  simp only [ofLeBytes, UInt32.toBitVec_or, UInt32.toBitVec_shiftLeft, UInt8.toBitVec_toUInt32]
  by_cases first : index < 8
  · simp [first, bound, show index < 16 by omega, show index < 24 by omega]
  · by_cases second : index < 16
    · simp [first, second, bound, show index < 24 by omega, beyond b0 index (by omega)]
    · by_cases third : index < 24
      · simp [first, second, third, bound, beyond b0 index (by omega),
          beyond b1 (index - 8) (by omega)]
      · simp [first, second, third, bound, beyond b0 index (by omega),
          beyond b1 (index - 8) (by omega), beyond b2 (index - 16) (by omega)]

theorem leBytes_ofLeBytes (b0 b1 b2 b3 : UInt8) :
    leBytes (ofLeBytes b0 b1 b2 b3) = [b0, b1, b2, b3] := by
  simp only [leBytes, List.cons.injEq, and_true]
  refine ⟨?_, ?_, ?_, ?_⟩
  all_goals
    apply UInt8.toBitVec_inj.mp
    apply BitVec.eq_of_getLsbD_eq
    intro index bound
    simp only [UInt32.toBitVec_toUInt8, UInt32.toBitVec_shiftRight]
  · simp [bound, getLsbD_ofLeBytes _ _ _ _ (show index < 32 by omega)]
  · simp [bound, getLsbD_ofLeBytes _ _ _ _ (show 8 + index < 32 by omega),
      show 8 + index < 16 by omega]
  · simp [bound, getLsbD_ofLeBytes _ _ _ _ (show 16 + index < 32 by omega),
      show ¬ 16 + index < 8 by omega, show ¬ 16 + index < 16 by omega,
      show 16 + index < 24 by omega]
  · simp [bound, getLsbD_ofLeBytes _ _ _ _ (show 24 + index < 32 by omega),
      show ¬ 24 + index < 8 by omega, show ¬ 24 + index < 16 by omega,
      show ¬ 24 + index < 24 by omega]

theorem flatMap_leBytes_of_wordsOfBytes {bytes : List UInt8} {words : List UInt32}
    (reads : wordsOfBytes bytes = some words) : words.flatMap leBytes = bytes := by
  induction bytes using wordsOfBytes.induct generalizing words with
  | case1 =>
      cases reads
      rfl
  | case2 b0 b1 b2 b3 rest ih =>
      rw [wordsOfBytes, Option.map_eq_some_iff] at reads
      rcases reads with ⟨later, readsRest, rfl⟩
      rw [List.flatMap_cons, leBytes_ofLeBytes, ih readsRest]
      rfl
  | case3 bytes ne short =>
      rw [wordsOfBytes] at reads
      cases reads
      all_goals assumption

/-- Exactly whole words are read. -/
theorem isSome_wordsOfBytes_iff {bytes : List UInt8} :
    (wordsOfBytes bytes).isSome = true ↔ 4 ∣ bytes.length := by
  induction bytes using wordsOfBytes.induct with
  | case1 => simp [wordsOfBytes]
  | case2 b0 b1 b2 b3 rest ih =>
      rw [wordsOfBytes, Option.isSome_map, ih]
      simp only [List.length_cons]
      omega
  | case3 bytes ne short =>
      -- one to three bytes are left
      rcases bytes with _ | ⟨b0, _ | ⟨b1, _ | ⟨b2, _ | ⟨b3, rest⟩⟩⟩⟩
      · exact absurd rfl ne
      · simp [wordsOfBytes]
      · simp [wordsOfBytes]
      · simp [wordsOfBytes]
      · exact absurd rfl (short b0 b1 b2 b3 rest)

/-! ## Words in hex -/

/-- What is read of words in hex spells them in lower case. -/
theorem hexEncode_words {text : String} {words : List UInt32}
    (reads : (hexDecode text).bind wordsOfBytes = some words) :
    hexEncode (words.flatMap leBytes) = text.toLower := by
  obtain ⟨bytes, decoded, readsWords⟩ := Option.bind_eq_some_iff.mp reads
  rw [flatMap_leBytes_of_wordsOfBytes readsWords]
  apply String.toList_inj.mp
  have lower : text.toLower = text.map Char.toLower := rfl
  rw [hexEncode, String.toList_ofList, lower, String.toList_map]
  exact hexDigits_of_hexDecodeDigits decoded

theorem length_hexDigits (bytes : List UInt8) : (hexDigits bytes).length = 2 * bytes.length := by
  induction bytes with
  | nil => rfl
  | cons byte bytes ih =>
      rw [hexDigits_cons, List.length_append, ih]
      simp only [List.length_cons, List.length_nil]
      omega

/-- Words are read exactly from hex digits, eight for each word. -/
theorem isSome_words_iff {text : String} :
    ((hexDecode text).bind wordsOfBytes).isSome = true ↔
      (∀ digit ∈ text.toList, isHexDigit digit = true) ∧ 8 ∣ text.length := by
  have digits : hexDecode text = hexDecodeDigits text.toList := rfl
  have size : text.length = text.toList.length := String.length_toList.symm
  cases decoded : hexDecode text with
  | none =>
      have refused := isSome_hexDecodeDigits_iff text.toList
      rw [← digits, decoded] at refused
      simp only [Option.bind_none, Option.isSome_none, Bool.false_eq_true, false_iff] at refused ⊢
      rintro ⟨isHex, whole⟩
      exact refused ⟨isHex, by omega⟩
  | some bytes =>
      have accepted := (isSome_hexDecodeDigits_iff text.toList).mp
        (by rw [← digits, decoded, Option.isSome_some])
      have length := congrArg List.length (hexDigits_of_hexDecodeDigits decoded)
      rw [length_hexDigits, List.length_map, ← size] at length
      rw [Option.bind_some, isSome_wordsOfBytes_iff]
      constructor
      · intro whole
        exact ⟨accepted.1, by omega⟩
      · rintro ⟨-, whole⟩
        omega

end StratumBridge.Wire
