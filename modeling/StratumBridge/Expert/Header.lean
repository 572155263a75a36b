import StratumBridge.Data.Frames
import StratumBridge.Expert.Gguf
import Mathlib.Data.List.Induction

/-!
# The grammar of GGUF headers

A header as data, in the little-endian layout: a version, pairs of a key and a value
whose arrays nest, and the entries of the tensor table.  What
`parse_gguf_tensor_infos` accepts is the layouts of headers, with anything behind
them.  A reader that passes by values does not look at the type of an array that has
no elements; which types such a header may name is a parameter of the grammar.  The
depth to which arrays nest is bounded by the bytes alone: a call stack that holds the
recursion is assumed.
-/

namespace StratumBridge.Expert

open Data

/-! ## Numbers -/

/-- So many bytes of a number, the lowest first. -/
def leBytesOf : Nat → Nat → List UInt8
  | 0, _ => []
  | width + 1, value => UInt8.ofNat value :: leBytesOf width (value / 256)

@[simp]
theorem length_leBytesOf (width value : Nat) : (leBytesOf width value).length = width := by
  induction width generalizing value with
  | zero => rfl
  | succ width ih => rw [leBytesOf, List.length_cons, ih]

theorem natOfLeBytes_leBytesOf (width value : Nat) :
    natOfLeBytes (leBytesOf width value) = value % 256 ^ width := by
  induction width generalizing value with
  | zero => rw [Nat.pow_zero, Nat.mod_one]; rfl
  | succ width ih =>
      have split : natOfLeBytes (leBytesOf (width + 1) value) =
          (UInt8.ofNat value).toNat + 256 * natOfLeBytes (leBytesOf width (value / 256)) := rfl
      have low : (UInt8.ofNat value).toNat = value % 256 := UInt8.toNat_ofNat'
      rw [split, ih, low, Nat.pow_succ', Nat.mod_mul]

theorem leBytesOf_natOfLeBytes (bytes : List UInt8) :
    leBytesOf bytes.length (natOfLeBytes bytes) = bytes := by
  induction bytes with
  | nil => rfl
  | cons byte bytes ih =>
      have value : natOfLeBytes (byte :: bytes) = byte.toNat + 256 * natOfLeBytes bytes := rfl
      have below : byte.toNat < 256 := byte.toNat_lt
      have high : (byte.toNat + 256 * natOfLeBytes bytes) / 256 = natOfLeBytes bytes := by omega
      have low : UInt8.ofNat (byte.toNat + 256 * natOfLeBytes bytes) = byte := by
        apply UInt8.toNat_inj.mp
        rw [UInt8.toNat_ofNat']
        omega
      rw [List.length_cons, leBytesOf, value, high, low, ih]

theorem natOfLeBytes_lt (bytes : List UInt8) : natOfLeBytes bytes < 256 ^ bytes.length := by
  induction bytes with
  | nil => exact Nat.zero_lt_one
  | cons byte bytes ih =>
      have value : natOfLeBytes (byte :: bytes) = byte.toNat + 256 * natOfLeBytes bytes := rfl
      have below : byte.toNat < 256 := byte.toNat_lt
      rw [value, List.length_cons, Nat.pow_succ']
      omega

/-- Numbers that fit are told apart by their bytes. -/
theorem counts_leBytesOf (width : Nat) : Counts (leBytesOf width) width (256 ^ width) where
  length := length_leBytesOf width
  injective m n small alsoSmall same := by
    have values := congrArg natOfLeBytes same
    rwa [natOfLeBytes_leBytesOf, natOfLeBytes_leBytesOf, Nat.mod_eq_of_lt small,
      Nat.mod_eq_of_lt alsoSmall] at values

variable {bound : Nat}

theorem reads_readExactOrIncomplete (count : Nat) :
    ReadsBelow bound (readExactOrIncomplete count)
      fun value word => word = value ∧ value.length = count := by
  intro input value rest _
  unfold readExactOrIncomplete
  constructor
  · intro ok
    split at ok
    · cases ok
    · cases ok
      refine ⟨input.take count, ⟨rfl, ?_⟩, (List.take_append_drop ..).symm⟩
      rw [List.length_take]
      omega
  · rintro ⟨word, ⟨rfl, rfl⟩, rfl⟩
    have enough : ¬ (word ++ rest).length < word.length := by
      rw [List.length_append]
      omega
    rw [if_neg enough, List.take_left', List.drop_left']
    · rfl
    · rfl

/-- A word is read from as many bytes as it has. -/
theorem reads_word {α : Type} {width : Nat} {ofNat : Nat → α} {toNat : α → Nat}
    (small : ∀ value, toNat value < 256 ^ width)
    (back : ∀ number < 256 ^ width, toNat (ofNat number) = number)
    (inverse : ∀ value, ofNat (toNat value) = value) :
    ReadsBelow bound
      (do
        let bytes ← readExactOrIncomplete width
        return ofNat (natOfLeBytes bytes))
      fun value word => word = leBytesOf width (toNat value) := by
  refine ((reads_readExactOrIncomplete width).bind fun bytes => .pure _).congr ?_
  intro value word
  constructor
  · rintro ⟨bytes, front, rest, ⟨rfl, rfl⟩, ⟨rfl, rfl⟩, rfl⟩
    rw [back _ (natOfLeBytes_lt front), leBytesOf_natOfLeBytes, List.append_nil]
  · rintro rfl
    refine ⟨_, _, [], ⟨rfl, length_leBytesOf width _⟩, ⟨?_, rfl⟩, (List.append_nil _).symm⟩
    rw [natOfLeBytes_leBytesOf, Nat.mod_eq_of_lt (small value), inverse]

theorem reads_readU32 :
    ReadsBelow bound readU32 fun value word => word = leBytesOf 4 value.toNat :=
  reads_word UInt32.toNat_lt (fun _ small => UInt32.toNat_ofNat_of_lt' small)
    fun _ => UInt32.ofNat_toNat

theorem reads_readU64 :
    ReadsBelow bound readU64 fun value word => word = leBytesOf 8 value.toNat :=
  reads_word UInt64.toNat_lt (fun _ small => UInt64.toNat_ofNat_of_lt' small)
    fun _ => UInt64.ofNat_toNat

/-! ## Strings and values -/

/-- The bytes of a string that is not too long to be read. -/
structure GgufString where
  bytes : List UInt8
  fits : bytes.length ≤ headerPrefixCapBytes

namespace GgufString

/-- A string after its length. -/
def encode (string : GgufString) : List UInt8 :=
  leBytesOf 8 string.bytes.length ++ string.bytes

/-- What it is read as. -/
def text (string : GgufString) : String :=
  fromUtf8Lossy string.bytes

end GgufString

theorem reads_readGgufString :
    ReadsBelow bound readGgufString
      fun text word => ∃ string : GgufString, string.text = text ∧ word = string.encode := by
  have body : ∀ len : UInt64, ReadsBelow bound
      (if headerPrefixCapBytes < len.toNat then
        throw (.invalid ("gguf string length " ++ toString len ++ " exceeds header prefix cap"))
      else do
        let bytes ← readExactOrIncomplete len.toNat
        return fromUtf8Lossy bytes)
      fun text word => ∃ string : GgufString, string.text = text ∧ word = string.bytes ∧
        string.bytes.length = len.toNat := by
    intro len
    split
    · rename_i long
      refine (ReadsBelow.throw _).congr fun text word => ⟨False.elim, ?_⟩
      rintro ⟨string, -, -, length⟩
      have fits := string.fits
      omega
    · rename_i fits
      refine ((reads_readExactOrIncomplete len.toNat).bind fun bytes => .pure _).congr ?_
      intro text word
      constructor
      · rintro ⟨bytes, front, back, ⟨rfl, length⟩, ⟨rfl, rfl⟩, rfl⟩
        exact ⟨⟨front, by omega⟩, rfl, List.append_nil _, length⟩
      · rintro ⟨string, rfl, rfl, length⟩
        exact ⟨string.bytes, string.bytes, [], ⟨rfl, length⟩, ⟨rfl, rfl⟩,
          (List.append_nil _).symm⟩
  refine (reads_readU64.bind body).congr fun text word => ?_
  constructor
  · rintro ⟨len, front, back, rfl, ⟨string, rfl, rfl, length⟩, rfl⟩
    exact ⟨string, rfl, by rw [GgufString.encode, length]⟩
  · rintro ⟨string, rfl, rfl⟩
    have small : string.bytes.length < UInt64.size :=
      Nat.lt_of_le_of_lt string.fits (by decide)
    have length : (UInt64.ofNat string.bytes.length).toNat = string.bytes.length :=
      UInt64.toNat_ofNat_of_lt' small
    refine ⟨UInt64.ofNat string.bytes.length, _, string.bytes, rfl,
      ⟨string, rfl, rfl, length.symm⟩, ?_⟩
    rw [length, GgufString.encode]

/-- The value types of a fixed width. -/
inductive FixedType
  | u8 | i8 | u16 | i16 | u32 | i32 | f32 | bool | u64 | i64 | f64
  deriving DecidableEq

namespace FixedType

/-- The number of a type. -/
def code : FixedType → UInt32
  | u8 => 0
  | i8 => 1
  | u16 => 2
  | i16 => 3
  | u32 => 4
  | i32 => 5
  | f32 => 6
  | bool => 7
  | u64 => 10
  | i64 => 11
  | f64 => 12

/-- The bytes that a value takes. -/
def width : FixedType → Nat
  | u8 | i8 | bool => 1
  | u16 | i16 => 2
  | u32 | i32 | f32 => 4
  | u64 | i64 | f64 => 8

theorem code_injective : Function.Injective code := by
  intro first second same
  cases first <;> cases second <;> first | rfl | exact absurd same (by decide)

theorem code_ne (type : FixedType) : type.code ≠ 8 ∧ type.code ≠ 9 := by
  cases type <;> decide

end FixedType

/-- The numbers of the 13 value types. -/
def valueTypes : List UInt32 :=
  [0, 1, 2, 3, 4, 5, 6, 7, 8, 9, 10, 11, 12]

/-- A metadata value; one of a fixed width as its bits. -/
inductive MetadataValue
  | fixed (type : FixedType) (bits : BitVec (8 * type.width))
  | string (text : GgufString)
  | array (elemType : UInt32) (values : List MetadataValue)

namespace MetadataValue

/-- The number of a value's type. -/
def typeCode : MetadataValue → UInt32
  | fixed type _ => type.code
  | string _ => 8
  | array _ _ => 9

mutual

/-- The layout of a value, after its type. -/
def encode : MetadataValue → List UInt8
  | fixed type bits => leBytesOf type.width bits.toNat
  | string text => text.encode
  | array elemType values =>
      leBytesOf 4 elemType.toNat ++ (leBytesOf 8 values.length ++ encodeAll values)

/-- The layout of the elements of an array. -/
def encodeAll : List MetadataValue → List UInt8
  | [] => []
  | value :: values => value.encode ++ encodeAll values

end

/-- Arrays hold values of the type that they name, which is an admitted one, and not
too many of them. -/
inductive WellFormed (admitted : UInt32 → Prop) : MetadataValue → Prop
  | fixed (type : FixedType) (bits : BitVec (8 * type.width)) :
      WellFormed admitted (.fixed type bits)
  | string (text : GgufString) : WellFormed admitted (.string text)
  | array (elemType : UInt32) (values : List MetadataValue) (names : admitted elemType)
      (few : values.length ≤ maxMetadataOrTensorCount.toNat)
      (typed : ∀ value ∈ values, value.typeCode = elemType)
      (formed : ∀ value ∈ values, WellFormed admitted value) :
      WellFormed admitted (.array elemType values)

theorem encodeAll_eq_flatMap (values : List MetadataValue) :
    encodeAll values = values.flatMap encode := by
  induction values with
  | nil => rfl
  | cons value values ih => rw [encodeAll, ih, List.flatMap_cons]

/-- The well-formed values of a type. -/
def Values (admitted : UInt32 → Prop) (vtype : UInt32) (value : MetadataValue) : Prop :=
  value.WellFormed admitted ∧ value.typeCode = vtype

/-- The layouts of the values of a fixed width are the words of that width. -/
theorem exists_values_fixed_iff {admitted : UInt32 → Prop} {type : FixedType}
    {word : List UInt8} :
    (∃ value, Values admitted type.code value ∧ word = value.encode) ↔
      word.length = type.width := by
  constructor
  · rintro ⟨value, ⟨-, same⟩, rfl⟩
    cases value with
    | fixed other bits =>
        cases FixedType.code_injective same
        rw [encode, length_leBytesOf]
    | string text => exact absurd same.symm type.code_ne.1
    | array elemType values => exact absurd same.symm type.code_ne.2
  · intro length
    refine ⟨.fixed type (BitVec.ofNat _ (natOfLeBytes word)), ⟨.fixed _ _, rfl⟩, ?_⟩
    have small := natOfLeBytes_lt word
    have size : 2 ^ (8 * type.width) = 256 ^ type.width := Nat.pow_mul 2 8 type.width
    rw [encode, BitVec.toNat_ofNat, size, Nat.mod_eq_of_lt (length ▸ small), ← length,
      leBytesOf_natOfLeBytes]

end MetadataValue

open MetadataValue

theorem reads_ignore {α : Type} {read : Parser α} {words : Grammar UInt8 α}
    (reads : ReadsBelow bound read words) :
    ReadsBelow bound (ignore read) fun _ word => ∃ value, words value word := by
  refine (reads.bind fun value => .pure _).congr fun value word => ?_
  constructor
  · rintro ⟨held, front, back, listed, ⟨rfl, rfl⟩, rfl⟩
    exact ⟨held, by rwa [List.append_nil]⟩
  · rintro ⟨held, listed⟩
    exact ⟨held, word, [], listed, ⟨rfl, rfl⟩, (List.append_nil _).symm⟩

/-- What is read a number of times is so many layouts after one another. -/
theorem reads_readTimes {γ : Type} {encode : γ → List UInt8} {valid : γ → Prop}
    {read : Parser Unit}
    (reads : ReadsBelow bound read fun _ word => ∃ item, valid item ∧ word = encode item)
    (count : Nat) :
    ReadsBelow bound (readTimes read count) fun _ word =>
      ∃ items : List γ, items.length = count ∧ (∀ item ∈ items, valid item) ∧
        word = items.flatMap encode := by
  induction count with
  | zero =>
      refine (ReadsBelow.pure ()).congr fun _ word => ?_
      constructor
      · rintro ⟨-, rfl⟩
        exact ⟨[], rfl, fun _ mem => absurd mem List.not_mem_nil, rfl⟩
      · rintro ⟨items, length, -, rfl⟩
        rw [List.eq_nil_of_length_eq_zero length]
        exact ⟨rfl, rfl⟩
  | succ count ih =>
      refine (reads.bind fun _ => ih).congr fun _ word => ?_
      constructor
      · rintro ⟨-, front, back, ⟨item, fits, rfl⟩, ⟨items, length, all, rfl⟩, rfl⟩
        refine ⟨item :: items, by rw [List.length_cons, length], ?_,
          (List.flatMap_cons ..).symm⟩
        exact List.forall_mem_cons.mpr ⟨fits, all⟩
      · rintro ⟨items, length, all, rfl⟩
        cases items with
        | nil => cases length
        | cons item items =>
            have parts := List.forall_mem_cons.mp all
            exact ⟨(), encode item, items.flatMap encode, ⟨item, parts.1, rfl⟩,
              ⟨items, Nat.succ.inj length, parts.2, rfl⟩, List.flatMap_cons ..⟩

theorem reads_skipFixed {admitted : UInt32 → Prop} (type : FixedType) :
    ReadsBelow bound (ignore (readExactOrIncomplete type.width)) fun _ word =>
      ∃ value, Values admitted type.code value ∧ word = value.encode := by
  refine (reads_ignore (reads_readExactOrIncomplete type.width)).congr fun _ word => ?_
  rw [exists_values_fixed_iff]
  constructor
  · rintro ⟨bytes, rfl, length⟩
    exact length
  · intro length
    exact ⟨word, rfl, length⟩

theorem reads_skipString {admitted : UInt32 → Prop} :
    ReadsBelow bound (ignore readGgufString) fun _ word =>
      ∃ value, Values admitted 8 value ∧ word = value.encode := by
  refine (reads_ignore reads_readGgufString).congr fun _ word => ?_
  constructor
  · rintro ⟨text, string, -, rfl⟩
    exact ⟨.string string, ⟨.string _, rfl⟩, rfl⟩
  · rintro ⟨value, ⟨-, same⟩, rfl⟩
    cases value with
    | fixed type bits => exact absurd same type.code_ne.1
    | string string => exact ⟨string.text, string, rfl, rfl⟩
    | array elemType values => exact absurd (show (9 : UInt32) = 8 from same) (by decide)

/-- A number of at most the cap is read as it is. -/
theorem toNat_ofNat_of_le_cap {count : Nat} (few : count ≤ maxMetadataOrTensorCount.toNat) :
    (UInt64.ofNat count).toNat = count := by
  apply UInt64.toNat_ofNat_of_lt'
  have cap : maxMetadataOrTensorCount.toNat = 1000000 := rfl
  have size : UInt64.size = 2 ^ 64 := rfl
  omega

/-- The layouts of arrays that name a type and have so many elements of it. -/
theorem exists_values_array_iff {admitted : UInt32 → Prop} {word : List UInt8} :
    (∃ value, Values admitted 9 value ∧ word = value.encode) ↔
      ∃ (elemType : UInt32) (len : UInt64) (values : List MetadataValue), admitted elemType ∧
        len ≤ maxMetadataOrTensorCount ∧ values.length = len.toNat ∧
        (∀ value ∈ values, Values admitted elemType value) ∧
        word = leBytesOf 4 elemType.toNat ++
          (leBytesOf 8 len.toNat ++ values.flatMap MetadataValue.encode) := by
  constructor
  · rintro ⟨value, ⟨formed, same⟩, rfl⟩
    cases formed with
    | fixed type bits => exact absurd same type.code_ne.2
    | string text => exact absurd (show (8 : UInt32) = 9 from same) (by decide)
    | array elemType values names few typed formed =>
        have length := toNat_ofNat_of_le_cap few
        refine ⟨elemType, UInt64.ofNat values.length, values, names, ?_, length.symm,
          fun value mem => ⟨formed value mem, typed value mem⟩, ?_⟩
        · rw [UInt64.le_iff_toNat_le, length]
          exact few
        · rw [encode, encodeAll_eq_flatMap, length]
  · rintro ⟨elemType, len, values, names, few, length, all, rfl⟩
    refine ⟨.array elemType values, ⟨.array _ _ names ?_ ?_ ?_, rfl⟩, ?_⟩
    · rw [length]
      exact UInt64.le_iff_toNat_le.mp few
    · exact fun value mem => (all value mem).2
    · exact fun value mem => (all value mem).1
    · rw [encode, encodeAll_eq_flatMap, length]

/-- A type that is any type. -/
def anyType : UInt32 → Prop :=
  fun _ => True

/-- The elements of an array, unless there are too many. -/
theorem reads_elements {read : Parser Unit} {elemType : UInt32}
    (reads : ReadsBelow bound read fun _ word =>
      ∃ value, Values anyType elemType value ∧ word = value.encode) (len : UInt64) :
    ReadsBelow bound
      (if maxMetadataOrTensorCount < len then
        throw (.invalid ("metadata array length " ++ toString len ++ " exceeds sanity cap"))
      else readTimes read len.toNat)
      fun _ word => len ≤ maxMetadataOrTensorCount ∧ ∃ values : List MetadataValue,
        values.length = len.toNat ∧ (∀ value ∈ values, Values anyType elemType value) ∧
        word = values.flatMap encode := by
  split
  · rename_i many
    refine (ReadsBelow.throw _).congr fun _ word => ⟨False.elim, ?_⟩
    rintro ⟨few, -⟩
    exact absurd many (UInt64.not_lt.mpr few)
  · rename_i few
    refine (reads_readTimes reads len.toNat).congr fun _ word => ?_
    exact (and_iff_right (UInt64.not_lt.mp few)).symm

/-- To a depth that exceeds the input, the reader passes by the layouts of the values
of its type: an array header takes bytes, so its elements are met with a depth less
and a shorter input. -/
theorem reads_skipMetadataValueTo (depth : Nat) (vtype : UInt32) :
    ReadsBelow depth (skipMetadataValueTo depth vtype) fun _ word =>
      ∃ value, Values anyType vtype value ∧ word = value.encode := by
  induction depth generalizing vtype with
  | zero => exact fun _ _ _ short => absurd short (Nat.not_lt_zero _)
  | succ depth ih =>
      have fixed : ∀ type : FixedType, type.code = vtype →
          ReadsBelow (depth + 1) (ignore (readExactOrIncomplete type.width)) fun _ word =>
            ∃ value, Values anyType vtype value ∧ word = value.encode := by
        rintro type rfl
        exact reads_skipFixed type
      unfold skipMetadataValueTo
      split_ifs with one two four eight string array
      · simp only [List.mem_cons, List.not_mem_nil, or_false] at one
        rcases one with rfl | rfl | rfl
        · exact fixed .u8 rfl
        · exact fixed .i8 rfl
        · exact fixed .bool rfl
      · simp only [List.mem_cons, List.not_mem_nil, or_false] at two
        rcases two with rfl | rfl
        · exact fixed .u16 rfl
        · exact fixed .i16 rfl
      · simp only [List.mem_cons, List.not_mem_nil, or_false] at four
        rcases four with rfl | rfl | rfl
        · exact fixed .u32 rfl
        · exact fixed .i32 rfl
        · exact fixed .f32 rfl
      · simp only [List.mem_cons, List.not_mem_nil, or_false] at eight
        rcases eight with rfl | rfl | rfl
        · exact fixed .u64 rfl
        · exact fixed .i64 rfl
        · exact fixed .f64 rfl
      · subst string
        exact reads_skipString
      · subst array
        have long : ∀ (value : UInt32) (word : List UInt8), word = leBytesOf 4 value.toNat →
            1 ≤ word.length := by
          rintro value word rfl
          rw [length_leBytesOf]
          decide
        refine (reads_readU32.bind_of_long 1 long fun elemType =>
          reads_readU64.bind (reads_elements (ih elemType))).congr fun _ word => ?_
        rw [exists_values_array_iff]
        constructor
        · rintro ⟨elemType, _, _, rfl, ⟨len, _, _, rfl, ⟨few, values, length, all, rfl⟩, rfl⟩,
            rfl⟩
          exact ⟨elemType, len, values, trivial, few, length, all, rfl⟩
        · rintro ⟨elemType, len, values, -, few, length, all, rfl⟩
          exact ⟨elemType, _, _, rfl, ⟨len, _, _, rfl, ⟨few, values, length, all, rfl⟩, rfl⟩, rfl⟩
      · refine (ReadsBelow.throw _).congr fun _ word => ⟨False.elim, ?_⟩
        rintro ⟨value, ⟨-, rfl⟩, rfl⟩
        cases value with
        | fixed type bits => cases type <;> simp_all [typeCode, FixedType.code]
        | string text => exact string rfl
        | array elemType values => exact array rfl

theorem reads_skipMetadataValue (vtype : UInt32) :
    ReadsBelow bound (skipMetadataValue vtype) fun _ word =>
      ∃ value, Values anyType vtype value ∧ word = value.encode :=
  fun input value rest _ =>
    reads_skipMetadataValueTo (input.length + 1) vtype input value rest (Nat.lt_succ_self _)

/-! ## Headers -/

/-- A key and a value. -/
structure MetadataPair (admitted : UInt32 → Prop) where
  key : GgufString
  value : MetadataValue
  formed : value.WellFormed admitted

/-- The layout of a pair. -/
def MetadataPair.encode {admitted : UInt32 → Prop} (pair : MetadataPair admitted) :
    List UInt8 :=
  pair.key.encode ++ (leBytesOf 4 pair.value.typeCode.toNat ++ pair.value.encode)

/-- An entry of the tensor table. -/
structure TensorEntry where
  name : GgufString
  dims : List UInt64
  ggmlType : UInt32
  offset : UInt64
  few : dims.length ≤ maxMetadataOrTensorCount.toNat

namespace TensorEntry

/-- The layout of an entry. -/
def encode (entry : TensorEntry) : List UInt8 :=
  entry.name.encode ++ (leBytesOf 4 entry.dims.length ++
    (entry.dims.flatMap (fun dim => leBytesOf 8 dim.toNat) ++
      (leBytesOf 4 entry.ggmlType.toNat ++ leBytesOf 8 entry.offset.toNat)))

/-- What is kept of an entry. -/
def info (entry : TensorEntry) : GgufTensorInfo :=
  ⟨entry.dims, entry.ggmlType⟩

end TensorEntry

/-- A header, whose arrays name admitted types. -/
structure Header (admitted : UInt32 → Prop) where
  version : UInt32
  metadata : List (MetadataPair admitted)
  tensors : List TensorEntry
  fewPairs : metadata.length ≤ maxMetadataOrTensorCount.toNat
  fewTensors : tensors.length ≤ maxMetadataOrTensorCount.toNat

namespace Header

variable {admitted : UInt32 → Prop}

/-- The layout of a header. -/
def encode (header : Header admitted) : List UInt8 :=
  ggufMagic ++ (leBytesOf 4 header.version.toNat ++ (leBytesOf 8 header.tensors.length ++
    (leBytesOf 8 header.metadata.length ++
      (header.metadata.flatMap MetadataPair.encode ++
        header.tensors.flatMap TensorEntry.encode))))

/-- The last entry of a name. -/
def tensorInfo? (header : Header admitted) (name : String) : Option GgufTensorInfo :=
  ((header.tensors.filter fun entry => entry.name.text = name).getLast?).map TensorEntry.info

end Header

theorem reads_skipMetadata :
    ReadsBelow bound skipMetadata fun _ word =>
      ∃ pair : MetadataPair anyType, True ∧ word = pair.encode := by
  refine ((reads_ignore reads_readGgufString).bind fun _ =>
    reads_readU32.bind reads_skipMetadataValue).congr fun _ word => ?_
  constructor
  · rintro ⟨-, _, _, ⟨-, key, -, rfl⟩, ⟨_, _, _, rfl, ⟨value, ⟨formed, rfl⟩, rfl⟩, rfl⟩, rfl⟩
    exact ⟨⟨key, value, formed⟩, trivial, rfl⟩
  · rintro ⟨pair, -, rfl⟩
    exact ⟨(), _, _, ⟨_, pair.key, rfl, rfl⟩,
      ⟨_, _, _, rfl, ⟨pair.value, ⟨pair.formed, rfl⟩, rfl⟩, rfl⟩, rfl⟩

theorem reads_readDims (count : Nat) :
    ReadsBelow bound (readDims count) fun dims word =>
      dims.length = count ∧ word = dims.flatMap fun dim => leBytesOf 8 dim.toNat := by
  induction count with
  | zero =>
      refine (ReadsBelow.pure []).congr fun dims word => ?_
      constructor
      · rintro ⟨rfl, rfl⟩
        exact ⟨rfl, rfl⟩
      · rintro ⟨length, rfl⟩
        rw [List.eq_nil_of_length_eq_zero length]
        exact ⟨rfl, rfl⟩
  | succ count ih =>
      refine (reads_readU64.bind fun dim => ih.bind fun dims => .pure _).congr
        fun dims word => ?_
      constructor
      · rintro ⟨dim, _, _, rfl, ⟨dims, _, _, ⟨length, rfl⟩, ⟨rfl, rfl⟩, rfl⟩, rfl⟩
        exact ⟨by rw [List.length_cons, length], by rw [List.flatMap_cons, List.append_nil]⟩
      · rintro ⟨length, rfl⟩
        cases dims with
        | nil => cases length
        | cons dim dims =>
            exact ⟨dim, _, _, rfl, ⟨dims, _, [], ⟨Nat.succ.inj length, rfl⟩, ⟨rfl, rfl⟩,
              (List.append_nil _).symm⟩, List.flatMap_cons ..⟩

theorem reads_readTensorInfo :
    ReadsBelow bound readTensorInfo fun named word =>
      ∃ entry : TensorEntry, (entry.name.text, entry.info) = named ∧ word = entry.encode := by
  have body : ∀ (name : String) (nDims : UInt32), ReadsBelow bound
      (if maxMetadataOrTensorCount < nDims.toUInt64 then
        throw (.invalid ("implausible n_dims=" ++ toString nDims ++ " for tensor " ++ name))
      else do
        let dims ← readDims nDims.toNat
        let ggmlType ← readU32
        ignore readU64
        return (name, (⟨dims, ggmlType⟩ : GgufTensorInfo)))
      fun named word => nDims.toUInt64 ≤ maxMetadataOrTensorCount ∧
        ∃ (dims : List UInt64) (ggmlType : UInt32) (offset : UInt64),
          dims.length = nDims.toNat ∧ (name, ⟨dims, ggmlType⟩) = named ∧
          word = dims.flatMap (fun dim => leBytesOf 8 dim.toNat) ++
            (leBytesOf 4 ggmlType.toNat ++ leBytesOf 8 offset.toNat) := by
    intro name nDims
    split
    · rename_i many
      refine (ReadsBelow.throw _).congr fun _ word => ⟨False.elim, ?_⟩
      rintro ⟨few, -⟩
      exact absurd many (UInt64.not_lt.mpr few)
    · rename_i few
      refine ((reads_readDims nDims.toNat).bind fun dims => reads_readU32.bind fun ggmlType =>
        (reads_ignore reads_readU64).bind fun _ => .pure _).congr fun named word => ?_
      rw [and_iff_right (UInt64.not_lt.mp few)]
      constructor
      · rintro ⟨dims, _, _, ⟨length, rfl⟩, ⟨ggmlType, _, _, rfl,
          ⟨-, _, _, ⟨offset, rfl⟩, ⟨rfl, rfl⟩, rfl⟩, rfl⟩, rfl⟩
        exact ⟨dims, ggmlType, offset, length, rfl, by rw [List.append_nil]⟩
      · rintro ⟨dims, ggmlType, offset, length, rfl, rfl⟩
        exact ⟨dims, _, _, ⟨length, rfl⟩, ⟨ggmlType, _, _, rfl,
          ⟨(), _, [], ⟨offset, rfl⟩, ⟨rfl, rfl⟩, (List.append_nil _).symm⟩, rfl⟩, rfl⟩
  refine (reads_readGgufString.bind fun name => reads_readU32.bind (body name)).congr
    fun named word => ?_
  have cap : maxMetadataOrTensorCount.toNat = 1000000 := rfl
  constructor
  · rintro ⟨_, _, _, ⟨name, rfl, rfl⟩, ⟨nDims, _, _, rfl,
      ⟨few, dims, ggmlType, offset, length, rfl, rfl⟩, rfl⟩, rfl⟩
    have bounded : dims.length ≤ maxMetadataOrTensorCount.toNat := by
      rw [length, ← UInt32.toNat_toUInt64]
      exact UInt64.le_iff_toNat_le.mp few
    exact ⟨⟨name, dims, ggmlType, offset, bounded⟩, rfl, by rw [TensorEntry.encode, length]⟩
  · rintro ⟨entry, rfl, rfl⟩
    have few := entry.few
    have length : (UInt32.ofNat entry.dims.length).toNat = entry.dims.length := by
      apply UInt32.toNat_ofNat_of_lt'
      have size : UInt32.size = 2 ^ 32 := rfl
      omega
    refine ⟨_, _, _, ⟨entry.name, rfl, rfl⟩, ⟨UInt32.ofNat entry.dims.length, _, _, rfl,
      ⟨?_, entry.dims, entry.ggmlType, entry.offset, length.symm, rfl, rfl⟩, rfl⟩, ?_⟩
    · rw [UInt64.le_iff_toNat_le, UInt32.toNat_toUInt64, length]
      exact few
    · rw [length, TensorEntry.encode]

/-- Keep an entry, in place of an earlier one of its name. -/
def keepEntry (infos : IndexMap String GgufTensorInfo) (entry : TensorEntry) :
    IndexMap String GgufTensorInfo :=
  infos.insert entry.name.text entry.info

theorem reads_readTensorInfos (count : Nat) (infos : IndexMap String GgufTensorInfo) :
    ReadsBelow bound (readTensorInfos count infos) fun table word =>
      ∃ entries : List TensorEntry, entries.length = count ∧
        entries.foldl keepEntry infos = table ∧ word = entries.flatMap TensorEntry.encode := by
  induction count generalizing infos with
  | zero =>
      refine (ReadsBelow.pure infos).congr fun table word => ?_
      constructor
      · rintro ⟨rfl, rfl⟩
        exact ⟨[], rfl, rfl, rfl⟩
      · rintro ⟨entries, length, rfl, rfl⟩
        rw [List.eq_nil_of_length_eq_zero length]
        exact ⟨rfl, rfl⟩
  | succ count ih =>
      refine (reads_readTensorInfo.bind fun named => ih (infos.insert named.1 named.2)).congr
        fun table word => ?_
      constructor
      · rintro ⟨_, _, _, ⟨entry, rfl, rfl⟩, ⟨entries, length, rfl, rfl⟩, rfl⟩
        exact ⟨entry :: entries, by rw [List.length_cons, length], rfl,
          (List.flatMap_cons ..).symm⟩
      · rintro ⟨entries, length, rfl, rfl⟩
        cases entries with
        | nil => cases length
        | cons entry entries =>
            exact ⟨_, _, _, ⟨entry, rfl, rfl⟩, ⟨entries, Nat.succ.inj length, rfl, rfl⟩,
              List.flatMap_cons ..⟩

/-- The table has the last entry of each name. -/
theorem get?_foldl_keepEntry (entries : List TensorEntry) (name : String) :
    (entries.foldl keepEntry .empty).get? name =
      ((entries.filter fun entry => entry.name.text = name).getLast?).map
        TensorEntry.info := by
  induction entries using List.reverseRecOn with
  | nil => rfl
  | append_singleton entries entry ih =>
      rw [List.foldl_append, List.filter_append, List.getLast?_append]
      by_cases same : entry.name.text = name
      · subst same
        have last : ([entry].filter fun other => other.name.text = entry.name.text) = [entry] := by
          simp
        rw [last]
        exact IndexMap.get?_insert_self ..
      · have nothing : ([entry].filter fun other => other.name.text = name) = [] := by
          simp [same]
        rw [nothing]
        have kept : ((entries.foldl keepEntry .empty).insert entry.name.text entry.info).get?
            name = (entries.foldl keepEntry .empty).get? name :=
          IndexMap.get?_insert_of_ne _ _ (Ne.symm same)
        exact kept.trans ih

/-- The two tables, unless one is too long. -/
theorem reads_tables (tensorCount kvCount : UInt64) :
    ReadsBelow bound
      (if maxMetadataOrTensorCount < tensorCount ∨ maxMetadataOrTensorCount < kvCount then
        throw (.invalid ("implausible tensor_count=" ++ toString tensorCount ++ "/kv_count=" ++
          toString kvCount))
      else do
        readTimes skipMetadata kvCount.toNat
        readTensorInfos tensorCount.toNat .empty)
      fun infos word => ∃ header : Header anyType, header.tensors.length = tensorCount.toNat ∧
        header.metadata.length = kvCount.toNat ∧
        header.tensors.foldl keepEntry .empty = infos ∧
        word = header.metadata.flatMap MetadataPair.encode ++
          header.tensors.flatMap TensorEntry.encode := by
  split
  · rename_i many
    refine (ReadsBelow.throw _).congr fun infos word => ⟨False.elim, ?_⟩
    rintro ⟨header, tensors, pairs, -, -⟩
    have fewTensors := header.fewTensors
    have fewPairs := header.fewPairs
    rw [UInt64.lt_iff_toNat_lt, UInt64.lt_iff_toNat_lt] at many
    omega
  · rename_i few
    rw [UInt64.lt_iff_toNat_lt, UInt64.lt_iff_toNat_lt] at few
    refine ((reads_readTimes reads_skipMetadata kvCount.toNat).bind fun _ =>
      reads_readTensorInfos tensorCount.toNat .empty).congr fun infos word => ?_
    constructor
    · rintro ⟨-, _, _, ⟨pairs, length, -, rfl⟩, ⟨entries, alsoLength, rfl, rfl⟩, rfl⟩
      exact ⟨⟨0, pairs, entries, by omega, by omega⟩, alsoLength, length, rfl, rfl⟩
    · rintro ⟨header, tensors, pairs, rfl, rfl⟩
      exact ⟨(), _, _, ⟨header.metadata, pairs, fun _ _ => trivial, rfl⟩,
        ⟨header.tensors, tensors, rfl, rfl⟩, rfl⟩

theorem reads_readGguf :
    ReadsBelow bound readGguf fun infos word =>
      ∃ header : Header anyType, header.tensors.foldl keepEntry .empty = infos ∧
        word = header.encode := by
  have body : ∀ magic : List UInt8, ReadsBelow bound
      (if magic ≠ ggufMagic then
        throw (.invalid ("bad GGUF magic bytes " ++ toString magic))
      else do
        ignore readU32
        let tensorCount ← readU64
        let kvCount ← readU64
        if maxMetadataOrTensorCount < tensorCount ∨ maxMetadataOrTensorCount < kvCount then
          throw (.invalid ("implausible tensor_count=" ++ toString tensorCount ++ "/kv_count=" ++
            toString kvCount))
        else
          readTimes skipMetadata kvCount.toNat
          readTensorInfos tensorCount.toNat .empty)
      fun infos word => magic = ggufMagic ∧ ∃ header : Header anyType,
        header.tensors.foldl keepEntry .empty = infos ∧
        ggufMagic ++ word = header.encode := by
    intro magic
    split
    · rename_i other
      exact (ReadsBelow.throw _).congr fun infos word =>
        ⟨False.elim, fun same => other same.1⟩
    · rename_i same
      rw [not_not] at same
      refine ((reads_ignore reads_readU32).bind fun _ => reads_readU64.bind fun tensorCount =>
        reads_readU64.bind fun kvCount => reads_tables tensorCount kvCount).congr
          fun infos word => ?_
      rw [and_iff_right same]
      constructor
      · rintro ⟨-, _, _, ⟨version, rfl⟩, ⟨tensorCount, _, _, rfl, ⟨kvCount, _, _, rfl,
          ⟨header, tensors, pairs, rfl, rfl⟩, rfl⟩, rfl⟩, rfl⟩
        refine ⟨{ header with version := version }, rfl, ?_⟩
        rw [Header.encode, tensors, pairs]
      · rintro ⟨header, rfl, same⟩
        cases List.append_cancel_left same
        refine ⟨(), _, _, ⟨header.version, rfl⟩, ⟨UInt64.ofNat header.tensors.length, _, _, rfl,
          ⟨UInt64.ofNat header.metadata.length, _, _, rfl, ⟨header, ?_, ?_, rfl, rfl⟩, rfl⟩,
          rfl⟩, ?_⟩
        · exact (toNat_ofNat_of_le_cap header.fewTensors).symm
        · exact (toNat_ofNat_of_le_cap header.fewPairs).symm
        · rw [toNat_ofNat_of_le_cap header.fewTensors, toNat_ofNat_of_le_cap header.fewPairs]
  refine ((reads_readExactOrIncomplete 4).bind body).congr fun infos word => ?_
  constructor
  · rintro ⟨_, _, _, ⟨rfl, -⟩, ⟨rfl, header, rfl, encoded⟩, rfl⟩
    exact ⟨header, rfl, encoded⟩
  · rintro ⟨header, rfl, rfl⟩
    exact ⟨ggufMagic, ggufMagic, _, ⟨rfl, rfl⟩, ⟨rfl, header, rfl, rfl⟩, rfl⟩

/-- The parser accepts the layouts of headers, with anything behind them. -/
theorem parse_eq_ok_iff {bytes : List UInt8} {infos : IndexMap String GgufTensorInfo} :
    parseGgufTensorInfos bytes = .ok infos ↔
      ∃ (header : Header anyType) (rest : List UInt8), bytes = header.encode ++ rest ∧
        header.tensors.foldl keepEntry .empty = infos := by
  have reads : ReadsBelow (bytes.length + 1) readGguf _ := reads_readGguf
  constructor
  · intro parsed
    cases done : readGguf bytes with
    | error err =>
        rw [parseGgufTensorInfos, done] at parsed
        cases parsed
    | ok result =>
        rcases result with ⟨table, rest⟩
        rw [parseGgufTensorInfos, done] at parsed
        cases parsed
        rcases (reads bytes table rest (Nat.lt_succ_self _)).mp done with
          ⟨word, ⟨header, kept, rfl⟩, split⟩
        exact ⟨header, rest, split, kept⟩
  · rintro ⟨header, rest, split, kept⟩
    have done := (reads bytes infos rest (Nat.lt_succ_self _)).mpr
      ⟨header.encode, ⟨header, kept, rfl⟩, split⟩
    rw [parseGgufTensorInfos, done]
    rfl

/-- The table is the one of a header. -/
def Tabulates {admitted : UInt32 → Prop} (infos : IndexMap String GgufTensorInfo)
    (header : Header admitted) : Prop :=
  ∀ name, infos.get? name = header.tensorInfo? name

/-- The parser decodes the layouts of the headers whose arrays name admitted types, and
accepts nothing else. -/
def DecodesHeaders (admitted : UInt32 → Prop) : Prop :=
  (∀ (header : Header admitted) (rest : List UInt8),
    ∃ infos, parseGgufTensorInfos (header.encode ++ rest) = .ok infos ∧
      Tabulates infos header) ∧
  ∀ bytes infos, parseGgufTensorInfos bytes = .ok infos →
    ∃ (header : Header admitted) (rest : List UInt8), bytes = header.encode ++ rest ∧
      Tabulates infos header

/-- The parser decodes headers, where an array without elements may name any type. -/
theorem decodesHeaders_anyType : DecodesHeaders anyType := by
  constructor
  · intro header rest
    exact ⟨_, parse_eq_ok_iff.mpr ⟨header, rest, rfl, rfl⟩,
      get?_foldl_keepEntry header.tensors⟩
  · intro bytes infos parsed
    obtain ⟨header, rest, split, rfl⟩ := parse_eq_ok_iff.mp parsed
    exact ⟨header, rest, split, get?_foldl_keepEntry header.tensors⟩

/-! ### An array that names no type -/

/-- A header with one pair: an empty key, and an array of no elements whose type
would be 13. -/
def unknownArray : List UInt8 :=
  ggufMagic ++ (leBytesOf 4 0 ++ (leBytesOf 8 0 ++ (leBytesOf 8 1 ++ (leBytesOf 8 0 ++
    (leBytesOf 4 9 ++ (leBytesOf 4 13 ++ leBytesOf 8 0))))))

/-- No header that names value types only begins so. -/
theorem unknownArray_ne (header : Header (· ∈ valueTypes)) (rest : List UInt8) :
    unknownArray ≠ header.encode ++ rest := by
  intro split
  have fewPairs := header.fewPairs
  have cap : maxMetadataOrTensorCount.toNat = 1000000 := rfl
  simp only [unknownArray, Header.encode, List.append_assoc] at split
  have afterMagic := List.append_cancel_left split
  have afterVersion := (List.append_inj afterMagic rfl).2
  have afterTensors := (List.append_inj afterVersion rfl).2
  have one := (counts_leBytesOf 8).append_inj (by decide) (by omega) afterTensors
  obtain ⟨⟨key, value, formed⟩, sole⟩ := List.length_eq_one_iff.mp one.1.symm
  have fits := key.fits
  have prefixCap : headerPrefixCapBytes = 16777216 := rfl
  simp only [sole, List.flatMap_cons, MetadataPair.encode, GgufString.encode,
    List.append_assoc] at one
  have noKey := (counts_leBytesOf 8).append_inj (by decide) (by omega) one.2
  rw [List.eq_nil_of_length_eq_zero noKey.1.symm] at noKey
  have array := (counts_leBytesOf 4).append_inj (by decide) value.typeCode.toNat_lt noKey.2
  have nine : value.typeCode = 9 := UInt32.toNat_inj.mp array.1.symm
  cases formed with
  | fixed type bits => exact absurd nine type.code_ne.2
  | string text => exact absurd (show (8 : UInt32) = 9 from nine) (by decide)
  | array elemType values names few typed formed =>
      rw [encode, List.append_assoc] at array
      have thirteen := (counts_leBytesOf 4).append_inj (by decide) elemType.toNat_lt array.2
      have unknown : elemType = 13 := UInt32.toNat_inj.mp thirteen.1.symm
      rw [unknown] at names
      exact absurd names (by decide)

/-- It is accepted all the same. -/
theorem unknownArray_accepted : ¬ DecodesHeaders (· ∈ valueTypes) := by
  rintro ⟨-, covers⟩
  have parsed : parseGgufTensorInfos unknownArray = .ok .empty := rfl
  obtain ⟨header, rest, split, -⟩ := covers unknownArray .empty parsed
  exact unknownArray_ne header rest split

end StratumBridge.Expert
