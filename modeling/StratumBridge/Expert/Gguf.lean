import StratumBridge.Data.IndexMap
import StratumBridge.Data.PartialMap
import StratumBridge.Data.Reader
import StratumBridge.Wire.Codec
import Mathlib.Data.List.Perm.Subperm

/-!
# GGUF headers

The tensor table of a GGUF file, read from the first bytes of the file, and the
memory that one expert of a layer takes.  Sizes are `u64` and wrap.

Arrays of metadata nest, so the reader of a metadata value takes the depth that it
may go; an array header takes bytes, and the number of bytes left is depth enough.
The machine's call stack, which bounds that depth as well, is taken to hold it.
Likewise the layers of a file are no more than its tensors.
-/

namespace StratumBridge.Expert

open Data Wire

/-- `HEADER_PREFIX_CAP_BYTES`. -/
def headerPrefixCapBytes : Nat :=
  16 * 1024 * 1024

/-- `MAX_METADATA_OR_TENSOR_COUNT`. -/
def maxMetadataOrTensorCount : UInt64 :=
  1000000

/-- `GgufTensorInfo`. -/
structure GgufTensorInfo where
  dims : List UInt64
  ggmlType : UInt32
  deriving DecidableEq

/-- `ParseErr`. -/
inductive ParseErr
  | incomplete
  | invalid (text : String)
  deriving DecidableEq

/-- A function that reads from the bytes after the cursor. -/
abbrev Parser (α : Type) := StateT (List UInt8) (Except ParseErr) α

/-! ## Reading -/

/-- `read_exact_or_incomplete`. -/
def readExactOrIncomplete (count : Nat) : Parser (List UInt8) := fun bytes =>
  if bytes.length < count then .error .incomplete else .ok (bytes.take count, bytes.drop count)

/-- `from_le_bytes`. -/
def natOfLeBytes (bytes : List UInt8) : Nat :=
  bytes.foldr (fun byte value => byte.toNat + 256 * value) 0

/-- `read_u32`. -/
def readU32 : Parser UInt32 := do
  let bytes ← readExactOrIncomplete 4
  return (natOfLeBytes bytes).toUInt32

/-- `read_u64`. -/
def readU64 : Parser UInt64 := do
  let bytes ← readExactOrIncomplete 8
  return (natOfLeBytes bytes).toUInt64

/-- The bytes between which the second byte of a sequence lies, by its first. -/
def secondByteRange (first : UInt8) : UInt8 × UInt8 :=
  if first = 0xE0 then (0xA0, 0xBF)
  else if first = 0xED then (0x80, 0x9F)
  else if first = 0xF0 then (0x90, 0xBF)
  else if first = 0xF4 then (0x80, 0x8F)
  else (0x80, 0xBF)

/-- The byte may be the second of a sequence. -/
def isSecond (first byte : UInt8) : Bool :=
  (secondByteRange first).1 ≤ byte && byte ≤ (secondByteRange first).2

/-- The byte may be a later one. -/
def isContinuation (byte : UInt8) : Bool :=
  0x80 ≤ byte && byte ≤ 0xBF

/-- The character that stands for bytes that are no UTF-8. -/
def replacementCharacter : Char :=
  Char.ofNat 0xFFFD

/-- The code point of a sequence: the low bits of the first byte, six bits of each
later one. -/
def codePoint (first : Nat) (later : List UInt8) : Char :=
  Char.ofNat (later.foldl (fun value byte => value * 64 + (byte.toNat - 0x80)) first)

/-- The first character, and how many later bytes belong to it: a sequence that
breaks off is replaced as far as it goes. -/
def firstChar (first : UInt8) (later : List UInt8) : Char × Nat :=
  if first < 0x80 then
    (Char.ofNat first.toNat, 0)
  else if first < 0xC2 ∨ 0xF4 < first then
    (replacementCharacter, 0)
  else
    match later with
    | [] => (replacementCharacter, 0)
    | second :: later =>
        if isSecond first second = false then
          (replacementCharacter, 0)
        else if first < 0xE0 then
          (codePoint (first.toNat - 0xC0) [second], 1)
        else
          match later with
          | [] => (replacementCharacter, 1)
          | third :: later =>
              if isContinuation third = false then
                (replacementCharacter, 1)
              else if first < 0xF0 then
                (codePoint (first.toNat - 0xE0) [second, third], 2)
              else
                match later with
                | [] => (replacementCharacter, 2)
                | fourth :: _ =>
                    if isContinuation fourth = false then
                      (replacementCharacter, 2)
                    else
                      (codePoint (first.toNat - 0xF0) [second, third, fourth], 3)

/-- The characters of the bytes, after a number of bytes that belong to an earlier
one. -/
def utf8LossyChars : Nat → List UInt8 → List Char
  | _, [] => []
  | later + 1, _ :: rest => utf8LossyChars later rest
  | 0, first :: rest =>
      let (char, later) := firstChar first rest
      char :: utf8LossyChars later rest

/-- `String::from_utf8_lossy`. -/
def fromUtf8Lossy (bytes : List UInt8) : String :=
  String.ofList (utf8LossyChars 0 bytes)

example : utf8LossyChars 0 [0x62, 0xC3, 0xA9, 0xE2, 0x82, 0x41] =
    ['b', Char.ofNat 0xE9, replacementCharacter, 'A'] := by decide

/-- `read_gguf_string`. -/
def readGgufString : Parser String := do
  let len ← readU64
  if headerPrefixCapBytes < len.toNat then
    throw (.invalid ("gguf string length " ++ toString len ++ " exceeds header prefix cap"))
  else
    let bytes ← readExactOrIncomplete len.toNat
    return fromUtf8Lossy bytes

/-- Read something and forget it. -/
def ignore {α : Type} (read : Parser α) : Parser Unit := do
  let _ ← read
  return ()

/-- Read a number of times. -/
def readTimes (read : Parser Unit) : Nat → Parser Unit
  | 0 => return ()
  | count + 1 => do
      read
      readTimes read count

/-- `skip_metadata_value`, as deep as arrays may nest. -/
def skipMetadataValueTo : Nat → UInt32 → Parser Unit
  | 0, _ => throw .incomplete
  | depth + 1, vtype =>
      if vtype ∈ [0, 1, 7] then
        ignore (readExactOrIncomplete 1)
      else if vtype ∈ [2, 3] then
        ignore (readExactOrIncomplete 2)
      else if vtype ∈ [4, 5, 6] then
        ignore (readExactOrIncomplete 4)
      else if vtype ∈ [10, 11, 12] then
        ignore (readExactOrIncomplete 8)
      else if vtype = 8 then
        ignore readGgufString
      else if vtype = 9 then do
        let elemType ← readU32
        let len ← readU64
        if maxMetadataOrTensorCount < len then
          throw (.invalid ("metadata array length " ++ toString len ++ " exceeds sanity cap"))
        else
          readTimes (skipMetadataValueTo depth elemType) len.toNat
      else
        throw (.invalid ("unknown metadata value type " ++ toString vtype))

/-- `skip_metadata_value`. -/
def skipMetadataValue (vtype : UInt32) : Parser Unit := fun bytes =>
  skipMetadataValueTo (bytes.length + 1) vtype bytes

/-! ### The depth of metadata -/

section Parser

variable {α β : Type} {read : Parser α} {bytes rest : List UInt8}

theorem length_of_readExactOrIncomplete {count : Nat} {value : List UInt8}
    (ok : readExactOrIncomplete count bytes = .ok (value, rest)) :
    rest.length + count = bytes.length := by
  unfold readExactOrIncomplete at ok
  split at ok
  · cases ok
  · cases ok
    rw [List.length_drop]
    omega

theorem shrinks_readExactOrIncomplete (count : Nat) :
    Shrinks (readExactOrIncomplete count) := by
  intro bytes value rest ok
  have length := length_of_readExactOrIncomplete ok
  omega

theorem shrinks_readU32 : Shrinks readU32 :=
  (shrinks_readExactOrIncomplete 4).bind fun _ => .pure _

theorem shrinks_readU64 : Shrinks readU64 :=
  (shrinks_readExactOrIncomplete 8).bind fun _ => .pure _

theorem shrinks_ignore (shrinks : Shrinks read) : Shrinks (ignore read) :=
  shrinks.bind fun _ => .pure _

theorem shrinks_readGgufString : Shrinks readGgufString := by
  refine shrinks_readU64.bind fun len => ?_
  split
  · exact .throw _
  · exact (shrinks_readExactOrIncomplete _).bind fun _ => .pure _

theorem shrinks_readTimes {read : Parser Unit} (shrinks : Shrinks read) (count : Nat) :
    Shrinks (readTimes read count) := by
  induction count with
  | zero => exact .pure _
  | succ count ih => exact shrinks.bind fun _ => ih

/-- Readers that agree on short inputs agree repeatedly. -/
theorem readTimes_congr {read other : Parser Unit} {bound : Nat} (shrinks : Shrinks read)
    (agree : ∀ bytes : List UInt8, bytes.length ≤ bound → read bytes = other bytes)
    (count : Nat) (short : bytes.length ≤ bound) :
    readTimes read count bytes = readTimes other count bytes := by
  induction count generalizing bytes with
  | zero => rfl
  | succ count ih =>
      have first : (read >>= fun _ => readTimes read count) bytes =
          (read >>= fun _ => readTimes other count) bytes := by
        apply bind_congr_of_ok
        intro _ left done
        exact ih (Nat.le_trans (shrinks bytes _ left done) short)
      have second : (read >>= fun _ => readTimes other count) bytes =
          (other >>= fun _ => readTimes other count) bytes := by
        simp only [Bind.bind, StateT.bind, agree bytes short]
      exact first.trans second

end Parser

theorem shrinks_skipMetadataValueTo (depth : Nat) (vtype : UInt32) :
    Shrinks (skipMetadataValueTo depth vtype) := by
  induction depth generalizing vtype with
  | zero => exact .throw _
  | succ depth ih =>
      unfold skipMetadataValueTo
      split_ifs
      · exact shrinks_ignore (shrinks_readExactOrIncomplete 1)
      · exact shrinks_ignore (shrinks_readExactOrIncomplete 2)
      · exact shrinks_ignore (shrinks_readExactOrIncomplete 4)
      · exact shrinks_ignore (shrinks_readExactOrIncomplete 8)
      · exact shrinks_ignore shrinks_readGgufString
      · refine shrinks_readU32.bind fun elemType => shrinks_readU64.bind fun len => ?_
        split
        · exact .throw _
        · exact shrinks_readTimes (ih elemType) len.toNat
      · exact .throw _

/-- A value is skipped alike to every depth that exceeds the number of bytes. -/
theorem skipMetadataValueTo_congr {depth other : Nat} {bytes : List UInt8} (vtype : UInt32)
    (deep : bytes.length < depth) (otherDeep : bytes.length < other) :
    skipMetadataValueTo depth vtype bytes = skipMetadataValueTo other vtype bytes := by
  induction depth generalizing other bytes vtype with
  | zero => cases deep
  | succ depth ih =>
      cases other with
      | zero => cases otherDeep
      | succ other =>
          unfold skipMetadataValueTo
          split_ifs
          any_goals rfl
          apply bind_congr_of_ok
          intro elemType left done
          have shorter : left.length + 4 = bytes.length := by
            obtain ⟨word, held, taken, ok⟩ := exists_of_bind_eq_ok done
            cases ok
            exact length_of_readExactOrIncomplete taken
          apply bind_congr_of_ok
          intro len rest done
          have shrunk := shrinks_readU64 left len rest done
          split
          · rfl
          · refine readTimes_congr (shrinks_skipMetadataValueTo depth elemType) ?_ len.toNat
              (Nat.le_refl rest.length)
            intro bytes short
            apply ih
            · omega
            · omega

theorem skipMetadataValueTo_eq {depth : Nat} {bytes : List UInt8} (vtype : UInt32)
    (deep : bytes.length < depth) :
    skipMetadataValueTo depth vtype bytes = skipMetadataValue vtype bytes :=
  skipMetadataValueTo_congr vtype deep (Nat.lt_succ_self _)

/-! ## The tensor table -/

/-- One metadata entry. -/
def skipMetadata : Parser Unit := do
  ignore readGgufString
  let vtype ← readU32
  skipMetadataValue vtype

/-- The dimensions of a tensor. -/
def readDims : Nat → Parser (List UInt64)
  | 0 => return []
  | count + 1 => do
      let dim ← readU64
      let dims ← readDims count
      return dim :: dims

/-- One entry of the tensor table. -/
def readTensorInfo : Parser (String × GgufTensorInfo) := do
  let name ← readGgufString
  let nDims ← readU32
  if maxMetadataOrTensorCount < nDims.toUInt64 then
    throw (.invalid ("implausible n_dims=" ++ toString nDims ++ " for tensor " ++ name))
  else
    let dims ← readDims nDims.toNat
    let ggmlType ← readU32
    ignore readU64
    return (name, ⟨dims, ggmlType⟩)

/-- The tensor table; a later entry replaces one of its name. -/
def readTensorInfos : Nat → IndexMap String GgufTensorInfo →
    Parser (IndexMap String GgufTensorInfo)
  | 0, infos => return infos
  | count + 1, infos => do
      let (name, info) ← readTensorInfo
      readTensorInfos count (infos.insert name info)

/-- The bytes of `"GGUF"`. -/
def ggufMagic : List UInt8 :=
  [0x47, 0x47, 0x55, 0x46]

/-- A whole header. -/
def readGguf : Parser (IndexMap String GgufTensorInfo) := do
  let magic ← readExactOrIncomplete 4
  if magic ≠ ggufMagic then
    throw (.invalid ("bad GGUF magic bytes " ++ toString magic))
  else
    ignore readU32
    let tensorCount ← readU64
    let kvCount ← readU64
    if maxMetadataOrTensorCount < tensorCount ∨ maxMetadataOrTensorCount < kvCount then
      throw (.invalid ("implausible tensor_count=" ++ toString tensorCount ++ "/kv_count=" ++
        toString kvCount))
    else
      readTimes skipMetadata kvCount.toNat
      readTensorInfos tensorCount.toNat .empty

/-- `parse_gguf_tensor_infos`. -/
def parseGgufTensorInfos (bytes : List UInt8) :
    Except ParseErr (IndexMap String GgufTensorInfo) :=
  (readGguf bytes).map Prod.fst

/-! ## Sizes -/

/-- `ggml_block_and_type_size`. -/
def ggmlBlockAndTypeSize (ggmlType : UInt32) : Option (UInt64 × UInt64) :=
  match ggmlType.toNat with
  | 0 => some (1, 4)
  | 1 => some (1, 2)
  | 2 => some (32, 18)
  | 3 => some (32, 20)
  | 6 => some (32, 22)
  | 7 => some (32, 24)
  | 8 => some (32, 34)
  | 9 => some (32, 36)
  | 10 => some (256, 84)
  | 11 => some (256, 110)
  | 12 => some (256, 144)
  | 13 => some (256, 176)
  | 14 => some (256, 210)
  | 15 => some (256, 292)
  | 30 => some (1, 2)
  | _ => none

/-- The name of an expert tensor of a layer. -/
def expertTensorName (layerIdx : UInt32) (suffix : String) : String :=
  "blk." ++ toString layerIdx ++ "." ++ suffix ++ ".weight"

/-- The share of one expert in a stacked tensor. -/
def expertTensorBytes (tensorInfos : IndexMap String GgufTensorInfo) (nExpert : UInt64)
    (name : String) : Except String UInt64 :=
  match tensorInfos.get? name with
  | none => .error ("cannot find tensor info for " ++ name)
  | some info =>
      let totalElems := info.dims.foldl (· * ·) 1
      if totalElems % nExpert ≠ 0 then
        .error (name ++ "\x27s elem_count " ++ toString totalElems ++
          " is not divisible by n_expert " ++ toString nExpert)
      else
        let perExpertElems := totalElems / nExpert
        match ggmlBlockAndTypeSize info.ggmlType with
        | none => .error (name ++ ": unsupported/unknown ggml_type " ++ toString info.ggmlType)
        | some (blockSize, typeSize) =>
            if perExpertElems % blockSize ≠ 0 then
              .error (name ++ "\x27s per-expert elem_count " ++ toString perExpertElems ++
                " is not divisible by block_size " ++ toString blockSize)
            else
              .ok (perExpertElems / blockSize * typeSize)

/-- `expert_vram_bytes_for_layer`. -/
def expertVramBytesForLayer (tensorInfos : IndexMap String GgufTensorInfo) (layerIdx : UInt32)
    (nExpert : UInt64) : Except String UInt64 :=
  if nExpert = 0 then
    .error "expert_vram_bytes_for_layer: n_expert must be > 0"
  else
    ["ffn_gate_exps", "ffn_up_exps", "ffn_down_exps"].foldlM (fun totalBytes suffix => do
      let bytes ← expertTensorBytes tensorInfos nExpert (expertTensorName layerIdx suffix)
      return totalBytes + bytes) 0

/-- The loop of `fetch_and_parse` from a layer on, for at most so many layers. -/
def walkLayers (tensorInfos : IndexMap String GgufTensorInfo) (nExpert : UInt64) :
    Nat → UInt32 → PartialMap UInt32 UInt64 → Except String (PartialMap UInt32 UInt64)
  | 0, _, perLayer => .ok perLayer
  | count + 1, layerIdx, perLayer =>
      match expertVramBytesForLayer tensorInfos layerIdx nExpert with
      | .ok bytes =>
          walkLayers tensorInfos nExpert count (layerIdx + 1) (perLayer.insert layerIdx bytes)
      | .error text =>
          if layerIdx = 0 then
            .error ("no blk.0 FFN-expert tensors found in GGUF header (not a MoE checkpoint, " ++
              "or header prefix too small): " ++ text)
          else
            .ok perLayer

/-- The sizes of an expert of each layer.  A layer that is found takes a tensor, so the walk
ends by itself. -/
def perLayerBytes (tensorInfos : IndexMap String GgufTensorInfo) (nExpert : UInt64) :
    Except String (PartialMap UInt32 UInt64) :=
  walkLayers tensorInfos nExpert (tensorInfos.keys.length + 1) 0 .empty

/-! ### The number of layers -/

variable {tensorInfos : IndexMap String GgufTensorInfo} {nExpert : UInt64}

theorem expertTensorName_injective {first second : UInt32} {suffix : String}
    (same : expertTensorName first suffix = expertTensorName second suffix) : first = second := by
  have texts := congrArg String.toList same
  simp only [expertTensorName, String.toList_append, List.append_assoc,
    List.append_cancel_left_eq] at texts
  have digits : (toString first).toList = (toString second).toList :=
    List.append_cancel_right texts
  have numbers : Nat.toDigits 10 first.toNat = Nat.toDigits 10 second.toNat := by
    rw [← Nat.toList_repr, ← Nat.toList_repr]
    exact digits
  apply UInt32.toNat_inj.mp
  rw [← Nat.ofDigitChars_ten_toDigits (n := first.toNat), numbers,
    Nat.ofDigitChars_ten_toDigits]

/-- A layer with a size has its tensors. -/
theorem mem_keys_of_expertVramBytesForLayer {layerIdx : UInt32} {bytes : UInt64}
    (sized : expertVramBytesForLayer tensorInfos layerIdx nExpert = .ok bytes) :
    expertTensorName layerIdx "ffn_gate_exps" ∈ tensorInfos.keys := by
  unfold expertVramBytesForLayer at sized
  split at sized
  · cases sized
  · rw [List.foldlM_cons] at sized
    cases found : tensorInfos.get? (expertTensorName layerIdx "ffn_gate_exps") with
    | none =>
        simp only [expertTensorBytes, found, Bind.bind, Except.bind] at sized
        cases sized
    | some info => exact IndexMap.mem_keys_of_get?_eq_some found

/-- Layers that have tensors are no more than the tensors. -/
theorem le_length_keys {layers : Nat} (few : layers ≤ 2 ^ 32)
    (present : ∀ layer < layers,
      expertTensorName (UInt32.ofNat layer) "ffn_gate_exps" ∈ tensorInfos.keys) :
    layers ≤ tensorInfos.keys.length := by
  let names := (List.range layers).map fun layer =>
    expertTensorName (UInt32.ofNat layer) "ffn_gate_exps"
  have nodup : names.Nodup := by
    apply List.Nodup.map_on _ List.nodup_range
    intro first firstMem second secondMem same
    have words := congrArg UInt32.toNat (expertTensorName_injective same)
    have firstBound := List.mem_range.mp firstMem
    have secondBound := List.mem_range.mp secondMem
    have size : UInt32.size = 2 ^ 32 := rfl
    rw [UInt32.toNat_ofNat_of_lt' (by omega), UInt32.toNat_ofNat_of_lt' (by omega)] at words
    exact words
  have subset : names ⊆ tensorInfos.keys := by
    intro name mem
    obtain ⟨layer, bound, rfl⟩ := List.mem_map.mp mem
    exact present layer (List.mem_range.mp bound)
  have length := (nodup.subperm subset).length_le
  rwa [List.length_map, List.length_range] at length

theorem length_keys_insert (tensorInfos : IndexMap String GgufTensorInfo) (name : String)
    (info : GgufTensorInfo) :
    (tensorInfos.insert name info).keys.length ≤ tensorInfos.keys.length + 1 := by
  unfold IndexMap.insert
  split
  · rw [IndexMap.keys, IndexMap.map_fst_rebind]
    exact Nat.le_succ _
  · rw [IndexMap.keys, List.map_append, List.length_append]
    exact Nat.le_refl _

theorem length_of_readTensorInfos {count : Nat} {infos : IndexMap String GgufTensorInfo}
    {bytes rest : List UInt8}
    (ok : readTensorInfos count infos bytes = .ok (tensorInfos, rest)) :
    tensorInfos.keys.length ≤ infos.keys.length + count := by
  induction count generalizing infos bytes with
  | zero =>
      cases ok
      exact Nat.le_refl _
  | succ count ih =>
      obtain ⟨⟨name, info⟩, left, -, ok⟩ := exists_of_bind_eq_ok ok
      have later := ih ok
      have inserted := length_keys_insert infos name info
      omega

/-- A header has no more tensors than the cap says. -/
theorem length_keys_of_parse {bytes : List UInt8}
    (parsed : parseGgufTensorInfos bytes = .ok tensorInfos) :
    tensorInfos.keys.length ≤ maxMetadataOrTensorCount.toNat := by
  cases done : readGguf bytes with
  | error err =>
      rw [parseGgufTensorInfos, done] at parsed
      cases parsed
  | ok result =>
      rcases result with ⟨infos, rest⟩
      rw [parseGgufTensorInfos, done] at parsed
      cases parsed
      obtain ⟨magic, left, -, done⟩ := exists_of_bind_eq_ok done
      split at done
      · cases done
      · obtain ⟨-, left, -, done⟩ := exists_of_bind_eq_ok done
        obtain ⟨tensorCount, left, -, done⟩ := exists_of_bind_eq_ok done
        obtain ⟨kvCount, left, -, done⟩ := exists_of_bind_eq_ok done
        split at done
        · cases done
        · rename_i capped
          obtain ⟨-, left, -, done⟩ := exists_of_bind_eq_ok done
          have length := length_of_readTensorInfos done
          have few : tensorCount ≤ maxMetadataOrTensorCount :=
            UInt64.not_lt.mp fun many => capped (.inl many)
          have bound := UInt64.le_iff_toNat_le.mp few
          have nothing : (IndexMap.empty : IndexMap String GgufTensorInfo).keys.length = 0 := rfl
          change infos.keys.length ≤ maxMetadataOrTensorCount.toNat
          omega

end StratumBridge.Expert
