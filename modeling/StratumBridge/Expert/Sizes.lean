import StratumBridge.Expert.Header
import Mathlib.Algebra.BigOperators.Group.List.Basic
import Mathlib.Algebra.GroupWithZero.Nat
import Mathlib.Algebra.Order.BigOperators.Group.List
import Mathlib.Algebra.Order.Group.Nat

/-!
# The size of an expert

What an expert of a layer takes, in unbounded integers, against what
`expert_vram_bytes_for_layer` computes in `u64`.  The product of the dimensions, the
size of a tensor and the sum over the tensors all wrap, and a product that wrapped can
still be divisible.
-/

namespace StratumBridge.Expert

open Data

/-- A tensor of known type: its entry, its block size and the bytes of a block. -/
structure ExpertTensor where
  info : GgufTensorInfo
  blockSize : UInt64
  typeSize : UInt64

namespace ExpertTensor

/-- The elements of the tensor. -/
def elems (tensor : ExpertTensor) : Nat :=
  (tensor.info.dims.map UInt64.toNat).prod

/-- They are divided among the experts, and each share into blocks, without rest. -/
def Exact (nExpert : UInt64) (tensor : ExpertTensor) : Prop :=
  nExpert.toNat ∣ tensor.elems ∧ tensor.blockSize.toNat ∣ tensor.elems / nExpert.toNat

/-- The bytes of one expert. -/
def share (nExpert : UInt64) (tensor : ExpertTensor) : Nat :=
  tensor.elems / nExpert.toNat / tensor.blockSize.toNat * tensor.typeSize.toNat

/-- The elements as the code counts them. -/
def totalElems (tensor : ExpertTensor) : UInt64 :=
  tensor.info.dims.foldl (· * ·) 1

/-- The count passes the two tests of the code. -/
def Passes (nExpert : UInt64) (tensor : ExpertTensor) : Prop :=
  tensor.totalElems % nExpert = 0 ∧ tensor.totalElems / nExpert % tensor.blockSize = 0

/-- The bytes of one expert as the code computes them. -/
def bytes (nExpert : UInt64) (tensor : ExpertTensor) : UInt64 :=
  tensor.totalElems / nExpert / tensor.blockSize * tensor.typeSize

end ExpertTensor

/-- A tensor that is found and has a known type. -/
def expertTensor? (tensorInfos : IndexMap String GgufTensorInfo) (name : String) :
    Option ExpertTensor := do
  let info ← tensorInfos.get? name
  let (blockSize, typeSize) ← ggmlBlockAndTypeSize info.ggmlType
  return ⟨info, blockSize, typeSize⟩

/-- The gate, up and down tensors of a layer. -/
structure LayerTensors where
  gate : ExpertTensor
  up : ExpertTensor
  down : ExpertTensor

namespace LayerTensors

/-- All three of them. -/
def all (layer : LayerTensors) : List ExpertTensor :=
  [layer.gate, layer.up, layer.down]

end LayerTensors

/-- The expert tensors of a layer, if all are found and have known types. -/
def layerTensors? (tensorInfos : IndexMap String GgufTensorInfo) (layerIdx : UInt32) :
    Option LayerTensors := do
  let gate ← expertTensor? tensorInfos (expertTensorName layerIdx "ffn_gate_exps")
  let up ← expertTensor? tensorInfos (expertTensorName layerIdx "ffn_up_exps")
  let down ← expertTensor? tensorInfos (expertTensorName layerIdx "ffn_down_exps")
  return ⟨gate, up, down⟩

/-- The size of an expert of a layer: the shares of its tensors, all divided exactly. -/
def ExpertSize (tensorInfos : IndexMap String GgufTensorInfo) (layerIdx : UInt32)
    (nExpert : UInt64) (size : Nat) : Prop :=
  ∃ layer, layerTensors? tensorInfos layerIdx = some layer ∧ 0 < nExpert.toNat ∧
    (∀ tensor ∈ layer.all, tensor.Exact nExpert) ∧
    size = (layer.all.map (ExpertTensor.share nExpert)).sum

/-- What the code returns is the size. -/
def SizedExactly (tensorInfos : IndexMap String GgufTensorInfo) (layerIdx : UInt32)
    (nExpert : UInt64) : Prop :=
  ∀ bytes, expertVramBytesForLayer tensorInfos layerIdx nExpert = .ok bytes →
    ExpertSize tensorInfos layerIdx nExpert bytes.toNat

/-- Where the tensors of the layer pass the tests of the code, neither their elements
nor the bytes of an expert exceed 64 bits. -/
def FitsWord (tensorInfos : IndexMap String GgufTensorInfo) (layerIdx : UInt32)
    (nExpert : UInt64) : Prop :=
  ∀ layer, layerTensors? tensorInfos layerIdx = some layer → 0 < nExpert.toNat →
    (∀ tensor ∈ layer.all, tensor.Passes nExpert) →
    (∀ tensor ∈ layer.all, tensor.elems < 2 ^ 64) ∧
      (layer.all.map (ExpertTensor.share nExpert)).sum < 2 ^ 64

/-! ## Tensors -/

variable {tensorInfos : IndexMap String GgufTensorInfo} {layerIdx : UInt32} {nExpert : UInt64}
  {tensor : ExpertTensor}

theorem toNat_foldl_mul (dims : List UInt64) (start : UInt64) :
    (dims.foldl (· * ·) start).toNat =
      start.toNat * (dims.map UInt64.toNat).prod % 2 ^ 64 := by
  induction dims generalizing start with
  | nil =>
      rw [List.foldl_nil, List.map_nil, List.prod_nil, Nat.mul_one]
      exact (Nat.mod_eq_of_lt start.toNat_lt).symm
  | cons dim dims ih =>
      rw [List.foldl_cons, ih, UInt64.toNat_mul, List.map_cons, List.prod_cons,
        Nat.mod_mul_mod, Nat.mul_assoc]

/-- The code counts the elements modulo a word. -/
theorem ExpertTensor.toNat_totalElems (tensor : ExpertTensor) :
    tensor.totalElems.toNat = tensor.elems % 2 ^ 64 := by
  rw [totalElems, toNat_foldl_mul, elems]
  change 1 * _ % _ = _
  rw [Nat.one_mul]

theorem ggmlBlockAndTypeSize_pos {ggmlType : UInt32} {blockSize typeSize : UInt64}
    (known : ggmlBlockAndTypeSize ggmlType = some (blockSize, typeSize)) :
    0 < blockSize.toNat ∧ 0 < typeSize.toNat := by
  unfold ggmlBlockAndTypeSize at known
  split at known
  all_goals first
    | (cases known; decide)
    | cases known

/-- A tensor is sized when it is known and passes the tests. -/
theorem expertTensorBytes_eq_ok_iff {name : String} {bytes : UInt64} :
    expertTensorBytes tensorInfos nExpert name = .ok bytes ↔
      ∃ tensor, expertTensor? tensorInfos name = some tensor ∧ tensor.Passes nExpert ∧
        tensor.bytes nExpert = bytes := by
  unfold expertTensorBytes expertTensor?
  cases tensorInfos.get? name with
  | none => simp
  | some info =>
      cases known : ggmlBlockAndTypeSize info.ggmlType with
      | none =>
          simp only [known, Option.bind_eq_bind, Option.bind_some, Option.bind_none]
          split
          · simp
          · simp
      | some sizes =>
          simp only [known, Option.bind_eq_bind, Option.bind_some, Option.pure_def,
            Option.some.injEq, exists_eq_left']
          by_cases divided : info.dims.foldl (· * ·) 1 % nExpert = 0
          · by_cases blocked : info.dims.foldl (· * ·) 1 / nExpert % sizes.1 = 0
            · simp [divided, blocked, ExpertTensor.Passes, ExpertTensor.totalElems,
                ExpertTensor.bytes]
            · simp [divided, blocked, ExpertTensor.Passes, ExpertTensor.totalElems]
          · simp [divided, ExpertTensor.Passes, ExpertTensor.totalElems]

theorem LayerTensors.forall_mem_all {layer : LayerTensors} {P : ExpertTensor → Prop} :
    (∀ tensor ∈ layer.all, P tensor) ↔ P layer.gate ∧ P layer.up ∧ P layer.down := by
  simp [LayerTensors.all]

theorem layerTensors?_eq_some_iff {layer : LayerTensors} :
    layerTensors? tensorInfos layerIdx = some layer ↔
      expertTensor? tensorInfos (expertTensorName layerIdx "ffn_gate_exps") = some layer.gate ∧
      expertTensor? tensorInfos (expertTensorName layerIdx "ffn_up_exps") = some layer.up ∧
      expertTensor? tensorInfos (expertTensorName layerIdx "ffn_down_exps") =
        some layer.down := by
  unfold layerTensors?
  simp only [Option.bind_eq_bind, Option.bind_eq_some_iff, Option.pure_def, Option.some.injEq]
  constructor
  · rintro ⟨gate, foundGate, up, foundUp, down, foundDown, rfl⟩
    exact ⟨foundGate, foundUp, foundDown⟩
  · rintro ⟨foundGate, foundUp, foundDown⟩
    exact ⟨layer.gate, foundGate, layer.up, foundUp, layer.down, foundDown, rfl⟩

theorem bind_eq_ok_iff {ε α β : Type} {first : Except ε α} {next : α → Except ε β} {value : β} :
    (first >>= next) = .ok value ↔ ∃ held, first = .ok held ∧ next held = .ok value := by
  cases first with
  | error err => simp [bind, Except.bind]
  | ok held => simp [bind, Except.bind]

/-- What a layer is sized as. -/
theorem expertVramBytesForLayer_eq_ok_iff {bytes : UInt64} :
    expertVramBytesForLayer tensorInfos layerIdx nExpert = .ok bytes ↔
      ∃ layer, layerTensors? tensorInfos layerIdx = some layer ∧ nExpert ≠ 0 ∧
        (∀ tensor ∈ layer.all, tensor.Passes nExpert) ∧
        (layer.all.map (ExpertTensor.bytes nExpert)).foldr (· + ·) 0 = bytes := by
  unfold expertVramBytesForLayer
  by_cases none : nExpert = 0
  · simp [none]
  · rw [if_neg none]
    simp only [List.foldlM_cons, List.foldlM_nil, bind_eq_ok_iff, expertTensorBytes_eq_ok_iff,
      layerTensors?_eq_some_iff, LayerTensors.forall_mem_all]
    constructor
    · rintro ⟨_, ⟨_, ⟨gate, foundGate, passGate, rfl⟩, ⟨⟩⟩, _, ⟨_, ⟨up, foundUp, passUp, rfl⟩, ⟨⟩⟩,
        _, ⟨_, ⟨down, foundDown, passDown, rfl⟩, ⟨⟩⟩, ⟨⟩⟩
      refine ⟨⟨gate, up, down⟩, ⟨foundGate, foundUp, foundDown⟩, none,
        ⟨passGate, passUp, passDown⟩, ?_⟩
      simp [LayerTensors.all, UInt64.add_assoc]
    · rintro ⟨layer, ⟨foundGate, foundUp, foundDown⟩, -, ⟨passGate, passUp, passDown⟩, rfl⟩
      refine ⟨_, ⟨_, ⟨layer.gate, foundGate, passGate, rfl⟩, rfl⟩,
        _, ⟨_, ⟨layer.up, foundUp, passUp, rfl⟩, rfl⟩,
        _, ⟨_, ⟨layer.down, foundDown, passDown, rfl⟩, rfl⟩, ?_⟩
      simp [LayerTensors.all, UInt64.add_assoc, pure, Except.pure]

/-! ## Against unbounded integers -/

namespace ExpertTensor

/-- Blocks and their sizes are not empty. -/
def Sound (tensor : ExpertTensor) : Prop :=
  0 < tensor.blockSize.toNat ∧ 0 < tensor.typeSize.toNat

/-- What a count of elements comes to for one expert. -/
def shareOf (nExpert : UInt64) (tensor : ExpertTensor) (count : Nat) : Nat :=
  count / nExpert.toNat / tensor.blockSize.toNat * tensor.typeSize.toNat

/-- A count is divided without rest. -/
def Divides (nExpert : UInt64) (tensor : ExpertTensor) (count : Nat) : Prop :=
  nExpert.toNat ∣ count ∧ tensor.blockSize.toNat ∣ count / nExpert.toNat

theorem passes_iff :
    tensor.Passes nExpert ↔ tensor.Divides nExpert tensor.totalElems.toNat := by
  have zero : (0 : UInt64).toNat = 0 := rfl
  rw [Passes, Divides, Nat.dvd_iff_mod_eq_zero, Nat.dvd_iff_mod_eq_zero, ← UInt64.toNat_inj,
    ← UInt64.toNat_inj, UInt64.toNat_mod, UInt64.toNat_mod, UInt64.toNat_div, zero]

theorem toNat_bytes :
    (tensor.bytes nExpert).toNat = tensor.shareOf nExpert tensor.totalElems.toNat % 2 ^ 64 := by
  rw [bytes, shareOf, UInt64.toNat_mul, UInt64.toNat_div, UInt64.toNat_div]

/-- A smaller count comes to no more. -/
theorem shareOf_le {count other : Nat} (le : count ≤ other) :
    tensor.shareOf nExpert count ≤ tensor.shareOf nExpert other :=
  Nat.mul_le_mul_right _ (Nat.div_le_div_right (Nat.div_le_div_right le))

/-- Counts that are divided without rest and come to the same are the same. -/
theorem eq_of_shareOf_eq (sound : tensor.Sound) {count other : Nat}
    (divides : tensor.Divides nExpert count) (alsoDivides : tensor.Divides nExpert other)
    (same : tensor.shareOf nExpert count = tensor.shareOf nExpert other) : count = other := by
  have blocks := Nat.eq_of_mul_eq_mul_right sound.2 same
  have shares : count / nExpert.toNat = other / nExpert.toNat := by
    rw [← Nat.div_mul_cancel divides.2, blocks, Nat.div_mul_cancel alsoDivides.2]
  rw [← Nat.div_mul_cancel divides.1, shares, Nat.div_mul_cancel alsoDivides.1]

theorem totalElems_le : tensor.totalElems.toNat ≤ tensor.elems := by
  rw [toNat_totalElems]
  exact Nat.mod_le _ _

theorem totalElems_eq (fits : tensor.elems < 2 ^ 64) : tensor.totalElems.toNat = tensor.elems := by
  rw [toNat_totalElems, Nat.mod_eq_of_lt fits]

end ExpertTensor

theorem sound_of_expertTensor? {name : String}
    (found : expertTensor? tensorInfos name = some tensor) : tensor.Sound := by
  unfold expertTensor? at found
  simp only [Option.bind_eq_bind, Option.bind_eq_some_iff, Option.pure_def,
    Option.some.injEq] at found
  rcases found with ⟨info, -, sizes, known, rfl⟩
  exact ggmlBlockAndTypeSize_pos known

theorem sound_of_layerTensors? {layer : LayerTensors}
    (found : layerTensors? tensorInfos layerIdx = some layer) :
    ∀ tensor ∈ layer.all, tensor.Sound := by
  rw [layerTensors?_eq_some_iff] at found
  rw [LayerTensors.forall_mem_all]
  exact ⟨sound_of_expertTensor? found.1, sound_of_expertTensor? found.2.1,
    sound_of_expertTensor? found.2.2⟩

/-- A sum of words is a sum modulo a word. -/
theorem toNat_sum_bytes (tensors : List ExpertTensor) :
    ((tensors.map (ExpertTensor.bytes nExpert)).foldr (· + ·) 0).toNat =
      (tensors.map fun tensor =>
        tensor.shareOf nExpert tensor.totalElems.toNat).sum % 2 ^ 64 := by
  induction tensors with
  | nil => rfl
  | cons tensor tensors ih =>
      rw [List.map_cons, List.foldr_cons, UInt64.toNat_add, ih, ExpertTensor.toNat_bytes,
        List.map_cons, List.sum_cons, Nat.add_mod_mod, Nat.mod_add_mod]

/-- Numbers that are each at most another come to as much only if they are the same. -/
theorem eq_of_sum_le {α : Type} {low high : α → Nat} {items : List α}
    (le : ∀ item ∈ items, low item ≤ high item)
    (sum : (items.map high).sum ≤ (items.map low).sum) :
    ∀ item ∈ items, low item = high item := by
  induction items with
  | nil => exact fun _ mem => absurd mem List.not_mem_nil
  | cons item items ih =>
      have parts := List.forall_mem_cons.mp le
      have rest : (items.map low).sum ≤ (items.map high).sum := List.sum_le_sum parts.2
      simp only [List.map_cons, List.sum_cons] at sum
      have first := parts.1
      rw [List.forall_mem_cons]
      exact ⟨by omega, ih parts.2 (by omega)⟩

theorem toNat_pos_iff : 0 < nExpert.toNat ↔ nExpert ≠ 0 := by
  rw [Nat.pos_iff_ne_zero, ne_eq, ne_eq, ← UInt64.toNat_inj]
  rfl

/-- The code returns the exact size of an expert or an error just where nothing wraps
that passes its tests. -/
theorem sizedExactly_iff :
    SizedExactly tensorInfos layerIdx nExpert ↔ FitsWord tensorInfos layerIdx nExpert := by
  constructor
  · intro sized layer found positive passes
    have returned := expertVramBytesForLayer_eq_ok_iff.mpr
      ⟨layer, found, toNat_pos_iff.mp positive, passes, rfl⟩
    obtain ⟨other, alsoFound, -, exact, size⟩ := sized _ returned
    cases Option.some.inj (found.symm.trans alsoFound)
    have total : (layer.all.map (ExpertTensor.share nExpert)).sum < 2 ^ 64 := by
      rw [← size]
      exact UInt64.toNat_lt _
    refine ⟨?_, total⟩
    have least : (layer.all.map (ExpertTensor.share nExpert)).sum ≤
        (layer.all.map fun tensor => tensor.shareOf nExpert tensor.totalElems.toNat).sum := by
      rw [← size, toNat_sum_bytes]
      exact Nat.mod_le _ _
    have same := eq_of_sum_le
      (fun tensor _ => ExpertTensor.shareOf_le tensor.totalElems_le) least
    intro tensor mem
    have sound := sound_of_layerTensors? found tensor mem
    have counted := ExpertTensor.eq_of_shareOf_eq sound
      (ExpertTensor.passes_iff.mp (passes tensor mem)) (exact tensor mem) (same tensor mem)
    rw [← counted]
    exact UInt64.toNat_lt _
  · intro fits bytes returned
    rcases expertVramBytesForLayer_eq_ok_iff.mp returned with
      ⟨layer, found, positive, passes, rfl⟩
    have small := fits layer found (toNat_pos_iff.mpr positive) passes
    refine ⟨layer, found, toNat_pos_iff.mpr positive, ?_, ?_⟩
    · intro tensor mem
      have divides := ExpertTensor.passes_iff.mp (passes tensor mem)
      rw [ExpertTensor.totalElems_eq (small.1 tensor mem)] at divides
      exact divides
    · have shares : (layer.all.map fun tensor =>
          tensor.shareOf nExpert tensor.totalElems.toNat) =
          layer.all.map (ExpertTensor.share nExpert) := by
        apply List.map_congr_left
        intro tensor mem
        rw [ExpertTensor.totalElems_eq (small.1 tensor mem)]
        rfl
      rw [toNat_sum_bytes, shares, Nat.mod_eq_of_lt small.2]

/-! ### A size that wraps -/

/-- An entry with one dimension, of elements of four bytes each. -/
def plainEntry (name : String) (dim : UInt64) (fits : name.length ≤ headerPrefixCapBytes) :
    TensorEntry where
  name := ⟨name.toList.map fun letter => UInt8.ofNat letter.toNat, by
    rw [List.length_map, String.length_toList]
    exact fits⟩
  dims := [dim]
  ggmlType := 0
  offset := 0
  few := by
    rw [List.length_singleton]
    decide

theorem utf8LossyChars_ascii (letters : List Char)
    (ascii : ∀ letter ∈ letters, letter.toNat < 128) :
    utf8LossyChars 0 (letters.map fun letter => UInt8.ofNat letter.toNat) = letters := by
  induction letters with
  | nil => rfl
  | cons letter letters ih =>
      have parts := List.forall_mem_cons.mp ascii
      have byte : (UInt8.ofNat letter.toNat).toNat = letter.toNat := by
        rw [UInt8.toNat_ofNat']
        omega
      have small : UInt8.ofNat letter.toNat < 0x80 := by
        rw [UInt8.lt_iff_toNat_lt, byte]
        exact parts.1
      have first : firstChar (UInt8.ofNat letter.toNat)
          (letters.map fun letter => UInt8.ofNat letter.toNat) = (letter, 0) := by
        rw [firstChar.eq_def, if_pos small, byte, Char.ofNat_toNat]
      rw [List.map_cons, utf8LossyChars, first]
      dsimp only
      rw [ih parts.2]

/-- An entry is kept under the name that it was given. -/
theorem text_plainEntry {name : String} {dim : UInt64} {fits : name.length ≤ headerPrefixCapBytes}
    (ascii : (name.toList.all fun letter => letter.toNat < 128) = true) :
    (plainEntry name dim fits).name.text = name := by
  have each : ∀ letter ∈ name.toList, letter.toNat < 128 := fun letter mem =>
    of_decide_eq_true (List.all_eq_true.mp ascii letter mem)
  rw [GgufString.text, plainEntry, fromUtf8Lossy, utf8LossyChars_ascii _ each,
    String.ofList_toList]

theorem gateName_fits : "blk.0.ffn_gate_exps.weight".length ≤ headerPrefixCapBytes := by
  decide

theorem upName_fits : "blk.0.ffn_up_exps.weight".length ≤ headerPrefixCapBytes := by
  decide

theorem downName_fits : "blk.0.ffn_down_exps.weight".length ≤ headerPrefixCapBytes := by
  decide

theorem noPairs_few :
    ([] : List (MetadataPair anyType)).length ≤ maxMetadataOrTensorCount.toNat :=
  Nat.zero_le _

/-- A header with expert tensors of `2 ^ 62` elements for one layer. -/
def hugeHeader : Header anyType where
  version := 3
  metadata := []
  tensors :=
    [plainEntry "blk.0.ffn_gate_exps.weight" 0x4000000000000000 gateName_fits,
      plainEntry "blk.0.ffn_up_exps.weight" 0x4000000000000000 upName_fits,
      plainEntry "blk.0.ffn_down_exps.weight" 0x4000000000000000 downName_fits]
  fewPairs := noPairs_few
  fewTensors := by decide

/-- Its table. -/
def hugeInfos : IndexMap String GgufTensorInfo :=
  ((IndexMap.empty.insert "blk.0.ffn_gate_exps.weight" ⟨[0x4000000000000000], 0⟩).insert
    "blk.0.ffn_up_exps.weight" ⟨[0x4000000000000000], 0⟩).insert
    "blk.0.ffn_down_exps.weight" ⟨[0x4000000000000000], 0⟩

theorem parse_hugeHeader : parseGgufTensorInfos hugeHeader.encode = .ok hugeInfos := by
  refine parse_eq_ok_iff.mpr ⟨hugeHeader, [], (List.append_nil _).symm, ?_⟩
  simp only [hugeHeader, List.foldl_cons, List.foldl_nil, keepEntry]
  rw [text_plainEntry rfl, text_plainEntry rfl, text_plainEntry rfl]
  rfl

/-- With one expert, the layer is sized as nothing. -/
theorem hugeHeader_sized : ∃ infos, parseGgufTensorInfos hugeHeader.encode = .ok infos ∧
    ¬ SizedExactly infos 0 1 := by
  have returned : expertVramBytesForLayer hugeInfos 0 1 = .ok 0 := rfl
  refine ⟨hugeInfos, parse_hugeHeader, fun sized => ?_⟩
  obtain ⟨layer, found, -, -, size⟩ := sized 0 returned
  let huge : ExpertTensor := ⟨⟨[0x4000000000000000], 0⟩, 1, 4⟩
  have tensors : layerTensors? hugeInfos 0 = some ⟨huge, huge, huge⟩ := rfl
  cases Option.some.inj (tensors.symm.trans found)
  exact absurd size (by decide)

end StratumBridge.Expert
