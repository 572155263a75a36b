import StratumBridge.Expert.Sizes
import StratumBridge.Expert.Vram

/-!
# The layers that the walk reaches

`fetch_and_parse` sizes the layers from 0 on and ends at the first one that has no
size, for whatever reason.  A range is then answered from the layers before that one.
The answer is the floor of the range just where the largest size of the range is also
that of a layer which the walk reaches.
-/

namespace StratumBridge.Expert

open Data

/-- The layer has a size. -/
def Sized (tensorInfos : IndexMap String GgufTensorInfo) (nExpert : UInt64) (layer : UInt32)
    (bytes : UInt64) : Prop :=
  expertVramBytesForLayer tensorInfos layer nExpert = .ok bytes

/-- No layer up to this one is without a size. -/
def Reached (tensorInfos : IndexMap String GgufTensorInfo) (nExpert : UInt64)
    (layer : UInt32) : Prop :=
  ∀ before ≤ layer, ∃ bytes, Sized tensorInfos nExpert before bytes

/-- The layer lies in the range of a call. -/
def VramCall.InRange (call : VramCall) (layer : UInt32) : Prop :=
  call.layerStart ≤ layer ∧ layer < call.layerEnd

/-- A size in megabytes, rounded up. -/
def ceilMb (bytes : UInt64) : Nat :=
  (bytes.toNat + (2 ^ 20 - 1)) / 2 ^ 20

/-- A layer of the range has the size, and none has a larger one. -/
def Largest (tensorInfos : IndexMap String GgufTensorInfo) (call : VramCall)
    (bytes : UInt64) : Prop :=
  (∃ layer, call.InRange layer ∧ Sized tensorInfos call.nExpert layer bytes) ∧
    ∀ layer other, call.InRange layer → Sized tensorInfos call.nExpert layer other →
      other ≤ bytes

/-- The floor of a range: the largest size, or none where no layer has a size. -/
def IsFloor (tensorInfos : IndexMap String GgufTensorInfo) (call : VramCall) :
    Option UInt64 → Prop
  | some mb => ∃ bytes, Largest tensorInfos call bytes ∧ mb.toNat = ceilMb bytes
  | none => ∀ layer bytes, call.InRange layer → ¬ Sized tensorInfos call.nExpert layer bytes

/-- For every size in the range, the walk reaches a layer of the range whose size is
no less in megabytes. -/
def ReachesLargest (tensorInfos : IndexMap String GgufTensorInfo) (call : VramCall) : Prop :=
  ∀ layer bytes, call.InRange layer → Sized tensorInfos call.nExpert layer bytes →
    ∃ reached size, call.InRange reached ∧ Reached tensorInfos call.nExpert reached ∧
      Sized tensorInfos call.nExpert reached size ∧ ceilMb bytes ≤ ceilMb size

variable {tensorInfos : IndexMap String GgufTensorInfo} {nExpert : UInt64} {call : VramCall}

/-! ## The walk -/

theorem Sized.unique {layer : UInt32} {bytes other : UInt64}
    (sized : Sized tensorInfos nExpert layer bytes)
    (alsoSized : Sized tensorInfos nExpert layer other) : bytes = other :=
  Except.ok.inj (sized.symm.trans alsoSized)

/-- The first layer without a size, and what the walk keeps: the sizes of the layers
before it. -/
def EndsAt (tensorInfos : IndexMap String GgufTensorInfo) (nExpert : UInt64) (limit : Nat)
    (walked : Except String (PartialMap UInt32 UInt64)) : Prop :=
  (∀ layer < limit, ∃ bytes, Sized tensorInfos nExpert (UInt32.ofNat layer) bytes) ∧
    limit < 2 ^ 32 ∧ (∀ bytes, ¬ Sized tensorInfos nExpert (UInt32.ofNat limit) bytes) ∧
    match walked with
    | .error _ => limit = 0
    | .ok perLayer => ∀ layer bytes, perLayer layer = some bytes ↔
        layer.toNat < limit ∧ Sized tensorInfos nExpert layer bytes

/-- The walk ends at a layer without a size: it has not seen more layers than there are
tensors. -/
theorem walkLayers_endsAt (few : tensorInfos.keys.length < 2 ^ 32) {count layers : Nat}
    (sized : ∀ layer < layers, ∃ bytes, Sized tensorInfos nExpert (UInt32.ofNat layer) bytes)
    (within : layers ≤ tensorInfos.keys.length)
    (enough : tensorInfos.keys.length < layers + count)
    {perLayer : PartialMap UInt32 UInt64}
    (kept : ∀ layer bytes, perLayer layer = some bytes ↔
      layer.toNat < layers ∧ Sized tensorInfos nExpert layer bytes) :
    ∃ limit, EndsAt tensorInfos nExpert limit
      (walkLayers tensorInfos nExpert count (UInt32.ofNat layers) perLayer) := by
  induction count generalizing layers perLayer with
  | zero => omega
  | succ count ih =>
      have size : UInt32.size = 2 ^ 32 := rfl
      have index : (UInt32.ofNat layers).toNat = layers :=
        UInt32.toNat_ofNat_of_lt' (by omega)
      unfold walkLayers
      cases here : expertVramBytesForLayer tensorInfos (UInt32.ofNat layers) nExpert with
      | error text =>
          have unsized : ∀ bytes, ¬ Sized tensorInfos nExpert (UInt32.ofNat layers) bytes := by
            intro bytes held
            cases here.symm.trans held
          refine ⟨layers, sized, by omega, unsized, ?_⟩
          by_cases first : UInt32.ofNat layers = 0
          · simp only [if_pos first]
            rw [← index, first]
            rfl
          · simp only [if_neg first]
            exact kept
      | ok bytes =>
          dsimp only
          have next : UInt32.ofNat layers + 1 = UInt32.ofNat (layers + 1) :=
            (UInt32.ofNat_add layers 1).symm
          rw [next]
          have alsoSized : ∀ layer < layers + 1,
              ∃ bytes, Sized tensorInfos nExpert (UInt32.ofNat layer) bytes := by
            intro layer below
            rcases Nat.lt_succ_iff_lt_or_eq.mp below with earlier | rfl
            · exact sized layer earlier
            · exact ⟨bytes, here⟩
          have present : ∀ layer < layers + 1,
              expertTensorName (UInt32.ofNat layer) "ffn_gate_exps" ∈ tensorInfos.keys := by
            intro layer below
            obtain ⟨bytes, held⟩ := alsoSized layer below
            exact mem_keys_of_expertVramBytesForLayer held
          apply ih alsoSized (le_length_keys (by omega) present) (by omega)
          intro layer other
          by_cases same : layer = UInt32.ofNat layers
          · subst same
            rw [PartialMap.insert_self, index]
            constructor
            · intro held
              cases held
              exact ⟨Nat.lt_succ_self _, here⟩
            · rintro ⟨-, held⟩
              rw [Sized.unique here held]
          · rw [PartialMap.insert_of_ne _ _ same, kept]
            have different : layer.toNat ≠ layers := by
              intro equal
              apply same
              rw [← equal, UInt32.ofNat_toNat]
            constructor
            · rintro ⟨below, held⟩
              exact ⟨by omega, held⟩
            · rintro ⟨below, held⟩
              exact ⟨by omega, held⟩

theorem perLayerBytes_endsAt {bytes : List UInt8}
    (parsed : parseGgufTensorInfos bytes = .ok tensorInfos) (nExpert : UInt64) :
    ∃ limit, EndsAt tensorInfos nExpert limit (perLayerBytes tensorInfos nExpert) := by
  have length := length_keys_of_parse parsed
  have cap : maxMetadataOrTensorCount.toNat = 1000000 := rfl
  have none : ∀ layer < 0, ∃ bytes, Sized tensorInfos nExpert (UInt32.ofNat layer) bytes :=
    fun layer below => absurd below (Nat.not_lt_zero layer)
  have kept : ∀ layer bytes, (PartialMap.empty : PartialMap UInt32 UInt64) layer = some bytes ↔
      layer.toNat < 0 ∧ Sized tensorInfos nExpert layer bytes := by
    intro layer bytes
    constructor
    · intro held
      cases held
    · rintro ⟨below, -⟩
      exact absurd below (Nat.not_lt_zero _)
  exact walkLayers_endsAt (by omega) none (Nat.zero_le _) (by omega) kept

/-- The walk reaches the layers before the one at which it ends. -/
theorem EndsAt.reached_iff {limit : Nat} {walked : Except String (PartialMap UInt32 UInt64)}
    (ends : EndsAt tensorInfos nExpert limit walked) (layer : UInt32) :
    Reached tensorInfos nExpert layer ↔ layer.toNat < limit := by
  rcases ends with ⟨sized, within, unsized, -⟩
  constructor
  · intro reached
    by_contra past
    have size : UInt32.size = 2 ^ 32 := rfl
    have index : (UInt32.ofNat limit).toNat = limit := UInt32.toNat_ofNat_of_lt' (by omega)
    have before : UInt32.ofNat limit ≤ layer := by
      rw [UInt32.le_iff_toNat_le, index]
      omega
    obtain ⟨bytes, held⟩ := reached _ before
    exact unsized bytes held
  · intro below before le
    have index := UInt32.le_iff_toNat_le.mp le
    have held := sized before.toNat (by omega)
    rwa [UInt32.ofNat_toNat] at held

/-! ## The answer -/

theorem mem_layerRange_iff {layer : UInt32} :
    layer ∈ layerRange call.layerStart call.layerEnd ↔ call.InRange layer := by
  rw [layerRange, VramCall.InRange, UInt32.le_iff_toNat_le, UInt32.lt_iff_toNat_lt]
  simp only [List.mem_map, List.mem_range'_1]
  constructor
  · rintro ⟨index, inside, rfl⟩
    have bound := call.layerEnd.toNat_lt
    have size : UInt32.size = 2 ^ 32 := rfl
    rw [UInt32.toNat_ofNat_of_lt' (by omega)]
    omega
  · intro inside
    exact ⟨layer.toNat, by omega, UInt32.ofNat_toNat⟩

instance lawfulOrderMax_uInt64 : Std.LawfulOrderMax UInt64 where
  max_le_iff a b c := by
    have split : max a b = if a ≤ b then b else a := rfl
    rw [split]
    split
    · rename_i le
      exact ⟨fun above => ⟨UInt64.le_trans le above, above⟩, And.right⟩
    · rename_i less
      have le : b ≤ a := (UInt64.le_total a b).resolve_left less
      exact ⟨fun above => ⟨above, UInt64.le_trans le above⟩, And.left⟩
  max_eq_or a b := by
    have split : max a b = if a ≤ b then b else a := rfl
    rw [split]
    split
    · exact .inr rfl
    · exact .inl rfl

/-- The largest of the sizes that the layers of a range have. -/
theorem max?_range_eq_some_iff {sizes : UInt32 → Option UInt64} {most : UInt64} :
    ((layerRange call.layerStart call.layerEnd).filterMap sizes).max? = some most ↔
      (∃ layer, call.InRange layer ∧ sizes layer = some most) ∧
        ∀ layer other, call.InRange layer → sizes layer = some other → other ≤ most := by
  rw [List.max?_eq_some_iff]
  simp only [List.mem_filterMap, mem_layerRange_iff]
  refine and_congr_right fun _ => ⟨?_, ?_⟩
  · intro bound layer other inside held
    exact bound other ⟨layer, inside, held⟩
  · rintro bound other ⟨layer, inside, held⟩
    exact bound layer other inside held

theorem max?_range_eq_none_iff {sizes : UInt32 → Option UInt64} :
    ((layerRange call.layerStart call.layerEnd).filterMap sizes).max? = none ↔
      ∀ layer, call.InRange layer → sizes layer = none := by
  rw [List.max?_eq_none_iff, List.filterMap_eq_nil_iff]
  simp only [mem_layerRange_iff]

theorem toNat_mbOfBytes (bytes : UInt64) : (mbOfBytes bytes).toNat = ceilMb bytes := by
  have mega : (1024 * 1024 : UInt64).toNat = 2 ^ 20 := rfl
  have bound := bytes.toNat_lt
  unfold mbOfBytes ceilMb
  split
  · rename_i whole
    have rest := congrArg UInt64.toNat whole
    rw [UInt64.toNat_mod, mega] at rest
    change bytes.toNat % 2 ^ 20 = 0 at rest
    rw [UInt64.toNat_div, mega]
    omega
  · rename_i part
    have rest : bytes.toNat % 2 ^ 20 ≠ 0 := by
      intro zero
      apply part
      apply UInt64.toNat_inj.mp
      rw [UInt64.toNat_mod, mega]
      exact zero
    have quotient : (bytes / (1024 * 1024)).toNat = bytes.toNat / 2 ^ 20 := by
      rw [UInt64.toNat_div, mega]
    have one : (1 : UInt64).toNat = 1 := rfl
    rw [UInt64.toNat_add, quotient, one]
    omega

theorem ceilMb_mono {bytes other : UInt64} (le : bytes ≤ other) : ceilMb bytes ≤ ceilMb other :=
  Nat.div_le_div_right (Nat.add_le_add_right (UInt64.le_iff_toNat_le.mp le) _)

/-- Where some layer of the range has a size, one of them has the largest. -/
theorem exists_largest {layer : UInt32} {bytes : UInt64} (inside : call.InRange layer)
    (sized : Sized tensorInfos call.nExpert layer bytes) :
    ∃ most, Largest tensorInfos call most := by
  let sizes : UInt32 → Option UInt64 := fun layer =>
    (expertVramBytesForLayer tensorInfos layer call.nExpert).toOption
  have held : ∀ layer bytes, sizes layer = some bytes ↔
      Sized tensorInfos call.nExpert layer bytes := by
    intro layer bytes
    simp only [sizes, Sized]
    cases expertVramBytesForLayer tensorInfos layer call.nExpert with
    | error text => simp [Except.toOption]
    | ok size => simp [Except.toOption]
  cases most : ((layerRange call.layerStart call.layerEnd).filterMap sizes).max? with
  | none =>
      have nothing := max?_range_eq_none_iff.mp most layer inside
      rw [(held layer bytes).mpr sized] at nothing
      cases nothing
  | some size =>
      obtain ⟨⟨found, within, here⟩, bound⟩ := max?_range_eq_some_iff.mp most
      refine ⟨size, ⟨found, within, (held found size).mp here⟩, ?_⟩
      intro other also among alsoSized
      exact bound other also among ((held other also).mpr alsoSized)

/-- What is answered from the walk is the floor just where the walk reaches the
largest size. -/
theorem isFloor_maxVramMb_iff {limit : Nat} {perLayer : PartialMap UInt32 UInt64}
    (ends : EndsAt tensorInfos call.nExpert limit (.ok perLayer)) :
    IsFloor tensorInfos call (maxVramMb perLayer call) ↔ ReachesLargest tensorInfos call := by
  have kept : ∀ layer bytes, perLayer layer = some bytes ↔
      Reached tensorInfos call.nExpert layer ∧ Sized tensorInfos call.nExpert layer bytes := by
    intro layer bytes
    rw [ends.reached_iff]
    exact ends.2.2.2 layer bytes
  unfold maxVramMb
  cases most : ((layerRange call.layerStart call.layerEnd).filterMap perLayer).max? with
  | none =>
      rw [max?_range_eq_none_iff] at most
      constructor
      · intro nothing layer bytes inside sized
        exact absurd sized (nothing layer bytes inside)
      · intro reaches layer bytes inside sized
        obtain ⟨reached, size, within, upTo, held, -⟩ := reaches layer bytes inside sized
        have found := (kept reached size).mpr ⟨upTo, held⟩
        rw [most reached within] at found
        cases found
  | some size =>
      obtain ⟨⟨reached, within, found⟩, bound⟩ := max?_range_eq_some_iff.mp most
      obtain ⟨upTo, held⟩ := (kept reached size).mp found
      change (∃ bytes, Largest tensorInfos call bytes ∧ _) ↔ _
      rw [toNat_mbOfBytes]
      constructor
      · rintro ⟨largest, ⟨-, above⟩, same⟩ layer bytes inside sized
        refine ⟨reached, size, within, upTo, held, ?_⟩
        rw [same]
        exact ceilMb_mono (above layer bytes inside sized)
      · intro reaches
        obtain ⟨largest, ⟨layer, inside, sized⟩, above⟩ := exists_largest within held
        refine ⟨largest, ⟨⟨layer, inside, sized⟩, above⟩, ?_⟩
        rcases reaches layer largest inside sized with ⟨other, otherSize, among, alsoUpTo,
          alsoHeld, enough⟩
        have most := bound other otherSize among
          ((kept other otherSize).mpr ⟨alsoUpTo, alsoHeld⟩)
        have least := ceilMb_mono (above reached size within held)
        exact Nat.le_antisymm least (Nat.le_trans enough (ceilMb_mono most))

/-- A range without a size reached is answered with none when the walk fails. -/
theorem isFloor_none_iff {limit : Nat} {text : String}
    (ends : EndsAt tensorInfos call.nExpert limit (.error text)) :
    IsFloor tensorInfos call none ↔ ReachesLargest tensorInfos call := by
  constructor
  · intro nothing layer bytes inside sized
    exact absurd sized (nothing layer bytes inside)
  · intro reaches layer bytes inside sized
    obtain ⟨reached, size, -, upTo, -, -⟩ := reaches layer bytes inside sized
    have below := (ends.reached_iff reached).mp upTo
    have first : limit = 0 := ends.2.2.2
    omega

open ExpertVramEstimator in
/-- Without cached sizes, a call is answered from a walk of its own. -/
theorem freshAnswer_eq {bytes : List UInt8}
    (parsed : parseGgufTensorInfos (bytes.take headerPrefixCapBytes) = .ok tensorInfos)
    (call : VramCall) :
    freshAnswer (fun _ _ => bytes) call =
      match perLayerBytes tensorInfos call.nExpert with
      | .error _ => none
      | .ok perLayer => maxVramMb perLayer call := by
  have fetched : fetchGgufHeaderPrefix (.ok bytes) = .ok (bytes.take headerPrefixCapBytes) := rfl
  have derived : sizes (fun _ _ => bytes) call = perLayerBytes tensorInfos call.nExpert := by
    simp only [sizes, fetchAndParse, fetched, parsed]
  have answered := freshAnswer_eq_sizes (fun _ _ => bytes) call
  rw [derived] at answered
  cases walked : perLayerBytes tensorInfos call.nExpert with
  | error text =>
      rw [walked] at answered
      exact answered
  | ok perLayer =>
      rw [walked] at answered
      exact answered

open ExpertVramEstimator in
/-- Without cached sizes, a call returns the floor of its range just where the walk
reaches the largest size of the range. -/
theorem freshAnswer_isFloor_iff {bytes : List UInt8}
    (parsed : parseGgufTensorInfos (bytes.take headerPrefixCapBytes) = .ok tensorInfos)
    (call : VramCall) :
    IsFloor tensorInfos call (freshAnswer (fun _ _ => bytes) call) ↔
      ReachesLargest tensorInfos call := by
  rw [freshAnswer_eq parsed]
  obtain ⟨limit, ends⟩ := perLayerBytes_endsAt parsed call.nExpert
  cases walked : perLayerBytes tensorInfos call.nExpert with
  | error text =>
      rw [walked] at ends
      exact isFloor_none_iff ends
  | ok perLayer =>
      rw [walked] at ends
      exact isFloor_maxVramMb_iff ends

/-! ### A dense layer in between -/

/-- A header with small experts in layer 0, none in layer 1 and larger ones in
layer 2. -/
def gapHeader : Header anyType where
  version := 3
  metadata := []
  tensors :=
    [plainEntry "blk.0.ffn_gate_exps.weight" 0x40000 gateName_fits,
      plainEntry "blk.0.ffn_up_exps.weight" 0x40000 upName_fits,
      plainEntry "blk.0.ffn_down_exps.weight" 0x40000 downName_fits,
      plainEntry "blk.2.ffn_gate_exps.weight" 0x100000 (by decide),
      plainEntry "blk.2.ffn_up_exps.weight" 0x100000 (by decide),
      plainEntry "blk.2.ffn_down_exps.weight" 0x100000 (by decide)]
  fewPairs := noPairs_few
  fewTensors := by decide

/-- Its table. -/
def gapInfos : IndexMap String GgufTensorInfo :=
  [("blk.0.ffn_gate_exps.weight", 0x40000), ("blk.0.ffn_up_exps.weight", 0x40000),
    ("blk.0.ffn_down_exps.weight", 0x40000), ("blk.2.ffn_gate_exps.weight", 0x100000),
    ("blk.2.ffn_up_exps.weight", 0x100000), ("blk.2.ffn_down_exps.weight", 0x100000)].foldl
    (fun infos entry => infos.insert entry.1 ⟨[entry.2], 0⟩) .empty

/-- A call for the layers up to one. -/
def plainCall (layerEnd : UInt32) : VramCall :=
  ⟨"model", "url", "sha", 0, layerEnd, 1⟩

theorem parse_gapHeader :
    parseGgufTensorInfos (gapHeader.encode.take headerPrefixCapBytes) = .ok gapInfos := by
  have short : gapHeader.encode.length ≤ headerPrefixCapBytes := by decide +kernel
  rw [List.take_of_length_le short]
  refine parse_eq_ok_iff.mpr ⟨gapHeader, [], (List.append_nil _).symm, ?_⟩
  simp only [gapHeader, List.foldl_cons, List.foldl_nil, keepEntry]
  rw [text_plainEntry rfl, text_plainEntry rfl, text_plainEntry rfl,
    text_plainEntry rfl, text_plainEntry rfl, text_plainEntry rfl]
  rfl

theorem sized_gapInfos {layer : UInt32} {bytes : UInt64} (low : layer ≤ 2)
    (sized : Sized gapInfos 1 layer bytes) :
    layer = 0 ∧ bytes = 0x300000 ∨ layer = 2 ∧ bytes = 0xC00000 := by
  have index := UInt32.le_iff_toNat_le.mp low
  have cases : layer = 0 ∨ layer = 1 ∨ layer = 2 := by
    simp only [← UInt32.toNat_inj]
    change layer.toNat = 0 ∨ layer.toNat = 1 ∨ layer.toNat = 2
    change layer.toNat ≤ 2 at index
    omega
  rcases cases with rfl | rfl | rfl
  · have size : Sized gapInfos 1 0 0x300000 := rfl
    exact .inl ⟨rfl, sized.unique size⟩
  · have unsized : expertVramBytesForLayer gapInfos 1 1 =
        .error "cannot find tensor info for blk.1.ffn_gate_exps.weight" := rfl
    cases unsized.symm.trans sized
  · have size : Sized gapInfos 1 2 0xC00000 := rfl
    exact .inr ⟨rfl, sized.unique size⟩

/-- An instance of `freshAnswer_isFloor_iff`: of the two layers up to the gap, the walk
reaches the one that has experts. -/
theorem freshAnswer_isFloor_plain :
    IsFloor gapInfos (plainCall 2)
      (ExpertVramEstimator.freshAnswer (fun _ _ => gapHeader.encode) (plainCall 2)) := by
  rw [freshAnswer_isFloor_iff parse_gapHeader]
  intro layer bytes inside sized
  have low : layer ≤ 2 := UInt32.le_of_lt inside.2
  rcases sized_gapInfos low sized with ⟨rfl, rfl⟩ | ⟨rfl, rfl⟩
  · refine ⟨0, 0x300000, inside, ?_, sized, Nat.le_refl _⟩
    intro before le
    have first : before = 0 := UInt32.le_antisymm le (UInt32.zero_le)
    rw [first]
    exact ⟨0x300000, sized⟩
  · exact absurd inside.2 (by decide)

/-- Of all three layers, the answer is three megabytes, and the experts of the last
take twelve. -/
theorem gap_underestimated :
    parseGgufTensorInfos (gapHeader.encode.take headerPrefixCapBytes) = .ok gapInfos ∧
      ¬ IsFloor gapInfos (plainCall 3)
        (ExpertVramEstimator.freshAnswer (fun _ _ => gapHeader.encode) (plainCall 3)) := by
  refine ⟨parse_gapHeader, ?_⟩
  have answered : (match perLayerBytes gapInfos 1 with
      | .error _ => none
      | .ok perLayer => maxVramMb perLayer (plainCall 3)) = some 3 := by decide +kernel
  rw [freshAnswer_eq parse_gapHeader]
  change ¬ IsFloor gapInfos (plainCall 3) (match perLayerBytes gapInfos 1 with
    | .error _ => none
    | .ok perLayer => maxVramMb perLayer (plainCall 3))
  rw [answered]
  rintro ⟨bytes, ⟨-, above⟩, same⟩
  have size : Sized gapInfos 1 2 0xC00000 := rfl
  have enough := ceilMb_mono (above 2 0xC00000 ⟨by decide, by decide⟩ size)
  rw [← same] at enough
  exact absurd enough (by decide)

end StratumBridge.Expert
