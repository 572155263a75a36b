import StratumBridge.Expert.System

/-!
# What the weighted sum accepts

The number of floats that a shape calls for is its product modulo 2⁶⁴, and the
buffer for them is allocated for the shape that the first output claims.  Where the
product is no larger than that and the buffer no larger than what was received, the
sum accepts exactly the groups of outputs of one shape with all their floats.
-/

namespace StratumBridge.Expert

open Wire

/-- The output has the shape, and so many floats. -/
def Shaped (shape : List Nat) (floats : Nat) (result : OpoiExpertResult) : Prop :=
  result.output.shape = shape ∧
    ∃ values, hexToF32 result.output.dataHex = some values ∧ values.length = floats

/-- There are outputs, all of one shape and with as many floats as its product. -/
def WellFormed (outcomes : List (F32 × OpoiExpertResult)) : Prop :=
  outcomes ≠ [] ∧ ∃ shape, ∀ outcome ∈ outcomes, Shaped shape shape.prod outcome.2

/-- The size of the buffer that is allocated before any output is looked at. -/
def bufferBytes : List (F32 × OpoiExpertResult) → Nat
  | [] => 0
  | (_, first) :: _ => 4 * expectedLen first.output.shape

/-- The size of the payloads, as they were received. -/
def receivedBytes (outcomes : List (F32 × OpoiExpertResult)) : Nat :=
  (outcomes.map fun outcome => outcome.2.output.dataHex.utf8ByteSize).sum

/-- The sum accepts what is well formed and nothing else, with a result of the same
shape; it does not panic, and its buffer is no larger than what was received. -/
structure CombinesWell (arith : Arithmetic) (outcomes : List (F32 × OpoiExpertResult)) : Prop where
  accepts : (∃ output, combineWeighted arith outcomes = .ok output) ↔ WellFormed outcomes
  result : ∀ output, combineWeighted arith outcomes = .ok output →
    (∀ outcome ∈ outcomes, outcome.2.output.shape = output.shape) ∧
      ∃ values, hexToF32 output.dataHex = some values ∧ values.length = output.shape.prod
  returns : combineWeighted arith outcomes ≠ .panicked
  modest : bufferBytes outcomes ≤ receivedBytes outcomes

/-- The condition on the outputs.  The first one's shape calls for a buffer that can
be allocated and is no larger than what was received; and if its product wraps, the
outputs do not all have that shape with the wrapped number of floats, nor with the
number that is meant. -/
def Bounded : List (F32 × OpoiExpertResult) → Prop
  | [] => True
  | (weight, first) :: rest =>
      expectedLen first.output.shape ≤ maxFloats ∧
        4 * expectedLen first.output.shape ≤ receivedBytes ((weight, first) :: rest) ∧
        (2 ^ 64 ≤ first.output.shape.prod →
          ∀ floats, floats = expectedLen first.output.shape ∨ floats = first.output.shape.prod →
            ¬ ∀ outcome ∈ (weight, first) :: rest,
              Shaped first.output.shape floats outcome.2)

variable {arith : Arithmetic} {shape : List Nat} {acc : List F32}
  {outcomes rest : List (F32 × OpoiExpertResult)} {weight : F32} {first : OpoiExpertResult}

theorem fits_iff {result : OpoiExpertResult} :
    Fits shape result ↔ Shaped shape (expectedLen shape) result :=
  ⟨fun fits => ⟨fits.sameShape, fits.decodes⟩, fun shaped => ⟨shaped.1, shaped.2⟩⟩

theorem wellFormed_cons_iff : WellFormed ((weight, first) :: rest) ↔
    ∀ outcome ∈ (weight, first) :: rest,
      Shaped first.output.shape first.output.shape.prod outcome.2 := by
  constructor
  · rintro ⟨-, shape, shaped⟩
    have same : first.output.shape = shape := (shaped (weight, first) List.mem_cons_self).1
    rw [same]
    exact shaped
  · intro shaped
    exact ⟨List.cons_ne_nil _ _, first.output.shape, shaped⟩

/-- The loop gets through outputs that fit. -/
theorem combineInto_of_fits (room : acc.length = expectedLen shape)
    (fits : ∀ outcome ∈ outcomes, Fits shape outcome.2) :
    ∃ total, combineInto arith shape outcomes acc = .ok total := by
  induction outcomes generalizing acc with
  | nil => exact ⟨acc, rfl⟩
  | cons outcome rest ih =>
      rcases outcome with ⟨weight, result⟩
      obtain ⟨sameShape, values, decoded, sameLength⟩ := fits (weight, result) List.mem_cons_self
      have same : values.length = acc.length := sameLength.trans room.symm
      have stays : (accumulate arith acc weight values).length = expectedLen shape :=
        (length_accumulate same).trans room
      rcases ih stays fun outcome mem => fits outcome (List.mem_cons_of_mem _ mem) with
        ⟨total, sum⟩
      refine ⟨total, ?_⟩
      rw [combineInto, if_neg (not_not_intro sameShape), decoded]
      dsimp only
      rw [if_neg (not_not_intro sameLength), sum]

theorem exists_combineWeighted_iff :
    (∃ output, combineWeighted arith ((weight, first) :: rest) = .ok output) ↔
      expectedLen first.output.shape ≤ maxFloats ∧
        ∀ outcome ∈ (weight, first) :: rest,
          Shaped first.output.shape (expectedLen first.output.shape) outcome.2 := by
  simp only [← fits_iff]
  constructor
  · rintro ⟨output, combined⟩
    have fits := (combineWeighted_eq_ok combined).1
    have same : first.output.shape = output.shape :=
      (fits (weight, first) List.mem_cons_self).sameShape
    have returns : combineWeighted arith ((weight, first) :: rest) ≠ .panicked := by
      rw [combined]
      intro panicked
      cases panicked
    refine ⟨combineWeighted_ne_panicked_iff.mp returns, ?_⟩
    rw [same]
    exact fits
  · rintro ⟨allocates, fits⟩
    have zeros : (List.replicate (expectedLen first.output.shape) (0 : F32)).length =
        expectedLen first.output.shape := List.length_replicate
    have sums : ∃ total, combineInto arith first.output.shape ((weight, first) :: rest)
        (List.replicate (expectedLen first.output.shape) 0) = .ok total :=
      combineInto_of_fits zeros fits
    rcases sums with ⟨total, sum⟩
    refine ⟨⟨first.output.shape, f32ToHex total⟩, ?_⟩
    simp only [combineWeighted]
    rw [if_neg (Nat.not_lt.mpr allocates), sum]

/-- A product that does not wrap is the number of floats. -/
theorem expectedLen_eq (small : shape.prod < 2 ^ 64) : expectedLen shape = shape.prod :=
  Nat.mod_eq_of_lt small

theorem expectedLen_lt (shape : List Nat) : expectedLen shape < 2 ^ 64 :=
  Nat.mod_lt _ (by decide)

/-- The floats of a result, read back. -/
theorem floats_of_combineWeighted {output : ExpertOutputWire}
    (combined : combineWeighted arith ((weight, first) :: rest) = .ok output) :
    (∀ outcome ∈ (weight, first) :: rest, outcome.2.output.shape = output.shape) ∧
      ∃ values, hexToF32 output.dataHex = some values ∧
        values.length = expectedLen output.shape := by
  obtain ⟨fits, sum⟩ := combineWeighted_eq_ok combined
  refine ⟨fun outcome mem => (fits outcome mem).sameShape, ?_⟩
  rw [sum, weightedOutput]
  refine ⟨_, hexToF32_f32ToHex _, ?_⟩
  rw [weightedSum, List.length_map, List.length_range]

/-- Outputs of one shape do not have two numbers of floats. -/
theorem Shaped.unique {floats others : Nat} {result : OpoiExpertResult}
    (shaped : Shaped shape floats result) (shapedToo : Shaped shape others result) :
    floats = others := by
  rcases shaped with ⟨-, values, decoded, rfl⟩
  rcases shapedToo with ⟨-, again, decodedToo, rfl⟩
  rw [decoded] at decodedToo
  cases decodedToo
  rfl

theorem combinesWell_nil : CombinesWell arith [] where
  accepts := by
    refine iff_of_false ?_ fun wellFormed => wellFormed.1 rfl
    rintro ⟨output, combined⟩
    cases combined
  result output combined := by cases combined
  returns panicked := by cases panicked
  modest := Nat.le_refl _

/-- The sum is right about a group exactly when the shape of the first output is
bounded. -/
theorem combinesWell_iff (arith : Arithmetic) (outcomes : List (F32 × OpoiExpertResult)) :
    CombinesWell arith outcomes ↔ Bounded outcomes := by
  rcases outcomes with _ | ⟨⟨weight, first⟩, rest⟩
  · exact iff_of_true combinesWell_nil trivial
  · have wraps : 2 ^ 64 ≤ first.output.shape.prod →
        expectedLen first.output.shape ≠ first.output.shape.prod := by
      intro large same
      have small := expectedLen_lt first.output.shape
      omega
    constructor
    · rintro ⟨accepts, -, returns, modest⟩
      have allocates := combineWeighted_ne_panicked_iff.mp returns
      rw [exists_combineWeighted_iff, wellFormed_cons_iff] at accepts
      refine ⟨allocates, modest, ?_⟩
      rintro large floats (rfl | rfl) shaped
      · have also := accepts.mp ⟨allocates, shaped⟩
        exact wraps large ((shaped _ List.mem_cons_self).unique (also _ List.mem_cons_self))
      · have also := (accepts.mpr shaped).2
        exact wraps large ((also _ List.mem_cons_self).unique (shaped _ List.mem_cons_self))
    · rintro ⟨allocates, modest, unwrapped⟩
      rcases Nat.lt_or_ge first.output.shape.prod (2 ^ 64) with small | large
      · have same := expectedLen_eq small
        refine ⟨?_, ?_, combineWeighted_ne_panicked_iff.mpr allocates, modest⟩
        · rw [exists_combineWeighted_iff, wellFormed_cons_iff, same]
          exact and_iff_right (same ▸ allocates)
        · intro output combined
          have floats := floats_of_combineWeighted combined
          refine ⟨floats.1, ?_⟩
          rw [← floats.1 (weight, first) List.mem_cons_self, ← same,
            floats.1 (weight, first) List.mem_cons_self]
          exact floats.2
      · have refuses :
            ¬ ∃ output, combineWeighted arith ((weight, first) :: rest) = .ok output := by
          rw [exists_combineWeighted_iff]
          exact fun accepted => unwrapped large _ (.inl rfl) accepted.2
        refine ⟨iff_of_false refuses ?_, ?_, combineWeighted_ne_panicked_iff.mpr allocates, modest⟩
        · rw [wellFormed_cons_iff]
          exact unwrapped large _ (.inr rfl)
        · intro output combined
          exact absurd ⟨output, combined⟩ refuses

/-- An output of 2³² rows and columns, without data. -/
def wrappingResult : OpoiExpertResult :=
  { soleReply 0 1 "" with output := ⟨[0x100000000, 0x100000000], ""⟩ }

/-- It is accepted. -/
theorem wrapping_accepted : ¬ CombinesWell soleArithmetic [(0x3f800000, wrappingResult)] := by
  intro well
  have combined : combineWeighted soleArithmetic [(0x3f800000, wrappingResult)] =
      .ok ⟨[0x100000000, 0x100000000], ""⟩ := by
    decide
  have wellFormed := well.accepts.mp ⟨_, combined⟩
  obtain ⟨-, values, decoded, many⟩ := (wellFormed_cons_iff.mp wellFormed) _ List.mem_cons_self
  cases decoded
  exact absurd many (by decide)

end StratumBridge.Expert
