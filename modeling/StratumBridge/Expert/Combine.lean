import StratumBridge.Wire.Codec
import Mathlib.Data.List.GetD

/-!
# The router-weighted sum

`combine_weighted` over uninterpreted `f32` arithmetic.  Its buffer is allocated
for the shape the first reply claims, before any reply is looked at.  A buffer whose
size in bytes is an `isize` is taken to be granted here; what is said of the callers is
said where it is no larger than what they received.
-/

namespace StratumBridge.Expert

open Wire

/-- The two `f32` operations of the weighted sum. -/
structure Arithmetic where
  add : F32 → F32 → F32
  mul : F32 → F32 → F32

/-- Why outputs cannot be combined. -/
inductive CombineError
  | noOutputs
  | shapeMismatch (expertId : Nat) (shape group : List Nat)
  | undecodable (dataHex : String)
  | wrongLength (expertId floats : Nat) (shape : List Nat) (expected : Nat)
  deriving DecidableEq

/-- A call either returns or panics. -/
inductive Combined
  | ok (output : ExpertOutputWire)
  | error (error : CombineError)
  | panicked
  deriving DecidableEq

/-- The product of the dimensions, as `usize` computes it. -/
def expectedLen (shape : List Nat) : Nat :=
  shape.prod % 2 ^ 64

/-- The most `f32`s a vector can have room for: `isize::MAX` bytes. -/
def maxFloats : Nat :=
  (2 ^ 63 - 1) / 4

/-- Add one weighted output to the buffer. -/
def accumulate (arith : Arithmetic) (acc : List F32) (weight : F32) (values : List F32) :
    List F32 :=
  List.zipWith (fun sum value => arith.add sum (arith.mul weight value)) acc values

/-- The loop over the outputs. -/
def combineInto (arith : Arithmetic) (shape : List Nat) :
    List (F32 × OpoiExpertResult) → List F32 → Except CombineError (List F32)
  | [], acc => .ok acc
  | (weight, result) :: rest, acc =>
      if result.output.shape ≠ shape then
        .error (.shapeMismatch result.expertId result.output.shape shape)
      else
        match hexToF32 result.output.dataHex with
        | none => .error (.undecodable result.output.dataHex)
        | some values =>
            if values.length ≠ expectedLen shape then
              .error (.wrongLength result.expertId values.length shape (expectedLen shape))
            else
              combineInto arith shape rest (accumulate arith acc weight values)

/-- `combine_weighted`. -/
def combineWeighted (arith : Arithmetic) (outcomes : List (F32 × OpoiExpertResult)) : Combined :=
  match outcomes with
  | [] => .error .noOutputs
  | (_, first) :: _ =>
      let shape := first.output.shape
      -- `vec![0f32; expected_len]` panics when its size in bytes is no `isize`
      if maxFloats < expectedLen shape then
        .panicked
      else
        match combineInto arith shape outcomes (List.replicate (expectedLen shape) 0) with
        | .ok acc => .ok ⟨shape, f32ToHex acc⟩
        | .error error => .error error

/-! ## The sum -/

/-- The sum of weighted tensors of one length, each element from left to right. -/
def weightedSum (arith : Arithmetic) (length : Nat) (terms : List (F32 × List F32)) : List F32 :=
  (List.range length).map fun index =>
    terms.foldl (fun sum term => arith.add sum (arith.mul term.1 (term.2.getD index 0))) 0

/-- The weight and the decoded tensor of an output. -/
def term (outcome : F32 × OpoiExpertResult) : F32 × List F32 :=
  (outcome.1, (hexToF32 outcome.2.output.dataHex).getD [])

/-- An output of the given shape: its payload decodes to as many floats as the
shape calls for. -/
structure Fits (shape : List Nat) (result : OpoiExpertResult) : Prop where
  sameShape : result.output.shape = shape
  decodes : ∃ values, hexToF32 result.output.dataHex = some values ∧
    values.length = expectedLen shape

/-- The weighted sum of outputs of one shape. -/
def weightedOutput (arith : Arithmetic) (outcomes : List (F32 × OpoiExpertResult)) :
    ExpertOutputWire :=
  let shape := (outcomes.head?.map fun outcome => outcome.2.output.shape).getD []
  ⟨shape, f32ToHex (weightedSum arith (expectedLen shape) (outcomes.map term))⟩

variable {arith : Arithmetic} {shape : List Nat} {acc total : List F32}
  {outcomes : List (F32 × OpoiExpertResult)}

theorem length_accumulate {weight : F32} {values : List F32} (same : values.length = acc.length) :
    (accumulate arith acc weight values).length = acc.length := by
  simp [accumulate, same]

theorem getD_accumulate {weight : F32} {values : List F32} (same : values.length = acc.length)
    {index : Nat} (inside : index < acc.length) :
    (accumulate arith acc weight values).getD index 0 =
      arith.add (acc.getD index 0) (arith.mul weight (values.getD index 0)) := by
  have inValues : index < values.length := same ▸ inside
  have inResult : index < (accumulate arith acc weight values).length :=
    (length_accumulate same).symm ▸ inside
  rw [List.getD_eq_getElem _ _ inResult, List.getD_eq_getElem _ _ inside,
    List.getD_eq_getElem _ _ inValues]
  simp [accumulate]

/-- What the loop computes, element by element, when it gets through. -/
theorem combineInto_eq_ok (room : acc.length = expectedLen shape)
    (combined : combineInto arith shape outcomes acc = .ok total) :
    (∀ outcome ∈ outcomes, Fits shape outcome.2) ∧
      total = (List.range acc.length).map fun index =>
        (outcomes.map term).foldl
          (fun sum term => arith.add sum (arith.mul term.1 (term.2.getD index 0)))
          (acc.getD index 0) := by
  induction outcomes generalizing acc with
  | nil =>
      rw [combineInto] at combined
      cases combined
      constructor
      · simp
      · apply List.ext_getElem
        · simp
        · intro index inTotal _
          simp [inTotal]
  | cons outcome rest ih =>
      rcases outcome with ⟨weight, result⟩
      rw [combineInto] at combined
      by_cases sameShape : result.output.shape = shape
      · rw [if_neg (not_not_intro sameShape)] at combined
        cases decoded : hexToF32 result.output.dataHex with
        | none => simp [decoded] at combined
        | some values =>
            simp only [decoded] at combined
            by_cases sameLength : values.length = expectedLen shape
            · rw [if_neg (not_not_intro sameLength)] at combined
              have same : values.length = acc.length := sameLength.trans room.symm
              obtain ⟨fits, sum⟩ := ih ((length_accumulate same).trans room) combined
              constructor
              · intro each mem
                rcases List.mem_cons.mp mem with rfl | inRest
                · exact ⟨sameShape, values, decoded, sameLength⟩
                · exact fits each inRest
              · rw [sum, length_accumulate same]
                apply List.map_congr_left
                intro index inside
                rw [getD_accumulate same (List.mem_range.mp inside), List.map_cons,
                  List.foldl_cons, term, decoded]
                rfl
            · simp [sameLength] at combined
      · simp [sameShape] at combined

/-- A combined output is the weighted sum of its terms, all of its shape. -/
theorem combineWeighted_eq_ok {output : ExpertOutputWire}
    (combined : combineWeighted arith outcomes = .ok output) :
    (∀ outcome ∈ outcomes, Fits output.shape outcome.2) ∧
      output = weightedOutput arith outcomes := by
  cases outcomes with
  | nil => simp [combineWeighted] at combined
  | cons outcome rest =>
      rcases outcome with ⟨weight, first⟩
      simp only [combineWeighted] at combined
      split at combined
      · cases combined
      · cases sum : combineInto arith first.output.shape ((weight, first) :: rest)
            (List.replicate (expectedLen first.output.shape) 0) with
        | error error => simp [sum] at combined
        | ok total =>
            simp only [sum, Combined.ok.injEq] at combined
            subst combined
            obtain ⟨fits, rfl⟩ := combineInto_eq_ok (List.length_replicate ..) sum
            refine ⟨fits, ?_⟩
            rw [weightedOutput, List.head?_cons, Option.map_some, Option.getD_some]
            apply congrArg fun sum => ExpertOutputWire.mk first.output.shape (f32ToHex sum)
            rw [weightedSum, List.length_replicate]
            apply List.map_congr_left
            intro index inside
            rw [List.getD_replicate _ (List.mem_range.mp inside)]

/-- The buffer for the shape that the first output claims can be allocated. -/
def Allocates : List (F32 × OpoiExpertResult) → Prop
  | [] => True
  | (_, first) :: _ => expectedLen first.output.shape ≤ maxFloats

/-- Nothing but the allocation panics. -/
theorem combineWeighted_ne_panicked_iff :
    combineWeighted arith outcomes ≠ .panicked ↔ Allocates outcomes := by
  cases outcomes with
  | nil => simp [combineWeighted, Allocates]
  | cons outcome rest =>
      rcases outcome with ⟨weight, first⟩
      simp only [combineWeighted, Allocates]
      by_cases fits : maxFloats < expectedLen first.output.shape
      · simp [fits, Nat.not_le.mpr fits]
      · rw [if_neg fits]
        cases combineInto arith first.output.shape ((weight, first) :: rest)
            (List.replicate (expectedLen first.output.shape) 0) with
        | error error => simp [Nat.le_of_not_lt fits]
        | ok total => simp [Nat.le_of_not_lt fits]

end StratumBridge.Expert
