import StratumBridge.Transition.Run
import Mathlib.Data.List.Basic

/-!
# Systems side by side

Two systems run side by side, each on a state of its own.  A step is a step of
one of them or a step both take at once; `offers` says which steps their
surroundings allow.  A run of the pair is a run of each.
-/

namespace StratumBridge.Transition

universe u v

variable {σ τ : Type u} {ε δ : Type v}

/-- A step of one system, of the other, or of both. -/
inductive Side (ε δ : Type v)
  | left (event : ε)
  | right (event : δ)
  | both (first : ε) (second : δ)

namespace Side

/-- The part of the first system. -/
def first? : Side ε δ → Option ε
  | left event => some event
  | right _ => none
  | both first _ => some first

/-- The part of the second system. -/
def second? : Side ε δ → Option δ
  | left _ => none
  | right event => some event
  | both _ second => some second

end Side

namespace System

/-- The pair of two systems. -/
def beside (one : System σ ε) (two : System τ δ) (offers : σ × τ → Side ε δ → Prop) :
    System (σ × τ) (Side ε δ) where
  enabled := fun pair side =>
    offers pair side ∧
      match side with
      | .left event => one.enabled pair.1 event
      | .right event => two.enabled pair.2 event
      | .both first second => one.enabled pair.1 first ∧ two.enabled pair.2 second
  next := fun pair side =>
    match side with
    | .left event => (one.next pair.1 event, pair.2)
    | .right event => (pair.1, two.next pair.2 event)
    | .both first second => (one.next pair.1 first, two.next pair.2 second)

variable {one : System σ ε} {two : System τ δ} {offers : σ × τ → Side ε δ → Prop}
variable {guard : σ × τ → Side ε δ → Prop} {start finish : σ × τ} {events : List (Side ε δ)}

/-- The steps of the first system in a run of the pair. -/
theorem RunWith.first (run : (one.beside two offers).RunWith guard start events finish) :
    one.Run start.1 (events.filterMap Side.first?) finish.1 := by
  induction run with
  | nil => exact .nil
  | @snoc events pair side _ enabled _ ih =>
      rw [List.filterMap_append]
      cases side with
      | left event => exact ih.snoc enabled.2 trivial
      | right event =>
          rw [show [Side.right event].filterMap Side.first? = ([] : List ε) from rfl,
            List.append_nil]
          exact ih
      | both first second => exact ih.snoc enabled.2.1 trivial

/-- The steps of the second system in a run of the pair. -/
theorem RunWith.second (run : (one.beside two offers).RunWith guard start events finish) :
    two.Run start.2 (events.filterMap Side.second?) finish.2 := by
  induction run with
  | nil => exact .nil
  | @snoc events pair side _ enabled _ ih =>
      rw [List.filterMap_append]
      cases side with
      | left event =>
          rw [show [Side.left event].filterMap Side.second? = ([] : List δ) from rfl,
            List.append_nil]
          exact ih
      | right event => exact ih.snoc enabled.2 trivial
      | both first second => exact ih.snoc enabled.2.2 trivial

end System

end StratumBridge.Transition
