import Mathlib.Data.List.Basic

/-!
# Readers and what they read

A reader takes symbols from the front of its input or fails.  A grammar says which
words stand for a value.  A reader may be exact for a grammar on short inputs only:
one that goes as deep as its input is long is so at every depth, and each symbol that
was taken leaves a depth less for what follows.

A reader is steady when more input matters only to an input that was too short.
-/

namespace StratumBridge.Data

variable {σ ε α β : Type}

/-- A function that takes symbols from the front of a list, or fails. -/
abbrev Reader (σ ε α : Type) := StateT (List σ) (Except ε) α

/-- The words that stand for a value. -/
abbrev Grammar (σ α : Type) := α → List σ → Prop

variable {read : Reader σ ε α} {input rest : List σ}

/-! ## Sequencing -/

theorem bind_eq_of_error {next : α → Reader σ ε β} {err : ε}
    (failed : read input = .error err) : (read >>= next) input = .error err := by
  simp only [bind, StateT.bind, failed, Except.bind]

theorem exists_of_bind_eq_ok {next : α → Reader σ ε β} {value : β}
    (ok : (read >>= next) input = .ok (value, rest)) :
    ∃ first left, read input = .ok (first, left) ∧ next first left = .ok (value, rest) := by
  cases done : read input with
  | error err =>
      rw [bind_eq_of_error done] at ok
      cases ok
  | ok result =>
      rcases result with ⟨first, left⟩
      have step : (read >>= next) input = next first left := by
        simp only [bind, StateT.bind, done, Except.bind]
      exact ⟨first, left, rfl, step.symm.trans ok⟩

theorem bind_eq_of_ok {next : α → Reader σ ε β} {first : α} {left : List σ}
    (done : read input = .ok (first, left)) : (read >>= next) input = next first left := by
  simp only [bind, StateT.bind, done, Except.bind]

theorem bind_congr_of_ok {next other : α → Reader σ ε β}
    (same : ∀ first left, read input = .ok (first, left) → next first left = other first left) :
    (read >>= next) input = (read >>= other) input := by
  cases done : read input with
  | error err => simp only [bind, StateT.bind, done, Except.bind]
  | ok result =>
      rcases result with ⟨first, left⟩
      rw [bind_eq_of_ok done, bind_eq_of_ok done]
      exact same first left done

/-- What is read leaves no more symbols than there were. -/
def Shrinks (read : Reader σ ε α) : Prop :=
  ∀ input value rest, read input = .ok (value, rest) → rest.length ≤ input.length

theorem Shrinks.pure (value : α) : Shrinks (return value : Reader σ ε α) := by
  intro input held rest ok
  cases ok
  exact Nat.le_refl _

theorem Shrinks.throw (err : ε) : Shrinks (throw err : Reader σ ε α) := by
  intro input value rest ok
  cases ok

theorem Shrinks.bind {next : α → Reader σ ε β} (first : Shrinks read)
    (second : ∀ value, Shrinks (next value)) : Shrinks (read >>= next) := by
  intro input value rest ok
  obtain ⟨held, left, done, ok⟩ := exists_of_bind_eq_ok ok
  exact Nat.le_trans (second held left value rest ok) (first input held left done)

/-- What is read takes at least so many symbols. -/
def Takes (count : Nat) (read : Reader σ ε α) : Prop :=
  ∀ input value rest, read input = .ok (value, rest) → count + rest.length ≤ input.length

theorem Shrinks.takes (shrinks : Shrinks read) : Takes 0 read := by
  intro input value rest ok
  rw [Nat.zero_add]
  exact shrinks input value rest ok

theorem Takes.throw (count : Nat) (err : ε) : Takes count (throw err : Reader σ ε α) := by
  intro input value rest ok
  cases ok

theorem Takes.bind {count : Nat} {next : α → Reader σ ε β} (first : Takes count read)
    (second : ∀ value, Shrinks (next value)) : Takes count (read >>= next) := by
  intro input value rest ok
  obtain ⟨held, left, done, ok⟩ := exists_of_bind_eq_ok ok
  exact Nat.le_trans (Nat.add_le_add_left (second held left value rest ok) count)
    (first input held left done)

/-! ## Longer inputs -/

/-- More input changes nothing, except where the reader ran out of it. -/
structure Steady (short : ε) (read : Reader σ ε α) : Prop where
  ok : ∀ input more value rest, read input = .ok (value, rest) →
    read (input ++ more) = .ok (value, rest ++ more)
  error : ∀ input more err, read input = .error err → err ≠ short →
    read (input ++ more) = .error err

namespace Steady

variable {short : ε}

theorem pure (value : α) : Steady short (return value : Reader σ ε α) where
  ok _ _ _ _ done := by cases done; rfl
  error _ _ _ failed _ := by cases failed

theorem throw (err : ε) : Steady short (throw err : Reader σ ε α) where
  ok _ _ _ _ done := by cases done
  error _ _ _ failed _ := by cases failed; rfl

theorem bind {next : α → Reader σ ε β} (first : Steady short read)
    (second : ∀ value, Steady short (next value)) : Steady short (read >>= next) where
  ok input more value rest done := by
    obtain ⟨held, left, taken, later⟩ := exists_of_bind_eq_ok done
    rw [bind_eq_of_ok (first.ok input more held left taken)]
    exact (second held).ok left more value rest later
  error input more err failed ne := by
    cases done : read input with
    | error other =>
        rw [bind_eq_of_error done] at failed
        cases failed
        exact bind_eq_of_error (first.error input more err done ne)
    | ok result =>
        rcases result with ⟨held, left⟩
        rw [bind_eq_of_ok done] at failed
        rw [bind_eq_of_ok (first.ok input more held left done)]
        exact (second held).error left more err failed ne

/-- An input that ends before all that is read has been seen is too short. -/
theorem truncate (steady : Steady short read) {value : α} {count : Nat}
    (done : read input = .ok (value, rest)) (early : count + rest.length < input.length) :
    read (input.take count) = .error short := by
  have whole : input.take count ++ input.drop count = input := List.take_append_drop count input
  cases cut : read (input.take count) with
  | ok result =>
      rcases result with ⟨held, left⟩
      have again := steady.ok _ (input.drop count) held left cut
      rw [whole, done] at again
      cases again
      rw [List.length_append, List.length_drop] at early
      omega
  | error err =>
      by_contra ne
      have other : err ≠ short := fun same => ne (congrArg Except.error same)
      have again := steady.error _ (input.drop count) err cut other
      rw [whole, done] at again
      cases again

end Steady

/-! ## Grammars -/

namespace Grammar

/-- The empty word stands for one value. -/
def empty (value : α) : Grammar σ α :=
  fun held word => held = value ∧ word = []

/-- No word stands for anything. -/
def never : Grammar σ α :=
  fun _ _ => False

/-- A word of one grammar before a word of another, which may depend on its value. -/
def andThen (first : Grammar σ α) (second : α → Grammar σ β) : Grammar σ β :=
  fun value word => ∃ held front back, first held front ∧ second held value back ∧
    word = front ++ back

end Grammar

/-- From inputs shorter than a bound, the reader takes the words of the grammar and
nothing else. -/
def ReadsBelow (bound : Nat) (read : Reader σ ε α) (words : Grammar σ α) : Prop :=
  ∀ input value rest, input.length < bound →
    (read input = .ok (value, rest) ↔ ∃ word, words value word ∧ input = word ++ rest)

namespace ReadsBelow

variable {words other : Grammar σ α} {bound : Nat}

theorem congr (reads : ReadsBelow bound read words)
    (same : ∀ value word, words value word ↔ other value word) :
    ReadsBelow bound read other := by
  intro input value rest short
  rw [reads input value rest short]
  exact exists_congr fun word => and_congr_left' (same value word)

theorem mono {larger : Nat} (reads : ReadsBelow larger read words) (le : bound ≤ larger) :
    ReadsBelow bound read words :=
  fun input value rest short => reads input value rest (Nat.lt_of_lt_of_le short le)

theorem pure (value : α) : ReadsBelow bound (return value : Reader σ ε α) (.empty value) := by
  intro input held rest _
  constructor
  · intro ok
    cases ok
    exact ⟨[], ⟨rfl, rfl⟩, rfl⟩
  · rintro ⟨word, ⟨rfl, rfl⟩, rfl⟩
    rfl

theorem throw (err : ε) : ReadsBelow bound (throw err : Reader σ ε α) .never := by
  intro input value rest _
  constructor
  · intro ok
    cases ok
  · rintro ⟨word, never, -⟩
    exact never.elim

/-- What follows a word that is long enough is read from a shorter input. -/
theorem bind_of_long (gain : Nat) {next : α → Reader σ ε β} {more : α → Grammar σ β}
    (first : ReadsBelow (bound + gain) read words)
    (long : ∀ value word, words value word → gain ≤ word.length)
    (second : ∀ value, ReadsBelow bound (next value) (more value)) :
    ReadsBelow (bound + gain) (read >>= next) (words.andThen more) := by
  intro input value rest short
  constructor
  · intro ok
    obtain ⟨held, left, done, later⟩ := exists_of_bind_eq_ok ok
    obtain ⟨front, listed, rfl⟩ := (first input held left short).mp done
    have enough := long held front listed
    rw [List.length_append] at short
    have shorter : left.length < bound := by omega
    obtain ⟨back, alsoListed, rfl⟩ := (second held left value rest shorter).mp later
    exact ⟨front ++ back, ⟨held, front, back, listed, alsoListed, rfl⟩,
      (List.append_assoc ..).symm⟩
  · rintro ⟨word, ⟨held, front, back, listed, alsoListed, rfl⟩, rfl⟩
    have enough := long held front listed
    rw [List.append_assoc] at short ⊢
    have done := (first _ held (back ++ rest) short).mpr ⟨front, listed, rfl⟩
    rw [bind_eq_of_ok done]
    rw [List.length_append] at short
    have shorter : (back ++ rest).length < bound := by omega
    exact (second held _ value rest shorter).mpr ⟨back, alsoListed, rfl⟩

theorem bind {next : α → Reader σ ε β} {more : α → Grammar σ β}
    (first : ReadsBelow bound read words)
    (second : ∀ value, ReadsBelow bound (next value) (more value)) :
    ReadsBelow bound (read >>= next) (words.andThen more) :=
  bind_of_long 0 first (fun _ _ _ => Nat.zero_le _) second

end ReadsBelow

end StratumBridge.Data
