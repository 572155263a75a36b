import StratumBridge.Data.Reader

/-!
# Readers that count

A metered reader counts something it does, also where it fails.  Without the count it
is a reader.  It is thrifty when what it counts is paid for by the symbols that it
takes: one that fails has counted at most one more than there were.
-/

namespace StratumBridge.Data

variable {σ ε α β : Type}

/-- A reader that counts. -/
def Metered (σ ε α : Type) := List σ → Except ε (α × List σ) × Nat

namespace Metered

/-- The reader without the count. -/
def reader (metered : Metered σ ε α) : Reader σ ε α :=
  fun input => (metered input).1

/-- The count on an input. -/
def spent (metered : Metered σ ε α) (input : List σ) : Nat :=
  (metered input).2

/-- A reader that counts nothing. -/
def free (read : Reader σ ε α) : Metered σ ε α :=
  fun input => (read input, 0)

/-- Count once. -/
def tick : Metered σ ε Unit :=
  fun input => (.ok ((), input), 1)

instance : Monad (Metered σ ε) where
  pure value := fun input => (.ok (value, input), 0)
  bind first next := fun input =>
    match first input with
    | (.error err, spent) => (.error err, spent)
    | (.ok (value, rest), spent) => ((next value rest).1, spent + (next value rest).2)

variable {metered : Metered σ ε α} {next : α → Metered σ ε β} {read : Reader σ ε α}
variable {input rest : List σ}

/-! ## Without the count -/

@[simp]
theorem reader_pure (value : α) :
    reader (pure value : Metered σ ε α) = (pure value : Reader σ ε α) :=
  rfl

@[simp]
theorem reader_free (read : Reader σ ε α) : (free read).reader = read :=
  rfl

@[simp]
theorem reader_tick : (tick : Metered σ ε Unit).reader = (pure () : Reader σ ε Unit) :=
  rfl

theorem reader_bind (metered : Metered σ ε α) (next : α → Metered σ ε β) :
    (metered >>= next).reader = metered.reader >>= fun value => (next value).reader := by
  funext input
  simp only [reader, bind, StateT.bind]
  rcases metered input with ⟨outcome, count⟩
  cases outcome with
  | error err => rfl
  | ok result => rfl

/-! ## The count of a sequence -/

theorem spent_bind_of_error {err : ε} (failed : metered.reader input = .error err) :
    (metered >>= next).spent input = metered.spent input := by
  simp only [reader] at failed
  simp only [spent, bind]
  rcases result : metered input with ⟨outcome, count⟩
  rw [result] at failed
  cases failed
  rfl

theorem spent_bind_of_ok {value : α} (done : metered.reader input = .ok (value, rest)) :
    (metered >>= next).spent input = metered.spent input + (next value).spent rest := by
  simp only [reader] at done
  simp only [spent, bind]
  rcases result : metered input with ⟨outcome, count⟩
  rw [result] at done
  cases done
  rfl

/-- What follows is the same, and counts the same, if it is so on what is left. -/
theorem bind_congr_of_ok {other : α → Metered σ ε β}
    (same : ∀ value rest, metered.reader input = .ok (value, rest) →
      next value rest = other value rest) :
    (metered >>= next) input = (metered >>= other) input := by
  simp only [reader] at same
  simp only [bind]
  rcases result : metered input with ⟨outcome, count⟩
  rw [result] at same
  cases outcome with
  | error err => rfl
  | ok pair =>
      rcases pair with ⟨value, rest⟩
      simp only [same value rest rfl]

/-! ## Thrift -/

/-- What is counted and what is owed are paid for by the symbols taken; a failure may
leave one unpaid. -/
structure Thrifty (owed : Nat) (metered : Metered σ ε α) : Prop where
  ok : ∀ input value rest, metered.reader input = .ok (value, rest) →
    metered.spent input + owed + rest.length ≤ input.length
  error : ∀ input err, metered.reader input = .error err →
    metered.spent input + owed ≤ input.length + 1

namespace Thrifty

variable {owed more : Nat}

theorem pure (value : α) : Thrifty 0 (pure value : Metered σ ε α) where
  ok input held rest done := by
    cases done
    exact Nat.le_of_eq (Nat.zero_add _)
  error input err failed := by cases failed

/-- A reader that takes as much as is owed, unless it fails. -/
theorem free (takes : Takes owed read) (little : owed ≤ 1) :
    Thrifty owed (Metered.free read) where
  ok input value rest done := by
    have enough := takes input value rest done
    simp only [spent, Metered.free]
    omega
  error input err failed := by
    simp only [spent, Metered.free]
    omega

theorem bind (first : Thrifty owed metered) (second : ∀ value, Thrifty 0 (next value)) :
    Thrifty owed (metered >>= next) where
  ok input value rest done := by
    rw [reader_bind] at done
    obtain ⟨held, left, taken, later⟩ := exists_of_bind_eq_ok done
    have paid := first.ok input held left taken
    have alsoPaid := (second held).ok left value rest later
    rw [spent_bind_of_ok taken]
    omega
  error input err failed := by
    cases taken : metered.reader input with
    | error other =>
        rw [spent_bind_of_error taken]
        exact first.error input other taken
    | ok result =>
        rcases result with ⟨held, left⟩
        rw [reader_bind, bind_eq_of_ok taken] at failed
        have paid := first.ok input held left taken
        have last := (second held).error left err failed
        rw [spent_bind_of_ok taken]
        omega

/-- What pays for one more can be counted. -/
theorem tick {next : Unit → Metered σ ε α} (thrifty : Thrifty (owed + 1) (next ())) :
    Thrifty owed (Metered.tick >>= next) where
  ok input value rest done := by
    rw [reader_bind] at done
    have paid := thrifty.ok input value rest done
    have ticked : (Metered.tick : Metered σ ε Unit).reader input = .ok ((), input) := rfl
    rw [spent_bind_of_ok ticked, spent, Metered.tick]
    omega
  error input err failed := by
    rw [reader_bind] at failed
    have last := thrifty.error input err failed
    have ticked : (Metered.tick : Metered σ ε Unit).reader input = .ok ((), input) := rfl
    rw [spent_bind_of_ok ticked, spent, Metered.tick]
    omega

end Thrifty

end Metered

end StratumBridge.Data
