import Mathlib.Data.List.Basic

/-!
# Files of settings

A file of settings is scanned line by line: a line sets a key, says nothing, or
stops the scan.  What a line says may depend on the lines before it.  The first
setting of a key counts.
-/

namespace StratumBridge.Data

universe u v w x

variable {σ : Type u} {Line : Type v} {κ : Type w} {α : Type x}

/-- What a line says. -/
inductive Reading (κ : Type w) (α : Type x)
  | skipped
  | sets (key : κ) (value : α)
  | malformed
  deriving DecidableEq

/-- The line leaves the key to the lines after it. -/
def Reading.Passes (key : κ) : Reading κ α → Prop
  | skipped => True
  | sets other _ => other ≠ key
  | malformed => False

/-- What the lines say, one after the other. -/
def readings (scan : σ → Line → σ × Reading κ α) : σ → List Line → List (Reading κ α)
  | _, [] => []
  | state, line :: rest => (scan state line).2 :: readings scan (scan state line).1 rest

/-- Where the scan stands behind the lines. -/
def scanned (scan : σ → Line → σ × Reading κ α) (state : σ) (lines : List Line) : σ :=
  lines.foldl (fun state line => (scan state line).1) state

variable [DecidableEq κ]

/-- The first setting of a key. -/
def firstSetting (key : κ) : List (Reading κ α) → Option α
  | [] => none
  | .skipped :: rest => firstSetting key rest
  | .sets other value :: rest => if other = key then some value else firstSetting key rest
  | .malformed :: _ => none

/-- The value a file gives to a key. -/
def setting (scan : σ → Line → σ × Reading κ α) (state : σ) (lines : List Line) (key : κ) :
    Option α :=
  firstSetting key (readings scan state lines)

variable {scan : σ → Line → σ × Reading κ α} {state : σ} {lines : List Line} {key : κ}
  {value : α}

theorem setting_cons_of_passes {line : Line} (passes : (scan state line).2.Passes key) :
    setting scan state (line :: lines) key = setting scan (scan state line).1 lines key := by
  rw [setting, readings]
  cases said : (scan state line).2 with
  | skipped => rfl
  | sets other value =>
      rw [said] at passes
      exact if_neg passes
  | malformed =>
      rw [said] at passes
      exact passes.elim

theorem setting_cons_of_sets {line : Line} (sets : (scan state line).2 = .sets key value) :
    setting scan state (line :: lines) key = some value := by
  rw [setting, readings, sets]
  exact if_pos rfl

/-- A line that does not leave the key to the others sets it or stops the scan. -/
theorem setting_cons_eq_some {line : Line}
    (found : setting scan state (line :: lines) key = some value) :
    (scan state line).2 = .sets key value ∨
      (scan state line).2.Passes key ∧ setting scan (scan state line).1 lines key = some value := by
  rw [setting, readings] at found
  cases said : (scan state line).2 with
  | skipped =>
      rw [said] at found
      exact .inr ⟨trivial, found⟩
  | sets other held =>
      rw [said] at found
      by_cases same : other = key
      · subst same
        rw [firstSetting, if_pos rfl] at found
        cases found
        exact .inl rfl
      · rw [firstSetting, if_neg same] at found
        exact .inr ⟨same, found⟩
  | malformed =>
      rw [said] at found
      cases found

/-- Behind items that leave the key to the lines after them, an item sets it. -/
def SetsFirst {γ : Type u} (scan : σ → Line → σ × Reading κ α) (state : σ) (render : γ → Line)
    (items : List γ) (key : κ) (value : α) : Prop :=
  ∃ before item after, items = before ++ item :: after ∧
    (∀ said ∈ readings scan state (before.map render), said.Passes key) ∧
    (scan (scanned scan state (before.map render)) (render item)).2 = .sets key value

/-- What a file that is written item by item says about a key. -/
theorem setting_map_eq_some_iff {γ : Type u} {render : γ → Line} {items : List γ} :
    setting scan state (items.map render) key = some value ↔
      SetsFirst scan state render items key value := by
  induction items generalizing state with
  | nil => simp [setting, readings, firstSetting, SetsFirst]
  | cons first rest ih =>
      constructor
      · intro found
        rcases setting_cons_eq_some found with sets | ⟨passes, later⟩
        · refine ⟨[], first, rest, rfl, ?_, sets⟩
          intro said mem
          cases mem
        · obtain ⟨before, item, after, split, passed, sets⟩ := ih.mp later
          refine ⟨first :: before, item, after, by rw [split]; rfl, ?_, sets⟩
          intro said mem
          rcases List.mem_cons.mp mem with rfl | mem
          · exact passes
          · exact passed said mem
      · rintro ⟨before, item, after, split, passed, sets⟩
        cases before with
        | nil =>
            cases split
            exact setting_cons_of_sets sets
        | cons head before =>
            cases split
            rw [List.map_cons, setting_cons_of_passes (passed _ List.mem_cons_self), ih]
            exact ⟨before, item, after, rfl,
              fun said mem => passed said (List.mem_cons_of_mem _ mem), sets⟩

end StratumBridge.Data
