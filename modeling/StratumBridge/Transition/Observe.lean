import StratumBridge.Transition.Run

/-!
# Observations along a run

A view of the state is sampled before every event and at the end of a run; the
samples with immediate repetitions left out are the history of the view.  When
every value has one path leading to it and every step moves along these paths,
the history is the path of the last value.

An observer that remembers more than samples runs beside the system: it looks
at every step and changes nothing.
-/

namespace StratumBridge.Transition.System

universe u v w

variable {σ : Type u} {ε : Type v} {α : Type w} [DecidableEq α]

/-- Add a sample to a history, unless it repeats the last one or there is
nothing to see. -/
def note (seen : List α) : Option α → List α
  | none => seen
  | some value => if seen.getLast? = some value then seen else seen ++ [value]

/-- The states visited from `start` on. -/
def visited (sys : System σ ε) (start : σ) : List ε → List σ
  | [] => [start]
  | event :: events => start :: sys.visited (sys.next start event) events

theorem visited_snoc (sys : System σ ε) (start : σ) (events : List ε) (event : ε) :
    sys.visited start (events ++ [event]) =
      sys.visited start events ++ [sys.next (sys.execute start events) event] := by
  induction events generalizing start with
  | nil => rfl
  | cons first events ih => simp [visited, ih]

/-- The history of a view along the run of a list of events. -/
def observations (sys : System σ ε) (view : σ → Option α) (start : σ) (events : List ε) :
    List α :=
  (sys.visited start events).foldl (fun seen state => note seen (view state)) []

theorem observations_snoc (sys : System σ ε) (view : σ → Option α) (start : σ)
    (events : List ε) (event : ε) :
    sys.observations view start (events ++ [event]) =
      note (sys.observations view start events)
        (view (sys.next (sys.execute start events) event)) := by
  rw [observations, visited_snoc, List.foldl_append]
  rfl

/-- A step of a view: nothing new, or the value whose path continues that of
the value before. -/
def Moves (path : α → List α) (before after : Option α) : Prop :=
  after = before ∨
    ∃ value, after = some value ∧ path value = (before.map path).getD [] ++ [value]

omit [DecidableEq α] in
theorem getLast?_path_ne {path : α → List α} {before : Option α} {value : α}
    (last : ∀ value, (path value).getLast? = some value)
    (continues : path value = (before.map path).getD [] ++ [value]) :
    ((before.map path).getD []).getLast? ≠ some value := by
  cases before with
  | none => simp
  | some old =>
      rw [Option.map_some, Option.getD_some, last]
      intro same
      cases same
      have lengths := congrArg List.length continues
      simp at lengths

variable {sys : System σ ε} {guard : σ → ε → Prop} {start finish : σ} {events : List ε}

/-- Along a run whose steps move along the paths, the history of the view is
the path of its last value. -/
theorem RunWith.observations_eq {path : α → List α} {view : σ → Option α} {I : σ → Prop}
    (run : sys.RunWith guard start events finish)
    (last : ∀ value, (path value).getLast? = some value) (init : I start)
    (unseen : view start = none)
    (step : ∀ state event, I state → sys.enabled state event → guard state event →
      I (sys.next state event) ∧ Moves path (view state) (view (sys.next state event))) :
    sys.observations view start events = ((view finish).map path).getD [] := by
  induction run with
  | nil => simp [observations, visited, unseen, note]
  | @snoc events state event prior enabled met ih =>
      have held := prior.invariant init fun state event held enabled met =>
        (step state event held enabled met).1
      have moves := (step state event held enabled met).2
      rw [observations_snoc, ← prior.finish_eq, ih]
      rcases moves with same | ⟨value, now, continues⟩
      · rw [same]
        cases view state with
        | none => rfl
        | some value => simp [note, last]
      · rw [now, Option.map_some, Option.getD_some, continues, note,
          if_neg (getLast?_path_ne last continues)]

/-! ## Observers -/

/-- The system with an observer's record beside its state. -/
def watched {ρ : Type w} (sys : System σ ε) (look : σ → ρ → ε → ρ) : System (σ × ρ) ε where
  enabled := fun both event => sys.enabled both.1 event
  next := fun both event => (sys.next both.1 event, look both.1 both.2 event)

/-- An observer sees every run. -/
theorem RunWith.watched {ρ : Type w} (run : sys.RunWith guard start events finish)
    (look : σ → ρ → ε → ρ) (record : ρ) :
    (sys.watched look).RunWith (fun both event => guard both.1 event) (start, record) events
      (finish, ((sys.watched look).execute (start, record) events).2) := by
  induction run with
  | nil => exact .nil
  | @snoc events state event _ enabled met ih =>
      have both := RunWith.snoc ih enabled met
      rw [← both.finish_eq]
      exact both

/-- One more event, seen by an observer. -/
theorem RunWith.watched_snoc {ρ : Type w} (run : sys.RunWith guard start events finish)
    (look : σ → ρ → ε → ρ) (record : ρ) (event : ε) :
    ((sys.watched look).execute (start, record) (events ++ [event])).2 =
      look finish ((sys.watched look).execute (start, record) events).2 event := by
  have both := (run.watched look record).finish_eq
  rw [execute, List.foldl_append]
  exact congrArg (fun pair : σ × ρ => look pair.1 pair.2 event) both.symm

/-! ## Notes -/

omit [DecidableEq α]

/-- What an observer notes along a list of events, at most one thing a step. -/
def notes (sys : System σ ε) (sees : σ → ε → Option α) (start : σ) (events : List ε) : List α :=
  ((sys.watched fun state seen event => seen ++ (sees state event).toList).execute
    (start, []) events).2

/-- One more event adds what is seen in it. -/
theorem RunWith.notes_snoc (run : sys.RunWith guard start events finish)
    (sees : σ → ε → Option α) (event : ε) :
    sys.notes sees start (events ++ [event]) =
      sys.notes sees start events ++ (sees finish event).toList :=
  run.watched_snoc (fun state seen event => seen ++ (sees state event).toList) [] event

/-- The invariant rule for a state together with the notes taken so far. -/
theorem RunWith.noted {I : σ → List α → Prop} (run : sys.RunWith guard start events finish)
    (sees : σ → ε → Option α) (init : I start [])
    (step : ∀ state seen event, I state seen → sys.enabled state event → guard state event →
      I (sys.next state event) (seen ++ (sees state event).toList)) :
    I finish (sys.notes sees start events) := by
  have both := run.watched (fun state seen event => seen ++ (sees state event).toList) []
  exact both.invariant (I := fun pair => I pair.1 pair.2) init
    fun pair event held enabled met => step pair.1 pair.2 event held enabled met

end StratumBridge.Transition.System
