import Mathlib.Data.List.Basic
import Mathlib.Logic.Relation

/-!
# Runs of event-driven systems

A system is a state type together with an update for every event and a
predicate saying which events its environment may offer.  Runs are finite
sequences of offered events.  Every run carries a guard: a condition that each
of its steps meets before it is taken, so that results about restricted
environments and results about all environments are instances of one rule.
-/

namespace StratumBridge.Transition

universe u v w

/-- A deterministic update for each event, with the environment's choice of
events limited by `enabled`. -/
structure System (σ : Type u) (ε : Type v) where
  enabled : σ → ε → Prop
  next : σ → ε → σ

namespace System

variable {σ : Type u} {ε : Type v} {τ : Type w}

/-- A finite run whose every step is enabled and meets `guard` in the state it
is taken from. -/
inductive RunWith (sys : System σ ε) (guard : σ → ε → Prop) (start : σ) :
    List ε → σ → Prop
  | nil : RunWith sys guard start [] start
  | snoc {events : List ε} {state : σ} {event : ε} :
      RunWith sys guard start events state → sys.enabled state event →
      guard state event →
      RunWith sys guard start (events ++ [event]) (sys.next state event)

/-- A run of the unrestricted environment. -/
abbrev Run (sys : System σ ε) (start : σ) (events : List ε) (finish : σ) : Prop :=
  sys.RunWith (fun _ _ => True) start events finish

variable {sys : System σ ε} {guard : σ → ε → Prop} {start finish : σ} {events : List ε}

/-- The invariant rule: what holds initially and is kept by every guarded step
holds at the end of every guarded run. -/
theorem RunWith.invariant {I : σ → Prop} (run : sys.RunWith guard start events finish)
    (init : I start)
    (step : ∀ state event, I state → sys.enabled state event → guard state event →
      I (sys.next state event)) : I finish := by
  induction run with
  | nil => exact init
  | snoc _ enabled met kept => exact step _ _ kept enabled met

/-- A guard may be weakened. -/
theorem RunWith.mono {weaker : σ → ε → Prop} (run : sys.RunWith guard start events finish)
    (weaken : ∀ state event, guard state event → weaker state event) :
    sys.RunWith weaker start events finish := by
  induction run with
  | nil => exact .nil
  | snoc _ enabled met ih => exact ih.snoc enabled (weaken _ _ met)

/-- A guard may be replaced by one that follows from it while an invariant
holds. -/
theorem RunWith.strengthen {stronger : σ → ε → Prop} {I : σ → Prop}
    (run : sys.RunWith guard start events finish) (init : I start)
    (step : ∀ state event, I state → sys.enabled state event → guard state event →
      I (sys.next state event) ∧ stronger state event) :
    sys.RunWith stronger start events finish := by
  have both : sys.RunWith stronger start events finish ∧ I finish := by
    induction run with
    | nil => exact ⟨.nil, init⟩
    | snoc _ enabled met ih =>
        have now := step _ _ ih.2 enabled met
        exact ⟨ih.1.snoc enabled now.2, now.1⟩
  exact both.1

/-- The ranking rule: a run is no longer than what every step takes from a rank. -/
theorem RunWith.length_add_rank_le {I : σ → Prop}
    (run : sys.RunWith guard start events finish) (rank : σ → Nat) (init : I start)
    (step : ∀ state event, I state → sys.enabled state event → guard state event →
      I (sys.next state event) ∧ rank (sys.next state event) < rank state) :
    events.length + rank finish ≤ rank start := by
  have both : events.length + rank finish ≤ rank start ∧ I finish := by
    induction run with
    | nil => exact ⟨Nat.le_of_eq (Nat.zero_add _), init⟩
    | snoc _ enabled met ih =>
        rcases ih with ⟨enough, held⟩
        obtain ⟨kept, less⟩ := step _ _ held enabled met
        rw [List.length_append, List.length_singleton]
        exact ⟨by omega, kept⟩
  exact both.1

/-- Forgetting the guard. -/
theorem RunWith.run (run : sys.RunWith guard start events finish) :
    sys.Run start events finish :=
  run.mono fun _ _ _ => trivial

/-- One more event, to a state that it is known to lead to. -/
theorem RunWith.snoc_to {after : σ} (run : sys.RunWith guard start events finish) (event : ε)
    (enabled : sys.enabled finish event) (met : guard finish event)
    (leads : sys.next finish event = after) :
    sys.RunWith guard start (events ++ [event]) after := by
  rw [← leads]
  exact run.snoc enabled met

/-- Runs compose. -/
theorem RunWith.append {later : List ε} {last : σ}
    (first : sys.RunWith guard start events finish)
    (second : sys.RunWith guard finish later last) :
    sys.RunWith guard start (events ++ later) last := by
  induction second with
  | nil => simpa using first
  | snoc _ enabled met ih =>
      rw [← List.append_assoc]
      exact ih.snoc enabled met

/-! ## Executing a list of events -/

/-- Apply a list of events in order. -/
def execute (sys : System σ ε) (start : σ) (events : List ε) : σ :=
  events.foldl sys.next start

@[simp]
theorem execute_nil (sys : System σ ε) (start : σ) : sys.execute start [] = start :=
  rfl

@[simp]
theorem execute_cons (sys : System σ ε) (start : σ) (event : ε) (events : List ε) :
    sys.execute start (event :: events) = sys.execute (sys.next start event) events :=
  rfl

theorem execute_append (sys : System σ ε) (start : σ) (events later : List ε) :
    sys.execute start (events ++ later) = sys.execute (sys.execute start events) later :=
  List.foldl_append

/-- Every event of the list is enabled and meets the guard when its turn
comes. -/
def Admits (sys : System σ ε) (guard : σ → ε → Prop) : σ → List ε → Prop
  | _, [] => True
  | state, event :: events =>
      (sys.enabled state event ∧ guard state event) ∧
        sys.Admits guard (sys.next state event) events

@[simp]
theorem admits_nil (sys : System σ ε) (guard : σ → ε → Prop) (state : σ) :
    sys.Admits guard state [] :=
  trivial

@[simp]
theorem admits_cons (sys : System σ ε) (guard : σ → ε → Prop) (state : σ) (event : ε)
    (events : List ε) :
    sys.Admits guard state (event :: events) ↔
      (sys.enabled state event ∧ guard state event) ∧
        sys.Admits guard (sys.next state event) events :=
  Iff.rfl

/-- An admitted list of events is a run to the state its execution reaches. -/
theorem Admits.runWith {state : σ} (admitted : sys.Admits guard state events) :
    sys.RunWith guard state events (sys.execute state events) := by
  induction events generalizing state with
  | nil => exact .nil
  | cons event events ih =>
      have first : sys.RunWith guard state [event] (sys.next state event) :=
        RunWith.nil.snoc admitted.1.1 admitted.1.2
      exact first.append (ih admitted.2)

/-- A guard that the events of a list meet in every state can be added. -/
theorem Admits.guarded {state : σ} (admitted : sys.Admits (fun _ _ => True) state events)
    (met : ∀ state, ∀ event ∈ events, guard state event) : sys.Admits guard state events := by
  induction events generalizing state with
  | nil => trivial
  | cons event events ih =>
      constructor
      · exact ⟨admitted.1.1, met state event List.mem_cons_self⟩
      · exact ih admitted.2 fun state event mem => met state event (List.mem_cons_of_mem _ mem)

/-- The final state of a run is the execution of its events. -/
theorem RunWith.finish_eq (run : sys.RunWith guard start events finish) :
    finish = sys.execute start events := by
  induction run with
  | nil => rfl
  | snoc _ _ _ ih => simp [execute, List.foldl_append, ih]

/-! ## Steps of a run -/

/-- The event is one of the list, and `state` is the state it is taken from. -/
def Taken (sys : System σ ε) (start : σ) (events : List ε) (state : σ) (event : ε) : Prop :=
  ∃ earlier later, events = earlier ++ event :: later ∧ sys.Run start earlier state

/-- The steps of a longer run: those before, and the last. -/
theorem taken_snoc_iff {state : σ} {event last : ε} :
    sys.Taken start (events ++ [last]) state event ↔
      sys.Taken start events state event ∨ event = last ∧ sys.Run start events state := by
  constructor
  · rintro ⟨earlier, later, split, run⟩
    rcases List.eq_nil_or_concat later with rfl | ⟨between, final, rfl⟩
    · obtain ⟨rfl, same⟩ := List.append_inj' split rfl
      exact .inr ⟨(List.singleton_inj.mp same).symm, run⟩
    · rw [List.concat_eq_append, ← List.cons_append, ← List.append_assoc] at split
      exact .inl ⟨earlier, between, (List.append_inj' split rfl).1, run⟩
  · rintro (⟨earlier, later, rfl, run⟩ | ⟨rfl, run⟩)
    · exact ⟨earlier, later ++ [last], by simp, run⟩
    · exact ⟨events, [], rfl, run⟩

/-! ## Projections -/

/-- Guarded runs project to guarded runs of another system: while `I` holds,
every guarded step is a guarded step of the image. -/
theorem RunWith.project {δ : Type w} {ρ : Type u} {image : System ρ δ} {seen : ρ → δ → Prop}
    {I : σ → Prop} (run : sys.RunWith guard start events finish) (project : σ → ρ)
    (init : I start)
    (step : ∀ state event, I state → sys.enabled state event → guard state event →
      I (sys.next state event) ∧ ∃ observed, image.enabled (project state) observed ∧
        seen (project state) observed ∧
        project (sys.next state event) = image.next (project state) observed) :
    ∃ observed, image.RunWith seen (project start) observed (project finish) := by
  have kept := run.invariant init fun state event held enabled met =>
    (step state event held enabled met).1
  induction run with
  | nil => exact ⟨[], .nil⟩
  | @snoc events state event prior enabled met ih =>
      have held := prior.invariant init fun state event held enabled met =>
        (step state event held enabled met).1
      obtain ⟨observed, imageRun⟩ := ih held
      obtain ⟨-, action, admitted, sees, moves⟩ := step state event held enabled met
      exact ⟨observed ++ [action], by rw [moves]; exact imageRun.snoc admitted sees⟩

end System

end StratumBridge.Transition
