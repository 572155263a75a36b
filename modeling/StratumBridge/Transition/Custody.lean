import StratumBridge.Transition.Run
import Mathlib.Logic.Function.Basic

/-!
# Custody of a job

A posted job waits in a slot until one of several owners takes it over.  An
owner gives the job up or finishes it, and a finished job is recorded, at once
or later.  Two laws are wanted of this life cycle: no two owners ever hold the
job, and a job that is not recorded is always waiting or held.  Neither holds
of every run; both hold of the runs that keep a simple discipline.
-/

namespace StratumBridge.Transition

universe u

/-- Where a job stands. -/
structure Custody (ε : Type u) where
  posted : Bool
  waiting : Bool
  owned : ε → Bool
  /-- A record is on its way. -/
  writing : Bool
  recorded : Bool
  /-- A record stands that was not withdrawn. -/
  active : Bool

namespace Custody

variable {ε : Type u}

/-- What can happen to a job. -/
inductive Action (ε : Type u)
  | rest
  | post
  | start (owner : ε)
  /-- An owner lets go of the job; `writes` is whether a record is on its way. -/
  | lose (owner : ε) (writes : Bool)
  | finish (owner : ε)
  | answer (stored stillWriting : Bool)
  | record
  | withdraw (stillActive : Bool)

/-- The job before it is posted. -/
def new : Custody ε :=
  ⟨false, false, fun _ => false, false, false, false⟩

/-- A job is taken over while it waits and let go by an owner. -/
def enabled (custody : Custody ε) : Action ε → Prop
  | .start _ => custody.waiting = true
  | .lose owner _ => custody.owned owner = true
  | .finish owner => custody.owned owner = true
  | .answer _ _ => custody.writing = true
  | .withdraw stillActive => stillActive = true → custody.active = true
  | _ => True

/-- Nobody holds the job, no record of it stands, and none is on its way. -/
structure Free (custody : Custody ε) : Prop where
  unowned : ∀ owner, custody.owned owner = false
  unwritten : custody.writing = false
  inactive : custody.active = false

/-- At most one owner, and a waiting job is free. -/
structure Exclusive (custody : Custody ε) : Prop where
  owner : ∀ first second, custody.owned first = true → custody.owned second = true →
    first = second
  waiting : custody.waiting = true → custody.Free

/-- The job waits or is held. -/
def Live (custody : Custody ε) : Prop :=
  custody.waiting = true ∨ ∃ owner, custody.owned owner = true

/-- A posted job that is not recorded is live. -/
def Kept (custody : Custody ε) : Prop :=
  custody.posted = true → custody.recorded = false → custody.Live

theorem exclusive_new : (new : Custody ε).Exclusive :=
  ⟨nofun, nofun⟩

theorem kept_new : (new : Custody ε).Kept :=
  nofun

theorem Exclusive.not_waiting {custody : Custody ε} {owner : ε} (exclusive : custody.Exclusive)
    (owned : custody.owned owner = true) : custody.waiting = false := by
  by_contra waits
  have free := (exclusive.waiting ((Bool.not_eq_false _).mp waits)).unowned owner
  rw [owned] at free
  cases free

variable [DecidableEq ε]

/-- One action. -/
def next (custody : Custody ε) : Action ε → Custody ε
  | .rest => custody
  | .post => { custody with posted := true, waiting := true }
  | .start owner =>
      { custody with waiting := false, owned := Function.update custody.owned owner true }
  | .lose owner writes =>
      { custody with
        owned := Function.update custody.owned owner false
        writing := custody.writing || writes }
  | .finish owner =>
      { custody with
        owned := Function.update custody.owned owner false
        recorded := true
        active := true }
  | .answer stored stillWriting =>
      { custody with
        writing := stillWriting
        recorded := custody.recorded || stored
        active := custody.active || stored }
  | .record => { custody with recorded := true, active := true }
  | .withdraw stillActive => { custody with active := stillActive }

/-- The life cycle of a job as a system. -/
def system (ε : Type u) [DecidableEq ε] : System (Custody ε) (Action ε) where
  enabled := enabled
  next := next

variable {custody finish : Custody ε} {action : Action ε} {actions : List (Action ε)}

/-! ## One owner -/

/-- The discipline for one owner: a job is posted while it is free, and nobody
else records a job that waits. -/
def Tidy (custody : Custody ε) : Action ε → Prop
  | .post => custody.Free
  | .record => custody.waiting = false
  | _ => True

/-- Letting go leaves only owners that were there. -/
theorem owned_of_update {owner other : ε}
    (owned : Function.update custody.owned owner false other = true) :
    custody.owned other = true := by
  by_cases same : other = owner
  · subst same
    rw [Function.update_self] at owned
    cases owned
  · rwa [Function.update_of_ne same] at owned

theorem Exclusive.next (exclusive : custody.Exclusive) (enabled : custody.enabled action)
    (tidy : custody.Tidy action) : (custody.next action).Exclusive := by
  cases action with
  | rest => exact exclusive
  | post => exact ⟨exclusive.owner, fun _ => ⟨tidy.unowned, tidy.unwritten, tidy.inactive⟩⟩
  | start owner =>
      have free := exclusive.waiting enabled
      have only : ∀ other, Function.update custody.owned owner true other = true →
          other = owner := by
        intro other owned
        by_contra ne
        rw [Function.update_of_ne ne, free.unowned] at owned
        cases owned
      exact ⟨fun first second one two => (only first one).trans (only second two).symm, nofun⟩
  | lose owner writes =>
      constructor
      · intro first second one two
        exact exclusive.owner first second (owned_of_update one) (owned_of_update two)
      · intro waits
        rw [show (custody.next (.lose owner writes)).waiting = custody.waiting from rfl,
          exclusive.not_waiting enabled] at waits
        cases waits
  | finish owner =>
      constructor
      · intro first second one two
        exact exclusive.owner first second (owned_of_update one) (owned_of_update two)
      · intro waits
        rw [show (custody.next (.finish owner)).waiting = custody.waiting from rfl,
          exclusive.not_waiting enabled] at waits
        cases waits
  | answer stored stillWriting =>
      refine ⟨exclusive.owner, fun waits => ?_⟩
      have unwritten := (exclusive.waiting waits).unwritten
      rw [show custody.writing = true from enabled] at unwritten
      cases unwritten
  | record =>
      refine ⟨exclusive.owner, fun waits => ?_⟩
      rw [show (custody.next .record).waiting = custody.waiting from rfl,
        show custody.waiting = false from tidy] at waits
      cases waits
  | withdraw stillActive =>
      refine ⟨exclusive.owner, fun waits => ?_⟩
      have free := exclusive.waiting waits
      refine ⟨free.unowned, free.unwritten, ?_⟩
      by_contra still
      have was := enabled ((Bool.not_eq_false _).mp still)
      rw [free.inactive] at was
      cases was

/-- A tidy run never has two owners. -/
theorem exclusive_of_run
    (run : (system ε).RunWith Tidy new actions finish) : finish.Exclusive :=
  run.invariant exclusive_new fun _ _ exclusive enabled tidy => exclusive.next enabled tidy

/-! ## No job is lost -/

/-- The discipline that keeps jobs: one is let go unrecorded only while it is
recorded already, waits again, or is held by another owner. -/
def Careful (custody : Custody ε) : Action ε → Prop
  | .lose owner _ =>
      custody.recorded = true ∨ custody.waiting = true ∨
        ∃ other, other ≠ owner ∧ custody.owned other = true
  | _ => True

theorem Kept.next (kept : custody.Kept) (careful : custody.Careful action) :
    (custody.next action).Kept := by
  intro posted unrecorded
  cases action with
  | rest => exact kept posted unrecorded
  | post => exact .inl rfl
  | start owner => exact .inr ⟨owner, Function.update_self ..⟩
  | lose owner writes =>
      rcases careful with recorded | waits | ⟨other, ne, owned⟩
      · rw [show custody.recorded = false from unrecorded] at recorded
        cases recorded
      · exact .inl waits
      · exact .inr ⟨other, (Function.update_of_ne ne ..).trans owned⟩
  | finish owner => cases unrecorded
  | answer stored stillWriting => exact kept posted (Bool.or_eq_false_iff.mp unrecorded).1
  | record => cases unrecorded
  | withdraw stillActive => exact kept posted unrecorded

/-- A careful run never loses the job. -/
theorem kept_of_run (run : (system ε).RunWith Careful new actions finish) : finish.Kept :=
  run.invariant kept_new fun _ _ kept _ careful => kept.next careful

end Custody

/-! ## What an owner's step does -/

/-- What a step of an owner does to the job it may hold: the holding before and
after, and the records it asks for, each with whether it is stored at once. -/
inductive Turn {α β : Type u} (starts drops : Prop) :
    Option α → Option α → List (β × Bool) → Prop
  | stays {before after} (same : after.isSome = before.isSome) :
      Turn starts drops before after []
  | starts {before holding} (starting : starts) : Turn starts drops before (some holding) []
  | drops {holding} (dropping : drops) : Turn starts drops (some holding) none []
  | finishes {holding record stored} (unstored : stored = false → drops) :
      Turn starts drops (some holding) none [(record, stored)]

end StratumBridge.Transition
