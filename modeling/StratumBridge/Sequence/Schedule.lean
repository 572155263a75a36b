import Mathlib.Data.List.Flatten
import Mathlib.Data.List.Range
import Mathlib.Data.List.TakeDrop
import Mathlib.Order.Basic

/-!
# Schedules over a tiled interval

Segments tile an interval when each begins where the one before ends.  A
schedule goes through the segments in order, round after round, and every
segment has its own list of steps; how far somebody has come in a schedule is a
round, a segment and the steps already made of that segment.
-/

namespace StratumBridge.Sequence

universe u v

variable {α : Type u} {β : Type v}

/-! ## Tilings -/

/-- Non-empty segments that follow each other from `start` to `stop`. -/
def Tiles (bounds : α → Nat × Nat) : Nat → List α → Nat → Prop
  | start, [], stop => start = stop
  | start, segment :: rest, stop =>
      (bounds segment).1 = start ∧ start < (bounds segment).2 ∧
        Tiles bounds (bounds segment).2 rest stop

instance decidableTiles (bounds : α → Nat × Nat) :
    (start : Nat) → (segments : List α) → (stop : Nat) →
      Decidable (Tiles bounds start segments stop)
  | start, [], stop => inferInstanceAs (Decidable (start = stop))
  | _, segment :: rest, stop =>
      have := decidableTiles bounds (bounds segment).2 rest stop
      inferInstanceAs (Decidable (_ ∧ _ ∧ _))

variable {bounds : α → Nat × Nat} {start stop pos : Nat} {segments : List α} {segment : α}

theorem Tiles.le (tiles : Tiles bounds start segments stop) : start ≤ stop := by
  induction segments generalizing start with
  | nil => exact Nat.le_of_eq tiles
  | cons head rest ih => exact (Nat.le_of_lt tiles.2.1).trans (ih tiles.2.2)

/-- A segment lies inside the interval, and only the last one ends with it. -/
theorem Tiles.inside (tiles : Tiles bounds start segments stop)
    (found : segments[pos]? = some segment) :
    start ≤ (bounds segment).1 ∧ (bounds segment).1 < (bounds segment).2 ∧
      ((bounds segment).2 = stop ↔ pos + 1 = segments.length) := by
  induction segments generalizing start pos with
  | nil => simp at found
  | cons head rest ih =>
      rcases tiles with ⟨begins, nonempty, follows⟩
      cases pos with
      | zero =>
          simp only [List.getElem?_cons_zero, Option.some.injEq] at found
          subst found
          refine ⟨begins.ge, begins ▸ nonempty, ?_⟩
          cases rest with
          | nil => simpa [Tiles] using follows
          | cons second others =>
              have beyond := follows.2.2.le
              have longer := follows.2.1
              simp only [List.length_cons]
              omega
      | succ pos =>
          rw [List.getElem?_cons_succ] at found
          obtain ⟨after, nonempty, last⟩ := ih follows found
          refine ⟨by omega, nonempty, ?_⟩
          rw [last, List.length_cons]
          omega

/-- An earlier segment ends before the later one begins. -/
theorem Tiles.last_le (tiles : Tiles bounds start segments stop) {earlier : Nat} {other : α}
    (before : earlier < pos) (atEarlier : segments[earlier]? = some other)
    (atPos : segments[pos]? = some segment) : (bounds other).2 ≤ (bounds segment).1 := by
  induction segments generalizing start pos earlier with
  | nil => simp at atPos
  | cons head rest ih =>
      rcases tiles with ⟨begins, nonempty, follows⟩
      cases pos with
      | zero => cases before
      | succ pos =>
          rw [List.getElem?_cons_succ] at atPos
          cases earlier with
          | zero =>
              simp only [List.getElem?_cons_zero, Option.some.injEq] at atEarlier
              subst atEarlier
              exact (follows.inside atPos).1
          | succ earlier =>
              rw [List.getElem?_cons_succ] at atEarlier
              exact ih follows (Nat.lt_of_succ_lt_succ before) atEarlier atPos

/-- An earlier segment begins earlier. -/
theorem Tiles.first_lt (tiles : Tiles bounds start segments stop) {earlier : Nat} {other : α}
    (before : earlier < pos) (atEarlier : segments[earlier]? = some other)
    (atPos : segments[pos]? = some segment) : (bounds other).1 < (bounds segment).1 :=
  (tiles.inside atEarlier).2.1.trans_le (tiles.last_le before atEarlier atPos)

/-! ## Schedules -/

/-- The steps of the first rounds. -/
def schedule (steps : Nat → α → List β) (segments : List α) (rounds : Nat) : List β :=
  (List.range rounds).flatMap fun round => segments.flatMap (steps round)

/-- The steps made by somebody in the given round and segment, who has made
`done` of the segment's own. -/
def progress (steps : Nat → α → List β) (segments : List α) (round pos : Nat) (done : List β) :
    List β :=
  schedule steps segments round ++ ((segments.take pos).flatMap (steps round) ++ done)

variable {steps : Nat → α → List β} {round : Nat} {done : List β}

theorem schedule_succ (steps : Nat → α → List β) (segments : List α) (round : Nat) :
    schedule steps segments (round + 1) =
      schedule steps segments round ++ segments.flatMap (steps round) := by
  simp [schedule, List.range_succ]

theorem progress_zero (steps : Nat → α → List β) (segments : List α) :
    progress steps segments 0 0 [] = [] := by
  simp [progress, schedule]

theorem progress_append (steps : Nat → α → List β) (segments : List α) (round pos : Nat)
    (done more : List β) :
    progress steps segments round pos done ++ more =
      progress steps segments round pos (done ++ more) := by
  simp only [progress, List.append_assoc]

/-- A segment that is done leads to the next one. -/
theorem progress_segment (found : segments[pos]? = some segment) :
    progress steps segments round pos (steps round segment) =
      progress steps segments round (pos + 1) [] := by
  simp [progress, List.take_add_one, found]

/-- After the last segment the next round begins. -/
theorem progress_round (last : pos = segments.length) :
    progress steps segments round pos [] = progress steps segments (round + 1) 0 [] := by
  subst last
  simp [progress, schedule_succ]

/-- Part of a segment's steps is part of the schedule. -/
theorem progress_prefix (found : segments[pos]? = some segment)
    (part : done <+: steps round segment) :
    progress steps segments round pos done <+: schedule steps segments (round + 1) := by
  have here : (segments.take pos).flatMap (steps round) ++ done <+:
      (segments.take (pos + 1)).flatMap (steps round) := by
    rw [List.take_add_one, found, List.flatMap_append]
    apply (List.prefix_append_right_inj _).mpr
    simpa using part
  have onward : (segments.take (pos + 1)).flatMap (steps round) <+:
      segments.flatMap (steps round) := by
    refine ⟨(segments.drop (pos + 1)).flatMap (steps round), ?_⟩
    rw [← List.flatMap_append, List.take_append_drop]
  rw [schedule_succ, progress]
  exact (List.prefix_append_right_inj _).mpr (here.trans onward)

end StratumBridge.Sequence
