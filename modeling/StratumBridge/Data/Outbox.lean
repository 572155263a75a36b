import Mathlib.Data.List.Basic

/-!
# Queues with one writer

Lines are sent into a queue and written from its front.  What was written is a
beginning of what was sent, and an open outbox holds the rest; a closed one has lost
what it held, and takes nothing more.
-/

namespace StratumBridge.Data

universe u

variable {α : Type u}

/-- A queue with its writer, and what the writer has written. -/
structure Outbox (α : Type u) where
  queue : List α
  written : List α
  closed : Bool
  idle : closed = true → queue = []

namespace Outbox

/-- Nothing has been sent. -/
def empty : Outbox α :=
  ⟨[], [], false, fun closed => by cases closed⟩

/-- Send a line; without a writer it is lost. -/
def send (line : α) (outbox : Outbox α) : Outbox α :=
  if outbox.closed then outbox
  else ⟨outbox.queue ++ [line], outbox.written, false, fun closed => by cases closed⟩

/-- The writer writes its next line. -/
def writeNext (outbox : Outbox α) : Outbox α :=
  match queued : outbox.queue with
  | [] => outbox
  | line :: queue =>
      ⟨queue, outbox.written ++ [line], outbox.closed, fun closed => by
        rw [outbox.idle closed] at queued
        cases queued⟩

/-- The writer ends. -/
def close (outbox : Outbox α) : Outbox α :=
  ⟨[], outbox.written, true, fun _ => rfl⟩

/-- What was sent is written in its order, and is not lost while the outbox is
open. -/
structure Carries (outbox : Outbox α) (sent : List α) : Prop where
  inOrder : outbox.written <+: sent
  complete : outbox.closed = false → outbox.written ++ outbox.queue = sent

variable {outbox : Outbox α} {sent : List α}

theorem carries_empty : Carries (empty : Outbox α) [] :=
  ⟨List.prefix_refl _, fun _ => rfl⟩

theorem Carries.send (carries : outbox.Carries sent) (line : α) :
    (outbox.send line).Carries (sent ++ [line]) := by
  unfold Outbox.send
  split
  · rename_i closed
    refine ⟨carries.inOrder.trans (List.prefix_append _ _), ?_⟩
    intro isOpen
    rw [closed] at isOpen
    cases isOpen
  · rename_i isOpen
    have longer : outbox.written ++ (outbox.queue ++ [line]) = sent ++ [line] := by
      rw [← List.append_assoc, carries.complete (Bool.eq_false_iff.mpr isOpen)]
    exact ⟨⟨outbox.queue ++ [line], longer⟩, fun _ => longer⟩

theorem Carries.writeNext (carries : outbox.Carries sent) : outbox.writeNext.Carries sent := by
  unfold Outbox.writeNext
  split
  · exact carries
  · rename_i line queue queued
    have isOpen : outbox.closed = false := by
      refine Bool.eq_false_iff.mpr fun closed => ?_
      rw [outbox.idle closed] at queued
      cases queued
    have moved : (outbox.written ++ [line]) ++ queue = sent := by
      rw [List.append_assoc, List.singleton_append, ← queued]
      exact carries.complete isOpen
    exact ⟨⟨queue, moved⟩, fun _ => moved⟩

theorem Carries.close (carries : outbox.Carries sent) : outbox.close.Carries sent := by
  refine ⟨carries.inOrder, ?_⟩
  intro isOpen
  cases isOpen

end Outbox

end StratumBridge.Data
