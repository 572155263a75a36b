import StratumBridge.Rpc.Types
import StratumBridge.Sequence.Greedy

/-!
# One speculative round

Greedy rejection sampling over one verify batch, and the two quantities derived
from its outcome: how much of the key-value cache is kept and how many tokens
the next draft proposes.

A verify batch consists of the carried token, if there is one, followed by the
drafted tokens.  `expectedAlong` lines the draft up with the target's
predictions for both shapes of batch, so that verification is agreement of two
lists.
-/

namespace StratumBridge.Speculative

open Sequence

/-- `RoundOutcome`. -/
structure RoundOutcome where
  acceptedCount : Nat
  settleToken : TokenId
  fullAccept : Bool
  deriving DecidableEq

/-- The number of batch positions the carried token takes. -/
def carryLen (carry : Option TokenId) : Nat :=
  if carry.isSome then 1 else 0

@[simp]
theorem carryLen_none : carryLen none = 0 :=
  rfl

@[simp]
theorem carryLen_some (token : TokenId) : carryLen (some token) = 1 :=
  rfl

/-- The loop of `greedy_verify_round` from batch position `i` on.  An index
outside the draft would panic. -/
def verifyLoop (carry : Option TokenId) (draftTokenIds : List TokenId) :
    Nat → List TokenId → TokenId → Nat → Option RoundOutcome
  | _, [], expected, acceptedCount => some ⟨acceptedCount, expected, true⟩
  | i, logit :: logits, expected, acceptedCount =>
      if i = 0 ∧ carry.isSome then
        verifyLoop carry draftTokenIds (i + 1) logits logit acceptedCount
      else
        (draftTokenIds[i - carryLen carry]?).bind fun d =>
          if d = expected then
            verifyLoop carry draftTokenIds (i + 1) logits logit (acceptedCount + 1)
          else
            some ⟨acceptedCount, expected, false⟩

/-- `greedy_verify_round`; `none` is the failed assertion. -/
def greedyVerifyRound (carry : Option TokenId) (expected0 : TokenId)
    (draftTokenIds targetLogits : List TokenId) : Option RoundOutcome :=
  if targetLogits.length = draftTokenIds.length + carryLen carry then
    verifyLoop carry draftTokenIds 0 targetLogits expected0 0
  else
    none

/-- `kv_keep_len`. -/
def kvKeepLen (baseStart : Nat) (carry : Option TokenId) (acceptedCount : Nat) : Nat :=
  baseStart + carryLen carry + acceptedCount

/-- `u32::clamp` to the permitted draft lengths. -/
def clampK (k : Nat) : Nat :=
  max 2 (min k 8)

/-- `next_k`.  The acceptance rate is compared with 0.7 and 0.5 by cross
multiplication. -/
def nextK (currentK acceptedCount kThisRound : Nat) : Nat :=
  if kThisRound = 0 then
    clampK currentK
  else if 7 * kThisRound < 10 * acceptedCount then
    clampK (currentK + 1)
  else if 2 * acceptedCount < kThisRound then
    clampK (currentK - 1)
  else
    clampK currentK

/-! ## Verification as agreement -/

/-- The target's prediction before each drafted token and after the last
one. -/
def expectedAlong (carry : Option TokenId) (expected0 : TokenId)
    (targetLogits : List TokenId) : List TokenId :=
  if carry.isSome then targetLogits else expected0 :: targetLogits

/-- Past the carried position the loop compares what is left of the draft with
the predictions that are left. -/
theorem verifyLoop_eq_some {carry : Option TokenId} {draft logits : List TokenId}
    {expected : TokenId} {i accepted : Nat} (past : carryLen carry ≤ i)
    (aligned : (draft.drop (i - carryLen carry)).length = logits.length) :
    ∃ outcome, verifyLoop carry draft i logits expected accepted = some outcome ∧
      outcome.acceptedCount =
        accepted + agreement (draft.drop (i - carryLen carry)) (expected :: logits) ∧
      (expected :: logits)[agreement (draft.drop (i - carryLen carry)) (expected :: logits)]? =
        some outcome.settleToken := by
  induction logits generalizing i expected accepted with
  | nil =>
      have exhausted : draft.drop (i - carryLen carry) = [] := List.eq_nil_of_length_eq_zero aligned
      exact ⟨⟨accepted, expected, true⟩, by simp [verifyLoop, exhausted, agreement]⟩
  | cons logit logits ih =>
      have notCarried : ¬ (i = 0 ∧ carry.isSome = true) := by
        rintro ⟨rfl, isCarried⟩
        simp [carryLen, isCarried] at past
      have bound : i - carryLen carry < draft.length := by
        simp only [List.length_drop, List.length_cons] at aligned
        omega
      have shift : i + 1 - carryLen carry = i - carryLen carry + 1 := by omega
      rw [verifyLoop, if_neg notCarried, List.getElem?_eq_getElem bound, Option.bind_some,
        List.drop_eq_getElem_cons bound]
      by_cases same : draft[i - carryLen carry] = expected
      · have rest := @ih logit (i + 1) (accepted + 1) (by omega) (by
          rw [shift]
          simp only [List.length_drop, List.length_cons] at aligned ⊢
          omega)
        rw [shift] at rest
        simp only [agreement, if_pos same]
        obtain ⟨outcome, loop, count, settle⟩ := rest
        exact ⟨outcome, loop, by omega, by simpa using settle⟩
      · exact ⟨⟨accepted, expected, false⟩, by simp [agreement, same]⟩

/-- What a well-sized verification returns: the accepted count is the agreement
of the draft with the target's predictions, and the settle token is the first
prediction the draft does not confirm. -/
theorem greedyVerifyRound_eq_some {carry : Option TokenId} (expected0 : TokenId)
    {draft logits : List TokenId} (sized : logits.length = draft.length + carryLen carry) :
    ∃ outcome, greedyVerifyRound carry expected0 draft logits = some outcome ∧
      outcome.acceptedCount = agreement draft (expectedAlong carry expected0 logits) ∧
      (expectedAlong carry expected0 logits)[outcome.acceptedCount]? =
        some outcome.settleToken := by
  rw [greedyVerifyRound, if_pos sized]
  cases carry with
  | none =>
      obtain ⟨outcome, loop, count, settle⟩ :=
        @verifyLoop_eq_some none draft logits expected0 0 0 (by simp) (by simpa using sized.symm)
      simp only [carryLen_none, Nat.sub_zero, List.drop_zero, Nat.zero_add] at count settle
      exact ⟨outcome, loop, count, by rw [count]; exact settle⟩
  | some token =>
      cases logits with
      | nil => simp at sized
      | cons logit logits =>
          obtain ⟨outcome, loop, count, settle⟩ :=
            @verifyLoop_eq_some (some token) draft logits logit 1 0 (by simp)
              (by simpa using sized.symm)
          simp only [carryLen_some, Nat.sub_self, List.drop_zero, Nat.zero_add] at count settle
          refine ⟨outcome, ?_, count, by rw [count]; exact settle⟩
          simpa [verifyLoop] using loop

theorem length_of_greedyVerifyRound {carry : Option TokenId} {expected0 : TokenId}
    {draft logits : List TokenId} {outcome : RoundOutcome}
    (verified : greedyVerifyRound carry expected0 draft logits = some outcome) :
    logits.length = draft.length + carryLen carry := by
  by_contra mismatch
  rw [greedyVerifyRound, if_neg mismatch] at verified
  contradiction

/-- The outcome of any verification that does not panic. -/
theorem outcome_of_greedyVerifyRound {carry : Option TokenId} {expected0 : TokenId}
    {draft logits : List TokenId} {outcome : RoundOutcome}
    (verified : greedyVerifyRound carry expected0 draft logits = some outcome) :
    outcome.acceptedCount = agreement draft (expectedAlong carry expected0 logits) ∧
      (expectedAlong carry expected0 logits)[outcome.acceptedCount]? =
        some outcome.settleToken := by
  obtain ⟨found, isFound, count, settle⟩ :=
    greedyVerifyRound_eq_some expected0 (length_of_greedyVerifyRound verified)
  rw [verified] at isFound
  cases isFound
  exact ⟨count, settle⟩

/-- No more tokens are accepted than were drafted. -/
theorem acceptedCount_le {carry : Option TokenId} {expected0 : TokenId}
    {draft logits : List TokenId} {outcome : RoundOutcome}
    (verified : greedyVerifyRound carry expected0 draft logits = some outcome) :
    outcome.acceptedCount ≤ draft.length := by
  rw [(outcome_of_greedyVerifyRound verified).1]
  exact agreement_le_left _ _

example : greedyVerifyRound (some 7) 0 [100, 101, 102] [100, 101, 102, 999] =
    some ⟨3, 999, true⟩ := by decide

end StratumBridge.Speculative
