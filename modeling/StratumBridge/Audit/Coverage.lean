import StratumBridge.Audit.Answers
import StratumBridge.Audit.Convictions
import StratumBridge.Transition.Observe

/-!
# What a verdict covers

A verdict is read off the positions of the answer alone, whichever way the receipt
was replayed; nothing compares them with the committed tokens.  An observer notes
every answer that is judged, with the entry of the log that says how.  The verdicts
are right exactly as long as every answer is grounded in the tokens of its receipt.
-/

namespace StratumBridge.Audit

open Data Wire Transition

/-! ## Positions and committed tokens -/

/-- The position is about the token that was committed to at its step. -/
def RefersTo (committed : List TokenId) (position : AuditPositionWire) : Prop :=
  committed[position.step]? = some position.committedTokenId

/-- Every committed token has an admissible position, and no position is
inadmissible. -/
def Acquits (committed : List TokenId) (positions : List AuditPositionWire) : Prop :=
  (∀ step token, committed[step]? = some token →
    ∃ position ∈ positions, position.step = step ∧ position.committedTokenId = token ∧
      position.admissible = true) ∧
    ∀ position ∈ positions, position.admissible = true

/-- A position about a committed token is inadmissible. -/
def Convicts (committed : List TokenId) (positions : List AuditPositionWire) : Prop :=
  ∃ position ∈ positions, RefersTo committed position ∧ position.admissible = false

/-- The condition on an answer: it is not empty, an answer without an inadmissible
position leaves out no committed token, and of the inadmissible positions, if there
are any, one is about a committed token. -/
structure Grounded (committed : List TokenId) (positions : List AuditPositionWire) : Prop where
  answered : positions ≠ []
  complete : (∀ position ∈ positions, position.admissible = true) →
    ∀ step token, committed[step]? = some token →
      ∃ position ∈ positions, position.step = step ∧ position.committedTokenId = token
  relevant : (∃ position ∈ positions, position.admissible = false) → Convicts committed positions

section Verdicts

open B3LiteAuditor (verdict)

variable {committed : List TokenId} {positions : List AuditPositionWire}

theorem verdict_eq_admissible_iff : verdict positions = .admissible ↔
    positions ≠ [] ∧ ∀ position ∈ positions, position.admissible = true := by
  unfold verdict
  cases all : allAdmissible positions with
  | true =>
      rw [allAdmissible, Bool.and_eq_true, Bool.not_eq_true', List.isEmpty_eq_false_iff,
        List.all_eq_true] at all
      exact iff_of_true rfl all
  | false =>
      refine iff_of_false (by decide) ?_
      rintro ⟨answered, admissible⟩
      rw [allAdmissible, List.isEmpty_eq_false_iff.mpr answered,
        List.all_eq_true.mpr admissible] at all
      cases all

theorem verdict_eq_divergent_iff : verdict positions = .divergent ↔
    verdict positions ≠ .admissible := by
  unfold verdict
  cases allAdmissible positions with
  | true => decide
  | false => decide

/-- An answer is grounded exactly when its verdict is right. -/
theorem grounded_iff : Grounded committed positions ↔
    (verdict positions = .admissible → Acquits committed positions) ∧
      (verdict positions = .divergent → Convicts committed positions) := by
  rw [verdict_eq_divergent_iff, Ne, verdict_eq_admissible_iff]
  constructor
  · intro grounded
    constructor
    · rintro ⟨-, admissible⟩
      refine ⟨?_, admissible⟩
      intro step token found
      obtain ⟨position, mem, at_step, same⟩ := grounded.complete admissible step token found
      exact ⟨position, mem, at_step, same, admissible position mem⟩
    · intro refused
      apply grounded.relevant
      by_contra spotless
      apply refused
      refine ⟨grounded.answered, ?_⟩
      intro position mem
      by_contra inadmissible
      exact spotless ⟨position, mem, Bool.eq_false_iff.mpr inadmissible⟩
  · rintro ⟨acquits, convicts⟩
    constructor
    · rintro rfl
      obtain ⟨position, mem, -⟩ := convicts (fun both => both.1 rfl)
      cases mem
    · intro admissible step token found
      have answered : positions ≠ [] := by
        rintro rfl
        obtain ⟨position, mem, -⟩ := convicts (fun both => both.1 rfl)
        cases mem
      rcases (acquits ⟨answered, admissible⟩).1 step token found with
        ⟨position, mem, at_step, same, -⟩
      exact ⟨position, mem, at_step, same⟩
    · rintro ⟨position, mem, inadmissible⟩
      apply convicts
      rintro ⟨-, admissible⟩
      rw [admissible position mem] at inadmissible
      cases inadmissible

end Verdicts

/-! ## Judgements -/

/-- An answer that was judged, and the entry of the log that says how. -/
structure Judgement where
  receipt : B3LiteReceipt
  positions : List AuditPositionWire
  entry : Nat

/-- The receipt's tokens decode, and the property holds of them and the answer. -/
def Judgement.Meets (judgement : Judgement)
    (property : List TokenId → List AuditPositionWire → Prop) : Prop :=
  ∃ committed, decodeTokenIdsHex judgement.receipt.generatedTokenIdsHex = some committed ∧
    property committed judgement.positions

/-- The receipt that a tick replays or has replayed. -/
def Tick.replayed : Tick → Option B3LiteReceipt
  | waiting _ replay _ => some replay.receipt
  | replaying receipt _ => some receipt
  | marking _ receipt _ => some receipt
  | _ => none

/-- The effect is a consequence of a verdict. -/
def Effect.isPunishment : Effect → Bool
  | consequence _ _ _ _ => true
  | banned _ => true
  | _ => false

/-- The effect is a verdict or one of its consequences. -/
def Effect.isJudicial : Effect → Bool
  | marked _ status _ _ => status != .inconclusive
  | effect => effect.isPunishment

/-- The effect is a consequence for the receipt. -/
def Effect.Against (receipt : B3LiteReceipt) (effect : Effect) : Prop :=
  (∃ action reason stored, effect = consequence receipt action reason stored) ∨
    effect = banned receipt.minerWallet

namespace B3LiteAuditor

/-- The answer that an event judges, as the observer notes it. -/
def judges (auditor : B3LiteAuditor) (stimulus : Stimulus) : Option Judgement :=
  match stimulus.event, auditor.tick with
  | .marked _, .marking positions receipt _ => some ⟨receipt, positions, auditor.log.length⟩
  | _, _ => none

/-- Every verdict of the log is warranted by the answer it was read off, and every
consequence by an answer that convicts its receipt. -/
structure VerdictsRight (auditor : B3LiteAuditor) (judgements : List Judgement) : Prop where
  admissible : ∀ entry id detail stored,
    auditor.log[entry]? = some (.marked id .admissible detail stored) →
      ∃ judgement ∈ judgements, judgement.entry = entry ∧ judgement.receipt.id = id ∧
        detail = .positions judgement.positions ∧ judgement.Meets Acquits
  divergent : ∀ entry id detail stored,
    auditor.log[entry]? = some (.marked id .divergent detail stored) →
      ∃ judgement ∈ judgements, judgement.entry = entry ∧ judgement.receipt.id = id ∧
        detail = .positions judgement.positions ∧ judgement.Meets Convicts
  consequence : ∀ receipt action reason stored,
    .consequence receipt action reason stored ∈ auditor.log →
      ∃ judgement ∈ judgements, judgement.receipt = receipt ∧ judgement.Meets Convicts
  banned : ∀ wallet, .banned wallet ∈ auditor.log →
    ∃ judgement ∈ judgements, judgement.receipt.minerWallet = wallet ∧ judgement.Meets Convicts

/-! ## One event -/

/-- What an event does: nothing judicial, a judgement, or a consequence. -/
inductive Rules (auditor : B3LiteAuditor) (stimulus : Stimulus) (after : B3LiteAuditor) : Prop
  | quiet (emitted : List Effect) (unjudged : auditor.judges stimulus = none)
      (logged : after.log = auditor.log ++ emitted)
      (unjudicial : ∀ effect ∈ emitted, effect.isJudicial = false)
      (guilty : ∀ receipt, after.tick.guilty = some receipt → auditor.tick.guilty = some receipt)
      (replayed : ∀ receipt, after.tick.replayed = some receipt →
        auditor.tick.replayed = some receipt ∨
          (decodeTokenIdsHex receipt.generatedTokenIdsHex).isSome)
  | judged (receipt : B3LiteReceipt) (positions : List AuditPositionWire) (stored : Bool)
      (judges : auditor.judges stimulus = some ⟨receipt, positions, auditor.log.length⟩)
      (replayed : auditor.tick.replayed = some receipt)
      (logged : after.log =
        auditor.log ++ [.marked receipt.id (verdict positions) (.positions positions) stored])
      (guilty : ∀ held, after.tick.guilty = some held →
        held = receipt ∧ verdict positions = .divergent)
      (ended : after.tick.replayed = none)
  | punished (receipt : B3LiteReceipt) (effect : Effect)
      (unjudged : auditor.judges stimulus = none) (guilty : auditor.tick.guilty = some receipt)
      (logged : after.log = auditor.log ++ [effect]) (theirs : effect.Against receipt)
      (still : ∀ held, after.tick.guilty = some held → held = receipt)
      (ended : after.tick.replayed = none)

variable {auditor after : B3LiteAuditor} {stimulus : Stimulus} {registry : MinerRegistry}

@[simp]
theorem replayed_goOn (rest : List B3LiteReceipt) :
    (auditor.goOn rest).tick.replayed = none := by
  cases rest with
  | nil => rfl
  | cons receipt rest => rfl

theorem unjudicial_singleton {effect : Effect} (unjudicial : effect.isJudicial = false) :
    ∀ emitted ∈ [effect], emitted.isJudicial = false := by
  intro emitted mem
  cases List.mem_singleton.mp mem
  exact unjudicial

theorem unjudicial_nil : ∀ emitted ∈ ([] : List Effect), emitted.isJudicial = false :=
  fun _ mem => absurd mem List.not_mem_nil

/-- Nothing is judged or punished, and the tick turns against nobody. -/
theorem Rules.of_innocent (emitted : List Effect) (unjudged : auditor.judges stimulus = none)
    (logged : after.log = auditor.log ++ emitted)
    (unjudicial : ∀ effect ∈ emitted, effect.isJudicial = false)
    (innocent : after.tick.guilty = none)
    (replayed : ∀ receipt, after.tick.replayed = some receipt →
      auditor.tick.replayed = some receipt ∨
        (decodeTokenIdsHex receipt.generatedTokenIdsHex).isSome) :
    auditor.Rules stimulus after := by
  refine .quiet emitted unjudged logged unjudicial ?_ replayed
  intro receipt guilty
  rw [innocent] at guilty
  cases guilty

/-- The tick stands where it stood. -/
theorem Rules.of_tick (emitted : List Effect) (unjudged : auditor.judges stimulus = none)
    (logged : after.log = auditor.log ++ emitted)
    (unjudicial : ∀ effect ∈ emitted, effect.isJudicial = false)
    (same : after.tick = auditor.tick) : auditor.Rules stimulus after := by
  refine .quiet emitted unjudged logged unjudicial ?_ ?_
  · intro receipt guilty
    rwa [same] at guilty
  · intro receipt replayed
    rw [same] at replayed
    exact .inl replayed

/-- Nothing is logged, and the tick turns against nobody. -/
theorem Rules.of_silent (unjudged : auditor.judges stimulus = none)
    (logged : after.log = auditor.log) (innocent : after.tick.guilty = none)
    (replayed : ∀ receipt, after.tick.replayed = some receipt →
      auditor.tick.replayed = some receipt ∨
        (decodeTokenIdsHex receipt.generatedTokenIdsHex).isSome) :
    auditor.Rules stimulus after :=
  .of_innocent [] unjudged (logged.trans (List.append_nil _).symm) unjudicial_nil innocent replayed

theorem dispatchViaSubprocess_rules (replay : Replay) (rest : List B3LiteReceipt)
    (before : B3LiteAuditor) (unjudged : auditor.judges stimulus = none)
    (same : before.log = auditor.log)
    (decodes : (decodeTokenIdsHex replay.receipt.generatedTokenIdsHex).isSome) :
    auditor.Rules stimulus (dispatchViaSubprocess replay rest before) := by
  refine .of_innocent [.subprocess replay.request] unjudged ?_ (unjudicial_singleton rfl) rfl ?_
  · rw [dispatchViaSubprocess, same]
  · intro receipt replayed
    cases replayed
    exact .inr decodes

theorem resumeResolved_rules {receipt : B3LiteReceipt} {rest : List B3LiteReceipt}
    (resolving : auditor.tick = .resolving receipt rest) (source : Option ModelSource)
    (isOpen : Bool) :
    auditor.Rules ⟨registry, .resolved source isOpen⟩
      (resumeResolved registry source isOpen auditor) := by
  simp only [resumeResolved, resolving]
  cases prepared : prepare receipt source with
  | error reason =>
      exact .of_silent rfl rfl rfl fun _ replayed => by cases replayed
  | ok replay =>
      have decodes : (decodeTokenIdsHex replay.receipt.generatedTokenIdsHex).isSome := by
        obtain ⟨same, -, -, tokens⟩ := of_prepare prepared
        rw [same, tokens]
        rfl
      dsimp only
      cases registry.pickAuditorCapable auditor.trustedWallets receipt.minerWallet with
      | none => exact dispatchViaSubprocess_rules replay rest auditor rfl rfl decodes
      | some wallet =>
          simp only [dispatchViaStratum]
          cases registry.get wallet with
          | none => exact dispatchViaSubprocess_rules replay rest auditor rfl rfl decodes
          | some tx =>
              cases isOpen with
              | false => exact dispatchViaSubprocess_rules replay rest _ rfl rfl decodes
              | true =>
                  refine .of_innocent [.auditAssign wallet tx replay.assign] rfl rfl
                    (unjudicial_singleton rfl) rfl ?_
                  intro held replayed
                  cases replayed
                  exact .inr decodes

theorem wake_rules {waiter : Waiter} {replay : Replay} {rest : List B3LiteReceipt}
    (waiting : auditor.tick = .waiting waiter replay rest) :
    auditor.Rules ⟨registry, .woken⟩ (wake auditor) := by
  have before : auditor.tick.replayed = some replay.receipt := by rw [waiting]; rfl
  simp only [wake, waiting]
  cases auditor.replies waiter with
  | none =>
      exact .of_innocent [.subprocess replay.request] rfl rfl (unjudicial_singleton rfl) rfl
        fun held replayed => .inl (before.trans replayed)
  | some positions =>
      exact .of_innocent [.returned waiter replay positions] rfl rfl (unjudicial_singleton rfl) rfl
        fun held replayed => .inl (before.trans replayed)

theorem resumeMarked_rules {stored : Bool} (enabled : auditor.enabled ⟨registry, .marked stored⟩) :
    auditor.Rules ⟨registry, .marked stored⟩ (resumeMarked stored auditor) := by
  rcases enabled with ⟨receipt, rest, ⟨reason, closing⟩ | ⟨positions, marking⟩⟩
  · simp only [resumeMarked, closing]
    refine .of_innocent [.marked receipt.id .inconclusive (.reason reason) stored] ?_ rfl
      (unjudicial_singleton rfl) (guilty_goOn rest) ?_
    · simp only [judges, closing]
    · intro held replayed
      rw [replayed_goOn] at replayed
      cases replayed
  · have judged : auditor.judges ⟨registry, .marked stored⟩ =
        some ⟨receipt, positions, auditor.log.length⟩ := by
      simp only [judges, marking]
    have before : auditor.tick.replayed = some receipt := by rw [marking]; rfl
    simp only [resumeMarked, marking]
    split
    · refine .judged receipt positions stored judged before rfl ?_ (replayed_goOn rest)
      intro held guilty
      rw [guilty_goOn] at guilty
      cases guilty
    · rename_i refused
      refine .judged receipt positions stored judged before rfl ?_ rfl
      intro held guilty
      cases guilty
      exact ⟨rfl, if_neg refused⟩

theorem resumeInserted_rules {stored : Bool}
    (enabled : auditor.enabled ⟨registry, .inserted stored⟩) :
    auditor.Rules ⟨registry, .inserted stored⟩ (resumeInserted stored auditor) := by
  rcases enabled with ⟨receipt, rest, withholding | flagging | ⟨count, ejecting⟩⟩
  · have before : auditor.tick.guilty = some receipt := by rw [withholding]; rfl
    simp only [resumeInserted, withholding]
    refine .punished receipt _ rfl before rfl (.inl ⟨_, _, _, rfl⟩) ?_ rfl
    intro held guilty
    cases guilty
    rfl
  · have before : auditor.tick.guilty = some receipt := by rw [flagging]; rfl
    simp only [resumeInserted, flagging]
    refine .punished receipt _ rfl before rfl (.inl ⟨_, _, _, rfl⟩) ?_ rfl
    intro held guilty
    cases guilty
    rfl
  · have before : auditor.tick.guilty = some receipt := by rw [ejecting]; rfl
    simp only [resumeInserted, ejecting]
    refine .punished receipt _ rfl before rfl (.inl ⟨_, _, _, rfl⟩) ?_ (replayed_goOn rest)
    intro held guilty
    rw [guilty_goOn] at guilty
    cases guilty

theorem resumeCounted_rules {receipt : B3LiteReceipt} {rest : List B3LiteReceipt}
    (counting : auditor.tick = .counting receipt rest) (count : Option Int) :
    auditor.Rules ⟨registry, .counted count⟩ (resumeCounted count auditor) := by
  have before : auditor.tick.guilty = some receipt := by rw [counting]; rfl
  have goesOn : auditor.Rules ⟨registry, .counted count⟩ (auditor.goOn rest) := by
    refine .of_silent rfl rfl (guilty_goOn rest) ?_
    intro held replayed
    rw [replayed_goOn] at replayed
    cases replayed
  simp only [resumeCounted, counting]
  cases count with
  | none => exact goesOn
  | some n =>
      dsimp only
      split
      · refine .punished receipt (.banned receipt.minerWallet) rfl before rfl (.inr rfl) ?_ rfl
        intro held guilty
        cases guilty
        rfl
      · exact goesOn

theorem handleAuditResult_rules (wallet : Wallet) (result : OpoiAuditResult) :
    auditor.Rules ⟨registry, .auditResult wallet result⟩
      (handleAuditResult wallet result auditor) := by
  have rejects (error : AppError) : auditor.Rules ⟨registry, .auditResult wallet result⟩
      (auditor.emit [.rejected wallet result.requestId error]) :=
    .of_tick [.rejected wallet result.requestId error] rfl rfl (unjudicial_singleton rfl) rfl
  unfold handleAuditResult
  split
  · exact rejects .unknownRequest
  · split
    · split
      · exact .of_tick [] rfl (List.append_nil _).symm unjudicial_nil rfl
      · rename_i waiter _
        exact .of_tick [.delivered waiter wallet result] rfl rfl (unjudicial_singleton rfl) rfl
    · exact rejects .notAssignedToCaller

/-- What one event does. -/
theorem next_rules (enabled : auditor.enabled stimulus) :
    auditor.Rules stimulus (auditor.next stimulus) := by
  rcases stimulus with ⟨registry, event⟩
  cases event with
  | tickBegin =>
      exact .of_silent rfl rfl rfl fun _ replayed => by cases replayed
  | listed receipts =>
      have listing : auditor.tick = .listing := enabled
      simp only [next, resumeListing, listing]
      refine .of_silent rfl rfl (guilty_goOn _) ?_
      intro held replayed
      rw [replayed_goOn] at replayed
      cases replayed
  | resolved source isOpen =>
      rcases enabled with ⟨receipt, rest, resolving⟩
      exact resumeResolved_rules resolving source isOpen
  | woken =>
      rcases enabled with ⟨waiter, replay, rest, waiting⟩
      exact wake_rules waiting
  | replayed answer =>
      rcases enabled with ⟨receipt, rest, replaying⟩
      have before : auditor.tick.replayed = some receipt := by rw [replaying]; rfl
      simp only [next, resumeReplayed, replaying]
      cases answer with
      | error reason =>
          exact .of_silent rfl rfl rfl fun _ replayed => by cases replayed
      | ok positions =>
          exact .of_silent rfl rfl rfl fun held replayed => .inl (before.trans replayed)
  | marked stored => exact resumeMarked_rules enabled
  | inserted stored => exact resumeInserted_rules enabled
  | counted count =>
      rcases enabled with ⟨receipt, rest, counting⟩
      exact resumeCounted_rules counting count
  | auditResult wallet result => exact handleAuditResult_rules wallet result
  | disconnect wallet =>
      exact .of_tick [] rfl (List.append_nil _).symm unjudicial_nil rfl

/-! ## Judgements along a run -/

/-- An answer about the receipt was judged divergent. -/
def FoundGuilty (judgements : List Judgement) (receipt : B3LiteReceipt) : Prop :=
  ∃ judgement ∈ judgements, judgement.receipt = receipt ∧
    verdict judgement.positions = .divergent

/-- The notes go with the log: every verdict has its judgement, and whoever is
punished was found divergent. -/
structure Recorded (auditor : B3LiteAuditor) (judgements : List Judgement) : Prop where
  replayed : ∀ receipt, auditor.tick.replayed = some receipt →
    (decodeTokenIdsHex receipt.generatedTokenIdsHex).isSome
  decodes : ∀ judgement ∈ judgements,
    (decodeTokenIdsHex judgement.receipt.generatedTokenIdsHex).isSome
  logged : ∀ judgement ∈ judgements, ∃ stored, auditor.log[judgement.entry]? =
    some (.marked judgement.receipt.id (verdict judgement.positions)
      (.positions judgement.positions) stored)
  once : ∀ first ∈ judgements, ∀ second ∈ judgements, first.entry = second.entry →
    first = second
  judged : ∀ entry id status detail stored,
    auditor.log[entry]? = some (.marked id status detail stored) → status ≠ .inconclusive →
      ∃ judgement ∈ judgements, judgement.entry = entry
  guilty : ∀ receipt, auditor.tick.guilty = some receipt → FoundGuilty judgements receipt
  punished : ∀ effect ∈ auditor.log, effect.isPunishment = true →
    ∃ receipt, effect.Against receipt ∧ FoundGuilty judgements receipt

variable {judgements : List Judgement} {trustedWallets : List Wallet} {events : List Stimulus}

theorem recorded_new : Recorded (new trustedWallets) [] := by
  constructor
  · intro receipt replayed
    cases replayed
  · intro judgement mem
    cases mem
  · intro judgement mem
    cases mem
  · intro first mem
    cases mem
  · intro entry id status detail stored found
    cases found
  · intro receipt guilty
    cases guilty
  · intro effect mem
    cases mem


theorem isPunishment_of_against {receipt : B3LiteReceipt} {effect : Effect}
    (theirs : effect.Against receipt) : effect.isPunishment = true := by
  rcases theirs with ⟨action, reason, stored, rfl⟩ | rfl
  · rfl
  · rfl

theorem isJudicial_of_isPunishment {effect : Effect} (punishment : effect.isPunishment = true) :
    effect.isJudicial = true := by
  cases effect with
  | consequence receipt action reason stored => rfl
  | banned wallet => rfl
  | _ => cases punishment

theorem FoundGuilty.mono {more : List Judgement} {receipt : B3LiteReceipt}
    (found : FoundGuilty judgements receipt) (grows : judgements ⊆ more) :
    FoundGuilty more receipt := by
  rcases found with ⟨judgement, mem, same, divergent⟩
  exact ⟨judgement, grows mem, same, divergent⟩

/-- An entry that was logged stays where it is. -/
theorem getElem?_append_of_some {log emitted : List Effect} {entry : Nat} {effect : Effect}
    (found : log[entry]? = some effect) : (log ++ emitted)[entry]? = some effect := by
  rw [List.getElem?_append_left (List.getElem?_eq_some_iff.mp found).1]
  exact found

/-- An entry of a longer log is an old one or a new effect. -/
theorem getElem?_append_cases {log emitted : List Effect} {entry : Nat} {effect : Effect}
    (found : (log ++ emitted)[entry]? = some effect) :
    log[entry]? = some effect ∨ effect ∈ emitted := by
  rcases Nat.lt_or_ge entry log.length with old | new
  · rw [List.getElem?_append_left old] at found
    exact .inl found
  · rw [List.getElem?_append_right new] at found
    exact .inr (List.mem_of_getElem? found)

/-- An event that judges nothing. -/
theorem Recorded.unjudged (recorded : Recorded auditor judgements) {emitted : List Effect}
    (logged : after.log = auditor.log ++ emitted)
    (unmarked : ∀ id status detail stored, .marked id status detail stored ∈ emitted →
      status = .inconclusive)
    (replayed : ∀ receipt, after.tick.replayed = some receipt →
      (decodeTokenIdsHex receipt.generatedTokenIdsHex).isSome)
    (guilty : ∀ receipt, after.tick.guilty = some receipt → FoundGuilty judgements receipt)
    (punished : ∀ effect ∈ emitted, effect.isPunishment = true →
      ∃ receipt, effect.Against receipt ∧ FoundGuilty judgements receipt) :
    Recorded after judgements := by
  refine ⟨replayed, recorded.decodes, ?_, recorded.once, ?_, guilty, ?_⟩
  · intro judgement mem
    obtain ⟨stored, found⟩ := recorded.logged judgement mem
    refine ⟨stored, ?_⟩
    rw [logged]
    exact getElem?_append_of_some found
  · intro entry id status detail stored found conclusive
    rw [logged] at found
    rcases getElem?_append_cases found with old | new
    · exact recorded.judged entry id status detail stored old conclusive
    · exact absurd (unmarked id status detail stored new) conclusive
  · intro effect mem punishment
    rw [logged] at mem
    rcases List.mem_append.mp mem with old | new
    · exact recorded.punished effect old punishment
    · exact punished effect new punishment

/-- An event that judges an answer. -/
theorem Recorded.judges (recorded : Recorded auditor judgements) {receipt : B3LiteReceipt}
    {positions : List AuditPositionWire} {stored : Bool}
    (replayed : auditor.tick.replayed = some receipt)
    (logged : after.log =
      auditor.log ++ [.marked receipt.id (verdict positions) (.positions positions) stored])
    (guilty : ∀ held, after.tick.guilty = some held →
      held = receipt ∧ verdict positions = .divergent)
    (ended : after.tick.replayed = none) :
    Recorded after (judgements ++ [⟨receipt, positions, auditor.log.length⟩]) := by
  have older : ∀ judgement ∈ judgements, judgement.entry < auditor.log.length := by
    intro judgement mem
    obtain ⟨stored, found⟩ := recorded.logged judgement mem
    exact (List.getElem?_eq_some_iff.mp found).1
  have grows : judgements ⊆ judgements ++ [⟨receipt, positions, auditor.log.length⟩] :=
    List.subset_append_left _ _
  have last : ⟨receipt, positions, auditor.log.length⟩ ∈
      judgements ++ [⟨receipt, positions, auditor.log.length⟩] :=
    List.mem_append_right _ (List.mem_singleton_self _)
  constructor
  · intro held now
    rw [ended] at now
    cases now
  · intro judgement mem
    rcases List.mem_append.mp mem with old | new
    · exact recorded.decodes judgement old
    · cases List.mem_singleton.mp new
      exact recorded.replayed receipt replayed
  · intro judgement mem
    rw [logged]
    rcases List.mem_append.mp mem with old | new
    · obtain ⟨stored, found⟩ := recorded.logged judgement old
      exact ⟨stored, getElem?_append_of_some found⟩
    · cases List.mem_singleton.mp new
      exact ⟨stored, List.getElem?_concat_length⟩
  · intro first firstMem second secondMem same
    rcases List.mem_append.mp firstMem with firstOld | firstNew
    · rcases List.mem_append.mp secondMem with secondOld | secondNew
      · exact recorded.once first firstOld second secondOld same
      · cases List.mem_singleton.mp secondNew
        exact absurd same (older first firstOld).ne
    · cases List.mem_singleton.mp firstNew
      rcases List.mem_append.mp secondMem with secondOld | secondNew
      · exact absurd same.symm (older second secondOld).ne
      · exact (List.mem_singleton.mp secondNew).symm
  · intro entry id status detail taken found conclusive
    rcases Nat.lt_or_ge entry auditor.log.length with old | new
    · rw [logged, List.getElem?_append_left old] at found
      rcases recorded.judged entry id status detail taken found conclusive with
        ⟨judgement, mem, same⟩
      exact ⟨judgement, grows mem, same⟩
    · have bound := (List.getElem?_eq_some_iff.mp found).1
      rw [logged, List.length_append, List.length_singleton] at bound
      exact ⟨_, last, by dsimp only; omega⟩
  · intro held now
    obtain ⟨rfl, divergent⟩ := guilty held now
    exact ⟨_, last, rfl, divergent⟩
  · intro effect mem punishment
    rw [logged] at mem
    rcases List.mem_append.mp mem with old | new
    · obtain ⟨held, theirs, found⟩ := recorded.punished effect old punishment
      exact ⟨held, theirs, found.mono grows⟩
    · cases List.mem_singleton.mp new
      cases punishment

/-- Every event keeps the notes. -/
theorem Recorded.next (recorded : Recorded auditor judgements)
    (enabled : auditor.enabled stimulus) :
    Recorded (auditor.next stimulus) (judgements ++ (auditor.judges stimulus).toList) := by
  cases next_rules enabled with
  | quiet emitted unjudged logged unjudicial guilty replayed =>
      rw [unjudged, Option.toList_none, List.append_nil]
      refine recorded.unjudged logged ?_ ?_ ?_ ?_
      · intro id status detail stored mem
        exact bne_eq_false_iff_eq.mp (unjudicial _ mem)
      · intro receipt now
        rcases replayed receipt now with before | decodes
        · exact recorded.replayed receipt before
        · exact decodes
      · intro receipt now
        exact recorded.guilty receipt (guilty receipt now)
      · intro effect mem punishment
        have quiet := unjudicial effect mem
        rw [isJudicial_of_isPunishment punishment] at quiet
        cases quiet
  | judged receipt positions stored judges replayed logged guilty ended =>
      rw [judges, Option.toList_some]
      exact recorded.judges replayed logged guilty ended
  | punished receipt effect unjudged guilty logged theirs still ended =>
      rw [unjudged, Option.toList_none, List.append_nil]
      refine recorded.unjudged logged ?_ ?_ ?_ ?_
      · intro id status detail stored mem
        cases List.mem_singleton.mp mem
        cases isPunishment_of_against theirs
      · intro held now
        rw [ended] at now
        cases now
      · intro held now
        cases still held now
        exact recorded.guilty receipt guilty
      · intro other mem punishment
        cases List.mem_singleton.mp mem
        exact ⟨receipt, theirs, recorded.guilty receipt guilty⟩

/-- The judgement of a verdict in the log. -/
theorem Recorded.judgement_of (recorded : Recorded auditor judgements) {entry id : Nat}
    {status : AuditStatus} {detail : AuditDetail} {stored : Bool}
    (found : auditor.log[entry]? = some (.marked id status detail stored))
    (conclusive : status ≠ .inconclusive) :
    ∃ judgement ∈ judgements, judgement.entry = entry ∧ judgement.receipt.id = id ∧
      detail = .positions judgement.positions ∧ verdict judgement.positions = status := by
  obtain ⟨judgement, mem, rfl⟩ := recorded.judged entry id status detail stored found conclusive
  obtain ⟨taken, logged⟩ := recorded.logged judgement mem
  cases logged.symm.trans found
  exact ⟨judgement, mem, rfl, rfl, rfl, rfl⟩

/-- The verdicts of the log are right as long as its judgements are grounded. -/
theorem Recorded.verdictsRight (recorded : Recorded auditor judgements)
    (grounded : ∀ judgement ∈ judgements, judgement.Meets Grounded) :
    auditor.VerdictsRight judgements := by
  have convicts : ∀ judgement ∈ judgements, verdict judgement.positions = .divergent →
      judgement.Meets Convicts := by
    intro judgement mem divergent
    obtain ⟨committed, decoded, answer⟩ := grounded judgement mem
    exact ⟨committed, decoded, (grounded_iff.mp answer).2 divergent⟩
  constructor
  · intro entry id detail stored found
    rcases recorded.judgement_of found (by decide) with
      ⟨judgement, mem, same, receipt, positions, admissible⟩
    obtain ⟨committed, decoded, answer⟩ := grounded judgement mem
    exact ⟨judgement, mem, same, receipt, positions, committed, decoded,
      (grounded_iff.mp answer).1 admissible⟩
  · intro entry id detail stored found
    rcases recorded.judgement_of found (by decide) with
      ⟨judgement, mem, same, receipt, positions, divergent⟩
    exact ⟨judgement, mem, same, receipt, positions, convicts judgement mem divergent⟩
  · intro receipt action reason stored mem
    obtain ⟨held, theirs, judgement, noted, same, divergent⟩ := recorded.punished _ mem rfl
    rcases theirs with ⟨_, _, _, effect⟩ | effect
    · cases effect
      exact ⟨judgement, noted, same, convicts judgement noted divergent⟩
    · cases effect
  · intro wallet mem
    obtain ⟨held, theirs, judgement, noted, same, divergent⟩ := recorded.punished _ mem rfl
    rcases theirs with ⟨_, _, _, effect⟩ | effect
    · cases effect
    · cases effect
      exact ⟨judgement, noted, congrArg B3LiteReceipt.minerWallet same,
        convicts judgement noted divergent⟩

/-- An answer that is not grounded leaves a verdict that is not right. -/
theorem Recorded.grounded (recorded : Recorded auditor judgements)
    (right : auditor.VerdictsRight judgements) :
    ∀ judgement ∈ judgements, judgement.Meets Grounded := by
  intro judgement mem
  obtain ⟨committed, decoded⟩ := Option.isSome_iff_exists.mp (recorded.decodes judgement mem)
  obtain ⟨stored, logged⟩ := recorded.logged judgement mem
  refine ⟨committed, decoded, grounded_iff.mpr ⟨?_, ?_⟩⟩
  · intro admissible
    rw [admissible] at logged
    obtain ⟨other, otherMem, entry, -, -, tokens, found, holds⟩ := right.admissible _ _ _ _ logged
    cases recorded.once other otherMem judgement mem entry
    cases decoded.symm.trans found
    exact holds
  · intro divergent
    rw [divergent] at logged
    obtain ⟨other, otherMem, entry, -, -, tokens, found, holds⟩ := right.divergent _ _ _ _ logged
    cases recorded.once other otherMem judgement mem entry
    cases decoded.symm.trans found
    exact holds

/-- In every run the verdicts and their consequences are right if and only if every
answer that was judged is grounded in the tokens of its receipt. -/
theorem verdictsRight_iff (run : system.Run (new trustedWallets) events auditor) :
    auditor.VerdictsRight (system.notes judges (new trustedWallets) events) ↔
      ∀ judgement ∈ system.notes judges (new trustedWallets) events,
        judgement.Meets Grounded := by
  have recorded : Recorded auditor (system.notes judges (new trustedWallets) events) :=
    run.noted judges recorded_new fun _ _ _ recorded enabled _ => recorded.next enabled
  exact ⟨recorded.grounded, recorded.verdictsRight⟩

/-! ## One audit -/

/-- A receipt of two tokens, and what a trusted auditor replies about it. -/
def repliedEvents (positions : List AuditPositionWire) : List Stimulus :=
  [⟨auditorRegistry, .tickBegin⟩,
    ⟨auditorRegistry, .listed (some [requestReceipt 1 "0500000007000000"])⟩,
    ⟨auditorRegistry, .resolved (some modelSource) true⟩,
    ⟨auditorRegistry, .auditResult "auditor" ⟨"r", positions⟩⟩,
    ⟨auditorRegistry, .woken⟩, ⟨auditorRegistry, .marked true⟩]

/-- Where the audit ends. -/
def replied (positions : List AuditPositionWire) : B3LiteAuditor :=
  system.execute (new ["auditor"]) (repliedEvents positions)

theorem replied_run (positions : List AuditPositionWire) :
    system.Run (new ["auditor"]) (repliedEvents positions) (replied positions) := by
  have admitted :
      system.Admits (fun _ _ => True) (new ["auditor"]) (repliedEvents positions) :=
    ⟨⟨rfl, trivial⟩, ⟨rfl, trivial⟩, ⟨⟨_, _, rfl⟩, trivial⟩, ⟨trivial, trivial⟩,
      ⟨⟨_, _, _, rfl⟩, trivial⟩, ⟨⟨_, _, .inr ⟨_, rfl⟩⟩, trivial⟩, trivial⟩
  exact admitted.runWith

theorem replied_judgements (positions : List AuditPositionWire) :
    system.notes judges (new ["auditor"]) (repliedEvents positions) =
      [⟨requestReceipt 1 "0500000007000000", positions, 3⟩] :=
  rfl

/-- Both tokens, of which the second is not the auditor's own. -/
def bothPositions : List AuditPositionWire :=
  [⟨0, 5, 5, true⟩, ⟨1, 7, 6, true⟩]

/-- An instance of `verdictsRight_iff`: an answer that has every token of the receipt. -/
theorem verdictsRight_replied :
    (replied bothPositions).VerdictsRight
      [⟨requestReceipt 1 "0500000007000000", bothPositions, 3⟩] := by
  rw [← replied_judgements]
  apply (verdictsRight_iff (replied_run bothPositions)).mpr
  intro judgement mem
  rw [replied_judgements, List.mem_singleton] at mem
  subst mem
  have covered : ∀ step token, [5, 7][step]? = some token →
      ∃ position ∈ bothPositions, AuditPositionWire.step position = step ∧
        position.committedTokenId = token := by
    intro step token found
    rcases step with _ | _ | step
    · cases found
      exact ⟨⟨0, 5, 5, true⟩, List.mem_cons_self, rfl, rfl⟩
    · cases found
      exact ⟨⟨1, 7, 6, true⟩, List.mem_cons_of_mem _ List.mem_cons_self, rfl, rfl⟩
    · cases found
  refine ⟨[5, 7], rfl, List.cons_ne_nil _ _, fun _ => covered, ?_⟩
  rintro ⟨position, mem, inadmissible⟩
  have admissible : ∀ position ∈ bothPositions, position.admissible = true := by decide
  rw [admissible position mem] at inadmissible
  cases inadmissible

/-- An empty answer convicts the miner. -/
theorem emptyAnswer_convicts :
    ∃ events auditor, system.Run (new ["auditor"]) events auditor ∧
      ¬ auditor.VerdictsRight (system.notes judges (new ["auditor"]) events) := by
  refine ⟨repliedEvents [], replied [], replied_run [], fun right => ?_⟩
  have marked : (replied []).log[3]? =
      some (.marked 1 .divergent (.positions []) true) := rfl
  rcases right.divergent _ _ _ _ marked with
    ⟨judgement, -, -, -, same, committed, -, position, mem, -⟩
  rw [← AuditDetail.positions.inj same] at mem
  cases mem

end B3LiteAuditor

end StratumBridge.Audit
