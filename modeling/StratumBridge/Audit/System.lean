import StratumBridge.Audit.Auditor
import StratumBridge.Transition.Run

/-!
# Runs of the auditor

The auditor as a system of events, and what one event can add to its log.
-/

namespace StratumBridge.Audit

open Data Wire Transition

/-- What can happen to the auditor. -/
inductive Event
  | tickBegin
  | listed (receipts : Option (List B3LiteReceipt))
  | resolved (source : Option ModelSource) (isOpen : Bool)
  | woken
  | replayed (answer : Except String (List AuditPositionWire))
  | marked (stored : Bool)
  | inserted (stored : Bool)
  | counted (count : Option Int)
  | auditResult (wallet : Wallet) (result : OpoiAuditResult)
  | disconnect (wallet : Wallet)

/-- An event together with the registry it finds. -/
structure Stimulus where
  registry : MinerRegistry
  event : Event

/-- The effect is a line for a miner. -/
def Effect.isLine : Effect → Bool
  | auditAssign _ _ _ => true
  | _ => false

namespace B3LiteAuditor

/-- One event. -/
def next (auditor : B3LiteAuditor) (stimulus : Stimulus) : B3LiteAuditor :=
  match stimulus.event with
  | .tickBegin => { auditor with tick := .listing }
  | .listed receipts => resumeListing receipts auditor
  | .resolved source isOpen => resumeResolved stimulus.registry source isOpen auditor
  | .woken => wake auditor
  | .replayed answer => resumeReplayed answer auditor
  | .marked stored => resumeMarked stored auditor
  | .inserted stored => resumeInserted stored auditor
  | .counted count => resumeCounted count auditor
  | .auditResult wallet result => handleAuditResult wallet result auditor
  | .disconnect wallet => onDisconnect wallet auditor

/-- An answer finds the tick waiting for it, and a tick starts when the one before
has ended. -/
def enabled (auditor : B3LiteAuditor) (stimulus : Stimulus) : Prop :=
  match stimulus.event with
  | .tickBegin => auditor.tick = .idle
  | .listed _ => auditor.tick = .listing
  | .resolved _ _ => ∃ receipt rest, auditor.tick = .resolving receipt rest
  | .woken => ∃ waiter replay rest, auditor.tick = .waiting waiter replay rest
  | .replayed _ => ∃ receipt rest, auditor.tick = .replaying receipt rest
  | .marked _ =>
      ∃ receipt rest, (∃ reason, auditor.tick = .closing reason receipt rest) ∨
        ∃ positions, auditor.tick = .marking positions receipt rest
  | .inserted _ =>
      ∃ receipt rest, auditor.tick = .withholding receipt rest ∨
        auditor.tick = .flagging receipt rest ∨
        ∃ count, auditor.tick = .ejecting count receipt rest
  | .counted _ => ∃ receipt rest, auditor.tick = .counting receipt rest
  | _ => True

/-- The auditor as a system of events. -/
def system : System B3LiteAuditor Stimulus where
  enabled := enabled
  next := next

/-! ## Lines -/

/-- The line an event sends, and how its auditor was found. -/
inductive Sends (auditor : B3LiteAuditor) : Stimulus → Effect → Prop
  | intro {registry source receipt rest replay wallet tx}
      (resolving : auditor.tick = .resolving receipt rest)
      (prepared : prepare receipt source = .ok replay)
      (picked : registry.pickAuditorCapable auditor.trustedWallets receipt.minerWallet =
        some wallet) (connected : registry.get wallet = some tx) :
      Sends auditor ⟨registry, .resolved source true⟩ (.auditAssign wallet tx replay.assign)

/-- The log grows, by no other line than the event's. -/
def Adds (auditor : B3LiteAuditor) (stimulus : Stimulus) (after : B3LiteAuditor) : Prop :=
  ∃ emitted, after.log = auditor.log ++ emitted ∧
    ∀ effect ∈ emitted, effect.isLine = true → auditor.Sends stimulus effect

variable {auditor after : B3LiteAuditor} {stimulus : Stimulus} {registry : MinerRegistry}

theorem Adds.nothing (same : after.log = auditor.log) : auditor.Adds stimulus after :=
  ⟨[], by rw [same, List.append_nil], fun _ mem => absurd mem List.not_mem_nil⟩

theorem Adds.silent {effect : Effect} (logged : after.log = auditor.log ++ [effect])
    (quiet : effect.isLine = false) : auditor.Adds stimulus after := by
  refine ⟨[effect], logged, ?_⟩
  intro added mem line
  cases List.mem_singleton.mp mem
  rw [quiet] at line
  cases line

theorem resumeResolved_adds {receipt : B3LiteReceipt} {rest : List B3LiteReceipt}
    (resolving : auditor.tick = .resolving receipt rest) (source : Option ModelSource)
    (isOpen : Bool) :
    auditor.Adds ⟨registry, .resolved source isOpen⟩
      (resumeResolved registry source isOpen auditor) := by
  simp only [resumeResolved, resolving]
  cases prepared : prepare receipt source with
  | error reason => exact .nothing rfl
  | ok replay =>
      dsimp only
      cases picked : registry.pickAuditorCapable auditor.trustedWallets receipt.minerWallet with
      | none => exact .silent rfl rfl
      | some wallet =>
          simp only [dispatchViaStratum]
          cases connected : registry.get wallet with
          | none => exact .silent rfl rfl
          | some tx =>
              cases isOpen with
              | false => exact .silent rfl rfl
              | true =>
                  refine ⟨[.auditAssign wallet tx replay.assign], rfl, ?_⟩
                  intro effect mem _
                  cases List.mem_singleton.mp mem
                  exact .intro resolving prepared picked connected

theorem resumeMarked_adds (stored : Bool) :
    auditor.Adds stimulus (resumeMarked stored auditor) := by
  unfold resumeMarked
  split
  · exact .silent rfl rfl
  · dsimp only
    split
    · exact .silent rfl rfl
    · exact .silent rfl rfl
  · exact .nothing rfl

theorem handleAuditResult_adds (wallet : Wallet) (result : OpoiAuditResult) :
    auditor.Adds stimulus (handleAuditResult wallet result auditor) := by
  unfold handleAuditResult
  cases auditor.auditAssignments result.requestId with
  | none => exact .silent rfl rfl
  | some assigned =>
      by_cases mine : assigned = wallet
      · simp only [mine, if_true]
        cases auditor.pending result.requestId with
        | none => exact .nothing rfl
        | some waiter => exact .silent rfl rfl
      · simp only [mine, if_false]
        exact .silent rfl rfl

/-- What an event adds to the log. -/
theorem next_adds (enabled : auditor.enabled stimulus) :
    auditor.Adds stimulus (next auditor stimulus) := by
  rcases stimulus with ⟨registry, event⟩
  cases event with
  | tickBegin => exact .nothing rfl
  | listed receipts =>
      have listing : auditor.tick = .listing := enabled
      simp only [next, resumeListing, listing]
      exact .nothing rfl
  | resolved source isOpen =>
      rcases enabled with ⟨receipt, rest, resolving⟩
      exact resumeResolved_adds resolving source isOpen
  | woken =>
      rcases enabled with ⟨waiter, replay, rest, waiting⟩
      simp only [next, wake, waiting]
      cases auditor.replies waiter with
      | none => exact .silent rfl rfl
      | some positions => exact .silent rfl rfl
  | replayed answer =>
      rcases enabled with ⟨receipt, rest, replaying⟩
      simp only [next, resumeReplayed, replaying]
      cases answer with
      | error reason => exact .nothing rfl
      | ok positions => exact .nothing rfl
  | marked stored => exact resumeMarked_adds stored
  | inserted stored =>
      rcases enabled with ⟨receipt, rest, withholding | flagging | ⟨count, ejecting⟩⟩
      · simp only [next, resumeInserted, withholding]
        exact .silent rfl rfl
      · simp only [next, resumeInserted, flagging]
        exact .silent rfl rfl
      · simp only [next, resumeInserted, ejecting]
        exact .silent rfl rfl
  | counted count =>
      rcases enabled with ⟨receipt, rest, counting⟩
      simp only [next, resumeCounted, counting]
      cases count with
      | none => exact .nothing rfl
      | some n =>
          dsimp only
          split
          · exact .silent rfl rfl
          · exact .nothing rfl
  | auditResult wallet result => exact handleAuditResult_adds wallet result
  | disconnect wallet => exact .nothing rfl

/-! ## Bans -/

/-- The wallet an event makes the auditor ban. -/
def bans (auditor : B3LiteAuditor) : Event → Option Wallet
  | .counted (some n) =>
      match auditor.tick with
      | .counting receipt _ =>
          if ejectAfterDivergences ≤ n then some receipt.minerWallet else none
      | _ => none
  | _ => none

end B3LiteAuditor

end StratumBridge.Audit
