import StratumBridge.Audit.System

/-!
# Replies and the receipts they are used for

A reply is matched by its request and its wallet.  Several receipts can have one
request, and one auditor can be asked about each of them; a reply that is late for
one is then taken for another.  An observer notes where the line of every dispatch
stands in the log, and for every reply that is taken, when it was sent and which
line it answers.
-/

namespace StratumBridge.Audit

open Data Wire Transition

/-- When a reply left its auditor, and the line that it answers, as positions of
the log. -/
structure Postmark where
  sentAt : Nat
  answers : Nat

/-- The line of a dispatch, with the registry that its wallet was found in. -/
structure SentLine where
  waiter : Waiter
  position : Nat
  registry : MinerRegistry

/-- A reply that was handed to a dispatch. -/
structure Delivery where
  waiter : Waiter
  wallet : Wallet
  result : OpoiAuditResult
  postmark : Postmark

/-- What the observer has noted. -/
structure Notes where
  lines : List SentLine
  deliveries : List Delivery

/-- An event, with the postmark of its reply if it has one. -/
structure Arrival where
  stimulus : Stimulus
  postmark : Postmark

/-- Nothing is noted yet. -/
def Notes.none : Notes :=
  ⟨[], []⟩

/-- Nothing but the database or the subprocess is heard. -/
def Event.isInward : Event → Bool
  | resolved _ _ => false
  | woken => false
  | auditResult _ _ => false
  | disconnect _ => false
  | _ => true

namespace B3LiteAuditor

/-- A line for a wallet stands in the log. -/
def Asked (auditor : B3LiteAuditor) (position : Nat) (wallet : Wallet) (assign : OpoiAuditAssign) :
    Prop :=
  ∃ tx, auditor.log[position]? = some (.auditAssign wallet tx assign)

/-- A reply was sent after the line that it answers, which asked its wallet about
its request. -/
def Posted (auditor : B3LiteAuditor) (arrival : Arrival) : Prop :=
  match arrival.stimulus.event with
  | .auditResult wallet result =>
      arrival.postmark.answers < arrival.postmark.sentAt ∧
        arrival.postmark.sentAt ≤ auditor.log.length ∧
        ∃ assign, auditor.Asked arrival.postmark.answers wallet assign ∧
          assign.requestId = result.requestId
  | _ => True

/-- The line that an event sends, as the observer notes it. -/
def lineOf (auditor : B3LiteAuditor) (stimulus : Stimulus) : Option SentLine :=
  match (auditor.next stimulus).tick with
  | .waiting waiter _ _ =>
      if waiter = auditor.nextWaiter then
        some ⟨waiter, auditor.log.length, stimulus.registry⟩
      else
        none
  | _ => none

/-- The reply that an event hands over, as the observer notes it. -/
def deliveryOf (auditor : B3LiteAuditor) (arrival : Arrival) : Option Delivery :=
  match arrival.stimulus.event with
  | .auditResult wallet result =>
      if auditor.auditAssignments result.requestId = some wallet then
        (auditor.pending result.requestId).map fun waiter =>
          ⟨waiter, wallet, result, arrival.postmark⟩
      else
        none
  | _ => none

/-- The observer looks at an event. -/
def note (auditor : B3LiteAuditor) (notes : Notes) (arrival : Arrival) : Notes where
  lines := notes.lines ++ (auditor.lineOf arrival.stimulus).toList
  deliveries := notes.deliveries ++ (auditor.deliveryOf arrival).toList

/-- The auditor beside its observer. -/
def heardSystem : System (B3LiteAuditor × Notes) Arrival where
  enabled := fun both arrival => both.1.enabled arrival.stimulus ∧ both.1.Posted arrival
  next := fun both arrival =>
    (both.1.next arrival.stimulus, both.1.note both.2 arrival)

/-- A replay was dispatched to a wallet: by its own line, and chosen as
`pick_auditor_capable` promises. -/
structure Dispatched (trustedWallets : List Wallet) (auditor : B3LiteAuditor) (notes : Notes)
    (waiter : Waiter) (replay : Replay) (line : SentLine) (wallet : Wallet) : Prop where
  noted : line ∈ notes.lines
  waiter : line.waiter = waiter
  asked : auditor.Asked line.position wallet replay.assign
  trusted : wallet ∈ trustedWallets
  capable : wallet ∈ line.registry.auditorCapable
  other : wallet ≠ replay.receipt.minerWallet

/-- The positions that a dispatch returns were sent to it after its line, by its
wallet, in answer to a line about its request and its committed tokens. -/
structure AnswersReplay (trustedWallets : List Wallet) (auditor : B3LiteAuditor) (notes : Notes)
    (waiter : Waiter) (replay : Replay) (positions : List AuditPositionWire) (line : SentLine)
    (delivery : Delivery) : Prop where
  dispatched : Dispatched trustedWallets auditor notes waiter replay line delivery.wallet
  delivered : delivery ∈ notes.deliveries
  waiter : delivery.waiter = waiter
  request : delivery.result.requestId = replay.receipt.requestId
  positions : delivery.result.positions = positions
  after : line.position < delivery.postmark.sentAt
  answers : ∃ assign, auditor.Asked delivery.postmark.answers delivery.wallet assign ∧
    assign.requestId = replay.receipt.requestId ∧
    assign.committedTokenIds = replay.committedTokenIds

/-- Everything that `dispatch_via_stratum` returned was meant for its receipt. -/
def UsedForReceipt (trustedWallets : List Wallet) (auditor : B3LiteAuditor) (notes : Notes) :
    Prop :=
  ∀ waiter replay positions, .returned waiter replay positions ∈ auditor.log →
    ∃ line delivery,
      AnswersReplay trustedWallets auditor notes waiter replay positions line delivery

/-- The condition on a step: a reply to an earlier line reaches a waiting dispatch
only if it was sent after the line of the dispatch, and the earlier line had the
same committed tokens. -/
def LateGuard (both : B3LiteAuditor × Notes) (arrival : Arrival) : Prop :=
  match arrival.stimulus.event with
  | .auditResult wallet result =>
      ∀ line ∈ both.2.lines, both.1.pending result.requestId = some line.waiter →
        ∀ earlier assign, both.1.Asked arrival.postmark.answers wallet earlier →
          both.1.Asked line.position wallet assign →
          arrival.postmark.answers < line.position →
          line.position < arrival.postmark.sentAt ∧
            earlier.committedTokenIds = assign.committedTokenIds
  | _ => True

variable {trustedWallets : List Wallet} {auditor after : B3LiteAuditor} {notes later : Notes}
  {stimulus : Stimulus} {arrival : Arrival} {waiter : Waiter} {replay : Replay}
  {positions : List AuditPositionWire} {line : SentLine} {delivery : Delivery} {wallet : Wallet}
  {registry : MinerRegistry}

/-! ## What stays true -/

/-- The log and the notes only grow. -/
structure Extends (auditor after : B3LiteAuditor) (notes later : Notes) : Prop where
  log : auditor.log <+: after.log
  lines : notes.lines ⊆ later.lines
  deliveries : notes.deliveries ⊆ later.deliveries

theorem Asked.extend {position : Nat} {assign : OpoiAuditAssign}
    (asked : auditor.Asked position wallet assign) (grows : auditor.log <+: after.log) :
    after.Asked position wallet assign := by
  rcases asked with ⟨tx, stands⟩
  rcases grows with ⟨emitted, grown⟩
  refine ⟨tx, ?_⟩
  rw [← grown, List.getElem?_append_left (List.getElem?_eq_some_iff.mp stands).1]
  exact stands

/-- Only a line adds a line. -/
theorem Asked.of_append {position : Nat} {assign : OpoiAuditAssign} {emitted : List Effect}
    (asked : after.Asked position wallet assign) (grown : after.log = auditor.log ++ emitted)
    (silent : ∀ effect ∈ emitted, effect.isLine = false) :
    auditor.Asked position wallet assign := by
  rcases asked with ⟨tx, stands⟩
  rw [grown, List.getElem?_append] at stands
  split at stands
  · exact ⟨tx, stands⟩
  · cases silent _ (List.mem_of_getElem? stands)

theorem Dispatched.extend
    (dispatched : Dispatched trustedWallets auditor notes waiter replay line wallet)
    (grows : Extends auditor after notes later) :
    Dispatched trustedWallets after later waiter replay line wallet :=
  { dispatched with
    noted := grows.lines dispatched.noted
    asked := dispatched.asked.extend grows.log }

theorem AnswersReplay.extend
    (answers : AnswersReplay trustedWallets auditor notes waiter replay positions line delivery)
    (grows : Extends auditor after notes later) :
    AnswersReplay trustedWallets after later waiter replay positions line delivery :=
  { answers with
    dispatched := answers.dispatched.extend grows
    delivered := grows.deliveries answers.delivered
    answers := by
      rcases answers.answers with ⟨assign, asked, same⟩
      exact ⟨assign, asked.extend grows.log, same⟩ }

/-- A dispatch at its await. -/
structure Waiting (trustedWallets : List Wallet) (auditor : B3LiteAuditor) (notes : Notes)
    (waiter : Waiter) (replay : Replay) (line : SentLine) (wallet : Wallet) : Prop where
  dispatched : Dispatched trustedWallets auditor notes waiter replay line wallet
  fresh : waiter < auditor.nextWaiter
  held : auditor.pending replay.receipt.requestId = some waiter →
    auditor.auditAssignments replay.receipt.requestId = some wallet
  last : ∀ position other assign, auditor.Asked position other assign → position ≤ line.position

/-- Only the dispatch that waits has a sender, and what it was sent, or has
returned, was meant for its receipt. -/
structure Kept (trustedWallets : List Wallet) (auditor : B3LiteAuditor) (notes : Notes) :
    Prop where
  trusts : auditor.trustedWallets = trustedWallets
  waiting : ∀ waiter replay rest, auditor.tick = .waiting waiter replay rest →
    ∃ line wallet, Waiting trustedWallets auditor notes waiter replay line wallet
  pending : ∀ requestId waiter, auditor.pending requestId = some waiter →
    ∃ replay rest, auditor.tick = .waiting waiter replay rest ∧
      replay.receipt.requestId = requestId
  replies : ∀ waiter positions, auditor.replies waiter = some positions →
    waiter < auditor.nextWaiter ∧
      ∀ replay rest, auditor.tick = .waiting waiter replay rest → ∃ line delivery,
        AnswersReplay trustedWallets auditor notes waiter replay positions line delivery
  returned : UsedForReceipt trustedWallets auditor notes

theorem kept_new (trustedWallets : List Wallet) :
    Kept trustedWallets (new trustedWallets) Notes.none where
  trusts := rfl
  waiting := by
    intro waiter replay rest waits
    cases waits
  pending := by
    intro requestId waiter pending
    cases pending
  replies := by
    intro waiter positions reply
    cases reply
  returned := by
    intro waiter replay positions mem
    cases mem

/-! ## Events that leave no dispatch waiting -/

/-- The effect is what a dispatch returns. -/
def isReturn : Effect → Bool
  | .returned _ _ _ => true
  | _ => false

/-- A dispatch is at its await. -/
def isWaiting : Tick → Bool
  | .waiting _ _ _ => true
  | _ => false

theorem ne_waiting {tick : Tick} (idle : isWaiting tick = false) (waiter : Waiter)
    (replay : Replay) (rest : List B3LiteReceipt) : tick ≠ .waiting waiter replay rest := by
  rintro rfl
  cases idle

/-- No dispatch waits after an event that hands nothing over and returns
nothing. -/
structure Quiet (auditor after : B3LiteAuditor) : Prop where
  trusts : after.trustedWallets = auditor.trustedWallets
  idle : isWaiting after.tick = false
  pending : ∀ requestId, after.pending requestId = none
  replies : after.replies = auditor.replies
  waiters : auditor.nextWaiter ≤ after.nextWaiter
  log : ∃ emitted, after.log = auditor.log ++ emitted ∧
    ∀ effect ∈ emitted, isReturn effect = false

theorem Kept.quiet (kept : Kept trustedWallets auditor notes) (quiet : Quiet auditor after)
    (lines : notes.lines ⊆ later.lines) (deliveries : notes.deliveries ⊆ later.deliveries) :
    Kept trustedWallets after later where
  trusts := quiet.trusts.trans kept.trusts
  waiting := fun waiter replay rest waits => absurd waits (ne_waiting quiet.idle waiter replay rest)
  pending := by
    intro requestId waiter pending
    rw [quiet.pending] at pending
    cases pending
  replies := by
    intro waiter positions reply
    rw [quiet.replies] at reply
    constructor
    · exact (kept.replies waiter positions reply).1.trans_le quiet.waiters
    · exact fun replay rest waits => absurd waits (ne_waiting quiet.idle waiter replay rest)
  returned := by
    intro waiter replay positions mem
    rcases quiet.log with ⟨emitted, grown, silent⟩
    have grows : Extends auditor after notes later := ⟨⟨emitted, grown.symm⟩, lines, deliveries⟩
    rw [grown] at mem
    rcases List.mem_append.mp mem with old | new
    · obtain ⟨line, delivery, answers⟩ := kept.returned waiter replay positions old
      exact ⟨line, delivery, answers.extend grows⟩
    · cases silent _ new

/-- Only a waiting dispatch has a sender. -/
theorem Kept.unheld (kept : Kept trustedWallets auditor notes)
    (idle : isWaiting auditor.tick = false) (requestId : RequestId) :
    auditor.pending requestId = none := by
  by_contra held
  obtain ⟨waiter, pending⟩ := Option.ne_none_iff_exists'.mp held
  obtain ⟨replay, rest, waits, -⟩ := kept.pending requestId waiter pending
  exact ne_waiting idle waiter replay rest waits

theorem quiet_move {tick : Tick} (unheld : ∀ requestId, auditor.pending requestId = none)
    (idle : isWaiting tick = false) : Quiet auditor { auditor with tick } :=
  ⟨rfl, idle, unheld, rfl, le_rfl, [], (List.append_nil _).symm,
    fun _ mem => absurd mem List.not_mem_nil⟩

theorem quiet_emit {tick : Tick} {effect : Effect}
    (unheld : ∀ requestId, auditor.pending requestId = none)
    (idle : isWaiting tick = false) (silent : isReturn effect = false) :
    Quiet auditor { auditor.emit [effect] with tick } := by
  refine ⟨rfl, idle, unheld, rfl, le_rfl, [effect], rfl, ?_⟩
  intro other mem
  rw [List.mem_singleton.mp mem]
  exact silent

theorem isWaiting_goOn (auditor : B3LiteAuditor) (rest : List B3LiteReceipt) :
    isWaiting (auditor.goOn rest).tick = false := by
  cases rest <;> rfl

/-- The subprocess takes over once the maps have forgotten the request. -/
theorem quiet_dispatchViaSubprocess {rest : List B3LiteReceipt} {between : B3LiteAuditor}
    (trusts : between.trustedWallets = auditor.trustedWallets)
    (unheld : ∀ requestId, between.pending requestId = none)
    (replies : between.replies = auditor.replies)
    (waiters : auditor.nextWaiter ≤ between.nextWaiter)
    (log : between.log = auditor.log) :
    Quiet auditor (dispatchViaSubprocess replay rest between) := by
  refine ⟨trusts, rfl, unheld, replies, waiters, [.subprocess replay.request], ?_, ?_⟩
  · rw [dispatchViaSubprocess, log]
  · intro effect mem
    rw [List.mem_singleton.mp mem]
    rfl

/-- A dispatch that is not made, or made and waiting. -/
theorem resumeResolved_cases {registry : MinerRegistry} {source : Option ModelSource}
    {isOpen : Bool} {receipt : B3LiteReceipt} {rest : List B3LiteReceipt}
    (resolving : auditor.tick = .resolving receipt rest)
    (unheld : ∀ requestId, auditor.pending requestId = none) :
    Quiet auditor (resumeResolved registry source isOpen auditor) ∨
      ∃ replay wallet tx, prepare receipt source = .ok replay ∧
        registry.pickAuditorCapable auditor.trustedWallets receipt.minerWallet = some wallet ∧
        resumeResolved registry source isOpen auditor =
          { auditor with
            auditAssignments := auditor.auditAssignments.insert replay.receipt.requestId wallet
            pending := auditor.pending.insert replay.receipt.requestId auditor.nextWaiter
            nextWaiter := auditor.nextWaiter + 1
            tick := .waiting auditor.nextWaiter replay rest
            log := auditor.log ++ [.auditAssign wallet tx replay.assign] } := by
  simp only [resumeResolved, resolving]
  cases prepared : prepare receipt source with
  | error reason => exact .inl (quiet_move unheld rfl)
  | ok replay =>
      dsimp only
      cases picked : registry.pickAuditorCapable auditor.trustedWallets receipt.minerWallet with
      | none => exact .inl (quiet_dispatchViaSubprocess rfl unheld rfl le_rfl rfl)
      | some wallet =>
          simp only [dispatchViaStratum]
          cases connected : registry.get wallet with
          | none => exact .inl (quiet_dispatchViaSubprocess rfl unheld rfl le_rfl rfl)
          | some tx =>
              cases isOpen with
              | true => exact .inr ⟨replay, wallet, tx, rfl, rfl, rfl⟩
              | false =>
                  refine .inl (quiet_dispatchViaSubprocess rfl ?_ rfl (Nat.le_succ _) rfl)
                  intro requestId
                  by_cases same : requestId = replay.receipt.requestId
                  · subst same
                    exact PartialMap.remove_self ..
                  · exact (PartialMap.remove_of_ne _ same).trans
                      ((PartialMap.insert_of_ne _ _ same).trans (unheld requestId))

/-- The stretches of the tick that wait for the database or the subprocess. -/
theorem quiet_next
    (unheld : isWaiting auditor.tick = false → ∀ requestId, auditor.pending requestId = none)
    (enabled : auditor.enabled stimulus) (inward : stimulus.event.isInward = true) :
    Quiet auditor (auditor.next stimulus) := by
  rcases stimulus with ⟨registry, event⟩
  cases event with
  | tickBegin =>
      have idle : auditor.tick = .idle := enabled
      exact quiet_move (unheld (by rw [idle]; rfl)) rfl
  | listed receipts =>
      have listing : auditor.tick = .listing := enabled
      have none := unheld (by rw [listing]; rfl)
      simp only [next, resumeListing, listing]
      exact quiet_move none (isWaiting_goOn auditor _)
  | resolved source isOpen => cases inward
  | woken => cases inward
  | replayed answer =>
      rcases enabled with ⟨receipt, rest, replaying⟩
      have none := unheld (by rw [replaying]; rfl)
      simp only [next, resumeReplayed, replaying]
      cases answer with
      | error reason => exact quiet_move none rfl
      | ok positions => exact quiet_move none rfl
  | marked stored =>
      rcases enabled with ⟨receipt, rest, ⟨reason, closing⟩ | ⟨positions, marking⟩⟩
      · have none := unheld (by rw [closing]; rfl)
        simp only [next, resumeMarked, closing]
        exact quiet_emit none (isWaiting_goOn auditor _) rfl
      · have none := unheld (by rw [marking]; rfl)
        simp only [next, resumeMarked, marking]
        split
        · exact quiet_emit none (isWaiting_goOn auditor _) rfl
        · exact quiet_emit none rfl rfl
  | inserted stored =>
      rcases enabled with ⟨receipt, rest, withholding | flagging | ⟨count, ejecting⟩⟩
      · have none := unheld (by rw [withholding]; rfl)
        simp only [next, resumeInserted, withholding]
        exact quiet_emit none rfl rfl
      · have none := unheld (by rw [flagging]; rfl)
        simp only [next, resumeInserted, flagging]
        exact quiet_emit none rfl rfl
      · have none := unheld (by rw [ejecting]; rfl)
        simp only [next, resumeInserted, ejecting]
        exact quiet_emit none (isWaiting_goOn auditor _) rfl
  | counted count =>
      rcases enabled with ⟨receipt, rest, counting⟩
      have none := unheld (by rw [counting]; rfl)
      simp only [next, resumeCounted, counting]
      cases count with
      | none => exact quiet_move none (isWaiting_goOn auditor _)
      | some n =>
          dsimp only
          split
          · exact quiet_emit none rfl rfl
          · exact quiet_move none (isWaiting_goOn auditor _)
  | auditResult wallet result => cases inward
  | disconnect wallet => cases inward

/-! ## Events of a dispatch -/

/-- A dispatch is sent. -/
theorem Kept.sent {receipt : B3LiteReceipt} {rest : List B3LiteReceipt}
    {registry : MinerRegistry} {source : Option ModelSource} {tx : Channel}
    (kept : Kept trustedWallets auditor notes) (resolving : auditor.tick = .resolving receipt rest)
    (prepared : prepare receipt source = .ok replay)
    (picked : registry.pickAuditorCapable auditor.trustedWallets receipt.minerWallet = some wallet)
    (sent : after =
      { auditor with
        auditAssignments := auditor.auditAssignments.insert replay.receipt.requestId wallet
        pending := auditor.pending.insert replay.receipt.requestId auditor.nextWaiter
        nextWaiter := auditor.nextWaiter + 1
        tick := .waiting auditor.nextWaiter replay rest
        log := auditor.log ++ [.auditAssign wallet tx replay.assign] })
    (noted : ⟨auditor.nextWaiter, auditor.log.length, registry⟩ ∈ later.lines)
    (lines : notes.lines ⊆ later.lines) (deliveries : notes.deliveries ⊆ later.deliveries) :
    Kept trustedWallets after later := by
  have unheld : ∀ requestId, auditor.pending requestId = none := by
    apply kept.unheld
    rw [resolving]
    rfl
  have grows : Extends auditor after notes later := by
    refine ⟨?_, lines, deliveries⟩
    rw [sent]
    exact List.prefix_append ..
  have ofReceipt := (of_prepare prepared).1
  have chosen := MinerRegistry.of_pickAuditorCapable picked
  subst sent
  constructor
  · exact kept.trusts
  · rintro waiter other others ⟨⟩
    refine ⟨⟨auditor.nextWaiter, auditor.log.length, registry⟩, wallet, ?_, Nat.lt_succ_self _,
      fun _ => PartialMap.insert_self .., ?_⟩
    · constructor
      · exact noted
      · rfl
      · exact ⟨tx, List.getElem?_concat_length ..⟩
      · rw [← kept.trusts]
        exact chosen.2.2.1
      · exact chosen.2.1
      · rw [ofReceipt]
        exact chosen.2.2.2
    · rintro position other assign ⟨tx, stands⟩
      have inside := (List.getElem?_eq_some_iff.mp stands).1
      simp only [List.length_append, List.length_singleton] at inside
      exact Nat.lt_succ_iff.mp inside
  · intro requestId waiter pending
    by_cases same : requestId = replay.receipt.requestId
    · subst same
      cases (PartialMap.insert_self ..).symm.trans pending
      exact ⟨replay, rest, rfl, rfl⟩
    · cases (unheld requestId).symm.trans ((PartialMap.insert_of_ne _ _ same).symm.trans pending)
  · intro waiter positions reply
    have fresh := (kept.replies waiter positions reply).1
    refine ⟨Nat.lt_succ_of_lt fresh, ?_⟩
    rintro other others ⟨⟩
    exact absurd fresh (Nat.lt_irrefl _)
  · intro waiter other positions mem
    rcases List.mem_append.mp mem with old | new
    · obtain ⟨line, delivery, answers⟩ := kept.returned waiter other positions old
      exact ⟨line, delivery, answers.extend grows⟩
    · cases List.mem_singleton.mp new

/-- A dispatch returns, or gives way to the subprocess. -/
theorem Kept.woken (kept : Kept trustedWallets auditor notes)
    (enabled : ∃ waiter replay rest, auditor.tick = .waiting waiter replay rest)
    (lines : notes.lines ⊆ later.lines) (deliveries : notes.deliveries ⊆ later.deliveries) :
    Kept trustedWallets auditor.wake later := by
  rcases enabled with ⟨waiter, replay, rest, waits⟩
  have unheld : ∀ requestId,
      (auditor.forget replay.receipt.requestId).pending requestId = none := by
    intro requestId
    by_contra held
    obtain ⟨other, pending⟩ := Option.ne_none_iff_exists'.mp held
    obtain ⟨ne, stood⟩ := PartialMap.of_remove_eq_some pending
    obtain ⟨replayed, others, waitsToo, isRequest⟩ := kept.pending requestId other stood
    cases waits.symm.trans waitsToo
    exact ne isRequest.symm
  cases reply : auditor.replies waiter with
  | none =>
      have quiet : Quiet auditor auditor.wake := by
        simp only [wake, waits, reply]
        exact quiet_dispatchViaSubprocess rfl unheld rfl le_rfl rfl
      exact kept.quiet quiet lines deliveries
  | some positions =>
      have result : auditor.wake =
          { auditor.forget replay.receipt.requestId with
            tick := .marking positions replay.receipt rest
            log := auditor.log ++ [.returned waiter replay positions] } := by
        simp only [wake, waits, reply]
        rfl
      rw [result]
      constructor
      · exact kept.trusts
      · rintro other replayed others ⟨⟩
      · intro requestId other pending
        cases (unheld requestId).symm.trans pending
      · intro other answered again
        refine ⟨(kept.replies other answered again).1, ?_⟩
        rintro replayed others ⟨⟩
      · intro other replayed answered mem
        have grows : Extends auditor
            { auditor.forget replay.receipt.requestId with
              tick := .marking positions replay.receipt rest
              log := auditor.log ++ [.returned waiter replay positions] } notes later :=
          ⟨List.prefix_append .., lines, deliveries⟩
        rcases List.mem_append.mp mem with old | new
        · obtain ⟨line, delivery, answers⟩ := kept.returned other replayed answered old
          exact ⟨line, delivery, answers.extend grows⟩
        · cases List.mem_singleton.mp new
          rcases (kept.replies waiter positions reply).2 replay rest waits with
            ⟨line, delivery, answers⟩
          exact ⟨line, delivery, answers.extend grows⟩

/-- Senders are dropped with the wallets that were to use them. -/
theorem Kept.disconnected (kept : Kept trustedWallets auditor notes) (gone : Wallet)
    (lines : notes.lines ⊆ later.lines) (deliveries : notes.deliveries ⊆ later.deliveries) :
    Kept trustedWallets (auditor.onDisconnect gone) later := by
  have grows : Extends auditor (auditor.onDisconnect gone) notes later :=
    ⟨List.prefix_rfl, lines, deliveries⟩
  have pendingBefore : ∀ {requestId waiter},
      (auditor.onDisconnect gone).pending requestId = some waiter →
      auditor.auditAssignments requestId ≠ some gone ∧
        auditor.pending requestId = some waiter := by
    intro requestId waiter pending
    change (if auditor.auditAssignments requestId = some gone then none
      else auditor.pending requestId) = some waiter at pending
    split at pending
    · cases pending
    · exact ⟨‹_›, pending⟩
  constructor
  · exact kept.trusts
  · intro waiter replay rest waits
    obtain ⟨line, wallet, waiting⟩ := kept.waiting waiter replay rest waits
    refine ⟨line, wallet, waiting.dispatched.extend grows, waiting.fresh, ?_, waiting.last⟩
    intro pending
    obtain ⟨others, stood⟩ := pendingBefore pending
    have assigned := waiting.held stood
    refine PartialMap.retain_eq_some_iff.mpr ⟨assigned, ?_⟩
    rw [assigned] at others
    exact decide_eq_true fun same => others (congrArg some same)
  · intro requestId waiter pending
    exact kept.pending requestId waiter (pendingBefore pending).2
  · intro waiter positions reply
    refine ⟨(kept.replies waiter positions reply).1, ?_⟩
    intro replay rest waits
    rcases (kept.replies waiter positions reply).2 replay rest waits with
      ⟨line, delivery, answers⟩
    exact ⟨line, delivery, answers.extend grows⟩
  · intro waiter replay positions mem
    obtain ⟨line, delivery, answers⟩ := kept.returned waiter replay positions mem
    exact ⟨line, delivery, answers.extend grows⟩

/-- A reply that is turned away. -/
theorem Kept.unheard (kept : Kept trustedWallets auditor notes) (emitted : List Effect)
    (silent : ∀ effect ∈ emitted, isReturn effect = false ∧ effect.isLine = false)
    (lines : notes.lines ⊆ later.lines) (deliveries : notes.deliveries ⊆ later.deliveries) :
    Kept trustedWallets (auditor.emit emitted) later := by
  have grows : Extends auditor (auditor.emit emitted) notes later :=
    ⟨List.prefix_append .., lines, deliveries⟩
  constructor
  · exact kept.trusts
  · intro waiter replay rest waits
    obtain ⟨line, wallet, waiting⟩ := kept.waiting waiter replay rest waits
    refine ⟨line, wallet, waiting.dispatched.extend grows, waiting.fresh, waiting.held, ?_⟩
    intro position other assign asked
    exact waiting.last position other assign
      (asked.of_append rfl fun effect mem => (silent effect mem).2)
  · exact kept.pending
  · intro waiter positions reply
    refine ⟨(kept.replies waiter positions reply).1, ?_⟩
    intro replay rest waits
    rcases (kept.replies waiter positions reply).2 replay rest waits with
      ⟨line, delivery, answers⟩
    exact ⟨line, delivery, answers.extend grows⟩
  · intro waiter replay positions mem
    rcases List.mem_append.mp mem with old | new
    · obtain ⟨line, delivery, answers⟩ := kept.returned waiter replay positions old
      exact ⟨line, delivery, answers.extend grows⟩
    · cases (silent _ new).1

theorem Kept.unheard_nothing (kept : Kept trustedWallets auditor notes)
    (lines : notes.lines ⊆ later.lines) (deliveries : notes.deliveries ⊆ later.deliveries) :
    Kept trustedWallets auditor later := by
  have nothing := kept.unheard [] (fun _ mem => absurd mem List.not_mem_nil) lines deliveries
  rwa [emit, List.append_nil] at nothing

/-- A reply is handed over. -/
theorem Kept.delivered (kept : Kept trustedWallets auditor notes) {result : OpoiAuditResult}
    {postmark : Postmark}
    (assigned : auditor.auditAssignments result.requestId = some wallet)
    (held : auditor.pending result.requestId = some waiter)
    (posted : auditor.Posted ⟨⟨registry, .auditResult wallet result⟩, postmark⟩)
    (guarded : LateGuard (auditor, notes) ⟨⟨registry, .auditResult wallet result⟩, postmark⟩)
    (noted : ⟨waiter, wallet, result, postmark⟩ ∈ later.deliveries)
    (lines : notes.lines ⊆ later.lines) (deliveries : notes.deliveries ⊆ later.deliveries) :
    Kept trustedWallets
      { auditor with
        pending := auditor.pending.remove result.requestId
        replies := auditor.replies.insert waiter result.positions
        log := auditor.log ++ [.delivered waiter wallet result] } later := by
  have grows : Extends auditor
      { auditor with
        pending := auditor.pending.remove result.requestId
        replies := auditor.replies.insert waiter result.positions
        log := auditor.log ++ [.delivered waiter wallet result] } notes later :=
    ⟨List.prefix_append .., lines, deliveries⟩
  obtain ⟨replay, rest, waits, isRequest⟩ := kept.pending result.requestId waiter held
  obtain ⟨line, asked, waiting⟩ := kept.waiting waiter replay rest waits
  have isWallet : asked = wallet := by
    rw [← isRequest] at held assigned
    exact Option.some.inj ((waiting.held held).symm.trans assigned)
  subst isWallet
  rcases posted with ⟨sent, -, earlier, answered, sameRequest⟩
  have answers : AnswersReplay trustedWallets auditor later waiter replay result.positions line
      ⟨waiter, asked, result, postmark⟩ := by
    have dispatched := waiting.dispatched
    have meant : line.position < postmark.sentAt ∧
        earlier.committedTokenIds = replay.committedTokenIds := by
      rcases Nat.lt_or_ge postmark.answers line.position with late | own
      · have holds : auditor.pending result.requestId = some line.waiter := by
          rw [dispatched.waiter]
          exact held
        exact guarded line dispatched.noted holds earlier _ answered dispatched.asked late
      · have same : postmark.answers = line.position :=
          Nat.le_antisymm (waiting.last _ _ _ answered) own
        rcases answered with ⟨tx, stands⟩
        rcases dispatched.asked with ⟨txToo, standsToo⟩
        rw [same, standsToo] at stands
        cases stands
        exact ⟨same ▸ sent, rfl⟩
    exact ⟨{ dispatched with noted := lines dispatched.noted }, noted, rfl, isRequest.symm, rfl,
      meant.1, earlier, answered, sameRequest.trans isRequest.symm, meant.2⟩
  have standing : Extends auditor
      { auditor with
        pending := auditor.pending.remove result.requestId
        replies := auditor.replies.insert waiter result.positions
        log := auditor.log ++ [.delivered waiter asked result] } later later :=
    ⟨List.prefix_append .., List.Subset.refl _, List.Subset.refl _⟩
  constructor
  · exact kept.trusts
  · intro other replayed others waitsToo
    obtain ⟨line, wallet, waiting⟩ := kept.waiting other replayed others waitsToo
    refine ⟨line, wallet, waiting.dispatched.extend grows, waiting.fresh, ?_, ?_⟩
    · exact fun pending => waiting.held (PartialMap.of_remove_eq_some pending).2
    · intro position other assign asked
      refine waiting.last position other assign (asked.of_append rfl ?_)
      intro effect mem
      rw [List.mem_singleton.mp mem]
      rfl
  · intro requestId other pending
    exact kept.pending requestId other (PartialMap.of_remove_eq_some pending).2
  · intro other positions reply
    by_cases same : other = waiter
    · subst same
      cases (PartialMap.insert_self ..).symm.trans reply
      refine ⟨waiting.fresh, ?_⟩
      intro replayed others waitsToo
      cases waits.symm.trans waitsToo
      exact ⟨line, _, answers.extend standing⟩
    · have before := (PartialMap.insert_of_ne _ _ same).symm.trans reply
      refine ⟨(kept.replies other positions before).1, ?_⟩
      intro replayed others waitsToo
      cases waits.symm.trans waitsToo
      exact absurd rfl same
  · intro other replayed positions mem
    rcases List.mem_append.mp mem with old | new
    · obtain ⟨line, delivery, answers⟩ := kept.returned other replayed positions old
      exact ⟨line, delivery, answers.extend grows⟩
    · cases List.mem_singleton.mp new

/-! ## Runs -/

theorem Kept.next (kept : Kept trustedWallets auditor notes)
    (enabled : auditor.enabled arrival.stimulus) (posted : auditor.Posted arrival)
    (guarded : LateGuard (auditor, notes) arrival) :
    Kept trustedWallets (auditor.next arrival.stimulus) (auditor.note notes arrival) := by
  have lines : notes.lines ⊆ (auditor.note notes arrival).lines := List.subset_append_left _ _
  have deliveries : notes.deliveries ⊆ (auditor.note notes arrival).deliveries :=
    List.subset_append_left _ _
  rcases arrival with ⟨⟨registry, event⟩, postmark⟩
  cases event with
  | resolved source isOpen =>
      rcases enabled with ⟨receipt, rest, resolving⟩
      have unheld : ∀ requestId, auditor.pending requestId = none := by
        apply kept.unheld
        rw [resolving]
        rfl
      rcases resumeResolved_cases resolving unheld with
        quiet | ⟨replay, wallet, tx, prepared, picked, sent⟩
      · exact kept.quiet quiet lines deliveries
      · refine kept.sent resolving prepared picked sent ?_ lines deliveries
        have noted : auditor.lineOf ⟨registry, .resolved source isOpen⟩ =
            some ⟨auditor.nextWaiter, auditor.log.length, registry⟩ := by
          simp only [lineOf, B3LiteAuditor.next, sent, if_true]
        rw [note, noted]
        exact List.mem_append_right _ (List.mem_singleton_self _)
  | woken => exact kept.woken enabled lines deliveries
  | auditResult wallet result =>
      simp only [B3LiteAuditor.next, handleAuditResult]
      cases assigned : auditor.auditAssignments result.requestId with
      | none =>
          refine kept.unheard _ ?_ lines deliveries
          simp [isReturn, Effect.isLine]
      | some holder =>
          dsimp only
          by_cases theirs : holder = wallet
          · subst theirs
            rw [if_pos rfl]
            cases held : auditor.pending result.requestId with
            | none => exact kept.unheard_nothing lines deliveries
            | some waiter =>
                refine kept.delivered assigned held posted guarded ?_ lines deliveries
                simp [note, deliveryOf, assigned, held]
          · rw [if_neg theirs]
            refine kept.unheard _ ?_ lines deliveries
            simp [isReturn, Effect.isLine]
  | disconnect wallet => exact kept.disconnected wallet lines deliveries
  | _ =>
      exact kept.quiet (quiet_next kept.unheld enabled rfl) lines deliveries

/-- While no reply to an earlier line reaches a later dispatch that it was not meant
for, everything a dispatch returns was sent after its line, by its wallet, in answer
to its receipt's tokens. -/
theorem replies_used_for_receipt {trustedWallets : List Wallet} {events : List Arrival}
    {both : B3LiteAuditor × Notes}
    (run : heardSystem.RunWith LateGuard (new trustedWallets, Notes.none) events both) :
    UsedForReceipt trustedWallets both.1 both.2 := by
  have kept : Kept trustedWallets both.1 both.2 :=
    run.invariant (I := fun both => Kept trustedWallets both.1 both.2) (kept_new trustedWallets)
      fun _ _ kept enabled guarded => kept.next enabled.1 enabled.2 guarded
  exact kept.returned

/-! ## Two receipts of one request -/

/-- A trusted auditor. -/
def auditorRegistry : MinerRegistry :=
  (MinerRegistry.new.register "auditor" 0).markAuditorCapable "auditor"

/-- A receipt of request `"r"`. -/
def requestReceipt (id : Nat) (generatedTokenIdsHex : String) : B3LiteReceipt where
  id := id
  requestId := "r"
  minerWallet := "miner"
  modelId := "model"
  ggufSha256 := "root"
  promptHash := none
  promptHex := ""
  responseHash := "response-hash"
  generatedTokenIdsHex := generatedTokenIdsHex
  totalLayers := 4
  signatureHex := "signature"
  sampled := true
  auditStatus := .pending
  auditDetail := none

/-- An event while the auditor is connected. -/
def arriving (event : Event) : Arrival :=
  ⟨⟨auditorRegistry, event⟩, ⟨0, 0⟩⟩

/-- The reply to the first line. -/
def firstReply : Arrival :=
  ⟨⟨auditorRegistry, .auditResult "auditor" ⟨"r", [⟨0, 5, 6, false⟩]⟩⟩, ⟨1, 0⟩⟩

/-- The source of the model. -/
def modelSource : ModelSource :=
  ⟨"gguf", "tokenizer", "hash"⟩

/-- One receipt, and the auditor answers in time. -/
def answeredEvents : List Arrival :=
  [arriving .tickBegin, arriving (.listed (some [requestReceipt 1 "05000000"])),
    arriving (.resolved (some modelSource) true), firstReply, arriving .woken]

/-- Where an example ends. -/
def heard (events : List Arrival) : B3LiteAuditor × Notes :=
  heardSystem.execute (new ["auditor"], Notes.none) events

theorem replies_used_for_receipt_answered :
    UsedForReceipt ["auditor"] (heard answeredEvents).1 (heard answeredEvents).2 := by
  have admitted : heardSystem.Admits LateGuard (new ["auditor"], Notes.none) answeredEvents := by
    refine ⟨⟨⟨rfl, trivial⟩, trivial⟩, ⟨⟨rfl, trivial⟩, trivial⟩,
      ⟨⟨⟨_, _, rfl⟩, trivial⟩, trivial⟩, ⟨⟨trivial, ?_⟩, ?_⟩,
      ⟨⟨⟨_, _, _, rfl⟩, trivial⟩, trivial⟩, trivial⟩
    · exact ⟨by decide, le_rfl, _, ⟨_, rfl⟩, rfl⟩
    · intro line mem held earlier assign answered asked late
      have only : line ∈ [⟨0, 0, auditorRegistry⟩] := mem
      cases List.mem_singleton.mp only
      exact absurd late (Nat.lt_irrefl 0)
  exact replies_used_for_receipt admitted.runWith

/-- The auditor is too slow for the first of two receipts of one request, and its
reply arrives while the second is with it. -/
def lateEvents : List Arrival :=
  [arriving .tickBegin,
    arriving (.listed (some [requestReceipt 1 "05000000", requestReceipt 2 "07000000"])),
    arriving (.resolved (some modelSource) true), arriving .woken,
    arriving (.replayed (.ok [⟨0, 5, 5, true⟩])), arriving (.marked true),
    arriving (.resolved (some modelSource) true), firstReply, arriving .woken]

/-- The positions for the first receipt are returned for the second. -/
theorem late_reply_used :
    ∃ events both, heardSystem.Run (new ["auditor"], Notes.none) events both ∧
      ¬ UsedForReceipt ["auditor"] both.1 both.2 := by
  have admitted :
      heardSystem.Admits (fun _ _ => True) (new ["auditor"], Notes.none) lateEvents := by
    refine ⟨⟨⟨rfl, trivial⟩, trivial⟩, ⟨⟨rfl, trivial⟩, trivial⟩,
      ⟨⟨⟨_, _, rfl⟩, trivial⟩, trivial⟩, ⟨⟨⟨_, _, _, rfl⟩, trivial⟩, trivial⟩,
      ⟨⟨⟨_, _, rfl⟩, trivial⟩, trivial⟩, ⟨⟨⟨_, _, .inr ⟨_, rfl⟩⟩, trivial⟩, trivial⟩,
      ⟨⟨⟨_, _, rfl⟩, trivial⟩, trivial⟩, ⟨⟨trivial, ?_⟩, trivial⟩,
      ⟨⟨⟨_, _, _, rfl⟩, trivial⟩, trivial⟩, trivial⟩
    exact ⟨by decide, Nat.le_of_ble_eq_true rfl, _, ⟨_, rfl⟩, rfl⟩
  refine ⟨lateEvents, heard lateEvents, admitted.runWith, fun used => ?_⟩
  have returned : (heard lateEvents).1.log[5]? = some (.returned 1
      ⟨requestReceipt 2 "07000000", modelSource, "", [7]⟩ [⟨0, 5, 6, false⟩]) := rfl
  obtain ⟨line, delivery, answers⟩ := used _ _ _ (List.mem_of_getElem? returned)
  have only : (heard lateEvents).2.deliveries =
      [⟨1, "auditor", ⟨"r", [⟨0, 5, 6, false⟩]⟩, ⟨1, 0⟩⟩] := rfl
  have delivered := answers.delivered
  rw [only] at delivered
  cases List.mem_singleton.mp delivered
  rcases answers.answers with ⟨assign, ⟨tx, asked⟩, -, sameTokens⟩
  cases asked
  exact absurd sameTokens (by decide)

end B3LiteAuditor

end StratumBridge.Audit
