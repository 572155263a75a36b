import StratumBridge.Proxy.Relay

/-!
# Who is confirmed

A session beside the pool's side of the talk: which request each line of the pool
answers.  The bridge does not know that.  It confirms the last address that the miner
asked to be authorized as soon as a line with the id 2 is positive, whichever request
that line answers.  As long as every open request with that id is for the address that
waits, nobody is confirmed whom the pool did not accept.
-/

namespace StratumBridge.Proxy

open Data Rpc Transition

/-- An event of a session, with the request that a line of the pool answers, by its
place among the lines that were sent to the pool. -/
structure Exchange where
  event : Event
  answers : Option Nat

/-- A session, with the lines that were sent to the pool and what the pool answered. -/
structure Dialogue where
  session : Session
  forwarded : List String
  answered : List (Nat × String)

namespace Dialogue

/-- Nothing was said yet. -/
def start (tx : Channel) (registry : MinerRegistry) : Dialogue :=
  ⟨.start tx registry, [], []⟩

/-- The request at this place was sent and not answered. -/
def Open (dialogue : Dialogue) (place : Nat) (request : String) : Prop :=
  dialogue.forwarded[place]? = some request ∧ place ∉ dialogue.answered.map Prod.fst

/-- One event. -/
def next (serde : Serde) (dialogue : Dialogue) (exchange : Exchange) : Dialogue where
  session := dialogue.session.next serde exchange.event
  forwarded :=
    match exchange.event with
    | .minerLine line =>
        if forPool serde line then dialogue.forwarded ++ [line] else dialogue.forwarded
    | _ => dialogue.forwarded
  answered :=
    match exchange.event, exchange.answers with
    | .poolLine line, some place => dialogue.answered ++ [(place, line)]
    | _, _ => dialogue.answered

/-- The pool answers an open request under the id that the request has, and no request
twice; it may send any other lines as well. -/
def enabled (serde : Serde) (dialogue : Dialogue) (exchange : Exchange) : Prop :=
  dialogue.session.enabled exchange.event ∧
    ∀ line place, exchange.event = .poolLine line → exchange.answers = some place →
      ∃ request, dialogue.Open place request ∧
        idOf (serde.fromStr request) = idOf (serde.fromStr line)

/-- A session and the pool as a system of events. -/
def system (serde : Serde) : System Dialogue Exchange where
  enabled := enabled serde
  next := next serde

end Dialogue

/-- The wallet that a request is to authorize. -/
def authorizes (serde : Serde) (request : String) : Option Wallet :=
  let value := serde.fromStr request
  if method value = some "mining.authorize" then
    ((value.bind firstParam).bind Value.asStr).map walletOf
  else
    none

/-- The line is an answer with `result: true`. -/
def isPositive (value : Option Value) : Bool :=
  decide ((value.bind (Value.get "result")).bind Value.asBool = some true)

/-- The line of the pool is taken for a positive answer to a request to authorize. -/
def confirming (serde : Serde) (line : String) : Bool :=
  forMiner serde line && (serde.fromStr line).any isAuthorizeResponse

/-- The pool gave a positive answer to a request of this session to authorize the
wallet. -/
def Accepted (serde : Serde) (dialogue : Dialogue) (wallet : Wallet) : Prop :=
  ∃ place request line, (place, line) ∈ dialogue.answered ∧
    dialogue.forwarded[place]? = some request ∧ authorizes serde request = some wallet ∧
    isPositive (serde.fromStr line) = true

/-- The condition on a step: a line that confirms the wallet that waits answers a
request, and every open request with the id 2 is to authorize that wallet. -/
def Unmistaken (serde : Serde) (dialogue : Dialogue) (exchange : Exchange) : Prop :=
  ∀ line wallet, exchange.event = .poolLine line → confirming serde line = true →
    dialogue.session.auth.pending = some wallet →
      exchange.answers.isSome ∧ ∀ place request, dialogue.Open place request →
        idOf (serde.fromStr request) = .integer 2 → authorizes serde request = some wallet

variable {serde : Serde} {session : Session} {dialogue : Dialogue} {exchange : Exchange}
  {event : Event} {wallet : Wallet}

/-! ## What is confirmed -/

/-- An event of the session itself, while it relays. -/
def Event.isOwn : Event → Bool
  | elsewhere _ => false
  | finished => false
  | aborted => false
  | _ => true

/-- What an event does to who is confirmed and to the channels in the registry. -/
inductive Moves (serde : Serde) (session : Session) (event : Event) (after : Session) : Prop
  | stays (fixed : after.tx = session.tx ∧ after.phase = session.phase)
      (confirmed : after.auth.confirmed = session.auth.confirmed)
      (bound : ∀ wallet, after.registry.get wallet = session.registry.get wallet)
  | confirms (fixed : after.tx = session.tx ∧ after.phase = session.phase) (line : String)
      (wallet : Wallet) (isLine : event = .poolLine line)
      (positive : confirming serde line = true) (waits : session.auth.pending = some wallet)
      (confirmed : after.auth.confirmed = some wallet)
      (registered : after.registry = session.registry.register wallet session.tx)

theorem intercept_auth (serde : Serde) (session : Session) (kind : Kind) (value : Option Value) :
    let after := session.intercept serde kind value
    (after.tx = session.tx ∧ after.phase = session.phase) ∧ after.auth = session.auth ∧
      after.registry = session.registry := by
  dsimp only
  unfold Session.intercept
  dsimp only
  split
  · split
    · exact ⟨⟨rfl, rfl⟩, rfl, rfl⟩
    · exact ⟨⟨rfl, rfl⟩, rfl, rfl⟩
  · split
    · split
      · exact ⟨⟨rfl, rfl⟩, rfl, rfl⟩
      · exact ⟨⟨rfl, rfl⟩, rfl, rfl⟩
    · exact ⟨⟨rfl, rfl⟩, rfl, rfl⟩

/-- An announcement binds no wallet to another channel. -/
theorem get_announce (wallet other : Wallet) (value : Value) (registry : MinerRegistry) :
    (announce wallet value registry).get other = registry.get other := by
  have drafting : (if "draft" ∈ capabilities value then registry.markDraftCapable wallet
      else registry).get other = registry.get other := by
    split
    · exact MinerRegistry.get_markDraftCapable ..
    · rfl
  unfold announce
  dsimp only
  split
  · split
    · rw [MinerRegistry.get_markExpertCapable]
      split
      · rw [MinerRegistry.get_markAuditorCapable]
        exact drafting
      · exact drafting
    · split
      · rw [MinerRegistry.get_markAuditorCapable]
        exact drafting
      · exact drafting
  · split
    · rw [MinerRegistry.get_markAuditorCapable]
      exact drafting
    · exact drafting

theorem readDown_moves (line : String) :
    Moves serde session event (session.readDown serde line) := by
  have intercepted (kind : Kind) (value : Option Value) :
      Moves serde session event (session.intercept serde kind value) := by
    rcases intercept_auth serde session kind value with
      ⟨fixed, auth, registry⟩
    exact .stays fixed (congrArg AuthState.confirmed auth) fun _ => by rw [registry]
  unfold Session.readDown
  dsimp only
  split
  · exact intercepted _ _
  · exact intercepted _ _
  · exact intercepted _ _
  · exact intercepted _ _
  · exact intercepted _ _
  · exact intercepted _ _
  · unfold Session.readCapabilities
    split
    · exact .stays ⟨rfl, rfl⟩ rfl fun _ => get_announce ..
    · exact .stays ⟨rfl, rfl⟩ rfl fun _ => rfl
  · unfold Session.readAuthorize
    split
    · exact .stays ⟨rfl, rfl⟩ rfl fun _ => rfl
    · exact .stays ⟨rfl, rfl⟩ rfl fun _ => rfl
  · exact .stays ⟨rfl, rfl⟩ rfl fun _ => rfl
  · exact .stays ⟨rfl, rfl⟩ rfl fun _ => rfl

theorem handlerReturned_moves (dbText : String) (returned : Except AppError Int) :
    Moves serde session event (session.handlerReturned dbText returned) := by
  unfold Session.handlerReturned
  split
  · exact .stays ⟨rfl, rfl⟩ rfl fun _ => rfl
  · dsimp only
    split
    · split
      · exact .stays ⟨rfl, rfl⟩ rfl fun _ => rfl
      · exact .stays ⟨rfl, rfl⟩ rfl fun _ => rfl
    · exact .stays ⟨rfl, rfl⟩ rfl fun _ => rfl

/-- Who is confirmed changes only with a line that confirms, to whoever waits. -/
theorem readUp_moves (line : String) :
    Moves serde session (.poolLine line) (session.readUp serde line) := by
  unfold Session.readUp
  dsimp only
  cases passes : (method (serde.fromStr line)).any isOpoi with
  | true => exact .stays ⟨rfl, rfl⟩ rfl fun _ => rfl
  | false =>
      rw [if_neg Bool.false_ne_true]
      unfold Session.confirm
      cases read : serde.fromStr line with
      | none => exact .stays ⟨rfl, rfl⟩ rfl fun _ => rfl
      | some value =>
          dsimp only
          cases positive : isAuthorizeResponse value with
          | false => exact .stays ⟨rfl, rfl⟩ rfl fun _ => rfl
          | true =>
              rw [if_pos rfl]
              cases waits : session.auth.pending with
              | none => exact .stays ⟨rfl, rfl⟩ rfl fun _ => rfl
              | some wallet =>
                  refine .confirms ⟨rfl, rfl⟩ line wallet rfl ?_ waits rfl rfl
                  rw [confirming, forMiner, passes, read, Option.any_some, positive]
                  rfl

/-- What an event of the session itself does. -/
theorem next_moves (own : event.isOwn = true) :
    Moves serde session event (session.next serde event) := by
  cases event with
  | minerLine line => exact readDown_moves line
  | handlerReturned dbText returned => exact handlerReturned_moves dbText returned
  | poolLine line => exact readUp_moves line
  | pushed line => exact .stays ⟨rfl, rfl⟩ rfl fun _ => rfl
  | wroteDown => exact .stays ⟨rfl, rfl⟩ rfl fun _ => rfl
  | wroteUp => exact .stays ⟨rfl, rfl⟩ rfl fun _ => rfl
  | failedDown => exact .stays ⟨rfl, rfl⟩ rfl fun _ => rfl
  | failedUp => exact .stays ⟨rfl, rfl⟩ rfl fun _ => rfl
  | elsewhere registry => cases own
  | finished => cases own
  | aborted => cases own

/-- Only a line that confirms changes who is confirmed. -/
theorem next_confirmed (event : Event) :
    (session.next serde event).auth.confirmed = session.auth.confirmed ∨
      ∃ line wallet, event = .poolLine line ∧ confirming serde line = true ∧
        session.auth.pending = some wallet ∧
        (session.next serde event).auth.confirmed = some wallet := by
  cases own : event.isOwn with
  | true =>
      have moves : Moves serde session event (session.next serde event) := next_moves own
      cases moves with
      | stays _ confirmed _ => exact .inl confirmed
      | confirms _ line wallet isLine positive waits confirmed _ =>
          exact .inr ⟨line, wallet, isLine, positive, waits, confirmed⟩
  | false =>
      cases event with
      | elsewhere registry => exact .inl rfl
      | finished => exact .inl rfl
      | aborted => exact .inl rfl
      | _ => cases own

/-! ## What was accepted -/

/-- What was accepted stays so. -/
theorem Accepted.next (accepted : Accepted serde dialogue wallet) (exchange : Exchange) :
    Accepted serde (dialogue.next serde exchange) wallet := by
  rcases accepted with ⟨place, request, line, answered, sent, asks, positive⟩
  refine ⟨place, request, line, ?_, ?_, asks, positive⟩
  · unfold Dialogue.next
    dsimp only
    split
    · exact List.mem_append_left _ answered
    · exact answered
  · unfold Dialogue.next
    dsimp only
    split
    · split
      · rw [List.getElem?_append_left (List.getElem?_eq_some_iff.mp sent).1]
        exact sent
      · exact sent
    · exact sent

/-- A line that confirms is positive and has the id 2. -/
theorem of_confirming {line : String} (positive : confirming serde line = true) :
    idOf (serde.fromStr line) = .integer 2 ∧ isPositive (serde.fromStr line) = true := by
  have answers := (Option.any_eq_true _ _).mp (Bool.and_eq_true_iff.mp positive).2
  rcases answers with ⟨value, read, responds⟩
  have both := of_decide_eq_true responds
  obtain ⟨id, held, two⟩ := Option.bind_eq_some_iff.mp both.1
  have isTwo : id = .integer 2 := Value.eq_integer_of_asI64 two
  rw [read]
  refine ⟨?_, decide_eq_true both.2⟩
  rw [idOf, Option.bind_some, held, isTwo, Option.getD_some]

/-- The wallet that is confirmed was accepted. -/
def ConfirmedAccepted (serde : Serde) (dialogue : Dialogue) : Prop :=
  ∀ wallet, dialogue.session.auth.confirmed = some wallet → Accepted serde dialogue wallet

/-- Every step keeps it. -/
theorem ConfirmedAccepted.next (kept : ConfirmedAccepted serde dialogue)
    (enabled : dialogue.enabled serde exchange) (guard : Unmistaken serde dialogue exchange) :
    ConfirmedAccepted serde (dialogue.next serde exchange) := by
  intro wallet confirmed
  rcases next_confirmed exchange.event with same | promoted
  · exact (kept wallet (same.symm.trans confirmed)).next exchange
  · rcases promoted with ⟨line, candidate, isLine, positive, waits, now⟩
    have isWallet : candidate = wallet := Option.some.inj (now.symm.trans confirmed)
    subst isWallet
    obtain ⟨anAnswer, forWallet⟩ := guard line candidate isLine positive waits
    obtain ⟨place, answers⟩ := Option.isSome_iff_exists.mp anAnswer
    obtain ⟨request, isOpen, sameId⟩ := enabled.2 line place isLine answers
    obtain ⟨two, isPositive⟩ := of_confirming positive
    have asks := forWallet place request isOpen (sameId.trans two)
    refine ⟨place, request, line, ?_, ?_, asks, isPositive⟩
    · simp only [Dialogue.next, isLine, answers]
      exact List.mem_append_right _ (List.mem_singleton_self _)
    · simp only [Dialogue.next, isLine]
      exact isOpen.1

/-- As long as no positive line can be mistaken, whoever is confirmed was accepted. -/
theorem confirmedAccepted_of_run {tx : Channel} {registry : MinerRegistry}
    {exchanges : List Exchange}
    (run : (Dialogue.system serde).RunWith (Unmistaken serde) (.start tx registry) exchanges
      dialogue) : ConfirmedAccepted serde dialogue := by
  have init : ConfirmedAccepted serde (.start tx registry) := by
    intro wallet confirmed
    cases confirmed
  exact run.invariant init fun _ _ kept enabled guard => kept.next enabled guard

/-! ## A request mistaken for another -/

/-- The positive answer to a request. -/
def authorized : Value :=
  .object [("id", .integer 2), ("result", .bool true)]

/-- Where an open request with the id 2 is not for the wallet that waits, the pool can
answer it so that a wallet is confirmed that it did not accept. -/
theorem not_confirmedAccepted_of_open {place : Nat} {request line : String}
    (relaying : dialogue.session.phase = .relaying)
    (waits : dialogue.session.auth.pending = some wallet)
    (isOpen : dialogue.Open place request) (two : idOf (serde.fromStr request) = .integer 2)
    (foreign : authorizes serde request ≠ some wallet)
    (unaccepted : ¬ Accepted serde dialogue wallet) (whole : '\n' ∉ line.toList)
    (read : serde.fromStr line = some authorized) :
    dialogue.enabled serde ⟨.poolLine line, some place⟩ ∧
      ¬ ConfirmedAccepted serde (dialogue.next serde ⟨.poolLine line, some place⟩) := by
  have answer : idOf (some authorized) = .integer 2 := rfl
  constructor
  · refine ⟨⟨relaying, whole⟩, ?_⟩
    intro other found isLine answers
    cases isLine
    cases answers
    exact ⟨request, isOpen, by rw [two, read, answer]⟩
  · intro kept
    have confirmed : (dialogue.session.readUp serde line).auth.confirmed = some wallet := by
      have notOpoi : (method (some authorized)).any isOpoi = false := rfl
      have positive : isAuthorizeResponse authorized = true := by decide
      rw [Session.readUp, read, notOpoi, if_neg Bool.false_ne_true, Session.confirm,
        if_pos positive, waits]
      rfl
    obtain ⟨found, asked, answering, answered, sent, asks, positive⟩ := kept wallet confirmed
    rcases List.mem_append.mp answered with before | now
    · exact unaccepted ⟨found, asked, answering, before, sent, asks, positive⟩
    · cases List.mem_singleton.mp now
      cases Option.some.inj (isOpen.1.symm.trans sent)
      exact foreign asks

/-! ## Two requests at once -/

/-- A second request to authorize, under another id. -/
def rivalLine : String :=
  "\x7b\"id\":3,\"method\":\"mining.authorize\",\"params\":[\"victim.rig\"]\x7d"

/-- What the lines are read as. -/
def rivalSerde : Serde where
  fromStr text :=
    if text = rivalLine then
      some (.object [("id", .integer 3), ("method", .string "mining.authorize"),
        ("params", .array [.string "victim.rig"])])
    else
      sampleSerde.fromStr text
  fromValue _ _ := false
  toText _ := ""

/-- One request, answered before the next. -/
def inTurn : List Exchange :=
  [⟨.minerLine authorizeLine, none⟩, ⟨.poolLine authorizedLine, some 0⟩,
    ⟨.minerLine rivalLine, none⟩]

/-- A line of the miner needs no answer. -/
theorem unmistaken_minerLine (line : String) (answers : Option Nat) :
    Unmistaken serde dialogue ⟨.minerLine line, answers⟩ := by
  intro _ _ isLine
  cases isLine

theorem enabled_minerLine {line : String} (enabled : dialogue.session.enabled (.minerLine line)) :
    dialogue.enabled serde ⟨.minerLine line, none⟩ := by
  refine ⟨enabled, ?_⟩
  intro _ _ isLine
  cases isLine

theorem confirmedAccepted_inTurn : ∃ dialogue,
    (Dialogue.system rivalSerde).RunWith (Unmistaken rivalSerde) (.start 0 .new) inTurn dialogue ∧
    dialogue.session.auth.confirmed = some "w" ∧ ConfirmedAccepted rivalSerde dialogue := by
  have admitted : (Dialogue.system rivalSerde).Admits (Unmistaken rivalSerde) (.start 0 .new)
      inTurn := by
    refine ⟨⟨enabled_minerLine ⟨rfl, rfl, by decide⟩, unmistaken_minerLine _ _⟩,
      ⟨⟨⟨rfl, by decide⟩, ?_⟩, ?_⟩,
      ⟨enabled_minerLine ⟨rfl, rfl, by decide⟩, unmistaken_minerLine _ _⟩, trivial⟩
    · intro line place isLine answers
      cases isLine
      cases answers
      exact ⟨authorizeLine, ⟨rfl, List.not_mem_nil⟩, rfl⟩
    · intro line wallet isLine positive waits
      cases isLine
      cases waits
      refine ⟨rfl, ?_⟩
      intro place request isOpen two
      cases place with
      | zero =>
          cases isOpen.1
          decide
      | succ place => cases isOpen.1
  exact ⟨_, admitted.runWith, by decide, confirmedAccepted_of_run admitted.runWith⟩

/-- Two requests, and the answer to the first. -/
def atOnce : List Exchange :=
  [⟨.minerLine authorizeLine, none⟩, ⟨.minerLine rivalLine, none⟩,
    ⟨.poolLine authorizedLine, some 0⟩]

/-- While the pool has still to answer a request for one wallet, the miner asks for
another; the answer confirms the other. -/
theorem victim_confirmed : ∃ dialogue,
    (Dialogue.system rivalSerde).Run (.start 0 .new) atOnce dialogue ∧
    dialogue.session.auth.confirmed = some "victim" ∧
    ¬ Accepted rivalSerde dialogue "victim" := by
  have admitted : (Dialogue.system rivalSerde).Admits (fun _ _ => True) (.start 0 .new)
      atOnce := by
    refine ⟨⟨enabled_minerLine ⟨rfl, rfl, by decide⟩, trivial⟩,
      ⟨enabled_minerLine ⟨rfl, rfl, by decide⟩, trivial⟩, ⟨⟨⟨rfl, by decide⟩, ?_⟩, trivial⟩,
      trivial⟩
    intro line place isLine answers
    cases isLine
    cases answers
    exact ⟨authorizeLine, ⟨rfl, List.not_mem_nil⟩, rfl⟩
  refine ⟨_, admitted.runWith, by decide, ?_⟩
  rintro ⟨place, request, line, answered, sent, asks, -⟩
  cases List.mem_singleton.mp answered
  cases sent
  exact absurd asks (by decide)

end StratumBridge.Proxy
