import StratumBridge.Lifecycle.Requests
import StratumBridge.Payout.Batch

/-!
# The payout loop

The payout tick runs beside the lifecycle on the same tables: it reads the rows
that are published and unpaid, has csd send one batch, and marks its rows as
paid.  The price of a request that the lifecycle publishes is looked up on the
chain, or missed.
-/

namespace StratumBridge.Payout

open Data Wire Lifecycle Transition

/-- The payment side of an on-chain request. -/
structure OnChainRequest where
  payment : Rat
  feePerToken : Rat

/-- The deployment: the stake pool, the terms of the payout, and the requests on
the chain. -/
structure Config where
  pool : StakePool
  terms : Terms
  chain : RequestId → OnChainRequest

/-- What a response to its on-chain request is worth. -/
def Config.reward (config : Config) (sub : NewSubmission) : Rat :=
  (config.chain sub.requestId).payment +
    (sub.tokenColumn.toInt : Rat) * (config.chain sub.requestId).feePerToken

/-- The reward that `do_publish` records: a placeholder when `get_request` fails. -/
def Config.recorded (config : Config) (sub : NewSubmission) (found : Bool) : Rat :=
  if found then config.reward sub else 0

/-- What csd does with a `sendmany`. -/
inductive SendAnswer
  | accepted (txid : String)
  /-- Broadcast, but the bridge sees an error. -/
  | unheard
  | rejected
  deriving DecidableEq

/-- Where `payout_tick` stands, with the rows that it read. -/
inductive PayoutTick
  | idle
  | sending (unpaid : List (SubmissionId × Submission))
  | marking (unpaid : List (SubmissionId × Submission)) (txid : String)
  deriving DecidableEq

/-- The rows that a tick works on. -/
def PayoutTick.unpaid : PayoutTick → List (SubmissionId × Submission)
  | idle => []
  | sending unpaid => unpaid
  | marking unpaid _ => unpaid

/-- The batch for the rows of a tick. -/
def Terms.batchOf (terms : Terms) (unpaid : List (SubmissionId × Submission)) : Batch :=
  terms.batch (unpaid.map Prod.snd)

/-- The rows whose rewards a batch for some rows includes. -/
def Terms.included (terms : Terms) (unpaid : List (SubmissionId × Submission)) :
    List SubmissionId :=
  (unpaid.filter fun entry => terms.includes (unpaid.map Prod.snd) entry.2).map Prod.fst

/-- The service with its payout loop, the requests whose pay is withheld, and the
rows of every batch broadcast so far. -/
structure Treasury where
  service : Service
  withheld : List RequestId
  tick : PayoutTick
  broadcasts : List (List SubmissionId)

/-- What can happen to the treasury. -/
inductive Event
  /-- An event of the lifecycle, other than the look at a price. -/
  | service (event : Lifecycle.Event)
  /-- `get_request` answers `do_publish`, or fails. -/
  | requestFetched (found : Bool)
  /-- The auditor withholds the pay for a request. -/
  | withhold (requestId : RequestId)
  /-- A tick reads the unpaid rows, or fails to. -/
  | unpaidListed (unpaid : Option (List (SubmissionId × Submission)))
  | sent (answer : SendAnswer)
  | marked (outcome : Outcome)

namespace Treasury

/-- Before the first start. -/
def new : Treasury :=
  ⟨Service.new, [], .idle, []⟩

/-- The database of the service. -/
def db (treasury : Treasury) : Database :=
  treasury.service.db

/-- A lifecycle event; a crash ends the tick as well. -/
def lifecycle (config : Config) (event : Lifecycle.Event) (treasury : Treasury) : Treasury :=
  { treasury with
    service := treasury.service.next config.pool event
    tick :=
      match event with
      | .crash => .idle
      | _ => treasury.tick }

/-- `do_publish` hears about its request. -/
def requestFetched (config : Config) (found : Bool) (treasury : Treasury) : Treasury :=
  match treasury.service.tick with
  | .pricing row _ =>
      treasury.lifecycle config (.priced (config.recorded row.2.toNewSubmission found))
  | _ => treasury

/-- csd answers the `sendmany` that is under way. -/
def sent (config : Config) (answer : SendAnswer) (treasury : Treasury) : Treasury :=
  match treasury.tick, answer with
  | .sending unpaid, .accepted txid =>
      { treasury with
        tick := .marking unpaid txid
        broadcasts := treasury.broadcasts ++ [config.terms.included unpaid] }
  | .sending unpaid, .unheard =>
      { treasury with
        tick := .idle
        broadcasts := treasury.broadcasts ++ [config.terms.included unpaid] }
  | .sending _, .rejected => { treasury with tick := .idle }
  | _, _ => treasury

/-- `mark_paid` ends. -/
def marked (config : Config) (outcome : Outcome) (treasury : Treasury) : Treasury :=
  match treasury.tick with
  | .marking unpaid txid =>
      { treasury with
        service :=
          { treasury.service with
            db := outcome.settle
              (treasury.db.markPaid (config.terms.batchOf unpaid).requestIds txid) treasury.db }
        tick := .idle }
  | _ => treasury

/-- One event. -/
def next (config : Config) (treasury : Treasury) : Event → Treasury
  | .service event => treasury.lifecycle config event
  | .requestFetched found => treasury.requestFetched config found
  | .withhold requestId => { treasury with withheld := requestId :: treasury.withheld }
  | .unpaidListed none => treasury
  | .unpaidListed (some unpaid) =>
      { treasury with
        tick := if (config.terms.batchOf unpaid).amounts = [] then .idle else .sending unpaid }
  | .sent answer => treasury.sent config answer
  | .marked outcome => treasury.marked config outcome

/-- The events that can happen next. -/
def enabled (treasury : Treasury) : Event → Prop
  | .service event => (∀ reward, event ≠ .priced reward) ∧ treasury.service.enabled event
  | .requestFetched _ => ∃ row rest, treasury.service.tick = .pricing row rest
  | .withhold _ => treasury.service.phase = .serving
  | .unpaidListed none => treasury.service.phase = .serving ∧ treasury.tick = .idle
  | .unpaidListed (some unpaid) =>
      treasury.service.phase = .serving ∧ treasury.tick = .idle ∧
        unpaid.Perm (treasury.db.listUnpaidPublished treasury.withheld)
  | .sent _ => ∃ unpaid, treasury.tick = .sending unpaid
  | .marked _ => ∃ unpaid txid, treasury.tick = .marking unpaid txid

/-- The treasury as a system of events. -/
def system (config : Config) : System Treasury Event where
  enabled := enabled
  next := next config

/-- A payout tick up to the answer of csd. -/
def payEvents (treasury : Treasury) : List Event :=
  [.unpaidListed (some (treasury.db.listUnpaidPublished treasury.withheld)),
    .sent (.accepted "t")]

/-- There is something to pay, and a tick may begin. -/
structure Due (config : Config) (treasury : Treasury) : Prop where
  serving : treasury.service.phase = .serving
  idle : treasury.tick = .idle
  amounts : (config.terms.batchOf
    (treasury.db.listUnpaidPublished treasury.withheld)).amounts ≠ []

section Due

variable {config : Config} {treasury : Treasury}

theorem sent_accepted {unpaid : List (SubmissionId × Submission)}
    (sending : treasury.tick = .sending unpaid) (txid : String) :
    treasury.sent config (.accepted txid) =
      { treasury with
        tick := .marking unpaid txid
        broadcasts := treasury.broadcasts ++ [config.terms.included unpaid] } := by
  unfold sent
  rw [sending]

theorem Due.sending (due : treasury.Due config) :
    (treasury.next config (.unpaidListed
      (some (treasury.db.listUnpaidPublished treasury.withheld)))).tick =
        .sending (treasury.db.listUnpaidPublished treasury.withheld) :=
  if_neg due.amounts

theorem Due.admits (due : treasury.Due config) :
    (system config).Admits (fun _ _ => True) treasury treasury.payEvents :=
  ⟨⟨⟨due.serving, due.idle, .refl _⟩, trivial⟩, ⟨⟨_, due.sending⟩, trivial⟩, trivial⟩

/-- The batch is broadcast and awaits its mark. -/
theorem Due.execute (due : treasury.Due config) :
    (system config).execute treasury treasury.payEvents =
      { treasury with
        tick := .marking (treasury.db.listUnpaidPublished treasury.withheld) "t"
        broadcasts := treasury.broadcasts ++
          [config.terms.included (treasury.db.listUnpaidPublished treasury.withheld)] } := by
  rw [payEvents, System.execute_cons, System.execute_cons, System.execute_nil]
  exact sent_accepted due.sending "t"

end Due

/-! ## An example deployment -/

/-- One stake, no fee, and two requests that are worth 2 each. -/
def soleConfig : Config :=
  ⟨Service.solePool, ⟨1, 0⟩, fun _ => ⟨1, 1⟩⟩

/-- A response of the same miner to another request. -/
def otherResponse : NewSubmission :=
  { Service.soleResponse with requestId := "q" }

/-- Its candidate once it is committed. -/
def otherCandidate : RevealCandidate :=
  ⟨2, 2, "a", "n", "q", "h", 1⟩

/-- The first start, and both responses. -/
def createdEvents : List Event :=
  [.service (.boot []), .service .serve, .service (.create Service.soleResponse .done),
    .service (.create otherResponse .done)]

/-- Both are committed and revealed. -/
def revealedEvents : List Event :=
  [.service (.commit 1 (.answered "a" (.ok Service.soleCommit))),
    .service (.commit 2 (.answered "a" (.ok Service.soleCommit))),
    .service (.commit 1 (.written .done)), .service (.commit 1 (.written .done)),
    .service (.commit 2 (.written .done)), .service (.commit 2 (.written .done)),
    .service (.tickBegin 9 [[Service.soleCandidate], [otherCandidate]]),
    .service (.revealAnswered (.accepted "x")), .service (.tickWritten .done),
    .service (.tickWritten .done), .service (.revealAnswered (.accepted "y")),
    .service (.tickWritten .done), .service (.tickWritten .done)]

/-- Both are published; for the first, the request may not be found. -/
def publishedEvents (found : Bool) : List Event :=
  [.service (.listed (some ((system soleConfig).execute new
      (createdEvents ++ revealedEvents)).db.listRevealedUnpublished)),
    .service (.contentSubmitted true), .requestFetched found, .service (.tickWritten .done),
    .service (.contentSubmitted true), .requestFetched true, .service (.tickWritten .done)]

theorem admits_createdEvents :
    (system soleConfig).Admits (fun _ _ => True) new createdEvents :=
  ⟨⟨⟨nofun, rfl, .refl _⟩, trivial⟩, ⟨⟨nofun, rfl, rfl⟩, trivial⟩, ⟨⟨nofun, rfl⟩, trivial⟩,
    ⟨⟨nofun, rfl⟩, trivial⟩, trivial⟩

/-- The candidates that the tick finds. -/
theorem grouping_pair :
    Grouping [Service.soleCandidate, otherCandidate] [[Service.soleCandidate], [otherCandidate]]
    where
  perm := .refl _
  together := by decide
  apart := by decide

theorem admits_revealedEvents :
    (system soleConfig).Admits (fun _ _ => True) ((system soleConfig).execute new createdEvents)
      revealedEvents :=
  ⟨⟨⟨nofun, _, rfl, List.mem_singleton_self "a"⟩, trivial⟩,
    ⟨⟨nofun, _, rfl, List.mem_singleton_self "a"⟩, trivial⟩,
    ⟨⟨nofun, _, rfl, trivial⟩, trivial⟩, ⟨⟨nofun, _, rfl, trivial⟩, trivial⟩,
    ⟨⟨nofun, _, rfl, trivial⟩, trivial⟩, ⟨⟨nofun, _, rfl, trivial⟩, trivial⟩,
    ⟨⟨nofun, rfl, rfl, grouping_pair⟩, trivial⟩, ⟨⟨nofun, _, _, _, rfl⟩, trivial⟩,
    ⟨⟨nofun, rfl⟩, trivial⟩, ⟨⟨nofun, rfl⟩, trivial⟩, ⟨⟨nofun, _, _, _, rfl⟩, trivial⟩,
    ⟨⟨nofun, rfl⟩, trivial⟩, ⟨⟨nofun, rfl⟩, trivial⟩, trivial⟩

theorem admits_publishedEvents (found : Bool) :
    (system soleConfig).Admits (fun _ _ => True)
      ((system soleConfig).execute new (createdEvents ++ revealedEvents))
      (publishedEvents found) :=
  ⟨⟨⟨nofun, rfl, .refl _⟩, trivial⟩, ⟨⟨nofun, _, _, rfl⟩, trivial⟩, ⟨⟨_, _, rfl⟩, trivial⟩,
    ⟨⟨nofun, rfl⟩, trivial⟩, ⟨⟨nofun, _, _, rfl⟩, trivial⟩, ⟨⟨_, _, rfl⟩, trivial⟩,
    ⟨⟨nofun, rfl⟩, trivial⟩, trivial⟩

/-- The deployment with both responses published. -/
@[irreducible]
def published (found : Bool) : Treasury :=
  (system soleConfig).execute new (createdEvents ++ revealedEvents ++ publishedEvents found)

/-- The deployment gets there, under any guard that its events meet. -/
theorem published_run {guard : Treasury → Event → Prop} (found : Bool)
    (first : (system soleConfig).Admits guard new createdEvents)
    (met : ∀ state, ∀ event ∈ revealedEvents ++ publishedEvents found, guard state event) :
    (system soleConfig).RunWith guard new
      (createdEvents ++ revealedEvents ++ publishedEvents found) (published found) := by
  have revealed : (system soleConfig).RunWith guard new (createdEvents ++ revealedEvents)
      ((system soleConfig).execute new (createdEvents ++ revealedEvents)) := by
    rw [System.execute_append]
    exact first.runWith.append (admits_revealedEvents.guarded fun state event mem =>
      met state event (List.mem_append_left _ mem)).runWith
  rw [published, System.execute_append]
  exact revealed.append ((admits_publishedEvents found).guarded fun state event mem =>
    met state event (List.mem_append_right _ mem)).runWith

theorem due_published (found : Bool) : (published found).Due soleConfig := by
  unfold published
  constructor
  · cases found <;> rfl
  · cases found <;> rfl
  · cases found <;> decide +kernel

end Treasury

end StratumBridge.Payout
