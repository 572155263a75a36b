import StratumBridge.Expert.Combine
import StratumBridge.Shard.Engine

/-!
# The expert dispatcher

`ExpertDispatcher` as a state with one function for each stretch of code between
two awaits.  `dispatch_and_join` is a `Call`; each listed expert is a `Member`
of it, with the locals of its own `dispatch_one_with_retry`.  A oneshot channel
is a `Waiter`: its sender sits in `pending`, what was sent through it in
`replies`.

Who was asked, who answered and what a call returned is appended to `log`, which
nothing reads back.
-/

namespace StratumBridge.Expert

open Data Wire
open Shard (SelectedExpert)

/-- `ExpertAssignmentKey`. -/
structure ExpertAssignmentKey where
  requestId : RequestId
  layerStart : Nat
  layerEnd : Nat
  layerIdx : Nat
  expertId : Nat
  deriving DecidableEq

/-- A oneshot channel. -/
abbrev Waiter := Nat

/-- The arguments of `dispatch_and_join`. -/
structure FanOut where
  requestId : RequestId
  layerStart : Nat
  layerEnd : Nat
  layerIdx : Nat
  tokenIndex : Nat
  modelId : String
  modelGgufUrl : String
  modelGgufSha256 : String
  experts : List SelectedExpert
  minVramMbFor : Nat → Nat
  preExcluded : List Wallet

/-- Why one attempt of a dispatch failed. -/
inductive AttemptError
  | notConnected (wallet : Wallet)
  | channelClosed (wallet : Wallet)
  | dropped (wallet : Wallet)
  | timedOut (wallet : Wallet)
  deriving DecidableEq

/-- Why an expert was given up. -/
inductive ExpertError
  | exhausted (expertId : Nat) (wallet : Wallet) (last : AttemptError)
  | noHostLeft (expertId attempt : Nat) (last : AttemptError)
  deriving DecidableEq

/-- Why a whole fan-out was abandoned. -/
inductive JoinError
  | noExperts
  | outsideRange (layerIdx layerStart layerEnd : Nat)
  | noEligibleHost (expertId minVramMb layerIdx layerStart layerEnd : Nat)
  | expertFailed (error : ExpertError)
  | uncombinable (error : CombineError)
  deriving DecidableEq

/-- Where the dispatch of one expert stands. -/
inductive Progress
  | ready
  | waiting (waiter : Waiter)
  | done (result : OpoiExpertResult)
  | failed (error : ExpertError)
  deriving DecidableEq

/-- The locals of `dispatch_one_with_retry`. -/
structure Member where
  selected : SelectedExpert
  wallet : Wallet
  groupUsedWallets : List Wallet
  triedWallets : List Wallet
  attempt : Nat
  progress : Progress
  deriving DecidableEq

/-- A `dispatch_and_join` under way.  `reader` is the wallet whose line is being
handled. -/
structure Call where
  reader : Wallet
  request : FanOut
  members : List Member

/-- What `dispatch_and_join` ends with. -/
inductive JoinOutcome
  | ok (output : ExpertOutputWire)
  | error (error : JoinError)
  | panicked
  deriving DecidableEq

/-- A line sent for the member of a call. -/
structure Dispatch where
  ticket : Ticket
  index : Nat
  waiter : Waiter
  wallet : Wallet
  tx : Channel
  assign : OpoiExpertAssign
  deriving DecidableEq

/-- What the dispatcher did, and what it found.  `sentAt` is the length of the
log when a reply left its miner. -/
inductive Entry
  | begun (ticket : Ticket) (reader : Wallet) (registry : MinerRegistry) (request : FanOut)
  | assigned (dispatch : Dispatch)
  | delivered (waiter : Waiter) (wallet : Wallet) (result : OpoiExpertResult) (sentAt : Nat)
  | rejected (wallet : Wallet) (requestId : RequestId) (error : AppError)
  | returned (ticket : Ticket) (index : Nat) (waiter : Waiter) (result : OpoiExpertResult)
  | joined (ticket : Ticket) (outcome : JoinOutcome)
  | cancelled (ticket : Ticket)

/-- `ExpertDispatcher`, with the calls under way and its history. -/
structure ExpertDispatcher where
  assignments : PartialMap ExpertAssignmentKey Wallet
  pending : PartialMap ExpertAssignmentKey Waiter
  recent : IndexMap ExpertAssignmentKey Wallet
  replies : PartialMap Waiter OpoiExpertResult
  calls : PartialMap Ticket Call
  nextWaiter : Waiter
  nextTicket : Ticket
  log : List Entry

/-- `MAX_RETRIES_PER_EXPERT`. -/
def maxRetriesPerExpert : Nat :=
  2

/-! ## Keys and lines -/

/-- The key of one expert's dispatch. -/
def FanOut.key (request : FanOut) (selected : SelectedExpert) : ExpertAssignmentKey where
  requestId := request.requestId
  layerStart := request.layerStart
  layerEnd := request.layerEnd
  layerIdx := request.layerIdx
  expertId := selected.expertId

/-- The key a reply is looked up under. -/
def replyKey (result : OpoiExpertResult) : ExpertAssignmentKey where
  requestId := result.requestId
  layerStart := result.layerStart
  layerEnd := result.layerEnd
  layerIdx := result.layerIdx
  expertId := result.expertId

/-- The line that asks for one expert. -/
def FanOut.assign (sha256 : Digest) (request : FanOut) (selected : SelectedExpert) :
    OpoiExpertAssign where
  requestId := request.requestId
  modelId := request.modelId
  layerStart := request.layerStart
  layerEnd := request.layerEnd
  layerIdx := request.layerIdx
  expertId := selected.expertId
  tokenIndex := request.tokenIndex
  input := .tensor selected.shape (f32ToHex selected.data)
  inputHash := sha256Hex sha256 (f32ToLeBytes selected.data)
  modelGgufUrl := request.modelGgufUrl
  modelGgufSha256 := request.modelGgufSha256

/-! ## Host selection -/

/-- The up-front selection: the experts with their hosts, and every wallet used
by then; or the first expert without a host. -/
def plan (registry : MinerRegistry) (minVramMbFor : Nat → Nat) :
    List SelectedExpert → List Wallet →
      Except SelectedExpert (List (SelectedExpert × Wallet) × List Wallet)
  | [], usedWallets => .ok ([], usedWallets)
  | selected :: rest, usedWallets =>
      match registry.pickExpertHost (minVramMbFor selected.expertId) usedWallets with
      | none => .error selected
      | some wallet =>
          match plan registry minVramMbFor rest (usedWallets ++ [wallet]) with
          | .error hostless => .error hostless
          | .ok (planned, used) => .ok ((selected, wallet) :: planned, used)

namespace Member

/-- An expert about to be dispatched to its planned host. -/
def start (usedWallets : List Wallet) (planned : SelectedExpert × Wallet) : Member where
  selected := planned.1
  wallet := planned.2
  groupUsedWallets := usedWallets
  triedWallets := []
  attempt := 0
  progress := .ready

/-- The wallets a retry of this expert passes over. -/
def exclude (member : Member) : List Wallet :=
  member.groupUsedWallets ++ (member.triedWallets ++ [member.wallet])

/-- The host a retry of this expert would go to; the memory requirement is
waived. -/
def retryHost (registry : MinerRegistry) (member : Member) : Option Wallet :=
  registry.pickExpertHost 0 member.exclude

/-- After a failed attempt: give up, or get ready for another host. -/
def retry (registry : MinerRegistry) (error : AttemptError) (member : Member) : Member :=
  let tried :=
    { member with
      triedWallets := member.triedWallets ++ [member.wallet]
      attempt := member.attempt + 1 }
  if maxRetriesPerExpert < member.attempt + 1 then
    { tried with progress := .failed (.exhausted member.selected.expertId member.wallet error) }
  else
    match member.retryHost registry with
    | none =>
        { tried with
          progress := .failed (.noHostLeft member.selected.expertId (member.attempt + 1) error) }
    | some nextWallet =>
        { tried with
          groupUsedWallets := member.groupUsedWallets ++ [nextWallet]
          wallet := nextWallet
          progress := .ready }

/-- What the expert's future resolved to, once it has. -/
def outcome (member : Member) : Option (Except ExpertError (F32 × OpoiExpertResult)) :=
  match member.progress with
  | .done result => some (.ok (member.selected.weight, result))
  | .failed error => some (.error error)
  | _ => none

end Member

namespace Call

/-- Replace one member. -/
def setMember (call : Call) (index : Nat) (member : Member) : Call :=
  { call with members := call.members.set index member }

/-- `join_all`: the outcomes of all members in the order of the list, once all
are there. -/
def joinAll (call : Call) : Option (List (Except ExpertError (F32 × OpoiExpertResult))) :=
  call.members.mapM Member.outcome

end Call

/-- The end of `dispatch_and_join`: the first failure of the list abandons the
group. -/
def conclude (arith : Arithmetic)
    (outcomes : List (Except ExpertError (F32 × OpoiExpertResult))) : JoinOutcome :=
  match outcomes.mapM id with
  | .error error => .error (.expertFailed error)
  | .ok successes =>
      match combineWeighted arith successes with
      | .ok output => .ok output
      | .error error => .error (.uncombinable error)
      | .panicked => .panicked

namespace ExpertDispatcher

/-- `ExpertDispatcher::new`. -/
def new : ExpertDispatcher where
  assignments := PartialMap.empty
  pending := PartialMap.empty
  recent := IndexMap.empty
  replies := PartialMap.empty
  calls := PartialMap.empty
  nextWaiter := 0
  nextTicket := 0
  log := []

/-- Append to the history. -/
def emit (dispatcher : ExpertDispatcher) (entries : List Entry) : ExpertDispatcher :=
  { dispatcher with log := dispatcher.log ++ entries }

/-- Both maps forget a key. -/
def forget (dispatcher : ExpertDispatcher) (key : ExpertAssignmentKey) : ExpertDispatcher :=
  { dispatcher with
    assignments := dispatcher.assignments.remove key
    pending := dispatcher.pending.remove key }

/-- Store a call, or return from it if all its members have finished. -/
def settle (arith : Arithmetic) (ticket : Ticket) (call : Call) (dispatcher : ExpertDispatcher) :
    ExpertDispatcher :=
  match call.joinAll with
  | none => { dispatcher with calls := dispatcher.calls.insert ticket call }
  | some outcomes =>
      { dispatcher with
        calls := dispatcher.calls.remove ticket
        log := dispatcher.log ++ [.joined ticket (conclude arith outcomes)] }

/-- Return from a call before anything was sent. -/
def refuse (error : JoinError) (dispatcher : ExpertDispatcher) : ExpertDispatcher :=
  dispatcher.emit [.joined dispatcher.nextTicket (.error error)]

/-- `dispatch_and_join` up to the members' first dispatch. -/
def dispatchAndJoin (registry : MinerRegistry) (reader : Wallet) (request : FanOut)
    (dispatcher : ExpertDispatcher) : ExpertDispatcher :=
  let ticket := dispatcher.nextTicket
  let called := dispatcher.emit [.begun ticket reader registry request]
  let after :=
    if request.experts = [] then
      called.refuse .noExperts
    else if request.layerIdx < request.layerStart ∨ request.layerEnd ≤ request.layerIdx then
      called.refuse (.outsideRange request.layerIdx request.layerStart request.layerEnd)
    else
      match plan registry request.minVramMbFor request.experts request.preExcluded with
      | .error hostless =>
          called.refuse (.noEligibleHost hostless.expertId
            (request.minVramMbFor hostless.expertId) request.layerIdx request.layerStart
            request.layerEnd)
      | .ok (planned, usedWallets) =>
          { called with
            calls := called.calls.insert ticket
              ⟨reader, request, planned.map (Member.start usedWallets)⟩ }
  { after with nextTicket := ticket + 1 }

/-- `dispatch_one` for a member that is ready, up to its await.  `isOpen` is
whether the other end of the wallet's channel is still there. -/
def dispatchOne (sha256 : Digest) (arith : Arithmetic) (registry : MinerRegistry)
    (ticket : Ticket) (index : Nat) (isOpen : Bool) (call : Call) (member : Member)
    (dispatcher : ExpertDispatcher) : ExpertDispatcher :=
  let key := call.request.key member.selected
  match registry.get member.wallet with
  | none =>
      dispatcher.settle arith ticket
        (call.setMember index (member.retry registry (.notConnected member.wallet)))
  | some tx =>
      let noted :=
        { dispatcher with
          assignments := dispatcher.assignments.insert key member.wallet
          pending := dispatcher.pending.insert key dispatcher.nextWaiter
          recent := dispatcher.recent.insert key member.wallet
          nextWaiter := dispatcher.nextWaiter + 1 }
      if isOpen then
        { noted with
          calls := noted.calls.insert ticket
            (call.setMember index { member with progress := .waiting dispatcher.nextWaiter })
          log := noted.log ++ [.assigned
            { ticket := ticket
              index := index
              waiter := dispatcher.nextWaiter
              wallet := member.wallet
              tx := tx
              assign := call.request.assign sha256 member.selected }] }
      else
        (noted.forget key).settle arith ticket
          (call.setMember index (member.retry registry (.channelClosed member.wallet)))

/-- Why the wait of a member ended without a reply: its sender is gone, or the
time is over. -/
def missed (dispatcher : ExpertDispatcher) (key : ExpertAssignmentKey) (waiter : Waiter)
    (wallet : Wallet) : AttemptError :=
  if dispatcher.pending key = some waiter then .timedOut wallet else .dropped wallet

/-- `dispatch_one` after its await. -/
def wake (arith : Arithmetic) (registry : MinerRegistry) (ticket : Ticket) (index : Nat)
    (call : Call) (member : Member) (waiter : Waiter) (dispatcher : ExpertDispatcher) :
    ExpertDispatcher :=
  let key := call.request.key member.selected
  let cleared := dispatcher.forget key
  match dispatcher.replies waiter with
  | some result =>
      (cleared.emit [.returned ticket index waiter result]).settle arith ticket
        (call.setMember index { member with progress := .done result })
  | none =>
      cleared.settle arith ticket
        (call.setMember index
          (member.retry registry (dispatcher.missed key waiter member.wallet)))

/-- `handle_expert_result`. -/
def handleExpertResult (wallet : Wallet) (result : OpoiExpertResult) (sentAt : Nat)
    (dispatcher : ExpertDispatcher) : ExpertDispatcher :=
  let key := replyKey result
  match dispatcher.assignments key with
  | none => dispatcher.emit [.rejected wallet result.requestId .unknownRequest]
  | some assigned =>
      if assigned = wallet then
        match dispatcher.pending key with
        | none => dispatcher
        | some waiter =>
            { dispatcher with
              pending := dispatcher.pending.remove key
              replies := dispatcher.replies.insert waiter result
              log := dispatcher.log ++ [.delivered waiter wallet result sentAt] }
      else
        dispatcher.emit [.rejected wallet result.requestId .notAssignedToCaller]

/-- `on_disconnect`. -/
def onDisconnect (wallet : Wallet) (dispatcher : ExpertDispatcher) : ExpertDispatcher :=
  { dispatcher with
    assignments := dispatcher.assignments.retain fun assigned => assigned ≠ wallet
    pending := fun key =>
      if dispatcher.assignments key = some wallet then none else dispatcher.pending key }

/-- The caller's session ends, and the call with it. -/
def cancel (ticket : Ticket) (dispatcher : ExpertDispatcher) : ExpertDispatcher :=
  { dispatcher with
    calls := dispatcher.calls.remove ticket
    log := dispatcher.log ++ [.cancelled ticket] }

end ExpertDispatcher

end StratumBridge.Expert
