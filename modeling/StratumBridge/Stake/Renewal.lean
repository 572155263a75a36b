import StratumBridge.Data.PartialMap
import StratumBridge.Lifecycle.Commit
import StratumBridge.Transition.Run

/-!
# Renewals

`renew_tick` beside the chain it asks and renews.  A tick goes through the addresses
of the pool one after another; blocks arrive at any time in between.  A renewal that
was sent is in flight until a block includes it, and only then does the chain tell of
it.  What the chain knows of a stake and does not tell (when it was staked, how often
its status has changed) is there for the statements only.

A process may end between any two steps; the chain and the renewals sent stay.
-/

namespace StratumBridge.Stake

open Data Transition
open Lifecycle (StakePool)

/-- The status of a stake. -/
inductive StakeStatus
  | active
  | unstaking
  | released
  | slashed
  | suspended
  deriving DecidableEq

/-- `OpoiStake`, as far as a renewal depends on it. -/
structure OpoiStake where
  status : StakeStatus
  lastRenewalHeight : Option Nat
  deriving DecidableEq

/-- A stake on the chain. -/
structure ChainStake where
  status : StakeStatus
  lastRenewalHeight : Option Nat
  stakedAt : Nat
  changes : Nat
  deriving DecidableEq

namespace ChainStake

/-- What `getopoistake` tells of a stake. -/
def view (stake : ChainStake) : OpoiStake :=
  ⟨stake.status, stake.lastRenewalHeight⟩

/-- The blocks since the last renewal of a stake, or since it was staked. -/
def age (height : Nat) (stake : ChainStake) : Nat :=
  height - stake.lastRenewalHeight.getD stake.stakedAt

end ChainStake

/-! ## The chain -/

/-- The chain, with the heights at which the renewals in flight were sent. -/
structure Chain where
  height : Nat
  stakes : PartialMap String ChainStake
  inFlight : String → List Nat

namespace Chain

/-- A new block.  It includes renewals of the bridge, so that `left` are still in
flight, and renewals sent by others. -/
def block (left : String → List Nat) (elsewhere : List String) (chain : Chain) : Chain where
  height := chain.height + 1
  stakes := fun address => (chain.stakes address).map fun stake =>
    if left address ≠ chain.inFlight address ∨ address ∈ elsewhere then
      { stake with lastRenewalHeight := some (chain.height + 1) }
    else
      stake
  inFlight := left

/-- The status of a stake changes. -/
def change (address : String) (status : StakeStatus) (chain : Chain) : Chain :=
  { chain with
    stakes := fun other => (chain.stakes other).map fun stake =>
      if other = address then { stake with status := status, changes := stake.changes + 1 }
      else stake }

/-- An address is staked, for the first time or anew. -/
def stake (address : String) (chain : Chain) : Chain :=
  { chain with
    stakes := chain.stakes.insert address
      { status := .active
        lastRenewalHeight := none
        stakedAt := chain.height
        changes := ((chain.stakes address).map fun stake => stake.changes + 1).getD 0 } }

/-- A renewal is sent. -/
def renew (address : String) (chain : Chain) : Chain :=
  { chain with
    inFlight := fun other =>
      if other = address then chain.inFlight other ++ [chain.height] else chain.inFlight other }

end Chain

/-! ## The tick -/

/-- What a tick found for an address, and whether the renewal it then sent was
accepted. -/
structure Visit where
  address : String
  found : Option ChainStake
  renewal : Option Bool

/-- A tick that went through the pool. -/
structure TickRecord where
  height : Nat
  visits : List Visit

/-- A renewal that was accepted, with the stake it was sent for. -/
structure Renewal where
  address : String
  sentAt : Nat
  stake : Option ChainStake

/-- Where `renew_tick` stands, with the height it read. -/
inductive Tick
  | idle
  | visiting (height : Nat) (visits : List Visit) (rest : List String)
  | renewing (height : Nat) (visits : List Visit) (address : String) (found : ChainStake)
      (rest : List String)

/-- The stake is renewed by a tick that finds it so. -/
def due (stakeRenewBlocks height : Nat) (stake : OpoiStake) : Bool :=
  decide (stake.status = .suspended) ||
    decide (stakeRenewBlocks ≤ height - stake.lastRenewalHeight.getD 0)

/-- The engine's renewals beside the chain, with their history. -/
structure Renewals where
  chain : Chain
  tick : Tick
  sent : List Renewal
  ticks : List TickRecord

namespace Renewals

/-- Nothing was sent yet, whatever stands on the chain. -/
def start (height : Nat) (stakes : PartialMap String ChainStake) : Renewals where
  chain := ⟨height, stakes, fun _ => []⟩
  tick := .idle
  sent := []
  ticks := []

/-- The tick goes on to the next address, or ends. -/
def goOn (height : Nat) (visits : List Visit) (rest : List String) (renewals : Renewals) :
    Renewals :=
  match rest with
  | [] => { renewals with tick := .idle, ticks := renewals.ticks ++ [⟨height, visits⟩] }
  | address :: rest => { renewals with tick := .visiting height visits (address :: rest) }

/-- After `get_chain_height`. -/
def resumeHeight (pool : StakePool) (answered : Bool) (renewals : Renewals) : Renewals :=
  if answered then renewals.goOn renewals.chain.height [] pool.addresses else renewals

/-- After `get_opoi_stake`.  A query that fails looks as if there were no stake. -/
def resumeStake (stakeRenewBlocks : Nat) (answered : Bool) (renewals : Renewals) : Renewals :=
  match renewals.tick with
  | .visiting height visits (address :: rest) =>
      match if answered then renewals.chain.stakes address else none with
      | some stake =>
          if due stakeRenewBlocks height stake.view then
            { renewals with tick := .renewing height visits address stake rest }
          else
            renewals.goOn height (visits ++ [⟨address, some stake, none⟩]) rest
      | none => renewals.goOn height (visits ++ [⟨address, none, none⟩]) rest
  | _ => renewals

/-- `renew_one`, after `renew_opoi_stake`. -/
def resumeRenewal (accepted : Bool) (renewals : Renewals) : Renewals :=
  match renewals.tick with
  | .renewing height visits address found rest =>
      let renewed :=
        if accepted then
          { renewals with
            chain := renewals.chain.renew address
            sent := renewals.sent ++
              [⟨address, renewals.chain.height, renewals.chain.stakes address⟩] }
        else
          renewals
      renewed.goOn height (visits ++ [⟨address, some found, some accepted⟩]) rest
  | _ => renewals

/-! ## Events -/

/-- What can happen: a tick hears of the height, of a stake, and of its renewal, or
the chain changes, or the process starts again. -/
inductive Event
  | heightRead (answered : Bool)
  | stakeRead (answered : Bool)
  | renewed (accepted : Bool)
  | block (left : String → List Nat) (elsewhere : List String)
  | changed (address : String) (status : StakeStatus)
  | staked (address : String)
  | restarted

/-- One event. -/
def next (pool : StakePool) (stakeRenewBlocks : Nat) (renewals : Renewals) : Event → Renewals
  | .heightRead answered => renewals.resumeHeight pool answered
  | .stakeRead answered => renewals.resumeStake stakeRenewBlocks answered
  | .renewed accepted => renewals.resumeRenewal accepted
  | .block left elsewhere => { renewals with chain := renewals.chain.block left elsewhere }
  | .changed address status => { renewals with chain := renewals.chain.change address status }
  | .staked address => { renewals with chain := renewals.chain.stake address }
  | .restarted => { renewals with tick := .idle }

/-- An answer finds the tick waiting for it, and a block takes renewals from those in
flight. -/
def enabled (renewals : Renewals) : Event → Prop
  | .heightRead _ => renewals.tick = .idle
  | .stakeRead _ =>
      ∃ height visits address rest, renewals.tick = .visiting height visits (address :: rest)
  | .renewed _ =>
      ∃ height visits address found rest,
        renewals.tick = .renewing height visits address found rest
  | .block left _ => ∀ address, (left address).Sublist (renewals.chain.inFlight address)
  | _ => True

/-- The renewals as a system of events. -/
def system (pool : StakePool) (stakeRenewBlocks : Nat) : System Renewals Event where
  enabled := enabled
  next := next pool stakeRenewBlocks

end Renewals

end StratumBridge.Stake
