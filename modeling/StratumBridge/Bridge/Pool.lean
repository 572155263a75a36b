import StratumBridge.Audit.System
import StratumBridge.Bridge.World
import StratumBridge.Expert.System
import StratumBridge.Opoi.System

/-!
# The pool

All engines around the registry of miners they share.  Sessions come and go and
announce capabilities, every engine finds the registry as it is at the time, and
the auditor bans wallets in it.
-/

namespace StratumBridge.Bridge

open Data Wire Transition Shard Speculative Opoi Expert Audit

/-- What sessions, and the start of the process, do to the registry. -/
inductive RegistryEvent
  | register (wallet : Wallet) (tx : Channel)
  | unregister (wallet : Wallet)
  | markDraftCapable (wallet : Wallet)
  | markAuditorCapable (wallet : Wallet)
  | markExpertCapable (wallet : Wallet) (vramMb : Nat)
  | ban (wallet : Wallet)

/-- The registry after an event. -/
def RegistryEvent.apply (registry : MinerRegistry) : RegistryEvent → MinerRegistry
  | register wallet tx => registry.register wallet tx
  | unregister wallet => registry.unregister wallet
  | markDraftCapable wallet => registry.markDraftCapable wallet
  | markAuditorCapable wallet => registry.markAuditorCapable wallet
  | markExpertCapable wallet vramMb => registry.markExpertCapable wallet vramMb
  | ban wallet => registry.ban wallet

/-- What can happen to the pool. -/
inductive PoolEvent
  | registry (event : RegistryEvent)
  | bridge (event : Bridge.Event)
  | opoi (event : Opoi.Event)
  | experts (event : Expert.Event)
  | audit (event : Audit.Event)

/-- The registry and the engines. -/
structure Pool where
  registry : MinerRegistry
  world : World
  opoi : OpoiEngine
  experts : ExpertDispatcher
  auditor : B3LiteAuditor

namespace Pool

/-- The pool before any event. -/
def new (draftSources : PartialMap String DraftModelSource) (trustedWallets : List Wallet) :
    Pool where
  registry := MinerRegistry.new
  world := World.new draftSources
  opoi := OpoiEngine.new
  experts := ExpertDispatcher.new
  auditor := B3LiteAuditor.new trustedWallets

/-- One event. -/
def next (sha256 : Digest) (arith : Arithmetic) (pool : Pool) : PoolEvent → Pool
  | .registry event => { pool with registry := event.apply pool.registry }
  | .bridge event => { pool with world := World.next sha256 pool.world ⟨pool.registry, event⟩ }
  | .opoi event => { pool with opoi := OpoiEngine.next sha256 pool.opoi ⟨pool.registry, event⟩ }
  | .experts event =>
      { pool with
        experts := ExpertDispatcher.next sha256 arith pool.experts ⟨pool.registry, event⟩ }
  | .audit event =>
      { pool with
        registry :=
          match pool.auditor.bans event with
          | some wallet => pool.registry.ban wallet
          | none => pool.registry
        auditor := B3LiteAuditor.next pool.auditor ⟨pool.registry, event⟩ }

/-- The engine an event is for offers it. -/
def enabled (sha256 : Digest) (pool : Pool) : PoolEvent → Prop
  | .registry _ => True
  | .bridge event => pool.world.enabled sha256 ⟨pool.registry, event⟩
  | .opoi event => pool.opoi.enabled ⟨pool.registry, event⟩
  | .experts event => pool.experts.enabled ⟨pool.registry, event⟩
  | .audit event => pool.auditor.enabled ⟨pool.registry, event⟩

/-- The pool as a system of events. -/
def system (sha256 : Digest) (arith : Arithmetic) : System Pool PoolEvent where
  enabled := enabled sha256
  next := next sha256 arith

variable {sha256 : Digest} {arith : Arithmetic} {pool : Pool} {event : PoolEvent}

/-- No event lifts a ban. -/
theorem banned_next (sha256 : Digest) (arith : Arithmetic) (event : PoolEvent) :
    pool.registry.banned ⊆ (next sha256 arith pool event).registry.banned := by
  cases event with
  | registry event =>
      cases event with
      | ban wallet => exact Finset.subset_insert wallet pool.registry.banned
      | register wallet tx => exact Finset.Subset.refl _
      | unregister wallet => exact Finset.Subset.refl _
      | markDraftCapable wallet =>
          simp only [next, RegistryEvent.apply, MinerRegistry.markDraftCapable]
          split <;> exact Finset.Subset.refl _
      | markAuditorCapable wallet =>
          simp only [next, RegistryEvent.apply, MinerRegistry.markAuditorCapable]
          split <;> exact Finset.Subset.refl _
      | markExpertCapable wallet vramMb =>
          simp only [next, RegistryEvent.apply, MinerRegistry.markExpertCapable]
          split <;> exact Finset.Subset.refl _
  | audit event =>
      simp only [next]
      split
      · exact Finset.subset_insert _ pool.registry.banned
      · exact Finset.Subset.refl _
  | bridge event => exact Finset.Subset.refl _
  | opoi event => exact Finset.Subset.refl _
  | experts event => exact Finset.Subset.refl _

theorem sound_next (arith : Arithmetic) (sound : pool.world.Sound)
    (enabled : pool.enabled sha256 event) : (next sha256 arith pool event).world.Sound := by
  cases event with
  | bridge event => exact sound.next enabled
  | registry event => exact sound
  | opoi event => exact sound
  | experts event => exact sound
  | audit event => exact sound

theorem sound_of_run {draftSources : PartialMap String DraftModelSource}
    {trustedWallets : List Wallet} {events : List PoolEvent}
    (run : (system sha256 arith).Run (new draftSources trustedWallets) events pool) :
    pool.world.Sound :=
  run.invariant (I := fun pool => pool.world.Sound) (World.sound_new draftSources)
    fun _ _ sound enabled _ => sound_next arith sound enabled

end Pool

end StratumBridge.Bridge
