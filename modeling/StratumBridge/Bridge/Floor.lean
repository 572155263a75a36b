import StratumBridge.Bridge.Pool
import StratumBridge.Bridge.Receipts
import StratumBridge.Shard.Outstanding
import StratumBridge.Speculative.Outstanding

/-!
# Wedged requests

The two engines among the sessions of their miners.  A write that fails closes a
session's channel before the session ends; a session that ends drops the handler that is
parked in it, unregisters its wallet and takes its assignments back.  The retry ticks look
at assignments only, so a rollback that was sent to nobody, or to a wallet that has left
since, is waited for and never sent again.  A tick that dispatches a pipeline past its last
shard panics, and its task ends with it.
-/

namespace StratumBridge.Bridge

open Data Rpc Wire Transition Shard Speculative

/-- A handler that is parked in a session. -/
inductive Handler
  | shard (ticket : Ticket)
  | speculative (ticket : Ticket)

/-- `run_session` stops polling the handler. -/
def Handler.dropped : Handler → Bridge.Event
  | shard ticket => .shard (.dropped ticket)
  | speculative ticket => .speculative (.dropped ticket)

/-- What can happen to the bridge and the sessions around it. -/
inductive FloorEvent
  | registry (event : RegistryEvent)
  /-- A write to a miner fails, and the session writes no more. -/
  | failed (tx : Channel)
  /-- The end of a session, with the handler it drops. -/
  | left (wallet : Wallet) (handler : Option Handler)
  | bridge (event : Bridge.Event)

/-- Only the end of a session drops a handler or takes assignments back. -/
def Event.endsSession : Event → Bool
  | .shard (.dropped _) | .shard (.disconnect _) => true
  | .speculative (.dropped _) | .speculative (.disconnect _) => true
  | _ => false

/-- The registry, the channels nobody writes to any more, and the bridge. -/
structure Floor where
  registry : MinerRegistry
  closed : Finset Channel
  world : World

namespace Floor

/-- No session, and no event of the bridge. -/
def new (draftSources : PartialMap String DraftModelSource) : Floor :=
  ⟨.new, ∅, .new draftSources⟩

/-- The handler that is parked in a session is dropped. -/
def dropping (sha256 : Digest) (handler : Option Handler) (floor : Floor) : Floor :=
  { floor with
    world := handler.elim floor.world fun handler =>
      World.next sha256 floor.world ⟨floor.registry, handler.dropped⟩ }

/-- The rest of `run_session`: the wallet is unregistered, and both engines hear of it. -/
def leave (sha256 : Digest) (wallet : Wallet) (floor : Floor) : Floor :=
  let registry := floor.registry.unregister wallet
  { floor with
    registry := registry
    world := World.next sha256
      (World.next sha256 floor.world ⟨registry, .shard (.disconnect wallet)⟩)
      ⟨registry, .speculative (.disconnect wallet)⟩ }

/-- One event.  Nothing that the end of a session calls suspends. -/
def next (sha256 : Digest) (floor : Floor) : FloorEvent → Floor
  | .registry event => { floor with registry := event.apply floor.registry }
  | .failed tx => { floor with closed := insert tx floor.closed }
  | .left wallet handler => (floor.dropping sha256 handler).leave sha256 wallet
  | .bridge event => { floor with world := World.next sha256 floor.world ⟨floor.registry, event⟩ }

/-- The handler is parked, for a result of this wallet. -/
def Parks (floor : Floor) (wallet : Wallet) : Handler → Prop
  | .shard ticket => ∃ call, floor.world.shard.calls ticket = some call ∧ call.wallet = wallet
  | .speculative ticket => floor.world.speculative.calls ticket ≠ none

/-- The engines offer the event; only the end of a session unregisters a wallet, drops a
handler and takes assignments back. -/
def enabled (sha256 : Digest) (floor : Floor) : FloorEvent → Prop
  | .registry event => ∀ wallet, event ≠ .unregister wallet
  | .left wallet handler => ∀ parked, handler = some parked → floor.Parks wallet parked
  | .bridge event =>
      floor.world.enabled sha256 ⟨floor.registry, event⟩ ∧ event.endsSession = false
  | _ => True

/-- The floor as a system of events. -/
def system (sha256 : Digest) : System Floor FloorEvent where
  enabled := enabled sha256
  next := next sha256

/-- The event of the speculative engine in an event of the bridge.  A claim of an eligible
request starts a pipeline there. -/
def speculative? (floor : Floor) : Bridge.Event → Option Speculative.Event
  | .speculative event => some event
  | .shard (.pollClaim true true) =>
      match floor.world.shard.poll with
      | .claiming req _ manifest promptHex graph source =>
          some (.startPipeline req.requestId manifest (ShardEngine.denseShards graph)
            req.maxTokens promptHex req.promptHash source)
      | _ => none
  | _ => none

/-- The observer of a request's rollbacks, at an event of the speculative engine. -/
def observe (sha256 : Digest) (requestId : RequestId) (floor : Floor) (wait : Wait)
    (event : Option Speculative.Event) : Wait :=
  event.elim wait fun event =>
    SpeculativeEngine.attend sha256 requestId floor.world.speculative wait
      ⟨floor.registry, event⟩

/-- The observer of a request's rollbacks.  A handler that is dropped sends none. -/
def attend (sha256 : Digest) (requestId : RequestId) (floor : Floor) (wait : Wait) :
    FloorEvent → Wait
  | .left wallet handler =>
      (floor.dropping sha256 handler).observe sha256 requestId wait (some (.disconnect wallet))
  | .bridge event => floor.observe sha256 requestId wait (floor.speculative? event)
  | _ => wait

/-- The floor with the observer beside it. -/
def attended (sha256 : Digest) (requestId : RequestId) : System (Floor × Wait) FloorEvent :=
  (system sha256).watched (attend sha256 requestId)

/-- The wallet is registered with an open channel. -/
def Reachable (floor : Floor) (wallet : Wallet) : Prop :=
  ∃ tx, floor.registry.get wallet = some tx ∧ tx ∉ floor.closed

/-- An engine waits for the wallet with a step of the request. -/
def Engaged (floor : Floor) (requestId : RequestId) (wait : Wait) (wallet : Wallet) : Prop :=
  floor.world.shard.Engaged requestId wallet ∨
    floor.world.speculative.Engaged requestId wait wallet

/-- A rollback of the request waits for the wallet, and its pipeline is not dropped when
the wallet leaves. -/
def RollsBackAt (floor : Floor) (requestId : RequestId) (wait : Wait) (wallet : Wallet) : Prop :=
  ∃ pipeline state shardIndex, floor.world.speculative.pipelines requestId = some pipeline ∧
    pipeline.phase = .awaitingRollback state ∧ shardIndex ∈ state.pending ∧
    wait.Addressed shardIndex wallet ∧ pipeline.draftWallet ≠ some wallet

/-- The condition on a session's event: the wallet that registers has an open channel and
the channel that fails is not in use, or nothing is out there for the request; no rollback
waits for the wallet that leaves; and the handler dropped with it leaves no placeholder of
another wallet behind. -/
def SessionGuard (requestId : RequestId) (floor : Floor) (wait : Wait) : FloorEvent → Prop
  | .registry (.register wallet tx) => tx ∈ floor.closed → ¬ floor.Engaged requestId wait wallet
  | .failed tx => ∀ wallet, floor.registry.get wallet = some tx →
      ¬ floor.Engaged requestId wait wallet
  | .left wallet handler => ¬ floor.RollsBackAt requestId wait wallet ∧
      ∀ ticket, handler = some (.shard ticket) →
        floor.world.shard.Releases requestId wallet ticket
  | _ => True

/-- The conditions on a step under which no pipeline of the request is wedged; that no
boundary layer is handed over past the last shard, of any request. -/
structure TendGuard (requestId : RequestId) (state : Floor × Wait) (event : FloorEvent) :
    Prop where
  shard : ∀ inner, event = .bridge (.shard inner) →
    ShardEngine.TendGuard state.1.Reachable requestId state.1.world.shard
        ⟨state.1.registry, inner⟩ ∧
      ShardEngine.HandsOverInside state.1.world.shard ⟨state.1.registry, inner⟩
  speculative : ∀ outer inner, event = .bridge outer → state.1.speculative? outer = some inner →
    SpeculativeEngine.TendGuard state.1.Reachable requestId state.1.world.speculative
      ⟨state.1.registry, inner⟩
  session : state.1.SessionGuard requestId state.2 event

variable {sha256 : Digest} {floor after : Floor} {event : FloorEvent} {inner : Bridge.Event}
variable {requestId : RequestId} {wait : Wait} {wallet : Wallet} {handler : Option Handler}

/-! ## The engines in it -/

theorem speculative_next (sha256 : Digest) (floor : Floor) (inner : Bridge.Event) :
    (next sha256 floor (.bridge inner)).world.speculative =
      (floor.speculative? inner).elim floor.world.speculative fun event =>
        SpeculativeEngine.next sha256 floor.world.speculative ⟨floor.registry, event⟩ := by
  cases inner with
  | shard event =>
      cases event with
      | pollClaim claimed eligible =>
          cases claimed <;> cases eligible <;> try rfl
          simp only [next, World.next, World.persist, World.handOver, speculative?]
          cases floor.world.shard.poll <;> rfl
      | _ => rfl
  | _ => rfl

/-- The speculative engine takes part in an event that it offers, and starts pipelines
with shards only. -/
theorem enabled_speculative {event : Speculative.Event}
    (enabled : floor.enabled sha256 (.bridge inner)) (dense : floor.world.shard.ClaimsDense)
    (isInner : floor.speculative? inner = some event) :
    floor.world.speculative.enabled ⟨floor.registry, event⟩ ∧
      SpeculativeEngine.HasShards floor.world.speculative ⟨floor.registry, event⟩ := by
  cases inner with
  | speculative inner =>
      cases isInner
      refine ⟨enabled.1.2.1, ?_⟩
      cases event with
      | startPipeline => exact enabled.1.1.elim
      | _ => trivial
  | shard inner =>
      cases inner with
      | pollClaim claimed eligible =>
          cases claimed <;> cases eligible <;> try cases isInner
          simp only [speculative?] at isInner
          split at isInner
          · rename_i req rest manifest promptHex graph source claims
            cases isInner
            exact ⟨trivial, dense req rest manifest promptHex graph source claims⟩
          · cases isInner
      | _ => cases isInner
  | _ => cases isInner

/-! ## The engines on their own -/

/-- What keeps the two ticks going, and their bookkeeping, whatever the request. -/
structure Sound (world : World) : Prop where
  fresh : world.shard.TicketsFresh
  dense : world.shard.ClaimsDense
  inside : world.shard.Inside
  placed : ∀ requestId pipeline, world.speculative.pipelines requestId = some pipeline →
    pipeline.Placed
  ticking : world.speculative.ticking = true

theorem sound_new (draftSources : PartialMap String DraftModelSource) :
    Sound (.new draftSources) where
  fresh := ShardEngine.ticketsFresh_new
  dense := ShardEngine.claimsDense_new
  inside := ShardEngine.inside_new
  placed := fun _ _ present => by cases present
  ticking := rfl

theorem Sound.calm {world : World} (sound : Sound world) (other : RequestId) :
    world.speculative.dispatchPanics other = false :=
  SpeculativeEngine.dispatchPanics_of_placed (sound.placed other)

/-- An event of the bridge keeps the ticks going while boundary layers are handed over to
shards that exist. -/
theorem Sound.next (sound : Sound floor.world) (enabled : floor.enabled sha256 (.bridge inner))
    (hands : ∀ event, inner = .shard event →
      ShardEngine.HandsOverInside floor.world.shard ⟨floor.registry, event⟩) :
    Sound (Floor.next sha256 floor (.bridge inner)).world := by
  have shard : ShardEngine.TicketsFresh (Floor.next sha256 floor (.bridge inner)).world.shard ∧
      ShardEngine.ClaimsDense (Floor.next sha256 floor (.bridge inner)).world.shard ∧
      ShardEngine.Inside (Floor.next sha256 floor (.bridge inner)).world.shard := by
    cases inner with
    | shard event =>
        have offered : floor.world.shard.enabled ⟨floor.registry, event⟩ := enabled.1.2.1
        exact ⟨sound.fresh.next offered, sound.dense.next offered,
          sound.inside.next sound.fresh sound.dense offered (hands event rfl)⟩
    | _ => exact ⟨sound.fresh, sound.dense, sound.inside⟩
  refine ⟨shard.1, shard.2.1, shard.2.2, ?_, ?_⟩
  · rw [speculative_next]
    cases isInner : floor.speculative? inner with
    | none => exact sound.placed
    | some event =>
        obtain ⟨offered, hasShards⟩ := enabled_speculative enabled sound.dense isInner
        exact SpeculativeEngine.placed_next sound.placed offered hasShards
  · rw [speculative_next]
    cases floor.speculative? inner with
    | none => exact sound.ticking
    | some event =>
        exact (SpeculativeEngine.next_ticking sha256 _ sound.calm).trans sound.ticking

/-- Dropping a handler leaves every pipeline and every tick. -/
theorem Sound.dropping (sound : Sound floor.world)
    (parks : ∀ parked, handler = some parked → floor.Parks wallet parked) :
    Sound (floor.dropping sha256 handler).world := by
  cases handler with
  | none => exact sound
  | some parked =>
      cases parked with
      | shard ticket =>
          obtain ⟨call, found, -⟩ := parks _ rfl
          have offered : floor.world.shard.enabled ⟨floor.registry, .dropped ticket⟩ :=
            ⟨call, found⟩
          exact ⟨ShardEngine.TicketsFresh.next sound.fresh offered, sound.dense,
            ⟨sound.inside.ticking, sound.inside.within⟩, sound.placed, sound.ticking⟩
      | speculative ticket =>
          exact ⟨sound.fresh, sound.dense, sound.inside, sound.placed, sound.ticking⟩

theorem Sound.leave (sound : Sound floor.world) (wallet : Wallet) :
    Sound (floor.leave sha256 wallet).world where
  fresh := sound.fresh
  dense := sound.dense
  inside := ⟨sound.inside.ticking, sound.inside.within⟩
  placed := fun requestId pipeline present =>
    sound.placed requestId pipeline (PartialMap.retain_eq_some_iff.mp present).1
  ticking := sound.ticking

/-! ## The invariant -/

/-- What is out for a request is at wallets that can be reached. -/
structure Held (requestId : RequestId) (floor : Floor) (wait : Wait) : Prop where
  sound : Sound floor.world
  shard : floor.world.shard.Tended floor.Reachable requestId
  speculative : floor.world.speculative.Tended floor.Reachable requestId wait

/-- Sessions come and go, and those at work can still be reached. -/
theorem Held.of_engaged (held : floor.Held requestId wait) (same : after.world = floor.world)
    (engaged : ∀ wallet, floor.Engaged requestId wait wallet → floor.Reachable wallet →
      after.Reachable wallet) : after.Held requestId wait where
  sound := by
    rw [same]
    exact held.sound
  shard := by
    rw [same]
    exact held.shard.of_engaged fun wallet at_work => engaged wallet (.inl at_work)
  speculative := by
    rw [same]
    exact held.speculative.of_engaged fun wallet at_work => engaged wallet (.inr at_work)

/-- Every guarded event of the bridge keeps what is out within reach. -/
theorem Held.bridge (held : floor.Held requestId wait)
    (enabled : floor.enabled sha256 (.bridge inner))
    (guarded : TendGuard requestId (floor, wait) (.bridge inner)) :
    (next sha256 floor (.bridge inner)).Held requestId
      (attend sha256 requestId floor wait (.bridge inner)) where
  sound := by
    apply held.sound.next enabled
    rintro event rfl
    exact (guarded.shard event rfl).2
  shard := by
    cases inner with
    | shard event =>
        apply held.shard.next held.sound.fresh enabled.1.2.1 (guarded.shard event rfl).1
        rintro ticket rfl
        cases enabled.2
    | _ => exact held.shard
  speculative := by
    rw [speculative_next, attend, observe]
    cases isInner : floor.speculative? inner with
    | none => exact held.speculative
    | some event =>
        obtain ⟨offered, hasShards⟩ := enabled_speculative enabled held.sound.dense isInner
        exact held.speculative.next offered hasShards (guarded.speculative inner event rfl isInner)

/-- Nobody waits for a wallet that has left, as long as no rollback did. -/
theorem not_engaged_of_left (stays : ¬ floor.RollsBackAt requestId wait wallet) :
    ¬ (leave sha256 wallet floor).Engaged requestId
      (observe sha256 requestId floor wait (some (.disconnect wallet))) wallet := by
  rintro (⟨pipeline, assignment, -, assigned, -, holder⟩ | engaged)
  · have kept := (PartialMap.retain_eq_some_iff.mp assigned).2
    simp [holder] at kept
  · cases engaged with
    | relay present relaying assigned holder =>
        have kept := (PartialMap.retain_eq_some_iff.mp assigned).2
        simp [holder] at kept
    | draft present awaiting assigned =>
        have kept := (PartialMap.retain_eq_some_iff.mp assigned).2
        simp at kept
    | @rollback state shardIndex awaits pending addressed =>
        obtain ⟨pipeline, found, phase⟩ := SpeculativeEngine.awaited_eq_some_iff.mp awaits
        obtain ⟨present, kept⟩ := PartialMap.retain_eq_some_iff.mp found
        have waited : floor.world.speculative.awaited requestId = some state :=
          SpeculativeEngine.awaited_eq_some_iff.mpr ⟨pipeline, present, phase⟩
        refine stays ⟨pipeline, state, shardIndex, present, phase, pending, ?_, ?_⟩
        · simp only [observe, Option.elim_some, SpeculativeEngine.attend, waited,
            Option.isSome_some, if_true] at addressed
          exact addressed
        · exact of_decide_eq_true kept

theorem tendGuard_disconnect (served : Wallet → Prop) (requestId : RequestId)
    (engine : SpeculativeEngine) (registry : MinerRegistry) (wallet : Wallet) :
    SpeculativeEngine.TendGuard served requestId engine ⟨registry, .disconnect wallet⟩ :=
  ⟨nofun, nofun, nofun, nofun, nofun⟩

/-- The speculative engine keeps what is out when a handler is dropped. -/
theorem Held.dropping_speculative (held : floor.Held requestId wait) (sha256 : Digest)
    (handler : Option Handler) :
    (floor.dropping sha256 handler).world.speculative.Tended floor.Reachable requestId wait := by
  cases handler with
  | none => exact held.speculative
  | some parked =>
      cases parked with
      | shard ticket => exact held.speculative
      | speculative ticket => exact held.speculative.dropCall ticket

/-- What the shard engine has out after a session's end was out before, at another
wallet. -/
theorem Held.leave_shard (held : floor.Held requestId wait) (sha256 : Digest)
    (released : ∀ ticket, handler = some (.shard ticket) →
      floor.world.shard.Releases requestId wallet ticket) :
    (next sha256 floor (.left wallet handler)).world.shard.Tended floor.Reachable requestId := by
  cases handler with
  | none => exact held.shard.disconnect wallet
  | some parked =>
      cases parked with
      | shard ticket => exact held.shard.leave (released ticket rfl)
      | speculative ticket => exact held.shard.disconnect wallet

theorem dropping_rollsBackAt_iff :
    (floor.dropping sha256 handler).RollsBackAt requestId wait wallet ↔
      floor.RollsBackAt requestId wait wallet := by
  cases handler with
  | none => exact Iff.rfl
  | some parked => cases parked <;> exact Iff.rfl

/-- Every guarded event keeps what is out within reach. -/
theorem Held.next (held : floor.Held requestId wait) (enabled : floor.enabled sha256 event)
    (guarded : TendGuard requestId (floor, wait) event) :
    (next sha256 floor event).Held requestId (attend sha256 requestId floor wait event) := by
  cases event with
  | registry event =>
      refine held.of_engaged
        (show (Floor.next sha256 floor (.registry event)).world = floor.world from rfl) ?_
      rintro wallet engaged ⟨tx, channel, opened⟩
      cases event with
      | register newcomer fresh =>
          by_cases same : wallet = newcomer
          · subst same
            exact ⟨fresh, MinerRegistry.get_register_self ..,
              fun closed => guarded.session closed engaged⟩
          · exact ⟨tx, (MinerRegistry.get_register_of_ne _ fresh same).trans channel, opened⟩
      | unregister gone => exact absurd rfl (enabled gone)
      | markDraftCapable other =>
          exact ⟨tx, (MinerRegistry.get_markDraftCapable ..).trans channel, opened⟩
      | markAuditorCapable other =>
          exact ⟨tx, (MinerRegistry.get_markAuditorCapable ..).trans channel, opened⟩
      | markExpertCapable other vramMb =>
          exact ⟨tx, (MinerRegistry.get_markExpertCapable ..).trans channel, opened⟩
      | ban other => exact ⟨tx, channel, opened⟩
  | failed broken =>
      refine held.of_engaged
        (show (Floor.next sha256 floor (.failed broken)).world = floor.world from rfl) ?_
      rintro wallet engaged ⟨tx, channel, opened⟩
      refine ⟨tx, channel, fun closed => ?_⟩
      rcases Finset.mem_insert.mp closed with rfl | before
      · exact guarded.session wallet channel engaged
      · exact opened before
  | left gone handler =>
      obtain ⟨stays, released⟩ := guarded.session
      have shard := held.leave_shard sha256 released
      have speculative : (Floor.next sha256 floor (.left gone handler)).world.speculative.Tended
          floor.Reachable requestId (attend sha256 requestId floor wait (.left gone handler)) :=
        SpeculativeEngine.Tended.next (held.dropping_speculative sha256 handler)
          (show SpeculativeEngine.enabled _ ⟨floor.registry, .disconnect gone⟩ from trivial)
          trivial (tendGuard_disconnect ..)
      have reachable : ∀ wallet,
          (Floor.next sha256 floor (.left gone handler)).Engaged requestId
            (attend sha256 requestId floor wait (.left gone handler)) wallet →
          floor.Reachable wallet →
            (Floor.next sha256 floor (.left gone handler)).Reachable wallet := by
        rintro wallet engaged ⟨tx, channel, opened⟩
        have ne : wallet ≠ gone := by
          rintro rfl
          exact not_engaged_of_left (mt dropping_rollsBackAt_iff.mp stays) engaged
        exact ⟨tx, (MinerRegistry.get_unregister_of_ne _ ne).trans channel, opened⟩
      exact ⟨(held.sound.dropping enabled).leave gone,
        shard.of_engaged fun wallet at_work => reachable wallet (.inl at_work),
        speculative.of_engaged fun wallet at_work => reachable wallet (.inr at_work)⟩
  | bridge event => exact held.bridge enabled guarded

theorem enabled_ofShard {event : Shard.Event}
    (routed : floor.world.Routed floor.registry (.shard event))
    (offered : floor.world.shard.enabled ⟨floor.registry, event⟩)
    (quiet : (ShardEngine.next sha256 floor.world.shard ⟨floor.registry, event⟩).log.all
      World.storesNothing = true) (stays : Event.endsSession (.shard event) = false) :
    floor.enabled sha256 (.bridge (.shard event)) :=
  ⟨World.enabled_ofShard routed offered quiet, stays⟩

theorem enabled_ofSpeculative {event : Speculative.Event}
    (routed : floor.world.Routed floor.registry (.speculative event))
    (offered : floor.world.speculative.enabled ⟨floor.registry, event⟩)
    (quiet : (SpeculativeEngine.next sha256 floor.world.speculative
      ⟨floor.registry, event⟩).log.all World.drawsNothing = true)
    (stays : Event.endsSession (.speculative event) = false) :
    floor.enabled sha256 (.bridge (.speculative event)) :=
  ⟨World.enabled_ofSpeculative routed offered quiet, stays⟩

/-- The intake of request `"r"` for nine tokens, and the tick up to the claim for it. -/
def intakeEvents : List FloorEvent :=
  (ShardEngine.soleStart .new 1 9).dropLast.map fun stimulus => .bridge (.shard stimulus.event)

/-- A miner connects, the shard engine starts the request, and the miner answers and leaves
while its handler waits. -/
def plainEvents : List FloorEvent :=
  .registry (.register "miner" 0) :: intakeEvents ++
    [.bridge (.shard (.pollClaim true false)),
      .bridge (.shard (.shardResult "miner" (ShardEngine.soleResult 0 0 none))),
      .left "miner" (some (.shard 0))]

end Floor

end StratumBridge.Bridge
