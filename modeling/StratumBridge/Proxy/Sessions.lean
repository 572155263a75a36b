import StratumBridge.Proxy.Confirmed

/-!
# All sessions of the proxy

Any number of sessions beside the registry they share, and beside the five handlers
that hold assignments.  A handler keeps its assignments by wallet, sends them over the
channel that the wallet has in the registry, and forgets those of a wallet in
`on_disconnect`; that a channel served an assignment is noted for the statements only.

The end of a session first unregisters the wallet it is confirmed as and then tells
one handler after another, while the other sessions go on.  A handler that panics ends
the task of the session that called it, and with it the cleanup.
-/

namespace StratumBridge.Proxy

open Data Rpc Transition

/-- The handlers that are told of the end of a session. -/
inductive Handler
  | opoi
  | shard
  | speculative
  | audit
  | expert
  deriving DecidableEq

/-- The handlers in the order in which they are told. -/
def Handler.inOrder : List Handler :=
  [.opoi, .shard, .speculative, .audit, .expert]

/-- An assignment that a handler gave to a wallet, sent over the channel of a session. -/
structure Assignment where
  handler : Handler
  wallet : Wallet
  tx : Channel

/-- The end of a session, with the handlers that are still to be told. -/
structure Cleanup where
  wallet : Wallet
  handlers : List Handler

/-- The accept loop with the sessions it spawned.  A session's own copy of the registry
is not used. -/
structure Listener where
  registry : MinerRegistry
  sessions : PartialMap Channel Session
  cleanups : PartialMap Channel Cleanup
  held : List Assignment

/-- What can happen: a miner connects, a session goes on or ends, the handler it waits for
panics, the next handler is told of an end, the writers of an ended session are aborted, a
handler gives an assignment to a wallet or is done with assignments, or a wallet is
banned. -/
inductive ListenerEvent
  | accepted (tx : Channel)
  | inside (tx : Channel) (event : Event)
  | ended (tx : Channel)
  | panicked (tx : Channel)
  | told (tx : Channel)
  | tornDown (tx : Channel)
  | assigned (handler : Handler) (wallet : Wallet)
  | settled (left : List Assignment)
  | banned (wallet : Wallet)

namespace Listener

/-- No miner is connected. -/
def start : Listener :=
  ⟨.new, .empty, .empty, []⟩

/-- A session relays and is confirmed as a wallet. -/
def LiveAs (listener : Listener) (tx : Channel) (wallet : Wallet) : Prop :=
  ∃ session, listener.sessions tx = some session ∧ session.phase = .relaying ∧
    session.auth.confirmed = some wallet

/-- The session, which sees the registry that all share. -/
def session? (listener : Listener) (tx : Channel) : Option Session :=
  (listener.sessions tx).map fun session => { session with registry := listener.registry }

/-- What a session has become. -/
def put (tx : Channel) (session : Session) (listener : Listener) : Listener :=
  { listener with registry := session.registry, sessions := listener.sessions.insert tx session }

/-- `run_session`, once the pool is connected. -/
def accept (tx : Channel) (listener : Listener) : Listener :=
  { listener with sessions := listener.sessions.insert tx (.start tx listener.registry) }

/-- The cleanup of `run_session`, up to the first handler. -/
def endSession (tx : Channel) (listener : Listener) : Listener :=
  match listener.session? tx with
  | none => listener
  | some session =>
      let ended := listener.put tx session.finish
      match session.auth.confirmed with
      | none => ended
      | some wallet =>
          { ended with cleanups := ended.cleanups.insert tx ⟨wallet, Handler.inOrder⟩ }

/-- `on_disconnect` of the next handler. -/
def tell (tx : Channel) (listener : Listener) : Listener :=
  match listener.cleanups tx with
  | some ⟨wallet, handler :: handlers⟩ =>
      { listener with
        cleanups := listener.cleanups.insert tx ⟨wallet, handlers⟩
        held := listener.held.filter fun assignment =>
          ¬ (assignment.handler = handler ∧ assignment.wallet = wallet) }
  | _ => listener

/-- An assignment is sent to the channel of a wallet. -/
def assign (handler : Handler) (wallet : Wallet) (listener : Listener) : Listener :=
  match listener.registry.get wallet with
  | none => listener
  | some tx => { listener with held := listener.held ++ [⟨handler, wallet, tx⟩] }

/-- One event. -/
def next (serde : Serde) (listener : Listener) : ListenerEvent → Listener
  | .accepted tx => listener.accept tx
  | .inside tx event =>
      match listener.session? tx with
      | none => listener
      | some session => listener.put tx (session.next serde event)
  | .ended tx => listener.endSession tx
  | .panicked tx =>
      match listener.session? tx with
      | none => listener
      | some session => listener.put tx session.die
  | .told tx => listener.tell tx
  | .tornDown tx =>
      match listener.session? tx with
      | none => listener
      | some session => listener.put tx session.abort
  | .assigned handler wallet => listener.assign handler wallet
  | .settled left => { listener with held := left }
  | .banned wallet => { listener with registry := listener.registry.ban wallet }

/-- A channel belongs to one session, and a session is torn down after its handlers
were told. -/
def enabled (listener : Listener) : ListenerEvent → Prop
  | .accepted tx => listener.sessions tx = none
  | .inside tx event =>
      event.isOwn = true ∧ ∃ session, listener.session? tx = some session ∧ session.enabled event
  | .ended tx => ∃ session, listener.session? tx = some session ∧ session.enabled .finished
  | .panicked tx =>
      ∃ session, listener.session? tx = some session ∧ session.phase = .relaying ∧
        session.handling.isSome
  | .told tx =>
      ∃ wallet handler handlers, listener.cleanups tx = some ⟨wallet, handler :: handlers⟩
  | .tornDown tx =>
      (∃ session, listener.session? tx = some session ∧ session.enabled .aborted) ∧
        ∀ cleanup, listener.cleanups tx = some cleanup → cleanup.handlers = []
  | .assigned _ wallet => listener.registry.Registered wallet
  | .settled left => left.Sublist listener.held
  | .banned _ => True

/-- The listener as a system of events. -/
def system (serde : Serde) : System Listener ListenerEvent where
  enabled := enabled
  next := next serde

end Listener

end StratumBridge.Proxy
