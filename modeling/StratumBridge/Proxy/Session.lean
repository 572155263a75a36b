import StratumBridge.Data.Outbox
import StratumBridge.Registry.Core
import StratumBridge.Rpc.Json

/-!
# One stratum session

A miner's connection and the connection to the pool that was opened for it: what the
reader of each does with a line, and the queues of the two writers.  A line that goes
to a handler keeps the miner's reader until the handler returns; the pool's reader
and the writers go on meanwhile, and the engines send lines of their own.

What `serde_json` makes of a text is a parameter.
-/

namespace StratumBridge.Proxy

open Data Rpc

/-- The lines that go to a handler. -/
inductive Kind
  | submitResult
  | shardResult
  | auditResult
  | expertResult
  | draftResult
  | kvRollbackAck
  deriving DecidableEq

namespace Kind

/-- The method that a kind of line is recognized by. -/
def method : Kind → String
  | submitResult => "opoi.submit_result"
  | shardResult => "opoi.shard_result"
  | auditResult => "opoi.audit_result"
  | expertResult => "opoi.expert_result"
  | draftResult => "opoi.draft_result"
  | kvRollbackAck => "opoi.kv_rollback_ack"

/-- The miner gets a reply. -/
def answered : Kind → Bool
  | draftResult => false
  | kvRollbackAck => false
  | _ => true

/-- What is acknowledged: for a submission its id as well. -/
def result (submissionId : Int) : Kind → Value
  | submitResult => .object [("accepted", .bool true), ("submission_id", .integer submissionId)]
  | _ => .object [("accepted", .bool true)]

end Kind

/-- `serde_json`: the value of a text, whether a value can be read as what a handler
takes, and the text of a value. -/
structure Serde where
  fromStr : String → Option Value
  fromValue : Kind → Value → Bool
  toText : Value → String

/-! ## Lines -/

/-- The method of a line, if it has one. -/
def method (value : Option Value) : Option String :=
  (value.bind (Value.get "method")).bind Value.asStr

/-- The id of a line, for its reply. -/
def idOf (value : Option Value) : Value :=
  (value.bind (Value.get "id")).getD .null

/-- The first item of a line's `params`. -/
def firstParam (value : Value) : Option Value :=
  (value.get "params").bind (Value.item 0)

/-- A line in reply to another. -/
def reply (id result error : Value) : Value :=
  .object [("jsonrpc", .string "2.0"), ("id", id), ("result", result), ("error", error)]

/-- `build_submit_result_ack`, and the same for the other kinds. -/
def buildAck (kind : Kind) (id : Value) (submissionId : Int) : Value :=
  reply id (kind.result submissionId) .null

/-- `build_submit_result_error`, and the same for the other kinds. -/
def buildError (id error : Value) : Value :=
  reply id .null error

/-- The error of a line that cannot be read. -/
def malformed (kind : Kind) : Value :=
  .array [.integer 20, .string ("malformed " ++ kind.method), .null]

/-- The wallet of an address, without the prefix `SOLO:` and the worker suffix. -/
def walletOf (address : String) : Wallet :=
  let solo := "SOLO:".toList
  let stripped :=
    if solo.isPrefixOf address.toList then address.toList.drop solo.length else address.toList
  String.ofList (stripped.takeWhile fun letter => letter != '.')

/-- The capabilities that a line announces. -/
def capabilities (value : Value) : List String :=
  ((((firstParam value).bind (Value.get "caps")).bind Value.asArray).map
    fun items => items.filterMap Value.asStr).getD []

/-- The memory that an expert host announces. -/
def expertVramMb (value : Value) : Option Nat :=
  ((firstParam value).bind (Value.get "expert_vram_mb")).bind Value.asU64

/-- The registry after an announcement. -/
def announce (wallet : Wallet) (value : Value) (registry : MinerRegistry) : MinerRegistry :=
  let caps := capabilities value
  let drafting := if "draft" ∈ caps then registry.markDraftCapable wallet else registry
  let auditing := if "auditor" ∈ caps then drafting.markAuditorCapable wallet else drafting
  if "expert" ∈ caps then
    match expertVramMb value with
    | some vramMb => auditing.markExpertCapable wallet vramMb
    | none => auditing
  else
    auditing

/-- The method is one of the bridge's own. -/
def isOpoi (name : String) : Bool :=
  "opoi.".toList.isPrefixOf name.toList

/-- `is_authorize_response`. -/
def isAuthorizeResponse (value : Value) : Bool :=
  decide ((value.get "id").bind Value.asI64 = some 2 ∧
    (value.get "result").bind Value.asBool = some true)

/-! ## State -/

/-- `AuthState`. -/
structure AuthState where
  pending : Option Wallet
  confirmed : Option Wallet

/-- A line for the miner: one from the pool, a reply, or one that an engine sent. -/
inductive Outgoing
  | relayed (line : String)
  | reply (value : Value)
  | pushed (line : String)

/-- What a writer is given for a line. -/
def Outgoing.text (serde : Serde) : Outgoing → String
  | relayed line => line
  | reply value => serde.toText value ++ "\n"
  | pushed line => line

/-- What a writer writes for a text. -/
def terminated (text : String) : String :=
  if text.toList.getLast? = some '\n' then text else text ++ "\n"

/-- A handler that the miner's reader waits for. -/
structure Handling where
  kind : Kind
  wallet : Wallet
  params : Value
  id : Value

/-- A session has ended for its readers, or for its writers too; or a handler panicked, and
the session's task died before its cleanup, without the writers it spawned. -/
inductive Phase
  | relaying
  | ending
  | over
  | died
  deriving DecidableEq

/-- A session.  `tx` is its channel in the registry. -/
structure Session where
  tx : Channel
  auth : AuthState
  handling : Option Handling
  down : Outbox Outgoing
  up : Outbox String
  registry : MinerRegistry
  phase : Phase

namespace Session

/-- `run_session`, with both connections open. -/
def start (tx : Channel) (registry : MinerRegistry) : Session where
  tx := tx
  auth := ⟨none, none⟩
  handling := none
  down := .empty
  up := .empty
  registry := registry
  phase := .relaying

/-- `down_tx.send`. -/
def sendDown (line : Outgoing) (session : Session) : Session :=
  { session with down := session.down.send line }

/-- `up_tx.send`. -/
def sendUp (line : String) (session : Session) : Session :=
  { session with up := session.up.send line }

/-! ## The miner's reader -/

/-- A line for a handler: without its parameter or a confirmed wallet it is refused,
or dropped if its kind has no reply. -/
def intercept (serde : Serde) (kind : Kind) (value : Option Value) (session : Session) : Session :=
  let id := idOf value
  let refuse (error : Value) : Session :=
    if kind.answered then session.sendDown (.reply (buildError id error)) else session
  match (value.bind firstParam).filter (serde.fromValue kind) with
  | none => refuse (malformed kind)
  | some params =>
      match session.auth.confirmed with
      -- the text of a database error is not asked for
      | none => refuse (toStratumError "" .unauthorized)
      | some wallet => { session with handling := some ⟨kind, wallet, params, id⟩ }

/-- An `opoi.capabilities` line. -/
def readCapabilities (value : Option Value) (session : Session) : Session :=
  match session.auth.confirmed, value with
  | some wallet, some value => { session with registry := announce wallet value session.registry }
  | _, _ => session

/-- A `mining.authorize` line, apart from its relay. -/
def readAuthorize (value : Option Value) (session : Session) : Session :=
  match (value.bind firstParam).bind Value.asStr with
  | some address =>
      { session with auth := { session.auth with pending := some (walletOf address) } }
  | none => session

/-- `down_reader_loop`, up to the await of a handler. -/
def readDown (serde : Serde) (line : String) (session : Session) : Session :=
  let value := serde.fromStr line
  match method value with
  | some "opoi.submit_result" => session.intercept serde .submitResult value
  | some "opoi.shard_result" => session.intercept serde .shardResult value
  | some "opoi.audit_result" => session.intercept serde .auditResult value
  | some "opoi.expert_result" => session.intercept serde .expertResult value
  | some "opoi.draft_result" => session.intercept serde .draftResult value
  | some "opoi.kv_rollback_ack" => session.intercept serde .kvRollbackAck value
  | some "opoi.capabilities" => session.readCapabilities value
  | some "mining.authorize" => (session.readAuthorize value).sendUp line
  | some "mining.submit" => session.sendUp line
  | _ => session.sendUp line

/-- `down_reader_loop` after the await of a handler. -/
def handlerReturned (dbText : String) (returned : Except AppError Int) (session : Session) :
    Session :=
  match session.handling with
  | none => session
  | some handling =>
      let resumed := { session with handling := none }
      if handling.kind.answered then
        match returned with
        | .ok submissionId =>
            resumed.sendDown (.reply (buildAck handling.kind handling.id submissionId))
        | .error error =>
            resumed.sendDown (.reply (buildError handling.id (toStratumError dbText error)))
      else
        resumed

/-! ## The pool's reader -/

/-- The line confirms the wallet that waits for the pool. -/
def confirm (value : Option Value) (session : Session) : Session :=
  match value with
  | none => session
  | some value =>
      if isAuthorizeResponse value then
        match session.auth.pending with
        | none => session
        | some wallet =>
            { session with
              auth := ⟨none, some wallet⟩
              registry := session.registry.register wallet session.tx }
      else
        session

/-- `up_reader_loop`. -/
def readUp (serde : Serde) (line : String) (session : Session) : Session :=
  let value := serde.fromStr line
  if (method value).any isOpoi then
    session
  else
    (session.confirm value).sendDown (.relayed line)

/-! ## The end -/

/-- One of the readers has ended; the other is dropped, and so is a handler that is
still awaited. -/
def finish (session : Session) : Session :=
  { session with
    phase := .ending
    registry :=
      match session.auth.confirmed with
      | none => session.registry
      | some wallet => session.registry.unregister wallet }

/-- A handler panics, and `run_session` unwinds: nothing below its readers is run. -/
def die (session : Session) : Session :=
  { session with
    phase := .died
    handling := none }

/-- The writers are aborted. -/
def abort (session : Session) : Session :=
  { session with
    phase := .over
    down := session.down.close
    up := session.up.close }

end Session

end StratumBridge.Proxy
