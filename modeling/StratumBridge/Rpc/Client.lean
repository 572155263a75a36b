import StratumBridge.Rpc.Json

/-!
# The client of the daemon

`CsdRpcClient`: a call posts one request and unwraps the reply.  The daemon and the
network are a function of the requests sent so far; what `serde_json` makes of a value
is given with the client.
-/

namespace StratumBridge.Rpc

namespace Value

def isNull : Value → Bool
  | null => true
  | _ => false

end Value

/-- `OpoiStake`. -/
structure OpoiStake where
  minerAddress : String
  status : String
  lastRenewalHeight : Option Nat
  canaryStrikes : UInt32
  deriving DecidableEq

/-- `StakeOpoiResult`. -/
structure StakeOpoiResult where
  txid : String
  minerAddress : String
  amount : Rat

/-- The method and the parameters of a posted envelope. -/
structure Request where
  method : String
  params : Value

/-- What comes back: nothing within the time limit, a body that is no JSON, or a value. -/
inductive Reply
  | failed (reason : String)
  | unreadable (reason : String)
  | body (body : Value)

/-- `CsdRpcClient`, with the daemon behind it and the readers of its results. -/
structure CsdRpcClient where
  daemon : List Request → Request → Reply
  display : Value → String
  opoiStake : Value → Except String OpoiStake
  stakeOpoiResult : Value → Except String StakeOpoiResult
  txidResult : Value → Except String String

/-- The requests sent so far, and what came of the last call. -/
structure Called (α : Type) where
  sent : List Request
  outcome : Except AppError α

namespace CsdRpcClient

variable {α : Type}

/-- The end of `call`: the `result` of a reply. -/
def unwrap (client : CsdRpcClient) (read : Value → Except String α) (method : String) :
    Reply → Except AppError α
  | .failed reason => .error (.rpc (method ++ ": request failed: " ++ reason))
  | .unreadable reason => .error (.rpc (method ++ ": failed to parse response body: " ++ reason))
  | .body body =>
      match (body.get "error").filter fun err => !err.isNull with
      | some err => .error (.rpc (method ++ ": " ++ client.display err))
      | none =>
          match read ((body.get "result").getD .null) with
          | .ok value => .ok value
          | .error reason =>
              .error (.rpc (method ++ ": failed to deserialize result: " ++ reason))

/-- `call`. -/
def call (client : CsdRpcClient) (read : Value → Except String α) (request : Request)
    (sent : List Request) : Called α :=
  ⟨sent ++ [request], client.unwrap read request.method (client.daemon sent request)⟩

def stakeQuery (minerAddress : String) : Request :=
  ⟨"getopoistake", .array [.string minerAddress]⟩

/-- `get_opoi_stake`. -/
def getOpoiStake (client : CsdRpcClient) (minerAddress : String) (sent : List Request) :
    Called (Option OpoiStake) :=
  let called := client.call client.opoiStake (stakeQuery minerAddress) sent
  match called.outcome with
  | .ok stake => ⟨called.sent, .ok (some stake)⟩
  | .error (.rpc _) => ⟨called.sent, .ok none⟩
  | .error error => ⟨called.sent, .error error⟩

/-- `stake_opoi`. -/
def stakeOpoi (client : CsdRpcClient) (minerAddress collateralTxid : String)
    (collateralVout : UInt32) (endpoint modelId : String) (sent : List Request) :
    Called StakeOpoiResult :=
  client.call client.stakeOpoiResult
    ⟨"stakeopoi", .array [.string minerAddress, .string collateralTxid,
      .integer collateralVout.toNat, .array [], .string endpoint, .string modelId, .integer 0]⟩
    sent

/-- `renew_opoi_stake`. -/
def renewOpoiStake (client : CsdRpcClient) (minerAddress : String) (sent : List Request) :
    Called String :=
  client.call client.txidResult ⟨"renewopoistake", .array [.string minerAddress]⟩ sent

/-- The reply carries no error, and a result that reads as this. -/
def Delivers (read : Value → Except String α) (value : α) (reply : Reply) : Prop :=
  ∃ body, reply = .body body ∧ (∀ err, body.get "error" = some err → err.isNull = true) ∧
    read ((body.get "result").getD .null) = .ok value

variable {client : CsdRpcClient} {read : Value → Except String α} {method : String}
  {reply : Reply} {value : α} {error : AppError}

theorem filter_eq_none_iff {field : Option Value} :
    (field.filter fun err => !err.isNull) = none ↔ ∀ err, field = some err → err.isNull = true := by
  cases field with
  | none => exact iff_of_true rfl nofun
  | some err => simp [Option.filter_some]

/-- A call returns a value only if the daemon delivered it. -/
theorem unwrap_eq_ok_iff : client.unwrap read method reply = .ok value ↔
    Delivers read value reply := by
  cases reply with
  | failed reason => exact iff_of_false nofun nofun
  | unreadable reason => exact iff_of_false nofun nofun
  | body body =>
      unfold unwrap
      constructor
      · intro unwrapped
        dsimp only at unwrapped
        split at unwrapped
        · cases unwrapped
        · rename_i clean
          split at unwrapped
          · rename_i delivered
            cases unwrapped
            exact ⟨body, rfl, filter_eq_none_iff.mp clean, delivered⟩
          · cases unwrapped
      · rintro ⟨_, ⟨⟩, clean, delivered⟩
        dsimp only
        rw [filter_eq_none_iff.mpr clean, delivered]

/-- Whatever goes wrong is an error of the call. -/
theorem rpc_of_unwrap_eq_error (failed : client.unwrap read method reply = .error error) :
    ∃ text, error = .rpc text := by
  unfold unwrap at failed
  split at failed
  · cases failed
    exact ⟨_, rfl⟩
  · cases failed
    exact ⟨_, rfl⟩
  · split at failed
    · cases failed
      exact ⟨_, rfl⟩
    · split at failed
      · cases failed
      · cases failed
        exact ⟨_, rfl⟩

/-- The look-up of a stake never fails: it finds one or none. -/
theorem getOpoiStake_cases (client : CsdRpcClient) (minerAddress : String)
    (sent : List Request) :
    (∃ stake, client.getOpoiStake minerAddress sent =
        ⟨sent ++ [stakeQuery minerAddress], .ok (some stake)⟩ ∧
      Delivers client.opoiStake stake (client.daemon sent (stakeQuery minerAddress))) ∨
    (client.getOpoiStake minerAddress sent = ⟨sent ++ [stakeQuery minerAddress], .ok none⟩ ∧
      ∀ stake, ¬ Delivers client.opoiStake stake
        (client.daemon sent (stakeQuery minerAddress))) := by
  cases outcome : client.unwrap client.opoiStake "getopoistake"
    (client.daemon sent (stakeQuery minerAddress)) with
  | ok stake =>
      refine .inl ⟨stake, ?_, unwrap_eq_ok_iff.mp outcome⟩
      have found : (client.call client.opoiStake (stakeQuery minerAddress) sent).outcome =
          .ok stake := outcome
      simp only [getOpoiStake, found]
      rfl
  | error error =>
      obtain ⟨text, rfl⟩ := rpc_of_unwrap_eq_error outcome
      have missed : (client.call client.opoiStake (stakeQuery minerAddress) sent).outcome =
          .error (.rpc text) := outcome
      refine .inr ⟨?_, fun stake delivered => ?_⟩
      · simp only [getOpoiStake, missed]
        rfl
      · rw [unwrap_eq_ok_iff.mpr delivered] at outcome
        cases outcome

end CsdRpcClient

end StratumBridge.Rpc
