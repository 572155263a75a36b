import StratumBridge.Lifecycle.Commit
import StratumBridge.Rpc.Client

/-!
# Staking at startup

`ensure_stake` over the daemon's replies.  It looks for the stake of every address of
the pool and stakes the primary one where it finds none.  A look-up that fails is taken
for one that finds none, so a stake may be sent for an address that has one.
-/

namespace StratumBridge.Opoi

open Rpc
open Lifecycle (StakePool)

/-- The arguments of `ensure_stake`. -/
structure StakeConfig where
  collateralTxid : String
  collateralVout : UInt32
  endpoint : String
  modelId : String

/-- `anyhow::Error`, as far as `ensure_stake` ends with one. -/
inductive StartupError
  | app (error : AppError)
  | bail (text : String)

/-- The requests that were sent, and how the startup went on. -/
structure Startup where
  sent : List Request
  outcome : Except StartupError Unit

/-- `primary`. -/
def primary (pool : StakePool) : String :=
  pool.addresses.head pool.nonempty

/-- `renew_one`.  Its outcome is only logged. -/
def renewOne (client : CsdRpcClient) (address : String) (sent : List Request) : List Request :=
  (client.renewOpoiStake address sent).sent

/-- The loop of `ensure_stake` over the addresses behind the primary one. -/
def ensureOthers (client : CsdRpcClient) : List String → List Request → Startup
  | [], sent => ⟨sent, .ok ()⟩
  | addr :: rest, sent =>
      let looked := client.getOpoiStake addr sent
      match looked.outcome with
      | .error error => ⟨looked.sent, .error (.app error)⟩
      | .ok none => ensureOthers client rest looked.sent
      | .ok (some stake) =>
          if stake.status = "SUSPENDED" then
            ensureOthers client rest (renewOne client addr looked.sent)
          else
            ensureOthers client rest looked.sent

/-- `ensure_stake`. -/
def ensureStake (client : CsdRpcClient) (pool : StakePool) (config : StakeConfig) : Startup :=
  let looked := client.getOpoiStake (primary pool) []
  match looked.outcome with
  | .error error => ⟨looked.sent, .error (.app error)⟩
  | .ok none =>
      if config.collateralTxid = "" then
        ⟨looked.sent, .error (.bail ("no OPoI stake found for primary address " ++ primary pool ++
          " and no OPOI_COLLATERAL_TXID configured to create one"))⟩
      else
        let staked := client.stakeOpoi (primary pool) config.collateralTxid config.collateralVout
          config.endpoint config.modelId looked.sent
        match staked.outcome with
        | .error error => ⟨staked.sent, .error (.app error)⟩
        | .ok _ => ensureOthers client pool.addresses.tail staked.sent
  | .ok (some stake) =>
      if stake.status = "SUSPENDED" then
        ensureOthers client pool.addresses.tail (renewOne client (primary pool) looked.sent)
      else
        ensureOthers client pool.addresses.tail looked.sent

/-- The request stakes the address. -/
def Stakes (address : String) (request : Request) : Prop :=
  request.method = "stakeopoi" ∧ request.params.item 0 = some (.string address)

/-- The request makes the daemon send a transaction. -/
def Transacts (request : Request) : Prop :=
  request.method = "stakeopoi" ∨ request.method = "renewopoistake"

/-- What the daemon replies to the first look-up. -/
def primaryReply (client : CsdRpcClient) (pool : StakePool) : Reply :=
  client.daemon [] (CsdRpcClient.stakeQuery (primary pool))

/-- The daemon answered, and so that there is no stake. -/
def Absent (saysNoStake : Value → Prop) (reply : Reply) : Prop :=
  ∃ body, reply = .body body ∧ saysNoStake body

/-- The daemon answered with a stake. -/
def Present (client : CsdRpcClient) (reply : Reply) : Prop :=
  ∃ stake, CsdRpcClient.Delivers client.opoiStake stake reply

/-- The primary address is staked only on the answer that it has no stake, and without
that answer and without a stake the startup fails before any transaction. -/
def StakesOnce (saysNoStake : Value → Prop) (client : CsdRpcClient) (pool : StakePool)
    (config : StakeConfig) : Prop :=
  ((∃ request ∈ (ensureStake client pool config).sent, Stakes (primary pool) request) →
    Absent saysNoStake (primaryReply client pool)) ∧
  (¬ Absent saysNoStake (primaryReply client pool) → ¬ Present client (primaryReply client pool) →
    (∃ error, (ensureStake client pool config).outcome = .error error) ∧
      ∀ request ∈ (ensureStake client pool config).sent, ¬ Transacts request)

variable {client : CsdRpcClient} {pool : StakePool} {config : StakeConfig}
  {saysNoStake : Value → Prop}

/-! ## What is sent -/

/-- Later requests are added, none of which stakes an address. -/
structure Unstaked (sent after : List Request) : Prop where
  kept : sent ⊆ after
  added : ∀ request ∈ after, request.method = "stakeopoi" → request ∈ sent

theorem Unstaked.refl (sent : List Request) : Unstaked sent sent :=
  ⟨List.Subset.refl sent, fun _ mem _ => mem⟩

theorem Unstaked.trans {sent between after : List Request} (first : Unstaked sent between)
    (second : Unstaked between after) : Unstaked sent after where
  kept := List.Subset.trans first.kept second.kept
  added := fun request mem stakes => first.added request (second.added request mem stakes) stakes

theorem unstaked_append {sent : List Request} {request : Request}
    (other : request.method ≠ "stakeopoi") : Unstaked sent (sent ++ [request]) where
  kept := List.subset_append_left sent [request]
  added := by
    intro added mem stakes
    rcases List.mem_append.mp mem with before | same
    · exact before
    · cases List.mem_singleton.mp same
      exact absurd stakes other

/-- A look-up sends no transaction. -/
theorem stakeQuery_not_transacts (address : String) :
    ¬ Transacts (CsdRpcClient.stakeQuery address) := by
  have query : "getopoistake" ≠ "stakeopoi" ∧ "getopoistake" ≠ "renewopoistake" := by decide
  rintro (stakes | renews)
  · exact query.1 stakes
  · exact query.2 renews

theorem unstaked_query (sent : List Request) (address : String) :
    Unstaked sent (sent ++ [CsdRpcClient.stakeQuery address]) :=
  unstaked_append fun stakes => stakeQuery_not_transacts address (.inl stakes)

theorem unstaked_renewOne (client : CsdRpcClient) (address : String) (sent : List Request) :
    Unstaked sent (renewOne client address sent) := by
  have renews : "renewopoistake" ≠ "stakeopoi" := by decide
  exact unstaked_append renews

/-- The loop over the other addresses stakes none. -/
theorem unstaked_ensureOthers (client : CsdRpcClient) (addresses : List String)
    (sent : List Request) : Unstaked sent (ensureOthers client addresses sent).sent := by
  induction addresses generalizing sent with
  | nil => exact .refl sent
  | cons addr rest ih =>
      have looks := unstaked_query sent addr
      rcases client.getOpoiStake_cases addr sent with ⟨stake, same, -⟩ | ⟨same, -⟩
      · simp only [ensureOthers, same]
        split
        · exact (looks.trans (unstaked_renewOne client addr _)).trans (ih _)
        · exact looks.trans (ih _)
      · simp only [ensureOthers, same]
        exact looks.trans (ih _)

/-- A stake that is found is left alone, but for a renewal. -/
theorem ensureStake_present (present : Present client (primaryReply client pool)) :
    ∀ request ∈ (ensureStake client pool config).sent, request.method ≠ "stakeopoi" := by
  have quiet : Unstaked [] (ensureStake client pool config).sent := by
    have looks := unstaked_query [] (primary pool)
    rcases client.getOpoiStake_cases (primary pool) [] with ⟨stake, same, -⟩ | ⟨-, missed⟩
    · simp only [ensureStake, same]
      split
      · exact (looks.trans (unstaked_renewOne client (primary pool) _)).trans
          (unstaked_ensureOthers client _ _)
      · exact looks.trans (unstaked_ensureOthers client _ _)
    · rcases present with ⟨stake, delivered⟩
      exact absurd delivered (missed stake)
  exact fun request mem stakes => nomatch quiet.added request mem stakes

/-- Without a stake and without collateral the startup ends after the look-up. -/
theorem ensureStake_bail (missing : ¬ Present client (primaryReply client pool))
    (noCollateral : config.collateralTxid = "") :
    (∃ error, (ensureStake client pool config).outcome = .error error) ∧
      (ensureStake client pool config).sent = [CsdRpcClient.stakeQuery (primary pool)] := by
  rcases client.getOpoiStake_cases (primary pool) [] with ⟨stake, -, delivered⟩ | ⟨same, -⟩
  · exact absurd ⟨stake, delivered⟩ missing
  · simp only [ensureStake, same, if_pos noCollateral]
    exact ⟨⟨_, rfl⟩, rfl⟩

/-- Where no stake is found, the collateral is spent on one. -/
theorem ensureStake_stakes (missing : ¬ Present client (primaryReply client pool))
    (collateral : config.collateralTxid ≠ "") :
    ∃ request ∈ (ensureStake client pool config).sent, Stakes (primary pool) request := by
  rcases client.getOpoiStake_cases (primary pool) [] with ⟨stake, -, delivered⟩ | ⟨same, -⟩
  · exact absurd ⟨stake, delivered⟩ missing
  · simp only [ensureStake, same, if_neg collateral]
    split
    · exact ⟨_, List.mem_append_right _ (List.mem_singleton_self _), rfl, rfl⟩
    · have kept := (unstaked_ensureOthers client pool.addresses.tail
        (client.stakeOpoi (primary pool) config.collateralTxid config.collateralVout config.endpoint
          config.modelId ([] ++ [CsdRpcClient.stakeQuery (primary pool)])).sent).kept
      exact ⟨_, kept (List.mem_append_right _ (List.mem_singleton_self _)), rfl, rfl⟩

theorem stakesOnce_of_present (present : Present client (primaryReply client pool)) :
    StakesOnce saysNoStake client pool config := by
  refine ⟨?_, fun _ missing => absurd present missing⟩
  rintro ⟨request, mem, stakes, -⟩
  exact absurd stakes (ensureStake_present present request mem)

theorem stakesOnce_of_bail (missing : ¬ Present client (primaryReply client pool))
    (noCollateral : config.collateralTxid = "") : StakesOnce saysNoStake client pool config := by
  obtain ⟨failed, only⟩ := ensureStake_bail missing noCollateral
  have quiet : ∀ request ∈ (ensureStake client pool config).sent, ¬ Transacts request := by
    intro request mem
    rw [only] at mem
    cases List.mem_singleton.mp mem
    exact stakeQuery_not_transacts _
  constructor
  · rintro ⟨request, mem, stakes, -⟩
    exact absurd (.inl stakes) (quiet request mem)
  · exact fun _ _ => ⟨failed, quiet⟩

/-- Nothing is staked blindly exactly if there is no collateral to stake with, or the
look-up is answered. -/
theorem stakesOnce_iff (saysNoStake : Value → Prop) (client : CsdRpcClient) (pool : StakePool)
    (config : StakeConfig) :
    StakesOnce saysNoStake client pool config ↔
      config.collateralTxid = "" ∨ Present client (primaryReply client pool) ∨
        Absent saysNoStake (primaryReply client pool) := by
  constructor
  · intro once
    by_cases collateral : config.collateralTxid = ""
    · exact .inl collateral
    · by_cases present : Present client (primaryReply client pool)
      · exact .inr (.inl present)
      · exact .inr (.inr (once.1 (ensureStake_stakes present collateral)))
  · rintro (noCollateral | present | absent)
    · by_cases present : Present client (primaryReply client pool)
      · exact stakesOnce_of_present present
      · exact stakesOnce_of_bail present noCollateral
    · exact stakesOnce_of_present present
    · exact ⟨fun _ => absent, fun missing => absurd absent missing⟩

/-- A client that reads the fields of a stake from an object. -/
def soleClient (daemon : List Request → Request → Reply) : CsdRpcClient where
  daemon
  display := fun _ => "error"
  opoiStake := fun value =>
    match (value.get "miner_address").bind Value.asStr, (value.get "status").bind Value.asStr with
    | some minerAddress, some status =>
        .ok ⟨minerAddress, status, (value.get "last_renewal_height").bind Value.asU64, 0⟩
    | _, _ => .error "missing field"
  stakeOpoiResult := fun value =>
    match (value.get "txid").bind Value.asStr, (value.get "miner_address").bind Value.asStr with
    | some txid, some minerAddress => .ok ⟨txid, minerAddress, 0⟩
    | _, _ => .error "missing field"
  txidResult := fun value => ((value.get "txid").bind Value.asStr).elim (.error "missing field") .ok

/-- The reply with a result. -/
def resultReply (fields : List (String × Value)) : Reply :=
  .body (.object [("result", .object fields), ("error", .null)])

/-- A daemon that has an ACTIVE stake of `"address"`, and whose first answer comes too
late. -/
def lateDaemon (sent : List Request) (request : Request) : Reply :=
  if sent.isEmpty then
    .failed "operation timed out"
  else if request.method = "getopoistake" then
    resultReply [("miner_address", .string "address"), ("status", .string "ACTIVE")]
  else
    resultReply [("txid", .string "tx"), ("miner_address", .string "address")]

/-- One late answer, and the staked address is staked again. -/
theorem staked_again_after_timeout :
    let pool : StakePool := ⟨["address"], by decide⟩
    let startup := ensureStake (soleClient lateDaemon) pool ⟨"collateral", 0, "", ""⟩
    primaryReply (soleClient lateDaemon) pool = .failed "operation timed out" ∧
      ((soleClient lateDaemon).getOpoiStake "address" startup.sent).outcome =
        .ok (some ⟨"address", "ACTIVE", none, 0⟩) ∧
      startup.outcome = .ok () ∧ (∃ request ∈ startup.sent, Stakes "address" request) ∧
      ∀ saysNoStake, ¬ Absent saysNoStake (primaryReply (soleClient lateDaemon) pool) := by
  refine ⟨rfl, rfl, rfl, ⟨_, List.mem_cons_of_mem _ (List.mem_singleton_self _), rfl, rfl⟩, ?_⟩
  rintro saysNoStake ⟨body, ⟨⟩, -⟩

end StratumBridge.Opoi
