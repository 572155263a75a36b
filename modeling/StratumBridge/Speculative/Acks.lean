import StratumBridge.Speculative.Sessions
import StratumBridge.Transition.Observe

/-!
# Acknowledgements of a rollback

A rollback is sent to particular wallets, but its acknowledgement is taken from
any wallet, and an acknowledgement ends the wait for its shard whatever it
says.  An observer beside the engine keeps the lines with which the wait of a
request began and the acknowledgements it has heard since.
-/

namespace StratumBridge.Speculative

open Data Rpc Wire Transition

/-- The rollback a phase waits for. -/
def Phase.rollback : Phase → Option RollbackState
  | awaitingRollback state => some state
  | _ => none

@[simp]
theorem Phase.rollback_eq_some_iff {phase : Phase} {state : RollbackState} :
    phase.rollback = some state ↔ phase = .awaitingRollback state := by
  cases phase <;> simp [Phase.rollback]

/-- The shard an on-chain submission is for. -/
def Effect.submission : Effect → Option Nat
  | submitShard _ shardIndex _ => some shardIndex
  | _ => none

/-- The shards submitted since the request was last started. -/
def submitted (history : List Effect) : List Nat :=
  (sinceLast Effect.isStarted history).filterMap Effect.submission

/-- What follows no start is submitted in addition. -/
theorem submitted_append {lines : List Effect} (history : List Effect)
    (unmarked : ∀ effect ∈ lines, effect.isStarted = false) :
    submitted (history ++ lines) =
      submitted history ++ lines.filterMap Effect.submission := by
  rw [submitted, sinceLast_append _ unmarked, List.filterMap_append]
  rfl

/-- An event's acknowledgement for a request. -/
def Event.ack (requestId : RequestId) : Event → Option OpoiKvRollbackAck
  | .kvRollbackAck ack _ => if ack.requestId = requestId then some ack else none
  | _ => none

/-- What is kept of a wait: the effects with which it began and the
acknowledgements heard since. -/
structure Wait where
  opening : List Effect
  heard : List OpoiKvRollbackAck

/-- A wait's rollback of a shard was sent to a wallet. -/
def Wait.Addressed (wait : Wait) (shardIndex : Nat) (wallet : Wallet) : Prop :=
  ∃ tx rollback, .kvRollback wallet tx rollback ∈ wait.opening ∧ rollback.shardIndex = shardIndex

namespace SpeculativeEngine

/-- The rollback a request's pipeline waits for. -/
def awaited (engine : SpeculativeEngine) (requestId : RequestId) : Option RollbackState :=
  (engine.pipelines requestId).bind fun pipeline => pipeline.phase.rollback

/-- The observer of a request's waits.  Outside a wait it keeps the effects of
the last step, which are the rollbacks when that step begins a wait. -/
def attend (sha256 : Digest) (requestId : RequestId) (engine : SpeculativeEngine) (wait : Wait)
    (stimulus : Stimulus) : Wait :=
  if (engine.awaited requestId).isSome then
    { wait with heard := wait.heard ++ (stimulus.event.ack requestId).toList }
  else
    ⟨sent sha256 engine stimulus requestId, []⟩

/-- The engine with the observer beside it. -/
def attended (sha256 : Digest) (requestId : RequestId) :
    System (SpeculativeEngine × Wait) Stimulus :=
  (system sha256).watched (attend sha256 requestId)

/-- The `opoi.kv_rollback_ack` arm of `down_reader_loop`: the payload, if it
parses, and the wallet the session has confirmed.  `handle_kv_rollback_ack`
does not look at the wallet. -/
def readKvRollbackAck (sha256 : Digest) (registry : MinerRegistry)
    (parsed : Option OpoiKvRollbackAck) (confirmed : Option Wallet) (stored : Bool)
    (engine : SpeculativeEngine) : SpeculativeEngine :=
  match parsed, confirmed with
  | some ack, some _wallet => handleKvRollbackAck sha256 registry ack stored engine
  | _, _ => engine

/-- An acknowledgement from a wallet changes the pipeline of its request or
starts an on-chain submission. -/
def Acts (sha256 : Digest) (registry : MinerRegistry) (wallet : Wallet)
    (ack : OpoiKvRollbackAck) (stored : Bool) (engine : SpeculativeEngine) : Prop :=
  let after := readKvRollbackAck sha256 registry (some ack) (some wallet) stored engine
  after.pipelines ack.requestId ≠ engine.pipelines ack.requestId ∨
    ∃ hash, .submitShard ack.requestId ack.shardIndex hash ∈
      (after.history ack.requestId).drop (engine.history ack.requestId).length

/-- An acknowledgement matters to a wait: its shard is pending, or it carries
the hash of a shard in a finalizing round. -/
def Heeds (state : RollbackState) (ack : OpoiKvRollbackAck) : Prop :=
  ack.shardIndex ∈ state.pending ∨
    ack.shardIndex ≠ draftSessionShardIndex ∧ state.isFinalizingRound = true ∧
      ack.finalizedHash ≠ none

variable {sha256 : Digest} {registry : MinerRegistry} {engine : SpeculativeEngine}
variable {requestId : RequestId} {ack : OpoiKvRollbackAck} {stored : Bool}
variable {pipeline : SpecPipeline} {state : RollbackState} {stimulus : Stimulus}

theorem awaited_eq_some_iff :
    engine.awaited requestId = some state ↔
      ∃ pipeline, engine.pipelines requestId = some pipeline ∧
        pipeline.phase = .awaitingRollback state := by
  simp [awaited, Option.bind_eq_some_iff]

/-! ## What an acknowledgement does -/

/-- A line starts and submits nothing. -/
theorem unmarked_of_isLine {effect : Effect} (line : effect.isLine = true) :
    effect.isStarted = false ∧ effect.submission = none := by
  cases effect with
  | shardAssign | draftGenerate | kvRollback | panicked => exact ⟨rfl, rfl⟩
  | _ => cases line

/-- An acknowledgement of a wait adds its submission, and ends the wait when
nothing is left to wait for. -/
theorem handleKvRollbackAck_actsOn (sha256 : Digest) (registry : MinerRegistry) (stored : Bool)
    (present : engine.pipelines ack.requestId = some pipeline)
    (awaiting : pipeline.phase = .awaitingRollback state) :
    ∃ after more,
      ActsOn ack.requestId engine (handleKvRollbackAck sha256 registry ack stored engine) after
        (ackSubmission ack.requestId state ack ++ more) ∧
      (∀ effect ∈ more, effect.isStarted = false ∧ effect.submission = none) ∧
      (state.pending.erase ack.shardIndex ≠ ∅ →
        after = some (acknowledge pipeline state ack.shardIndex) ∧ more = []) ∧
      (state.pending.erase ack.shardIndex = ∅ →
        ∀ later, after = some later → later.phase = .awaitingDraft) := by
  let noted : SpeculativeEngine :=
    { engine with
      pipelines := engine.pipelines.insert ack.requestId
        (acknowledge pipeline state ack.shardIndex)
      log := engine.log ++ ackSubmission ack.requestId state ack }
  have notes : ActsOn ack.requestId engine noted
      (some (acknowledge pipeline state ack.shardIndex))
      (ackSubmission ack.requestId state ack) :=
    ⟨rfl, rfl, about_ackSubmission _ _ _⟩
  simp only [handleKvRollbackAck, present, awaiting]
  by_cases complete : state.pending.erase ack.shardIndex = ∅
  · rw [if_pos complete]
    cases final : state.isFinalizingRound with
    | true =>
        rcases finalizePipeline_actsOn sha256 notes.pipelines_self stored with
          ⟨after, emitted, acts, ended⟩
        have gone : after = none ∧
            ∀ effect ∈ emitted, effect.isStarted = false ∧ effect.submission = none := by
          rcases ended with ⟨-, rfl, rfl⟩ | ⟨wallet, -, rfl, rfl⟩ <;>
            simp [Effect.isStarted, Effect.submission]
        rcases gone with ⟨rfl, unmarked⟩
        exact ⟨none, emitted, notes.trans acts, unmarked, fun left => absurd complete left,
          by simp⟩
    | false =>
        have rounds := notes.trans
          (setPipeline_actsOn noted ack.requestId (nextRound pipeline state))
        rw [List.append_nil] at rounds
        have drafts := dispatchDraft_actsOn registry rounds.pipelines_self rfl
        refine ⟨_, _, rounds.trans drafts,
          fun _ mem => unmarked_of_isLine (isLine_of_mem_draftLines mem),
          fun left => absurd complete left, ?_⟩
        rintro - later same
        cases same
        rfl
  · rw [if_neg complete]
    refine ⟨_, [], ?_, by simp, fun _ => ⟨rfl, rfl⟩, fun empty => absurd empty complete⟩
    rw [List.append_nil]
    exact notes

/-- An acknowledgement starts nothing. -/
theorem isStarted_ackSubmission :
    ∀ effect ∈ ackSubmission requestId state ack, effect.isStarted = false := by
  unfold ackSubmission
  split
  · split <;> simp [Effect.isStarted]
  · simp

/-- What is submitted after an acknowledgement. -/
theorem submitted_handleKvRollbackAck (sha256 : Digest) (registry : MinerRegistry)
    (stored : Bool) (present : engine.pipelines ack.requestId = some pipeline)
    (awaiting : pipeline.phase = .awaitingRollback state) :
    submitted ((handleKvRollbackAck sha256 registry ack stored engine).history ack.requestId) =
      submitted (engine.history ack.requestId) ++
        (ackSubmission ack.requestId state ack).filterMap Effect.submission := by
  rcases handleKvRollbackAck_actsOn sha256 registry stored present awaiting with
    ⟨after, more, handled, unmarked, -⟩
  have nothing : more.filterMap Effect.submission = [] :=
    List.filterMap_eq_nil_iff.mpr fun effect mem => (unmarked effect mem).2
  rw [handled.history_self, ← List.append_assoc,
    submitted_append _ fun effect mem => (unmarked effect mem).1, nothing, List.append_nil,
    submitted_append _ isStarted_ackSubmission]

/-- A wait is over as soon as nothing is pending. -/
def Pends (engine : SpeculativeEngine) (requestId : RequestId) : Prop :=
  ∀ state, engine.awaited requestId = some state → state.pending.Nonempty

theorem Pends.next (pends : engine.Pends requestId) (enabled : engine.enabled stimulus) :
    (next sha256 engine stimulus).Pends requestId := by
  intro state awaits
  obtain ⟨later, found, phase⟩ := awaited_eq_some_iff.mp awaits
  have change := next_change_sent sha256 enabled requestId
  generalize beforeEq : engine.pipelines requestId = before at change
  rw [found] at change
  generalize afterEq : some later = after at change
  generalize sent sha256 engine stimulus requestId = emitted at change
  have kept : ∀ {earlier : SpecPipeline}, before = some earlier →
      earlier.phase = .awaitingRollback state → state.pending.Nonempty := by
    intro earlier was same
    exact pends state (awaited_eq_some_iff.mpr ⟨earlier, beforeEq.trans was, same⟩)
  cases change with
  | idle | rejected => exact kept afterEq.symm phase
  | stale | parked | panicked => cases afterEq; exact kept rfl phase
  | started => cases afterEq; cases phase
  | @relayed registry wallet result pipeline pos currentInput isPrompt about assigned relaying =>
      cases afterEq
      cases given : pipeline.phase <;>
        simp [relayOutput, contribute, given, Phase.advance, Phase.relay] at phase relaying
  | verified =>
      cases afterEq
      cases phase
      exact ⟨draftSessionShardIndex, Finset.mem_insert_self ..⟩
  | counted | drafted | roundCompleted => cases afterEq; cases phase
  | acked about awaiting left => cases afterEq; cases phase; exact left
  | redispatched => cases afterEq; exact kept rfl phase
  | redrafted awaiting => cases afterEq; exact kept rfl phase
  | _ => cases afterEq

theorem handleKvRollbackAck_eq_self (idle : engine.awaited ack.requestId = none) :
    handleKvRollbackAck sha256 registry ack stored engine = engine := by
  unfold handleKvRollbackAck
  cases present : engine.pipelines ack.requestId with
  | none => rfl
  | some pipeline =>
      cases phase : pipeline.phase with
      | awaitingRollback state => simp [awaited, present, phase, Phase.rollback] at idle
      | _ => simp only [phase]

/-- An acknowledgement that a wait does not heed leaves pipeline and chain
alone. -/
theorem unheeded (heedless : ¬ Heeds state ack) :
    state.pending.erase ack.shardIndex = state.pending ∧
      ackSubmission ack.requestId state ack = [] := by
  rw [Heeds, not_or] at heedless
  rcases heedless with ⟨notPending, notSubmitted⟩
  constructor
  · exact Finset.erase_eq_of_notMem notPending
  · unfold ackSubmission
    cases hash : ack.finalizedHash with
    | none => rfl
    | some hash =>
        apply if_neg
        rintro ⟨ofShard, final⟩
        exact notSubmitted ⟨ofShard, final, by simp [hash]⟩

/-- While something is pending, an acknowledgement acts exactly when a wait
heeds it. -/
theorem acts_iff (pends : engine.Pends ack.requestId) (registry : MinerRegistry)
    (wallet : Wallet) (stored : Bool) :
    engine.Acts sha256 registry wallet ack stored ↔
      ∃ state, engine.awaited ack.requestId = some state ∧ Heeds state ack := by
  simp only [Acts, readKvRollbackAck]
  constructor
  · intro acts
    cases awaits : engine.awaited ack.requestId with
    | none =>
        rw [handleKvRollbackAck_eq_self awaits, List.drop_length] at acts
        simp at acts
    | some state =>
        refine ⟨state, rfl, ?_⟩
        obtain ⟨pipeline, present, phase⟩ := awaited_eq_some_iff.mp awaits
        rcases handleKvRollbackAck_actsOn sha256 registry stored present phase with
          ⟨after, more, handled, -, goesOn, -⟩
        by_contra heedless
        obtain ⟨same, silent⟩ := unheeded heedless
        have left := goesOn (by rw [same]; exact (pends state awaits).ne_empty)
        rw [handled.pipelines_self, handled.history_self, List.drop_left, present, silent,
          left.1, left.2, acknowledge, same, ← phase] at acts
        simp at acts
  · rintro ⟨state, awaits, heeds⟩
    obtain ⟨pipeline, present, phase⟩ := awaited_eq_some_iff.mp awaits
    rcases handleKvRollbackAck_actsOn sha256 registry stored present phase with
      ⟨after, more, handled, -, goesOn, ends⟩
    rw [handled.pipelines_self, handled.history_self, List.drop_left, present]
    rcases heeds with pending | ⟨ofShard, final, hashed⟩
    · left
      intro unchanged
      by_cases complete : state.pending.erase ack.shardIndex = ∅
      · have left := ends complete pipeline unchanged
        rw [phase] at left
        cases left
      · rw [(goesOn complete).1] at unchanged
        have samePhase := congrArg SpecPipeline.phase (Option.some.inj unchanged)
        simp only [acknowledge, phase, Phase.awaitingRollback.injEq] at samePhase
        have samePending := congrArg RollbackState.pending samePhase
        exact Finset.erase_eq_self.mp samePending pending
    · right
      obtain ⟨hash, given⟩ := Option.ne_none_iff_exists'.mp hashed
      refine ⟨hash, List.mem_append_left _ ?_⟩
      simp [ackSubmission, given, ofShard, final]

/-! ## Whom an acknowledgement is heard from -/

/-- In every reachable state, an acknowledgement acts only for the wallet its
rollback was sent to if and only if it comes from that wallet or no wait heeds
it. -/
theorem acts_only_for_addressee_iff {draftSources : PartialMap String DraftModelSource}
    {events : List Stimulus} {wait : Wait}
    (run : (attended sha256 ack.requestId).Run (new draftSources, ⟨[], []⟩) events
      (engine, wait))
    (registry : MinerRegistry) (wallet : Wallet) (stored : Bool) :
    (engine.Acts sha256 registry wallet ack stored → wait.Addressed ack.shardIndex wallet) ↔
      wait.Addressed ack.shardIndex wallet ∨
        ∀ state, engine.awaited ack.requestId = some state → ¬ Heeds state ack := by
  have pends : engine.Pends ack.requestId := by
    apply run.invariant (I := fun both => both.1.Pends ack.requestId)
    · intro state awaits
      cases awaits
    · rintro ⟨state, seen⟩ stimulus pends enabled -
      exact pends.next enabled
  rw [acts_iff pends]
  constructor
  · intro onlyAddressee
    by_cases addressed : wait.Addressed ack.shardIndex wallet
    · exact .inl addressed
    · right
      intro state awaits heeds
      exact addressed (onlyAddressee ⟨state, awaits, heeds⟩)
  · rintro (addressed | heedless) ⟨state, awaits, heeds⟩
    · exact addressed
    · exact absurd heeds (heedless state awaits)

/-- A request over one shard whose first round is its last, up to the rollback. -/
def finalizingEvents : List Stimulus :=
  [soleStart 1 1, soleAnswer 0 (some 2) none, soleTokenized 0 2, soleDraft [2],
    soleAnswer 0 none (some [3])]

/-- The engine and the wait after these events. -/
def finalizingWait : SpeculativeEngine × Wait :=
  (attended id "r").execute (soleEngine, ⟨[], []⟩) finalizingEvents

theorem finalizingWait_run :
    (attended id "r").Run (soleEngine, ⟨[], []⟩) finalizingEvents finalizingWait := by
  apply System.Admits.runWith
  exact ⟨⟨trivial, trivial⟩, ⟨trivial, trivial⟩, ⟨nofun, trivial⟩, ⟨trivial, trivial⟩,
    ⟨trivial, trivial⟩, trivial⟩

/-- The rollbacks went to the only miner. -/
theorem finalizingWait_addressed {shardIndex : Nat} {wallet : Wallet}
    (addressed : finalizingWait.2.Addressed shardIndex wallet) : wallet = "miner" := by
  rcases addressed with ⟨tx, rollback, mem, -⟩
  have opening : finalizingWait.2.opening =
      [.accepted "miner" (soleResult 0 none (some [3])),
        .kvRollback "miner" 0 ⟨"r", 0, 3, true⟩,
        .kvRollback "miner" 0 ⟨"r", draftSessionShardIndex, 3, false⟩] := by
    decide
  rw [opening] at mem
  simp at mem
  rcases mem with ⟨same, -⟩ | ⟨same, -⟩
  · exact same
  · exact same

/-- The sole miner and another one that is connected as well. -/
def twoRegistry : MinerRegistry :=
  soleRegistry.register "other" 1

/-- An acknowledgement of the sole shard, with a hash. -/
def hashedAck : OpoiKvRollbackAck :=
  ⟨"r", 0, true, some "hash"⟩

/-- A wallet that was sent no rollback submits a hash for another wallet's
shard. -/
theorem acts_for_another_wallet :
    (attended id hashedAck.requestId).Run (soleEngine, ⟨[], []⟩) finalizingEvents finalizingWait ∧
      (twoRegistry.get "other").isSome = true ∧
      finalizingWait.1.Acts id twoRegistry "other" hashedAck true ∧
      ¬ finalizingWait.2.Addressed hashedAck.shardIndex "other" := by
  refine ⟨finalizingWait_run, by decide, ?_, ?_⟩
  · exact .inr ⟨"hash", by decide⟩
  · intro addressed
    exact absurd (finalizingWait_addressed addressed) (by decide)

/-- An instance of `acts_only_for_addressee_iff`: the acknowledgement of the
wallet that was sent the rollback. -/
theorem acts_only_for_addressee_sole :
    finalizingWait.1.Acts id twoRegistry "miner" hashedAck true ∧
      finalizingWait.2.Addressed hashedAck.shardIndex "miner" := by
  have acts : finalizingWait.1.Acts id twoRegistry "miner" hashedAck true :=
    .inr ⟨"hash", by decide⟩
  have addressed : finalizingWait.2.Addressed hashedAck.shardIndex "miner" :=
    ⟨0, ⟨"r", 0, 3, true⟩, by decide, rfl⟩
  have run : (attended id hashedAck.requestId).Run (soleEngine, ⟨[], []⟩) finalizingEvents
      finalizingWait := finalizingWait_run
  exact ⟨acts, (acts_only_for_addressee_iff run twoRegistry "miner" true).mpr (.inl addressed) acts⟩

/-! ## Which shards a finished request stands on -/

/-- An acknowledgement confirms a shard: the rollback succeeded, with a hash. -/
def Confirms (ack : OpoiKvRollbackAck) (shardIndex : Nat) : Prop :=
  ack.shardIndex = shardIndex ∧ ack.ok = true ∧ ack.finalizedHash ≠ none

/-- A finished request stands on every shard of its pipeline: each confirmed
the round, and each was submitted once and nothing else was. -/
structure Stands (shards : List ShardDescriptor) (heard : List OpoiKvRollbackAck)
    (submissions : List Nat) : Prop where
  confirmed : ∀ shard ∈ shards, ∃ ack ∈ heard, Confirms ack shard.shardIndex
  once : ∀ shard ∈ shards, submissions.count shard.shardIndex = 1
  real : ∀ shardIndex ∈ submissions, ∃ shard ∈ shards, shard.shardIndex = shardIndex

/-- The step reaches `finalize_pipeline` for a pipeline of the request. -/
def Finalizes (engine : SpeculativeEngine) (requestId : RequestId) (pipeline : SpecPipeline)
    (stimulus : Stimulus) : Prop :=
  ∃ ack stored state, stimulus.event = .kvRollbackAck ack stored ∧ ack.requestId = requestId ∧
    engine.pipelines requestId = some pipeline ∧ pipeline.phase = .awaitingRollback state ∧
    state.isFinalizingRound = true ∧ state.pending.erase ack.shardIndex = ∅

/-- The condition on an acknowledgement of a finalizing round: no shard uses
the index of the draft's session; a pending shard is acknowledged with success
and a hash; and a hash comes for a pending shard that was not submitted. -/
def AckGuard (requestId : RequestId) (engine : SpeculativeEngine) (stimulus : Stimulus) : Prop :=
  ∀ ack pipeline state, stimulus.event.ack requestId = some ack →
    engine.pipelines requestId = some pipeline → pipeline.phase = .awaitingRollback state →
    state.isFinalizingRound = true →
    (∀ shard ∈ pipeline.shards, shard.shardIndex ≠ draftSessionShardIndex) ∧
      (ack.shardIndex ≠ draftSessionShardIndex →
        (ack.shardIndex ∈ state.pending → ack.ok = true ∧ ack.finalizedHash ≠ none) ∧
        (ack.finalizedHash ≠ none → ack.shardIndex ∈ state.pending ∧
          ack.shardIndex ∉ submitted (engine.history requestId)))

/-- Only acknowledgements are restricted. -/
theorem ackGuard_of_noAck {requestId : RequestId} {stimulus : Stimulus}
    (noAck : stimulus.event.ack requestId = none) (engine : SpeculativeEngine) :
    AckGuard requestId engine stimulus := by
  intro ack pipeline state named
  rw [noAck] at named
  cases named

/-- The books of a finalizing round: what is not pending was confirmed and
submitted. -/
structure Books (shards : List ShardDescriptor) (pending : Finset Nat) (submissions : List Nat)
    (heard : List OpoiKvRollbackAck) : Prop where
  once : submissions.Nodup
  real : ∀ shardIndex ∈ submissions, ∃ shard ∈ shards, shard.shardIndex = shardIndex
  pendingReal : ∀ shardIndex ∈ pending, shardIndex ≠ draftSessionShardIndex →
    ∃ shard ∈ shards, shard.shardIndex = shardIndex
  settled : ∀ shard ∈ shards, shard.shardIndex ∉ pending →
    shard.shardIndex ∈ submissions ∧ ∃ ack ∈ heard, Confirms ack shard.shardIndex

variable {shards : List ShardDescriptor} {pending : Finset Nat} {submissions : List Nat}
variable {heard : List OpoiKvRollbackAck}

/-- When nothing is pending, the books say that the request stands on every
shard. -/
theorem Books.stands (books : Books shards ∅ submissions heard) :
    Stands shards heard submissions where
  confirmed := fun shard mem => (books.settled shard mem (by simp)).2
  once := fun shard mem =>
    List.count_eq_one_of_mem books.once (books.settled shard mem (by simp)).1
  real := books.real

/-- Hearing more acknowledgements keeps the books. -/
theorem Books.hear (books : Books shards pending submissions heard)
    (more : List OpoiKvRollbackAck) : Books shards pending submissions (heard ++ more) where
  once := books.once
  real := books.real
  pendingReal := books.pendingReal
  settled := by
    intro shard mem settled
    obtain ⟨submitted, ack, inHeard, confirms⟩ := books.settled shard mem settled
    exact ⟨submitted, ack, List.mem_append_left _ inHeard, confirms⟩

/-- The submissions an acknowledgement of a finalizing round starts. -/
theorem submission_ackSubmission (final : state.isFinalizingRound = true) :
    (ackSubmission requestId state ack).filterMap Effect.submission =
      if ack.finalizedHash ≠ none ∧ ack.shardIndex ≠ draftSessionShardIndex then
        [ack.shardIndex]
      else
        [] := by
  unfold ackSubmission
  cases hash : ack.finalizedHash with
  | none => simp
  | some hash =>
      by_cases ofShard : ack.shardIndex ≠ draftSessionShardIndex
      · simp [ofShard, final, Effect.submission]
      · simp [ofShard]

/-- A guarded acknowledgement keeps the books. -/
theorem Books.acknowledge
    (books : Books shards state.pending submissions heard)
    (final : state.isFinalizingRound = true)
    (noDraft : ∀ shard ∈ shards, shard.shardIndex ≠ draftSessionShardIndex)
    (sound : ack.shardIndex ≠ draftSessionShardIndex →
      (ack.shardIndex ∈ state.pending → ack.ok = true ∧ ack.finalizedHash ≠ none) ∧
      (ack.finalizedHash ≠ none → ack.shardIndex ∈ state.pending ∧
        ack.shardIndex ∉ submissions)) :
    Books shards (state.pending.erase ack.shardIndex)
      (submissions ++ (ackSubmission requestId state ack).filterMap Effect.submission)
      (heard ++ [ack]) := by
  have books := books.hear [ack]
  rw [submission_ackSubmission final]
  by_cases submits : ack.finalizedHash ≠ none ∧ ack.shardIndex ≠ draftSessionShardIndex
  · rw [if_pos submits]
    rcases submits with ⟨hashed, ofShard⟩
    obtain ⟨isPending, fresh⟩ := (sound ofShard).2 hashed
    have ok := ((sound ofShard).1 isPending).1
    constructor
    · exact books.once.append (List.nodup_singleton _)
        (List.disjoint_singleton.mpr fresh)
    · intro shardIndex mem
      rcases List.mem_append.mp mem with earlier | now
      · exact books.real shardIndex earlier
      · cases List.mem_singleton.mp now
        exact books.pendingReal _ isPending ofShard
    · intro shardIndex mem
      exact books.pendingReal shardIndex (Finset.mem_of_mem_erase mem)
    · intro shard mem settled
      by_cases same : shard.shardIndex = ack.shardIndex
      · rw [same]
        exact ⟨by simp, ack, by simp, rfl, ok, hashed⟩
      · have earlier : shard.shardIndex ∉ state.pending := fun isPending =>
          settled (Finset.mem_erase.mpr ⟨same, isPending⟩)
        obtain ⟨submitted, confirmed⟩ := books.settled shard mem earlier
        exact ⟨List.mem_append_left _ submitted, confirmed⟩
  · rw [if_neg submits, List.append_nil]
    have unsettled : ∀ shard ∈ shards, shard.shardIndex ∉ state.pending.erase ack.shardIndex →
        shard.shardIndex ∉ state.pending := by
      intro shard mem settled isPending
      have same : shard.shardIndex = ack.shardIndex := by
        by_contra ne
        exact settled (Finset.mem_erase.mpr ⟨ne, isPending⟩)
      have ofShard : ack.shardIndex ≠ draftSessionShardIndex := same ▸ noDraft shard mem
      exact submits ⟨((sound ofShard).1 (same ▸ isPending)).2, ofShard⟩
    exact ⟨books.once, books.real,
      fun shardIndex mem => books.pendingReal shardIndex (Finset.mem_of_mem_erase mem),
      fun shard mem settled => books.settled shard mem (unsettled shard mem settled)⟩

/-- What an event means for the books of a request. -/
inductive Settling (requestId : RequestId) :
    Stimulus → Option SpecPipeline → Option SpecPipeline → List Effect → Prop
  | started {stimulus before pipeline lines} (waits : pipeline.phase.rollback = none)
      (allLines : ∀ effect ∈ lines, Effect.isLine effect = true) :
      Settling requestId stimulus before (some pipeline) (.started requestId :: lines)
  | quiet {stimulus before after emitted}
      (unmarked : ∀ effect ∈ emitted, effect.isStarted = false ∧ effect.submission = none)
      (same : ∀ later, after = some later → ∃ earlier, before = some earlier ∧
        later.shards = earlier.shards ∧ ∀ state, later.phase = .awaitingRollback state →
          earlier.phase = .awaitingRollback state ∨ earlier.phase.rollback = none ∧
            state.pending = insert draftSessionShardIndex
              (later.shards.map ShardDescriptor.shardIndex).toFinset) :
      Settling requestId stimulus before after emitted
  | acknowledged {registry ack stored pipeline state after emitted}
      (about : ack.requestId = requestId) (awaiting : pipeline.phase = .awaitingRollback state)
      (goesOn : ∀ later, after = some later → later.shards = pipeline.shards ∧
        ∀ left, later.phase = .awaitingRollback left →
          left = { state with pending := state.pending.erase ack.shardIndex }) :
      Settling requestId ⟨registry, .kvRollbackAck ack stored⟩ (some pipeline) after emitted

/-- The pipeline keeps its shards and whatever it waits for. -/
theorem Settling.of_samePhase {earlier later : SpecPipeline} {emitted : List Effect}
    (unmarked : ∀ effect ∈ emitted, effect.isStarted = false ∧ effect.submission = none)
    (shards : later.shards = earlier.shards) (phase : later.phase = earlier.phase) :
    Settling requestId stimulus (some earlier) (some later) emitted := by
  apply Settling.quiet unmarked
  rintro _ ⟨⟩
  refine ⟨earlier, rfl, shards, ?_⟩
  intro state waits
  exact .inl (phase ▸ waits)

/-- The pipeline keeps its shards and waits for no rollback. -/
theorem Settling.of_noRollback {earlier later : SpecPipeline} {emitted : List Effect}
    (unmarked : ∀ effect ∈ emitted, effect.isStarted = false ∧ effect.submission = none)
    (shards : later.shards = earlier.shards) (phase : later.phase.rollback = none) :
    Settling requestId stimulus (some earlier) (some later) emitted := by
  apply Settling.quiet unmarked
  rintro _ ⟨⟩
  refine ⟨earlier, rfl, shards, ?_⟩
  intro state waits
  rw [waits] at phase
  cases phase

theorem Change.settling {before after : Option SpecPipeline} {emitted : List Effect}
    (change : Change sha256 engine requestId stimulus before after emitted) :
    Settling requestId stimulus before after emitted := by
  have gone : ∀ {before : Option SpecPipeline} {emitted : List Effect},
      (∀ effect ∈ emitted, effect.isStarted = false ∧ effect.submission = none) →
      Settling requestId stimulus before none emitted := by
    intro before emitted unmarked
    apply Settling.quiet unmarked
    rintro _ ⟨⟩
  cases change with
  | idle =>
      cases before with
      | none => exact gone (by simp)
      | some pipeline => exact .of_samePhase (by simp) rfl rfl
  | started configured => exact .started rfl fun _ mem => isLine_of_mem_stepLines mem
  | rejected =>
      cases before with
      | none => exact gone (by simp [Effect.isStarted, Effect.submission])
      | some pipeline =>
          exact .of_samePhase (by simp [Effect.isStarted, Effect.submission]) rfl rfl
  | orphaned => exact gone (by simp [Effect.isStarted, Effect.submission])
  | stale | parked | panicked =>
      exact .of_samePhase (by simp [Effect.isStarted, Effect.submission]) rfl rfl
  | @relayed _ wallet result pipeline _ _ _ about assigned relaying notLast =>
      refine .of_noRollback ?_ rfl ?_
      · intro effect mem
        rcases List.mem_cons.mp mem with rfl | line
        · exact ⟨rfl, rfl⟩
        · exact unmarked_of_isLine (isLine_of_mem_stepLines line)
      · cases given : pipeline.phase <;>
          simp [relayOutput, contribute, given, Phase.advance, Phase.relay, Phase.rollback]
            at relaying ⊢
  | promptUnanswered | verifyUnanswered =>
      exact gone (by simp [Effect.isStarted, Effect.submission])
  | @verified _ wallet result pipeline pos input draft logits outcome about assigned verifying =>
      apply Settling.quiet
      · intro effect mem
        rcases List.mem_cons.mp mem with rfl | line
        · exact ⟨rfl, rfl⟩
        · exact unmarked_of_isLine (isLine_of_mem_rollbackLines line)
      · rintro _ ⟨⟩
        refine ⟨pipeline, rfl, rfl, ?_⟩
        rintro _ ⟨⟩
        exact .inr ⟨by rw [verifying]; rfl, rfl⟩
  | uncounted => exact gone (by simp [Effect.isStarted, Effect.submission])
  | counted =>
      exact .of_noRollback (fun _ mem => unmarked_of_isLine (isLine_of_mem_draftLines mem)) rfl rfl
  | drafted =>
      exact .of_noRollback (fun _ mem => unmarked_of_isLine (isLine_of_mem_stepLines mem)) rfl rfl
  | acked about awaiting left =>
      apply Settling.acknowledged about awaiting
      rintro _ ⟨⟩
      refine ⟨rfl, ?_⟩
      rintro _ ⟨⟩
      rfl
  | roundCompleted about awaiting =>
      apply Settling.acknowledged about awaiting
      rintro _ ⟨⟩
      refine ⟨rfl, ?_⟩
      rintro _ ⟨⟩
  | finalized about awaiting | unattributed about awaiting =>
      apply Settling.acknowledged about awaiting
      rintro _ ⟨⟩
  | redispatched =>
      exact .of_samePhase (fun _ mem => unmarked_of_isLine (isLine_of_mem_stepLines mem)) rfl rfl
  | redrafted =>
      exact .of_samePhase (fun _ mem => unmarked_of_isLine (isLine_of_mem_draftLines mem)) rfl rfl
  | disconnected => exact gone (by simp)

/-- The submissions of a request stay in order, and a finalizing round keeps
its books. -/
structure BooksKept (requestId : RequestId) (engine : SpeculativeEngine) (wait : Wait) :
    Prop where
  once : (submitted (engine.history requestId)).Nodup
  real : ∀ pipeline, engine.pipelines requestId = some pipeline →
    ∀ shardIndex ∈ submitted (engine.history requestId),
      ∃ shard ∈ pipeline.shards, shard.shardIndex = shardIndex
  books : ∀ pipeline state, engine.pipelines requestId = some pipeline →
    pipeline.phase = .awaitingRollback state → state.isFinalizingRound = true →
    Books pipeline.shards state.pending (submitted (engine.history requestId)) wait.heard

/-- Nothing is submitted outside a finalizing round. -/
theorem ackSubmission_eq_nil (notFinal : state.isFinalizingRound = false) :
    ackSubmission requestId state ack = [] := by
  unfold ackSubmission
  cases ack.finalizedHash with
  | none => rfl
  | some hash => simp [notFinal]

theorem heard_attend (waits : engine.awaited requestId = some state) (wait : Wait) :
    (attend sha256 requestId engine wait stimulus).heard =
      wait.heard ++ (stimulus.event.ack requestId).toList := by
  rw [attend, waits, Option.isSome_some, if_pos rfl]

/-- What follows an acknowledgement of a guarded step. -/
theorem BooksKept.acknowledged (sha256 : Digest) {wait : Wait}
    (kept : BooksKept requestId engine wait)
    (about : ack.requestId = requestId)
    (present : engine.pipelines requestId = some pipeline)
    (awaiting : pipeline.phase = .awaitingRollback state)
    (guarded : AckGuard requestId engine ⟨registry, .kvRollbackAck ack stored⟩)
    (final : state.isFinalizingRound = true) :
    Books pipeline.shards (state.pending.erase ack.shardIndex)
      (submitted (engine.history requestId) ++
        (ackSubmission requestId state ack).filterMap Effect.submission)
      (attend sha256 requestId engine wait ⟨registry, .kvRollbackAck ack stored⟩).heard := by
  have named : Event.ack requestId (.kvRollbackAck ack stored) = some ack := if_pos about
  have waits : engine.awaited requestId = some state :=
    awaited_eq_some_iff.mpr ⟨pipeline, present, awaiting⟩
  obtain ⟨noDraft, sound⟩ := guarded ack pipeline state named present awaiting final
  rw [heard_attend waits, named]
  exact (kept.books pipeline state present awaiting final).acknowledge final noDraft sound

theorem BooksKept.next {wait : Wait} (kept : BooksKept requestId engine wait)
    (enabled : engine.enabled stimulus) (guarded : AckGuard requestId engine stimulus) :
    BooksKept requestId (SpeculativeEngine.next sha256 engine stimulus)
      (attend sha256 requestId engine wait stimulus) := by
  obtain ⟨emitted, extended, change⟩ := next_change sha256 enabled requestId
  have settling := change.settling
  generalize beforeEq : engine.pipelines requestId = before at settling
  generalize afterEq : (SpeculativeEngine.next sha256 engine stimulus).pipelines requestId = after
    at settling
  cases settling with
  | started waits allLines =>
      have nothing :
          submitted ((SpeculativeEngine.next sha256 engine stimulus).history requestId) = [] := by
        rw [extended, submitted, sinceLast_mark _ rfl
          (fun effect mem => (unmarked_of_isLine (allLines effect mem)).1)]
        exact List.filterMap_eq_nil_iff.mpr fun effect mem =>
          (unmarked_of_isLine (allLines effect mem)).2
      constructor
      · rw [nothing]
        exact List.nodup_nil
      · intro later found shardIndex mem
        rw [nothing] at mem
        cases mem
      · intro later state found awaiting final
        cases found.symm.trans afterEq
        rw [awaiting] at waits
        cases waits
  | quiet unmarked same =>
      have still : submitted ((SpeculativeEngine.next sha256 engine stimulus).history requestId) =
          submitted (engine.history requestId) := by
        rw [extended, submitted_append _ fun effect mem => (unmarked effect mem).1,
          List.filterMap_eq_nil_iff.mpr fun effect mem => (unmarked effect mem).2, List.append_nil]
      constructor
      · rw [still]
        exact kept.once
      · intro later found shardIndex mem
        obtain ⟨earlier, was, shards, -⟩ := same later (afterEq.symm.trans found)
        rw [shards]
        rw [still] at mem
        exact kept.real earlier (beforeEq.trans was) shardIndex mem
      · intro later state found awaiting final
        obtain ⟨earlier, was, shards, phases⟩ := same later (afterEq.symm.trans found)
        have present := beforeEq.trans was
        rw [still, shards]
        rcases phases state awaiting with waited | ⟨entered, all⟩
        · have waits := awaited_eq_some_iff.mpr ⟨earlier, present, waited⟩
          rw [heard_attend waits]
          exact (kept.books earlier state present waited final).hear _
        · rw [shards] at all
          constructor
          · exact kept.once
          · exact kept.real earlier present
          · intro shardIndex pending ofShard
            rw [all] at pending
            simpa [ofShard] using pending
          · intro shard mem settled
            rw [all] at settled
            exact absurd (Finset.mem_insert_of_mem
              (List.mem_toFinset.mpr (List.mem_map_of_mem mem))) settled
  | @acknowledged registry ack stored pipeline state _ _ about awaiting goesOn =>
      have acked := kept.acknowledged sha256 about beforeEq awaiting guarded
      cases about
      have adds := submitted_handleKvRollbackAck sha256 registry stored beforeEq awaiting
      constructor
      · rw [SpeculativeEngine.next, adds]
        cases final : state.isFinalizingRound with
        | false =>
            rw [ackSubmission_eq_nil final, List.filterMap_nil, List.append_nil]
            exact kept.once
        | true => exact (acked final).once
      · intro later found
        rw [SpeculativeEngine.next, adds, (goesOn later (afterEq.symm.trans found)).1]
        cases final : state.isFinalizingRound with
        | false =>
            rw [ackSubmission_eq_nil final, List.filterMap_nil, List.append_nil]
            exact kept.real pipeline beforeEq
        | true => exact (acked final).real
      · intro later left found waits final
        obtain ⟨shards, same⟩ := goesOn later (afterEq.symm.trans found)
        cases same left waits
        rw [SpeculativeEngine.next, adds, shards]
        exact acked final

theorem booksKept_of_run {draftSources : PartialMap String DraftModelSource}
    {events : List Stimulus} {wait : Wait}
    (run : (attended sha256 requestId).RunWith
      (fun both stimulus => AckGuard requestId both.1 stimulus)
      (new draftSources, ⟨[], []⟩) events (engine, wait)) :
    BooksKept requestId engine wait := by
  apply run.invariant (I := fun both => BooksKept requestId both.1 both.2)
  · constructor
    · exact List.nodup_nil
    · rintro pipeline ⟨⟩
    · rintro pipeline state ⟨⟩
  · rintro ⟨state, seen⟩ stimulus kept enabled guarded
    exact kept.next enabled guarded

/-- In every run whose acknowledgements meet `AckGuard`, a request is finalized
only after every shard confirmed the round, with one submission for each. -/
theorem finalizes_on_every_shard {draftSources : PartialMap String DraftModelSource}
    {events : List Stimulus} {wait : Wait}
    (run : (attended sha256 requestId).RunWith
      (fun both stimulus => AckGuard requestId both.1 stimulus)
      (new draftSources, ⟨[], []⟩) events (engine, wait))
    (enabled : engine.enabled stimulus) (guarded : AckGuard requestId engine stimulus)
    (finalizes : engine.Finalizes requestId pipeline stimulus) :
    Stands pipeline.shards (attend sha256 requestId engine wait stimulus).heard
      (submitted ((next sha256 engine stimulus).history requestId)) := by
  have kept := booksKept_of_run run
  rcases stimulus with ⟨registry, event⟩
  rcases finalizes with ⟨ack, stored, state, same, about, present, awaiting, final, complete⟩
  cases same
  cases about
  have books := kept.acknowledged sha256 rfl present awaiting guarded final
  rw [complete] at books
  rw [SpeculativeEngine.next, submitted_handleKvRollbackAck sha256 registry stored present awaiting]
  exact books.stands

/-- The stimulus of an acknowledgement of the sole request. -/
def ackStimulus (shardIndex : Nat) (ok : Bool) (finalizedHash : Option String) : Stimulus :=
  ⟨soleRegistry, .kvRollbackAck ⟨"r", shardIndex, ok, finalizedHash⟩ true⟩

/-- The finalizing round after one more acknowledgement. -/
def finalizingWaitAfter (stimulus : Stimulus) : SpeculativeEngine × Wait :=
  (attended id "r").next finalizingWait stimulus

/-- The only shard reports failure and the draft success: the request is
finalized with nothing confirmed and nothing submitted. -/
theorem finalizes_on_failed_ack :
    ∃ events engine wait pipeline,
      (attended id "r").Run (soleEngine, ⟨[], []⟩) events (engine, wait) ∧
      engine.Finalizes "r" pipeline (ackStimulus draftSessionShardIndex true none) ∧
      ¬ Stands pipeline.shards
        (attend id "r" engine wait (ackStimulus draftSessionShardIndex true none)).heard
        (submitted ((next id engine
          (ackStimulus draftSessionShardIndex true none)).history "r")) := by
  let failed := ackStimulus 0 false none
  have run : (attended id "r").Run (soleEngine, ⟨[], []⟩) (finalizingEvents ++ [failed])
      (finalizingWaitAfter failed) :=
    finalizingWait_run.snoc trivial trivial
  refine ⟨_, _, _, _, run, ⟨_, _, _, rfl, rfl, rfl, rfl, by decide, by decide⟩, ?_⟩
  intro stands
  have once := stands.once ⟨0, "DENSE", some 0, some 4, none⟩ (by decide)
  exact absurd once (by decide)

/-- An instance of `finalizes_on_every_shard`: the shard confirms with its hash
and then the draft acknowledges. -/
theorem finalizes_on_every_shard_sole :
    ∃ pipeline, (finalizingWaitAfter (ackStimulus 0 true (some "hash"))).1.Finalizes "r" pipeline
        (ackStimulus draftSessionShardIndex true none) ∧
      Stands pipeline.shards
        (attend id "r" (finalizingWaitAfter (ackStimulus 0 true (some "hash"))).1
          (finalizingWaitAfter (ackStimulus 0 true (some "hash"))).2
          (ackStimulus draftSessionShardIndex true none)).heard
        (submitted ((next id (finalizingWaitAfter (ackStimulus 0 true (some "hash"))).1
          (ackStimulus draftSessionShardIndex true none)).history "r")) := by
  let confirmed := ackStimulus 0 true (some "hash")
  have early : (attended id "r").RunWith (fun both stimulus => AckGuard "r" both.1 stimulus)
      (soleEngine, ⟨[], []⟩) finalizingEvents finalizingWait := by
    apply System.Admits.runWith
    exact ⟨⟨trivial, ackGuard_of_noAck rfl _⟩, ⟨trivial, ackGuard_of_noAck rfl _⟩,
      ⟨nofun, ackGuard_of_noAck rfl _⟩, ⟨trivial, ackGuard_of_noAck rfl _⟩,
      ⟨trivial, ackGuard_of_noAck rfl _⟩, trivial⟩
  have first : AckGuard "r" finalizingWait.1 confirmed := by
    rintro ack pipeline state ⟨⟩ ⟨⟩ ⟨⟩ -
    decide
  have second : AckGuard "r" (finalizingWaitAfter confirmed).1
      (ackStimulus draftSessionShardIndex true none) := by
    rintro ack pipeline state ⟨⟩ ⟨⟩ ⟨⟩ -
    decide
  have run : (attended id "r").RunWith (fun both stimulus => AckGuard "r" both.1 stimulus)
      (soleEngine, ⟨[], []⟩) (finalizingEvents ++ [confirmed]) (finalizingWaitAfter confirmed) :=
    early.snoc trivial first
  refine ⟨_, ⟨_, _, _, rfl, rfl, rfl, rfl, by decide, by decide⟩, ?_⟩
  exact finalizes_on_every_shard run trivial second
    ⟨_, _, _, rfl, rfl, rfl, rfl, by decide, by decide⟩

end SpeculativeEngine

end StratumBridge.Speculative
