import StratumBridge.Shard.Sessions
import StratumBridge.Speculative.Sessions

/-!
# Session affinity

Both engines send messages that only the holder of an open session can answer.
With one eligible miner they reach it; with more, the cursor moves on while the
session stays where it is.
-/

namespace StratumBridge.Bridge

open Data Rpc Wire Transition Shard Speculative

variable {sha256 : Digest} {requestId : RequestId}

/-- In every run of the shard engine whose steps are guarded, and in every
state of the speculative engine, a guarded step sends what relies on an open
session to the holder of the session. -/
theorem sessions_reach_holders {events : List Shard.Stimulus} {plain : ShardEngine}
    (run : (ShardEngine.system sha256).RunWith (ShardEngine.SessionGuard requestId)
      ShardEngine.new events plain) :
    (∀ stimulus, plain.enabled stimulus → ShardEngine.SessionGuard requestId plain stimulus →
      ShardEngine.ContinuesSessions sha256 requestId plain stimulus) ∧
    ∀ (drafted : SpeculativeEngine) stimulus, drafted.enabled stimulus →
      SpeculativeEngine.SessionGuard requestId drafted stimulus →
      SpeculativeEngine.ReachesSessions sha256 requestId drafted stimulus := by
  constructor
  · intro stimulus enabled guarded
    exact ShardEngine.continuesSessions_of_run run enabled guarded
  · intro drafted stimulus enabled guarded
    exact SpeculativeEngine.reachesSessions_of_guard enabled guarded

/-- One shard up to the answer for the first token. -/
def firstTokenEvents : List Shard.Stimulus :=
  ShardEngine.soleStart ShardEngine.soleRegistry 1 9 ++
    [ShardEngine.soleAnswer 0 0 (some 5)]

/-- One shard up to the draft dispatch. -/
def firstPassEvents : List Speculative.Stimulus :=
  [SpeculativeEngine.soleStart 1 9, SpeculativeEngine.soleAnswer 0 (some 2) none,
    SpeculativeEngine.soleTokenized 0 2]

theorem eligible_soleRegistry {other : Wallet}
    (eligible : ShardEngine.soleRegistry.Eligible other) : other = "miner" := by
  have mem := MinerRegistry.registered_iff_mem_keys.mp eligible.1
  exact List.mem_singleton.mp mem

/-- An instance of `sessions_reach_holders`: with one miner, the second token
and the first verify pass go to the miner. -/
theorem sessions_reach_holders_sole :
    ShardEngine.ContinuesSessions id "r"
      ((ShardEngine.system id).execute ShardEngine.new firstTokenEvents)
      (ShardEngine.soleResolved 0) ∧
    SpeculativeEngine.ReachesSessions id "r"
      ((SpeculativeEngine.system id).execute SpeculativeEngine.soleEngine firstPassEvents)
      (SpeculativeEngine.soleDraft [2, 3]) := by
  have computed : ((ShardEngine.system id).execute ShardEngine.new firstTokenEvents).Computed
      "r" "miner" 0 0 := ⟨0, ShardEngine.soleResult 0 0 (some 5), by decide, rfl, rfl⟩
  have run : (ShardEngine.system id).RunWith (ShardEngine.SessionGuard "r") ShardEngine.new
      firstTokenEvents ((ShardEngine.system id).execute ShardEngine.new firstTokenEvents) := by
    apply System.Admits.runWith
    refine ⟨⟨trivial, by rintro _ _ ⟨⟩⟩,
      ⟨⟨rfl, List.nodup_nil, ShardEngine.nothing_stalled fun _ => rfl⟩, by rintro _ _ ⟨⟩⟩,
      ⟨rfl, by rintro _ _ ⟨⟩⟩, ⟨⟨_, _, rfl⟩, by rintro _ _ ⟨⟩⟩,
      ⟨⟨_, _, _, _, rfl⟩, by rintro _ _ ⟨⟩⟩, ⟨⟨_, _, _, _, _, rfl⟩, by rintro _ _ ⟨⟩⟩,
      ⟨⟨_, _, _, _, _, _, rfl⟩, ?_⟩, ⟨trivial, by rintro _ _ ⟨⟩⟩, trivial⟩
    · rintro _ _ ⟨⟩ - beyond
      exact absurd beyond (Nat.lt_irrefl 0)
  obtain ⟨continues, reaches⟩ := sessions_reach_holders run
  constructor
  · apply continues (ShardEngine.soleResolved 0) ⟨_, _, rfl⟩
    intro pipeline shard dispatching
    cases dispatching with
    | nextToken parked about present notLastToken lastShard answer =>
        rintro - - found other eligible
        cases parked
        cases present
        cases found
        rw [eligible_soleRegistry eligible]
        exact computed
    | nextShard parked about present notLastToken notLastShard dense =>
        cases parked
        cases present
        exact absurd rfl notLastShard
  · apply reaches ((SpeculativeEngine.system id).execute _ firstPassEvents)
      (SpeculativeEngine.soleDraft [2, 3]) trivial
    intro heard shard relies
    cases relies with
    | drafted about assigned nonempty present found =>
        intro other eligible
        cases present
        cases found
        rw [eligible_soleRegistry eligible]
        rfl

/-- Two connected miners, the first of which can also draft. -/
def pairRegistry : MinerRegistry :=
  SpeculativeEngine.soleRegistry.register "other" 1

/-- The first token over one shard, computed by the first of two miners. -/
def pairTokenEvents : List Shard.Stimulus :=
  ShardEngine.soleStart pairRegistry 1 9 ++
    [⟨pairRegistry, .shardResult "miner" (ShardEngine.soleResult 0 0 (some 5))⟩]

/-- The first pass over one shard, computed by the first of two miners. -/
def pairPassEvents : List Speculative.Stimulus :=
  firstPassEvents.map fun stimulus => { stimulus with registry := pairRegistry }

/-- The dispatch of the second token over one shard. -/
def secondTokenAssign : OpoiShardAssign where
  requestId := "r"
  modelId := "model"
  shardIndex := 0
  layerStart := 0
  layerEnd := 4
  totalLayers := 4
  tokenIndex := 1
  maxTokens := 9
  input := .nextTokenId 5
  modelGgufUrl := "gguf"
  modelGgufSha256 := "root"
  modelTokenizerUrl := some "tokenizer"
  modelTokenizerSha256 := some "tokenizer-hash"
  moeLayerStep := none

/-- The dispatch of the first verify pass over one shard. -/
def firstVerifyAssign : OpoiShardAssign :=
  { secondTokenAssign with
    tokenIndex := 0
    maxTokens := u32Max
    input := .tokenIds [2, 3]
    modelTokenizerUrl := none
    modelTokenizerSha256 := none }

/-- An acceptance is of a result from the first miner. -/
def byFirstMiner : Shard.Effect → Bool
  | .accepted _ wallet _ => wallet = "miner"
  | _ => true

/-- With two miners the cursor takes the second token, and the first verify
pass, to the miner that does not hold the session. -/
theorem sessions_missed_with_two_miners :
    (∃ events engine stimulus, (ShardEngine.system id).Run ShardEngine.new events engine ∧
      engine.enabled stimulus ∧ ¬ ShardEngine.ContinuesSessions id "r" engine stimulus) ∧
    ∃ events engine stimulus,
      (SpeculativeEngine.system id).Run SpeculativeEngine.soleEngine events engine ∧
      engine.enabled stimulus ∧ ¬ SpeculativeEngine.ReachesSessions id "r" engine stimulus := by
  constructor
  · refine ⟨pairTokenEvents, (ShardEngine.system id).execute ShardEngine.new pairTokenEvents,
      ⟨pairRegistry, .resolved 0 (some ShardEngine.soleSource)⟩, ?_, ⟨_, _, rfl⟩, ?_⟩
    · apply System.Admits.runWith
      refine ⟨⟨trivial, trivial⟩,
        ⟨⟨rfl, List.nodup_nil, ShardEngine.nothing_stalled fun _ => rfl⟩, trivial⟩, ⟨rfl, trivial⟩,
        ⟨⟨_, _, rfl⟩, trivial⟩, ⟨⟨_, _, _, _, rfl⟩, trivial⟩, ⟨⟨_, _, _, _, _, rfl⟩, trivial⟩,
        ⟨⟨_, _, _, _, _, _, rfl⟩, trivial⟩, ⟨trivial, trivial⟩, trivial⟩
    · intro continues
      have line : .shardAssign "other" 1 secondTokenAssign ∈
          ShardEngine.sent id ((ShardEngine.system id).execute ShardEngine.new pairTokenEvents)
            ⟨pairRegistry, .resolved 0 (some ShardEngine.soleSource)⟩ "r" := by decide
      rcases continues "other" 1 secondTokenAssign line Nat.zero_lt_one with
        ⟨ticket, result, mem, -, -⟩
      have computedOnce : (sinceLast Shard.Effect.isStarted
          (((ShardEngine.system id).execute ShardEngine.new pairTokenEvents).history "r")).all
            byFirstMiner = true := by decide
      cases List.all_eq_true.mp computedOnce _ mem
  · refine ⟨pairPassEvents,
      (SpeculativeEngine.system id).execute SpeculativeEngine.soleEngine pairPassEvents,
      ⟨pairRegistry, .draftResult "miner" ⟨"r", [2, 3]⟩⟩, ?_, trivial, ?_⟩
    · apply System.Admits.runWith
      exact ⟨⟨trivial, trivial⟩, ⟨trivial, trivial⟩, ⟨nofun, trivial⟩, trivial⟩
    · rintro ⟨reaches, -⟩
      have line : .shardAssign "other" 1 firstVerifyAssign ∈
          SpeculativeEngine.sent id ((SpeculativeEngine.system id).execute
            SpeculativeEngine.soleEngine pairPassEvents)
            ⟨pairRegistry, .draftResult "miner" ⟨"r", [2, 3]⟩⟩ "r" := by decide
      have holder := reaches _ 0 _ _ "other" 1 firstVerifyAssign rfl rfl line
      exact absurd holder (by decide)

end StratumBridge.Bridge
