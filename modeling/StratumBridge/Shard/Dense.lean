import StratumBridge.Shard.Credit
import StratumBridge.Shard.Walk

/-!
# The dense relay

Over dense shards alone, a pipeline relays its prompt through the shards, takes
the last one's token and relays that again.  While every result accepted is the
shard's reply to the line it was asked with, the tokens are those of the
composed shards, whatever is dispatched again and however often.
-/

namespace StratumBridge.Shard

open Data Rpc Wire Transition

/-- What a shard replies to an input. -/
structure ShardReply where
  output : ShardOutputWire
  nextTokenId : Option TokenId

/-- The replies of all shards of a model, by shard index and token. -/
abbrev Replies := Nat → Nat → ShardInputWire → ShardReply

/-- What a shard hands on to the next one. -/
def handOn (replies : Replies) (tokenIndex : Nat) (input : ShardInputWire)
    (shard : ShardDescriptor) : ShardInputWire :=
  .tensor (replies shard.shardIndex tokenIndex input).output.shape
    (replies shard.shardIndex tokenIndex input).output.dataHex

/-- What comes out of a row of shards, one after another. -/
def relayed (replies : Replies) (tokenIndex : Nat) (shards : List ShardDescriptor)
    (input : ShardInputWire) : ShardInputWire :=
  shards.foldl (handOn replies tokenIndex) input

/-- The token that the last of the shards replies after all others. -/
def relayedToken (replies : Replies) (tokenIndex : Nat) (shards : List ShardDescriptor)
    (input : ShardInputWire) : Option TokenId :=
  shards.getLast?.bind fun last =>
    (replies last.shardIndex tokenIndex
      (relayed replies tokenIndex shards.dropLast input)).nextTokenId

/-- What a token is computed from: the prompt, or the token before. -/
def tokenInput (promptHex : String) (earlier : List TokenId) : ShardInputWire :=
  match earlier.getLast? with
  | none => .prompt promptHex
  | some tokenId => .nextTokenId tokenId

/-- The first tokens of the composed shards on a prompt. -/
def responseTokens (replies : Replies) (shards : List ShardDescriptor) (promptHex : String) :
    Nat → List TokenId
  | 0 => []
  | n + 1 =>
      responseTokens replies shards promptHex n ++
        (relayedToken replies n shards
          (tokenInput promptHex (responseTokens replies shards promptHex n))).toList

theorem relayed_take_succ {replies : Replies} {tokenIndex pos : Nat}
    {shards : List ShardDescriptor} {shard : ShardDescriptor} (found : shards[pos]? = some shard)
    (input : ShardInputWire) :
    relayed replies tokenIndex (shards.take (pos + 1)) input =
      handOn replies tokenIndex (relayed replies tokenIndex (shards.take pos) input) shard := by
  rw [relayed, relayed, List.take_add_one, found, List.foldl_append]
  rfl

theorem relayedToken_of_last {replies : Replies} {tokenIndex pos : Nat}
    {shards : List ShardDescriptor} {shard : ShardDescriptor} (found : shards[pos]? = some shard)
    (lastShard : pos + 1 = shards.length) (input : ShardInputWire) :
    relayedToken replies tokenIndex shards input =
      (replies shard.shardIndex tokenIndex
        (relayed replies tokenIndex (shards.take pos) input)).nextTokenId := by
  have last : shards.getLast? = some shard := by
    rw [List.getLast?_eq_getElem?, ← lastShard, Nat.add_sub_cancel]
    exact found
  rw [relayedToken, last, List.dropLast_eq_take, ← lastShard, Nat.add_sub_cancel]
  rfl

/-- The assignment an effect sends. -/
def Effect.assign? : Effect → Option OpoiShardAssign
  | shardAssign _ _ assign => some assign
  | _ => none

/-- What a request is claimed with. -/
structure Claimed where
  req : OpoiRequest
  graph : ModelGraph
  promptHex : String

namespace ShardEngine

/-- The last line a request was asked with. -/
def lastLine (engine : ShardEngine) (requestId : RequestId) : Option OpoiShardAssign :=
  ((engine.history requestId).filterMap Effect.assign?).getLast?

/-- The claim of a request that goes through in an event. -/
def claimedBy (engine : ShardEngine) (requestId : RequestId) (event : Event) : Option Claimed :=
  match event, engine.poll with
  | .pollClaim true false, .claiming req _ _ promptHex graph _ =>
      if req.requestId = requestId then some ⟨req, graph, promptHex⟩ else none
  | _, _ => none

/-- The last claim of a request along a run from the empty engine. -/
def claimOf (sha256 : Digest) (requestId : RequestId) (events : List Stimulus) : Option Claimed :=
  (((system sha256).watched fun engine claimed stimulus =>
    (engine.claimedBy requestId stimulus.event).or claimed).execute (new, none) events).2

/-- The conditions on a step under which a request is a dense relay of honest
shards: handlers run one after another, its graph has dense nodes only, and a
result accepted for it is the shard's reply to the last line. -/
structure DenseRelay (replies : Replies) (requestId : RequestId) (engine : ShardEngine)
    (stimulus : Stimulus) : Prop where
  oneByOne : engine.OneByOne stimulus
  dense : ∀ claimed, engine.claimedBy requestId stimulus.event = some claimed →
    ∀ shard ∈ claimed.graph.shards, shard.shardType = "DENSE"
  honest : ∀ wallet result, stimulus.event = .shardResult wallet result →
    result.requestId = requestId → engine.assignments requestId =
      some ⟨wallet, result.shardIndex, result.tokenIndex, result.moeLayerStep⟩ →
    ∀ line, engine.lastLine requestId = some line →
      result.output = (replies line.shardIndex line.tokenIndex line.input).output ∧
        result.nextTokenId = (replies line.shardIndex line.tokenIndex line.input).nextTokenId

/-! ## The invariant -/

/-- A pipeline as far as the composed shards have come. -/
structure Relays (replies : Replies) (claimed : Option Claimed) (pipeline : PipelineState) :
    Prop where
  claim : ∃ claim, claimed = some claim ∧ pipeline.shards = denseShards claim.graph ∧
    pipeline.originalPromptHex = claim.promptHex ∧ pipeline.maxTokens = claim.req.maxTokens
  ungrouped : ∀ range, pipeline.expertGroups range = none
  resting : pipeline.moeLayerWalk = none
  tokens : pipeline.generatedTokenIds =
    responseTokens replies pipeline.shards pipeline.originalPromptHex pipeline.tokenIndex
  length : pipeline.generatedTokenIds.length = pipeline.tokenIndex
  input : pipeline.currentInput =
    relayed replies pipeline.tokenIndex (pipeline.shards.take pipeline.pos)
      (tokenInput pipeline.originalPromptHex pipeline.generatedTokenIds)
  inTime : pipeline.tokenIndex + 1 ≤ max 1 pipeline.maxTokens.toNat

/-- A line asks for the step a pipeline is at. -/
structure Asks (pipeline : PipelineState) (line : OpoiShardAssign) : Prop where
  shard : ∃ shard, pipeline.shards[pipeline.pos]? = some shard ∧
    line.shardIndex = shard.shardIndex
  token : line.tokenIndex = pipeline.tokenIndex
  input : line.input = pipeline.currentInput

/-- A result is the reply of the shard a pipeline is at. -/
structure Answers (replies : Replies) (pipeline : PipelineState) (result : OpoiShardResult) :
    Prop where
  intro ::
  reply : ∃ shard, pipeline.shards[pipeline.pos]? = some shard ∧
    result.output =
      (replies shard.shardIndex pipeline.tokenIndex pipeline.currentInput).output ∧
    result.nextTokenId =
      (replies shard.shardIndex pipeline.tokenIndex pipeline.currentInput).nextTokenId

/-- A dense request: its pipeline relays, its assignment is for the last line,
and its handler has the reply to it. -/
structure Dense (replies : Replies) (claimed : Option Claimed) (line : Option OpoiShardAssign)
    (pipeline : Option PipelineState) (assigned : Option ShardAssignment) (hand : Option Call) :
    Prop where
  relays : ∀ current, pipeline = some current → Relays replies claimed current
  asked : ∀ assignment, assigned = some assignment → assignment.moeLayerStep = none ∧
    ∀ current, pipeline = some current → ∃ sent, line = some sent ∧ Asks current sent
  answered : ∀ current call, pipeline = some current → hand = some call →
    Answers replies current call.result
  plain : ∀ call, hand = some call → call.step? = none
  lastToken : ∀ current wallet result source, pipeline = some current →
    hand = some (.submitting wallet result source) → isLastToken current = true

section Step

variable {sha256 : Digest} {engine : ShardEngine} {requestId : RequestId}
variable {stimulus : Stimulus} {ticket : Ticket} {call : Call} {hand : Option Call}
variable {replies : Replies} {claimed : Option Claimed} {line : Option OpoiShardAssign}
variable {assigned : Option ShardAssignment} {emitted : List Effect}
variable {pipeline : PipelineState} {result : OpoiShardResult}

theorem Relays.expertGroupFor (relays : Relays replies claimed pipeline) (pos : Nat) :
    pipeline.expertGroupFor pos = none := by
  unfold PipelineState.expertGroupFor
  cases pipeline.shards[pos]? with
  | none => rfl
  | some shard => simp [relays.ungrouped]

theorem Relays.openWalk (relays : Relays replies claimed pipeline) (shard : ShardDescriptor)
    (wallet : Wallet) : openWalk pipeline shard wallet = pipeline := by
  unfold ShardEngine.openWalk
  rw [relays.expertGroupFor]
  rfl

/-- A dispatch leaves the pipeline as it is, and asks for its step. -/
theorem Relays.dispatches (relays : Relays replies claimed pipeline)
    (inside : pipeline.pos < pipeline.shards.length) (registry : MinerRegistry)
    (last : Option Wallet) (requestId : RequestId) (source : ModelSource) :
    dispatched registry last pipeline = some pipeline ∧
      ∀ assignment, assignedBy registry last none pipeline = some assignment →
        assignment.moeLayerStep = none ∧ ∃ sent,
          (dispatchLines registry last requestId source pipeline).filterMap Effect.assign? =
            [sent] ∧ Asks pipeline sent := by
  have found : pipeline.shards[pipeline.pos]? = some pipeline.shards[pipeline.pos] :=
    List.getElem?_eq_getElem inside
  unfold dispatched assignedBy dispatchLines
  rw [found]
  dsimp only
  rw [relays.resting]
  dsimp only
  cases registry.pickNext last with
  | none => exact ⟨rfl, fun _ assigned => by cases assigned⟩
  | some wallet =>
      dsimp only
      rw [relays.openWalk, relays.resting]
      refine ⟨rfl, ?_⟩
      cases channel : registry.get wallet with
      | none => exact fun _ assigned => by cases assigned
      | some tx =>
          rintro _ ⟨⟩
          refine ⟨rfl, shardAssignLine requestId pipeline pipeline.shards[pipeline.pos] source none,
            ?_, ?_⟩
          · simp [channel, relays.openWalk, relays.resting, Effect.assign?]
          · exact ⟨⟨_, found, rfl⟩, rfl, rfl⟩

/-- A pipeline that was dispatched, with no handler. -/
theorem Relays.sent (relays : Relays replies claimed pipeline)
    (inside : pipeline.pos < pipeline.shards.length) (registry : MinerRegistry)
    (last : Option Wallet) (requestId : RequestId) (source : ModelSource)
    (marks : emitted.filterMap Effect.assign? =
      (dispatchLines registry last requestId source pipeline).filterMap Effect.assign?) :
    Dense replies claimed ((emitted.filterMap Effect.assign?).getLast?.or line)
      (dispatched registry last pipeline) (assignedBy registry last none pipeline) none := by
  obtain ⟨same, asks⟩ := relays.dispatches inside registry last requestId source
  rw [same, marks]
  constructor
  · rintro _ ⟨⟩
    exact relays
  · intro assignment made
    obtain ⟨plain, sent, isLine, asksFor⟩ := asks assignment made
    refine ⟨plain, ?_⟩
    rintro _ ⟨⟩
    exact ⟨sent, by rw [isLine]; rfl, asksFor⟩
  · rintro _ _ _ ⟨⟩
  · rintro _ ⟨⟩
  · rintro _ _ _ _ _ ⟨⟩

/-- Without a pipeline there is neither an assignment nor a handler. -/
theorem dense_none (replies : Replies) (claimed : Option Claimed)
    (line : Option OpoiShardAssign) : Dense replies claimed line none none none where
  relays := fun _ present => by cases present
  asked := fun _ isAssigned => by cases isAssigned
  answered := fun _ _ present => by cases present
  plain := fun _ isHand => by cases isHand
  lastToken := fun _ _ _ _ present => by cases present

/-- A pipeline whose handler returned. -/
theorem Relays.rests (relays : Relays replies claimed pipeline) (line : Option OpoiShardAssign) :
    Dense replies claimed line (some pipeline) none none := by
  constructor
  · rintro _ ⟨⟩
    exact relays
  · rintro _ ⟨⟩
  · rintro _ _ _ ⟨⟩
  · rintro _ ⟨⟩
  · rintro _ _ _ _ _ ⟨⟩

theorem Relays.contribute (relays : Relays replies claimed pipeline) (wallet : Wallet) :
    Relays replies claimed (contribute wallet pipeline) :=
  ⟨relays.claim, relays.ungrouped, relays.resting, relays.tokens, relays.length, relays.input,
    relays.inTime⟩

/-- The reply of a shard goes to the next one. -/
theorem Relays.nextShard (relays : Relays replies claimed pipeline)
    (answers : Answers replies pipeline result) :
    Relays replies claimed (nextShard pipeline result.output) := by
  rcases answers.reply with ⟨shard, found, output, -⟩
  refine ⟨relays.claim, relays.ungrouped, rfl, relays.tokens, relays.length, ?_, relays.inTime⟩
  simp only [ShardEngine.nextShard]
  rw [relayed_take_succ found, ← relays.input, output]
  rfl

/-- The token of the last shard is the next one of the composition. -/
theorem Relays.relayedToken (relays : Relays replies claimed pipeline)
    (answers : Answers replies pipeline result)
    (lastShard : pipeline.pos + 1 = pipeline.shards.length) {tokenId : TokenId}
    (answer : result.nextTokenId = some tokenId) :
    pipeline.generatedTokenIds ++ [tokenId] =
      responseTokens replies pipeline.shards pipeline.originalPromptHex
        (pipeline.tokenIndex + 1) := by
  rcases answers.reply with ⟨shard, found, -, next⟩
  rw [responseTokens, ← relays.tokens, relayedToken_of_last found lastShard, ← relays.input,
    ← next, answer]
  rfl

/-- The relay starts over with the token of the last shard. -/
theorem Relays.nextToken (relays : Relays replies claimed pipeline)
    (answers : Answers replies pipeline result)
    (lastShard : pipeline.pos + 1 = pipeline.shards.length) {tokenId : TokenId}
    (answer : result.nextTokenId = some tokenId) (early : isLastToken pipeline = false) :
    Relays replies claimed (nextToken (recordToken pipeline tokenId) tokenId) := by
  rw [isLastToken, decide_eq_false_iff_not] at early
  refine ⟨relays.claim, relays.ungrouped, rfl, ?_, ?_, ?_, ?_⟩
  · exact relays.relayedToken answers lastShard answer
  · simp only [ShardEngine.nextToken, recordToken, List.length_append, relays.length]
    rfl
  · simp [ShardEngine.nextToken, recordToken, relayed, tokenInput]
  · simp only [ShardEngine.nextToken, recordToken]
    omega

/-- The completion of a step in a dense relay. -/
theorem Relays.completes {counted : PipelineState} (relays : Relays replies claimed counted)
    (inside : counted.pos < counted.shards.length) (answers : Answers replies counted result)
    {lastToken stored : Bool} (early : lastToken = false → isLastToken counted = false)
    {registry : MinerRegistry} {last : Option Wallet} {wallet : Wallet} {source : ModelSource}
    {kept : Option PipelineState} {left : Option ShardAssignment} {reparked : Option Call}
    (outcome : StepOutcome sha256 registry last none ticket wallet result source lastToken stored
      counted kept left reparked emitted) :
    Dense replies claimed ((emitted.filterMap Effect.assign?).getLast?.or line) kept left
      reparked := by
  cases outcome with
  | unanswered lastShard answer => exact dense_none ..
  | finalized lastShard answer isLast wins => exact dense_none ..
  | unattributed lastShard answer isLast nobody => exact dense_none ..
  | nextToken lastShard answer notLast =>
      have begun := relays.nextToken answers lastShard answer (early notLast)
      apply begun.sent _ registry last result.requestId source
      · rfl
      · simp only [ShardEngine.nextToken, recordToken]
        omega
  | nextShard notLastShard dense =>
      apply (relays.nextShard answers).sent _ registry last result.requestId source
      · rfl
      · simp only [ShardEngine.nextShard]
        omega
  | experts notLastShard group outcome =>
      rw [relays.expertGroupFor] at group
      cases group

theorem history_next (sha256 : Digest) (enabled : engine.enabled stimulus)
    (fresh : engine.TicketsFresh) (requestId : RequestId) :
    (next sha256 engine stimulus).history requestId =
      engine.history requestId ++ sent sha256 engine stimulus requestId := by
  obtain ⟨emitted, extended, -⟩ := next_change sha256 enabled (fresh _ le_rfl) requestId
  rw [sent, extended, List.drop_left]

theorem lastLine_next (enabled : engine.enabled stimulus) (fresh : engine.TicketsFresh) :
    (next sha256 engine stimulus).lastLine requestId =
      ((sent sha256 engine stimulus requestId).filterMap Effect.assign?).getLast?.or
        (engine.lastLine requestId) := by
  rw [lastLine, history_next sha256 enabled fresh, List.filterMap_append, List.getLast?_append]
  rfl

/-- A request that is claimed has no pipeline yet. -/
theorem absent_of_claimedBy {claim : Claimed} (clear : engine.PollClear)
    (claiming : engine.claimedBy requestId stimulus.event = some claim) :
    engine.pipelines requestId = none := by
  unfold claimedBy at claiming
  split at claiming
  · rename_i req rest manifest promptHex graph source _ polling
    have absent := clear req (by rw [polling]; rfl)
    split at claiming
    · rename_i about
      rwa [about] at absent
    · cases claiming
  · cases claiming

/-- A claimed request begins its relay with the prompt. -/
theorem relays_initialPipeline {claim : Claimed} {manifest : ModelManifest}
    (dense : ∀ shard ∈ claim.graph.shards, shard.shardType = "DENSE") :
    Relays replies (some claim) (initialPipeline claim.req manifest claim.graph claim.promptHex)
    where
  claim := ⟨claim, rfl, rfl, rfl, rfl⟩
  ungrouped range := by
    have nobody : ∀ shard ∈ claim.graph.shards,
        shard.shardType = "EXPERT" → ¬ layerRange shard = range := by
      intro shard isShard isExpert
      exact absurd ((dense shard isShard).symm.trans isExpert) (by decide)
    simp only [initialPipeline, expertGroups]
    rw [if_pos]
    simpa using nobody
  resting := rfl
  tokens := rfl
  length := rfl
  input := rfl
  inTime := Nat.le_max_left ..

/-- A result with a reply to the last line is the reply of its shard. -/
theorem answers_of_asks {sent : OpoiShardAssign} (asks : Asks pipeline sent)
    (output : result.output = (replies sent.shardIndex sent.tokenIndex sent.input).output)
    (token : result.nextTokenId =
      (replies sent.shardIndex sent.tokenIndex sent.input).nextTokenId) :
    Answers replies pipeline result := by
  rcases asks.shard with ⟨shard, found, index⟩
  rw [index, asks.token, asks.input] at output token
  exact ⟨shard, found, output, token⟩

/-- Every step keeps a dense request dense. -/
theorem Dense.next {before later : Option PipelineState} {left : Option ShardAssignment}
    {reparked : Option Call} (dense : Dense replies claimed line before assigned hand)
    (holds : engine.Holds requestId before assigned hand)
    (isLine : engine.lastLine requestId = line)
    (relaying : engine.DenseRelay replies requestId stimulus)
    (moves : HandStep sha256 engine requestId stimulus before assigned hand later left reparked
      emitted) :
    Dense replies ((engine.claimedBy requestId stimulus.event).or claimed)
      ((emitted.filterMap Effect.assign?).getLast?.or line) later left reparked := by
  have unclaimed : ∀ current, before = some current →
      engine.claimedBy requestId stimulus.event = none := by
    intro current present
    cases claiming : engine.claimedBy requestId stimulus.event with
    | none => rfl
    | some claim =>
        have absent := absent_of_claimedBy holds.sequential.clear claiming
        rw [holds.pipeline, present] at absent
        cases absent
  cases moves with
  | idle fewer =>
      constructor
      · intro current present
        rw [unclaimed current present]
        exact dense.relays current present
      · intro assignment made
        rcases fewer with same | gone
        · exact dense.asked assignment (same ▸ made)
        · cases gone.symm.trans made
      · exact dense.answered
      · exact dense.plain
      · exact dense.lastToken
  | rejected =>
      exact ⟨dense.relays, dense.asked, dense.answered, dense.plain, dense.lastToken⟩
  | delegated =>
      exact ⟨dense.relays, dense.asked, dense.answered, dense.plain, dense.lastToken⟩
  | @accepted _ ticket wallet result pipeline about step =>
      obtain ⟨plain, asked⟩ := dense.asked _ rfl
      obtain ⟨sent, last, asks⟩ := asked pipeline rfl
      rcases relaying.honest wallet result rfl about holds.assigned sent
        (isLine.trans last) with ⟨output, token⟩
      constructor
      · exact dense.relays
      · rintro _ ⟨⟩
      · rintro _ _ ⟨⟩ ⟨⟩
        exact answers_of_asks asks output token
      · rintro _ ⟨⟩
        rfl
      · rintro _ _ _ _ _ ⟨⟩
  | unresolved parked => exact (dense.relays _ rfl).rests line
  | ungrouped parked => exact dense_none ..
  | interior parked resumes layer group outcome =>
      rw [(dense.relays _ rfl).expertGroupFor] at group
      cases group
  | @submitting _ ticket source wallet result pipeline parked lastToken finishes =>
      obtain ⟨answers⟩ := dense.answered _ _ rfl rfl
      constructor
      · rintro _ ⟨⟩
        exact (dense.relays _ rfl).contribute wallet
      · rintro _ ⟨⟩
      · rintro _ _ ⟨⟩ ⟨⟩
        exact ⟨answers⟩
      · rintro _ ⟨⟩
        rfl
      · rintro _ _ _ _ ⟨⟩ ⟨⟩
        exact lastToken
  | @completed _ last ticket source wallet result pipeline _ _ _ _ parked about notLastToken
      finishes outcome =>
      obtain ⟨answers⟩ := dense.answered _ _ rfl rfl
      exact ((dense.relays _ rfl).contribute wallet).completes holds.inRange ⟨answers⟩
        (fun _ => notLastToken) outcome
  | unsubmitted parked => exact (dense.relays _ rfl).rests line
  | submitted parked about outcome =>
      apply (dense.relays _ rfl).completes holds.inRange (dense.answered _ _ rfl rfl) _ outcome
      rintro ⟨⟩
  | sized parked => cases dense.plain _ rfl
  | unjoined parked => cases dense.plain _ rfl
  | abandoned parked about =>
      have vacant := holds.sequential.orderly.unassigned parked about (by
        rintro step rfl
        cases dense.plain _ rfl)
      cases holds.assigned.symm.trans vacant
      exact (dense.relays _ rfl).rests line
  | walked parked isInterior => cases dense.plain _ rfl
  | handedOver parked isBoundary => cases dense.plain _ rfl
  | @redispatched registry last source pipeline =>
      exact (dense.relays _ rfl).sent holds.inRange registry last requestId source rfl
  | @started registry last req rest manifest promptHex graph source polling about found =>
      have claiming : engine.claimedBy requestId (.pollClaim true false) =
          some ⟨req, graph, promptHex⟩ := by
        simp [claimedBy, polling, about]
      rw [claiming]
      apply (relays_initialPipeline (relaying.dense _ claiming)).sent _ registry last requestId
        source
      · rfl
      · exact List.length_pos_of_ne_nil found

end Step

/-! ## Runs -/

section Runs

variable {sha256 : Digest} {engine : ShardEngine} {requestId : RequestId}
variable {events : List Stimulus} {stimulus : Stimulus} {replies : Replies}

/-- Handlers of a dense request run in turn. -/
theorem Dense.serialAt {claimed : Option Claimed} {line : Option OpoiShardAssign}
    {pipeline : Option PipelineState} {assigned : Option ShardAssignment} {hand : Option Call}
    (dense : Dense replies claimed line pipeline assigned hand)
    (isAssigned : engine.assignments requestId = assigned) (oneByOne : engine.OneByOne stimulus) :
    engine.SerialAt requestId stimulus := by
  rcases stimulus with ⟨registry, event⟩
  cases event with
  | shardResult wallet result =>
      rintro about made
      refine ⟨oneByOne made, fun layer => ?_⟩
      rw [about, isAssigned] at made
      exact absurd (dense.asked _ made).1 layer
  | pollBegin stalled => exact oneByOne
  | _ => trivial

/-- Along every run of a dense relay the request is dense. -/
theorem dense_of_run
    (run : (system sha256).RunWith (DenseRelay replies requestId) new events engine) :
    ∃ pipeline assigned hand, engine.Holds requestId pipeline assigned hand ∧
      Dense replies (claimOf sha256 requestId events) (engine.lastLine requestId) pipeline assigned
        hand := by
  apply handed_of_run (I := fun engine pipeline assigned hand claimed =>
    Dense replies claimed (engine.lastLine requestId) pipeline assigned hand) run
  · exact dense_none ..
  · intro state stimulus claimed pipeline assigned hand holds relaying dense
    exact dense.serialAt holds.assigned relaying.oneByOne
  · intro state stimulus claimed pipeline assigned hand later left reparked holds enabled relaying
      dense _ moves
    rw [lastLine_next enabled holds.sequential.fresh]
    exact dense.next holds rfl relaying moves

/-- A dense relay has as many tokens as its index says, and the row it ends in
holds the tokens of its shards, composed and iterated, with their hash. -/
theorem dense_relay_composes
    (run : (system sha256).RunWith (DenseRelay replies requestId) new events engine) :
    (∀ pipeline, engine.pipelines requestId = some pipeline →
      pipeline.generatedTokenIds.length = pipeline.tokenIndex) ∧
    (∀ stimulus row stored, engine.enabled stimulus →
      .createSubmission row stored ∈ sent sha256 engine stimulus requestId →
        ∃ claim, claimOf sha256 requestId events = some claim ∧
          ∃ tokens, tokens = responseTokens replies (denseShards claim.graph) claim.promptHex
              (max 1 claim.req.maxTokens.toNat) ∧
            tokens.length = max 1 claim.req.maxTokens.toNat ∧
            hexDecode row.responseHex = some (responseBytes tokens) ∧
            row.responseHash = sha256Hex sha256 (responseBytes tokens)) := by
  obtain ⟨_, assigned, hand, holds, dense⟩ := dense_of_run run
  constructor
  · intro pipeline present
    exact (dense.relays pipeline (holds.pipeline.symm.trans present)).length
  · intro stimulus row stored enabled created
    have change := next_change_sent sha256 enabled holds.sequential.fresh requestId
    rcases change.finalizes rfl created with
      ⟨ticket, wallet, result, source, pipeline, -, parked, about, present, lastShard, -,
        ⟨tokenId, answer, isRow⟩, -⟩
    cases holds.pipeline.symm.trans present
    cases (holds.hand _).mpr ⟨ticket, parked, about⟩
    have relays := dense.relays pipeline rfl
    have tokens := relays.relayedToken (dense.answered _ _ rfl rfl) lastShard answer
    have isLast := dense.lastToken _ _ _ _ rfl rfl
    rcases relays.claim with ⟨claim, claimed, shards, prompt, maxTokens⟩
    have last : pipeline.tokenIndex + 1 = max 1 claim.req.maxTokens.toNat := by
      rw [isLastToken, decide_eq_true_eq] at isLast
      have inTime := relays.inTime
      rw [maxTokens] at isLast inTime
      omega
    refine ⟨claim, claimed, pipeline.generatedTokenIds ++ [tokenId], ?_, ?_, ?_, ?_⟩
    · rw [tokens, shards, prompt, last]
    · rw [List.length_append, relays.length, ← last]
      rfl
    · rw [isRow]
      exact hexDecode_hexEncode _
    · rw [isRow]
      rfl

/-- Two shards; the second one replies with a token for each index. -/
def soleReplies : Replies := fun shardIndex tokenIndex _ =>
  ⟨⟨[], ""⟩, if shardIndex = 1 then some (5 + .ofNat tokenIndex) else none⟩

/-- The first token, and the first shard of the second one, whose submission fails. -/
def unsubmittedEvents : List Stimulus :=
  soleStart soleRegistry 2 2 ++ [soleAnswer 0 0 none, soleResolved 0, soleAnswer 1 0 (some 5),
    soleResolved 1, soleAnswer 0 1 none, soleResolved 2, ⟨soleRegistry, .submitted 2 false true⟩]

/-- The tick asks for that shard again, and the second shard ends the request. -/
def resubmittedEvents : List Stimulus :=
  [⟨soleRegistry, .pollBegin ["r"]⟩, ⟨soleRegistry, .pollRetry (some soleSource)⟩,
    soleAnswer 0 1 none, soleResolved 3, ⟨soleRegistry, .submitted 3 true true⟩,
    soleAnswer 1 1 (some 6), soleResolved 4]

def relayEvents : List Stimulus :=
  unsubmittedEvents ++ resubmittedEvents

/-- The guard of the example run. -/
def RelayGuard (engine : ShardEngine) (stimulus : Stimulus) : Prop :=
  engine.settled stimulus = true ∧
    (engine.OneByOne stimulus → engine.DenseRelay soleReplies "r" stimulus)

theorem relayGuard_of_ne {engine : ShardEngine} {stimulus : Stimulus}
    (settled : engine.settled stimulus = true)
    (notClaim : ∀ claimed eligible, stimulus.event ≠ .pollClaim claimed eligible)
    (notResult : ∀ wallet result, stimulus.event ≠ .shardResult wallet result) :
    engine.RelayGuard stimulus := by
  refine ⟨settled, fun oneByOne => ⟨oneByOne, ?_, ?_⟩⟩
  · rcases stimulus with ⟨registry, event⟩
    intro claimed claims
    cases event with
    | pollClaim claimed eligible => exact absurd rfl (notClaim claimed eligible)
    | _ => cases claims
  · exact fun wallet result isResult => absurd isResult (notResult wallet result)

theorem relayGuard_soleAnswer {engine : ShardEngine} {shardIndex tokenIndex : Nat}
    {nextTokenId : Option TokenId}
    (settled : engine.settled (soleAnswer shardIndex tokenIndex nextTokenId) = true)
    (honest : ∀ line, engine.lastLine "r" = some line →
      (⟨⟨[], ""⟩, nextTokenId⟩ : ShardReply) =
        soleReplies line.shardIndex line.tokenIndex line.input) :
    engine.RelayGuard (soleAnswer shardIndex tokenIndex nextTokenId) := by
  refine ⟨settled, fun oneByOne => ⟨oneByOne, nofun, ?_⟩⟩
  rintro wallet result ⟨⟩ _ _ line last
  rw [← honest line last]
  exact ⟨rfl, rfl⟩

theorem unsubmittedEvents_run : (system id).RunWith RelayGuard new unsubmittedEvents
    ((system id).execute new unsubmittedEvents) := by
  apply System.Admits.runWith
  refine ⟨⟨trivial, relayGuard_of_ne rfl nofun nofun⟩,
    ⟨⟨rfl, List.nodup_nil, nothing_stalled fun _ => rfl⟩, relayGuard_of_ne rfl nofun nofun⟩,
    ⟨rfl, relayGuard_of_ne rfl nofun nofun⟩, ⟨⟨_, _, rfl⟩, relayGuard_of_ne rfl nofun nofun⟩,
    ⟨⟨_, _, _, _, rfl⟩, relayGuard_of_ne rfl nofun nofun⟩,
    ⟨⟨_, _, _, _, _, rfl⟩, relayGuard_of_ne rfl nofun nofun⟩,
    ⟨⟨_, _, _, _, _, _, rfl⟩, rfl, fun oneByOne => ⟨oneByOne, ?_, nofun⟩⟩,
    ⟨trivial, relayGuard_soleAnswer rfl ?_⟩, ⟨⟨_, _, rfl⟩, relayGuard_of_ne rfl nofun nofun⟩,
    ⟨trivial, relayGuard_soleAnswer rfl ?_⟩, ⟨⟨_, _, rfl⟩, relayGuard_of_ne rfl nofun nofun⟩,
    ⟨trivial, relayGuard_soleAnswer rfl ?_⟩, ⟨⟨_, _, rfl⟩, relayGuard_of_ne rfl nofun nofun⟩,
    ⟨⟨_, _, _, rfl⟩, relayGuard_of_ne rfl nofun nofun⟩, trivial⟩
  · rintro _ ⟨⟩
    decide
  · rintro _ ⟨⟩
    rfl
  · rintro _ ⟨⟩
    rfl
  · rintro _ ⟨⟩
    rfl

theorem relayEvents_run : (system id).RunWith RelayGuard new relayEvents
    ((system id).execute new relayEvents) := by
  rw [relayEvents, System.execute_append]
  apply unsubmittedEvents_run.append
  apply System.Admits.runWith
  refine ⟨⟨⟨rfl, List.nodup_singleton _,
        stalled_singleton unsubmittedEvents_run (by decide) ⟨nofun, rfl⟩⟩,
      relayGuard_of_ne rfl nofun nofun⟩, ⟨⟨_, _, rfl⟩, relayGuard_of_ne rfl nofun nofun⟩,
    ⟨trivial, relayGuard_soleAnswer rfl ?_⟩, ⟨⟨_, _, rfl⟩, relayGuard_of_ne rfl nofun nofun⟩,
    ⟨⟨_, _, _, rfl⟩, relayGuard_of_ne rfl nofun nofun⟩,
    ⟨trivial, relayGuard_soleAnswer rfl ?_⟩, ⟨⟨_, _, rfl⟩, relayGuard_of_ne rfl nofun nofun⟩,
    trivial⟩
  · rintro _ ⟨⟩
    rfl
  · rintro _ ⟨⟩
    rfl

/-- An instance of `dense_relay_composes`: two tokens over two shards, one of them
asked twice for the second token. -/
theorem dense_relay_composes_sole :
    (∀ pipeline, ((system id).execute new relayEvents).pipelines "r" = some pipeline →
      pipeline.generatedTokenIds.length = pipeline.tokenIndex) ∧
    ∃ row, .createSubmission row true ∈
        sent id ((system id).execute new relayEvents) ⟨soleRegistry, .submitted 4 true true⟩ "r" ∧
      hexDecode row.responseHex = some (responseBytes [5, 6]) := by
  have run : (system id).RunWith (DenseRelay soleReplies "r") new relayEvents
      ((system id).execute new relayEvents) := by
    apply relayEvents_run.strengthen (I := TicketsFresh) ticketsFresh_new
    intro state stimulus fresh enabled met
    exact ⟨fresh.next enabled, met.2 (oneByOne_of_settled fresh met.1)⟩
  obtain ⟨lengths, rows⟩ := dense_relay_composes run
  have effects : ∃ row,
      sent id ((system id).execute new relayEvents) ⟨soleRegistry, .submitted 4 true true⟩ "r" =
        [.advanced 4 "r", .createSubmission row true] := ⟨_, rfl⟩
  rcases effects with ⟨row, effects⟩
  have created : .createSubmission row true ∈
      sent id ((system id).execute new relayEvents) ⟨soleRegistry, .submitted 4 true true⟩ "r" := by
    rw [effects]
    exact List.mem_cons_of_mem _ List.mem_cons_self
  rcases rows ⟨soleRegistry, .submitted 4 true true⟩ row true ⟨_, _, _, rfl⟩ created with
    ⟨claim, ⟨⟩, tokens, isTokens, -, response, -⟩
  have both : tokens = [5, 6] := isTokens.trans (by decide)
  exact ⟨lengths, row, created, both ▸ response⟩

end Runs

end ShardEngine

end StratumBridge.Shard
