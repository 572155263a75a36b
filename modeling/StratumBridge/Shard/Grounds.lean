import StratumBridge.Shard.Dense

/-!
# What the engine rests on

Whatever the order in which handlers, ticks, disconnects and restarts of a
request interleave, the engine makes nothing up.  A result is accepted only
from a wallet that was sent a line of the request; what is submitted for a
shard is the hash of an accepted result; experts are asked for what an accepted
result selected; and a row goes to a wallet of which a result was accepted,
with a response of tokens that accepted results answered.
-/

namespace StratumBridge.Shard

open Data Rpc Wire Transition
open ShardEngine (routerVerdict)

/-- A wallet was sent a line. -/
def Asked (history : List Effect) (wallet : Wallet) : Prop :=
  ∃ tx assign, .shardAssign wallet tx assign ∈ history

/-- A result of a wallet was accepted. -/
def Delivered (history : List Effect) (wallet : Wallet) (result : OpoiShardResult) : Prop :=
  ∃ ticket, .accepted ticket wallet result ∈ history

/-- A token was answered by an accepted result. -/
def Answered (history : List Effect) (tokenId : TokenId) : Prop :=
  ∃ wallet result, Delivered history wallet result ∧ result.nextTokenId = some tokenId

/-- The experts asked are those an accepted result selected, and its wallet is
none of them. -/
def Selected (history : List Effect) (request : JoinRequest) : Prop :=
  ∃ wallet result expertIds, Delivered history wallet result ∧
    routerVerdict expertIds result = .selected request.experts ∧
    request.excludeWallets = [wallet]

/-- A row pays a wallet of which a result was accepted, for a response of tokens
that were answered. -/
structure RowGrounded (sha256 : Digest) (history : List Effect) (row : NewSubmission) : Prop where
  earned : ∃ result, Delivered history row.minerWallet result
  response : ∃ tokenIds, (row.responseHash, row.responseHex) = buildResponse sha256 tokenIds ∧
    row.tokenCount = tokenIds.length % 2 ^ 32 ∧ ∀ tokenId ∈ tokenIds, Answered history tokenId

/-- What an effect rests on in the history before it. -/
def Effect.RestsOn (sha256 : Digest) : Effect → List Effect → Prop
  | accepted _ wallet _, earlier => Asked earlier wallet
  | submitShard _ shardIndex outputHash, earlier =>
      ∃ wallet result, Delivered earlier wallet result ∧ result.shardIndex = shardIndex ∧
        result.outputHash = outputHash
  | joinRequested _ request, earlier => Selected earlier request
  | createSubmission row _, earlier => RowGrounded sha256 earlier row
  | _, _ => True

/-- The wallets and tokens of a pipeline come from its history. -/
structure PipelineState.Grounded (pipeline : PipelineState) (history : List Effect) : Prop where
  pinned : ∀ layerIdx wallet, pipeline.moeLayerWalk = some (layerIdx, wallet) →
    Asked history wallet
  counted : ∀ wallet ∈ pipeline.contributions, ∃ result, Delivered history wallet result
  tokens : ∀ tokenId ∈ pipeline.generatedTokenIds, Answered history tokenId

/-- A handler works on an accepted result, and asks for the experts it
selected. -/
structure Call.Grounded (call : Call) (history : List Effect) : Prop where
  delivered : Delivered history call.wallet call.result
  selected : ∀ step, call = .sizing step →
    ∃ expertIds, routerVerdict expertIds step.result = .selected step.experts

/-- What the engine keeps about a request comes from its history. -/
structure RequestGrounded (sha256 : Digest) (requestId : RequestId) (history : List Effect)
    (pipeline : Option PipelineState) (assigned : Option ShardAssignment)
    (calls : PartialMap Ticket Call) : Prop where
  justified : Justified (Effect.RestsOn sha256) history
  pipeline : ∀ current, pipeline = some current → current.Grounded history
  assigned : ∀ assignment, assigned = some assignment → Asked history assignment.wallet
  calls : ∀ ticket call, calls ticket = some call → call.requestId = requestId →
    call.Grounded history

/-! ## A longer history -/

section Longer

variable {history longer : List Effect}

theorem Asked.mono {wallet : Wallet} (asked : Asked history wallet) (grown : history ⊆ longer) :
    Asked longer wallet := by
  rcases asked with ⟨tx, assign, mem⟩
  exact ⟨tx, assign, grown mem⟩

theorem Delivered.mono {wallet : Wallet} {result : OpoiShardResult}
    (delivered : Delivered history wallet result) (grown : history ⊆ longer) :
    Delivered longer wallet result := by
  rcases delivered with ⟨ticket, mem⟩
  exact ⟨ticket, grown mem⟩

theorem Answered.mono {tokenId : TokenId} (answered : Answered history tokenId)
    (grown : history ⊆ longer) : Answered longer tokenId := by
  rcases answered with ⟨wallet, result, delivered, answer⟩
  exact ⟨wallet, result, delivered.mono grown, answer⟩

theorem PipelineState.Grounded.mono {pipeline : PipelineState}
    (grounded : pipeline.Grounded history) (grown : history ⊆ longer) :
    pipeline.Grounded longer := by
  constructor
  · exact fun layerIdx wallet walk => (grounded.pinned layerIdx wallet walk).mono grown
  · intro wallet mem
    rcases grounded.counted wallet mem with ⟨result, delivered⟩
    exact ⟨result, delivered.mono grown⟩
  · exact fun tokenId mem => (grounded.tokens tokenId mem).mono grown

theorem Call.Grounded.mono {call : Call} (grounded : call.Grounded history)
    (grown : history ⊆ longer) : call.Grounded longer :=
  ⟨grounded.delivered.mono grown, grounded.selected⟩

end Longer

/-! ## Steps of a pipeline -/

namespace PipelineState

variable {history : List Effect} {pipeline : PipelineState}

theorem grounded_initialPipeline (req : OpoiRequest) (manifest : ModelManifest)
    (graph : ModelGraph) (promptHex : String) :
    (ShardEngine.initialPipeline req manifest graph promptHex).Grounded history := by
  constructor
  · rintro layerIdx wallet ⟨⟩
  · intro wallet mem
    exact absurd mem Std.TreeMap.not_mem_emptyc
  · rintro tokenId ⟨⟩

/-- The wallet of an accepted result may be counted. -/
theorem Grounded.contribute {wallet : Wallet} {result : OpoiShardResult}
    (grounded : pipeline.Grounded history) (delivered : Delivered history wallet result) :
    (ShardEngine.contribute wallet pipeline).Grounded history := by
  constructor
  · exact grounded.pinned
  · intro other mem
    rcases Contributions.mem_credit.mp mem with rfl | counted
    · exact ⟨result, delivered⟩
    · exact grounded.counted other counted
  · exact grounded.tokens

/-- The token of an accepted result may join the response. -/
theorem Grounded.recordToken {wallet : Wallet} {result : OpoiShardResult} {tokenId : TokenId}
    (grounded : pipeline.Grounded history) (delivered : Delivered history wallet result)
    (answer : result.nextTokenId = some tokenId) :
    (ShardEngine.recordToken pipeline tokenId).Grounded history := by
  constructor
  · exact grounded.pinned
  · exact grounded.counted
  · intro other mem
    rcases List.mem_append.mp mem with earlier | last
    · exact grounded.tokens other earlier
    · rw [List.mem_singleton.mp last]
      exact ⟨wallet, result, delivered, answer⟩

theorem Grounded.nextToken (grounded : pipeline.Grounded history) (tokenId : TokenId) :
    (ShardEngine.nextToken pipeline tokenId).Grounded history := by
  constructor
  · rintro layerIdx wallet ⟨⟩
  · exact grounded.counted
  · exact grounded.tokens

theorem Grounded.nextShard (grounded : pipeline.Grounded history) (output : ShardOutputWire) :
    (ShardEngine.nextShard pipeline output).Grounded history := by
  constructor
  · rintro layerIdx wallet ⟨⟩
  · exact grounded.counted
  · exact grounded.tokens

theorem Grounded.nextLayer (grounded : pipeline.Grounded history) (layerIdx : Nat)
    (output : ShardOutputWire) :
    (ShardEngine.nextLayer pipeline layerIdx output).Grounded history := by
  constructor
  · intro layer wallet walk
    obtain ⟨⟨earlier, pinned⟩, found, same⟩ := Option.map_eq_some_iff.mp walk
    cases same
    exact grounded.pinned earlier _ found
  · exact grounded.counted
  · exact grounded.tokens

end PipelineState

namespace ShardEngine

/-! ## Dispatches -/

section Dispatches

variable {registry : MinerRegistry} {last : Option Wallet} {requestId : RequestId}
variable {source : ModelSource} {pipeline : PipelineState}

/-- The wallet of a walk opened by a dispatch is sent its line. -/
theorem asked_of_dispatched {after : PipelineState} {layerIdx : Nat} {wallet : Wallet}
    (stored : dispatched registry last pipeline = some after)
    (walk : after.moeLayerWalk = some (layerIdx, wallet)) :
    pipeline.moeLayerWalk = some (layerIdx, wallet) ∨
      Asked (dispatchLines registry last requestId source pipeline) wallet := by
  unfold dispatched at stored
  split at stored
  · cases stored
    exact .inl walk
  · rename_i shard found
    split at stored
    · split at stored
      · cases stored
        exact .inl walk
      · cases stored
    · rename_i resting
      split at stored
      · cases stored
        exact .inl walk
      · rename_i picked next
        cases stored
        unfold openWalk at walk
        split at walk
        · cases walk
          rcases (MinerRegistry.eligible_of_pickNext next).1 with ⟨tx, channel⟩
          right
          simp only [Asked, dispatchLines, found, resting, next, channel, Option.bind_some,
            Option.map_some, Option.toList_some]
          exact ⟨tx, _, List.mem_singleton_self _⟩
        · exact .inl walk

/-- The wallet assigned by a dispatch is sent its line. -/
theorem asked_of_assignedBy {assigned : Option ShardAssignment} {assignment : ShardAssignment}
    (stored : assignedBy registry last assigned pipeline = some assignment) :
    assigned = some assignment ∨
      Asked (dispatchLines registry last requestId source pipeline) assignment.wallet := by
  unfold assignedBy at stored
  split at stored
  · exact .inl stored
  · rename_i shard found
    split at stored
    · rename_i layerIdx pinned walk
      obtain ⟨tx, channel, same⟩ := Option.map_eq_some_iff.mp stored
      cases same
      right
      simp only [Asked, dispatchLines, found, walk, channel]
      exact ⟨tx, _, List.mem_singleton_self _⟩
    · rename_i resting
      split at stored
      · exact .inl stored
      · rename_i wallet next
        split at stored
        · exact .inl stored
        · rename_i tx channel
          cases stored
          right
          simp only [Asked, dispatchLines, found, resting, next, channel, Option.bind_some,
            Option.map_some, Option.toList_some]
          exact ⟨tx, _, List.mem_singleton_self _⟩

/-- A dispatch leaves everything else of a pipeline alone. -/
theorem same_of_dispatched {after : PipelineState}
    (stored : dispatched registry last pipeline = some after) :
    after.contributions = pipeline.contributions ∧
      after.generatedTokenIds = pipeline.generatedTokenIds := by
  unfold dispatched at stored
  split at stored
  · cases stored
    exact ⟨rfl, rfl⟩
  · split at stored
    · split at stored
      · cases stored
        exact ⟨rfl, rfl⟩
      · cases stored
    · split at stored
      · cases stored
        exact ⟨rfl, rfl⟩
      · cases stored
        unfold openWalk
        split <;> exact ⟨rfl, rfl⟩

end Dispatches

end ShardEngine

/-! ## Steps of a request -/

section Steps

open ShardEngine

variable {sha256 : Digest} {requestId : RequestId} {history emitted : List Effect}
variable {pipeline : PipelineState} {before later : Option PipelineState}
variable {assigned left : Option ShardAssignment} {calls after : PartialMap Ticket Call}

/-- Effects that say nothing new. -/
theorem RequestGrounded.append
    (grounded : RequestGrounded sha256 requestId history before assigned calls)
    (needless : ∀ effect ∈ emitted, ∀ earlier, effect.RestsOn sha256 earlier) :
    RequestGrounded sha256 requestId (history ++ emitted) before assigned calls := by
  have grown : history ⊆ history ++ emitted := List.subset_append_left ..
  constructor
  · exact grounded.justified.append needless
  · exact fun current present => (grounded.pipeline current present).mono grown
  · exact fun assignment present => (grounded.assigned assignment present).mono grown
  · exact fun ticket call parked about => (grounded.calls ticket call parked about).mono grown

/-- An effect that has its reason. -/
theorem RequestGrounded.snoc (effect : Effect)
    (grounded : RequestGrounded sha256 requestId history before assigned calls)
    (holds : effect.RestsOn sha256 history) :
    RequestGrounded sha256 requestId (history ++ [effect]) before assigned calls := by
  have grown : history ⊆ history ++ [effect] := List.subset_append_left ..
  constructor
  · exact grounded.justified.snoc holds
  · exact fun current present => (grounded.pipeline current present).mono grown
  · exact fun assignment present => (grounded.assigned assignment present).mono grown
  · exact fun ticket call parked about => (grounded.calls ticket call parked about).mono grown

theorem restsOn_of_isLine {effect : Effect} (earlier : List Effect)
    (line : effect.isLine = true) : effect.RestsOn sha256 earlier := by
  cases effect with
  | shardAssign => trivial
  | dropped => trivial
  | panicked => trivial
  | _ => cases line

theorem RequestGrounded.drop
    (grounded : RequestGrounded sha256 requestId history before assigned calls) :
    RequestGrounded sha256 requestId history none assigned calls :=
  { grounded with pipeline := by rintro current ⟨⟩ }

theorem RequestGrounded.store
    (grounded : RequestGrounded sha256 requestId history before assigned calls)
    (known : pipeline.Grounded history) :
    RequestGrounded sha256 requestId history (some pipeline) assigned calls where
  justified := grounded.justified
  pipeline := by
    rintro current ⟨⟩
    exact known
  assigned := grounded.assigned
  calls := grounded.calls

theorem RequestGrounded.unassign
    (grounded : RequestGrounded sha256 requestId history before assigned calls) :
    RequestGrounded sha256 requestId history before none calls :=
  { grounded with assigned := by rintro assignment ⟨⟩ }

/-- A handler may be parked on an accepted result. -/
theorem RequestGrounded.park {ticket : Ticket} {call : Option Call}
    (grounded : RequestGrounded sha256 requestId history before assigned calls)
    (known : ∀ parked, call = some parked → parked.Grounded history) :
    RequestGrounded sha256 requestId history before assigned (setCall calls ticket call) where
  justified := grounded.justified
  pipeline := grounded.pipeline
  assigned := grounded.assigned
  calls := by
    intro other parked found about
    by_cases same : other = ticket
    · rw [same, setCall, Function.update_self] at found
      exact known parked found
    · rw [setCall, Function.update_of_ne same] at found
      exact grounded.calls other parked found about

theorem RequestGrounded.unpark {ticket : Ticket}
    (grounded : RequestGrounded sha256 requestId history before assigned calls) :
    RequestGrounded sha256 requestId history before assigned (setCall calls ticket none) :=
  grounded.park (by rintro parked ⟨⟩)

/-- A dispatch sends a line before it assigns. -/
theorem RequestGrounded.dispatch {registry : MinerRegistry} {last : Option Wallet}
    {source : ModelSource}
    (grounded : RequestGrounded sha256 requestId history (some pipeline) assigned calls) :
    RequestGrounded sha256 requestId
      (history ++ dispatchLines registry last requestId source pipeline)
      (dispatched registry last pipeline) (assignedBy registry last assigned pipeline) calls := by
  have longer : RequestGrounded sha256 requestId
      (history ++ dispatchLines registry last requestId source pipeline) (some pipeline) assigned
      calls := by
    apply grounded.append
    exact fun effect mem earlier => restsOn_of_isLine earlier (isLine_of_mem_dispatchLines mem)
  have sent : dispatchLines registry last requestId source pipeline ⊆
      history ++ dispatchLines registry last requestId source pipeline :=
    List.subset_append_right ..
  constructor
  · exact longer.justified
  · intro current stored
    have known := longer.pipeline pipeline rfl
    obtain ⟨contributions, generated⟩ := same_of_dispatched stored
    constructor
    · intro layerIdx wallet walk
      rcases asked_of_dispatched stored walk with walking | asked
      · exact known.pinned layerIdx wallet walking
      · exact asked.mono sent
    · rw [contributions]
      exact known.counted
    · rw [generated]
      exact known.tokens
  · intro assignment stored
    rcases asked_of_assignedBy stored with kept | asked
    · exact longer.assigned assignment kept
    · exact asked.mono sent
  · exact longer.calls

/-- The placeholder of an expert step names the pinned wallet. -/
theorem RequestGrounded.asked_of_markedBy {step : ExpertStep} {assignment : ShardAssignment}
    (grounded : RequestGrounded sha256 requestId history before assigned calls)
    (marked : markedBy step before assigned = some assignment) :
    Asked history assignment.wallet := by
  unfold markedBy at marked
  split at marked
  · rename_i layerIdx pinned walk
    cases marked
    obtain ⟨pipeline, present, walking⟩ := Option.bind_eq_some_iff.mp walk
    exact (grounded.pipeline pipeline present).pinned layerIdx pinned walking
  · exact grounded.assigned assignment marked

end Steps

namespace ShardEngine

section Outcomes

variable {sha256 : Digest} {requestId : RequestId} {history emitted : List Effect}
variable {pipeline : PipelineState} {before later : Option PipelineState}
variable {assigned left : Option ShardAssignment} {calls after : PartialMap Ticket Call}

/-- The look-up of experts works on an accepted result. -/
theorem ExpertOutcome.grounded {interior : Bool} {wallet : Wallet} {result : OpoiShardResult}
    {source : ModelSource} {expertIds : List Nat} {layerIdx : Nat} {call : Option Call}
    {ticket : Ticket}
    (outcome : ExpertOutcome interior wallet result source expertIds layerIdx pipeline later call
      emitted)
    (grounded : RequestGrounded sha256 requestId history (some pipeline) assigned calls)
    (delivered : Delivered history wallet result) :
    RequestGrounded sha256 requestId (history ++ emitted) later assigned
      (setCall calls ticket call) := by
  cases outcome with
  | absent verdict => exact grounded.unpark.snoc _ trivial
  | malformed verdict => exact grounded.drop.unpark.snoc _ trivial
  | panicked outside => exact grounded.unpark.snoc _ trivial
  | sizing isInterior sameWallet sameResult sameSource sameLayer verdict =>
      rename_i step
      rw [List.append_nil]
      apply grounded.park
      rintro parked ⟨⟩
      constructor
      · rwa [← sameWallet, ← sameResult] at delivered
      · rintro same ⟨⟩
        rw [← sameResult] at verdict
        exact ⟨expertIds, verdict⟩

/-- The completion of a step works on an accepted result. -/
theorem StepOutcome.grounded {registry : MinerRegistry} {last : Option Wallet} {ticket : Ticket}
    {wallet : Wallet} {result : OpoiShardResult} {source : ModelSource} {lastToken stored : Bool}
    {call : Option Call}
    (outcome : StepOutcome sha256 registry last assigned ticket wallet result source lastToken
      stored pipeline later left call emitted)
    (grounded : RequestGrounded sha256 requestId history (some pipeline) assigned calls)
    (delivered : Delivered history wallet result) (about : result.requestId = requestId) :
    RequestGrounded sha256 requestId (history ++ emitted) later left
      (setCall calls ticket call) := by
  have known := grounded.pipeline pipeline rfl
  cases outcome with
  | unanswered lastShard answer => exact grounded.drop.unpark.snoc _ trivial
  | finalized lastShard answer isLast wins =>
      rename_i tokenId winner
      have advanced : RequestGrounded sha256 requestId
          (history ++ [.advanced ticket result.requestId]) (some pipeline) assigned calls :=
        grounded.snoc _ trivial
      have recorded := (known.recordToken delivered answer).mono
        (List.subset_append_left history [.advanced ticket result.requestId])
      rw [List.append_cons]
      apply advanced.drop.unpark.snoc
      constructor
      · exact recorded.counted winner (Contributions.mem_of_winner wins)
      · exact ⟨(recordToken pipeline tokenId).generatedTokenIds, rfl, rfl, recorded.tokens⟩
  | unattributed lastShard answer isLast nobody =>
      apply grounded.drop.unpark.append
      simp [Effect.RestsOn]
  | nextToken lastShard answer notLast =>
      rename_i tokenId
      rw [List.append_cons, about]
      have moved := grounded.store ((known.recordToken delivered answer).nextToken tokenId)
      exact (moved.snoc (.advanced ticket requestId) trivial).dispatch.unpark
  | nextShard notLastShard dense =>
      rw [List.append_cons, about]
      have moved := grounded.store (known.nextShard result.output)
      exact (moved.snoc (.advanced ticket requestId) trivial).dispatch.unpark
  | experts notLastShard group outcome => exact outcome.grounded grounded delivered

/-- What the engine keeps about a request comes from its history after every
event. -/
theorem Change.grounded {engine : ShardEngine} {stimulus : Stimulus}
    (change : Change sha256 engine requestId stimulus before later left after emitted)
    (grounded : RequestGrounded sha256 requestId history before (engine.assignments requestId)
      engine.calls) :
    RequestGrounded sha256 requestId (history ++ emitted) later left after := by
  cases change with
  | idle fewer kept =>
      rw [List.append_nil]
      constructor
      · exact grounded.justified
      · exact grounded.pipeline
      · intro assignment present
        rcases fewer with same | gone
        · exact grounded.assigned assignment (same ▸ present)
        · rw [gone] at present
          cases present
      · exact fun ticket call parked about =>
          grounded.calls ticket call ((kept ticket call about).mp parked) about
  | rejected about => exact grounded.snoc _ trivial
  | orphaned about assigned =>
      rename_i registry wallet result
      have heard : RequestGrounded sha256 requestId
          (history ++ [.accepted engine.nextTicket wallet result]) none
          (engine.assignments requestId) engine.calls :=
        grounded.snoc _ (grounded.assigned _ assigned)
      rw [List.append_cons]
      exact heard.unassign.snoc _ trivial
  | accepted about assigned =>
      rename_i registry wallet result pipeline
      have heard : RequestGrounded sha256 requestId
          (history ++ [.accepted engine.nextTicket wallet result]) (some pipeline)
          (engine.assignments requestId) engine.calls :=
        grounded.snoc _ (grounded.assigned _ assigned)
      apply heard.unassign.park
      rintro parked ⟨⟩
      constructor
      · exact ⟨engine.nextTicket, List.mem_append_right _ (List.mem_singleton_self _)⟩
      · rintro step ⟨⟩
  | unresolved parked about => exact grounded.unpark.snoc _ trivial
  | lost parked about quiet =>
      rcases quiet with rfl | rfl
      · rw [List.append_nil]
        exact grounded.drop.unpark
      · exact grounded.drop.unpark.snoc _ trivial
  | misplaced parked about outside =>
      have delivered := (grounded.calls _ _ parked about).delivered
      have known := (grounded.pipeline _ rfl).contribute delivered
      exact (grounded.store known).unpark.snoc _ trivial
  | ungrouped parked about resumes dense => exact grounded.drop.unpark.snoc _ trivial
  | interior parked about layer found resumes group outcome =>
      have delivered := (grounded.calls _ _ parked about).delivered
      have known := (grounded.pipeline _ rfl).contribute delivered
      exact outcome.grounded (grounded.store known) delivered
  | submitting parked about lastToken finishes =>
      have delivered := (grounded.calls _ _ parked about).delivered
      have known := (grounded.pipeline _ rfl).contribute delivered
      have noted := (grounded.store known).snoc (.submitShard requestId _ _)
        ⟨_, _, delivered, rfl, rfl⟩
      apply noted.park
      rintro other ⟨⟩
      constructor
      · exact delivered.mono (List.subset_append_left ..)
      · rintro step ⟨⟩
  | completed parked about notLastToken outcome finishes =>
      have delivered := (grounded.calls _ _ parked about).delivered
      have known := (grounded.pipeline _ rfl).contribute delivered
      exact outcome.grounded (grounded.store known) delivered about
  | unsubmitted parked about => exact grounded.unpark.snoc _ trivial
  | submitted parked about outcome =>
      exact outcome.grounded grounded (grounded.calls _ _ parked about).delivered about
  | sized parked about =>
      rename_i registry ticket minVramMb step
      have known := grounded.calls _ _ parked about
      obtain ⟨expertIds, verdict⟩ := known.selected step rfl
      have marked : RequestGrounded sha256 requestId history before
          (markedBy step before (engine.assignments requestId)) engine.calls := by
        constructor
        · exact grounded.justified
        · exact grounded.pipeline
        · exact fun assignment present => grounded.asked_of_markedBy present
        · exact grounded.calls
      have noted := marked.snoc (.joinRequested ticket (joinRequest step (minVramMb.getD 0)))
        ⟨step.wallet, step.result, expertIds, known.delivered, verdict, rfl⟩
      apply noted.park
      rintro other ⟨⟩
      constructor
      · exact known.delivered.mono (List.subset_append_left ..)
      · rintro again ⟨⟩
  | unjoined parked about => exact grounded.unassign.unpark.snoc _ trivial
  | abandoned parked about => simpa using grounded.unpark
  | walked parked about isInterior joinable =>
      rename_i registry ticket output step pipeline
      rw [List.append_cons]
      have moved := grounded.store ((grounded.pipeline _ rfl).nextLayer step.layerIdx output)
      exact (moved.snoc (.walked ticket requestId) trivial).dispatch.unpark
  | handedOver parked about isBoundary joinable =>
      rename_i registry ticket output step pipeline
      rw [List.append_cons]
      have moved := grounded.store ((grounded.pipeline _ rfl).nextShard output)
      exact (moved.snoc (.advanced ticket requestId) trivial).dispatch.unpark
  | redispatched polling => exact grounded.dispatch
  | delegated polling about => exact grounded.snoc _ trivial
  | started polling about =>
      rename_i registry req rest manifest promptHex graph source
      rw [List.append_cons]
      have moved := grounded.store
        (PipelineState.grounded_initialPipeline req manifest graph promptHex)
      exact (moved.snoc (.started requestId) trivial).dispatch

end Outcomes

/-! ## Runs -/

section Runs

variable {sha256 : Digest} {engine : ShardEngine} {events : List Stimulus}

theorem requestGrounded_of_run (run : (system sha256).Run new events engine)
    (requestId : RequestId) :
    engine.TicketsFresh ∧
      RequestGrounded sha256 requestId (engine.history requestId) (engine.pipelines requestId)
        (engine.assignments requestId) engine.calls := by
  apply run.invariant (I := fun engine => engine.TicketsFresh ∧
    RequestGrounded sha256 requestId (engine.history requestId) (engine.pipelines requestId)
      (engine.assignments requestId) engine.calls)
  · refine ⟨ticketsFresh_new, ?_⟩
    constructor
    · exact justified_nil
    · rintro current ⟨⟩
    · rintro assignment ⟨⟩
    · rintro ticket call ⟨⟩
  · rintro state stimulus ⟨fresh, grounded⟩ enabled -
    have change := (next_change_sent sha256 enabled fresh requestId).grounded grounded
    rw [← history_next sha256 enabled fresh] at change
    exact ⟨fresh.next enabled, change⟩

/-- However handlers, ticks and disconnects interleave, everything in the
history of a request rests on what is before it. -/
theorem justified_of_run (run : (system sha256).Run new events engine) (requestId : RequestId) :
    Justified (Effect.RestsOn sha256) (engine.history requestId) :=
  (requestGrounded_of_run run requestId).2.justified

/-- The relay of two tokens, with its last submission. -/
def soleRun : List Stimulus :=
  relayEvents ++ [⟨soleRegistry, .submitted 4 true true⟩]

/-- An instance of `justified_of_run`: the row of the request, and the miner it
goes to. -/
theorem justified_of_run_sole :
    ∃ row earlier, ((system id).execute new soleRun).history "r" =
        earlier ++ [.createSubmission row true] ∧
      row.minerWallet = "miner" ∧ RowGrounded id earlier row := by
  have run : (system id).Run new soleRun ((system id).execute new soleRun) := by
    rw [soleRun, System.execute_append]
    exact relayEvents_run.run.snoc ⟨_, _, _, rfl⟩ trivial
  have recorded : ∃ row earlier, ((system id).execute new soleRun).history "r" =
      earlier ++ [.createSubmission row true] ∧ row.minerWallet = "miner" :=
    ⟨_, ((system id).execute new relayEvents).history "r" ++ [.advanced 4 "r"], rfl, rfl⟩
  rcases recorded with ⟨row, earlier, history, paid⟩
  exact ⟨row, earlier, history, paid, justified_of_run run "r" earlier _ [] history⟩

end Runs

end ShardEngine

end StratumBridge.Shard
