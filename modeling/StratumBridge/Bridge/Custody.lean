import StratumBridge.Bridge.World

/-!
# Every step is a step of the custody

One event of the bridge does to a request what one action does to the custody
of a job, so runs of the bridge project to runs of the custody.
-/

namespace StratumBridge.Bridge.World

open Data Rpc Wire Transition Shard Speculative

variable {sha256 : Digest} {world : World} {stimulus : Stimulus} {requestId : RequestId}
variable {inserts : RequestId → List (NewSubmission × Bool)}

/-! ## What `create_submission` does to the custody -/

theorem custody_persist_nil (silent : inserts requestId = []) :
    (persist inserts world).custody requestId = world.custody requestId := by
  simp [custody, persist, silent]
  exact ⟨rfl, rfl⟩

theorem custody_persist_stored {row : NewSubmission} (stores : inserts requestId = [(row, true)]) :
    (persist inserts world).custody requestId =
      { world.custody requestId with recorded := true, active := true } := by
  simp [custody, persist, stores]
  exact ⟨rfl, rfl⟩

theorem custody_persist_unstored {row : NewSubmission}
    (writes : inserts requestId = [(row, false)]) :
    (persist inserts world).custody requestId =
      { world.custody requestId with writing := true } := by
  simp [custody, persist, writes]
  exact ⟨rfl, rfl⟩

/-! ## Steps of the engines -/

/-- A turn of one engine that starts nothing is an action of the custody. -/
theorem accounts_of_turn (owner : Owner) {α : Type} {starts drops : Prop} {before after : Option α}
    {stepped : World} (turn : Turn starts drops before after (inserts requestId))
    (notStarts : ¬ starts) (held : world.holds requestId owner = before.isSome)
    (steps : stepped.custody requestId = { world.custody requestId with
      owned := Function.update (world.holds requestId) owner after.isSome })
    (loses : drops → world.Loses requestId stimulus owner) :
    ∃ action, (world.custody requestId).enabled action ∧
      world.Explains requestId stimulus action ∧
      (persist inserts stepped).custody requestId = (world.custody requestId).next action := by
  generalize asked : inserts requestId = asks at turn
  cases turn with
  | stays same =>
      refine ⟨.rest, trivial, trivial, ?_⟩
      rw [custody_persist_nil asked, steps, same, ← held, Function.update_eq_self]
      rfl
  | starts starting => exact absurd starting notStarts
  | drops dropping =>
      refine ⟨.lose owner false, held, loses dropping, ?_⟩
      rw [custody_persist_nil asked, steps, Custody.next, Bool.or_false]
      rfl
  | @finishes holding row stored unstored =>
      cases stored with
      | true =>
          refine ⟨.finish owner, held, trivial, ?_⟩
          rw [custody_persist_stored asked, steps]
          rfl
      | false =>
          refine ⟨.lose owner true, held, loses (unstored rfl), ?_⟩
          rw [custody_persist_unstored asked, steps, Custody.next, Bool.or_true]
          rfl

/-- Away from the starts, an event of the speculative engine is an action of
the custody. -/
theorem accounts_speculative {registry : MinerRegistry} {event : Speculative.Event}
    (enabled : world.enabled sha256 ⟨registry, .speculative event⟩) (requestId : RequestId) :
    ∃ action, Accounts sha256 world requestId ⟨registry, .speculative event⟩ action := by
  rcases enabled with ⟨routed, offered, -⟩
  have change := SpeculativeEngine.next_change_sent sha256 offered requestId
  apply accounts_of_turn .speculative (change.turn rfl)
  · intro starts
    cases event with
    | startPipeline => exact routed
    | _ => exact starts
  · rfl
  · simp only [custody]
    congr 1
    funext owner
    cases owner <;> simp [holds]
  · exact fun drops => ⟨event, rfl, drops⟩

/-- Only a claim for the request hands it over. -/
theorem handOver_pipelines (registry : MinerRegistry) {event : Shard.Event}
    (notClaims : ¬ world.shard.Claims requestId true event) :
    (world.handOver registry event).pipelines requestId =
      world.speculative.pipelines requestId := by
  unfold handOver
  split
  · rename_i req rest manifest promptHex graph source polling
    have other : requestId ≠ req.requestId := by
      rintro rfl
      exact notClaims ⟨rfl, req, rest, manifest, promptHex, graph, source, polling, rfl⟩
    rcases SpeculativeEngine.startPipeline_change id registry req.requestId manifest
      (ShardEngine.denseShards graph) req.maxTokens promptHex req.promptHash source with
      ⟨_, _, acts, -⟩
    exact acts.pipelines_of_ne other
  · rfl

/-- A claim that went through starts the request at one of the engines. -/
theorem accounts_claim {registry : MinerRegistry} {event : Shard.Event} {eligible : Bool}
    (sound : world.Sound) (enabled : world.enabled sha256 ⟨registry, .shard event⟩)
    (claims : world.shard.Claims requestId eligible event) :
    ∃ action, Accounts sha256 world requestId ⟨registry, .shard event⟩ action := by
  rcases enabled with ⟨routed, offered, -⟩
  obtain ⟨taken, plain, silent⟩ := claims.turn sha256 offered sound.tickets
  rcases claims with ⟨rfl, req, rest, manifest, promptHex, graph, source, polling, rfl⟩
  have waits : (world.shard.promptCache req.requestId).isSome = true := by
    rw [Option.isSome_iff_ne_none]
    apply sound.prompts
    rw [polling]
    rfl
  have eligibility := routed req rest manifest promptHex graph source polling
  cases eligible with
  | true =>
      have started := SpeculativeEngine.isSome_startPipeline req.requestId eligibility.symm
        (ShardEngine.denseShards graph) req.maxTokens promptHex req.promptHash
        source
      refine ⟨.start .speculative, waits, trivial, ?_⟩
      refine (custody_persist_nil silent).trans ?_
      simp only [custody, taken, Custody.next, handOver, polling]
      congr 1
      funext owner
      cases owner with
      | plain => simpa [holds] using plain
      | speculative => simpa [holds] using started
  | false =>
      refine ⟨.start .plain, waits, trivial, ?_⟩
      refine (custody_persist_nil silent).trans ?_
      simp only [custody, taken, Custody.next, handOver]
      congr 1
      funext owner
      cases owner with
      | plain => simpa [holds] using plain
      | speculative => simp [holds]

/-- The intake of a prompt posts its request. -/
theorem accounts_post (world : World) (sha256 : Digest) (registry : MinerRegistry)
    (requestId : RequestId) (promptHex : String) :
    Accounts sha256 world requestId ⟨registry, .shard (.receivePrompt requestId promptHex)⟩
      .post := by
  have silent : world.shardInserts sha256 registry (.receivePrompt requestId promptHex)
      requestId = [] := by
    have nothing : ShardEngine.sent sha256 world.shard
        ⟨registry, .receivePrompt requestId promptHex⟩ requestId = [] := List.drop_length
    rw [shardInserts, nothing]
    rfl
  refine ⟨trivial, ⟨promptHex, rfl⟩, ?_⟩
  refine (custody_persist_nil silent).trans ?_
  have cached : ((ShardEngine.next sha256 world.shard
      ⟨registry, .receivePrompt requestId promptHex⟩).promptCache requestId).isSome = true :=
    congrArg Option.isSome (PartialMap.insert_self ..)
  simp only [custody, cached, takeIn, List.mem_cons, true_or, decide_true]
  rfl

theorem mem_takeIn {event : Shard.Event} {intake : List RequestId}
    (notPost : ¬ ∃ promptHex, event = .receivePrompt requestId promptHex) :
    requestId ∈ takeIn event intake ↔ requestId ∈ intake := by
  unfold takeIn
  split
  · rename_i target promptHex
    have ne : requestId ≠ target := by
      rintro rfl
      exact notPost ⟨promptHex, rfl⟩
    simp [ne]
  · rfl

/-- Every event of the shard engine is an action of the custody. -/
theorem accounts_shard {registry : MinerRegistry} {event : Shard.Event}
    (sound : world.Sound) (enabled : world.enabled sha256 ⟨registry, .shard event⟩)
    (requestId : RequestId) :
    ∃ action, Accounts sha256 world requestId ⟨registry, .shard event⟩ action := by
  by_cases claims : ∃ eligible, world.shard.Claims requestId eligible event
  · rcases claims with ⟨eligible, claims⟩
    exact accounts_claim sound enabled claims
  · push Not at claims
    by_cases posts : ∃ promptHex, event = .receivePrompt requestId promptHex
    · rcases posts with ⟨promptHex, rfl⟩
      exact ⟨.post, accounts_post world sha256 registry requestId promptHex⟩
    · rcases enabled with ⟨-, offered, -⟩
      have change := ShardEngine.next_change_sent sha256 offered sound.tickets requestId
      have handed := handOver_pipelines registry (claims true)
      have cached : (ShardEngine.next sha256 world.shard ⟨registry, event⟩).promptCache requestId =
          world.shard.promptCache requestId := by
        rcases ShardEngine.next_promptCache sha256 world.shard ⟨registry, event⟩ requestId with
          same | ⟨promptHex, post, -⟩ | ⟨eligible, claim, -⟩
        · exact same
        · exact absurd ⟨promptHex, post⟩ posts
        · exact absurd claim (claims eligible)
      apply accounts_of_turn .plain (change.turn rfl) (claims false) rfl
      · simp only [custody, cached, mem_takeIn posts]
        congr 1
        funext owner
        cases owner with
        | plain => simp [holds]
        | speculative => simp [holds, handed]
      · exact fun drops => ⟨event, rfl, drops⟩

/-! ## Steps of the table -/

theorem custody_withRows (world : World) (requestId target : RequestId) (rows : List Submission) :
    ({ world with rows := Function.update world.rows target rows } : World).custody requestId =
      if requestId = target then
        { world.custody requestId with
          recorded := !rows.isEmpty
          active := rows.any fun row => !row.failed }
      else world.custody requestId := by
  split
  · rename_i same
    subst same
    simp only [custody, Function.update_self]
    rfl
  · rename_i ne
    simp only [custody, Function.update_of_ne ne]
    rfl

theorem custody_withWrites (world : World) (requestId target : RequestId)
    (writes : List NewSubmission) :
    ({ world with writes := Function.update world.writes target writes } : World).custody
        requestId =
      if requestId = target then { world.custody requestId with writing := !writes.isEmpty }
      else world.custody requestId := by
  split
  · rename_i same
    subst same
    simp only [custody, Function.update_self]
    rfl
  · rename_i ne
    simp only [custody, Function.update_of_ne ne]
    rfl

/-- A row more makes the request recorded and active. -/
theorem custody_recorded (world : World) (row : NewSubmission) (requestId : RequestId) :
    ({ world with
        rows := Function.update world.rows row.requestId
          (world.rows row.requestId ++ [⟨row, false⟩]) } : World).custody requestId =
      if requestId = row.requestId then
        { world.custody requestId with recorded := true, active := true }
      else world.custody requestId := by
  have nonempty : (world.rows row.requestId ++ [Submission.mk row false]).isEmpty = false :=
    List.isEmpty_eq_false_iff.mpr (by simp)
  rw [custody_withRows, nonempty]
  simp

theorem accounts_recorded (world : World) (sha256 : Digest) (registry : MinerRegistry)
    (row : NewSubmission) (requestId : RequestId) :
    ∃ action, Accounts sha256 world requestId ⟨registry, .recorded row⟩ action := by
  by_cases own : requestId = row.requestId
  · refine ⟨.record, trivial, ⟨row, rfl, own.symm⟩, ?_⟩
    exact (custody_recorded world row requestId).trans (if_pos own)
  · refine ⟨.rest, trivial, trivial, ?_⟩
    exact (custody_recorded world row requestId).trans (if_neg own)

theorem accounts_answered {registry : MinerRegistry} {row : NewSubmission} {stored : Bool}
    (enabled : world.enabled sha256 ⟨registry, .answered row stored⟩) (requestId : RequestId) :
    ∃ action, Accounts sha256 world requestId ⟨registry, .answered row stored⟩ action := by
  rcases enabled with ⟨-, inFlight, -⟩
  let left := (world.writes row.requestId).erase row
  let settled : World := { world with writes := Function.update world.writes row.requestId left }
  have after : (next sha256 world ⟨registry, .answered row stored⟩).custody requestId =
      if requestId = row.requestId then
        (world.custody requestId).next (.answer stored (!left.isEmpty))
      else world.custody requestId := by
    cases stored with
    | false =>
        refine (custody_withWrites world requestId row.requestId left).trans ?_
        simp [Custody.next]
    | true =>
        refine (custody_recorded settled row requestId).trans ?_
        rw [custody_withWrites]
        split <;> simp [Custody.next]
  by_cases own : requestId = row.requestId
  · have writing : (world.custody requestId).writing = true := by
      rw [own]
      simpa [custody] using List.ne_nil_of_mem inFlight
    exact ⟨.answer stored (!left.isEmpty), writing, trivial, after.trans (if_pos own)⟩
  · exact ⟨.rest, trivial, trivial, after.trans (if_neg own)⟩

theorem accounts_failed (world : World) (sha256 : Digest) (registry : MinerRegistry)
    (target requestId : RequestId) :
    ∃ action, Accounts sha256 world requestId ⟨registry, .failed target⟩ action := by
  have after := custody_withRows world requestId target
    ((world.rows target).map fun row => { row with failed := true })
  by_cases own : requestId = target
  · refine ⟨.withdraw false, nofun, trivial, after.trans ?_⟩
    subst own
    simp [custody, Custody.next]
  · exact ⟨.rest, trivial, trivial, after.trans (if_neg own)⟩

/-! ## Projection -/

/-- Every step of the bridge is a step of the custody of a request. -/
theorem accounts_next (sound : world.Sound) (enabled : world.enabled sha256 stimulus)
    (requestId : RequestId) : ∃ action, Accounts sha256 world requestId stimulus action := by
  rcases stimulus with ⟨registry, event⟩
  cases event with
  | shard event => exact accounts_shard sound enabled requestId
  | speculative event => exact accounts_speculative enabled requestId
  | answered row stored => exact accounts_answered enabled requestId
  | recorded row => exact accounts_recorded world sha256 registry row requestId
  | failed target => exact accounts_failed world sha256 registry target requestId

/-- A run of the bridge is a run of the custody of a request, guarded as its
steps are. -/
theorem custody_run {draftSources : PartialMap String DraftModelSource}
    {guard : World → Stimulus → Prop} {seen : Custody Owner → Custody.Action Owner → Prop}
    {events : List Stimulus} (run : (system sha256).RunWith guard (new draftSources) events world)
    (sees : ∀ world stimulus action, guard world stimulus →
      world.Explains requestId stimulus action → seen (world.custody requestId) action) :
    ∃ actions, (Custody.system Owner).RunWith seen Custody.new actions
      (world.custody requestId) := by
  rw [← custody_new draftSources requestId]
  apply run.project (fun world => world.custody requestId) (sound_new draftSources)
  intro world stimulus sound enabled guarded
  obtain ⟨action, admitted, explains, moves⟩ := accounts_next sound enabled requestId
  exact ⟨sound.next enabled, action, admitted, sees world stimulus action guarded explains, moves⟩

end StratumBridge.Bridge.World
