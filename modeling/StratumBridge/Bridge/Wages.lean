import StratumBridge.Bridge.Recipients
import StratumBridge.Opoi.Grounds
import StratumBridge.Payout.Once
import StratumBridge.Shard.Drops
import StratumBridge.Shard.Grounds
import StratumBridge.Speculative.Drops
import StratumBridge.Speculative.Grounds

/-!
# Wages

The three engines beside the treasury.  An engine that has a response asks the database
for a row; the row is stored then, or later, or not at all, whatever the engine hears of
it, and the treasury pays for what it finds in the table.  The process may stop at any
time, and a new one starts with empty engines; the table remains.  So whoever is paid has
worked for it, in this process or in one before.
-/

namespace StratumBridge.Lifecycle

open Data Wire

/-- `mark_paid` leaves a row as it was created. -/
theorem Database.keepsColumn_markPaid {db after : Database} {requestIds : List RequestId}
    {txid : String} (marked : db.markPaid requestIds txid = some after) :
    KeepsColumn Submission.toNewSubmission db after := by
  intro id
  obtain ⟨submissions, updated, ⟨⟩⟩ := Option.bind_eq_some_iff.mp marked
  rw [Table.find?_updateWhere updated, Option.map_map]
  congr 1
  funext row
  rw [Function.comp_apply]
  split <;> rfl

end StratumBridge.Lifecycle

namespace StratumBridge.Payout.Treasury

open Data Wire Lifecycle Transition

variable {config : Config} {treasury : Treasury} {event : Event}

/-- A row was created just now, or it stood there as it was created. -/
theorem created_or_stood {id : SubmissionId} {kept : Submission}
    (found : (treasury.next config event).db.submissions.find? id = some kept) :
    (∃ outcome, event = .service (.create kept.toNewSubmission outcome)) ∨
      ∃ row, treasury.db.submissions.find? id = some row ∧
        kept.toNewSubmission = row.toNewSubmission := by
  have lifecycle (event : Lifecycle.Event)
      (stands : (treasury.service.next config.pool event).db.submissions.find? id = some kept) :
      (∃ outcome, event = .create kept.toNewSubmission outcome) ∨
        ∃ row, treasury.db.submissions.find? id = some row ∧
          kept.toNewSubmission = row.toNewSubmission := by
    cases (Service.writes_next config.pool treasury.service event).origin stands with
    | stood before created reward => exact .inr ⟨_, before, created⟩
    | published ticking isEntry before created rewarded => exact .inr ⟨_, before, created⟩
    | created isEvent isNext created active unrewarded =>
        subst created
        exact .inl ⟨_, isEvent⟩
  cases event with
  | service event =>
      rcases lifecycle event found with ⟨outcome, rfl⟩ | stood
      · exact .inl ⟨outcome, rfl⟩
      · exact .inr stood
  | requestFetched price =>
      simp only [next, requestFetched] at found
      split at found
      · rcases lifecycle _ found with ⟨outcome, same⟩ | stood
        · cases same
        · exact .inr stood
      · exact .inr ⟨kept, found, rfl⟩
  | withhold requestId => exact .inr ⟨kept, found, rfl⟩
  | unpaidListed unpaid => cases unpaid <;> exact .inr ⟨kept, found, rfl⟩
  | sent answer =>
      simp only [next, sent] at found
      split at found <;> exact .inr ⟨kept, found, rfl⟩
  | marked outcome =>
      simp only [next, marked] at found
      split at found
      · rename_i unpaid txid marking
        have keeps : KeepsColumn Submission.toNewSubmission treasury.db (outcome.settle
            (treasury.db.markPaid (config.terms.batchOf unpaid).requestIds txid)
            treasury.db) := by
          apply Outcome.settle_of
          · exact Database.keepsColumn_of_submissions_eq rfl
          · exact fun after ran => Database.keepsColumn_markPaid ran
        obtain ⟨row, stood, created⟩ := keeps.exists_before found
        exact .inr ⟨row, stood, created.symm⟩
      · exact .inr ⟨kept, found, rfl⟩

/-- A row of a tick was one before, or it stands in the table. -/
theorem unpaid_next (enabled : treasury.enabled event) {entry : SubmissionId × Submission}
    (mem : entry ∈ (treasury.next config event).tick.unpaid) :
    entry ∈ treasury.tick.unpaid ∨
      treasury.db.submissions.find? entry.1 = some entry.2 := by
  cases event with
  | service event =>
      cases event with
      | crash => cases mem
      | _ => exact .inl mem
  | requestFetched price =>
      simp only [next, requestFetched] at mem
      split at mem <;> exact .inl mem
  | withhold requestId => exact .inl mem
  | unpaidListed unpaid =>
      cases unpaid with
      | none => exact .inl mem
      | some unpaid =>
          simp only [next] at mem
          split at mem
          · cases mem
          · exact .inr (of_mem_listed enabled.2.2 mem).1
  | sent answer =>
      simp only [next, sent] at mem
      split at mem
      · rename_i unpaid txid sending
        left
        rw [sending]
        exact mem
      · cases mem
      · cases mem
      · exact .inl mem
  | marked outcome =>
      simp only [next, marked] at mem
      split at mem
      · cases mem
      · exact .inl mem

end StratumBridge.Payout.Treasury

namespace StratumBridge.Shard

open Data Wire Transition

variable {sha256 : Digest} {history longer : List Effect} {wallet : Wallet}
variable {result : OpoiShardResult} {row : NewSubmission}

theorem asked_of_delivered (justified : Justified (Effect.RestsOn sha256) history)
    (delivered : Delivered history wallet result) : Asked history wallet := by
  obtain ⟨ticket, mem⟩ := delivered
  obtain ⟨earlier, later, rfl⟩ := List.append_of_mem mem
  have asked : Asked earlier wallet := justified earlier _ later rfl
  exact asked.mono (List.subset_append_left ..)

theorem RowGrounded.mono (grounded : RowGrounded sha256 history row) (grown : history ⊆ longer) :
    RowGrounded sha256 longer row := by
  obtain ⟨result, delivered⟩ := grounded.earned
  obtain ⟨tokenIds, built, count, answered⟩ := grounded.response
  exact ⟨⟨result, delivered.mono grown⟩, tokenIds, built, count,
    fun tokenId mem => (answered tokenId mem).mono grown⟩

/-- A row that was recorded has its reason. -/
theorem rowGrounded_of_mem {stored : Bool}
    (justified : Justified (Effect.RestsOn sha256) history)
    (mem : .createSubmission row stored ∈ history) : RowGrounded sha256 history row := by
  obtain ⟨earlier, later, rfl⟩ := List.append_of_mem mem
  have grounded : RowGrounded sha256 earlier row := justified earlier _ later rfl
  exact grounded.mono (List.subset_append_left ..)

end StratumBridge.Shard

namespace StratumBridge.Speculative

open Data Wire Transition

variable {sha256 : Digest} {history longer : List Effect} {wallet : Wallet}
variable {result : OpoiShardResult} {row : NewSubmission}

theorem asked_of_accepted (justified : Justified (Effect.RestsOn sha256) history)
    (mem : .accepted wallet result ∈ history) : Asked history wallet := by
  obtain ⟨earlier, later, rfl⟩ := List.append_of_mem mem
  have asked : Asked earlier wallet := justified earlier _ later rfl
  exact asked.mono (List.subset_append_left ..)

theorem RowGrounded.mono (grounded : RowGrounded sha256 history row) (grown : history ⊆ longer) :
    RowGrounded sha256 longer row := by
  obtain ⟨result, delivered⟩ := grounded.earned
  obtain ⟨tokenIds, built, count, predicted⟩ := grounded.response
  exact ⟨⟨result, grown delivered⟩, tokenIds, built, count,
    fun tokenId mem => (predicted tokenId mem).mono grown⟩

theorem rowGrounded_of_mem {stored : Bool}
    (justified : Justified (Effect.RestsOn sha256) history)
    (mem : .createSubmission row stored ∈ history) : RowGrounded sha256 history row := by
  obtain ⟨earlier, later, rfl⟩ := List.append_of_mem mem
  have grounded : RowGrounded sha256 earlier row := justified earlier _ later rfl
  exact grounded.mono (List.subset_append_left ..)

end StratumBridge.Speculative

namespace StratumBridge.Bridge

open Data Wire Transition Lifecycle Payout Opoi Shard Speculative

/-! ## One process -/

/-- The engines of a process. -/
structure Process where
  plain : OpoiEngine
  shard : ShardEngine
  speculative : SpeculativeEngine

/-- What can happen to an engine. -/
inductive ProcessEvent
  | plain (stimulus : Opoi.Stimulus)
  | shard (stimulus : Shard.Stimulus)
  | speculative (stimulus : Speculative.Stimulus)

namespace Process

/-- The engines as a process starts with them. -/
def new (draftSources : PartialMap String DraftModelSource) : Process :=
  ⟨.new, .new, .new draftSources⟩

/-- One event. -/
def next (sha256 : Digest) (process : Process) : ProcessEvent → Process
  | .plain stimulus => { process with plain := OpoiEngine.next sha256 process.plain stimulus }
  | .shard stimulus => { process with shard := ShardEngine.next sha256 process.shard stimulus }
  | .speculative stimulus =>
      { process with
        speculative := SpeculativeEngine.next sha256 process.speculative stimulus }

/-- The engine offers the event; no engine restarts alone. -/
def enabled (process : Process) : ProcessEvent → Prop
  | .plain stimulus => stimulus.event ≠ .restart ∧ process.plain.enabled stimulus
  | .shard stimulus => process.shard.enabled stimulus
  | .speculative stimulus => process.speculative.enabled stimulus

/-- The row that a result has passed its checks for. -/
def creating (ticket : Ticket) (engine : OpoiEngine) : Option NewSubmission :=
  match engine.calls ticket with
  | some (.creating row) => some row
  | _ => none

/-- The rows that an event asks the database for. -/
def asks (sha256 : Digest) (process : Process) : ProcessEvent → List NewSubmission
  | .plain ⟨registry, .checked ticket active⟩ =>
      (creating ticket
        (OpoiEngine.next sha256 process.plain ⟨registry, .checked ticket active⟩)).toList
  | .plain _ => []
  | .shard stimulus =>
      ((ShardEngine.next sha256 process.shard stimulus).log.drop
        process.shard.log.length).filterMap fun effect => effect.insertion.map Prod.fst
  | .speculative stimulus =>
      ((SpeculativeEngine.next sha256 process.speculative stimulus).log.drop
        process.speculative.log.length).filterMap fun effect => effect.insertion.map Prod.fst

/-- The wallet of a row has worked for its request: it was sent the request and the row
has the hash of its bytes, or it was sent a line of a pipeline, a result of it was
accepted, and the response is made of tokens that accepted results answered. -/
inductive Earned (sha256 : Digest) (process : Process) (row : NewSubmission) : Prop
  | plain (asked : Opoi.Asked process.plain.log row.minerWallet row.requestId)
      (sound : Opoi.Sound sha256 row)
  | shard (asked : Shard.Asked (process.shard.history row.requestId) row.minerWallet)
      (grounded : Shard.RowGrounded sha256 (process.shard.history row.requestId) row)
  | speculative
      (asked : Speculative.Asked (process.speculative.history row.requestId) row.minerWallet)
      (grounded : Speculative.RowGrounded sha256
        (process.speculative.history row.requestId) row)

/-- What the engines keep comes from their histories. -/
structure Grounded (sha256 : Digest) (process : Process) : Prop where
  plain : process.plain.Grounded sha256
  fresh : process.shard.TicketsFresh
  shard : ∀ requestId, Shard.RequestGrounded sha256 requestId (process.shard.history requestId)
    (process.shard.pipelines requestId) (process.shard.assignments requestId)
    process.shard.calls
  speculative : ∀ requestId, process.speculative.RequestGrounded sha256 requestId

variable {sha256 : Digest} {process : Process} {event : ProcessEvent} {row : NewSubmission}

theorem grounded_new (sha256 : Digest) (draftSources : PartialMap String DraftModelSource) :
    (new draftSources).Grounded sha256 where
  plain := OpoiEngine.grounded_new
  fresh := ShardEngine.ticketsFresh_new
  shard := fun requestId => (ShardEngine.requestGrounded_of_run .nil requestId).2
  speculative := fun _ => SpeculativeEngine.requestGrounded_of_run .nil

/-- No pipeline of the speculative engine is started while a draft for its request is in
flight. -/
def Undrafted (process : Process) : ProcessEvent → Prop
  | .speculative stimulus =>
      ∀ requestId, SpeculativeEngine.Undrafted requestId process.speculative stimulus
  | _ => True

theorem Grounded.next (grounded : process.Grounded sha256) (enabled : process.enabled event)
    (undrafted : process.Undrafted event) : (process.next sha256 event).Grounded sha256 := by
  cases event with
  | plain stimulus =>
      exact ⟨grounded.plain.next, grounded.fresh, grounded.shard, grounded.speculative⟩
  | shard stimulus =>
      refine ⟨grounded.plain, grounded.fresh.next enabled, ?_, grounded.speculative⟩
      intro requestId
      have change := (ShardEngine.next_change_sent sha256 enabled grounded.fresh
        requestId).grounded (grounded.shard requestId)
      rwa [← ShardEngine.history_next sha256 enabled grounded.fresh] at change
  | speculative stimulus =>
      exact ⟨grounded.plain, grounded.fresh, grounded.shard,
        fun requestId => (grounded.speculative requestId).next enabled (undrafted requestId)⟩

/-- What was earned stays so. -/
theorem Earned.next (earned : process.Earned sha256 row) (fresh : process.shard.TicketsFresh)
    (enabled : process.enabled event) : (process.next sha256 event).Earned sha256 row := by
  cases event with
  | plain stimulus =>
      cases earned with
      | plain asked sound =>
          obtain ⟨added, extended, -⟩ := OpoiEngine.next_recipients process.plain stimulus
          have grown : process.plain.log ⊆ (OpoiEngine.next sha256 process.plain stimulus).log := by
            rw [extended]
            exact List.subset_append_left ..
          exact .plain (asked.mono grown) sound
      | shard asked grounded => exact .shard asked grounded
      | speculative asked grounded => exact .speculative asked grounded
  | shard stimulus =>
      cases earned with
      | plain asked sound => exact .plain asked sound
      | shard asked grounded =>
          have grown : process.shard.history row.requestId ⊆
              (ShardEngine.next sha256 process.shard stimulus).history row.requestId := by
            rw [ShardEngine.history_next sha256 enabled fresh]
            exact List.subset_append_left ..
          exact .shard (asked.mono grown) (grounded.mono grown)
      | speculative asked grounded => exact .speculative asked grounded
  | speculative stimulus =>
      cases earned with
      | plain asked sound => exact .plain asked sound
      | shard asked grounded => exact .shard asked grounded
      | speculative asked grounded =>
          obtain ⟨emitted, extended, -⟩ :=
            SpeculativeEngine.next_change sha256 enabled row.requestId
          have grown : process.speculative.history row.requestId ⊆
              (SpeculativeEngine.next sha256 process.speculative stimulus).history
                row.requestId := by
            rw [extended]
            exact List.subset_append_left ..
          exact .speculative (asked.mono grown) (grounded.mono grown)

/-- The rows that an event asks for are earned. -/
theorem Grounded.earned_of_asks (grounded : (process.next sha256 event).Grounded sha256)
    (mem : row ∈ process.asks sha256 event) : (process.next sha256 event).Earned sha256 row := by
  cases event with
  | plain stimulus =>
      rcases stimulus with ⟨registry, event⟩
      cases event with
      | checked ticket active =>
          have found := Option.mem_toList.mp mem
          unfold creating at found
          split at found
          · rename_i parked
            cases found
            have known : Opoi.Call.Grounded sha256 _ (.creating row) :=
              grounded.plain.calls ticket _ parked
            exact .plain known.1 known.2
          · cases found
      | _ => cases mem
  | shard stimulus =>
      obtain ⟨effect, added, inserts⟩ := List.mem_filterMap.mp mem
      cases effect with
      | createSubmission created stored =>
          cases inserts
          have justified := (grounded.shard created.requestId).justified
          have recorded : .createSubmission created stored ∈
              (process.next sha256 (.shard stimulus)).shard.history created.requestId :=
            List.mem_filter.mpr ⟨List.mem_of_mem_drop added, decide_eq_true rfl⟩
          have earned := rowGrounded_of_mem justified recorded
          obtain ⟨result, delivered⟩ := earned.earned
          exact .shard (asked_of_delivered justified delivered) earned
      | _ => cases inserts
  | speculative stimulus =>
      obtain ⟨effect, added, inserts⟩ := List.mem_filterMap.mp mem
      cases effect with
      | createSubmission created stored =>
          cases inserts
          have justified := (grounded.speculative created.requestId).justified
          have recorded : .createSubmission created stored ∈
              (process.next sha256 (.speculative stimulus)).speculative.history created.requestId :=
            List.mem_filter.mpr ⟨List.mem_of_mem_drop added, decide_eq_true rfl⟩
          have earned := rowGrounded_of_mem justified recorded
          obtain ⟨result, delivered⟩ := earned.earned
          exact .speculative (asked_of_accepted justified delivered) earned
      | _ => cases inserts

end Process

/-! ## The processes and the treasury -/

/-- The process that runs, those that have stopped, the rows that the database was asked
for and has not taken yet, and the treasury with the table. -/
structure Works where
  process : Process
  stopped : List Process
  inserts : List NewSubmission
  treasury : Treasury

/-- What can happen to them. -/
inductive WorksEvent
  | process (event : ProcessEvent)
  | treasury (event : Payout.Event)
  | restart

namespace Works

variable {sha256 : Digest} {draftSources : PartialMap String DraftModelSource}

/-- Before the first start. -/
def new (draftSources : PartialMap String DraftModelSource) : Works :=
  ⟨.new draftSources, [], [], .new⟩

/-- The requests for rows that are left after an event of the treasury. -/
def left (inserts : List NewSubmission) : Payout.Event → List NewSubmission
  | .service (.create row _) => inserts.erase row
  | _ => inserts

theorem left_subset (inserts : List NewSubmission) (event : Payout.Event) :
    left inserts event ⊆ inserts := by
  unfold left
  split
  · exact List.erase_subset
  · exact List.Subset.refl _

/-- One event. -/
def next (sha256 : Digest) (config : Config) (draftSources : PartialMap String DraftModelSource)
    (works : Works) : WorksEvent → Works
  | .process event =>
      { works with
        process := works.process.next sha256 event
        inserts := works.inserts ++ works.process.asks sha256 event }
  | .treasury event =>
      { works with
        inserts := left works.inserts event
        treasury := works.treasury.next config event }
  | .restart =>
      { process := .new draftSources
        stopped := works.process :: works.stopped
        inserts := []
        treasury := works.treasury.next config (.service .crash) }

/-- The engines run once the recovery pass is over; a row is created only for an engine
that asked for it. -/
def enabled (works : Works) : WorksEvent → Prop
  | .process event => works.treasury.service.phase = .serving ∧ works.process.enabled event
  | .treasury event =>
      works.treasury.enabled event ∧ event ≠ .service .crash ∧
        ∀ row outcome, event = .service (.create row outcome) → row ∈ works.inserts
  | .restart => True

/-- The processes and the treasury as a system of events. -/
def system (sha256 : Digest) (config : Config)
    (draftSources : PartialMap String DraftModelSource) : System Works WorksEvent where
  enabled := enabled
  next := next sha256 config draftSources

/-- The condition on a step: no pipeline of the speculative engine is started while a
draft for its request is in flight. -/
def Undrafted (works : Works) : WorksEvent → Prop
  | .process event => works.process.Undrafted event
  | _ => True

/-- The wallet of a row has worked for it, in this process or in one before. -/
def Earned (sha256 : Digest) (works : Works) (row : NewSubmission) : Prop :=
  ∃ process ∈ works.process :: works.stopped, process.Earned sha256 row

/-- The invariant: every row was earned, be it asked for, stored, or about to be paid. -/
structure Honest (sha256 : Digest) (works : Works) : Prop where
  grounded : works.process.Grounded sha256
  inserts : ∀ row ∈ works.inserts, works.Earned sha256 row
  rows : ∀ id row, works.treasury.db.submissions.find? id = some row →
    works.Earned sha256 row.toNewSubmission
  unpaid : ∀ entry ∈ works.treasury.tick.unpaid, works.Earned sha256 entry.2.toNewSubmission

theorem honest_new (sha256 : Digest) (draftSources : PartialMap String DraftModelSource) :
    (new draftSources).Honest sha256 where
  grounded := Process.grounded_new sha256 draftSources
  inserts := fun _ mem => by cases mem
  rows := fun _ _ found => by cases found
  unpaid := fun _ mem => by cases mem

variable {config : Config} {works : Works}

theorem Honest.process (honest : works.Honest sha256) {event : ProcessEvent}
    (enabled : works.process.enabled event) (undrafted : works.process.Undrafted event) :
    (next sha256 config draftSources works (.process event)).Honest sha256 := by
  have grounded := honest.grounded.next enabled undrafted
  have still : ∀ row, works.Earned sha256 row →
      (next sha256 config draftSources works (.process event)).Earned sha256 row := by
    rintro row ⟨process, mem, earned⟩
    rcases List.mem_cons.mp mem with rfl | before
    · exact ⟨_, List.mem_cons_self, earned.next honest.grounded.fresh enabled⟩
    · exact ⟨process, List.mem_cons_of_mem _ before, earned⟩
  constructor
  · exact grounded
  · intro row mem
    rcases List.mem_append.mp mem with waiting | asked
    · exact still row (honest.inserts row waiting)
    · exact ⟨_, List.mem_cons_self, grounded.earned_of_asks asked⟩
  · exact fun id row found => still _ (honest.rows id row found)
  · exact fun entry mem => still _ (honest.unpaid entry mem)

/-- An event of the treasury creates only rows that were asked for. -/
theorem Honest.settle (config : Config) (honest : works.Honest sha256) {event : Payout.Event}
    (enabled : works.treasury.enabled event)
    (asked : ∀ row outcome, event = .service (.create row outcome) → row ∈ works.inserts) :
    (∀ id row, (works.treasury.next config event).db.submissions.find? id = some row →
      works.Earned sha256 row.toNewSubmission) ∧
    ∀ entry ∈ (works.treasury.next config event).tick.unpaid,
      works.Earned sha256 entry.2.toNewSubmission := by
  constructor
  · intro id kept found
    rcases Treasury.created_or_stood found with ⟨outcome, created⟩ | ⟨row, stood, same⟩
    · exact honest.inserts _ (asked _ outcome created)
    · rw [same]
      exact honest.rows id row stood
  · intro entry mem
    rcases Treasury.unpaid_next enabled mem with before | stands
    · exact honest.unpaid entry before
    · exact honest.rows _ _ stands

theorem Honest.next (honest : works.Honest sha256) {event : WorksEvent}
    (enabled : works.enabled event) (undrafted : works.Undrafted event) :
    (next sha256 config draftSources works event).Honest sha256 := by
  cases event with
  | process event => exact honest.process enabled.2 undrafted
  | treasury event =>
      obtain ⟨rows, unpaid⟩ := honest.settle config enabled.1 enabled.2.2
      refine ⟨honest.grounded, ?_, rows, unpaid⟩
      intro row mem
      apply honest.inserts row
      exact left_subset works.inserts event mem
  | restart =>
      have crash : works.treasury.enabled (.service .crash) := ⟨nofun, trivial⟩
      obtain ⟨rows, unpaid⟩ := honest.settle config crash (by rintro row outcome ⟨⟩)
      have still : ∀ row, works.Earned sha256 row →
          (Works.next sha256 config draftSources works .restart).Earned sha256 row := by
        rintro row ⟨process, mem, earned⟩
        exact ⟨process, List.mem_cons_of_mem _ mem, earned⟩
      constructor
      · exact Process.grounded_new sha256 draftSources
      · exact fun row mem => by cases mem
      · exact fun id row found => still _ (rows id row found)
      · exact fun entry mem => still _ (unpaid entry mem)

/-- However the engines, the database, the payout loop and the stops of the process
interleave: whatever a wallet is sent is the sum of its rows' rewards, less the fee, and
for each of these rows it has worked. -/
theorem wages_earned {events : List WorksEvent}
    (run : (system sha256 config draftSources).RunWith Undrafted (new draftSources) events works)
    {unpaid : List (SubmissionId × Lifecycle.Submission)} {wallet : Wallet} {amount : Rat}
    (sending : works.treasury.tick = .sending unpaid)
    (paid : (wallet, amount) ∈ (config.terms.batchOf unpaid).amounts) :
    amount = (rewardsOf (unpaid.map Prod.snd) wallet).sum * config.terms.feeFactor ∧
      (∃ entry ∈ unpaid, entry.2.minerWallet = wallet) ∧
      ∀ entry ∈ unpaid, entry.2.minerWallet = wallet →
        works.Earned sha256 entry.2.toNewSubmission := by
  have honest := run.invariant (I := Honest sha256) (honest_new sha256 draftSources)
    fun _ _ honest enabled undrafted => honest.next enabled undrafted
  have unpaidEarned := honest.unpaid
  rw [sending] at unpaidEarned
  refine ⟨amount_eq paid, ?_, fun entry mem _ => unpaidEarned entry mem⟩
  obtain ⟨⟨_, _, ids⟩, payable, ⟨⟩⟩ := List.mem_map.mp paid
  obtain ⟨requestId, listed⟩ := List.exists_mem_of_ne_nil _ (mem_payable.mp payable).1
  obtain ⟨row, mem, owner, -⟩ := mem_requestsOf.mp listed
  obtain ⟨entry, read, rfl⟩ := List.mem_map.mp mem
  exact ⟨entry, read, owner⟩

/-! ## An example deployment -/

/-- The row of the miner that answers request `"r"` and leaves. -/
def minerRow : NewSubmission where
  minerWallet := "miner"
  requestId := "r"
  model := some "model"
  promptHash := some "prompt-hash"
  responseHash := "00"
  responseHex := "00"
  tokenCount := 1

/-- The process starts. -/
def startEvents : List Payout.Event :=
  [.service (.boot []), .service .serve]

/-- The row is stored, committed and revealed. -/
def revealedEvents : List Payout.Event :=
  [.service (.create minerRow .done),
    .service (.commit 1 (.answered "a" (.ok Service.soleCommit))),
    .service (.commit 1 (.written .done)), .service (.commit 1 (.written .done)),
    .service (.tickBegin 9 [[⟨1, 1, "a", "n", "r", "00", 1⟩]]),
    .service (.revealAnswered (.accepted "x")), .service (.tickWritten .done),
    .service (.tickWritten .done)]

/-- The treasury with the revealed row. -/
def revealedTreasury : Treasury :=
  (Treasury.system Treasury.soleConfig).execute .new (startEvents ++ revealedEvents)

/-- The row is published, and its reward recorded. -/
def publishedEvents : List Payout.Event :=
  [.service (.listed (some revealedTreasury.db.listRevealedUnpublished)),
    .service (.contentSubmitted true), .requestFetched true, .service (.tickWritten .done)]

/-- The treasury with the published row. -/
def publishedTreasury : Treasury :=
  (Treasury.system Treasury.soleConfig).execute revealedTreasury publishedEvents

/-- The miner is asked and answers, and its row gets as far as its publication; then the
process stops, and the next one pays. -/
def paidLater : List WorksEvent :=
  startEvents.map .treasury ++
    (OpoiEngine.leavingEvents.take 8).map (.process ∘ .plain) ++
    (revealedEvents ++ publishedEvents).map .treasury ++ [.restart] ++
    startEvents.map .treasury ++
    [.treasury (.unpaidListed (some (publishedTreasury.db.listUnpaidPublished [])))]

theorem paidLater_run : (system id Treasury.soleConfig PartialMap.empty).RunWith Undrafted
    (new PartialMap.empty) paidLater
    ((system id Treasury.soleConfig PartialMap.empty).execute (new PartialMap.empty)
      paidLater) := by
  apply System.Admits.runWith
  exact ⟨
    -- the start
    ⟨⟨⟨nofun, rfl, .refl _⟩, nofun, nofun⟩, trivial⟩, ⟨⟨⟨nofun, rfl, rfl⟩, nofun, nofun⟩, trivial⟩,
    -- the engine
    ⟨⟨rfl, nofun, trivial⟩, trivial⟩, ⟨⟨rfl, nofun, _, _, _, _, rfl⟩, trivial⟩,
    ⟨⟨rfl, nofun, rfl⟩, trivial⟩, ⟨⟨rfl, nofun, rfl⟩, trivial⟩,
    ⟨⟨rfl, nofun, rfl, List.nodup_singleton _,
      OpoiEngine.mem_sole_iff rfl (by decide) rfl fun _ ne => PartialMap.insert_of_ne _ _ ne⟩,
      trivial⟩,
    ⟨⟨rfl, nofun, _, _, rfl⟩, trivial⟩, ⟨⟨rfl, nofun, trivial⟩, trivial⟩,
    ⟨⟨rfl, nofun, _, _, rfl⟩, trivial⟩,
    -- the row
    ⟨⟨⟨nofun, rfl⟩, nofun, by rintro row outcome ⟨⟩; exact List.mem_cons_self⟩, trivial⟩,
    ⟨⟨⟨nofun, _, rfl, List.mem_singleton_self "a"⟩, nofun, nofun⟩, trivial⟩,
    ⟨⟨⟨nofun, _, rfl, trivial⟩, nofun, nofun⟩, trivial⟩,
    ⟨⟨⟨nofun, _, rfl, trivial⟩, nofun, nofun⟩, trivial⟩,
    ⟨⟨⟨nofun, rfl, rfl, by constructor <;> decide⟩, nofun, nofun⟩, trivial⟩,
    ⟨⟨⟨nofun, _, _, _, rfl⟩, nofun, nofun⟩, trivial⟩,
    ⟨⟨⟨nofun, rfl⟩, nofun, nofun⟩, trivial⟩, ⟨⟨⟨nofun, rfl⟩, nofun, nofun⟩, trivial⟩,
    ⟨⟨⟨nofun, rfl, .refl _⟩, nofun, nofun⟩, trivial⟩,
    ⟨⟨⟨nofun, _, _, rfl⟩, nofun, nofun⟩, trivial⟩, ⟨⟨⟨_, _, rfl⟩, nofun, nofun⟩, trivial⟩,
    ⟨⟨⟨nofun, rfl⟩, nofun, nofun⟩, trivial⟩,
    -- the next process
    ⟨trivial, trivial⟩,
    ⟨⟨⟨nofun, rfl, .refl _⟩, nofun, nofun⟩, trivial⟩, ⟨⟨⟨nofun, rfl, rfl⟩, nofun, nofun⟩, trivial⟩,
    ⟨⟨⟨rfl, rfl, .refl _⟩, nofun, nofun⟩, trivial⟩, trivial⟩

/-- An instance of `wages_earned`: the miner is paid two for its row. -/
theorem wages_earned_later :
    let finish := (system id Treasury.soleConfig PartialMap.empty).execute
      (new PartialMap.empty) paidLater
    ∃ unpaid, finish.treasury.tick = .sending unpaid ∧
      (Treasury.soleConfig.terms.batchOf unpaid).amounts = [("miner", 2)] ∧
      ∀ entry ∈ unpaid, entry.2.minerWallet = "miner" →
        finish.Earned id entry.2.toNewSubmission := by
  intro finish
  have amounts : (Treasury.soleConfig.terms.batchOf
      (publishedTreasury.db.listUnpaidPublished [])).amounts = [("miner", 2)] := by
    decide +kernel
  have sending : finish.treasury.tick =
      .sending (publishedTreasury.db.listUnpaidPublished []) := by
    have some : (Treasury.soleConfig.terms.batchOf
        (publishedTreasury.db.listUnpaidPublished [])).amounts ≠ [] := by
      rw [amounts]
      nofun
    simp only [finish, paidLater]
    rw [System.execute_append]
    exact if_neg some
  refine ⟨_, sending, amounts, ?_⟩
  have paid : ("miner", 2) ∈ (Treasury.soleConfig.terms.batchOf
      (publishedTreasury.db.listUnpaidPublished [])).amounts := by
    rw [amounts]
    exact List.mem_cons_self
  exact (wages_earned paidLater_run sending paid).2.2

end Works

end StratumBridge.Bridge
