import StratumBridge.Opoi.System
import StratumBridge.Transition.History

/-!
# What the whole-model engine rests on

However intakes, results, ticks, disconnects and restarts interleave, a row is
stored only for a wallet to which its request was pushed, and only with the
hash of the bytes it carries.  The wallet need not have the request any more:
it may have left, and the request gone to another, while its result waited for
the database.
-/

namespace StratumBridge.Opoi

open Data Rpc Wire Transition

/-- A request was pushed to a wallet. -/
def Asked (log : List Effect) (wallet : Wallet) (requestId : RequestId) : Prop :=
  ∃ tx assign, .assigned wallet tx assign ∈ log ∧ assign.requestId = requestId

/-- The hash of a row is that of its bytes. -/
def Sound (sha256 : Digest) (row : NewSubmission) : Prop :=
  ∃ raw, hexDecode row.responseHex = some raw ∧
    OpoiEngine.eqIgnoreAsciiCase (sha256Hex sha256 raw) row.responseHash = true

/-- What an effect rests on in the log before it. -/
def Effect.RestsOn (sha256 : Digest) : Effect → List Effect → Prop
  | accepted row, earlier => Asked earlier row.minerWallet row.requestId ∧ Sound sha256 row
  | _, _ => True

/-- A result under way is that of a wallet which was asked, and a row to be
stored has passed its checks. -/
def Call.Grounded (sha256 : Digest) (log : List Effect) : Call → Prop
  | fetching _ _ _ _ => True
  | checking wallet params => Asked log wallet params.requestId
  | creating row => Asked log row.minerWallet row.requestId ∧ Sound sha256 row

section Longer

variable {sha256 : Digest} {log longer : List Effect}

theorem Asked.mono {wallet : Wallet} {requestId : RequestId} (asked : Asked log wallet requestId)
    (grown : log ⊆ longer) : Asked longer wallet requestId := by
  rcases asked with ⟨tx, assign, mem, about⟩
  exact ⟨tx, assign, grown mem, about⟩

theorem Call.Grounded.mono {call : Call} (grounded : call.Grounded sha256 log)
    (grown : log ⊆ longer) : call.Grounded sha256 longer := by
  cases call with
  | fetching => trivial
  | checking => exact Asked.mono grounded grown
  | creating => exact ⟨grounded.1.mono grown, grounded.2⟩

end Longer

namespace OpoiEngine

variable {sha256 : Digest} {engine after : OpoiEngine} {stimulus : Stimulus}

/-- Who has a request, and whose result is under way, comes from the log. -/
structure Grounded (sha256 : Digest) (engine : OpoiEngine) : Prop where
  justified : Justified (Effect.RestsOn sha256) engine.log
  assignments : ∀ requestId wallet, engine.assignments requestId = some wallet →
    Asked engine.log wallet requestId
  calls : ∀ ticket call, engine.calls ticket = some call → call.Grounded sha256 engine.log

theorem grounded_new : new.Grounded sha256 where
  justified := justified_nil
  assignments := by rintro requestId wallet ⟨⟩
  calls := by rintro ticket call ⟨⟩

/-! ## Events that ask nobody -/

/-- Nobody is asked, no result gets under way, and the log says nothing that
needs a reason. -/
structure Idles (sha256 : Digest) (engine after : OpoiEngine) : Prop where
  log : ∃ effects, after.log = engine.log ++ effects ∧
    ∀ effect ∈ effects, ∀ earlier, effect.RestsOn sha256 earlier
  assignments : ∀ requestId wallet, after.assignments requestId = some wallet →
    engine.assignments requestId = some wallet
  calls : ∀ ticket call, after.calls ticket = some call →
    engine.calls ticket = some call ∨ ∀ earlier, call.Grounded sha256 earlier

theorem Grounded.of_idles (grounded : engine.Grounded sha256) (idles : Idles sha256 engine after) :
    after.Grounded sha256 := by
  obtain ⟨effects, extended, needless⟩ := idles.log
  have grown : engine.log ⊆ after.log := by
    rw [extended]
    exact List.subset_append_left ..
  constructor
  · rw [extended]
    exact grounded.justified.append needless
  · intro requestId wallet held
    exact (grounded.assignments requestId wallet
      (idles.assignments requestId wallet held)).mono grown
  · intro ticket call parked
    rcases idles.calls ticket call parked with older | always
    · exact (grounded.calls ticket call older).mono grown
    · exact always after.log

theorem idles_of_same (log : after.log = engine.log)
    (assignments : after.assignments = engine.assignments) (calls : after.calls = engine.calls) :
    Idles sha256 engine after where
  log := ⟨[], by rw [log, List.append_nil], by simp⟩
  assignments requestId wallet held := assignments ▸ held
  calls ticket call parked := .inl (calls ▸ parked)

/-- A handler returns, and the cache may change. -/
theorem idles_of_endCall {ticket : Ticket} (log : after.log = engine.log)
    (assignments : after.assignments = engine.assignments)
    (calls : after.calls = (engine.endCall ticket).calls) : Idles sha256 engine after where
  log := ⟨[], by rw [log, List.append_nil], by simp⟩
  assignments requestId wallet held := assignments ▸ held
  calls _ _ parked := .inl (calls_of_endCall (calls ▸ parked))

theorem idles_nextCandidate (engine : OpoiEngine) (candidates : List RequestId) :
    Idles sha256 engine (nextCandidate engine candidates) := by
  induction candidates with
  | nil => exact idles_of_same rfl rfl rfl
  | cons requestId rest ih =>
      simp only [nextCandidate]
      split
      · exact ih
      · split
        · exact ⟨⟨_, rfl, by simp [Effect.RestsOn]⟩, fun _ _ held => held,
            fun _ _ parked => .inl parked⟩
        · exact idles_of_same rfl rfl rfl

/-- An entry of the log that needs no reason. -/
theorem Idles.emit (idles : Idles sha256 engine after) (effect : Effect)
    (needless : ∀ earlier, effect.RestsOn sha256 earlier) :
    Idles sha256 engine (after.emit [effect]) := by
  obtain ⟨effects, extended, rest⟩ := idles.log
  refine ⟨⟨effects ++ [effect], ?_, ?_⟩, idles.assignments, idles.calls⟩
  · rw [OpoiEngine.emit, extended, List.append_assoc]
  · intro other mem
    rcases List.mem_append.mp mem with earlier | last
    · exact rest other earlier
    · rw [List.mem_singleton.mp last]
      exact needless

theorem receivePrompt_idles (requestId : RequestId) (promptHex : String) (model : Option String)
    (maxTokens : Option UInt32) :
    Idles sha256 engine (receivePrompt requestId promptHex model maxTokens engine) := by
  unfold receivePrompt
  split
  · apply Idles.emit
    · exact idles_of_same rfl rfl rfl
    · exact fun _ => trivial
  · constructor
    · exact ⟨[], (List.append_nil _).symm, by simp⟩
    · exact fun _ _ held => held
    · intro ticket call parked
      rcases PartialMap.of_insert_eq_some parked with ⟨-, rfl⟩ | ⟨-, older⟩
      · exact .inr fun _ => trivial
      · exact .inl older

theorem resumeFetched_idles (ticket : Ticket) (answer : Option TaskRequest) :
    Idles sha256 engine (resumeFetched ticket answer engine) := by
  unfold resumeFetched
  split
  · split
    · apply Idles.emit
      · exact idles_of_endCall rfl rfl rfl
      · exact fun _ => trivial
    · apply Idles.emit
      · exact idles_of_endCall rfl rfl rfl
      · exact fun _ => trivial
  · exact idles_of_same rfl rfl rfl

theorem resumeListed_idles (active : Option Bool) :
    Idles sha256 engine (resumeListed active engine) := by
  unfold resumeListed cache
  (repeat' split) <;> exact idles_of_same rfl rfl rfl

theorem resumeListing_idles (requests : Option (List TaskRequest)) :
    Idles sha256 engine (resumeListing requests engine) := by
  unfold resumeListing
  (repeat' split) <;> exact idles_of_same rfl rfl rfl

/-! ## Results -/

/-- A result is let through for the wallet that has the request. -/
theorem Grounded.handleSubmitResult (grounded : engine.Grounded sha256) (wallet : Wallet)
    (params : OpoiSubmitResultParams) :
    (handleSubmitResult wallet params engine).Grounded sha256 := by
  unfold OpoiEngine.handleSubmitResult
  split
  · exact grounded.of_idles ((idles_of_same rfl rfl rfl).emit _ fun _ => trivial)
  · rename_i assigned held
    split
    · exact grounded.of_idles ((idles_of_same rfl rfl rfl).emit _ fun _ => trivial)
    · rename_i own
      rw [ne_eq, not_not] at own
      subst own
      refine ⟨grounded.justified, grounded.assignments, ?_⟩
      intro ticket call parked
      rcases PartialMap.of_insert_eq_some parked with ⟨-, rfl⟩ | ⟨-, older⟩
      · exact grounded.assignments params.requestId assigned held
      · exact grounded.calls ticket call older

/-- A row passes only with the hash of its bytes. -/
theorem sound_of_verdict {wallet : Wallet} {params : OpoiSubmitResultParams}
    {entry : Option PendingRequest} {active : Option Bool} {row : NewSubmission}
    (passes : verdict sha256 wallet params entry active = .ok row) : Sound sha256 row := by
  unfold verdict at passes
  split at passes
  · cases passes
  · cases passes
  · split at passes
    · cases passes
    · rename_i raw decoded
      split at passes
      · rename_i same
        cases passes
        exact ⟨raw, decoded, same⟩
      · cases passes

theorem Grounded.resumeChecked (grounded : engine.Grounded sha256) (ticket : Ticket)
    (active : Option Bool) : (resumeChecked sha256 ticket active engine).Grounded sha256 := by
  unfold OpoiEngine.resumeChecked
  split
  · rename_i wallet params parked
    split
    · rename_i row passes
      refine ⟨grounded.justified, grounded.assignments, ?_⟩
      intro other call found
      rcases PartialMap.of_insert_eq_some found with ⟨-, rfl⟩ | ⟨-, older⟩
      · have asked : Asked engine.log wallet params.requestId := grounded.calls ticket _ parked
        refine ⟨?_, sound_of_verdict passes⟩
        rw [row_of_verdict passes]
        exact asked
      · exact grounded.calls other call older
    · apply grounded.of_idles
      apply Idles.emit
      · exact idles_of_endCall rfl rfl rfl
      · exact fun _ => trivial
  · exact grounded

theorem Grounded.resumeCreated (grounded : engine.Grounded sha256) (ticket : Ticket)
    (created : Bool) : (resumeCreated ticket created engine).Grounded sha256 := by
  unfold OpoiEngine.resumeCreated
  split
  · rename_i row parked
    split
    · have grown : engine.log ⊆ engine.log ++ [.accepted row] := List.subset_append_left ..
      constructor
      · exact grounded.justified.snoc (grounded.calls ticket _ parked)
      · intro requestId wallet held
        exact (grounded.assignments requestId wallet
          (PartialMap.of_remove_eq_some held).2).mono grown
      · intro other call found
        exact (grounded.calls other call (calls_of_endCall found)).mono grown
    · apply grounded.of_idles
      apply Idles.emit
      · exact idles_of_endCall rfl rfl rfl
      · exact fun _ => trivial
  · exact grounded

/-! ## The tick -/

/-- A request is held by a wallet only after its line has gone out. -/
theorem Grounded.pushAssign (grounded : engine.Grounded sha256) (registry : MinerRegistry)
    (assign : OpoiAssign) (wallet : Wallet) (delivered : Bool) :
    (pushAssign registry assign wallet delivered engine).Grounded sha256 := by
  unfold OpoiEngine.pushAssign AssignmentTracker.tryAssign
  cases held : engine.assignments assign.requestId with
  | some other => exact grounded
  | none =>
      have undone : (engine.assignments.insert assign.requestId wallet).remove assign.requestId =
          engine.assignments := by
        funext requestId
        by_cases same : requestId = assign.requestId
        · subst same
          rw [PartialMap.remove_self, held]
        · rw [PartialMap.remove_of_ne _ same, PartialMap.insert_of_ne _ _ same]
      dsimp only
      split
      · rename_i tx found
        split
        · have grown : engine.log ⊆ engine.log ++ [.assigned wallet tx assign] :=
            List.subset_append_left ..
          constructor
          · exact grounded.justified.snoc trivial
          · intro requestId other assigned
            rcases PartialMap.of_insert_eq_some assigned with ⟨rfl, rfl⟩ | ⟨-, older⟩
            · exact ⟨tx, assign, List.mem_append_right _ List.mem_cons_self, rfl⟩
            · exact (grounded.assignments requestId other older).mono grown
          · exact fun ticket call parked => (grounded.calls ticket call parked).mono grown
        · exact grounded.of_idles (idles_of_same rfl undone rfl)
      · exact grounded.of_idles (idles_of_same rfl undone rfl)

theorem Grounded.resumeManifest (grounded : engine.Grounded sha256) (registry : MinerRegistry)
    (answer : Except String ModelManifest) (delivered : Bool) :
    (resumeManifest registry answer delivered engine).Grounded sha256 := by
  unfold OpoiEngine.resumeManifest
  split
  · split
    · split
      · exact ⟨grounded.justified, grounded.assignments, grounded.calls⟩
      · apply Grounded.of_idles _ (idles_nextCandidate _ _)
        apply Grounded.pushAssign
        exact ⟨grounded.justified, grounded.assignments, grounded.calls⟩
    · exact grounded.of_idles (idles_nextCandidate engine _)
  · exact grounded

/-! ## Every event -/

theorem Grounded.next (grounded : engine.Grounded sha256) :
    (next sha256 engine stimulus).Grounded sha256 := by
  rcases stimulus with ⟨registry, event⟩
  cases event with
  | receivePrompt requestId promptHex model maxTokens =>
      exact grounded.of_idles (receivePrompt_idles requestId promptHex model maxTokens)
  | fetched ticket answer => exact grounded.of_idles (resumeFetched_idles ticket answer)
  | submitResult wallet params => exact grounded.handleSubmitResult wallet params
  | checked ticket active => exact grounded.resumeChecked ticket active
  | created ticket created => exact grounded.resumeCreated ticket created
  | dropped ticket => exact grounded.of_idles (idles_of_endCall rfl rfl rfl)
  | disconnect wallet =>
      refine ⟨grounded.justified, ?_, grounded.calls⟩
      intro requestId other held
      exact grounded.assignments requestId other (PartialMap.retain_eq_some_iff.mp held).1
  | pollBegin => exact ⟨grounded.justified, grounded.assignments, grounded.calls⟩
  | pollListing requests => exact grounded.of_idles (resumeListing_idles requests)
  | pollListed active => exact grounded.of_idles (resumeListed_idles active)
  | pollCandidates candidates =>
      change (resumeCollecting candidates engine).Grounded sha256
      unfold resumeCollecting
      split
      · exact grounded.of_idles (idles_nextCandidate engine candidates)
      · exact grounded
  | pollManifest answer delivered => exact grounded.resumeManifest registry answer delivered
  | restart =>
      exact ⟨grounded.justified, by rintro requestId wallet ⟨⟩, by rintro ticket call ⟨⟩⟩

/-- A row is stored only for a wallet to which its request was pushed before,
with the hash of its bytes. -/
theorem asked_of_run {events : List Stimulus} (run : (system sha256).Run new events engine) :
    Justified (Effect.RestsOn sha256) engine.log := by
  have grounded : engine.Grounded sha256 := by
    apply run.invariant (I := fun engine => engine.Grounded sha256) grounded_new
    exact fun state stimulus grounded _ _ => grounded.next
  exact grounded.justified

/-- Request `"r"` is pushed to the miner, which answers and leaves before its
answer is stored. -/
def leavingEvents : List Stimulus :=
  [⟨soleRegistry, .receivePrompt "r" "00" none none⟩, ⟨soleRegistry, .fetched 0 (some soleTask)⟩,
    ⟨soleRegistry, .pollBegin⟩, ⟨soleRegistry, .pollListing (some [soleTask])⟩,
    ⟨soleRegistry, .pollCandidates ["r"]⟩,
    ⟨soleRegistry, .pollManifest (.error "manifest not found") true⟩,
    ⟨soleRegistry, .submitResult "miner" ⟨"r", "00", "00", 1⟩⟩,
    ⟨soleRegistry, .checked 1 (some false)⟩, ⟨soleRegistry, .disconnect "miner"⟩,
    ⟨soleRegistry, .created 1 true⟩]

/-- An instance of `asked_of_run`: the row of a miner that has left. -/
theorem asked_of_run_leaving :
    ∃ row earlier, ((system id).execute new leavingEvents).log = earlier ++ [.accepted row] ∧
      row.minerWallet = "miner" ∧ Asked earlier "miner" "r" ∧ Sound id row := by
  have run : (system id).Run new leavingEvents ((system id).execute new leavingEvents) := by
    apply System.Admits.runWith
    refine ⟨⟨trivial, trivial⟩, ⟨⟨_, _, _, _, rfl⟩, trivial⟩, ⟨rfl, trivial⟩, ⟨rfl, trivial⟩,
      ⟨⟨rfl, List.nodup_singleton _, mem_sole_iff rfl (by decide) rfl
        fun _ ne => PartialMap.insert_of_ne _ _ ne⟩, trivial⟩,
      ⟨⟨_, _, rfl⟩, trivial⟩, ⟨trivial, trivial⟩, ⟨⟨_, _, rfl⟩, trivial⟩, ⟨trivial, trivial⟩,
      ⟨⟨_, rfl⟩, trivial⟩, trivial⟩
  have stored : ∃ row earlier, ((system id).execute new leavingEvents).log =
      earlier ++ [.accepted row] ∧ row.minerWallet = "miner" ∧ row.requestId = "r" :=
    ⟨_, [_, _], rfl, rfl, rfl⟩
  rcases stored with ⟨row, earlier, log, paid, about⟩
  obtain ⟨asked, sound⟩ := asked_of_run run earlier _ [] log
  rw [paid, about] at asked
  exact ⟨row, earlier, log, paid, asked, sound⟩

end OpoiEngine

end StratumBridge.Opoi
