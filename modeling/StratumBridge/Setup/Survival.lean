import StratumBridge.Setup.Wizard
import Mathlib.Data.List.TakeWhile

/-!
# Which settings survive the wizard

The wizard collects what it asks for, and the file it writes is `.env.example` with the
collected values filled in.  What was set before is in neither: it comes back only where the
example happens to say the same.  The stake picker of a complete configuration patches `.env`
instead, and leaves every other line alone.
-/

namespace StratumBridge.Setup

open Data

/-! ## Answers -/

/-- Answers went into the environment and the collection alike. -/
def Answered (before after : Session) : Prop :=
  ∃ answers : List (String × String),
    after.env = answers.foldl (fun env answer => env.insert answer.1 answer.2) before.env ∧
    after.collected =
      answers.foldl (fun collected answer => collected.insert answer.1 answer.2) before.collected

namespace Answered

variable {before middle after : Session}

theorem refl (session : Session) : Answered session session :=
  ⟨[], rfl, rfl⟩

theorem trans (first : Answered before middle) (second : Answered middle after) :
    Answered before after := by
  obtain ⟨answers, env, collected⟩ := first
  obtain ⟨more, laterEnv, laterCollected⟩ := second
  refine ⟨answers ++ more, ?_, ?_⟩
  · rw [List.foldl_append, ← env, laterEnv]
  · rw [List.foldl_append, ← collected, laterCollected]

/-- What is set stays set. -/
theorem isSome (answered : Answered before after) {key : String}
    (set : (before.env key).isSome = true) : (after.env key).isSome = true := by
  obtain ⟨answers, env, -⟩ := answered
  rw [env]
  clear env
  induction answers using List.reverseRecOn with
  | nil => exact set
  | append_singleton answers answer ih =>
      rw [List.foldl_append, List.foldl_cons, List.foldl_nil, PartialMap.insert_apply]
      split
      · rfl
      · exact ih

/-- The value in effect is the answer, or else the value from before. -/
theorem env_eq (answered : Answered before after) (fresh : before.collected = IndexMap.empty)
    (key : String) : after.env key = (after.collected.get? key).or (before.env key) := by
  obtain ⟨answers, env, collected⟩ := answered
  rw [env, collected, fresh]
  clear env collected
  induction answers using List.reverseRecOn with
  | nil => rfl
  | append_singleton answers answer ih =>
      simp only [List.foldl_append, List.foldl_cons, List.foldl_nil]
      by_cases same : key = answer.1
      · subst same
        rw [PartialMap.insert_self, IndexMap.get?_insert_self, Option.some_or]
      · rw [PartialMap.insert_of_ne _ _ same, IndexMap.get?_insert_of_ne _ _ same, ih]

/-- Lines read do not matter. -/
theorem of_told {stdin : List String}
    (answered : Answered { before with stdin := stdin } after) : Answered before after :=
  answered

end Answered

theorem isSome_of_isSet {env : Environment} {key : String} (set : isSet env key = true) :
    (env key).isSome = true := by
  unfold isSet at set
  cases held : env key with
  | none => simp [held] at set
  | some value => rfl

section Dialogue

variable {session after : Session} {key value : String} {random : List UInt8}
  {csd : Surroundings}

theorem answered_setCollected (done : setCollected key value session = some after) :
    Answered session after ∧ (after.env key).isSome = true := by
  unfold setCollected at done
  split at done
  · cases done
  · cases done
    exact ⟨⟨[(key, value)], rfl, rfl⟩, by simp⟩

theorem answered_ask {var : RequiredVar} (done : ask random var session = some after) :
    Answered session after ∧ (after.env var.key).isSome = true := by
  unfold ask at done
  split at done
  · obtain ⟨answered, isSome⟩ := answered_setCollected done
    exact ⟨answered.of_told, isSome⟩
  · obtain ⟨⟨value, rest⟩, -, done⟩ := Option.bind_eq_some_iff.mp done
    obtain ⟨answered, isSome⟩ := answered_setCollected done
    exact ⟨answered.of_told, isSome⟩

theorem answered_askMissing {vars : List RequiredVar}
    (done : askMissing random vars session = some after) :
    Answered session after ∧ ∀ var ∈ vars, (after.env var.key).isSome = true := by
  induction vars generalizing session with
  | nil =>
      cases done
      exact ⟨Answered.refl _, fun var mem => by cases mem⟩
  | cons first rest ih =>
      rw [askMissing] at done
      split at done
      · obtain ⟨answered, others⟩ := ih done
        refine ⟨answered, ?_⟩
        intro var mem
        rcases List.mem_cons.mp mem with rfl | mem
        · exact answered.isSome (isSome_of_isSet ‹_›)
        · exact others var mem
      · obtain ⟨asked, first, done⟩ := Option.bind_eq_some_iff.mp done
        obtain ⟨now, isSome⟩ := answered_ask first
        obtain ⟨answered, others⟩ := ih done
        refine ⟨now.trans answered, ?_⟩
        intro var mem
        rcases List.mem_cons.mp mem with rfl | mem
        · exact answered.isSome isSome
        · exact others var mem

theorem answered_askAgain {vars : List RequiredVar} (done : askAgain vars session = some after) :
    Answered session after := by
  induction vars generalizing session with
  | nil =>
      cases done
      exact Answered.refl _
  | cons first rest ih =>
      obtain ⟨⟨value, stdin⟩, -, done⟩ := Option.bind_eq_some_iff.mp done
      obtain ⟨asked, now, done⟩ := Option.bind_eq_some_iff.mp done
      exact (answered_setCollected now).1.of_told.trans (ih done)

theorem answered_testConnection {heights : List (Except AppError Nat)} {connected : Bool}
    (done : testConnection heights session = some (connected, after)) :
    Answered session after := by
  induction heights generalizing session with
  | nil => cases done
  | cons reply rest ih =>
      cases reply with
      | ok height =>
          cases done
          exact Answered.refl _
      | error error =>
          simp only [testConnection] at done
          split at done
          · obtain ⟨asked, again, done⟩ := Option.bind_eq_some_iff.mp done
            have now := answered_askAgain again
            exact now.of_told.trans (ih done)
          · cases done
            exact Answered.refl _

/-- The picker collects nothing, or the two parts of an output. -/
theorem offerStakeUtxoPicker_cases {unspent : Except AppError (List UnspentOutput)}
    (done : offerStakeUtxoPicker unspent session = some after) :
    (∃ stdin, after = { session with stdin := stdin }) ∨
      ∃ (picked : UnspentOutput) (stdin : List String) (named : Session),
        setCollected "OPOI_COLLATERAL_TXID" picked.txid { session with stdin := stdin } =
          some named ∧
        setCollected "OPOI_COLLATERAL_VOUT" (toString picked.vout.toNat) named = some after := by
  unfold offerStakeUtxoPicker at done
  split at done
  · cases done
    exact .inl ⟨session.stdin, rfl⟩
  · cases done
    exact .inl ⟨session.stdin, rfl⟩
  · dsimp only at done
    split at done
    · cases done
      exact .inl ⟨_, rfl⟩
    · cases done
      exact .inl ⟨_, rfl⟩
    · split at done
      · cases done
        exact .inl ⟨_, rfl⟩
      · obtain ⟨named, first, second⟩ := Option.bind_eq_some_iff.mp done
        exact .inr ⟨_, _, named, first, second⟩

theorem answered_offerStakeUtxoPicker {unspent : Except AppError (List UnspentOutput)}
    (done : offerStakeUtxoPicker unspent session = some after) : Answered session after := by
  rcases offerStakeUtxoPicker_cases done with ⟨stdin, rfl⟩ | ⟨picked, stdin, named, first, second⟩
  · exact Answered.refl session
  · exact (answered_setCollected first).1.of_told.trans (answered_setCollected second).1

theorem answered_maybeOfferStakePicker (done : maybeOfferStakePicker csd session = some after) :
    Answered session after := by
  unfold maybeOfferStakePicker at done
  split at done
  · cases done
    exact Answered.refl _
  · split at done
    · cases done
      exact Answered.refl _
    · exact answered_offerStakeUtxoPicker done
    · exact answered_offerStakeUtxoPicker done

/-- The whole dialogue: everything that was asked is set. -/
theorem answered_interview {env : Environment} {stdin : List String}
    (done : interview csd env stdin = some after) :
    Answered ⟨env, stdin, IndexMap.empty⟩ after ∧
      ∀ var ∈ requiredVars, (after.env var.key).isSome = true := by
  obtain ⟨asked, first, done⟩ := Option.bind_eq_some_iff.mp done
  obtain ⟨⟨connected, tested⟩, second, done⟩ := Option.bind_eq_some_iff.mp done
  obtain ⟨answered, allSet⟩ := answered_askMissing first
  have retried : Answered asked tested := answered_testConnection second
  have offered : Answered tested after := by
    dsimp only at done
    split at done
    · exact answered_maybeOfferStakePicker done
    · cases done
      exact Answered.refl _
  refine ⟨answered.trans (retried.trans offered), ?_⟩
  intro var mem
  exact (retried.trans offered).isSome (allSet var mem)

end Dialogue

/-! ## What the file says -/

section File

variable {reader : EnvReader} {csd : Surroundings} {process again env : Environment}
  {envFile : List String} {envExample : Option (List String)} {stdin : List String}
  {session : Session} {written : List String}

/-- Going down the lines of `.env.example` with the answers filled in, or else the answers
themselves, the first line to set the key or to stop the scan sets it to the value. -/
def Carries (reader : EnvReader) (again : Environment) (envExample : Option (List String))
    (collected : IndexMap String String) (key value : String) : Prop :=
  match envExample with
  | some lines =>
      SetsFirst reader.scan (reader.start again) (fillIn collected) lines key value
  | none => SetsFirst reader.scan (reader.start again) settingLine collected.entries key value

/-- A line of the file sets the key. -/
def HasLine (reader : EnvReader) (process : Environment) (file : List String) (key : String) :
    Prop :=
  ∃ value, .sets key value ∈ readings reader.scan (reader.start process) file

/-- A file read again by a process gives the values in effect: for every required variable,
and for every key that has a line in the initial file. -/
structure SettingsSurvive (reader : EnvReader) (process again : Environment)
    (envFile : List String) (env : Environment) (written : List String) : Prop where
  required : ∀ var ∈ requiredVars, ∃ value, env var.key = some value ∧
    reader.value again written var.key = some value
  others : ∀ key, HasLine reader process envFile key → ∀ value, env key = some value →
    reader.value again written key = some value

/-- The key is that of a required variable, or has a line in the initial file. -/
def Concerned (reader : EnvReader) (process : Environment) (envFile : List String)
    (key : String) : Prop :=
  (∃ var ∈ requiredVars, var.key = key) ∨ HasLine reader process envFile key

/-- The lines of the example carry the answers that were given, and for a key that was not
asked for the value that it had before. -/
structure ExampleCarries (reader : EnvReader) (process again : Environment)
    (envFile : List String) (envExample : Option (List String))
    (collected : IndexMap String String) : Prop where
  asked : ∀ key answer, Concerned reader process envFile key →
    collected.get? key = some answer → Carries reader again envExample collected key answer
  unasked : ∀ key value, Concerned reader process envFile key → collected.get? key = none →
    reader.load process envFile key = some value →
    Carries reader again envExample collected key value

theorem value_writeEnvFile_iff {collected : IndexMap String String} {key value : String} :
    reader.value again (writeEnvFile envExample collected) key = some value ↔
      Carries reader again envExample collected key value := by
  cases envExample with
  | some lines => exact setting_map_eq_some_iff
  | none => exact setting_map_eq_some_iff

/-- The file that the wizard writes gives back the values in effect exactly if the lines of
the example carry them. -/
theorem settingsSurvive_iff
    (done : runAutomatic csd envExample (reader.load process envFile) stdin =
      some (session, written)) :
    SettingsSurvive reader process again envFile session.env written ↔
      ExampleCarries reader process again envFile envExample session.collected := by
  obtain ⟨_, interviewed, same⟩ := Option.map_eq_some_iff.mp done
  cases same
  obtain ⟨answered, allSet⟩ := answered_interview interviewed
  have effect : ∀ key, session.env key =
      (session.collected.get? key).or (reader.load process envFile key) := answered.env_eq rfl
  constructor
  · intro survive
    -- what is in effect is read back, so a line of the example carries it
    have carried : ∀ key value, Concerned reader process envFile key →
        session.env key = some value →
        Carries reader again envExample session.collected key value := by
      rintro key value (⟨var, mem, rfl⟩ | hasLine) now
      · obtain ⟨held, set, reads⟩ := survive.required var mem
        cases now.symm.trans set
        exact value_writeEnvFile_iff.mp reads
      · exact value_writeEnvFile_iff.mp (survive.others key hasLine value now)
    constructor
    · intro key answer concerned asked
      exact carried key answer concerned (by rw [effect, asked, Option.some_or])
    · intro key value concerned unasked before
      exact carried key value concerned (by rw [effect, unasked, Option.none_or, before])
  · intro carries
    have reads : ∀ key value, Concerned reader process envFile key →
        session.env key = some value →
        reader.value again (writeEnvFile envExample session.collected) key = some value := by
      intro key value concerned now
      rw [value_writeEnvFile_iff]
      rw [effect] at now
      cases answer : session.collected.get? key with
      | some answer =>
          rw [answer, Option.some_or] at now
          cases now
          exact carries.asked key _ concerned answer
      | none =>
          rw [answer, Option.none_or] at now
          exact carries.unasked key value concerned answer now
    constructor
    · intro var mem
      obtain ⟨value, set⟩ := Option.isSome_iff_exists.mp (allSet var mem)
      exact ⟨value, set, reads var.key value (.inl ⟨var, mem, rfl⟩) set⟩
    · intro key hasLine value set
      exact reads key value (.inr hasLine) set

end File

/-! ## Patching the file -/

section Patch

variable {pairs : IndexMap String String} {existing : List String} {index : Nat} {line : String}

theorem fillIn_of_unasked (unasked : ∀ key, keyOf line = some key → pairs.get? key = none) :
    fillIn pairs line = line := by
  unfold fillIn
  cases named : keyOf line with
  | none => rfl
  | some key => simp [unasked key named]

/-- A line stays where it is unless its key is patched. -/
theorem patchEnvFile_keeps (listed : existing[index]? = some line)
    (unasked : ∀ key, keyOf line = some key → pairs.get? key = none) :
    (patchEnvFile existing pairs)[index]? = some line := by
  have inside : index < (existing.map (fillIn pairs)).length := by
    rw [List.length_map]
    exact (List.getElem?_eq_some_iff.mp listed).1
  rw [patchEnvFile, List.getElem?_append_left inside, List.getElem?_map, listed,
    Option.map_some, fillIn_of_unasked unasked]

/-- The line is one for the stake's collateral. -/
def IsCollateral (line : String) : Prop :=
  keyOf line = some "OPOI_COLLATERAL_TXID" ∨ keyOf line = some "OPOI_COLLATERAL_VOUT"

theorem get?_of_setCollected {session after : Session} {key value other : String}
    (done : setCollected key value session = some after) (ne : other ≠ key) :
    after.collected.get? other = session.collected.get? other := by
  unfold setCollected at done
  split at done
  · cases done
  · cases done
    exact IndexMap.get?_insert_of_ne _ _ ne

/-- The picker collects nothing but the collateral. -/
theorem get?_offerStakeUtxoPicker {unspent : Except AppError (List UnspentOutput)}
    {session after : Session} {key : String}
    (done : offerStakeUtxoPicker unspent session = some after)
    (notTxid : key ≠ "OPOI_COLLATERAL_TXID") (notVout : key ≠ "OPOI_COLLATERAL_VOUT") :
    after.collected.get? key = session.collected.get? key := by
  rcases offerStakeUtxoPicker_cases done with ⟨stdin, rfl⟩ | ⟨picked, stdin, named, first, second⟩
  · rfl
  · have before := get?_of_setCollected first notTxid
    exact (get?_of_setCollected second notVout).trans before

/-- A start with a complete configuration leaves every line of `.env` alone that is not one
for the collateral. -/
theorem ensureConfigured_keeps {reader : EnvReader} {csd : Surroundings}
    {process env : Environment} {before after : List String}
    {envExample : Option (List String)} {stdin : List String}
    (complete : ∀ var ∈ requiredVars, isSet (reader.load process before) var.key = true)
    (done : ensureConfigured reader csd process (some before) envExample stdin =
      some (.continues env (some after)))
    (listed : before[index]? = some line) (other : ¬ IsCollateral line) :
    after[index]? = some line := by
  unfold ensureConfigured at done
  rw [Option.getD_some, if_pos (List.all_eq_true.mpr complete)] at done
  obtain ⟨⟨_, _⟩, left, same⟩ := Option.map_eq_some_iff.mp done
  cases same
  unfold ensureStakeConfigured at left
  split at left
  · cases left
    exact listed
  · split at left
    · cases left
      exact listed
    · cases left
      exact listed
    · dsimp only at left
      split at left
      · obtain ⟨session, picked, left⟩ := Option.bind_eq_some_iff.mp left
        split at left
        · cases left
          exact listed
        · cases left
          apply patchEnvFile_keeps listed
          intro key named
          apply get?_offerStakeUtxoPicker picked
          · rintro rfl
            exact other (.inl named)
          · rintro rfl
            exact other (.inr named)
      · cases left
        exact listed

end Patch

/-! ## Keys that were not asked for -/

section Unasked

variable {reader : EnvReader} {pairs : IndexMap String String} {lines : List String}
  {key value line : String}

/-- A reader that takes every line for itself, and a line with another text before its `=`
for nothing that matters to the key. -/
structure ReadsAlone (reader : EnvReader) (key : String) : Prop where
  alone : ∀ state other line, (reader.scan state line).2 = (reader.scan other line).2
  passes : ∀ state line other, keyOf line = some other → other ≠ key →
    (reader.scan state line).2.Passes key

theorem keyOf_settingLine (named : keyOf line = some key) :
    keyOf (settingLine (key, value)) = some key := by
  unfold keyOf at named
  split at named
  · cases named
    have plain : ∀ char ∈ line.toList.takeWhile (· ≠ '='), decide (char ≠ '=') = true :=
      fun _ mem => List.mem_takeWhile_imp (p := fun char => decide (char ≠ '=')) mem
    have split : (settingLine (String.ofList (line.toList.takeWhile (· ≠ '=')), value)).toList =
        line.toList.takeWhile (· ≠ '=') ++ '=' :: value.toList := by
      simp [settingLine]
    rw [keyOf, split, if_pos (List.mem_append_right _ List.mem_cons_self),
      List.takeWhile_append_of_pos plain]
    simp
  · cases named

/-- What is filled in for other keys does not matter to the key. -/
theorem setting_map_fillIn (reads : ReadsAlone reader key) (unasked : pairs.get? key = none)
    (state other : reader.State) :
    setting reader.scan state (lines.map (fillIn pairs)) key =
      setting reader.scan other lines key := by
  induction lines generalizing state other with
  | nil => rfl
  | cons line rest ih =>
      rw [List.map_cons]
      cases entry :
        (keyOf line).bind fun name => (pairs.get? name).map fun value => (name, value) with
      | none =>
          have kept : fillIn pairs line = line := by rw [fillIn, entry]
          rw [kept, setting, setting, readings, readings, reads.alone state other line]
          cases said : (reader.scan other line).2 with
          | skipped => exact ih _ _
          | sets name value =>
              by_cases same : name = key
              · rw [firstSetting, firstSetting, if_pos same, if_pos same]
              · rw [firstSetting, firstSetting, if_neg same, if_neg same]
                exact ih _ _
          | malformed => rfl
      | some found =>
          obtain ⟨name, named, asked⟩ := Option.bind_eq_some_iff.mp entry
          obtain ⟨answer, collected, rfl⟩ := Option.map_eq_some_iff.mp asked
          have filled : fillIn pairs line = settingLine (name, answer) := by rw [fillIn, entry]
          have ne : name ≠ key := by
            rintro rfl
            cases unasked.symm.trans collected
          rw [filled, setting_cons_of_passes (reads.passes _ _ name (keyOf_settingLine named) ne),
            setting_cons_of_passes (reads.passes _ _ name named ne)]
          exact ih _ _

/-- A key that was not asked for has the value it had before exactly if the example sets it
to the same value. -/
theorem unasked_survives_iff {csd : Surroundings} {process again : Environment}
    {envFile : List String} {stdin : List String} {session : Session} {written : List String}
    (done : runAutomatic csd (some lines) (reader.load process envFile) stdin =
      some (session, written))
    (reads : ReadsAlone reader key) (unasked : session.collected.get? key = none) :
    reader.value again written key = session.env key ↔
      reader.value again lines key = reader.load process envFile key := by
  obtain ⟨_, interviewed, same⟩ := Option.map_eq_some_iff.mp done
  cases same
  have before := (answered_interview interviewed).1.env_eq rfl key
  rw [unasked, Option.none_or] at before
  rw [before]
  exact iff_of_eq (congrArg (· = _) (setting_map_fillIn reads unasked _ _))

end Unasked

/-! ## Runs of the wizard -/

/-- A reader of plain `KEY=value` lines and comments. -/
def plainReader : EnvReader where
  State := Unit
  start := fun _ => ()
  scan := fun _ line =>
    if trim line = "" ∨ line.toList.head? = some '#' then
      ((), .skipped)
    else
      match keyOf line with
      | none => ((), .malformed)
      | some key => ((), .sets key (String.ofList (line.toList.drop (key.toList.length + 1))))

/-- The lines of `.env.example` for the required variables. -/
def exampleLines : List String :=
  ["# --- csd JSON-RPC ---", "UPSTREAM_POOL_ADDR=127.0.0.1:3332",
    "CSD_RPC_URL=http://127.0.0.1:26124", "CSD_RPC_USER=troque-o-usuario-rpc",
    "CSD_RPC_PASS=troque-a-senha-rpc", "OPOI_ADDRESSES=troque-pelo-endereco-de-stake",
    "OPOI_REQUESTER_API_KEY=troque-pela-chave-de-api"]

/-- csd answers, and the address is staked. -/
def staked : Surroundings where
  random := []
  writable := true
  heights := [.ok 100]
  stake := .ok (some ⟨"address", "ACTIVE", none, 0⟩)
  unspent := .ok []

/-- A `.env` with the addresses that the example has, too. -/
def partialLines : List String :=
  ["# local", "UPSTREAM_POOL_ADDR=127.0.0.1:3332", "CSD_RPC_URL=http://127.0.0.1:26124"]

/-- The rest is asked for. -/
def partialSession : Session :=
  (interview staked (plainReader.load PartialMap.empty partialLines)
    ["user\n", "pass\n", "address\n", "key\n"]).getD
      ⟨PartialMap.empty, [], IndexMap.empty⟩

/-- An instance of `settingsSurvive_iff`: what was set stands in the example just so. -/
theorem settingsSurvive_partial :
    SettingsSurvive plainReader PartialMap.empty PartialMap.empty partialLines partialSession.env
      (writeEnvFile (some exampleLines) partialSession.collected) := by
  have done : runAutomatic staked (some exampleLines)
      (plainReader.load PartialMap.empty partialLines)
      ["user\n", "pass\n", "address\n", "key\n"] =
        some (partialSession, writeEnvFile (some exampleLines) partialSession.collected) := rfl
  have answers : ∀ entry ∈ partialSession.collected.entries,
      plainReader.value PartialMap.empty
          (writeEnvFile (some exampleLines) partialSession.collected) entry.1 =
        some entry.2 := by
    decide +kernel
  have others : ∀ var ∈ requiredVars, partialSession.collected.get? var.key = none →
      plainReader.value PartialMap.empty
          (writeEnvFile (some exampleLines) partialSession.collected) var.key =
        plainReader.load PartialMap.empty partialLines var.key := by
    decide +kernel
  have listed : readings plainReader.scan () partialLines =
      [.skipped, .sets "UPSTREAM_POOL_ADDR" "127.0.0.1:3332",
        .sets "CSD_RPC_URL" "http://127.0.0.1:26124"] := by
    decide +kernel
  rw [settingsSurvive_iff done]
  constructor
  · intro key answer _ asked
    exact value_writeEnvFile_iff.mp (answers _ (IndexMap.get?_eq_some_iff_mem.mp asked))
  · intro key value concerned unasked before
    have required : ∃ var ∈ requiredVars, var.key = key := by
      rcases concerned with required | ⟨held, mem⟩
      · exact required
      · change _ ∈ readings plainReader.scan () partialLines at mem
        rw [listed] at mem
        rcases List.mem_cons.mp mem with same | mem
        · cases same
        · rcases List.mem_cons.mp mem with same | mem
          · cases same
            exact ⟨upstreamPoolAddr, List.mem_cons_self, rfl⟩
          · cases List.mem_singleton.mp mem
            exact ⟨csdRpcUrl, List.mem_cons_of_mem _ List.mem_cons_self, rfl⟩
    obtain ⟨var, mem, rfl⟩ := required
    rw [← others var mem unasked] at before
    exact value_writeEnvFile_iff.mp before

/-- A working `.env` without an API key. -/
def workingLines : List String :=
  ["UPSTREAM_POOL_ADDR=pool:3333", "CSD_RPC_URL=http://10.0.0.5:26124", "CSD_RPC_USER=user",
    "CSD_RPC_PASS=pass", "OPOI_ADDRESSES=address"]

/-- The API key is asked for, and the pool's address is replaced by the placeholder. -/
theorem pool_address_replaced :
    ∃ session written,
      runAutomatic staked (some exampleLines) (plainReader.load PartialMap.empty workingLines)
          ["key\n"] = some (session, written) ∧
      session.env "UPSTREAM_POOL_ADDR" = some "pool:3333" ∧
      plainReader.value PartialMap.empty written "UPSTREAM_POOL_ADDR" = some "127.0.0.1:3332" ∧
      ¬ SettingsSurvive plainReader PartialMap.empty PartialMap.empty workingLines session.env
          written := by
  refine ⟨_, _, rfl, by decide, by decide, ?_⟩
  intro survive
  obtain ⟨value, set, reads⟩ := survive.required upstreamPoolAddr List.mem_cons_self
  exact absurd (set.trans reads.symm) (by decide)

end StratumBridge.Setup
