import StratumBridge.Audit.Auditor
import StratumBridge.Data.Overwrite
import StratumBridge.Speculative.Engine
import StratumBridge.Transition.Run

/-!
# The tokenizer cache

`count_prompt_tokens` and `ensure_tokenizer_cached`: a tokenizer is a file named by its
hash, downloaded and checked unless there is such a file, and written in place.  Calls
overlap, so that one may find the file that another one has not finished, or empty a file
that is whole.  As long as no write is cut off, a file that nobody is writing is whole.

What the `tokenizers` crate makes of a file and a text is a parameter.  A hash is a plain
file name.
-/

namespace StratumBridge.Speculative

open Data Rpc Wire Transition
open Audit (decodePromptHex)

/-- The file of a tokenizer in the cache directory. -/
def tokenizerPath (sha256Hex : String) : String :=
  sha256Hex ++ ".tokenizer.json"

theorem tokenizerPath_inj {first second : String} :
    tokenizerPath first = tokenizerPath second ↔ first = second :=
  String.append_left_inj _

/-- Where a parked `count_prompt_tokens` stands: before the look for the file, at the
download, before the file is opened, at a write, or before the file is loaded. -/
inductive TokenizerStage
  | creating
  | fetching
  | opening (bytes : List UInt8)
  | writing (bytes : List UInt8) (offset : Nat)
  | loading
  deriving DecidableEq

/-- A parked `count_prompt_tokens`. -/
structure TokenizerTask where
  call : TokenizeCall
  prompt : String
  stage : TokenizerStage

/-- What a call returned, and the contents it loaded, if it came that far. -/
structure TokenizerAnswer where
  call : TokenizeCall
  loaded : Option (List UInt8)
  count : Option Nat

/-- The cache directory, the parked calls, and all that was returned. -/
structure TokenizerCache where
  files : PartialMap String (List UInt8)
  tasks : PartialMap Ticket TokenizerTask
  answers : List TokenizerAnswer

/-- What can happen.  A write of no bytes is a failed one. -/
inductive TokenizerEvent
  | countPromptTokens (ticket : Ticket) (call : TokenizeCall)
  | created (ticket : Ticket)
  | fetched (ticket : Ticket) (body : Option (List UInt8))
  | opened (ticket : Ticket) (opens : Bool)
  | wrote (ticket : Ticket) (count : Option Nat)
  | loaded (ticket : Ticket)
  | restarted

namespace TokenizerCache

/-- A directory as an earlier process left it. -/
def new (files : PartialMap String (List UInt8)) : TokenizerCache where
  files := files
  tasks := PartialMap.empty
  answers := []

/-- The call parks at a stage. -/
def park (ticket : Ticket) (stage : TokenizerStage) (task : TokenizerTask)
    (cache : TokenizerCache) : TokenizerCache :=
  { cache with tasks := cache.tasks.insert ticket { task with stage := stage } }

/-- The call returns an error. -/
def fail (ticket : Ticket) (task : TokenizerTask) (cache : TokenizerCache) : TokenizerCache :=
  { cache with
    tasks := cache.tasks.remove ticket
    answers := cache.answers ++ [⟨task.call, none, none⟩] }

/-- The write goes on, or it is done. -/
def afterWrite (bytes : List UInt8) (offset : Nat) : TokenizerStage :=
  if offset = bytes.length then .loading else .writing bytes offset

/-- The start of `count_prompt_tokens`. -/
def countPromptTokens (ticket : Ticket) (call : TokenizeCall) (cache : TokenizerCache) :
    TokenizerCache :=
  match decodePromptHex call.promptHex with
  | none => { cache with answers := cache.answers ++ [⟨call, none, none⟩] }
  | some prompt => cache.park ticket .creating ⟨call, prompt, .creating⟩

/-- After `create_dir_all`: is there such a file? -/
def created (ticket : Ticket) (task : TokenizerTask) (cache : TokenizerCache) : TokenizerCache :=
  match cache.files (tokenizerPath task.call.tokenizerSha256) with
  | some _ => cache.park ticket .loading task
  | none => cache.park ticket .fetching task

/-- After the download: the hash is checked. -/
def fetched (sha256 : Digest) (ticket : Ticket) (body : Option (List UInt8))
    (task : TokenizerTask) (cache : TokenizerCache) : TokenizerCache :=
  match body with
  | none => cache.fail ticket task
  | some bytes =>
      if sha256Hex sha256 bytes = task.call.tokenizerSha256 then
        cache.park ticket (.opening bytes) task
      else
        cache.fail ticket task

/-- `tokio::fs::write` empties the file it opens. -/
def opened (ticket : Ticket) (opens : Bool) (task : TokenizerTask) (cache : TokenizerCache) :
    TokenizerCache :=
  match task.stage with
  | .opening bytes =>
      if opens then
        { cache with
          files := cache.files.insert (tokenizerPath task.call.tokenizerSha256) [] }.park ticket
            (afterWrite bytes 0) task
      else
        cache.fail ticket task
  | _ => cache

/-- `tokio::fs::write` writes some of what is left. -/
def wrote (ticket : Ticket) (count : Option Nat) (task : TokenizerTask) (cache : TokenizerCache) :
    TokenizerCache :=
  match task.stage, count with
  | .writing bytes offset, some count =>
      let path := tokenizerPath task.call.tokenizerSha256
      let contents := writeAt 0 ((cache.files path).getD []) offset ((bytes.drop offset).take count)
      { cache with files := cache.files.insert path contents }.park ticket
        (afterWrite bytes (offset + count)) task
  | .writing _ _, none => cache.fail ticket task
  | _, _ => cache

/-- The tokenizer is loaded from the file, and counts. -/
def loaded (tokenize : List UInt8 → String → Option Nat) (ticket : Ticket) (task : TokenizerTask)
    (cache : TokenizerCache) : TokenizerCache :=
  let contents := cache.files (tokenizerPath task.call.tokenizerSha256)
  { cache with
    tasks := cache.tasks.remove ticket
    answers := cache.answers ++
      [⟨task.call, contents, contents.bind fun bytes => tokenize bytes task.prompt⟩] }

/-- A parked call goes on. -/
def resume (ticket : Ticket) (goOn : TokenizerTask → TokenizerCache → TokenizerCache)
    (cache : TokenizerCache) : TokenizerCache :=
  match cache.tasks ticket with
  | some task => goOn task cache
  | none => cache

/-- One event. -/
def next (sha256 : Digest) (tokenize : List UInt8 → String → Option Nat)
    (cache : TokenizerCache) : TokenizerEvent → TokenizerCache
  | .countPromptTokens ticket call => countPromptTokens ticket call cache
  | .created ticket => cache.resume ticket (created ticket)
  | .fetched ticket body => cache.resume ticket (fetched sha256 ticket body)
  | .opened ticket opens => cache.resume ticket (opened ticket opens)
  | .wrote ticket count => cache.resume ticket (wrote ticket count)
  | .loaded ticket => cache.resume ticket (loaded tokenize ticket)
  | .restarted => { cache with tasks := PartialMap.empty }

/-- A call stands at a stage. -/
def Stands (cache : TokenizerCache) (ticket : Ticket) (stage : TokenizerStage) : Prop :=
  ∃ task, cache.tasks ticket = some task ∧ task.stage = stage

def enabled (cache : TokenizerCache) : TokenizerEvent → Prop
  | .countPromptTokens ticket _ => cache.tasks ticket = none
  | .created ticket => cache.Stands ticket .creating
  | .fetched ticket _ => cache.Stands ticket .fetching
  | .opened ticket _ => ∃ bytes, cache.Stands ticket (.opening bytes)
  | .wrote ticket count => ∃ bytes offset, cache.Stands ticket (.writing bytes offset) ∧
      ∀ written, count = some written → 0 < written ∧ offset + written ≤ bytes.length
  | .loaded ticket => cache.Stands ticket .loading
  | .restarted => True

/-- The cache as a system of events. -/
def system (sha256 : Digest) (tokenize : List UInt8 → String → Option Nat) :
    System TokenizerCache TokenizerEvent where
  enabled := enabled
  next := next sha256 tokenize

/-! ## The condition on a step -/

/-- Somebody is at a write of the file. -/
def Writing (cache : TokenizerCache) (sha256Hex : String) (offset : Nat) : Prop :=
  ∃ ticket task bytes, cache.tasks ticket = some task ∧
    task.call.tokenizerSha256 = sha256Hex ∧ task.stage = .writing bytes offset

/-- No write is cut off and nobody loads a file at which another one writes; and two
downloads with one hash are the same file. -/
def Undisturbed (sha256 : Digest) (file : String → List UInt8) (cache : TokenizerCache) :
    TokenizerEvent → Prop
  | .fetched _ (some bytes) => file (sha256Hex sha256 bytes) = bytes
  | .wrote _ count => count ≠ none
  | .loaded ticket => ∀ task offset, cache.tasks ticket = some task →
      ¬ cache.Writing task.call.tokenizerSha256 offset
  | .restarted => ∀ sha256Hex offset, ¬ cache.Writing sha256Hex offset
  | _ => True

/-! ## The invariant -/

/-- The call holds the bytes of its file, which is there while it writes it. -/
structure TaskSound (sha256 : Digest) (file : String → List UInt8)
    (files : PartialMap String (List UInt8)) (task : TokenizerTask) : Prop where
  prompt : decodePromptHex task.call.promptHex = some task.prompt
  bytes : ∀ bytes, task.stage = .opening bytes ∨ (∃ offset, task.stage = .writing bytes offset) →
    bytes = file task.call.tokenizerSha256 ∧
      sha256Hex sha256 bytes = task.call.tokenizerSha256
  there : ∀ bytes offset, task.stage = .writing bytes offset →
    (files (tokenizerPath task.call.tokenizerSha256)).isSome

/-- What was loaded has the hash that was asked for, and the count is by it; there is no count
if nothing was loaded. -/
def AnswerSound (sha256 : Digest) (tokenize : List UInt8 → String → Option Nat)
    (answer : TokenizerAnswer) : Prop :=
  match answer.loaded with
  | none => answer.count = none
  | some contents =>
      sha256Hex sha256 contents = answer.call.tokenizerSha256 ∧
        ∃ prompt, decodePromptHex answer.call.promptHex = some prompt ∧
          answer.count = tokenize contents prompt

/-- Every file is the one of its hash, but for what is still to be written. -/
structure Sound (sha256 : Digest) (tokenize : List UInt8 → String → Option Nat)
    (file : String → List UInt8) (cache : TokenizerCache) : Prop where
  tasks : ∀ ticket task, cache.tasks ticket = some task →
    TaskSound sha256 file cache.files task
  files : ∀ hash contents, cache.files (tokenizerPath hash) = some contents →
    sha256Hex sha256 (file hash) = hash ∧ Filling (file hash) contents (cache.Writing hash)
  answers : ∀ answer ∈ cache.answers, AnswerSound sha256 tokenize answer

section Step

variable {sha256 : Digest} {tokenize : List UInt8 → String → Option Nat}
  {file : String → List UInt8} {cache after : TokenizerCache} {ticket : Ticket}
  {task : TokenizerTask} {stage : TokenizerStage}

/-- The call is at no write. -/
def Idle (cache : TokenizerCache) (ticket : Ticket) : Prop :=
  ∀ task bytes offset, cache.tasks ticket = some task → task.stage ≠ .writing bytes offset

theorem idle_of_stage (found : cache.tasks ticket = some task) (at' : task.stage = stage)
    (idle : ∀ bytes offset, stage ≠ .writing bytes offset) : cache.Idle ticket := by
  intro held bytes offset same
  cases found.symm.trans same
  rw [at']
  exact idle bytes offset

/-- A call that was at no write has changed. -/
theorem Writing.other {hash : String} {offset : Nat} (writing : cache.Writing hash offset)
    (others : ∀ other, other ≠ ticket → after.tasks other = cache.tasks other)
    (idle : cache.Idle ticket) : after.Writing hash offset := by
  obtain ⟨writer, task, bytes, found, named, at'⟩ := writing
  have ne : writer ≠ ticket := by
    rintro rfl
    exact idle task bytes offset found at'
  exact ⟨writer, task, bytes, (others writer ne).trans found, named, at'⟩

/-- The files stay as they are. -/
theorem Sound.unwritten (sound : Sound sha256 tokenize file cache)
    (files : after.files = cache.files)
    (tasks : ∀ other held, after.tasks other = some held →
      cache.tasks other = some held ∨ TaskSound sha256 file cache.files held)
    (keeps : ∀ hash offset, cache.Writing hash offset → after.Writing hash offset)
    (answers : ∀ answer ∈ after.answers,
      answer ∈ cache.answers ∨ AnswerSound sha256 tokenize answer) :
    Sound sha256 tokenize file after where
  tasks other held found := by
    rw [files]
    rcases tasks other held found with before | own
    · exact sound.tasks other held before
    · exact own
  files hash contents found := by
    rw [files] at found
    obtain ⟨digest, filling⟩ := sound.files hash contents found
    exact ⟨digest, filling.mono fun offset writing => .inr (keeps hash offset writing)⟩
  answers answer mem := by
    rcases answers answer mem with before | own
    · exact sound.answers answer before
    · exact own

theorem tasks_park {other : Ticket} {held : TokenizerTask}
    (found : (cache.park ticket stage task).tasks other = some held) :
    cache.tasks other = some held ∨ held = { task with stage := stage } := by
  rcases PartialMap.of_insert_eq_some found with ⟨-, rfl⟩ | ⟨-, before⟩
  · exact .inr rfl
  · exact .inl before

/-- A call goes on to another stage. -/
theorem Sound.park (sound : Sound sha256 tokenize file cache)
    (own : TaskSound sha256 file cache.files { task with stage := stage })
    (idle : cache.Idle ticket) :
    Sound sha256 tokenize file (cache.park ticket stage task) := by
  refine sound.unwritten rfl ?_ ?_ ?_
  · intro other held found
    rcases tasks_park found with before | rfl
    · exact .inl before
    · exact .inr own
  · intro hash offset writing
    exact writing.other (fun other ne => PartialMap.insert_of_ne _ _ ne) idle
  · exact fun answer mem => .inl mem

/-- A call returns. -/
theorem Sound.ends (sound : Sound sha256 tokenize file cache) {answer : TokenizerAnswer}
    (own : AnswerSound sha256 tokenize answer)
    (idle : cache.Idle ticket) :
    Sound sha256 tokenize file
      { cache with
        tasks := cache.tasks.remove ticket
        answers := cache.answers ++ [answer] } := by
  refine sound.unwritten rfl ?_ ?_ ?_
  · exact fun other held found => .inl (PartialMap.of_remove_eq_some found).2
  · intro hash offset writing
    exact writing.other (fun other ne => PartialMap.remove_of_ne _ ne) idle
  · intro each mem
    rcases List.mem_append.mp mem with before | now
    · exact .inl before
    · cases List.mem_singleton.mp now
      exact .inr own

/-- A call opens or writes its file: what the others have still to write is as before. -/
theorem Sound.overwrites (sound : Sound sha256 tokenize file cache) {bytes contents : List UInt8}
    {offset : Nat} (found : cache.tasks ticket = some task)
    (own : bytes = file task.call.tokenizerSha256 ∧
      sha256Hex sha256 bytes = task.call.tokenizerSha256)
    (fills : Filling bytes contents fun place => place = offset ∨
      ∃ other held bytes, other ≠ ticket ∧ cache.tasks other = some held ∧
        held.call.tokenizerSha256 = task.call.tokenizerSha256 ∧
        held.stage = .writing bytes place) :
    Sound sha256 tokenize file
      (TokenizerCache.park ticket (afterWrite bytes offset) task
        { cache with files :=
            cache.files.insert (tokenizerPath task.call.tokenizerSha256) contents }) where
  tasks other held parked := by
    rcases PartialMap.of_insert_eq_some parked with ⟨-, rfl⟩ | ⟨-, before⟩
    · refine ⟨(sound.tasks ticket task found).prompt, ?_, ?_⟩
      · rintro written (at' | ⟨place, at'⟩)
        · unfold afterWrite at at'
          split at at' <;> cases at'
        · unfold afterWrite at at'
          split at at'
          · cases at'
          · cases at'
            exact own
      · intro _ _ _
        exact Option.isSome_iff_exists.mpr ⟨contents, PartialMap.insert_self ..⟩
    · obtain ⟨prompt, held', there⟩ := sound.tasks other held before
      refine ⟨prompt, held', fun written place at' => ?_⟩
      have kept := there written place at'
      dsimp only [TokenizerCache.park]
      rw [PartialMap.insert_apply]
      split
      · rfl
      · exact kept
  files hash stored present := by
    dsimp only [TokenizerCache.park] at present
    by_cases same : hash = task.call.tokenizerSha256
    · subst same
      rw [PartialMap.insert_self] at present
      cases present
      obtain ⟨rfl, digest⟩ := own
      refine ⟨digest, fills.mono fun place ahead => ?_⟩
      rcases ahead with rfl | ⟨other, held, written, ne, parked, named, at'⟩
      · by_cases ended : place = (file task.call.tokenizerSha256).length
        · exact .inl (Nat.le_of_eq ended.symm)
        · exact .inr ⟨ticket, _, file task.call.tokenizerSha256, PartialMap.insert_self .., rfl,
            if_neg ended⟩
      · exact .inr ⟨other, held, written, (PartialMap.insert_of_ne _ _ ne).trans parked, named, at'⟩
    · rw [PartialMap.insert_of_ne _ _ (tokenizerPath_inj.not.mpr same)] at present
      obtain ⟨digest, filling⟩ := sound.files hash stored present
      refine ⟨digest, filling.mono ?_⟩
      rintro place ⟨other, held, written, parked, named, at'⟩
      have ne : other ≠ ticket := by
        rintro rfl
        cases found.symm.trans parked
        exact same named.symm
      exact .inr ⟨other, held, written, (PartialMap.insert_of_ne _ _ ne).trans parked, named, at'⟩
  answers := sound.answers

theorem resume_eq (found : cache.tasks ticket = some task)
    (goOn : TokenizerTask → TokenizerCache → TokenizerCache) :
    cache.resume ticket goOn = goOn task cache := by
  rw [resume, found]

theorem Sound.next {event : TokenizerEvent} (sound : Sound sha256 tokenize file cache)
    (enabled : cache.enabled event) (undisturbed : Undisturbed sha256 file cache event) :
    Sound sha256 tokenize file (next sha256 tokenize cache event) := by
  cases event with
  | countPromptTokens ticket call =>
      have idle : cache.Idle ticket := by
        intro task bytes offset found
        cases (show cache.tasks ticket = none from enabled).symm.trans found
      change Sound sha256 tokenize file (countPromptTokens ticket call cache)
      unfold countPromptTokens
      cases decoded : decodePromptHex call.promptHex with
      | none =>
          refine sound.unwritten rfl (fun _ _ => .inl) (fun _ _ => id) ?_
          intro answer mem
          rcases List.mem_append.mp mem with before | now
          · exact .inl before
          · cases List.mem_singleton.mp now
            exact .inr rfl
      | some prompt => exact sound.park ⟨decoded, by simp, by simp⟩ idle
  | created ticket =>
      obtain ⟨task, found, at'⟩ := enabled
      have idle := idle_of_stage found at' (by simp)
      have prompt := (sound.tasks ticket task found).prompt
      change Sound sha256 tokenize file (cache.resume ticket (created ticket))
      rw [resume_eq found, created]
      cases present : cache.files (tokenizerPath task.call.tokenizerSha256) with
      | none => exact sound.park ⟨prompt, by simp, by simp⟩ idle
      | some contents => exact sound.park ⟨prompt, by simp, by simp⟩ idle
  | fetched ticket body =>
      obtain ⟨task, found, at'⟩ := enabled
      have idle := idle_of_stage found at' (by simp)
      have prompt := (sound.tasks ticket task found).prompt
      change Sound sha256 tokenize file (cache.resume ticket (fetched sha256 ticket body))
      rw [resume_eq found]
      cases body with
      | none => exact sound.ends rfl idle
      | some bytes =>
          dsimp only [fetched]
          split
          · rename_i digest
            refine sound.park ⟨prompt, ?_, by simp⟩ idle
            rintro written (at' | ⟨offset, at'⟩)
            · cases at'
              have same : file (sha256Hex sha256 bytes) = bytes := undisturbed
              rw [digest] at same
              exact ⟨same.symm, digest⟩
            · cases at'
          · exact sound.ends rfl idle
  | opened ticket opens =>
      obtain ⟨bytes, task, found, at'⟩ := enabled
      change Sound sha256 tokenize file (cache.resume ticket (opened ticket opens))
      rw [resume_eq found, opened, at']
      dsimp only
      split
      · exact sound.overwrites found ((sound.tasks ticket task found).bytes bytes (.inl at'))
          (.opened bytes (.inl rfl))
      · exact sound.ends rfl (idle_of_stage found at' (by simp))
  | wrote ticket count =>
      obtain ⟨bytes, offset, ⟨task, found, at'⟩, fits⟩ := enabled
      obtain ⟨count, rfl⟩ := Option.ne_none_iff_exists'.mp undisturbed
      have own := (sound.tasks ticket task found).bytes bytes (.inr ⟨offset, at'⟩)
      have there := (sound.tasks ticket task found).there bytes offset at'
      obtain ⟨contents, present⟩ := Option.isSome_iff_exists.mp there
      change Sound sha256 tokenize file (cache.resume ticket (wrote ticket (some count)))
      rw [resume_eq found]
      unfold wrote
      rw [at']
      dsimp only
      rw [present, Option.getD_some]
      apply sound.overwrites found own
      have filling := (sound.files _ contents present).2
      rw [← own.1] at filling
      refine filling.write 0 (fits count rfl).2 ?_ (.inl rfl)
      rintro place ⟨other, held, written, parked, named, writes⟩
      by_cases same : other = ticket
      · subst same
        cases found.symm.trans parked
        cases at'.symm.trans writes
        exact .inl rfl
      · exact .inr (.inr ⟨other, held, written, same, parked, named, writes⟩)
  | loaded ticket =>
      obtain ⟨task, found, at'⟩ := enabled
      have prompt := (sound.tasks ticket task found).prompt
      change Sound sha256 tokenize file (cache.resume ticket (loaded tokenize ticket))
      rw [resume_eq found, loaded]
      refine sound.ends ?_ (idle_of_stage found at' (by simp))
      cases present : cache.files (tokenizerPath task.call.tokenizerSha256) with
      | none => rfl
      | some contents =>
          obtain ⟨digest, filling⟩ := sound.files _ contents present
          -- nobody writes, so that the file is whole
          cases filling.whole fun offset => undisturbed task offset found
          exact ⟨digest, task.prompt, prompt, rfl⟩
  | restarted =>
      refine sound.unwritten rfl ?_ ?_ fun answer mem => .inl mem
      · rintro _ _ ⟨⟩
      · intro hash offset writing
        exact absurd writing (undisturbed hash offset)

end Step

/-- As long as no write is cut off and no file is loaded while somebody writes it, whatever is
loaded in any run has the hash that was asked for, and counts the tokens of the prompt. -/
theorem loaded_of_run {sha256 : Digest} {tokenize : List UInt8 → String → Option Nat}
    {file : String → List UInt8} {files : PartialMap String (List UInt8)}
    {events : List TokenizerEvent} {cache : TokenizerCache} {answer : TokenizerAnswer}
    (whole : ∀ hash contents, files (tokenizerPath hash) = some contents →
      contents = file hash ∧ sha256Hex sha256 contents = hash)
    (run : (system sha256 tokenize).RunWith (Undisturbed sha256 file) (new files) events cache)
    (mem : answer ∈ cache.answers) : AnswerSound sha256 tokenize answer := by
  have sound : Sound sha256 tokenize file cache := by
    apply run.invariant
    · refine ⟨nofun, fun hash contents present => ?_, nofun⟩
      obtain ⟨rfl, digest⟩ := whole hash contents present
      exact ⟨digest, .refl _ _⟩
    · exact fun state event sound enabled undisturbed => sound.next enabled undisturbed
  exact sound.answers answer mem

/-- A call for the tokenizer that consists of the bytes 1 and 2, under itself as a hash. -/
def pairCall : TokenizeCall :=
  ⟨"r", 0, "url", "0102", ""⟩

/-- How many bytes a tokenizer has. -/
def byteCount (contents : List UInt8) (_ : String) : Option Nat :=
  some contents.length

/-- Two calls find no file; the second one empties it when the first one is halfway. -/
def overlapping : List TokenizerEvent :=
  [.countPromptTokens 0 pairCall, .countPromptTokens 1 pairCall, .created 0, .created 1,
    .fetched 0 (some [1, 2]), .fetched 1 (some [1, 2]), .opened 0 true, .wrote 0 (some 1),
    .opened 1 true, .wrote 0 (some 1), .wrote 1 (some 2), .loaded 0]

/-- An instance of `loaded_of_run`: the file is loaded after it was written twice over. -/
theorem loaded_of_run_overlapping :
    AnswerSound id byteCount ⟨pairCall, some [1, 2], some 2⟩ := by
  have run : (system id byteCount).RunWith (Undisturbed id fun _ => [1, 2])
      (new PartialMap.empty) overlapping
      ((system id byteCount).execute (new PartialMap.empty) overlapping) := by
    apply System.Admits.runWith
    refine ⟨⟨rfl, trivial⟩, ⟨rfl, trivial⟩, ⟨⟨_, rfl, rfl⟩, trivial⟩, ⟨⟨_, rfl, rfl⟩, trivial⟩,
      ⟨⟨_, rfl, rfl⟩, rfl⟩, ⟨⟨_, rfl, rfl⟩, rfl⟩, ⟨⟨_, _, rfl, rfl⟩, trivial⟩,
      ⟨⟨_, _, ⟨_, rfl, rfl⟩, ?_⟩, nofun⟩, ⟨⟨_, _, rfl, rfl⟩, trivial⟩,
      ⟨⟨_, _, ⟨_, rfl, rfl⟩, ?_⟩, nofun⟩, ⟨⟨_, _, ⟨_, rfl, rfl⟩, ?_⟩, nofun⟩,
      ⟨⟨_, rfl, rfl⟩, ?_⟩, trivial⟩
    · rintro _ ⟨⟩
      decide
    · rintro _ ⟨⟩
      decide
    · rintro _ ⟨⟩
      decide
    · rintro task offset - ⟨writer, held, bytes, found, -, at'⟩
      match writer with
      | 0 =>
          cases found
          cases at'
      | 1 =>
          cases found
          cases at'
      | writer + 2 => cases found
  exact loaded_of_run (by rintro _ _ ⟨⟩) run List.mem_cons_self

/-- The process stops while a tokenizer is written, and the next one takes the part that there
is for the whole. -/
theorem part_loaded :
    ∃ events answer, (system id byteCount).Run (new PartialMap.empty) events
        ((system id byteCount).execute (new PartialMap.empty) events) ∧
      answer ∈ ((system id byteCount).execute (new PartialMap.empty) events).answers ∧
      answer.loaded = some [1] ∧ ¬ AnswerSound id byteCount answer := by
  refine ⟨[.countPromptTokens 0 pairCall, .created 0, .fetched 0 (some [1, 2]), .opened 0 true,
    .wrote 0 (some 1), .restarted, .countPromptTokens 1 pairCall, .created 1, .loaded 1],
    ⟨pairCall, some [1], some 1⟩, ?_, List.mem_cons_self, rfl, ?_⟩
  · apply System.Admits.runWith
    refine ⟨⟨rfl, trivial⟩, ⟨⟨_, rfl, rfl⟩, trivial⟩, ⟨⟨_, rfl, rfl⟩, trivial⟩,
      ⟨⟨_, _, rfl, rfl⟩, trivial⟩, ⟨⟨_, _, ⟨_, rfl, rfl⟩, ?_⟩, trivial⟩, ⟨trivial, trivial⟩,
      ⟨rfl, trivial⟩, ⟨⟨_, rfl, rfl⟩, trivial⟩, ⟨⟨_, rfl, rfl⟩, trivial⟩, trivial⟩
    rintro _ ⟨⟩
    decide
  · rintro ⟨digest, -⟩
    revert digest
    decide

end TokenizerCache

end StratumBridge.Speculative
