import StratumBridge.Lifecycle.Attempts
import StratumBridge.Transition.Run
import Mathlib.Data.List.Induction

/-!
# Rounds of commits

One call of `do_commit` from its start to its end, together with what it heard from
csd: every round asks every address, the first round with a success is the last one,
and the rows say what came of it.
-/

namespace StratumBridge.Lifecycle

open Data Transition

/-! ## What was heard -/

/-- The answers of one round, in the order they came. -/
def answersIn (heard : List (Nat × String × CommitAnswer)) (round : Nat) :
    List (String × CommitAnswer) :=
  (heard.filter fun entry => entry.1 = round).map Prod.snd

/-- The first success among the answers of a round. -/
def firstSuccess (answers : List (String × CommitAnswer)) : Option CommitResult :=
  answers.foldl (fun first entry => CommitTask.noteSuccess first entry.2) none

/-- The last answer for an address. -/
def lastAnswer (answers : List (String × CommitAnswer)) (address : String) :
    Option CommitAnswer :=
  ((answers.filter fun entry => entry.1 = address).getLast?).map Prod.snd

theorem answersIn_append (heard later : List (Nat × String × CommitAnswer)) (round : Nat) :
    answersIn (heard ++ later) round = answersIn heard round ++ answersIn later round := by
  simp only [answersIn, List.filter_append, List.map_append]

theorem answersIn_singleton (round : Nat) (entry : String × CommitAnswer) :
    answersIn [(round, entry)] round = [entry] := by
  simp [answersIn]

theorem answersIn_singleton_of_ne {round other : Nat} (ne : round ≠ other)
    (entry : String × CommitAnswer) : answersIn [(round, entry)] other = [] := by
  simp [answersIn, ne]

theorem firstSuccess_append (answers : List (String × CommitAnswer))
    (entry : String × CommitAnswer) :
    firstSuccess (answers ++ [entry]) = CommitTask.noteSuccess (firstSuccess answers) entry.2 := by
  rw [firstSuccess, List.foldl_append]
  rfl

/-- What is found first is what csd answered for some address. -/
theorem mem_of_firstSuccess {answers : List (String × CommitAnswer)} {result : CommitResult}
    (first : firstSuccess answers = some result) :
    ∃ address, (address, .ok result) ∈ answers := by
  induction answers using List.reverseRecOn with
  | nil => cases first
  | append_singleton answers entry ih =>
      rw [firstSuccess_append] at first
      rcases entry with ⟨address, answer⟩
      cases found : firstSuccess answers with
      | some earlier =>
          have same : earlier = result := by
            cases answer <;> simpa [CommitTask.noteSuccess, found] using first
          obtain ⟨address, mem⟩ := ih (same ▸ found)
          exact ⟨address, List.mem_append_left _ mem⟩
      | none =>
          rw [found] at first
          cases answer with
          | error reason => cases first
          | ok last =>
              cases first
              exact ⟨address, List.mem_append_right _ (List.mem_singleton_self _)⟩

/-- Nothing is found only when every address failed. -/
theorem firstSuccess_eq_none_iff {answers : List (String × CommitAnswer)} :
    firstSuccess answers = none ↔ ∀ address result, (address, .ok result) ∉ answers := by
  constructor
  · intro nothing
    induction answers using List.reverseRecOn with
    | nil => exact fun _ _ => List.not_mem_nil
    | append_singleton answers entry ih =>
        rw [firstSuccess_append] at nothing
        rcases entry with ⟨last, answer⟩
        cases found : firstSuccess answers with
        | some earlier =>
            rw [found] at nothing
            cases answer <;> cases nothing
        | none =>
            rw [found] at nothing
            cases answer with
            | ok result => cases nothing
            | error reason =>
                intro address result mem
                rcases List.mem_append.mp mem with earlier | here
                · exact ih found address result earlier
                · cases List.mem_singleton.mp here
  · intro failures
    cases found : firstSuccess answers with
    | none => rfl
    | some result =>
        obtain ⟨address, mem⟩ := mem_of_firstSuccess found
        exact absurd mem (failures address result)

theorem lastAnswer_append (answers : List (String × CommitAnswer)) (address other : String)
    (answer : CommitAnswer) : lastAnswer (answers ++ [(address, answer)]) other =
      if address = other then some answer else lastAnswer answers other := by
  rw [lastAnswer, List.filter_append]
  by_cases same : address = other
  · simp [same]
  · simp [same, lastAnswer]

theorem exists_lastAnswer {answers : List (String × CommitAnswer)} {address : String}
    {answer : CommitAnswer} (mem : (address, answer) ∈ answers) :
    ∃ last, lastAnswer answers address = some last := by
  have listed : (address, answer) ∈ answers.filter fun entry => entry.1 = address :=
    List.mem_filter.mpr ⟨mem, decide_eq_true rfl⟩
  cases last : (answers.filter fun entry => entry.1 = address).getLast? with
  | none =>
      rw [List.getLast?_eq_none_iff.mp last] at listed
      cases listed
  | some entry => exact ⟨entry.2, by rw [lastAnswer, last]; rfl⟩

/-- The last answer for each address stands in the row of its attempt. -/
def Reflects (db : Database) (id : SubmissionId) (stored : List (String × CommitAnswer)) : Prop :=
  ∀ address answer, lastAnswer stored address = some answer →
    ∃ attemptId attempt, db.attempts.find? attemptId = some attempt ∧
      attempt.target = some (id, address) ∧ Stores answer attempt

theorem Reflects.upsert {db after : Database} {id : SubmissionId}
    {stored : List (String × CommitAnswer)} {address : String} {answer : CommitAnswer}
    (reflects : Reflects db id stored)
    (upserts : db.Upserts id address (Stores answer) after) :
    Reflects after id (stored ++ [(address, answer)]) := by
  intro other last isLast
  rw [lastAnswer_append] at isLast
  split at isLast
  · rename_i same
    cases isLast
    exact same ▸ upserts.present
  · rename_i ne
    obtain ⟨attemptId, attempt, found, target, stands⟩ := reflects other last isLast
    rcases upserts.forward attemptId attempt found with kept | ⟨same, -⟩
    · exact ⟨attemptId, attempt, kept, target, stands⟩
    · rw [target] at same
      cases same
      exact absurd rfl ne

theorem Reflects.congr {db after : Database} {id : SubmissionId}
    {stored : List (String × CommitAnswer)} (reflects : Reflects db id stored)
    (same : after.attempts = db.attempts) : Reflects after id stored := by
  intro address answer isLast
  rw [same]
  exact reflects address answer isLast

/-! ## The call -/

/-- A call of `do_commit` until it is over, the database, and the answers heard so far
with their rounds. -/
structure CommitRun where
  task : Option CommitTask
  db : Database
  heard : List (Nat × String × CommitAnswer)

namespace CommitTask

/-- The answer that a signal brings. -/
def hears : CommitTask → Signal → List (Nat × String × CommitAnswer)
  | .collecting round _ _, .answered address answer => [(round, address, answer)]
  | _, _ => []

/-- The answers that are not stored yet. -/
def unstored : CommitTask → List (String × CommitAnswer)
  | .collecting _ _ results => results
  | .persisting _ results _ => results
  | _ => []

end CommitTask

namespace CommitRun

/-- The call begins. -/
def start (pool : StakePool) (db : Database) : CommitRun :=
  ⟨some (CommitTask.start pool), db, []⟩

def next (pool : StakePool) (id : SubmissionId) (run : CommitRun) (signal : Signal) :
    CommitRun :=
  match run.task with
  | some task =>
      ⟨task.advance pool signal, task.write id signal run.db, run.heard ++ task.hears signal⟩
  | none => run

/-- The call for one submission. -/
def system (pool : StakePool) (id : SubmissionId) : System CommitRun Signal where
  enabled run signal := ∃ task, run.task = some task ∧ task.accepts signal
  next := next pool id

/-- Statements are carried out, and that is heard of. -/
def Succeeds (id : SubmissionId) (run : CommitRun) (signal : Signal) : Prop :=
  ∀ task outcome, run.task = some task → signal = .written outcome →
    outcome = .done ∧ task.statement id run.db ≠ none

end CommitRun

/-! ## The rounds that were run -/

/-- The round has asked every address. -/
def Tried (pool : StakePool) (heard : List (Nat × String × CommitAnswer)) (round : Nat) : Prop :=
  ((answersIn heard round).map Prod.fst).Perm pool.addresses

/-- The rounds before this one asked every address in vain, and there was none after. -/
structure Ran (pool : StakePool) (heard : List (Nat × String × CommitAnswer)) (round : Nat) :
    Prop where
  positive : 0 < round
  within : round ≤ maxRounds
  tried : ∀ earlier, 0 < earlier → earlier < round → Tried pool heard earlier
  barren : ∀ earlier < round, firstSuccess (answersIn heard earlier) = none
  later : ∀ other, round < other → answersIn heard other = []

/-- Where a call stands after what it heard. -/
def Fits (pool : StakePool) (heard : List (Nat × String × CommitAnswer)) : CommitTask → Prop
  | .collecting round waiting results =>
      Ran pool heard round ∧ answersIn heard round = results ∧ waiting ≠ [] ∧
        (results.map Prod.fst ++ waiting).Perm pool.addresses
  | .persisting round results first =>
      Ran pool heard round ∧ Tried pool heard round ∧ results ≠ [] ∧
        ∃ stored, answersIn heard round = stored ++ results ∧ first = firstSuccess stored
  | .marking result => ∃ round, Ran pool heard round ∧ Tried pool heard round ∧
      firstSuccess (answersIn heard round) = some result
  | .resting round => Ran pool heard round ∧ Tried pool heard round ∧ round < maxRounds ∧
      firstSuccess (answersIn heard round) = none
  | .failing => Ran pool heard maxRounds ∧ Tried pool heard maxRounds ∧
      firstSuccess (answersIn heard maxRounds) = none

section Fits

variable {pool : StakePool} {heard : List (Nat × String × CommitAnswer)} {round : Nat}
  {results : List (String × CommitAnswer)} {waiting : List String}

theorem fits_endRound (ran : Ran pool heard round) (tried : Tried pool heard round) :
    Fits pool heard (CommitTask.endRound round (firstSuccess (answersIn heard round))) := by
  cases first : firstSuccess (answersIn heard round) with
  | some result =>
      change Fits pool heard (.marking result)
      exact ⟨round, ran, tried, first⟩
  | none =>
      rw [CommitTask.endRound]
      by_cases before : round < maxRounds
      · rw [if_pos before]
        exact ⟨ran, tried, before, first⟩
      · have same : round = maxRounds := Nat.le_antisymm ran.within (Nat.le_of_not_lt before)
        rw [if_neg before]
        subst same
        exact ⟨ran, tried, first⟩

theorem fits_persist {stored : List (String × CommitAnswer)} (ran : Ran pool heard round)
    (tried : Tried pool heard round) (split : answersIn heard round = stored ++ results) :
    Fits pool heard (CommitTask.persist round (firstSuccess stored) results) := by
  cases results with
  | nil =>
      rw [List.append_nil] at split
      rw [← split]
      exact fits_endRound ran tried
  | cons entry rest => exact ⟨ran, tried, List.cons_ne_nil _ _, stored, split, rfl⟩

theorem fits_collect (ran : Ran pool heard round) (same : answersIn heard round = results)
    (perm : (results.map Prod.fst ++ waiting).Perm pool.addresses) :
    Fits pool heard (CommitTask.collect round results waiting) := by
  cases waiting with
  | nil =>
      rw [List.append_nil] at perm
      have tried : Tried pool heard round := by rwa [Tried, same]
      have split : answersIn heard round = [] ++ results := same
      exact fits_persist ran tried split
  | cons address rest => exact ⟨ran, same, List.cons_ne_nil _ _, perm⟩

theorem fits_startRound (ran : Ran pool heard round) (fresh : answersIn heard round = []) :
    Fits pool heard (CommitTask.startRound pool round) :=
  ⟨ran, fresh, pool.nonempty, List.Perm.refl _⟩

theorem ran_first (pool : StakePool) : Ran pool [] 1 where
  positive := Nat.one_pos
  within := by decide
  tried earlier positive before := by omega
  barren _ _ := rfl
  later _ _ := rfl

/-- The next round begins. -/
theorem Ran.succ (ran : Ran pool heard round) (tried : Tried pool heard round)
    (before : round < maxRounds) (barren : firstSuccess (answersIn heard round) = none) :
    Ran pool heard (round + 1) where
  positive := Nat.succ_pos _
  within := before
  tried earlier positive below := by
    rcases Nat.lt_succ_iff_lt_or_eq.mp below with less | rfl
    · exact ran.tried earlier positive less
    · exact tried
  barren earlier below := by
    rcases Nat.lt_succ_iff_lt_or_eq.mp below with less | rfl
    · exact ran.barren earlier less
    · exact barren
  later other after := ran.later other (Nat.lt_of_succ_lt after)

/-- Another answer of the round. -/
theorem Ran.hear (ran : Ran pool heard round) (entry : String × CommitAnswer) :
    Ran pool (heard ++ [(round, entry)]) round := by
  have others : ∀ other, round ≠ other →
      answersIn (heard ++ [(round, entry)]) other = answersIn heard other := by
    intro other ne
    rw [answersIn_append, answersIn_singleton_of_ne ne, List.append_nil]
  constructor
  · exact ran.positive
  · exact ran.within
  · intro earlier positive before
    rw [Tried, others earlier (Nat.ne_of_gt before)]
    exact ran.tried earlier positive before
  · intro earlier before
    rw [others earlier (Nat.ne_of_gt before)]
    exact ran.barren earlier before
  · intro other after
    rw [others other (Nat.ne_of_lt after)]
    exact ran.later other after

/-- What a signal leads to fits what was heard, unless the call is over. -/
theorem Fits.advance {task after : CommitTask} {signal : Signal} (fits : Fits pool heard task)
    (accepted : task.accepts signal) (advanced : task.advance pool signal = some after) :
    Fits pool (heard ++ task.hears signal) after := by
  cases task with
  | collecting round waiting results =>
      cases signal with
      | answered address answer =>
          rcases fits with ⟨ran, same, -, perm⟩
          cases advanced
          have asked : address ∈ waiting := List.mem_of_mem_take accepted
          apply fits_collect (ran.hear _)
          · rw [answersIn_append, same, answersIn_singleton]
          · rw [List.map_append, List.append_assoc]
            apply List.Perm.trans _ perm
            apply List.Perm.append_left
            exact (List.perm_cons_erase asked).symm
      | _ => exact accepted.elim
  | persisting round results first =>
      cases results with
      | nil => cases signal <;> exact accepted.elim
      | cons entry rest =>
          cases signal with
          | written outcome =>
              rcases fits with ⟨ran, tried, -, stored, split, rfl⟩
              cases advanced
              change Fits pool (heard ++ []) _
              rw [List.append_nil, ← firstSuccess_append]
              apply fits_persist ran tried
              rw [split, List.append_assoc]
              rfl
          | _ => exact accepted.elim
  | resting round =>
      cases signal with
      | rested =>
          rcases fits with ⟨ran, tried, before, barren⟩
          cases advanced
          change Fits pool (heard ++ []) _
          rw [List.append_nil]
          exact fits_startRound (ran.succ tried before barren) (ran.later _ (Nat.lt_succ_self _))
      | _ => exact accepted.elim
  | marking result =>
      cases signal with
      | written outcome => cases advanced
      | _ => exact accepted.elim
  | failing =>
      cases signal with
      | written outcome => cases advanced
      | _ => exact accepted.elim

end Fits

/-! ## The rows -/

/-- A submission that csd accepted a commit for. -/
def acceptedRow (result : CommitResult) (row : Submission) : Submission :=
  { row with
    status := .committed
    commitTxid := some result.txid
    commitNonceHex := some result.nonceHex
    commitWindowClosesAtHeight := some result.closesAt }

/-- A submission that was given up. -/
def givenUpRow (row : Submission) : Submission :=
  { row with
    status := .failed
    failReason := some (truncated CommitTask.failureReason) }

/-- A submission with the closing height that csd gave. -/
def committedRow (result : CommitResult) (row : Submission) : Submission :=
  { acceptedRow result row with
    commitWindowClosesAtHeight := some result.commitWindowClosesAtHeight.toNat }

/-- `as i32` keeps the heights below `2 ^ 31`, up to `2 ^ 32`. -/
theorem closesAt_eq_iff {result : CommitResult} {height : UInt64} :
    result.closesAt = height.toNat ↔ height.toNat < 2 ^ 31 ∧
      result.commitWindowClosesAtHeight.toNat % 2 ^ 32 = height.toNat := by
  have stored : result.commitWindowClosesAtHeight.toUInt32.toBitVec.toNat =
      result.commitWindowClosesAtHeight.toNat % 2 ^ 32 := by
    rw [UInt32.toNat_toBitVec, UInt64.toNat_toUInt32]
  have signed := BitVec.toInt_eq_toNat_cond
    result.commitWindowClosesAtHeight.toUInt32.toBitVec
  rw [stored] at signed
  change result.commitWindowClosesAtHeight.toUInt32.toBitVec.toInt = _ ↔ _
  rw [signed]
  constructor
  · intro same
    split at same <;> omega
  · rintro ⟨small, same⟩
    rw [if_pos (by omega), same]

namespace Database

theorem find?_updateSubmission {db after : Database} {id : SubmissionId}
    {change : Submission → Submission} {row : Submission}
    (updated : db.updateSubmission id change = some after)
    (found : db.submissions.find? id = some row) :
    after.submissions.find? id = some (change row) := by
  obtain ⟨submissions, replaced, same⟩ := Option.bind_eq_some_iff.mp updated
  cases same
  rw [Table.find?_update replaced, if_pos rfl, found]
  rfl

theorem updateSubmission_ne_none {db : Database} {id : SubmissionId}
    {change : Submission → Submission}
    (accepted : (db.submissions.update id change).isSome = true) :
    db.updateSubmission id change ≠ none := by
  obtain ⟨submissions, updated⟩ := Option.isSome_iff_exists.mp accepted
  rw [updateSubmission, updated]
  exact Option.some_ne_none _

theorem upsert_ne_none {db : Database} {target : SubmissionId × String} {row : CommitAttempt}
    {change : CommitAttempt → CommitAttempt} (keyed : row.target = some target)
    (keeps : ∀ attempt, (change attempt).target = attempt.target) :
    (do
      let attempts ← db.attempts.upsert target row change
      pure { db with attempts } : Option Database) ≠ none := by
  obtain ⟨attempts, upserted⟩ := Option.isSome_iff_exists.mp (Table.upsert_isSome keyed keeps)
  rw [upserted]
  exact Option.some_ne_none _

/-- The attempt of an address can always be stored. -/
theorem storeAttempt_ne_none (db : Database) (id : SubmissionId) (address : String)
    (answer : CommitAnswer) : CommitTask.storeAttempt id address answer db ≠ none := by
  cases answer with
  | ok result => exact upsert_ne_none rfl fun _ => rfl
  | error reason => exact upsert_ne_none rfl fun _ => rfl

end Database

namespace CommitTask

/-- For a submission that is not FAILED no statement is refused. -/
theorem statement_ne_none {db : Database} {id : SubmissionId} {row : Submission}
    {task : CommitTask} (found : db.submissions.find? id = some row)
    (active : row.status ≠ .failed) (writes : ∃ outcome, task.accepts (.written outcome)) :
    task.statement id db ≠ none := by
  rcases writes with ⟨outcome, accepted⟩
  cases task with
  | persisting round results first =>
      cases results with
      | nil => exact accepted.elim
      | cons entry rest => exact db.storeAttempt_ne_none id entry.1 entry.2
  | marking result =>
      apply Database.updateSubmission_ne_none
      apply Table.update_isSome
      intro held same
      cases found.symm.trans same
      rw [Submission.activeRequest, Submission.activeRequest, if_neg active]
      rfl
  | failing =>
      apply Database.updateSubmission_ne_none
      exact Table.update_isSome_of_eq_none fun _ => rfl
  | _ => exact accepted.elim

theorem unstored_persist (round : Nat) (first : Option CommitResult)
    (results : List (String × CommitAnswer)) :
    (persist round first results).unstored = results := by
  cases results with
  | nil =>
      cases first with
      | some result => rfl
      | none =>
          rw [persist, endRound]
          split <;> rfl
  | cons entry rest => rfl

theorem unstored_collect (round : Nat) (results : List (String × CommitAnswer))
    (waiting : List String) : (collect round results waiting).unstored = results := by
  cases waiting with
  | nil => exact unstored_persist round none results
  | cons address rest => rfl

end CommitTask

namespace CommitRun

variable {pool : StakePool} {id : SubmissionId} {before : Database} {run : CommitRun}

/-- What the rounds came to, and what the row of the submission says of it. -/
def Ended (pool : StakePool) (id : SubmissionId) (before after : Database)
    (heard : List (Nat × String × CommitAnswer)) : Prop :=
  ∃ last, Ran pool heard last ∧ Tried pool heard last ∧
    (∀ result, firstSuccess (answersIn heard last) = some result →
      ∀ row, before.submissions.find? id = some row →
        after.submissions.find? id = some (acceptedRow result row)) ∧
    (firstSuccess (answersIn heard last) = none → last = maxRounds ∧
      ∀ row, before.submissions.find? id = some row →
        after.submissions.find? id = some (givenUpRow row))

/-- The answers are in the rows, but for those not stored yet; the row of the
submission is as it was until the end. -/
structure Sound (pool : StakePool) (id : SubmissionId) (before : Database) (run : CommitRun) :
    Prop where
  stored : ∃ stored, Reflects run.db id stored ∧
    run.heard.map Prod.snd = stored ++ (run.task.elim [] CommitTask.unstored)
  working : ∀ task, run.task = some task →
    Fits pool run.heard task ∧ run.db.submissions = before.submissions
  ended : run.task = none → Ended pool id before run.db run.heard

theorem sound_start (pool : StakePool) (id : SubmissionId) (db : Database) :
    Sound pool id db (start pool db) where
  stored := ⟨[], nofun, rfl⟩
  working := by
    rintro task ⟨rfl⟩
    exact ⟨fits_startRound (ran_first pool) rfl, rfl⟩
  ended := nofun

/-- An answer is heard, but not stored. -/
theorem sound_answered {round : Nat} {waiting : List String}
    {results : List (String × CommitAnswer)} {address : String} {answer : CommitAnswer}
    {db : Database} {heard : List (Nat × String × CommitAnswer)}
    (sound : Sound pool id before ⟨some (.collecting round waiting results), db, heard⟩)
    (asked : address ∈ waiting.take concurrency) :
    Sound pool id before ⟨some (CommitTask.collect round (results ++ [(address, answer)])
      (waiting.erase address)), db, heard ++ [(round, address, answer)]⟩ := by
  obtain ⟨fits, same⟩ := sound.working _ rfl
  rcases sound.stored with ⟨stored, reflects, split⟩
  constructor
  · refine ⟨stored, reflects, ?_⟩
    change (heard ++ [(round, address, answer)]).map Prod.snd = stored ++ CommitTask.unstored _
    change heard.map Prod.snd = stored ++ results at split
    rw [CommitTask.unstored_collect, List.map_append, split, List.append_assoc]
    rfl
  · rintro task ⟨rfl⟩
    have accepted : (CommitTask.collecting round waiting results).accepts
        (.answered address answer) := asked
    exact ⟨fits.advance accepted rfl, same⟩
  · nofun

/-- The next answer is stored. -/
theorem sound_persisted {round : Nat} {address : String} {answer : CommitAnswer}
    {rest : List (String × CommitAnswer)} {first : Option CommitResult} {db after : Database}
    {heard : List (Nat × String × CommitAnswer)}
    (sound : Sound pool id before ⟨some (.persisting round ((address, answer) :: rest) first), db,
      heard⟩)
    (upserts : db.Upserts id address (Stores answer) after) :
    Sound pool id before ⟨some (CommitTask.persist round (CommitTask.noteSuccess first answer)
      rest), after, heard⟩ := by
  obtain ⟨fits, same⟩ := sound.working _ rfl
  rcases sound.stored with ⟨stored, reflects, split⟩
  constructor
  · refine ⟨stored ++ [(address, answer)], reflects.upsert upserts, ?_⟩
    change heard.map Prod.snd = stored ++ (address, answer) :: rest at split
    change heard.map Prod.snd = stored ++ [(address, answer)] ++ CommitTask.unstored _
    rw [CommitTask.unstored_persist, split, List.append_assoc]
    rfl
  · rintro task ⟨rfl⟩
    have accepted : (CommitTask.persisting round ((address, answer) :: rest) first).accepts
        (.written .done) := trivial
    have advanced := fits.advance accepted rfl
    change Fits pool (heard ++ []) _ at advanced
    rw [List.append_nil] at advanced
    exact ⟨advanced, upserts.submissions.trans same⟩
  · nofun

/-- The next round begins. -/
theorem sound_rested {round : Nat} {db : Database}
    {heard : List (Nat × String × CommitAnswer)}
    (sound : Sound pool id before ⟨some (.resting round), db, heard⟩) :
    Sound pool id before ⟨some (CommitTask.startRound pool (round + 1)), db, heard⟩ := by
  obtain ⟨⟨ran, tried, within, barren⟩, same⟩ := sound.working _ rfl
  rcases sound.stored with ⟨stored, reflects, split⟩
  constructor
  · exact ⟨stored, reflects, split⟩
  · rintro task ⟨rfl⟩
    exact ⟨fits_startRound (ran.succ tried within barren) (ran.later _ (Nat.lt_succ_self _)), same⟩
  · nofun

/-- The row of the submission is changed, and the call is over. -/
theorem sound_over {task : CommitTask} {db after : Database}
    {heard : List (Nat × String × CommitAnswer)}
    (sound : Sound pool id before ⟨some task, db, heard⟩) (nothing : task.unstored = [])
    (same : after.attempts = db.attempts) (ended : Ended pool id before after heard) :
    Sound pool id before ⟨none, after, heard⟩ := by
  rcases sound.stored with ⟨stored, reflects, split⟩
  constructor
  · refine ⟨stored, reflects.congr same, ?_⟩
    change heard.map Prod.snd = stored ++ task.unstored at split
    rw [nothing] at split
    exact split
  · nofun
  · exact fun _ => ended

/-- A statement under way is carried out. -/
theorem exists_written {task : CommitTask} {outcome : Outcome} {db : Database}
    {heard : List (Nat × String × CommitAnswer)}
    (met : Succeeds id ⟨some task, db, heard⟩ (.written outcome)) :
    ∃ after, task.statement id db = some after ∧ task.write id (.written outcome) db = after := by
  obtain ⟨rfl, ran⟩ := met task outcome rfl rfl
  obtain ⟨after, ran⟩ := Option.ne_none_iff_exists'.mp ran
  refine ⟨after, ran, ?_⟩
  change (task.statement id db).getD db = after
  rw [ran]
  rfl

theorem Sound.next {signal : Signal} (sound : Sound pool id before run)
    (enabled : (system pool id).enabled run signal) (met : Succeeds id run signal) :
    Sound pool id before (run.next pool id signal) := by
  rcases run with ⟨_, db, heard⟩
  rcases enabled with ⟨task, ⟨rfl⟩, accepted⟩
  obtain ⟨fits, same⟩ := sound.working task rfl
  cases task with
  | collecting round waiting results =>
      cases signal with
      | answered address answer => exact sound_answered sound accepted
      | _ => exact accepted.elim
  | persisting round results first =>
      cases results with
      | nil => cases signal <;> exact accepted.elim
      | cons entry rest =>
          cases signal with
          | written outcome =>
              obtain ⟨after, ran, wrote⟩ := exists_written met
              have upserts : db.Upserts id entry.1 (Stores entry.2) after := by
                rcases entry with ⟨address, answer⟩
                cases answer with
                | ok result => exact Database.upserts_success ran
                | error reason => exact Database.upserts_failure ran
              have persisted := sound_persisted sound upserts
              rwa [← wrote, ← List.append_nil heard] at persisted
          | _ => exact accepted.elim
  | resting round =>
      cases signal with
      | rested =>
          have rested := sound_rested sound
          rwa [← List.append_nil heard] at rested
      | _ => exact accepted.elim
  | marking result =>
      cases signal with
      | written outcome =>
          obtain ⟨after, ran, wrote⟩ := exists_written met
          rcases fits with ⟨last, ranTo, tried, success⟩
          have ended : Ended pool id before after heard := by
            refine ⟨last, ranTo, tried, ?_, ?_⟩
            · intro first isFirst row found
              cases success.symm.trans isFirst
              exact Database.find?_updateSubmission ran (same ▸ found)
            · intro nothing
              cases success.symm.trans nothing
          have kept := sound_over sound rfl (Database.attempts_updateSubmission ran) ended
          rwa [← wrote, ← List.append_nil heard] at kept
      | _ => exact accepted.elim
  | failing =>
      cases signal with
      | written outcome =>
          obtain ⟨after, ran, wrote⟩ := exists_written met
          rcases fits with ⟨ranTo, tried, nothing⟩
          have ended : Ended pool id before after heard := by
            refine ⟨maxRounds, ranTo, tried, ?_, fun _ => ⟨rfl, fun row found => ?_⟩⟩
            · intro first isFirst
              cases nothing.symm.trans isFirst
            · exact Database.find?_updateSubmission ran (same ▸ found)
          have kept := sound_over sound rfl (Database.attempts_updateSubmission ran) ended
          rwa [← wrote, ← List.append_nil heard] at kept
      | _ => exact accepted.elim

/-! ## The end of the call -/

/-- The signals that are still to come, at most. -/
def rank (pool : StakePool) : Option CommitTask → Nat
  | some (.collecting round waiting results) =>
      (maxRounds - round) * (2 * pool.addresses.length + 2) + 2 * waiting.length +
        results.length + 1
  | some (.persisting round results _) =>
      (maxRounds - round) * (2 * pool.addresses.length + 2) + results.length + 1
  | some (.resting round) => (maxRounds - round) * (2 * pool.addresses.length + 2) + 1
  | some (.marking _) => 1
  | some .failing => 1
  | none => 0

theorem rank_persist_le (pool : StakePool) (round : Nat) (first : Option CommitResult)
    (results : List (String × CommitAnswer)) :
    rank pool (some (CommitTask.persist round first results)) ≤
      (maxRounds - round) * (2 * pool.addresses.length + 2) + results.length + 1 := by
  cases results with
  | cons entry rest => exact Nat.le_refl _
  | nil =>
      cases first with
      | some result => exact Nat.le_add_left _ _
      | none =>
          rw [CommitTask.persist, CommitTask.endRound]
          split
          · exact Nat.le_refl _
          · exact Nat.le_add_left _ _

theorem rank_collect_le (pool : StakePool) (round : Nat) (results : List (String × CommitAnswer))
    (waiting : List String) :
    rank pool (some (CommitTask.collect round results waiting)) ≤
      (maxRounds - round) * (2 * pool.addresses.length + 2) + 2 * waiting.length +
        results.length + 1 := by
  cases waiting with
  | cons address rest => exact Nat.le_refl _
  | nil => exact rank_persist_le pool round none results

/-- Every signal brings the call nearer to its end. -/
theorem Sound.rank_next_lt {signal : Signal} (sound : Sound pool id before run)
    (enabled : (system pool id).enabled run signal) :
    rank pool (run.next pool id signal).task < rank pool run.task := by
  rcases run with ⟨_, db, heard⟩
  rcases enabled with ⟨task, ⟨rfl⟩, accepted⟩
  obtain ⟨fits, -⟩ := sound.working task rfl
  cases task with
  | collecting round waiting results =>
      cases signal with
      | answered address answer =>
          have asked : address ∈ waiting := List.mem_of_mem_take accepted
          have left := List.length_erase_of_mem asked
          have someone := List.length_pos_of_mem asked
          have le := rank_collect_le pool round (results ++ [(address, answer)])
            (waiting.erase address)
          rw [List.length_append, List.length_singleton, left] at le
          apply Nat.lt_of_le_of_lt le
          change _ < _ + 2 * waiting.length + results.length + 1
          omega
      | _ => exact accepted.elim
  | persisting round results first =>
      cases results with
      | nil => cases signal <;> exact accepted.elim
      | cons entry rest =>
          cases signal with
          | written outcome =>
              have le := rank_persist_le pool round
                (CommitTask.noteSuccess first entry.2) rest
              apply Nat.lt_of_le_of_lt le
              change _ < _ + (rest.length + 1) + 1
              omega
          | _ => exact accepted.elim
  | resting round =>
      cases signal with
      | rested =>
          rcases fits with ⟨-, -, within, -⟩
          change (maxRounds - (round + 1)) * (2 * pool.addresses.length + 2) +
            2 * pool.addresses.length + 0 + 1 < (maxRounds - round) * _ + 1
          have split : maxRounds - round = maxRounds - (round + 1) + 1 := by omega
          have product : (maxRounds - (round + 1) + 1) * (2 * pool.addresses.length + 2) =
              (maxRounds - (round + 1)) * (2 * pool.addresses.length + 2) +
                (2 * pool.addresses.length + 2) := Nat.succ_mul _ _
          rw [split, product]
          omega
      | _ => exact accepted.elim
  | marking result =>
      cases signal with
      | written outcome => exact Nat.one_pos
      | _ => exact accepted.elim
  | failing =>
      cases signal with
      | written outcome => exact Nat.one_pos
      | _ => exact accepted.elim

/-- For a submission that is not FAILED every statement can be carried out. -/
theorem Sound.succeeds (sound : Sound pool id before run) {row : Submission}
    (found : before.submissions.find? id = some row) (active : row.status ≠ .failed)
    {signal : Signal} (enabled : (system pool id).enabled run signal)
    (done : ∀ outcome, signal = .written outcome → outcome = .done) : Succeeds id run signal := by
  rintro task outcome working rfl
  rcases enabled with ⟨held, alsoWorking, accepted⟩
  cases working.symm.trans alsoWorking
  obtain ⟨-, same⟩ := sound.working task working
  exact ⟨done outcome rfl,
    CommitTask.statement_ne_none (same ▸ found) active ⟨outcome, accepted⟩⟩

/-- A call that is not over goes on, with whatever answers csd gives. -/
theorem Sound.exists_next (sound : Sound pool id before run) (working : run.task ≠ none)
    {row : Submission} (found : before.submissions.find? id = some row)
    (active : row.status ≠ .failed) (matrix : Nat → String → CommitAnswer) :
    ∃ signal, (system pool id).enabled run signal ∧ Succeeds id run signal ∧
      ∀ round waiting results address answer,
        run.task = some (.collecting round waiting results) → signal = .answered address answer →
          answer = matrix round address := by
  rcases run with ⟨_ | task, db, heard⟩
  · exact absurd rfl working
  obtain ⟨fits, same⟩ := sound.working task rfl
  have write : task.accepts (.written .done) →
      ∃ signal, (system pool id).enabled ⟨some task, db, heard⟩ signal ∧
        Succeeds id ⟨some task, db, heard⟩ signal ∧
        ∀ round waiting results address answer,
          some task = some (.collecting round waiting results) →
            signal = .answered address answer → answer = matrix round address := by
    intro accepted
    refine ⟨.written .done, ⟨task, rfl, accepted⟩, ?_, nofun⟩
    apply sound.succeeds found active ⟨task, rfl, accepted⟩
    rintro _ ⟨rfl⟩
    rfl
  cases task with
  | collecting round waiting results =>
      rcases fits with ⟨-, -, someone, -⟩
      obtain ⟨address, rest, rfl⟩ := List.exists_cons_of_ne_nil someone
      refine ⟨.answered address (matrix round address), ⟨_, rfl, List.mem_cons_self⟩, nofun, ?_⟩
      rintro _ _ _ _ _ ⟨rfl⟩ ⟨rfl⟩
      rfl
  | persisting round results first =>
      rcases fits with ⟨-, -, someone, -⟩
      obtain ⟨entry, rest, rfl⟩ := List.exists_cons_of_ne_nil someone
      exact write trivial
  | resting round => exact ⟨.rested, ⟨_, rfl, trivial⟩, nofun, nofun⟩
  | marking result => exact write trivial
  | failing => exact write trivial

/-- Every address of the pool has its last answer in the row of its attempt. -/
theorem attempt_of_reflects {db : Database} {heard : List (Nat × String × CommitAnswer)}
    {last : Nat} {address : String} (reflects : Reflects db id (heard.map Prod.snd))
    (tried : Tried pool heard last) (mem : address ∈ pool.addresses) :
    ∃ answer attemptId attempt, lastAnswer (heard.map Prod.snd) address = some answer ∧
      db.attempts.find? attemptId = some attempt ∧ attempt.target = some (id, address) ∧
      (attempt.status = .committed ↔ ∃ result, answer = .ok result) ∧
      ∀ result, answer = .ok result → attempt.commitNonceHex = some result.nonceHex := by
  obtain ⟨⟨asked, answer⟩, inRound, rfl⟩ := List.mem_map.mp (tried.mem_iff.mpr mem)
  obtain ⟨entry, kept, same⟩ := List.mem_map.mp inRound
  have listed : (asked, answer) ∈ heard.map Prod.snd :=
    List.mem_map.mpr ⟨entry, List.mem_of_mem_filter kept, same⟩
  obtain ⟨final, isFinal⟩ := exists_lastAnswer listed
  obtain ⟨attemptId, attempt, found, target, stands⟩ := reflects asked final isFinal
  refine ⟨final, attemptId, attempt, isFinal, found, target, ?_, ?_⟩
  · cases final with
    | ok result => exact iff_of_true stands.1 ⟨result, rfl⟩
    | error reason =>
        refine iff_of_false ?_ nofun
        intro committed
        cases committed.symm.trans stands
  · rintro result rfl
    exact stands.2

/-- The row says that a commit of the last round was accepted, or that all rounds failed. -/
def Marked (id : SubmissionId) (row : Submission) (finish : CommitRun) (last : Nat) : Prop :=
  (∃ address result, (address, .ok result) ∈ answersIn finish.heard last ∧
    finish.db.submissions.find? id = some (acceptedRow result row)) ∨
  last = maxRounds ∧ (∀ address result, (address, .ok result) ∉ answersIn finish.heard last) ∧
    finish.db.submissions.find? id = some (givenUpRow row)

/-- What a call that is over has done, up to its last round. -/
structure RanThrough (pool : StakePool) (id : SubmissionId) (row : Submission)
    (finish : CommitRun) (last : Nat) : Prop where
  positive : 0 < last
  within : last ≤ maxRounds
  tried : ∀ round, 0 < round → round ≤ last →
    ((answersIn finish.heard round).map Prod.fst).Perm pool.addresses
  barren : ∀ round < last, ∀ address result,
    (address, .ok result) ∉ answersIn finish.heard round
  later : ∀ round, last < round → answersIn finish.heard round = []
  marked : Marked id row finish last
  attempts : ∀ address ∈ pool.addresses, ∃ answer attemptId attempt,
    lastAnswer (finish.heard.map Prod.snd) address = some answer ∧
      finish.db.attempts.find? attemptId = some attempt ∧
      attempt.target = some (id, address) ∧
      (attempt.status = .committed ↔ ∃ result, answer = .ok result) ∧
      ∀ result, answer = .ok result → attempt.commitNonceHex = some result.nonceHex

/-- The row has the txid, the nonce and the window of an address that was accepted in the
last round, or no round had a success and the row is FAILED. -/
def Recorded (id : SubmissionId) (row : Submission) (finish : CommitRun) (last : Nat) : Prop :=
  (∃ address result, (address, .ok result) ∈ answersIn finish.heard last ∧
    finish.db.submissions.find? id = some (committedRow result row)) ∨
  last = maxRounds ∧ (∀ address result, (address, .ok result) ∉ answersIn finish.heard last) ∧
    finish.db.submissions.find? id = some (givenUpRow row)

/-- The height in the first success of a round is below `2 ^ 31`; or what it leaves modulo
`2 ^ 32` is below `2 ^ 31`, and another success has it with the same txid and nonce. -/
def WindowsFit (heard : List (Nat × String × CommitAnswer)) : Prop :=
  ∀ round first, firstSuccess (answersIn heard round) = some first →
    ∃ address result, (address, .ok result) ∈ answersIn heard round ∧
      result.txid = first.txid ∧ result.nonceHex = first.nonceHex ∧
      result.commitWindowClosesAtHeight.toNat < 2 ^ 31 ∧
      first.commitWindowClosesAtHeight.toNat % 2 ^ 32 =
        result.commitWindowClosesAtHeight.toNat

/-- Heights below `2 ^ 31` fit. -/
theorem windowsFit_of_lt {heard : List (Nat × String × CommitAnswer)}
    (small : ∀ round address result, (address, .ok result) ∈ answersIn heard round →
      result.commitWindowClosesAtHeight.toNat < 2 ^ 31) : WindowsFit heard := by
  intro round first isFirst
  obtain ⟨address, mem⟩ := mem_of_firstSuccess isFirst
  have fits := small round address first mem
  exact ⟨address, first, mem, rfl, rfl, fits, Nat.mod_eq_of_lt (by omega)⟩

/-- The first success of the last round is recorded as another success of that round. -/
theorem acceptedRow_eq_committedRow_iff {first result : CommitResult} {row : Submission} :
    acceptedRow first row = committedRow result row ↔
      result.txid = first.txid ∧ result.nonceHex = first.nonceHex ∧
        first.closesAt = result.commitWindowClosesAtHeight.toNat := by
  constructor
  · intro same
    have txid := congrArg Submission.commitTxid same
    have nonce := congrArg Submission.commitNonceHex same
    have height := congrArg Submission.commitWindowClosesAtHeight same
    exact ⟨(Option.some.inj txid).symm, (Option.some.inj nonce).symm, Option.some.inj height⟩
  · rintro ⟨txid, nonce, height⟩
    rw [committedRow, ← height]
    simp only [acceptedRow, txid, nonce]

/-- After a success the row is right exactly if the height fits. -/
theorem recorded_iff_of_success {row : Submission} {finish : CommitRun} {last : Nat}
    {first : CommitResult} (isFirst : firstSuccess (answersIn finish.heard last) = some first)
    (sole : ∀ round ≠ last, firstSuccess (answersIn finish.heard round) = none)
    (accepted : finish.db.submissions.find? id = some (acceptedRow first row)) :
    Recorded id row finish last ↔ WindowsFit finish.heard := by
  constructor
  · rintro (⟨address, result, mem, stands⟩ | ⟨-, failures, -⟩)
    · intro round other isOther
      by_cases same : round = last
      · subst same
        cases isFirst.symm.trans isOther
        rw [accepted, Option.some_inj, acceptedRow_eq_committedRow_iff, closesAt_eq_iff] at stands
        exact ⟨address, result, mem, stands⟩
      · cases (sole round same).symm.trans isOther
    · rw [firstSuccess_eq_none_iff.mpr failures] at isFirst
      cases isFirst
  · intro fit
    obtain ⟨address, result, mem, same⟩ := fit last first isFirst
    rw [← closesAt_eq_iff, ← acceptedRow_eq_committedRow_iff] at same
    exact .inl ⟨address, result, mem, same ▸ accepted⟩

/-- What the invariant says of a call that is over. -/
theorem Sound.ranThrough (sound : Sound pool id before run) {row : Submission}
    (found : before.submissions.find? id = some row) (stopped : run.task = none) :
    ∃ last, RanThrough pool id row run last ∧
      (Recorded id row run last ↔ WindowsFit run.heard) := by
  obtain ⟨last, ran, tried, success, failure⟩ := sound.ended stopped
  have sole : ∀ round ≠ last, firstSuccess (answersIn run.heard round) = none := by
    intro round ne
    rcases Nat.lt_or_gt_of_ne ne with earlier | after
    · exact ran.barren round earlier
    · rw [ran.later round after]
      rfl
  have through : Marked id row run last → RanThrough pool id row run last := by
    intro marked
    constructor
    · exact ran.positive
    · exact ran.within
    · intro round positive upTo
      rcases Nat.lt_or_eq_of_le upTo with earlier | rfl
      · exact ran.tried round positive earlier
      · exact tried
    · exact fun round earlier => firstSuccess_eq_none_iff.mp (ran.barren round earlier)
    · exact ran.later
    · exact marked
    · intro address mem
      rcases sound.stored with ⟨stored, reflects, split⟩
      rw [stopped, Option.elim_none, List.append_nil] at split
      exact attempt_of_reflects (split ▸ reflects) tried mem
  cases first : firstSuccess (answersIn run.heard last) with
  | some result =>
      have accepted := success result first row found
      obtain ⟨address, mem⟩ := mem_of_firstSuccess first
      exact ⟨last, through (.inl ⟨address, result, mem, accepted⟩),
        recorded_iff_of_success first sole accepted⟩
  | none =>
      obtain ⟨fifth, failed⟩ := failure first
      have failures := firstSuccess_eq_none_iff.mp first
      have givenUp := failed row found
      refine ⟨last, through (.inr ⟨fifth, failures, givenUp⟩),
        iff_of_true (.inr ⟨fifth, failures, givenUp⟩) ?_⟩
      intro round result isFirst
      by_cases same : round = last
      · subst same
        cases first.symm.trans isFirst
      · cases (sole round same).symm.trans isFirst

/-- A call of `do_commit` whose statements are carried out comes to an end.  Then every
round up to the last one has asked every address once, and none before the last had a
success; the submission is COMMITTED after a success in the last round, or FAILED after
the fifth; and each attempt is COMMITTED with the nonce that its address was last told,
if it was.  The window in the row is the one of the success exactly if the heights fit
their column. -/
theorem reaches_end {db : Database} {signals : List Signal} {finish : CommitRun}
    {row : Submission} (found : db.submissions.find? id = some row)
    (called : (system pool id).RunWith (Succeeds id) (start pool db) signals finish) :
    signals.length ≤ maxRounds * (2 * pool.addresses.length + 2) ∧
    (finish.task ≠ none → row.status ≠ .failed → ∀ matrix : Nat → String → CommitAnswer,
      ∃ signal, (system pool id).enabled finish signal ∧ Succeeds id finish signal ∧
        ∀ round waiting results address answer,
          finish.task = some (.collecting round waiting results) →
            signal = .answered address answer → answer = matrix round address) ∧
    (finish.task = none → ∃ last, RanThrough pool id row finish last ∧
      (Recorded id row finish last ↔ WindowsFit finish.heard)) := by
  have sound : Sound pool id db finish :=
    called.invariant (sound_start pool id db) fun _ _ held enabled met => held.next enabled met
  refine ⟨?_, fun working active matrix => sound.exists_next working found active matrix, ?_⟩
  · have length := called.length_add_rank_le (fun run => rank pool run.task)
      (sound_start pool id db) fun _ _ held enabled met =>
        ⟨held.next enabled met, held.rank_next_lt enabled⟩
    have first : rank pool (start pool db).task = (maxRounds - 1) *
        (2 * pool.addresses.length + 2) + 2 * pool.addresses.length + 0 + 1 := rfl
    have product : maxRounds * (2 * pool.addresses.length + 2) = (maxRounds - 1) *
        (2 * pool.addresses.length + 2) + (2 * pool.addresses.length + 2) := Nat.succ_mul _ _
    omega
  · intro stopped
    exact sound.ranThrough found stopped

/-- The row of a response that no commit was made for. -/
def soleReceived : Submission where
  toNewSubmission := Service.soleResponse
  status := .received
  failReason := none
  commitTxid := none
  commitNonceHex := none
  commitWindowClosesAtHeight := none
  revealTxid := none
  contentPublished := false
  rewardAmount := none
  paid := false
  payoutTxid := none

/-- Its only address fails once, and is accepted in the second round. -/
def twoRounds : List Signal :=
  [.answered "a" (.error "suspended"), .written .done, .rested,
    .answered "a" (.ok Service.soleCommit), .written .done, .written .done]

/-- An accepted commit whose window closes at `2 ^ 31`. -/
def farCommit : CommitResult := { Service.soleCommit with commitWindowClosesAtHeight := 2147483648 }

/-- Its only address is accepted with that window. -/
def farSignals : List Signal := [.answered "a" (.ok farCommit), .written .done, .written .done]

/-- The call, before anything was heard. -/
def soleStart : CommitRun :=
  start Service.solePool ⟨Table.single soleReceived, Table.empty⟩

/-- Statements of the sole call that are under way are carried out. -/
theorem succeeds_sole {signals : List Signal}
    (admitted : (system Service.solePool 1).Admits
      (fun _ signal => ∀ outcome, signal = .written outcome → outcome = .done) soleStart signals) :
    (system Service.solePool 1).RunWith (Succeeds 1) soleStart signals
      ((system Service.solePool 1).execute soleStart signals) := by
  have found : soleStart.db.submissions.find? 1 = some soleReceived := rfl
  apply admitted.runWith.strengthen (sound_start Service.solePool 1 soleStart.db)
  intro run signal held enabled done
  have met := held.succeeds found nofun enabled done
  exact ⟨held.next enabled met, met⟩

/-- It is accepted in the end. -/
theorem reaches_end_twoRounds : ∃ finish last,
    (system Service.solePool 1).RunWith (Succeeds 1) soleStart twoRounds finish ∧
    finish.task = none ∧ RanThrough Service.solePool 1 soleReceived finish last ∧
    Recorded 1 soleReceived finish last ∧
    finish.db.submissions.find? 1 = some (acceptedRow Service.soleCommit soleReceived) := by
  have called : (system Service.solePool 1).RunWith (Succeeds 1) soleStart twoRounds
      ((system Service.solePool 1).execute soleStart twoRounds) :=
    succeeds_sole ⟨⟨⟨_, rfl, List.mem_singleton_self "a"⟩, nofun⟩,
      ⟨⟨_, rfl, trivial⟩, by rintro _ ⟨rfl⟩; rfl⟩, ⟨⟨_, rfl, trivial⟩, nofun⟩,
      ⟨⟨_, rfl, List.mem_singleton_self "a"⟩, nofun⟩,
      ⟨⟨_, rfl, trivial⟩, by rintro _ ⟨rfl⟩; rfl⟩,
      ⟨⟨_, rfl, trivial⟩, by rintro _ ⟨rfl⟩; rfl⟩, trivial⟩
  have found : soleStart.db.submissions.find? 1 = some soleReceived := rfl
  have stopped : ((system Service.solePool 1).execute soleStart twoRounds).task = none := rfl
  have heard : ((system Service.solePool 1).execute soleStart twoRounds).heard =
      [(1, "a", .error "suspended"), (2, "a", .ok Service.soleCommit)] := rfl
  obtain ⟨last, through, recorded⟩ := (reaches_end found called).2.2 stopped
  have fits : WindowsFit ((system Service.solePool 1).execute soleStart twoRounds).heard := by
    apply windowsFit_of_lt
    intro round address result mem
    rw [heard] at mem
    obtain ⟨entry, kept, same⟩ := List.mem_map.mp mem
    rcases List.mem_cons.mp (List.mem_of_mem_filter kept) with rfl | second
    · cases same
    · cases List.mem_singleton.mp second
      cases same
      decide
  exact ⟨_, last, called, stopped, through, recorded.mpr fits, rfl⟩

/-- The window closes at `2 ^ 31`, and the row of the submission says `-2 ^ 31`. -/
theorem window_stored_negative : ∃ finish,
    (system Service.solePool 1).RunWith (Succeeds 1) soleStart farSignals finish ∧
    finish.task = none ∧ answersIn finish.heard 1 = [("a", .ok farCommit)] ∧
    (finish.db.submissions.find? 1).map (fun row => (row.status, row.commitWindowClosesAtHeight)) =
      some (.committed, some (-2147483648)) ∧
    ∀ last, ¬ Recorded 1 soleReceived finish last := by
  have called : (system Service.solePool 1).RunWith (Succeeds 1) soleStart farSignals
      ((system Service.solePool 1).execute soleStart farSignals) :=
    succeeds_sole ⟨⟨⟨_, rfl, List.mem_singleton_self "a"⟩, nofun⟩,
      ⟨⟨_, rfl, trivial⟩, by rintro _ ⟨rfl⟩; rfl⟩,
      ⟨⟨_, rfl, trivial⟩, by rintro _ ⟨rfl⟩; rfl⟩, trivial⟩
  have stands : ((system Service.solePool 1).execute soleStart farSignals).db.submissions.find? 1 =
      some (acceptedRow farCommit soleReceived) := rfl
  refine ⟨_, called, rfl, rfl, rfl, ?_⟩
  rintro last (⟨address, result, -, recorded⟩ | ⟨-, -, givenUp⟩)
  · rw [stands, Option.some_inj, acceptedRow_eq_committedRow_iff] at recorded
    have negative : farCommit.closesAt < 0 := by decide
    omega
  · rw [stands, Option.some_inj] at givenUp
    cases congrArg Submission.status givenUp

end CommitRun

end StratumBridge.Lifecycle
