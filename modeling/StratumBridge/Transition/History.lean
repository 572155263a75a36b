import Mathlib.Data.List.Basic

/-!
# Histories by subject

A log records entries about many subjects.  The history of one subject is the
part of the log that is about it; appending entries about a single subject
extends that subject's history and no other.
-/

namespace StratumBridge.Transition

universe u v

variable {κ : Type u} {ε : Type v} {subject : ε → κ} {key other : κ}

/-- All the entries are about one subject. -/
def About (subject : ε → κ) (key : κ) (entries : List ε) : Prop :=
  ∀ entry ∈ entries, subject entry = key

theorem about_nil : About subject key [] := by
  simp [About]

theorem about_singleton {entry : ε} (same : subject entry = key) :
    About subject key [entry] := by
  simpa [About] using same

theorem About.cons {entry : ε} {entries : List ε} (same : subject entry = key)
    (rest : About subject key entries) : About subject key (entry :: entries) := by
  intro each mem
  rcases List.mem_cons.mp mem with rfl | inRest
  · exact same
  · exact rest each inRest

theorem About.append {first second : List ε} (firstAbout : About subject key first)
    (secondAbout : About subject key second) : About subject key (first ++ second) := by
  intro entry mem
  rcases List.mem_append.mp mem with inFirst | inSecond
  · exact firstAbout entry inFirst
  · exact secondAbout entry inSecond

/-! ## Since the last mark -/

/-- The entries after the last one that is a mark. -/
def sinceLast (mark : ε → Bool) (log : List ε) : List ε :=
  (log.reverse.takeWhile fun entry => !mark entry).reverse

/-- Entries that are no marks are added at the end. -/
theorem sinceLast_append {mark : ε → Bool} {entries : List ε} (log : List ε)
    (unmarked : ∀ entry ∈ entries, mark entry = false) :
    sinceLast mark (log ++ entries) = sinceLast mark log ++ entries := by
  have passes : ∀ entry ∈ entries.reverse, (!mark entry) = true := by
    intro entry mem
    rw [unmarked entry (List.mem_reverse.mp mem)]
    rfl
  rw [sinceLast, List.reverse_append, List.takeWhile_append_of_pos passes, List.reverse_append,
    List.reverse_reverse]
  rfl

/-- After a mark nothing older counts. -/
theorem sinceLast_mark {mark : ε → Bool} {entry : ε} {entries : List ε} (log : List ε)
    (marked : mark entry = true) (unmarked : ∀ entry ∈ entries, mark entry = false) :
    sinceLast mark (log ++ entry :: entries) = entries := by
  have fresh : sinceLast mark (log ++ [entry]) = [] := by
    rw [sinceLast, List.reverse_append, List.reverse_singleton, List.singleton_append,
      List.takeWhile_cons_of_neg (by simp [marked]), List.reverse_nil]
  rw [List.append_cons, sinceLast_append _ unmarked, fresh, List.nil_append]

/-! ## Recipients -/

/-- The log has grown by entries that go to allowed recipients, where they go to
anybody. -/
def Grows (recipient : ε → Option κ) (allowed : κ → Prop) (before after : List ε) : Prop :=
  ∃ added, after = before ++ added ∧
    ∀ entry ∈ added, ∀ someone, recipient entry = some someone → allowed someone

section Grows

variable {recipient : ε → Option κ} {allowed : κ → Prop} {before middle after : List ε}

theorem Grows.refl (log : List ε) : Grows recipient allowed log log :=
  ⟨[], (List.append_nil log).symm, fun _ mem => absurd mem List.not_mem_nil⟩

/-- One more entry, for nobody. -/
theorem grows_of_none {entry : ε} (log : List ε) (nobody : recipient entry = none) :
    Grows recipient allowed log (log ++ [entry]) := by
  refine ⟨[entry], rfl, ?_⟩
  intro added mem someone addressed
  rw [List.mem_singleton.mp mem, nobody] at addressed
  cases addressed

theorem Grows.trans (first : Grows recipient allowed before middle)
    (second : Grows recipient allowed middle after) : Grows recipient allowed before after := by
  rcases first with ⟨early, rfl, earlyAllowed⟩
  rcases second with ⟨late, rfl, lateAllowed⟩
  refine ⟨early ++ late, List.append_assoc .., ?_⟩
  intro entry mem
  rcases List.mem_append.mp mem with inEarly | inLate
  · exact earlyAllowed entry inEarly
  · exact lateAllowed entry inLate

end Grows

/-! ## Reasons -/

/-- Every entry of a log has its reason in the entries before it. -/
def Justified (reason : ε → List ε → Prop) (log : List ε) : Prop :=
  ∀ earlier entry later, log = earlier ++ entry :: later → reason entry earlier

section Justified

variable {reason : ε → List ε → Prop} {log : List ε}

theorem justified_nil : Justified reason [] := by
  intro earlier entry later split
  cases earlier <;> cases split

/-- A log may grow by an entry that has its reason. -/
theorem Justified.snoc {entry : ε} (justified : Justified reason log) (holds : reason entry log) :
    Justified reason (log ++ [entry]) := by
  intro earlier last later split
  rcases List.eq_nil_or_concat later with rfl | ⟨between, final, rfl⟩
  · obtain ⟨rfl, same⟩ := List.append_inj' split rfl
    cases same
    exact holds
  · rw [List.concat_eq_append, ← List.cons_append, ← List.append_assoc] at split
    exact justified earlier last between (List.append_inj' split rfl).1

/-- A log may grow by entries that need no reason. -/
theorem Justified.append {entries : List ε} (justified : Justified reason log)
    (needless : ∀ entry ∈ entries, ∀ earlier, reason entry earlier) :
    Justified reason (log ++ entries) := by
  induction entries generalizing log with
  | nil => rwa [List.append_nil]
  | cons entry entries ih =>
      rw [List.append_cons]
      apply ih (justified.snoc (needless entry List.mem_cons_self log))
      exact fun other mem => needless other (List.mem_cons_of_mem _ mem)

end Justified

variable [DecidableEq κ]

/-- The entries of a log that are about one subject, oldest first. -/
def historyOf (subject : ε → κ) (key : κ) (log : List ε) : List ε :=
  log.filter fun entry => subject entry = key

/-- Entries about a subject extend its history. -/
theorem historyOf_append_self {log entries : List ε} (about : About subject key entries) :
    historyOf subject key (log ++ entries) = historyOf subject key log ++ entries := by
  rw [historyOf, List.filter_append]
  congr 1
  exact List.filter_eq_self.mpr fun entry mem => by simpa using about entry mem

/-- Entries about a subject leave all other histories alone. -/
theorem historyOf_append_of_ne {log entries : List ε} (about : About subject key entries)
    (ne : other ≠ key) :
    historyOf subject other (log ++ entries) = historyOf subject other log := by
  rw [historyOf, List.filter_append]
  have nothing : (entries.filter fun entry => subject entry = other) = [] := by
    apply List.filter_eq_nil_iff.mpr
    intro entry mem
    simp [about entry mem, ne.symm]
  rw [nothing, List.append_nil]
  rfl

/-- Nothing goes to a recipient that is not allowed. -/
theorem Grows.historyOf_eq {recipient : ε → Option κ} {allowed : κ → Prop}
    {before after : List ε} (grows : Grows recipient allowed before after)
    (refused : ¬ allowed key) :
    historyOf recipient (some key) after = historyOf recipient (some key) before := by
  rcases grows with ⟨added, rfl, addressed⟩
  have nothing : (added.filter fun entry => recipient entry = some key) = [] := by
    apply List.filter_eq_nil_iff.mpr
    intro entry mem toKey
    exact refused (addressed entry mem key (of_decide_eq_true toKey))
  rw [historyOf, List.filter_append, nothing, List.append_nil]
  rfl

end StratumBridge.Transition
