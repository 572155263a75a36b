import Mathlib.Data.List.Infix
import Mathlib.Data.List.Induction

/-!
# Stretches between marks

Some entries of a log are marks.  A stretch is a part of the log with no mark behind its
first entry; the longest one that ends with the log is what has come since the last mark,
that mark included.  Where few entries of a stretch are chosen and marks keep a distance
in time, few are chosen in an interval of that length.
-/

namespace StratumBridge.Sequence

variable {ε : Type} (mark : ε → Bool)

/-- The last mark and what comes after it, or everything where there is no mark. -/
def fromLast (log : List ε) : List ε :=
  log.foldl (fun run entry => if mark entry then [entry] else run ++ [entry]) []

/-- A part of the log with no mark behind its first entry. -/
def Stretch (log stretch : List ε) : Prop :=
  ∃ before after, log = before ++ stretch ++ after ∧
    ∀ entry ∈ stretch.tail, mark entry = false

variable {mark} {log before stretch : List ε} {entry : ε}

@[simp]
theorem fromLast_nil : fromLast mark [] = [] :=
  rfl

theorem fromLast_snoc (log : List ε) (entry : ε) :
    fromLast mark (log ++ [entry]) =
      if mark entry then [entry] else fromLast mark log ++ [entry] := by
  rw [fromLast, List.foldl_append]
  rfl

theorem fromLast_snoc_of_mark (log : List ε) (marked : mark entry = true) :
    fromLast mark (log ++ [entry]) = [entry] := by
  rw [fromLast_snoc, if_pos marked]

theorem fromLast_snoc_of_unmarked (log : List ε) (unmarked : mark entry = false) :
    fromLast mark (log ++ [entry]) = fromLast mark log ++ [entry] := by
  rw [fromLast_snoc, if_neg (by simp [unmarked])]

theorem fromLast_eq_nil_iff : fromLast mark log = [] ↔ log = [] := by
  induction log using List.reverseRecOn with
  | nil => simp
  | append_singleton log entry ih =>
      rw [fromLast_snoc]
      split <;> simp

theorem fromLast_suffix (log : List ε) : fromLast mark log <:+ log := by
  induction log using List.reverseRecOn with
  | nil => exact List.suffix_refl _
  | append_singleton log entry ih =>
      rw [fromLast_snoc]
      split
      · exact List.suffix_append log [entry]
      · rcases ih with ⟨before, whole⟩
        exact ⟨before, by rw [← List.append_assoc, whole]⟩

theorem unmarked_of_mem_tail (mem : entry ∈ (fromLast mark log).tail) : mark entry = false := by
  induction log using List.reverseRecOn with
  | nil => cases mem
  | append_singleton log last ih =>
      cases marked : mark last with
      | true =>
          rw [fromLast_snoc_of_mark log marked] at mem
          cases mem
      | false =>
          rw [fromLast_snoc_of_unmarked log marked] at mem
          cases since : fromLast mark log with
          | nil =>
              rw [since] at mem
              cases mem
          | cons first rest =>
              rw [since] at mem ih
              rw [List.cons_append, List.tail_cons] at mem
              rcases List.mem_append.mp mem with inRest | isLast
              · exact ih inRest
              · rw [List.mem_singleton.mp isLast]
                exact marked

/-- A stretch at the end of a log has come since its last mark. -/
theorem suffix_fromLast (unmarked : ∀ entry ∈ stretch.tail, mark entry = false) :
    stretch <:+ fromLast mark (before ++ stretch) := by
  induction stretch using List.reverseRecOn with
  | nil => exact List.nil_suffix
  | append_singleton stretch last ih =>
      rw [← List.append_assoc]
      cases stretch with
      | nil =>
          rw [List.append_nil, List.nil_append, fromLast_snoc]
          split
          · exact List.suffix_refl _
          · exact List.suffix_append _ _
      | cons first rest =>
          rw [List.cons_append, List.tail_cons] at unmarked
          rw [fromLast_snoc_of_unmarked _ (unmarked last (by simp))]
          obtain ⟨earlier, whole⟩ := ih fun entry mem => unmarked entry (List.mem_append_left _ mem)
          exact ⟨earlier, by rw [← whole, List.append_assoc]⟩

/-- What holds of few entries since the last mark, always, holds of few in every
stretch. -/
theorem forall_stretch_iff {chosen : ε → Bool} {limit : Nat} :
    (∀ stretch, Stretch mark log stretch → (stretch.filter chosen).length ≤ limit) ↔
      ∀ before, before <+: log → ((fromLast mark before).filter chosen).length ≤ limit := by
  constructor
  · rintro few before ⟨after, rfl⟩
    apply few
    have behind : fromLast mark before <:+ before := fromLast_suffix before
    rcases behind with ⟨earlier, whole⟩
    exact ⟨earlier, after, by rw [whole], fun entry mem => unmarked_of_mem_tail mem⟩
  · rintro few stretch ⟨before, after, rfl, unmarked⟩
    have behind : stretch <:+ fromLast mark (before ++ stretch) := suffix_fromLast unmarked
    have sub := behind.sublist.filter chosen
    exact sub.length_le.trans (few (before ++ stretch) (List.prefix_append _ _))

/-! ## Intervals -/

section Interval

variable {time : ε → Nat} {chosen : ε → Bool} {limit window start : Nat}

/-- The entry is chosen in the interval. -/
def within (time : ε → Nat) (chosen : ε → Bool) (start window : Nat) (entry : ε) : Bool :=
  chosen entry && decide (start ≤ time entry) && decide (time entry < start + window)

theorem within_eq_false (outside : time entry < start ∨ start + window ≤ time entry) :
    within time chosen start window entry = false := by
  unfold within
  rcases outside with early | late
  · simp [Nat.not_le.mpr early]
  · simp [Nat.not_lt.mpr late]

theorem length_filter_within_le (entries : List ε) :
    (entries.filter (within time chosen start window)).length ≤
      (entries.filter chosen).length := by
  apply List.Sublist.length_le
  apply List.monotone_filter_right
  intro entry isWithin
  unfold within at isWithin
  simp only [Bool.and_eq_true] at isWithin
  exact isWithin.1.1

/-- Times go up, and a mark comes at a distance from the mark before. -/
structure Spaced (mark : ε → Bool) (time : ε → Nat) (window : Nat) (log : List ε) : Prop where
  ordered : log.Pairwise fun first second => time first ≤ time second
  apart : ∀ before entry, before ++ [entry] <+: log → mark entry = true →
    ∀ first ∈ (fromLast mark before).head?, time first + window ≤ time entry

theorem Spaced.of_isPrefix {log before : List ε} (spaced : Spaced mark time window log)
    (earlier : before <+: log) : Spaced mark time window before where
  ordered := spaced.ordered.sublist earlier.sublist
  apart first entry isPrefix := spaced.apart first entry (isPrefix.trans earlier)

/-- How many are chosen in an interval: no more than since the last mark if that came
before the interval, and no more than in two stretches. -/
structure Sparse (mark : ε → Bool) (time : ε → Nat) (chosen : ε → Bool)
    (limit window start : Nat) (log : List ε) : Prop where
  total : (log.filter (within time chosen start window)).length ≤ 2 * limit
  early : ∀ first ∈ (fromLast mark log).head?, time first < start →
    (log.filter (within time chosen start window)).length ≤
      ((fromLast mark log).filter chosen).length
  inside : ∀ first ∈ (fromLast mark log).head?, time first < start + window →
    (log.filter (within time chosen start window)).length ≤
      limit + ((fromLast mark log).filter chosen).length

theorem sparse_nil : Sparse mark time chosen limit window start [] where
  total := Nat.zero_le _
  early _ mem _ := by cases mem
  inside _ mem _ := by cases mem

/-- A mark is far from the mark before, so that an interval it falls into has entries of
one stretch before it at most. -/
theorem Sparse.snoc_mark (sparse : Sparse mark time chosen limit window start log)
    (spaced : Spaced mark time window (log ++ [entry])) (marked : mark entry = true)
    (before : ((fromLast mark log).filter chosen).length ≤ limit)
    (now : ([entry].filter chosen).length ≤ limit) :
    Sparse mark time chosen limit window start (log ++ [entry]) := by
  have added : ([entry].filter (within time chosen start window)).length ≤
      ([entry].filter chosen).length := length_filter_within_le [entry]
  have earlier : ∀ other ∈ log, time other ≤ time entry := fun other mem =>
    (List.pairwise_append.mp spaced.ordered).2.2 other mem entry List.mem_cons_self
  -- the stretch before began before the interval
  have inside : time entry < start + window →
      (log.filter (within time chosen start window)).length ≤ limit := by
    intro soon
    cases since : (fromLast mark log).head? with
    | none =>
        rw [List.head?_eq_none_iff, fromLast_eq_nil_iff] at since
        rw [since]
        exact Nat.zero_le _
    | some first =>
        have apart := spaced.apart log entry (List.prefix_refl _) marked first since
        exact (sparse.early first since (by omega)).trans before
  have whole : fromLast mark (log ++ [entry]) = [entry] := fromLast_snoc_of_mark log marked
  refine ⟨?_, ?_, ?_⟩
  · rw [List.filter_append, List.length_append]
    by_cases soon : time entry < start + window
    · have few := inside soon
      omega
    · have outside : within time chosen start window entry = false :=
        within_eq_false (Or.inr (Nat.le_of_not_lt soon))
      rw [List.filter_cons_of_neg (by simp [outside])]
      exact sparse.total
  · intro first mem early
    rw [whole] at mem ⊢
    cases mem
    have nothing : (log ++ [entry]).filter (within time chosen start window) = [] := by
      apply List.filter_eq_nil_iff.mpr
      intro other mem
      have early : time other < start := by
        rcases List.mem_append.mp mem with inLog | isLast
        · exact (earlier other inLog).trans_lt early
        · rwa [List.mem_singleton.mp isLast]
      have outside : within time chosen start window other = false :=
        within_eq_false (Or.inl early)
      simp [outside]
    rw [nothing]
    exact Nat.zero_le _
  · intro first mem soon
    rw [whole] at mem ⊢
    cases mem
    rw [List.filter_append, List.length_append]
    have few := inside soon
    omega

theorem Sparse.snoc_unmarked (sparse : Sparse mark time chosen limit window start log)
    (spaced : Spaced mark time window (log ++ [entry])) (unmarked : mark entry = false)
    (now : ((fromLast mark (log ++ [entry])).filter chosen).length ≤ limit) :
    Sparse mark time chosen limit window start (log ++ [entry]) := by
  have added : ([entry].filter (within time chosen start window)).length ≤
      ([entry].filter chosen).length := length_filter_within_le [entry]
  have whole : fromLast mark (log ++ [entry]) = fromLast mark log ++ [entry] :=
    fromLast_snoc_of_unmarked log unmarked
  rw [whole, List.filter_append, List.length_append] at now
  have parts : ((log ++ [entry]).filter (within time chosen start window)).length =
      (log.filter (within time chosen start window)).length +
        ([entry].filter (within time chosen start window)).length := by
    rw [List.filter_append, List.length_append]
  have chosenParts : ((fromLast mark (log ++ [entry])).filter chosen).length =
      ((fromLast mark log).filter chosen).length + ([entry].filter chosen).length := by
    rw [whole, List.filter_append, List.length_append]
  cases since : (fromLast mark log).head? with
  | none =>
      rw [List.head?_eq_none_iff] at since
      obtain rfl := fromLast_eq_nil_iff.mp since
      rw [List.filter_nil, List.length_nil, Nat.zero_add] at parts
      refine ⟨by omega, ?_, ?_⟩
      · intro first _ _
        omega
      · intro first _ _
        omega
  | some first =>
      have same : (fromLast mark (log ++ [entry])).head? = some first := by
        rw [whole, List.head?_append, since, Option.some_or]
      have inLog : first ∈ log :=
        (fromLast_suffix log).subset (List.mem_of_head? since)
      have earlier : time first ≤ time entry :=
        (List.pairwise_append.mp spaced.ordered).2.2 first inLog entry List.mem_cons_self
      refine ⟨?_, ?_, ?_⟩
      · by_cases soon : time first < start + window
        · have few := sparse.inside first since soon
          omega
        · have outside : within time chosen start window entry = false :=
            within_eq_false (Or.inr ((Nat.le_of_not_lt soon).trans earlier))
          rw [parts, List.filter_cons_of_neg (by simp [outside])]
          exact sparse.total
      · intro other mem early
        rw [same] at mem
        cases mem
        have few := sparse.early first since early
        omega
      · intro other mem soon
        rw [same] at mem
        cases mem
        have few := sparse.inside first since soon
        omega

/-- Few are chosen in an interval. -/
theorem length_filter_within_le_two_mul (spaced : Spaced mark time window log)
    (few : ∀ before, before <+: log → ((fromLast mark before).filter chosen).length ≤ limit)
    (start : Nat) : (log.filter (within time chosen start window)).length ≤ 2 * limit := by
  have sparse : Sparse mark time chosen limit window start log := by
    induction log using List.reverseRecOn with
    | nil => exact sparse_nil
    | append_singleton log entry ih =>
        have before := List.prefix_append log [entry]
        have held := ih (spaced.of_isPrefix before) fun first isPrefix =>
          few first (isPrefix.trans before)
        have now := few (log ++ [entry]) (List.prefix_refl _)
        cases marked : mark entry with
        | true =>
            apply held.snoc_mark spaced marked (few log before)
            rwa [fromLast_snoc_of_mark log marked] at now
        | false => exact held.snoc_unmarked spaced marked now
  exact sparse.total

end Interval

end StratumBridge.Sequence
