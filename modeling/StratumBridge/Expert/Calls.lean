import StratumBridge.Data.Metered
import StratumBridge.Expert.Header

/-!
# The work of a header

The calls of `skip_metadata_value` made by one parse, at all levels of nesting.  Every
call that succeeds takes bytes of its own, the twelve of its type and its count where it
skips an array, so that the buffer pays for the calls whatever counts it declares.  How
deep they nest is bounded by the bytes left; the call stack is taken to hold as much.
-/

namespace StratumBridge.Expert

open Data Wire

/-- A parser that counts the calls of `skip_metadata_value`. -/
abbrev Counted (α : Type) := Metered UInt8 ParseErr α

/-! ## Counting -/

/-- `readTimes` of a parser that counts. -/
def repeated (read : Counted Unit) : Nat → Counted Unit
  | 0 => return ()
  | count + 1 => do
      read
      repeated read count

/-- `skipMetadataValueTo`, counting itself.  Only an array has calls inside. -/
def countedSkipTo : Nat → UInt32 → Counted Unit
  | 0, vtype => .free (skipMetadataValueTo 0 vtype)
  | depth + 1, vtype => do
      Metered.tick
      if vtype = 9 then
        let elemType ← .free readU32
        let len ← .free readU64
        if maxMetadataOrTensorCount < len then
          .free (throw
            (.invalid ("metadata array length " ++ toString len ++ " exceeds sanity cap")))
        else
          repeated (countedSkipTo depth elemType) len.toNat
      else
        .free (skipMetadataValueTo (depth + 1) vtype)

/-- `skipMetadataValue`, counting itself. -/
def countedSkip (vtype : UInt32) : Counted Unit := fun bytes =>
  countedSkipTo (bytes.length + 1) vtype bytes

/-- `skipMetadata`, counting. -/
def countedSkipMetadata : Counted Unit := do
  .free (ignore readGgufString)
  let vtype ← .free readU32
  countedSkip vtype

/-- `readGguf`, counting. -/
def countedReadGguf : Counted (IndexMap String GgufTensorInfo) := do
  let magic ← .free (readExactOrIncomplete 4)
  if magic ≠ ggufMagic then
    .free (throw (.invalid ("bad GGUF magic bytes " ++ toString magic)))
  else
    .free (ignore readU32)
    let tensorCount ← .free readU64
    let kvCount ← .free readU64
    if maxMetadataOrTensorCount < tensorCount ∨ maxMetadataOrTensorCount < kvCount then
      .free (throw (.invalid ("implausible tensor_count=" ++ toString tensorCount ++
        "/kv_count=" ++ toString kvCount)))
    else
      repeated countedSkipMetadata kvCount.toNat
      .free (readTensorInfos tensorCount.toNat .empty)

/-! ## What is counted is what is run -/

theorem reader_repeated {read : Counted Unit} (count : Nat) :
    (repeated read count).reader = readTimes read.reader count := by
  induction count with
  | zero => rfl
  | succ count ih =>
      rw [repeated, Metered.reader_bind, ih]
      rfl

/-- Skipping an array. -/
theorem skipMetadataValueTo_array (depth : Nat) :
    skipMetadataValueTo (depth + 1) 9 = (do
      let elemType ← readU32
      let len ← readU64
      if maxMetadataOrTensorCount < len then
        throw (.invalid ("metadata array length " ++ toString len ++ " exceeds sanity cap"))
      else
        readTimes (skipMetadataValueTo depth elemType) len.toNat) :=
  rfl

theorem reader_countedSkipTo (depth : Nat) (vtype : UInt32) :
    (countedSkipTo depth vtype).reader = skipMetadataValueTo depth vtype := by
  induction depth generalizing vtype with
  | zero => rfl
  | succ depth ih =>
      rw [countedSkipTo, Metered.reader_bind]
      by_cases isArray : vtype = 9
      · subst isArray
        simp only [if_true, Metered.reader_bind, Metered.reader_free, Metered.reader_tick,
          apply_ite Metered.reader, reader_repeated, ih, skipMetadataValueTo_array]
        rfl
      · rw [if_neg isArray]
        rfl

theorem reader_countedSkip (vtype : UInt32) :
    (countedSkip vtype).reader = skipMetadataValue vtype := by
  funext bytes
  exact congrFun (reader_countedSkipTo (bytes.length + 1) vtype) bytes

theorem reader_countedSkipMetadata : countedSkipMetadata.reader = skipMetadata := by
  simp only [countedSkipMetadata, Metered.reader_bind, Metered.reader_free, reader_countedSkip]
  rfl

theorem reader_countedReadGguf : countedReadGguf.reader = readGguf := by
  simp only [countedReadGguf, Metered.reader_bind, Metered.reader_free,
    apply_ite Metered.reader, reader_repeated, reader_countedSkipMetadata]
  rfl

/-! ## Progress -/

theorem takes_readExactOrIncomplete (count : Nat) : Takes count (readExactOrIncomplete count) := by
  intro bytes value rest done
  have length := length_of_readExactOrIncomplete done
  omega

theorem takes_readU32 : Takes 4 readU32 :=
  (takes_readExactOrIncomplete 4).bind fun _ => .pure _

theorem takes_readU64 : Takes 8 readU64 :=
  (takes_readExactOrIncomplete 8).bind fun _ => .pure _

theorem takes_readGgufString : Takes 8 readGgufString := by
  refine takes_readU64.bind fun len => ?_
  split
  · exact .throw _
  · exact (shrinks_readExactOrIncomplete _).bind fun _ => .pure _

/-- A reader that takes more takes less. -/
theorem takes_one_ignore {α : Type} {read : Parser α} {count : Nat} (takes : Takes count read)
    (some : 1 ≤ count) : Takes 1 (ignore read) := by
  have whole : Takes count (ignore read) := takes.bind fun _ => .pure _
  intro bytes value rest done
  have enough := whole bytes value rest done
  omega

/-- A value that is skipped takes a byte. -/
theorem takes_skipMetadataValueTo (depth : Nat) (vtype : UInt32) :
    Takes 1 (skipMetadataValueTo depth vtype) := by
  cases depth with
  | zero => exact .throw 1 _
  | succ depth =>
      unfold skipMetadataValueTo
      split_ifs
      · exact takes_one_ignore (takes_readExactOrIncomplete 1) (by decide)
      · exact takes_one_ignore (takes_readExactOrIncomplete 2) (by decide)
      · exact takes_one_ignore (takes_readExactOrIncomplete 4) (by decide)
      · exact takes_one_ignore (takes_readExactOrIncomplete 8) (by decide)
      · exact takes_one_ignore takes_readGgufString (by decide)
      · have first : Takes 1 readU32 := fun bytes value rest done => by
          have enough := takes_readU32 bytes value rest done
          omega
        refine first.bind fun elemType => shrinks_readU64.bind fun len => ?_
        split
        · exact .throw _
        · exact shrinks_readTimes (shrinks_skipMetadataValueTo depth elemType) len.toNat
      · exact .throw 1 _

theorem shrinks_skipMetadataValue (vtype : UInt32) : Shrinks (skipMetadataValue vtype) :=
  fun bytes => shrinks_skipMetadataValueTo (bytes.length + 1) vtype bytes

/-! ## The bytes pay -/

theorem thrifty_free {α : Type} {read : Parser α} (shrinks : Shrinks read) :
    Metered.Thrifty 0 (.free read) :=
  .free shrinks.takes (Nat.zero_le _)

theorem thrifty_repeated {read : Counted Unit} (thrifty : Metered.Thrifty 0 read) (count : Nat) :
    Metered.Thrifty 0 (repeated read count) := by
  induction count with
  | zero => exact .pure _
  | succ count ih => exact thrifty.bind fun _ => ih

/-- Induction on the depth: the first bytes of an array pay for its own call. -/
theorem thrifty_countedSkipTo (depth : Nat) (vtype : UInt32) :
    Metered.Thrifty 0 (countedSkipTo depth vtype) := by
  induction depth generalizing vtype with
  | zero => exact thrifty_free (shrinks_skipMetadataValueTo 0 vtype)
  | succ depth ih =>
      rw [countedSkipTo]
      apply Metered.Thrifty.tick
      split
      · have header : Metered.Thrifty 1 (.free readU32) := .free
          (fun bytes value rest done => by
            have enough := takes_readU32 bytes value rest done
            omega) (Nat.le_refl _)
        refine header.bind fun elemType => (thrifty_free shrinks_readU64).bind fun len => ?_
        split
        · exact thrifty_free (.throw _)
        · exact thrifty_repeated (ih elemType) len.toNat
      · exact .free (takes_skipMetadataValueTo (depth + 1) vtype) (Nat.le_refl _)

theorem thrifty_countedSkip (vtype : UInt32) : Metered.Thrifty 0 (countedSkip vtype) where
  ok bytes := (thrifty_countedSkipTo (bytes.length + 1) vtype).ok bytes
  error bytes := (thrifty_countedSkipTo (bytes.length + 1) vtype).error bytes

theorem thrifty_countedSkipMetadata : Metered.Thrifty 0 countedSkipMetadata :=
  (thrifty_free (shrinks_ignore shrinks_readGgufString)).bind fun _ =>
    (thrifty_free shrinks_readU32).bind fun vtype => thrifty_countedSkip vtype

theorem shrinks_readDims (count : Nat) : Shrinks (readDims count) := by
  induction count with
  | zero => exact .pure _
  | succ count ih => exact shrinks_readU64.bind fun _ => ih.bind fun _ => .pure _

theorem shrinks_readTensorInfo : Shrinks readTensorInfo := by
  refine shrinks_readGgufString.bind fun name => shrinks_readU32.bind fun nDims => ?_
  split
  · exact .throw _
  · exact (shrinks_readDims _).bind fun dims => shrinks_readU32.bind fun ggmlType =>
      (shrinks_ignore shrinks_readU64).bind fun _ => .pure _

theorem shrinks_readTensorInfos (count : Nat) (infos : IndexMap String GgufTensorInfo) :
    Shrinks (readTensorInfos count infos) := by
  induction count generalizing infos with
  | zero => exact .pure _
  | succ count ih => exact shrinks_readTensorInfo.bind fun entry => ih _

theorem thrifty_countedReadGguf : Metered.Thrifty 0 countedReadGguf := by
  refine (thrifty_free (shrinks_readExactOrIncomplete 4)).bind fun magic => ?_
  split
  · exact thrifty_free (.throw _)
  · refine (thrifty_free (shrinks_ignore shrinks_readU32)).bind fun _ =>
      (thrifty_free shrinks_readU64).bind fun tensorCount =>
        (thrifty_free shrinks_readU64).bind fun kvCount => ?_
    split
    · exact thrifty_free (.throw _)
    · exact (thrifty_repeated thrifty_countedSkipMetadata _).bind fun _ =>
        thrifty_free (shrinks_readTensorInfos _ _)

/-! ## The depth of the count -/

/-- Counters that agree on short inputs agree repeatedly. -/
theorem repeated_congr {read other : Counted Unit} {bound : Nat} (shrinks : Shrinks read.reader)
    (agree : ∀ bytes : List UInt8, bytes.length ≤ bound → read bytes = other bytes)
    (count : Nat) {bytes : List UInt8} (short : bytes.length ≤ bound) :
    repeated read count bytes = repeated other count bytes := by
  induction count generalizing bytes with
  | zero => rfl
  | succ count ih =>
      have first : (read >>= fun _ => repeated read count) bytes =
          (read >>= fun _ => repeated other count) bytes := by
        apply Metered.bind_congr_of_ok
        intro _ left done
        exact ih (Nat.le_trans (shrinks bytes _ left done) short)
      have second : (read >>= fun _ => repeated other count) bytes =
          (other >>= fun _ => repeated other count) bytes := by
        simp only [Bind.bind, agree bytes short]
      exact first.trans second

/-- A value is skipped with the same calls to every depth that exceeds the number of
bytes. -/
theorem countedSkipTo_congr {depth other : Nat} {bytes : List UInt8} (vtype : UInt32)
    (deep : bytes.length < depth) (otherDeep : bytes.length < other) :
    countedSkipTo depth vtype bytes = countedSkipTo other vtype bytes := by
  induction depth generalizing other bytes vtype with
  | zero => cases deep
  | succ depth ih =>
      cases other with
      | zero => cases otherDeep
      | succ other =>
          rw [countedSkipTo, countedSkipTo]
          apply Metered.bind_congr_of_ok
          intro _ same ticked
          cases ticked
          split
          · apply Metered.bind_congr_of_ok
            intro elemType left done
            have shorter := takes_readU32 bytes elemType left done
            apply Metered.bind_congr_of_ok
            intro len rest done
            have shrunk := shrinks_readU64 left len rest done
            split
            · rfl
            · refine repeated_congr ?_ ?_ len.toNat (Nat.le_refl rest.length)
              · rw [reader_countedSkipTo]
                exact shrinks_skipMetadataValueTo depth elemType
              · intro bytes short
                apply ih
                · omega
                · omega
          · exact congrArg (fun outcome => (outcome, 0))
              (skipMetadataValueTo_congr vtype deep otherDeep)

/-! ## Where the cursor goes -/

theorem drop_of_readU32 {bytes rest : List UInt8} {value : UInt32}
    (done : readU32 bytes = .ok (value, rest)) : rest = bytes.drop 4 := by
  obtain ⟨word, held, taken, ok⟩ := exists_of_bind_eq_ok done
  unfold readExactOrIncomplete at taken
  split at taken
  · cases taken
  · cases taken
    cases ok
    rfl

theorem drop_of_readU64 {bytes rest : List UInt8} {value : UInt64}
    (done : readU64 bytes = .ok (value, rest)) : rest = bytes.drop 8 := by
  obtain ⟨word, held, taken, ok⟩ := exists_of_bind_eq_ok done
  unfold readExactOrIncomplete at taken
  split at taken
  · cases taken
  · cases taken
    cases ok
    rfl

/-- A value that is skipped ends at a later place in the buffer. -/
theorem exists_next_of_skip {bytes rest : List UInt8} {position : Nat} {vtype : UInt32}
    (done : skipMetadataValue vtype (bytes.drop position) = .ok ((), rest)) :
    ∃ next, position < next ∧ next ≤ bytes.length ∧ rest = bytes.drop next := by
  have reads : ReadsBelow ((bytes.drop position).length + 1) (skipMetadataValue vtype) _ :=
    reads_skipMetadataValue vtype
  obtain ⟨word, -, split⟩ := (reads _ () rest (Nat.lt_succ_self _)).mp done
  have takes := takes_skipMetadataValueTo _ vtype _ () rest done
  have length := congrArg List.length split
  rw [List.length_append, List.length_drop] at length
  rw [List.length_drop] at takes
  refine ⟨position + word.length, by omega, by omega, ?_⟩
  rw [← List.drop_drop, split, List.drop_left]

/-- An array that is skipped is its twelve bytes and its elements. -/
theorem elements_of_skip {bytes rest : List UInt8}
    (done : skipMetadataValue 9 bytes = .ok ((), rest)) :
    ∃ elemType len, readU32 bytes = .ok (elemType, bytes.drop 4) ∧
      readU64 (bytes.drop 4) = .ok (len, bytes.drop 12) ∧
      readTimes (skipMetadataValue elemType) len.toNat (bytes.drop 12) = .ok ((), rest) := by
  rw [skipMetadataValue, skipMetadataValueTo_array] at done
  obtain ⟨elemType, left, isType, done⟩ := exists_of_bind_eq_ok done
  obtain ⟨len, held, isLen, done⟩ := exists_of_bind_eq_ok done
  have shorter := takes_readU32 bytes elemType left isType
  have shrunk := takes_readU64 left len held isLen
  cases drop_of_readU32 isType
  cases drop_of_readU64 isLen
  rw [List.drop_drop] at isLen shrunk done
  split at done
  · cases done
  · refine ⟨elemType, len, isType, isLen, ?_⟩
    rw [← done]
    symm
    apply readTimes_congr (shrinks_skipMetadataValueTo _ elemType) _ _ (Nat.le_refl _)
    intro some short
    apply skipMetadataValueTo_eq
    omega

/-- From every position, a value of every type is skipped without going deeper than there
are bytes, and where that succeeds the cursor moves on, behind the twelve bytes and the
elements of an array, and not past the end.  One parse makes at most a call for each
byte and one more. -/
theorem skip_makes_progress (bytes : List UInt8) :
    (∀ position vtype,
      (countedSkip vtype).reader = skipMetadataValue vtype ∧
      (∀ depth, (bytes.drop position).length < depth →
        countedSkipTo depth vtype (bytes.drop position) =
          countedSkip vtype (bytes.drop position)) ∧
      ∀ rest, skipMetadataValue vtype (bytes.drop position) = .ok ((), rest) →
        ∃ next, position < next ∧ next ≤ bytes.length ∧ rest = bytes.drop next ∧
          (vtype = 9 → position + 12 ≤ next ∧
            ∃ elemType len, readU32 (bytes.drop position) =
                .ok (elemType, bytes.drop (position + 4)) ∧
              readU64 (bytes.drop (position + 4)) = .ok (len, bytes.drop (position + 12)) ∧
              readTimes (skipMetadataValue elemType) len.toNat (bytes.drop (position + 12)) =
                .ok ((), bytes.drop next))) ∧
    countedReadGguf.reader bytes = readGguf bytes ∧
      countedReadGguf.spent bytes ≤ bytes.length + 1 := by
  refine ⟨?_, ?_, ?_⟩
  · intro position vtype
    refine ⟨reader_countedSkip vtype, ?_, ?_⟩
    · intro depth deep
      exact countedSkipTo_congr vtype deep (Nat.lt_succ_self _)
    · intro rest done
      obtain ⟨next, later, within, rfl⟩ := exists_next_of_skip done
      refine ⟨next, later, within, rfl, ?_⟩
      rintro rfl
      obtain ⟨elemType, len, isType, isLen, elements⟩ := elements_of_skip done
      simp only [List.drop_drop] at isType isLen elements
      have prefixed := takes_readU64 _ len _ isLen
      have shrinks := shrinks_readTimes (shrinks_skipMetadataValue elemType) len.toNat _ () _
        elements
      simp only [List.length_drop] at prefixed shrinks
      exact ⟨by omega, elemType, len, isType, isLen, elements⟩
  · rw [reader_countedReadGguf]
  · cases outcome : countedReadGguf.reader bytes with
    | error err => exact thrifty_countedReadGguf.error bytes err outcome
    | ok result =>
        have paid := thrifty_countedReadGguf.ok bytes result.1 result.2 outcome
        omega

end StratumBridge.Expert
