import StratumBridge.Expert.Header

/-!
# Truncated headers

A reader of the header that has made up its mind does not change it for the bytes
that follow: what it took it takes again, and what it refused it refuses again.  So a
header that is cut off can only be too short.
-/

namespace StratumBridge.Expert

open Data Wire

/-- More bytes matter only to a reader that reported too few. -/
abbrev SteadyParser {α : Type} (read : Parser α) : Prop :=
  Steady ParseErr.incomplete read

/-! ## Words and strings -/

theorem steady_readExactOrIncomplete (count : Nat) :
    SteadyParser (readExactOrIncomplete count) where
  ok bytes more value rest done := by
    unfold readExactOrIncomplete at done ⊢
    split at done
    · cases done
    · rename_i enough
      cases done
      have alsoEnough : ¬ (bytes ++ more).length < count := by
        rw [List.length_append]
        omega
      have within : count ≤ bytes.length := Nat.le_of_not_lt enough
      rw [if_neg alsoEnough, List.take_append_of_le_length within,
        List.drop_append_of_le_length within]
  error bytes more err failed ne := by
    unfold readExactOrIncomplete at failed
    split at failed
    · cases failed
      exact absurd rfl ne
    · cases failed

theorem steady_readU32 : SteadyParser readU32 :=
  (steady_readExactOrIncomplete 4).bind fun _ => .pure _

theorem steady_readU64 : SteadyParser readU64 :=
  (steady_readExactOrIncomplete 8).bind fun _ => .pure _

theorem steady_ignore {α : Type} {read : Parser α} (steady : SteadyParser read) :
    SteadyParser (ignore read) :=
  steady.bind fun _ => .pure _

theorem steady_readGgufString : SteadyParser readGgufString := by
  refine steady_readU64.bind fun len => ?_
  split
  · exact .throw _
  · exact (steady_readExactOrIncomplete _).bind fun _ => .pure _

theorem steady_readTimes {read : Parser Unit} (steady : SteadyParser read) (count : Nat) :
    SteadyParser (readTimes read count) := by
  induction count with
  | zero => exact .pure _
  | succ count ih => exact steady.bind fun _ => ih

/-! ## Metadata -/

/-- Induction on the depth: the elements of an array nest less deep. -/
theorem steady_skipMetadataValueTo (depth : Nat) (vtype : UInt32) :
    SteadyParser (skipMetadataValueTo depth vtype) := by
  induction depth generalizing vtype with
  | zero => exact .throw _
  | succ depth ih =>
      unfold skipMetadataValueTo
      split_ifs
      · exact steady_ignore (steady_readExactOrIncomplete 1)
      · exact steady_ignore (steady_readExactOrIncomplete 2)
      · exact steady_ignore (steady_readExactOrIncomplete 4)
      · exact steady_ignore (steady_readExactOrIncomplete 8)
      · exact steady_ignore steady_readGgufString
      · refine steady_readU32.bind fun elemType => steady_readU64.bind fun len => ?_
        split
        · exact .throw _
        · exact steady_readTimes (ih elemType) len.toNat
      · exact .throw _

theorem steady_skipMetadataValue (vtype : UInt32) : SteadyParser (skipMetadataValue vtype) := by
  -- The depth that is enough for the longer input is enough for the shorter one.
  have deep (bytes more : List UInt8) :
      skipMetadataValueTo ((bytes ++ more).length + 1) vtype bytes =
        skipMetadataValue vtype bytes := by
    apply skipMetadataValueTo_eq
    rw [List.length_append]
    omega
  constructor
  · intro bytes more value rest done
    rw [← deep bytes more] at done
    exact (steady_skipMetadataValueTo _ vtype).ok bytes more value rest done
  · intro bytes more err failed ne
    rw [← deep bytes more] at failed
    exact (steady_skipMetadataValueTo _ vtype).error bytes more err failed ne

theorem steady_skipMetadata : SteadyParser skipMetadata :=
  (steady_ignore steady_readGgufString).bind fun _ =>
    steady_readU32.bind fun vtype => steady_skipMetadataValue vtype

/-! ## The tensor table -/

theorem steady_readDims (count : Nat) : SteadyParser (readDims count) := by
  induction count with
  | zero => exact .pure _
  | succ count ih => exact steady_readU64.bind fun _ => ih.bind fun _ => .pure _

theorem steady_readTensorInfo : SteadyParser readTensorInfo := by
  refine steady_readGgufString.bind fun name => steady_readU32.bind fun nDims => ?_
  split
  · exact .throw _
  · exact (steady_readDims _).bind fun dims => steady_readU32.bind fun ggmlType =>
      (steady_ignore steady_readU64).bind fun _ => .pure _

theorem steady_readTensorInfos (count : Nat) (infos : IndexMap String GgufTensorInfo) :
    SteadyParser (readTensorInfos count infos) := by
  induction count generalizing infos with
  | zero => exact .pure _
  | succ count ih => exact steady_readTensorInfo.bind fun entry => ih _

theorem steady_readGguf : SteadyParser readGguf := by
  refine (steady_readExactOrIncomplete 4).bind fun magic => ?_
  split
  · exact .throw _
  · refine (steady_ignore steady_readU32).bind fun _ => steady_readU64.bind fun tensorCount =>
      steady_readU64.bind fun kvCount => ?_
    split
    · exact .throw _
    · exact (steady_readTimes steady_skipMetadata _).bind fun _ => steady_readTensorInfos _ _

/-! ## Whole headers -/

theorem parse_eq_error_iff {bytes : List UInt8} {err : ParseErr} :
    parseGgufTensorInfos bytes = .error err ↔ readGguf bytes = .error err := by
  unfold parseGgufTensorInfos
  cases readGguf bytes with
  | ok result => simp only [Except.map, reduceCtorEq]
  | error other => simp only [Except.map, Except.error.injEq]

/-- A header that is read ends after some of the bytes. -/
theorem exists_readGguf_of_parse {bytes : List UInt8}
    {infos : IndexMap String GgufTensorInfo} (parsed : parseGgufTensorInfos bytes = .ok infos) :
    ∃ count ≤ bytes.length, readGguf bytes = .ok (infos, bytes.drop count) := by
  unfold parseGgufTensorInfos at parsed
  cases done : readGguf bytes with
  | error err =>
      rw [done] at parsed
      cases parsed
  | ok result =>
      rcases result with ⟨held, rest⟩
      rw [done] at parsed
      cases parsed
      have reads : ReadsBelow (bytes.length + 1) readGguf _ := reads_readGguf
      obtain ⟨word, -, rfl⟩ := (reads bytes held rest (Nat.lt_succ_self _)).mp done
      refine ⟨word.length, ?_, ?_⟩
      · rw [List.length_append]
        omega
      · rw [List.drop_left]

/-- A header that is read after so many bytes is too short when any of them is cut off,
and a header that is refused is refused with whatever follows it. -/
theorem truncated_incomplete :
    (∀ bytes infos, parseGgufTensorInfos bytes = .ok infos →
      ∃ count ≤ bytes.length, readGguf bytes = .ok (infos, bytes.drop count) ∧
        ∀ cut < count, parseGgufTensorInfos (bytes.take cut) = .error .incomplete) ∧
    (∀ bytes text more, parseGgufTensorInfos bytes = .error (.invalid text) →
      parseGgufTensorInfos (bytes ++ more) = .error (.invalid text)) := by
  constructor
  · intro bytes infos parsed
    obtain ⟨count, within, done⟩ := exists_readGguf_of_parse parsed
    refine ⟨count, within, done, fun cut early => ?_⟩
    apply parse_eq_error_iff.mpr
    apply steady_readGguf.truncate done
    rw [List.length_drop]
    omega
  · intro bytes text more refused
    apply parse_eq_error_iff.mpr
    exact steady_readGguf.error bytes more _ (parse_eq_error_iff.mp refused) nofun

end StratumBridge.Expert
