import StratumBridge.Expert.Gguf
import StratumBridge.Transition.Run

/-!
# The memory floor of an expert

`ExpertVramEstimator` with the calls that wait for a header.  The first call for a
model and a file fetches the header and keeps the sizes it derives; the calls that
come later read these.  The sizes depend on the number of experts that the first
call was given.

The answers and who filled an entry are history that nothing reads.
-/

namespace StratumBridge.Expert

open Data Transition

/-- The arguments of `min_vram_mb_for_range`. -/
structure VramCall where
  modelId : String
  ggufUrl : String
  ggufSha256 : String
  layerStart : UInt32
  layerEnd : UInt32
  nExpert : UInt64
  deriving DecidableEq

/-- The key of the cache. -/
def VramCall.cacheKey (call : VramCall) : String :=
  call.modelId ++ ":" ++ call.ggufSha256

example : (VramCall.mk "a:b" "url" "c" 0 1 4).cacheKey =
    (VramCall.mk "a" "url" "b:c" 0 1 4).cacheKey := by decide

/-! ## One call -/

/-- `fetch_gguf_header_prefix`: as much of the file as may be read. -/
def fetchGgufHeaderPrefix (body : Except String (List UInt8)) : Except String (List UInt8) :=
  body.map (List.take headerPrefixCapBytes)

/-- `fetch_and_parse`, given what the server sends. -/
def fetchAndParse (body : Except String (List UInt8)) (nExpert : UInt64) :
    Except String (PartialMap UInt32 UInt64) :=
  match fetchGgufHeaderPrefix body with
  | .error text => .error text
  | .ok bytes =>
      match parseGgufTensorInfos bytes with
      | .error .incomplete =>
          .error ("GGUF header did not fit within the " ++ toString headerPrefixCapBytes ++
            "-byte prefix this module reads")
      | .error (.invalid text) => .error text
      | .ok tensorInfos => perLayerBytes tensorInfos nExpert

/-- The layers from one up to another. -/
def layerRange (layerStart layerEnd : UInt32) : List UInt32 :=
  (List.range' layerStart.toNat (layerEnd.toNat - layerStart.toNat)).map UInt32.ofNat

/-- `div_ceil` by a megabyte. -/
def mbOfBytes (bytes : UInt64) : UInt64 :=
  if bytes % (1024 * 1024) = 0 then bytes / (1024 * 1024) else bytes / (1024 * 1024) + 1

/-- The size of the largest expert in a range. -/
def maxVramMb (perLayer : PartialMap UInt32 UInt64) (call : VramCall) : Option UInt64 :=
  ((layerRange call.layerStart call.layerEnd).filterMap perLayer).max?.map mbOfBytes

/-! ## The estimator -/

/-- The call of one task. -/
abbrev VramTicket := Nat

/-- `ExpertVramEstimator`, with its calls and its history. -/
structure ExpertVramEstimator where
  cache : PartialMap String (PartialMap UInt32 UInt64)
  waiting : PartialMap VramTicket VramCall
  answers : List (VramCall × Option UInt64)
  filledBy : PartialMap String VramCall

/-- A call is made, or the server answers one. -/
inductive VramEvent
  | minVramMbForRange (ticket : VramTicket) (call : VramCall)
  | fetched (ticket : VramTicket) (body : Except String (List UInt8))

namespace ExpertVramEstimator

/-- `ExpertVramEstimator::new`. -/
def new : ExpertVramEstimator where
  cache := .empty
  waiting := .empty
  answers := []
  filledBy := .empty

/-- A call returns. -/
def answer (call : VramCall) (mb : Option UInt64) (estimator : ExpertVramEstimator) :
    ExpertVramEstimator :=
  { estimator with answers := estimator.answers ++ [(call, mb)] }

/-- `min_vram_mb_for_range` up to its await. -/
def minVramMbForRange (ticket : VramTicket) (call : VramCall) (estimator : ExpertVramEstimator) :
    ExpertVramEstimator :=
  match estimator.cache call.cacheKey with
  | some perLayer => estimator.answer call (maxVramMb perLayer call)
  | none => { estimator with waiting := estimator.waiting.insert ticket call }

/-- After its await. -/
def resumeFetched (ticket : VramTicket) (body : Except String (List UInt8))
    (estimator : ExpertVramEstimator) : ExpertVramEstimator :=
  match estimator.waiting ticket with
  | none => estimator
  | some call =>
      let resumed := { estimator with waiting := estimator.waiting.remove ticket }
      match fetchAndParse body call.nExpert with
      | .error _ => resumed.answer call none
      | .ok perLayer =>
          { resumed with
            cache := estimator.cache.insert call.cacheKey perLayer
            filledBy := estimator.filledBy.insert call.cacheKey call
          }.answer call (maxVramMb perLayer call)

/-- One event. -/
def next (estimator : ExpertVramEstimator) : VramEvent → ExpertVramEstimator
  | .minVramMbForRange ticket call => minVramMbForRange ticket call estimator
  | .fetched ticket body => resumeFetched ticket body estimator

/-- What a server sends for a model and a file always begins alike. -/
def enabled (header : String → String → List UInt8) (estimator : ExpertVramEstimator) :
    VramEvent → Prop
  | .minVramMbForRange ticket _ => estimator.waiting ticket = none
  | .fetched ticket body =>
      ∃ call, estimator.waiting ticket = some call ∧
        ∀ bytes, fetchGgufHeaderPrefix body = .ok bytes →
          bytes = (header call.modelId call.ggufSha256).take headerPrefixCapBytes

/-- The estimator as a system of events. -/
def system (header : String → String → List UInt8) : System ExpertVramEstimator VramEvent where
  enabled := enabled header
  next := next

/-- What a call returns on an estimator of its own. -/
def freshAnswer (header : String → String → List UInt8) (call : VramCall) : Option UInt64 :=
  let called := new.next (.minVramMbForRange 0 call)
  let finish := called.next (.fetched 0 (.ok (header call.modelId call.ggufSha256)))
  finish.answers.getLast?.bind Prod.snd

/-- Every call that returned an answer returned the one of a fresh estimator. -/
def Transparent (header : String → String → List UInt8) (estimator : ExpertVramEstimator) : Prop :=
  ∀ call mb, (call, some mb) ∈ estimator.answers → freshAnswer header call = some mb

/-- The condition on a step: a call that finds an entry finds one that was filled for
its model and file and with its number of experts. -/
def FindsOwn (estimator : ExpertVramEstimator) : VramEvent → Prop
  | .minVramMbForRange _ call =>
      ∀ filler, estimator.filledBy call.cacheKey = some filler →
        filler.modelId = call.modelId ∧ filler.ggufSha256 = call.ggufSha256 ∧
          filler.nExpert = call.nExpert
  | .fetched _ _ => True

variable {header : String → String → List UInt8} {estimator : ExpertVramEstimator}
  {event : VramEvent} {call : VramCall} {perLayer : PartialMap UInt32 UInt64}

/-! ## Answers -/

/-- The sizes that a call derives from its header. -/
def sizes (header : String → String → List UInt8) (call : VramCall) :
    Except String (PartialMap UInt32 UInt64) :=
  fetchAndParse (.ok (header call.modelId call.ggufSha256)) call.nExpert

/-- A first call is answered from the sizes it derives. -/
theorem freshAnswer_eq_sizes (header : String → String → List UInt8) (call : VramCall) :
    freshAnswer header call =
      match sizes header call with
      | .error _ => none
      | .ok perLayer => maxVramMb perLayer call := by
  have called : new.next (.minVramMbForRange 0 call) =
      { new with waiting := PartialMap.empty.insert 0 call } := rfl
  have held : (PartialMap.empty.insert 0 call : PartialMap VramTicket VramCall) 0 = some call :=
    PartialMap.insert_self ..
  have derived : fetchAndParse (.ok (header call.modelId call.ggufSha256)) call.nExpert =
      sizes header call := rfl
  unfold freshAnswer
  dsimp only
  rw [called]
  cases sized : sizes header call with
  | error text =>
      simp only [next, resumeFetched, held, derived, sized]
      rfl
  | ok perLayer =>
      simp only [next, resumeFetched, held, derived, sized]
      rfl

theorem freshAnswer_of_sizes (sized : sizes header call = .ok perLayer) :
    freshAnswer header call = maxVramMb perLayer call := by
  rw [freshAnswer_eq_sizes, sized]

/-- A header that begins as it should gives the same sizes. -/
theorem fetchAndParse_eq {body : Except String (List UInt8)} {nExpert : UInt64}
    (begins : ∀ bytes, fetchGgufHeaderPrefix body = .ok bytes →
      bytes = (header call.modelId call.ggufSha256).take headerPrefixCapBytes)
    (parsed : fetchAndParse body nExpert = .ok perLayer) :
    fetchAndParse (.ok (header call.modelId call.ggufSha256)) nExpert = .ok perLayer := by
  cases fetched : fetchGgufHeaderPrefix body with
  | error text =>
      simp only [fetchAndParse, fetched] at parsed
      cases parsed
  | ok bytes =>
      have same : fetchGgufHeaderPrefix (.ok (header call.modelId call.ggufSha256)) =
          fetchGgufHeaderPrefix body := by
        rw [fetched, begins bytes fetched]
        rfl
      rw [fetchAndParse, same]
      rw [fetchAndParse] at parsed
      exact parsed

/-- Every entry is what the call that filled it derived, and so are the answers. -/
structure Kept (header : String → String → List UInt8) (estimator : ExpertVramEstimator) :
    Prop where
  filled : ∀ key perLayer, estimator.cache key = some perLayer →
    ∃ filler, estimator.filledBy key = some filler ∧ sizes header filler = .ok perLayer
  transparent : estimator.Transparent header

theorem Transparent.answer {mb : Option UInt64} (transparent : estimator.Transparent header)
    (fresh : ∀ value, mb = some value → freshAnswer header call = some value) :
    (estimator.answer call mb).Transparent header := by
  intro other value mem
  rcases List.mem_append.mp mem with old | new
  · exact transparent other value old
  · cases List.mem_singleton.mp new
    exact fresh value rfl

theorem Kept.minVramMbForRange (kept : estimator.Kept header) {ticket : VramTicket}
    (own : estimator.FindsOwn (.minVramMbForRange ticket call)) :
    (minVramMbForRange ticket call estimator).Kept header := by
  cases found : estimator.cache call.cacheKey with
  | none =>
      simp only [ExpertVramEstimator.minVramMbForRange, found]
      exact ⟨kept.filled, kept.transparent⟩
  | some perLayer =>
      simp only [ExpertVramEstimator.minVramMbForRange, found]
      refine ⟨kept.filled, kept.transparent.answer ?_⟩
      intro value same
      obtain ⟨filler, filled, sized⟩ := kept.filled _ _ found
      obtain ⟨model, file, experts⟩ := own filler filled
      have mine : sizes header call = .ok perLayer := by
        rw [← sized, sizes, sizes, model, file, experts]
      rw [freshAnswer_of_sizes mine, same]

theorem Kept.fetched (kept : estimator.Kept header) {ticket : VramTicket}
    {body : Except String (List UInt8)}
    (enabled : estimator.enabled header (.fetched ticket body)) :
    (resumeFetched ticket body estimator).Kept header := by
  rcases enabled with ⟨call, held, begins⟩
  cases parsed : fetchAndParse body call.nExpert with
  | error text =>
      simp only [resumeFetched, held, parsed]
      refine ⟨kept.filled, Transparent.answer kept.transparent ?_⟩
      intro value same
      cases same
  | ok perLayer =>
      have sized : sizes header call = .ok perLayer := fetchAndParse_eq begins parsed
      simp only [resumeFetched, held, parsed]
      constructor
      · intro key other found
        by_cases mine : key = call.cacheKey
        · subst mine
          have same : some perLayer = some other :=
            (PartialMap.insert_self ..).symm.trans found
          cases same
          exact ⟨call, PartialMap.insert_self .., sized⟩
        · rcases kept.filled key other ((PartialMap.insert_of_ne _ _ mine).symm.trans found) with
            ⟨filler, filled, derived⟩
          exact ⟨filler, (PartialMap.insert_of_ne _ _ mine).trans filled, derived⟩
      · refine Transparent.answer kept.transparent ?_
        intro value same
        rw [freshAnswer_of_sizes sized, same]

theorem Kept.next (kept : estimator.Kept header) (enabled : estimator.enabled header event)
    (own : estimator.FindsOwn event) : (estimator.next event).Kept header := by
  cases event with
  | minVramMbForRange ticket call => exact kept.minVramMbForRange own
  | fetched ticket body => exact kept.fetched enabled

theorem kept_new : new.Kept header :=
  ⟨fun _ _ found => absurd found (Option.some_ne_none _).symm,
    fun _ _ mem => absurd mem List.not_mem_nil⟩

/-- While every call that finds an entry finds its own, the cache is transparent. -/
theorem transparent_of_findsOwn {events : List VramEvent}
    (run : (system header).RunWith FindsOwn new events estimator) :
    estimator.Transparent header :=
  (run.invariant (I := Kept header) kept_new
    fun _ _ kept enabled own => kept.next enabled own).transparent

/-! ## One file, two numbers of experts -/

/-- A tensor table entry with one dimension and `F32` elements. -/
def soleTensor (name : String) (dim : List UInt8) : List UInt8 :=
  [UInt8.ofNat name.length, 0, 0, 0, 0, 0, 0, 0] ++
    name.toList.map (fun char => UInt8.ofNat char.toNat) ++ [1, 0, 0, 0] ++ dim ++
    [0, 0, 0, 0] ++ [0, 0, 0, 0, 0, 0, 0, 0]

/-- A header with the expert tensors of one layer, of a mebi of elements each. -/
def soleHeader : List UInt8 :=
  let mebi : List UInt8 := [0, 0, 16, 0, 0, 0, 0, 0]
  ggufMagic ++ [3, 0, 0, 0] ++ [3, 0, 0, 0, 0, 0, 0, 0] ++ [0, 0, 0, 0, 0, 0, 0, 0] ++
    soleTensor "blk.0.ffn_gate_exps.weight" mebi ++ soleTensor "blk.0.ffn_up_exps.weight" mebi ++
    soleTensor "blk.0.ffn_down_exps.weight" mebi

/-- A call for the layer with a number of experts. -/
def soleCall (nExpert : UInt64) : VramCall :=
  ⟨"model", "url", "sha", 0, 1, nExpert⟩

/-- A call that fetches the header, and a second one. -/
def twoCalls (first second : UInt64) : List VramEvent :=
  [.minVramMbForRange 0 (soleCall first), .fetched 0 (.ok soleHeader),
    .minVramMbForRange 1 (soleCall second)]

/-- The estimator of the examples. -/
def soleSystem : System ExpertVramEstimator VramEvent :=
  system fun _ _ => soleHeader

/-- A ticket that was free stays so when a server answers. -/
theorem enabled_after_fetched {ticket other : VramTicket} {body : Except String (List UInt8)}
    (free : estimator.waiting other = none) :
    soleSystem.enabled (soleSystem.next estimator (.fetched ticket body))
      (.minVramMbForRange other call) := by
  have removed : (estimator.waiting.remove ticket) other = none := by
    by_cases same : other = ticket
    · subst same
      exact PartialMap.remove_self ..
    · exact (PartialMap.remove_of_ne _ same).trans free
  change (resumeFetched ticket body estimator).waiting other = none
  unfold resumeFetched
  cases estimator.waiting ticket with
  | none => exact free
  | some held =>
      dsimp only
      cases fetchAndParse body held.nExpert with
      | error text => exact removed
      | ok perLayer => exact removed

theorem twoCalls_fetched (first : UInt64) :
    soleSystem.enabled (soleSystem.execute new [.minVramMbForRange 0 (soleCall first)])
      (.fetched 0 (.ok soleHeader)) :=
  ⟨soleCall first, rfl, fun _ same => (Except.ok.inj same).symm⟩

/-- An instance of `transparent_of_findsOwn`: two calls with the same number of
experts. -/
theorem transparent_of_findsOwn_sole :
    let finish := soleSystem.execute new (twoCalls 1 1)
    finish.Transparent (fun _ _ => soleHeader) ∧ finish.answers.length = 2 := by
  intro finish
  have admitted : soleSystem.Admits FindsOwn new (twoCalls 1 1) := by
    refine ⟨⟨rfl, fun _ filled => absurd filled (Option.some_ne_none _).symm⟩,
      ⟨twoCalls_fetched 1, trivial⟩, ⟨enabled_after_fetched rfl, ?_⟩, trivial⟩
    intro filler filled
    have first : (soleSystem.next (soleSystem.next new (.minVramMbForRange 0 (soleCall 1)))
        (.fetched 0 (.ok soleHeader))).filledBy (soleCall 1).cacheKey = some (soleCall 1) := by
      decide +kernel
    have same : soleCall 1 = filler := Option.some.inj (first.symm.trans filled)
    rw [← same]
    exact ⟨rfl, rfl, rfl⟩
  exact ⟨transparent_of_findsOwn admitted.runWith, by decide +kernel⟩

/-- After a call with one expert, a call with two is answered for one. -/
theorem cached_for_other_experts :
    ∃ header events estimator, (system header).Run new events estimator ∧
      ¬ estimator.Transparent header := by
  have admitted : soleSystem.Admits (fun _ _ => True) new (twoCalls 1 2) :=
    ⟨⟨rfl, trivial⟩, ⟨twoCalls_fetched 1, trivial⟩, ⟨enabled_after_fetched rfl, trivial⟩, trivial⟩
  refine ⟨fun _ _ => soleHeader, twoCalls 1 2, _, admitted.runWith, ?_⟩
  intro transparent
  have returned : (soleCall 2, some 12) ∈
      (soleSystem.execute new (twoCalls 1 2)).answers := by decide +kernel
  have fresh := transparent (soleCall 2) 12 returned
  exact absurd fresh (by decide +kernel)

end ExpertVramEstimator

end StratumBridge.Expert
