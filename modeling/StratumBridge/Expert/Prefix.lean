import StratumBridge.Expert.Truncation
import StratumBridge.Expert.Vram
import StratumBridge.Http.Client

/-!
# The prefix of a file

`fetch_gguf_header_prefix` reads the chunks of a response until it holds as many bytes
as it wants, whether or not the server honours the range that it was asked for.  What
it returns depends on the bytes alone and not on how they were cut.

A prefix is enough: the header of the file is read from it, or it is found to be too
short.
-/

namespace StratumBridge.Expert

open Data Http Transition

/-! ## Chunks -/

/-- A response in chunks.  Every call of `chunk` gives bytes or fails. -/
abbrev HttpResponse :=
  Reply (List (Except String (List UInt8)))

/-- The loop over the chunks. -/
def readChunks (url : String) (capBytes : Nat) :
    List UInt8 → List (Except String (List UInt8)) → Except String (List UInt8)
  | buf, [] => .ok buf
  | buf, next :: chunks =>
      if buf.length < capBytes then
        match next with
        | .error err => .error ("reading " ++ url ++ ": " ++ err)
        | .ok chunk => readChunks url capBytes (buf ++ chunk) chunks
      else
        .ok buf

/-- `fetch_gguf_header_prefix`, given the response. -/
def readHeaderPrefix (url : String) (capBytes : Nat) :
    HttpResponse → Except String (List UInt8)
  | .unreachable err => .error ("GET " ++ url ++ " failed: " ++ err)
  | .answered status chunks =>
      -- a success includes partial content
      if status.isSuccess ∨ status.code = 206 then
        (readChunks url capBytes [] chunks).map fun buf => buf.take (min capBytes buf.length)
      else
        .error ("GET " ++ url ++ ": HTTP " ++ toString status.code ++ " " ++ status.reason)

/-- The bytes before the first failure. -/
def arrivedBytes : List (Except String (List UInt8)) → List UInt8
  | .ok chunk :: chunks => chunk ++ arrivedBytes chunks
  | _ => []

/-- No chunk fails. -/
def Intact (chunks : List (Except String (List UInt8))) : Prop :=
  ∀ err, .error err ∉ chunks

variable {url : String} {capBytes : Nat} {chunks : List (Except String (List UInt8))}
  {bytes file : List UInt8} {response : HttpResponse}

theorem intact_nil : Intact [] :=
  fun _ => List.not_mem_nil

theorem intact_cons_iff {chunk : List UInt8} :
    Intact (.ok chunk :: chunks) ↔ Intact chunks := by
  constructor
  · intro intact err mem
    exact intact err (List.mem_cons_of_mem _ mem)
  · intro intact err mem
    rcases List.mem_cons.mp mem with same | mem
    · cases same
    · exact intact err mem

/-- The loop ends with the bytes that arrived before it had enough. -/
theorem readChunks_take_iff (buf : List UInt8) :
    (readChunks url capBytes buf chunks).map (List.take capBytes) = .ok bytes ↔
      bytes = (buf ++ arrivedBytes chunks).take capBytes ∧
        (Intact chunks ∨ capBytes ≤ (buf ++ arrivedBytes chunks).length) := by
  induction chunks generalizing buf with
  | nil =>
      simp only [readChunks, arrivedBytes, List.append_nil, intact_nil, true_or, and_true]
      exact ⟨fun same => (Except.ok.inj same).symm, fun same => congrArg Except.ok same.symm⟩
  | cons next chunks ih =>
      by_cases wanted : buf.length < capBytes
      · cases next with
        | error err =>
            have broken : ¬ Intact (.error err :: chunks) :=
              fun intact => intact err List.mem_cons_self
            simp only [readChunks, wanted, if_true, arrivedBytes, List.append_nil]
            constructor
            · intro failed
              cases failed
            · rintro ⟨-, intact | enough⟩
              · exact absurd intact broken
              · omega
        | ok chunk =>
            simp only [readChunks, wanted, if_true, arrivedBytes, intact_cons_iff]
            rw [← List.append_assoc]
            exact ih (buf ++ chunk)
      · have enough : capBytes ≤ buf.length := Nat.le_of_not_lt wanted
        have whole : capBytes ≤ (buf ++ arrivedBytes (next :: chunks)).length := by
          rw [List.length_append]
          omega
        simp only [readChunks, wanted, if_false, whole, or_true, and_true]
        rw [List.take_append_of_le_length enough]
        exact ⟨fun same => (Except.ok.inj same).symm, fun same => congrArg Except.ok same.symm⟩

/-- The response arrives as far as it is read. -/
def Arrives (capBytes : Nat) : HttpResponse → Prop
  | .unreachable _ => False
  | .answered status chunks =>
      status.isSuccess = true ∧ (Intact chunks ∨ capBytes ≤ (arrivedBytes chunks).length)

/-- What of the body arrives. -/
def arrivedBody : HttpResponse → List UInt8
  | .unreachable _ => []
  | .answered _ chunks => arrivedBytes chunks

/-- The prefix is the first bytes of what arrives, however it was cut. -/
theorem readHeaderPrefix_eq_ok_iff :
    readHeaderPrefix url capBytes response = .ok bytes ↔
      Arrives capBytes response ∧ bytes = (arrivedBody response).take capBytes := by
  cases response with
  | unreachable err => simp only [readHeaderPrefix, Arrives, reduceCtorEq, false_and]
  | answered status chunks =>
      have partialContent : (status.isSuccess = true ∨ status.code = 206) ↔
          status.isSuccess = true := by
        constructor
        · rintro (success | code)
          · exact success
          · rw [Status.isSuccess, code]
            rfl
        · exact Or.inl
      have truncated : (fun buf : List UInt8 => buf.take (min capBytes buf.length)) =
          List.take capBytes :=
        funext fun buf => (List.take_eq_take_min ..).symm
      simp only [readHeaderPrefix, Arrives, arrivedBody, partialContent, truncated]
      by_cases success : status.isSuccess = true
      · simp only [success, if_true, true_and]
        rw [readChunks_take_iff, List.nil_append]
        exact and_comm
      · simp only [success, if_false, false_and, reduceCtorEq]

/-! ## Headers -/

variable {infos : IndexMap String GgufTensorInfo} {nExpert : UInt64}
  {perLayer : PartialMap UInt32 UInt64} {count : Nat}

/-- A header that ends after so many bytes is read from any bytes that begin so. -/
theorem readGguf_prefix_iff {rest : List UInt8} (within : count ≤ bytes.length) :
    readGguf bytes = .ok (infos, bytes.drop count) ↔
      readGguf (bytes ++ rest) = .ok (infos, (bytes ++ rest).drop count) := by
  rw [List.drop_append_of_le_length within]
  constructor
  · exact fun done => steady_readGguf.ok _ rest _ _ done
  · intro done
    have long : ReadsBelow ((bytes ++ rest).length + 1) readGguf _ := reads_readGguf
    have short : ReadsBelow (bytes.length + 1) readGguf _ := reads_readGguf
    obtain ⟨word, reads, same⟩ := (long _ _ _ (Nat.lt_succ_self _)).mp done
    refine (short _ _ _ (Nat.lt_succ_self _)).mpr ⟨word, reads, ?_⟩
    rw [← List.append_assoc] at same
    exact List.append_cancel_right same

/-- The sizes are read off a header that is found in the prefix. -/
theorem fetchAndParse_prefix_iff {fetched : Except String (List UInt8)} {prefixBytes : List UInt8}
    (got : fetchGgufHeaderPrefix fetched = .ok prefixBytes) :
    fetchAndParse fetched nExpert = .ok perLayer ↔
      ∃ infos, parseGgufTensorInfos prefixBytes = .ok infos ∧
        perLayerBytes infos nExpert = .ok perLayer := by
  unfold fetchAndParse
  rw [got]
  cases parsed : parseGgufTensorInfos prefixBytes with
  | ok infos => simp only [parsed, Except.ok.injEq, exists_eq_left']
  | error err => cases err <;> simp only [parsed, reduceCtorEq, false_and, exists_false]

/-- What was cut at the limit is not cut again. -/
theorem fetchGgufHeaderPrefix_readHeaderPrefix :
    fetchGgufHeaderPrefix (readHeaderPrefix url headerPrefixCapBytes response) =
      readHeaderPrefix url headerPrefixCapBytes response := by
  cases done : readHeaderPrefix url headerPrefixCapBytes response with
  | error text => rfl
  | ok bytes =>
      obtain ⟨-, rfl⟩ := readHeaderPrefix_eq_ok_iff.mp done
      change Except.ok (List.take _ (List.take _ _)) = _
      rw [List.take_take, Nat.min_self]

/-- Reading the prefix gives the sizes of the whole file or nothing, and it gives them
exactly when the header ends within what arrived and within the limit. -/
theorem fetchAndParse_response_iff {response : HttpResponse}
    (serves : arrivedBody response <+: file) :
    fetchAndParse (readHeaderPrefix url headerPrefixCapBytes response) nExpert = .ok perLayer ↔
      Arrives headerPrefixCapBytes response ∧ ∃ infos count,
        readGguf file = .ok (infos, file.drop count) ∧ count ≤ headerPrefixCapBytes ∧
          count ≤ (arrivedBody response).length ∧ perLayerBytes infos nExpert = .ok perLayer := by
  let seen := (arrivedBody response).take headerPrefixCapBytes
  have length : seen.length = min headerPrefixCapBytes (arrivedBody response).length :=
    List.length_take
  obtain ⟨rest, rfl⟩ : seen <+: file := (List.take_prefix _ _).trans serves
  by_cases arrives : Arrives headerPrefixCapBytes response
  · have read : readHeaderPrefix url headerPrefixCapBytes response = .ok seen :=
      readHeaderPrefix_eq_ok_iff.mpr ⟨arrives, rfl⟩
    have got := fetchGgufHeaderPrefix_readHeaderPrefix.trans read
    rw [fetchAndParse_prefix_iff got]
    simp only [arrives, true_and]
    constructor
    · rintro ⟨infos, parsed, sized⟩
      obtain ⟨count, within, done⟩ := exists_readGguf_of_parse parsed
      refine ⟨infos, count, (readGguf_prefix_iff within).mp done, ?_, ?_, sized⟩ <;> omega
    · rintro ⟨infos, count, done, capped, arrived, sized⟩
      have within : count ≤ seen.length := by omega
      refine ⟨infos, ?_, sized⟩
      rw [parseGgufTensorInfos, (readGguf_prefix_iff within).mpr done]
      rfl
  · simp only [arrives, false_and, iff_false]
    intro derived
    cases done : readHeaderPrefix url headerPrefixCapBytes response with
    | error text =>
        rw [done] at derived
        cases derived
    | ok bytes => exact arrives (readHeaderPrefix_eq_ok_iff.mp done).1

open ExpertVramEstimator in
/-- A header in two chunks. -/
def cutResponse : HttpResponse :=
  .answered ⟨206, "Partial Content"⟩ [.ok (soleHeader.take 10), .ok (soleHeader.drop 10)]

open ExpertVramEstimator in
/-- An instance of `fetchAndParse_response_iff`: a header in two chunks. -/
theorem fetchAndParse_cutResponse :
    Arrives headerPrefixCapBytes cutResponse ∧ ∃ infos count,
      readGguf soleHeader = .ok (infos, soleHeader.drop count) ∧ count ≤ headerPrefixCapBytes ∧
        count ≤ (arrivedBody cutResponse).length ∧
          ∃ perLayer, perLayerBytes infos 1 = .ok perLayer := by
  have serves : arrivedBody cutResponse <+: soleHeader := by decide +kernel
  have parsed : (fetchAndParse (readHeaderPrefix "url" headerPrefixCapBytes cutResponse)
      1).toOption.isSome = true := by decide +kernel
  cases derived : fetchAndParse (readHeaderPrefix "url" headerPrefixCapBytes cutResponse) 1 with
  | error text =>
      rw [derived] at parsed
      cases parsed
  | ok perLayer =>
      obtain ⟨arrives, infos, count, done, capped, arrived, sized⟩ :=
        (fetchAndParse_response_iff serves).mp derived
      exact ⟨arrives, infos, count, done, capped, arrived, perLayer, sized⟩

/-! ## The estimator -/

namespace ExpertVramEstimator

/-- Behind every address is a file, of which a server sends as much as it likes, in
chunks of its own. -/
def serving (file : String → List UInt8) : System ExpertVramEstimator VramEvent where
  enabled := fun estimator event =>
    match event with
    | .minVramMbForRange ticket _ => estimator.waiting ticket = none
    | .fetched ticket body =>
        ∃ call response, estimator.waiting ticket = some call ∧
          arrivedBody response <+: file call.ggufUrl ∧
          body = readHeaderPrefix call.ggufUrl headerPrefixCapBytes response
  next := next

/-- The sizes of the experts in the file of a call. -/
def Weighed (file : String → List UInt8) (filler : VramCall)
    (perLayer : PartialMap UInt32 UInt64) : Prop :=
  ∃ infos, parseGgufTensorInfos (file filler.ggufUrl) = .ok infos ∧
    perLayerBytes infos filler.nExpert = .ok perLayer

/-- The floor comes from the whole file of one of the calls with the key. -/
def Founded (file : String → List UInt8) (made : VramCall → Prop) (call : VramCall)
    (mb : UInt64) : Prop :=
  ∃ filler perLayer, made filler ∧ filler.cacheKey = call.cacheKey ∧
    Weighed file filler perLayer ∧ maxVramMb perLayer call = some mb

/-- The entries and the answers come from whole files. -/
structure Grounded (file : String → List UInt8) (made : VramCall → Prop)
    (estimator : ExpertVramEstimator) : Prop where
  waits : ∀ ticket call, estimator.waiting ticket = some call → made call
  cached : ∀ key perLayer, estimator.cache key = some perLayer →
    ∃ filler, made filler ∧ filler.cacheKey = key ∧ Weighed file filler perLayer
  answered : ∀ call mb, (call, some mb) ∈ estimator.answers → Founded file made call mb

variable {file : String → List UInt8} {made later : VramCall → Prop}
  {estimator : ExpertVramEstimator} {call : VramCall} {perLayer : PartialMap UInt32 UInt64}

theorem grounded_new : new.Grounded file made where
  waits _ _ held := absurd held (Option.some_ne_none _).symm
  cached _ _ found := absurd found (Option.some_ne_none _).symm
  answered _ _ mem := absurd mem List.not_mem_nil

theorem Grounded.mono (grounded : estimator.Grounded file made)
    (grows : ∀ call, made call → later call) : estimator.Grounded file later where
  waits ticket call held := grows call (grounded.waits ticket call held)
  cached key perLayer found := by
    obtain ⟨filler, called, same, weighed⟩ := grounded.cached key perLayer found
    exact ⟨filler, grows filler called, same, weighed⟩
  answered call mb mem := by
    obtain ⟨filler, perLayer, called, same, weighed, floor⟩ := grounded.answered call mb mem
    exact ⟨filler, perLayer, grows filler called, same, weighed, floor⟩

/-- An answer that is missing, or that comes from a file. -/
theorem Grounded.answer {mb : Option UInt64} (grounded : estimator.Grounded file made)
    (founded : ∀ value, mb = some value → Founded file made call value) :
    (estimator.answer call mb).Grounded file made where
  waits := grounded.waits
  cached := grounded.cached
  answered other value mem := by
    rcases List.mem_append.mp mem with old | new
    · exact grounded.answered other value old
    · cases List.mem_singleton.mp new
      exact founded value rfl

theorem Grounded.minVramMbForRange (grounded : estimator.Grounded file made)
    (ticket : VramTicket) (called : made call) :
    (minVramMbForRange ticket call estimator).Grounded file made := by
  cases found : estimator.cache call.cacheKey with
  | some perLayer =>
      simp only [ExpertVramEstimator.minVramMbForRange, found]
      obtain ⟨filler, before, same, weighed⟩ := grounded.cached _ _ found
      exact grounded.answer fun value floor =>
        ⟨filler, perLayer, before, same, weighed, floor⟩
  | none =>
      simp only [ExpertVramEstimator.minVramMbForRange, found]
      refine ⟨?_, grounded.cached, grounded.answered⟩
      intro other held waits
      rcases PartialMap.of_insert_eq_some waits with ⟨-, rfl⟩ | ⟨-, waits⟩
      · exact called
      · exact grounded.waits other held waits

/-- What is read off the prefix is what the file says. -/
theorem weighed_of_response {response : HttpResponse}
    (serves : arrivedBody response <+: file call.ggufUrl)
    (parsed : fetchAndParse (readHeaderPrefix call.ggufUrl headerPrefixCapBytes response)
      call.nExpert = .ok perLayer) :
    Weighed file call perLayer := by
  obtain ⟨-, infos, count, done, -, -, sized⟩ := (fetchAndParse_response_iff serves).mp parsed
  refine ⟨infos, ?_, sized⟩
  rw [parseGgufTensorInfos, done]
  rfl

theorem Grounded.fetched (grounded : estimator.Grounded file made) {ticket : VramTicket}
    {response : HttpResponse} (held : estimator.waiting ticket = some call)
    (serves : arrivedBody response <+: file call.ggufUrl) :
    (resumeFetched ticket (readHeaderPrefix call.ggufUrl headerPrefixCapBytes response)
      estimator).Grounded file made := by
  have called : made call := grounded.waits ticket call held
  have waits : ∀ other caller, (estimator.waiting.remove ticket) other = some caller →
      made caller := by
    intro other caller found
    exact grounded.waits other caller (PartialMap.of_remove_eq_some found).2
  cases parsed : fetchAndParse (readHeaderPrefix call.ggufUrl headerPrefixCapBytes response)
      call.nExpert with
  | error text =>
      simp only [resumeFetched, held, parsed]
      refine Grounded.answer ⟨waits, grounded.cached, grounded.answered⟩ ?_
      intro value same
      cases same
  | ok perLayer =>
      have weighed : Weighed file call perLayer := weighed_of_response serves parsed
      simp only [resumeFetched, held, parsed]
      refine Grounded.answer ⟨waits, ?_, grounded.answered⟩ fun value floor =>
        ⟨call, perLayer, called, rfl, weighed, floor⟩
      intro key other found
      rcases PartialMap.of_insert_eq_some found with ⟨rfl, rfl⟩ | ⟨-, found⟩
      · exact ⟨call, called, rfl, weighed⟩
      · exact grounded.cached key other found

/-- Whatever the servers sent and however the calls overlapped, every entry of the cache
has the sizes of the whole file of some call with its key, and every floor that is handed
out comes from the whole file of some call with the same key. -/
theorem founded_of_run {events : List VramEvent} (run : (serving file).Run new events estimator) :
    (∀ key perLayer, estimator.cache key = some perLayer →
      ∃ filler, (∃ ticket, .minVramMbForRange ticket filler ∈ events) ∧
        filler.cacheKey = key ∧ Weighed file filler perLayer) ∧
    ∀ call mb, (call, some mb) ∈ estimator.answers →
      Founded file (fun filler => ∃ ticket, .minVramMbForRange ticket filler ∈ events) call mb := by
  suffices grounded : estimator.Grounded file
      fun filler => ∃ ticket, .minVramMbForRange ticket filler ∈ events from
    ⟨grounded.cached, grounded.answered⟩
  induction run with
  | nil => exact grounded_new
  | @snoc events state event _ enabled _ ih =>
      have before : state.Grounded file
          fun filler => ∃ ticket, .minVramMbForRange ticket filler ∈ events ++ [event] :=
        ih.mono fun filler ⟨ticket, mem⟩ => ⟨ticket, List.mem_append_left _ mem⟩
      cases event with
      | minVramMbForRange ticket caller =>
          exact before.minVramMbForRange ticket
            ⟨ticket, List.mem_append_right _ List.mem_cons_self⟩
      | fetched ticket body =>
          obtain ⟨caller, response, held, serves, rfl⟩ := enabled
          exact before.fetched held serves

theorem waiting_next_fetched {ticket : VramTicket} (held : estimator.waiting ticket = some call)
    (body : Except String (List UInt8)) :
    (estimator.next (.fetched ticket body)).waiting = estimator.waiting.remove ticket := by
  change (resumeFetched ticket body estimator).waiting = _
  cases parsed : fetchAndParse body call.nExpert with
  | error text =>
      simp only [resumeFetched, held, parsed]
      rfl
  | ok perLayer =>
      simp only [resumeFetched, held, parsed]
      rfl

/-- What is read of the header in two chunks. -/
def cutBody : Except String (List UInt8) :=
  readHeaderPrefix "url" headerPrefixCapBytes cutResponse

/-- Two calls for the same model and file, which overlap and get the same bytes. -/
def twoFetches (body : Except String (List UInt8)) : List VramEvent :=
  [.minVramMbForRange 0 (soleCall 1), .minVramMbForRange 1 (soleCall 1), .fetched 0 body,
    .fetched 1 body]

theorem run_twoFetches {body : Except String (List UInt8)} (isBody : body = cutBody) :
    (serving fun _ => soleHeader).Run new (twoFetches body)
      ((serving fun _ => soleHeader).execute new (twoFetches body)) := by
  have serves : arrivedBody cutResponse <+: soleHeader := by decide +kernel
  have sent : ∀ {ticket : VramTicket} {estimator : ExpertVramEstimator},
      estimator.waiting ticket = some (soleCall 1) →
        (serving fun _ => soleHeader).enabled estimator (.fetched ticket body) :=
    fun held => ⟨soleCall 1, cutResponse, held, serves, isBody⟩
  have second : (((new.next (.minVramMbForRange 0 (soleCall 1))).next
      (.minVramMbForRange 1 (soleCall 1))).next (.fetched 0 body)).waiting 1 =
        some (soleCall 1) := by
    have filled : ((new.next (.minVramMbForRange 0 (soleCall 1))).next
        (.minVramMbForRange 1 (soleCall 1))).waiting 0 = some (soleCall 1) := rfl
    rw [waiting_next_fetched filled]
    rfl
  have admitted : (serving fun _ => soleHeader).Admits (fun _ _ => True) new (twoFetches body) :=
    ⟨⟨rfl, trivial⟩, ⟨rfl, trivial⟩, ⟨sent rfl, trivial⟩, ⟨sent second, trivial⟩, trivial⟩
  exact admitted.runWith

/-- An instance of `founded_of_run`: both calls fill the entry, and both are answered. -/
theorem founded_of_run_sole : ∃ estimator perLayer,
    (serving fun _ => soleHeader).Run new (twoFetches cutBody) estimator ∧
    estimator.cache (soleCall 1).cacheKey = some perLayer ∧
    (∃ filler, filler.cacheKey = (soleCall 1).cacheKey ∧
      Weighed (fun _ => soleHeader) filler perLayer) ∧
    Founded (fun _ => soleHeader)
      (fun filler => ∃ ticket, .minVramMbForRange ticket filler ∈ twoFetches cutBody)
      (soleCall 1) 12 := by
  have run := run_twoFetches rfl
  have answered : (soleCall 1, some 12) ∈
      ((serving fun _ => soleHeader).execute new (twoFetches cutBody)).answers := by
    decide +kernel
  have filled : (((serving fun _ => soleHeader).execute new (twoFetches cutBody)).cache
      (soleCall 1).cacheKey).isSome = true := by
    decide +kernel
  obtain ⟨perLayer, cached⟩ := Option.isSome_iff_exists.mp filled
  obtain ⟨entries, floors⟩ := founded_of_run run
  obtain ⟨filler, -, same, weighed⟩ := entries _ _ cached
  exact ⟨_, perLayer, run, cached, ⟨filler, same, weighed⟩, floors _ _ answered⟩

end ExpertVramEstimator

end StratumBridge.Expert
