import StratumBridge.Bridge.Routing
import StratumBridge.Http.RateLimit
import StratumBridge.Opoi.Provenance
import StratumBridge.Shard.Provenance

/-!
# The front door

`submit_prompt` before the two engines: the rate limiter of the peer's address, then the
requester's key, then the prompt in hex to both engines.  No other endpoint changes
anything.

A run of the front is a run of the engines behind it whose prompts are those of the posts
that came through.
-/

namespace StratumBridge.Bridge

open Data Http Opoi Rpc Sequence Shard Transition Wire

/-! ## Posts -/

/-- A POST to the prompt endpoint, with its headers and its body. -/
structure Post where
  peer : IpAddr
  now : Instant
  apiKey : Option (List UInt8)
  requestId : RequestId
  prompt : String
  model : Option String
  maxTokens : Option UInt32
  deriving DecidableEq

/-- What the rate limiter sees of it. -/
def Post.request (post : Post) : Http.Request :=
  ⟨post.peer, post.now⟩

/-- `hex::encode` of the prompt. -/
def Post.promptHex (post : Post) : String :=
  hexEncode post.prompt.toUTF8.data.toList

/-- `HeaderValue::to_str`: visible characters, and tabs. -/
def headerText (value : List UInt8) : Option (List UInt8) :=
  if value.all fun byte => (32 ≤ byte && byte < 127) || byte = 9 then some value else none

/-- `constant_time_eq`. -/
def constantTimeEq (a b : List UInt8) : Bool :=
  if a.length ≠ b.length then
    false
  else
    (a.zip b).foldl (fun acc pair => acc ||| (pair.1 ^^^ pair.2)) 0 = 0

/-- The post has the key of the requesters. -/
def authorized (apiKey : List UInt8) (post : Post) : Bool :=
  (post.apiKey.bind headerText).any (constantTimeEq · apiKey)

/-- What becomes of a post before the engines answer. -/
inductive Admission
  | tooManyRequests
  | unauthorized
  | dispatched
  deriving DecidableEq

/-- The state behind the endpoint. -/
structure Front where
  apiKey : List UInt8
  limiter : RateLimiter
  engines : OpoiEngine × ShardEngine
  log : List (Post × Admission)

/-- A post comes in, or something else happens to the engines. -/
inductive FrontEvent
  | post (registry : MinerRegistry) (post : Post)
  | engines (side : Side Opoi.Stimulus Shard.Stimulus)

/-- Both engines take the prompt in. -/
def feed (registry : MinerRegistry) (post : Post) : Side Opoi.Stimulus Shard.Stimulus :=
  .both ⟨registry, .receivePrompt post.requestId post.promptHex post.model post.maxTokens⟩
    ⟨registry, .receivePrompt post.requestId post.promptHex⟩

namespace Front

/-- At startup: thirty posts a minute. -/
def new (apiKey : List UInt8) : Front where
  apiKey := apiKey
  limiter := .new 30 60000000000
  engines := (OpoiEngine.new, ShardEngine.new)
  log := []

/-- `submit_prompt` up to the engines. -/
def admission (front : Front) (post : Post) : Admission :=
  if (front.limiter.check post.request).1 then
    if authorized front.apiKey post then .dispatched else .unauthorized
  else
    .tooManyRequests

/-- One event. -/
def next (sha256 : Digest) (front : Front) : FrontEvent → Front
  | .post registry post =>
      { front with
        limiter := (front.limiter.check post.request).2
        engines :=
          if admission front post = .dispatched then
            (Routing.system sha256).next front.engines (feed registry post)
          else
            front.engines
        log := front.log ++ [(post, admission front post)] }
  | .engines side =>
      { front with engines := (Routing.system sha256).next front.engines side }

/-- Posts may come at any time; prompts come in no other way. -/
def enabled (sha256 : Digest) (front : Front) : FrontEvent → Prop
  | .post _ _ => True
  | .engines side =>
      (Routing.system sha256).enabled front.engines side ∧
        ∀ first second, side ≠ .both first second

/-- The front as a system of events. -/
def system (sha256 : Digest) : System Front FrontEvent where
  enabled := enabled sha256
  next := next sha256

variable {sha256 : Digest} {apiKey : List UInt8} {front finish : Front}
  {events : List FrontEvent} {post : Post}

/-! ## The key -/

/-- What is gathered is zero exactly if it was so before and no pair differs. -/
theorem gathered_eq_zero_iff (pairs : List (UInt8 × UInt8)) (acc : UInt8) :
    pairs.foldl (fun acc pair => acc ||| (pair.1 ^^^ pair.2)) acc = 0 ↔
      acc = 0 ∧ ∀ pair ∈ pairs, pair.1 = pair.2 := by
  induction pairs generalizing acc with
  | nil => simp
  | cons pair pairs ih =>
      rw [List.foldl_cons, ih, UInt8.or_eq_zero_iff, UInt8.xor_eq_zero_iff, List.forall_mem_cons,
        and_assoc]

/-- Comparing all the bytes is comparing the texts. -/
theorem constantTimeEq_iff {a b : List UInt8} : constantTimeEq a b = true ↔ a = b := by
  unfold constantTimeEq
  split
  · rename_i differ
    exact iff_of_false Bool.false_ne_true fun same => differ (congrArg List.length same)
  · rename_i same
    rw [decide_eq_true_eq, gathered_eq_zero_iff, ← List.forall₂_eq_eq_eq, List.forall₂_iff_zip]
    constructor
    · rintro ⟨-, pairs⟩
      exact ⟨not_not.mp same, fun mem => pairs _ mem⟩
    · rintro ⟨-, pairs⟩
      exact ⟨rfl, fun pair mem => pairs mem⟩

/-- Who is authorized has sent the key. -/
theorem apiKey_of_authorized (allowed : authorized apiKey post = true) :
    post.apiKey = some apiKey := by
  obtain ⟨text, isText, same⟩ := (Option.any_eq_true _ _).mp allowed
  obtain ⟨value, sent, visible⟩ := Option.bind_eq_some_iff.mp isText
  unfold headerText at visible
  split at visible
  · cases visible
    rw [sent, constantTimeEq_iff.mp same]
  · cases visible

theorem authorized_of_dispatched (dispatched : front.admission post = .dispatched) :
    authorized front.apiKey post = true := by
  unfold admission at dispatched
  split at dispatched
  · split at dispatched
    · assumption
    · cases dispatched
  · cases dispatched

/-! ## The engines behind it -/

/-- The posts that came through. -/
def through (log : List (Post × Admission)) : List Post :=
  (log.filter fun entry => entry.2 = .dispatched).map Prod.fst

theorem through_snoc (log : List (Post × Admission)) (entry : Post × Admission) :
    through (log ++ [entry]) =
      through log ++ if entry.2 = .dispatched then [entry.1] else [] := by
  rw [through, List.filter_append, List.map_append]
  by_cases dispatched : entry.2 = .dispatched <;> simp [through, dispatched]

/-- The prompt that both engines take in. -/
def prompt? : Side Opoi.Stimulus Shard.Stimulus → Option (RequestId × String)
  | .both ⟨_, .receivePrompt requestId promptHex _ _⟩ _ => some (requestId, promptHex)
  | _ => none

/-- The engines behind the front run as they do by themselves, and the prompts they take in
are those of the posts that came through, in order. -/
theorem refines (run : (system sha256).Run (new apiKey) events finish) :
    finish.apiKey = apiKey ∧ ∃ fed,
      (Routing.system sha256).Run (OpoiEngine.new, ShardEngine.new) fed finish.engines ∧
        fed.filterMap prompt? =
          (through finish.log).map fun post => (post.requestId, post.promptHex) := by
  induction run with
  | nil => exact ⟨rfl, [], .nil, rfl⟩
  | @snoc events front event _ enabled _ ih =>
      obtain ⟨sameKey, fed, run, prompts⟩ := ih
      cases event with
      | post registry post =>
          refine ⟨sameKey, ?_⟩
          change ∃ fed, (Routing.system sha256).Run _ fed
            (if front.admission post = .dispatched then _ else _) ∧ _ = (through (_ ++ [_])).map _
          rw [through_snoc]
          by_cases dispatched : front.admission post = .dispatched
          · refine ⟨fed ++ [feed registry post], ?_, ?_⟩
            · rw [if_pos dispatched]
              exact run.snoc ⟨⟨rfl, rfl⟩, trivial, trivial⟩ trivial
            · rw [if_pos dispatched, List.filterMap_append, prompts, List.map_append]
              rfl
          · refine ⟨fed, ?_, ?_⟩
            · rw [if_neg dispatched]
              exact run
            · rw [if_neg dispatched, List.append_nil, prompts]
      | engines side =>
          obtain ⟨allowed, notBoth⟩ := enabled
          refine ⟨sameKey, fed ++ [side], run.snoc allowed trivial, ?_⟩
          have silent : prompt? side = none := by
            cases side with
            | both first second => exact absurd rfl (notBoth first second)
            | _ => rfl
          rw [List.filterMap_append, List.filterMap_cons_none silent, List.filterMap_nil,
            List.append_nil, prompts]
          rfl

/-- Every step of the engines is one that their surroundings allow. -/
theorem feeds_of_mem {fed : List (Side Opoi.Stimulus Shard.Stimulus)}
    {start engines : OpoiEngine × ShardEngine} {side : Side Opoi.Stimulus Shard.Stimulus}
    (run : (Routing.system sha256).Run start fed engines) (mem : side ∈ fed) :
    Routing.Feeds engines side := by
  induction run with
  | nil => cases mem
  | snoc _ enabled _ ih =>
      rcases List.mem_append.mp mem with earlier | last
      · exact ih earlier
      · cases List.mem_singleton.mp last
        exact enabled.1

/-- A prompt that one of the engines takes in is taken in by both. -/
theorem mem_prompts {fed : List (Side Opoi.Stimulus Shard.Stimulus)}
    {engines : OpoiEngine × ShardEngine} {requestId : RequestId} {promptHex : String}
    (run : (Routing.system sha256).Run (OpoiEngine.new, ShardEngine.new) fed engines)
    (taken : OpoiEngine.TakenIn (fed.filterMap Side.first?) requestId promptHex ∨
      ShardEngine.TakenIn (fed.filterMap Side.second?) requestId promptHex) :
    (requestId, promptHex) ∈ fed.filterMap prompt? := by
  rcases taken with ⟨stimulus, mem, model, maxTokens, isEvent⟩ | ⟨stimulus, mem, isEvent⟩
  · obtain ⟨side, inFed, first⟩ := List.mem_filterMap.mp mem
    have feeds := feeds_of_mem run inFed
    rcases stimulus with ⟨registry, event⟩
    cases isEvent
    cases side with
    | left stimulus =>
        cases first
        exact feeds.elim
    | right stimulus => cases first
    | both stimulus second =>
        cases first
        exact List.mem_filterMap.mpr ⟨_, inFed, rfl⟩
  · obtain ⟨side, inFed, second⟩ := List.mem_filterMap.mp mem
    have feeds := feeds_of_mem run inFed
    rcases stimulus with ⟨registry, event⟩
    cases isEvent
    cases side with
    | left stimulus => cases second
    | right stimulus =>
        cases second
        exact feeds.elim
    | both first stimulus =>
        cases second
        rcases first with ⟨other, event⟩
        cases event with
        | receivePrompt target hex model maxTokens =>
            obtain ⟨rfl, rfl⟩ := feeds
            exact List.mem_filterMap.mpr ⟨_, inFed, rfl⟩
        | _ => exact feeds.elim

/-- Only posts with the key come through. -/
theorem apiKey_of_run (run : (system sha256).Run (new apiKey) events finish)
    (dispatched : (post, .dispatched) ∈ finish.log) : post.apiKey = some apiKey := by
  have kept : finish.apiKey = apiKey ∧
      ∀ post, (post, .dispatched) ∈ finish.log → post.apiKey = some apiKey := by
    apply run.invariant
      (I := fun front => front.apiKey = apiKey ∧
        ∀ post, (post, .dispatched) ∈ front.log → post.apiKey = some apiKey)
    · exact ⟨rfl, fun _ mem => absurd mem List.not_mem_nil⟩
    · rintro front event ⟨sameKey, others⟩ - -
      cases event with
      | engines side => exact ⟨sameKey, others⟩
      | post registry incoming =>
          refine ⟨sameKey, fun post mem => ?_⟩
          rcases List.mem_append.mp mem with earlier | last
          · exact others post earlier
          · have same := List.mem_singleton.mp last
            obtain rfl : post = incoming := congrArg Prod.fst same
            have allowed := authorized_of_dispatched (congrArg Prod.snd same).symm
            exact apiKey_of_authorized (sameKey ▸ allowed)
  exact kept.2 post dispatched

/-- A post with the key came through that brought the prompt for the request. -/
def Posted (apiKey : List UInt8) (log : List (Post × Admission)) (requestId : RequestId)
    (promptHex : String) : Prop :=
  ∃ post, (post, .dispatched) ∈ log ∧ post.apiKey = some apiKey ∧
    post.requestId = requestId ∧ post.promptHex = promptHex

/-- In every run, each prompt that the whole-model engine or the shard engine sends to a
miner is that of a post for the same request which had the key and came through. -/
theorem prompts_posted (run : (system sha256).Run (new apiKey) events finish) :
    (∀ assign ∈ finish.engines.1.lines,
      Posted apiKey finish.log assign.requestId assign.promptHex) ∧
    ∀ wallet tx assign promptHex, .shardAssign wallet tx assign ∈ finish.engines.2.log →
      assign.input = .prompt promptHex →
        Posted apiKey finish.log assign.requestId promptHex := by
  obtain ⟨-, fed, engines, prompts⟩ := refines run
  have posted : ∀ requestId promptHex,
      OpoiEngine.TakenIn (fed.filterMap Side.first?) requestId promptHex ∨
        ShardEngine.TakenIn (fed.filterMap Side.second?) requestId promptHex →
      Posted apiKey finish.log requestId promptHex := by
    intro requestId promptHex taken
    have mem := mem_prompts engines taken
    rw [prompts] at mem
    obtain ⟨post, came, same⟩ := List.mem_map.mp mem
    cases same
    obtain ⟨⟨_, admission⟩, logged, rfl⟩ := List.mem_map.mp came
    obtain ⟨logged, dispatched⟩ := List.mem_filter.mp logged
    cases of_decide_eq_true dispatched
    exact ⟨_, logged, apiKey_of_run run logged, rfl, rfl⟩
  constructor
  · intro assign mem
    exact posted _ _ (.inl ((OpoiEngine.vouched_of_run engines.first).lines assign mem))
  · intro wallet tx assign promptHex mem input
    exact posted _ _ (.inr ((ShardEngine.vouched_of_run engines.second).sent mem input))

/-! ## How many posts get that far -/

/-- A limiter with a limit, and fewer requests than its counters count, allows an address
twice the limit in an interval as long as its window. -/
theorem length_within_le {maxRequests : UInt32} {window : Nat} {ip : IpAddr}
    {requests : List Http.Request} (positive : maxRequests ≠ 0) (short : requests.length < 2 ^ 32)
    (ordered : (requests.filter fun request => request.ip = ip).Pairwise
      fun first second => first.now ≤ second.now) (start : Nat) :
    ((RateLimiter.answersTo maxRequests window ip requests).filter
      (within (fun answer => answer.request.now) Answer.allowed start window)).length ≤
        2 * maxRequests.toNat := by
  have alone : RateLimiter.answersTo maxRequests window ip requests =
      (RateLimiter.new maxRequests window).answers
        (requests.filter fun request => request.ip = ip) :=
    (RateLimiter.Alike.refl ip _).answers_eq requests
  have asked := RateLimiter.map_request_answers (RateLimiter.new maxRequests window)
    (requests.filter fun request => request.ip = ip)
  have lawful : RateLimiter.Lawful maxRequests window
      (RateLimiter.answersTo maxRequests window ip requests) := by
    rw [alone]
    exact RateLimiter.lawful_answers fun request mem => of_decide_eq_true (List.mem_filter.mp mem).2
  have few : (RateLimiter.answersTo maxRequests window ip requests).length < 2 ^ 32 := by
    have length := congrArg List.length asked
    rw [List.length_map, ← alone] at length
    exact (length.trans_le (List.length_filter_le _ _)).trans_lt short
  have sorted : (RateLimiter.answersTo maxRequests window ip requests).Pairwise
      fun first second => first.request.now ≤ second.request.now := by
    rw [← asked] at ordered
    rw [alone]
    simpa only [List.pairwise_map] using ordered
  have sound : RateLimiter.Sound maxRequests
      (RateLimiter.answersTo maxRequests window ip requests) := by
    refine ⟨fun zero => absurd zero positive, fun before isPrefix => ?_⟩
    exact ((fromLast_suffix before).length_le.trans isPrefix.length_le).trans_lt few
  apply length_filter_within_le_two_mul (lawful.spaced sorted)
  intro before isPrefix
  rw [(sound.of_isPrefix isPrefix).length_allowed (lawful.of_isPrefix isPrefix)]
  exact Nat.min_le_right ..

/-- What the limiter has to say of a logged post. -/
def checked (entry : Post × Admission) : Http.Request × Bool :=
  (entry.1.request, entry.2 ≠ .tooManyRequests)

/-- The posts are admitted as the limiter answers them. -/
structure Admits (front : Front) : Prop where
  limiter : front.limiter =
    (RateLimiter.new 30 60000000000).after (front.log.map fun entry => entry.1.request)
  answers : front.log.map checked =
    ((RateLimiter.new 30 60000000000).answers (front.log.map fun entry => entry.1.request)).map
      fun answer => (answer.request, answer.allowed)

theorem admission_ne_tooManyRequests_iff :
    front.admission post ≠ .tooManyRequests ↔ (front.limiter.check post.request).1 = true := by
  unfold admission
  split
  · rename_i allowed
    split <;> simp [allowed]
  · rename_i refused
    simp [refused]

theorem admits_of_run (run : (system sha256).Run (new apiKey) events finish) : finish.Admits := by
  apply run.invariant (I := Admits) ⟨rfl, rfl⟩
  rintro front event ⟨limiter, answers⟩ - -
  cases event with
  | engines side => exact ⟨limiter, answers⟩
  | post registry post =>
      constructor
      · change (front.limiter.check post.request).2 = _
        rw [limiter]
        simp only [system, next, List.map_append, RateLimiter.after, List.foldl_append]
        rfl
      · simp only [system, next, List.map_append, List.map_singleton, RateLimiter.answers_snoc]
        rw [answers, ← limiter]
        congr 2
        simp only [checked, admission_ne_tooManyRequests_iff, RateLimiter.answer,
          Bool.decide_eq_true]

/-- In every run with fewer than 2^32 posts, at most sixty posts of an address get past the
limiter in a minute, and no more try the key. -/
theorem few_attempts (run : (system sha256).Run (new apiKey) events finish)
    (short : finish.log.length < 2 ^ 32)
    (ordered : finish.log.Pairwise fun first second =>
      first.1.peer = second.1.peer → first.1.now ≤ second.1.now) (ip : IpAddr) (start : Nat) :
    (finish.log.filter fun entry => entry.1.peer = ip ∧ entry.2 ≠ .tooManyRequests ∧
      start ≤ entry.1.now ∧ entry.1.now < start + 60000000000).length ≤ 60 := by
  let counts : Http.Request × Bool → Bool := fun check =>
    check.1.ip = ip ∧ check.2 = true ∧ start ≤ check.1.now ∧ check.1.now < start + 60000000000
  let requests := finish.log.map fun entry => entry.1.request
  have inOrder : (requests.filter fun request => request.ip = ip).Pairwise
      fun first second => first.now ≤ second.now := by
    have own : requests.Pairwise fun first second =>
        first.ip = second.ip → first.now ≤ second.now :=
      List.pairwise_map.mpr ordered
    refine (own.sublist List.filter_sublist).imp_of_mem ?_
    intro first second firstMem secondMem later
    have firstIs := of_decide_eq_true (List.mem_filter.mp firstMem).2
    have secondIs := of_decide_eq_true (List.mem_filter.mp secondMem).2
    exact later (firstIs.trans secondIs.symm)
  calc (finish.log.filter fun entry => entry.1.peer = ip ∧ entry.2 ≠ .tooManyRequests ∧
        start ≤ entry.1.now ∧ entry.1.now < start + 60000000000).length
      = (finish.log.filter (counts ∘ checked)).length := by
        congr 2
        funext entry
        simp [counts, checked, Post.request]
    _ = (finish.log.map checked).countP counts := by
        rw [List.countP_map, List.countP_eq_length_filter]
    _ = ((RateLimiter.new 30 60000000000).answers requests).countP
          (counts ∘ fun answer => (answer.request, answer.allowed)) := by
        rw [(admits_of_run run).answers, List.countP_map]
    _ = ((RateLimiter.answersTo 30 60000000000 ip requests).filter
          (within (fun answer => answer.request.now) Answer.allowed start 60000000000)).length := by
        rw [RateLimiter.answersTo, List.filter_filter, List.countP_eq_length_filter]
        congr 2
        funext answer
        simp only [counts, within, Function.comp_apply, Bool.decide_and, Bool.decide_eq_true]
        ac_rfl
    _ ≤ 2 * (30 : UInt32).toNat :=
        length_within_le (by decide) (by rw [List.length_map]; exact short) inOrder start
    _ = 60 := rfl

/-! ## An example deployment -/

/-- A post with the key, for request `"r"` under a name of its model. -/
def solePost : Post :=
  ⟨.v4 0, 0, some [107], "r", "\x00", some "alias", some 9⟩

/-- It comes through, and the whole-model engine's next tick pushes the request. -/
def soleEvents : List FrontEvent :=
  .post ShardEngine.soleRegistry solePost ::
    (Routing.optimisticEvents.drop 1).map FrontEvent.engines

/-- Steps of the engines alone are steps of the front. -/
theorem admits_engines {sides : List (Side Opoi.Stimulus Shard.Stimulus)}
    (allowed : (Routing.system sha256).Admits (fun _ _ => True) front.engines sides)
    (notBoth : ∀ side ∈ sides, ∀ first second, side ≠ .both first second) :
    (system sha256).Admits (fun _ _ => True) front (sides.map .engines) := by
  induction sides generalizing front with
  | nil => trivial
  | cons side sides ih =>
      obtain ⟨⟨now, -⟩, later⟩ := allowed
      refine ⟨⟨⟨now, notBoth side List.mem_cons_self⟩, trivial⟩, ih later ?_⟩
      exact fun other mem => notBoth other (List.mem_cons_of_mem _ mem)

theorem run_soleEvents :
    (system id).Run (new [107]) soleEvents ((system id).execute (new [107]) soleEvents) := by
  apply System.Admits.runWith
  refine ⟨⟨trivial, trivial⟩, admits_engines ?_ ?_⟩
  · exact ⟨⟨⟨trivial, _, _, _, _, rfl⟩, trivial⟩,
      ⟨⟨trivial, rfl⟩, trivial⟩, ⟨⟨trivial, rfl⟩, trivial⟩,
      ⟨⟨trivial, rfl, List.nodup_singleton _, OpoiEngine.mem_sole_iff rfl (by decide) rfl
        fun _ ne => PartialMap.insert_of_ne _ _ ne⟩, trivial⟩,
      ⟨⟨trivial, _, _, rfl⟩, trivial⟩, trivial⟩
  · intro side mem first second same
    subst same
    simp [Routing.optimisticEvents] at mem

/-- An instance of `prompts_posted`: one line, with the prompt of the one post. -/
theorem prompts_posted_sole :
    let finish := (system id).execute (new [107]) soleEvents
    finish.engines.1.lines.length = 1 ∧
      ∀ assign ∈ finish.engines.1.lines,
        Posted [107] finish.log assign.requestId assign.promptHex :=
  ⟨by decide +kernel, (prompts_posted run_soleEvents).1⟩

/-- Thirty posts with a wrong key, and then two with the right one, all at one moment. -/
def manyPosts : List FrontEvent :=
  (List.replicate 30 { solePost with apiKey := some [0] } ++ [solePost, solePost]).map
    (FrontEvent.post ShardEngine.soleRegistry)

theorem admits_posts (registry : MinerRegistry) (posts : List Post) :
    (system sha256).Admits (fun _ _ => True) front (posts.map (FrontEvent.post registry)) := by
  induction posts generalizing front with
  | nil => trivial
  | cons post posts ih => exact ⟨⟨trivial, trivial⟩, ih⟩

/-- An instance of `few_attempts`: of thirty-two posts two do not get past the limiter. -/
theorem few_attempts_sole :
    let finish := (system id).execute (new [107]) manyPosts
    finish.log.map Prod.snd =
        List.replicate 30 .unauthorized ++ [.tooManyRequests, .tooManyRequests] ∧
      (finish.log.filter fun entry => entry.1.peer = .v4 0 ∧ entry.2 ≠ .tooManyRequests ∧
        0 ≤ entry.1.now ∧ entry.1.now < 0 + 60000000000).length ≤ 60 := by
  intro finish
  have answers : finish.log.map Prod.snd =
      List.replicate 30 .unauthorized ++ [.tooManyRequests, .tooManyRequests] := by
    decide +kernel
  have many : finish.log.length = 32 := by decide +kernel
  have moments : ∀ entry ∈ finish.log, entry.1.now = 0 := by decide +kernel
  refine ⟨answers, few_attempts (admits_posts _ _).runWith ?_ ?_ (.v4 0) 0⟩
  · change finish.log.length < _
    rw [many]
    decide
  · apply List.pairwise_of_forall_mem_list
    intro first firstMem second secondMem _
    rw [moments first firstMem, moments second secondMem]

end Front

end StratumBridge.Bridge
