import StratumBridge.Data.PartialMap
import StratumBridge.Sequence.Windows
import Mathlib.Algebra.Group.Nat.Defs

/-!
# The rate limiter

`RateLimiter` and its answers to a sequence of requests.  A bucket is reset by the first
request that comes a window or more after it was begun, and that request is allowed
unseen; the others are compared with the limit by a 32-bit counter that counts the
refused ones too.
-/

namespace StratumBridge.Http

open Data Sequence

/-- `IpAddr`. -/
inductive IpAddr
  | v4 (octets : BitVec 32)
  | v6 (octets : BitVec 128)
  deriving DecidableEq

/-- A time of the monotonic clock, in nanoseconds. -/
abbrev Instant := Nat

/-- `RateLimiter`.  A bucket is the time it was begun and the requests since. -/
structure RateLimiter where
  maxRequests : UInt32
  window : Nat
  buckets : PartialMap IpAddr (Instant × UInt32)

/-- A request, by the address of its peer and the time of its check. -/
structure Request where
  ip : IpAddr
  now : Instant
  deriving DecidableEq

/-- What came of a request. -/
structure Answer where
  request : Request
  resets : Bool
  allowed : Bool
  deriving DecidableEq

namespace RateLimiter

/-- `RateLimiter::new`. -/
def new (maxRequests : UInt32) (window : Nat) : RateLimiter :=
  ⟨maxRequests, window, PartialMap.empty⟩

/-- The bucket of an address, begun with a request if there is none. -/
def entry (limiter : RateLimiter) (request : Request) : Instant × UInt32 :=
  (limiter.buckets request.ip).getD (request.now, 0)

/-- The window of the bucket is over. -/
def resets (limiter : RateLimiter) (request : Request) : Bool :=
  limiter.window ≤ request.now - (limiter.entry request).1

/-- `check`. -/
def check (limiter : RateLimiter) (request : Request) : Bool × RateLimiter :=
  let entry := limiter.entry request
  if limiter.resets request then
    (true, { limiter with buckets := limiter.buckets.insert request.ip (request.now, 1) })
  else
    -- in a release build the counter wraps
    let count := entry.2 + 1
    (count ≤ limiter.maxRequests,
      { limiter with buckets := limiter.buckets.insert request.ip (entry.1, count) })

/-- The answer to a request. -/
def answer (limiter : RateLimiter) (request : Request) : Answer :=
  ⟨request, limiter.resets request, (limiter.check request).1⟩

/-- The answers to requests one after the other. -/
def answers : RateLimiter → List Request → List Answer
  | _, [] => []
  | limiter, request :: rest =>
      limiter.answer request :: answers (limiter.check request).2 rest

/-- The limiter after requests. -/
def after (limiter : RateLimiter) (requests : List Request) : RateLimiter :=
  requests.foldl (fun limiter request => (limiter.check request).2) limiter

variable {limiter other : RateLimiter} {request : Request} {requests : List Request}
  {ip : IpAddr}

theorem answers_snoc (limiter : RateLimiter) (requests : List Request) (request : Request) :
    limiter.answers (requests ++ [request]) =
      limiter.answers requests ++ [(limiter.after requests).answer request] := by
  induction requests generalizing limiter with
  | nil => rfl
  | cons first rest ih =>
      rw [List.cons_append, answers, ih, answers, List.cons_append]
      rfl

@[simp]
theorem check_maxRequests (limiter : RateLimiter) (request : Request) :
    (limiter.check request).2.maxRequests = limiter.maxRequests := by
  unfold check
  split <;> rfl

@[simp]
theorem check_window (limiter : RateLimiter) (request : Request) :
    (limiter.check request).2.window = limiter.window := by
  unfold check
  split <;> rfl

/-! ## One address at a time -/

theorem check_of_ne (ne : request.ip ≠ ip) :
    (limiter.check request).2.buckets ip = limiter.buckets ip := by
  unfold check
  split
  · exact PartialMap.insert_of_ne _ _ (Ne.symm ne)
  · exact PartialMap.insert_of_ne _ _ (Ne.symm ne)

/-- The limiters treat an address alike. -/
structure Alike (ip : IpAddr) (limiter other : RateLimiter) : Prop where
  maxRequests : limiter.maxRequests = other.maxRequests
  window : limiter.window = other.window
  bucket : limiter.buckets ip = other.buckets ip

theorem Alike.refl (ip : IpAddr) (limiter : RateLimiter) : Alike ip limiter limiter :=
  ⟨rfl, rfl, rfl⟩

theorem Alike.resets_eq (alike : Alike request.ip limiter other) :
    limiter.resets request = other.resets request := by
  rw [resets, resets, entry, entry, alike.window, alike.bucket]

theorem Alike.answer_eq (alike : Alike request.ip limiter other) :
    limiter.answer request = other.answer request := by
  have same := alike.resets_eq
  rw [answer, answer, same]
  congr 1
  unfold check
  rw [same, entry, entry, alike.bucket, alike.maxRequests]
  split <;> rfl

theorem Alike.check (alike : Alike request.ip limiter other) :
    Alike request.ip (limiter.check request).2 (other.check request).2 where
  maxRequests := by simp [alike.maxRequests]
  window := by simp [alike.window]
  bucket := by
    unfold RateLimiter.check
    rw [alike.resets_eq, entry, entry, alike.bucket]
    split
    · exact (PartialMap.insert_self ..).trans (PartialMap.insert_self ..).symm
    · exact (PartialMap.insert_self ..).trans (PartialMap.insert_self ..).symm

theorem Alike.check_of_ne (alike : Alike ip limiter other) (ne : request.ip ≠ ip) :
    Alike ip (limiter.check request).2 other where
  maxRequests := by simp [alike.maxRequests]
  window := by simp [alike.window]
  bucket := (RateLimiter.check_of_ne ne).trans alike.bucket

/-- What an address is answered does not depend on the requests of others. -/
theorem Alike.answers_eq (alike : Alike ip limiter other) (requests : List Request) :
    (limiter.answers requests).filter (fun answer => answer.request.ip = ip) =
      other.answers (requests.filter fun request => request.ip = ip) := by
  induction requests generalizing limiter other with
  | nil => rfl
  | cons request rest ih =>
      rw [answers]
      by_cases same : request.ip = ip
      · subst same
        rw [List.filter_cons_of_pos (by simp [answer]), List.filter_cons_of_pos (by simp),
          answers, alike.answer_eq, ih alike.check]
      · rw [List.filter_cons_of_neg (by simp [answer, same]),
          List.filter_cons_of_neg (by simp [same])]
        exact ih (alike.check_of_ne same)

/-! ## What a bucket counts -/

/-- The bucket after answers to its address: the time of the first since the last reset,
and their number. -/
def bucketOf (seen : List Answer) : Option (Instant × UInt32) :=
  (fromLast Answer.resets seen).head?.map fun first =>
    (first.request.now, UInt32.ofNat (fromLast Answer.resets seen).length)

theorem bucketOf_of_resets {answer : Answer} (seen : List Answer)
    (resets : answer.resets = true) :
    bucketOf (seen ++ [answer]) = some (answer.request.now, 1) := by
  rw [bucketOf, fromLast_snoc_of_mark seen resets]
  rfl

theorem bucketOf_of_not_resets {answer : Answer} (seen : List Answer)
    (stays : answer.resets = false) :
    bucketOf (seen ++ [answer]) =
      some (((bucketOf seen).getD (answer.request.now, 0)).1,
        ((bucketOf seen).getD (answer.request.now, 0)).2 + 1) := by
  rw [bucketOf, bucketOf, fromLast_snoc_of_unmarked seen stays]
  cases since : fromLast Answer.resets seen with
  | nil => rfl
  | cons first rest =>
      simp only [List.cons_append, List.head?_cons, Option.map_some, Option.getD_some,
        List.length_cons, List.length_append, List.length_nil]
      rw [UInt32.ofNat_add]
      rfl

/-- The counter of the bucket that a request finds. -/
theorem count_bucketOf (seen : List Answer) (now : Instant) :
    ((bucketOf seen).getD (now, 0)).2 =
      UInt32.ofNat (fromLast Answer.resets seen).length := by
  rw [bucketOf]
  cases fromLast Answer.resets seen with
  | nil => rfl
  | cons first rest => rfl

theorem succ_le_iff (count : Nat) (maxRequests : UInt32) :
    UInt32.ofNat count + 1 ≤ maxRequests ↔ (count + 1) % 2 ^ 32 ≤ maxRequests.toNat := by
  have next : UInt32.ofNat count + 1 = UInt32.ofNat (count + 1) := (UInt32.ofNat_add ..).symm
  rw [next, UInt32.le_iff_toNat_le]
  exact Iff.rfl

/-- After requests of its address, a new limiter has the bucket of its answers. -/
theorem buckets_after (maxRequests : UInt32) (window : Nat)
    (own : ∀ request ∈ requests, request.ip = ip) :
    let limiter := (new maxRequests window).after requests
    limiter.maxRequests = maxRequests ∧ limiter.window = window ∧
      limiter.buckets ip = bucketOf ((new maxRequests window).answers requests) := by
  induction requests using List.reverseRecOn with
  | nil => exact ⟨rfl, rfl, rfl⟩
  | append_singleton requests request ih =>
      have before := ih fun request mem => own request (List.mem_append_left _ mem)
      obtain rfl := own request (by simp)
      rcases before with ⟨sameMax, sameWindow, sameBucket⟩
      have moves : (new maxRequests window).after (requests ++ [request]) =
          (((new maxRequests window).after requests).check request).2 := by
        rw [after, List.foldl_append]
        rfl
      rw [moves, answers_snoc]
      refine ⟨by simpa using sameMax, by simpa using sameWindow, ?_⟩
      cases resets : ((new maxRequests window).after requests).resets request with
      | true =>
          rw [bucketOf_of_resets _ resets, check, if_pos resets]
          exact PartialMap.insert_self ..
      | false =>
          rw [bucketOf_of_not_resets _ resets, check, if_neg (by simp [resets])]
          refine (PartialMap.insert_self ..).trans ?_
          rw [entry, sameBucket]
          rfl

/-! ## How many are allowed -/

/-- What a limiter answers one address: the request that resets is allowed, the others
are counted since the last that did, in 32 bits, and no reset comes too early. -/
structure Lawful (maxRequests : UInt32) (window : Nat) (seen : List Answer) : Prop where
  allowed : ∀ before answer, before ++ [answer] <+: seen →
    answer.allowed = (answer.resets ||
      decide (((fromLast Answer.resets before).length + 1) % 2 ^ 32 ≤ maxRequests.toNat))
  resets : ∀ before answer, before ++ [answer] <+: seen → answer.resets = true →
    ∀ first ∈ (fromLast Answer.resets before).head?,
      window ≤ answer.request.now - first.request.now

theorem Lawful.of_isPrefix {maxRequests : UInt32} {window : Nat} {seen before : List Answer}
    (lawful : Lawful maxRequests window seen) (earlier : before <+: seen) :
    Lawful maxRequests window before where
  allowed first answer isPrefix := lawful.allowed first answer (isPrefix.trans earlier)
  resets first answer isPrefix := lawful.resets first answer (isPrefix.trans earlier)

/-- The last answer, and those before it. -/
theorem eq_of_snoc_prefix_snoc {α : Type} {before log : List α} {entry last : α}
    (isPrefix : before ++ [entry] <+: log ++ [last]) :
    before = log ∧ entry = last ∨ before ++ [entry] <+: log := by
  rcases List.prefix_concat_iff.mp isPrefix with whole | earlier
  · obtain ⟨same, lasts⟩ := List.append_inj' whole rfl
    exact .inl ⟨same, List.singleton_inj.mp lasts⟩
  · exact .inr earlier

theorem lawful_answers {maxRequests : UInt32} {window : Nat}
    (own : ∀ request ∈ requests, request.ip = ip) :
    Lawful maxRequests window ((new maxRequests window).answers requests) := by
  induction requests using List.reverseRecOn with
  | nil =>
      constructor
      · intro before answer isPrefix
        simp [answers] at isPrefix
      · intro before answer isPrefix
        simp [answers] at isPrefix
  | append_singleton requests request ih =>
      have others : ∀ request ∈ requests, request.ip = ip := fun request mem =>
        own request (List.mem_append_left _ mem)
      have held := ih others
      obtain ⟨sameMax, sameWindow, sameBucket⟩ := buckets_after maxRequests window others
      obtain rfl := own request (by simp)
      rw [answers_snoc]
      constructor
      · intro before answer isPrefix
        rcases eq_of_snoc_prefix_snoc isPrefix with ⟨rfl, rfl⟩ | earlier
        · simp only [RateLimiter.answer, check]
          cases resets : ((new maxRequests window).after requests).resets request with
          | true => rfl
          | false =>
              simp only [Bool.false_eq_true, if_false, Bool.false_or, decide_eq_decide]
              rw [entry, sameBucket, count_bucketOf, sameMax]
              exact succ_le_iff ..
        · exact held.allowed before answer earlier
      · intro before answer isPrefix
        rcases eq_of_snoc_prefix_snoc isPrefix with ⟨rfl, rfl⟩ | earlier
        · intro isReset first since
          have isOver := of_decide_eq_true isReset
          rw [sameWindow, entry, sameBucket, bucketOf, since] at isOver
          exact isOver
        · exact held.resets before answer earlier

/-- The reset request is within a limit that is not zero, and no counter wraps. -/
structure Sound (maxRequests : UInt32) (seen : List Answer) : Prop where
  positive : maxRequests = 0 → ∀ answer ∈ seen, answer.resets = false
  short : ∀ before, before <+: seen → (fromLast Answer.resets before).length < 2 ^ 32

theorem Sound.of_isPrefix {maxRequests : UInt32} {seen before : List Answer}
    (sound : Sound maxRequests seen) (earlier : before <+: seen) : Sound maxRequests before where
  positive zero answer mem := sound.positive zero answer (earlier.subset mem)
  short first isPrefix := sound.short first (isPrefix.trans earlier)

section Counts

variable {maxRequests : UInt32} {window : Nat} {seen : List Answer} {answer : Answer}

theorem toNat_pos_of_ne_zero (nonzero : maxRequests ≠ 0) : 0 < maxRequests.toNat := by
  apply Nat.pos_of_ne_zero
  intro zero
  exact nonzero (UInt32.toNat.inj zero)

/-- Since the last reset as many are allowed as came, up to the limit. -/
theorem Sound.length_allowed (sound : Sound maxRequests seen)
    (lawful : Lawful maxRequests window seen) :
    ((fromLast Answer.resets seen).filter Answer.allowed).length =
      min (fromLast Answer.resets seen).length maxRequests.toNat := by
  induction seen using List.reverseRecOn with
  | nil => exact (Nat.zero_min _).symm
  | append_singleton seen answer ih =>
      have before := List.prefix_append seen [answer]
      have counted := ih (sound.of_isPrefix before) (lawful.of_isPrefix before)
      have allowed := lawful.allowed seen answer (List.prefix_refl _)
      have short := sound.short (seen ++ [answer]) (List.prefix_refl _)
      cases resets : answer.resets with
      | true =>
          rw [resets, Bool.true_or] at allowed
          have nonzero : maxRequests ≠ 0 := by
            intro zero
            have stays := sound.positive zero answer (by simp)
            rw [resets] at stays
            cases stays
          have positive := toNat_pos_of_ne_zero nonzero
          rw [fromLast_snoc_of_mark seen resets, List.filter_cons_of_pos allowed,
            List.filter_nil, List.length_singleton]
          omega
      | false =>
          rw [fromLast_snoc_of_unmarked seen resets, List.length_append,
            List.length_singleton] at short
          rw [resets, Bool.false_or, Nat.mod_eq_of_lt short] at allowed
          rw [fromLast_snoc_of_unmarked seen resets, List.filter_append, List.length_append,
            List.length_append, counted, List.length_singleton]
          by_cases within : (fromLast Answer.resets seen).length + 1 ≤ maxRequests.toNat
          · rw [List.filter_cons_of_pos (by simp [allowed, within]), List.filter_nil,
              List.length_singleton]
            omega
          · rw [List.filter_cons_of_neg (by simp [allowed, within]), List.filter_nil,
              List.length_nil]
            omega

/-- Where no more than the limit are ever allowed since the last reset, the limit is not
zero at a reset and no counter wraps: the request that wraps it is one too many. -/
theorem sound_of_few (lawful : Lawful maxRequests window seen)
    (few : ∀ before, before <+: seen →
      ((fromLast Answer.resets before).filter Answer.allowed).length ≤ maxRequests.toNat) :
    Sound maxRequests seen := by
  induction seen using List.reverseRecOn with
  | nil =>
      constructor
      · intro _ answer mem
        cases mem
      · intro before isPrefix
        rw [List.prefix_nil.mp isPrefix]
        decide
  | append_singleton seen answer ih =>
      have before := List.prefix_append seen [answer]
      have held := ih (lawful.of_isPrefix before) fun first isPrefix =>
        few first (isPrefix.trans before)
      have counted := held.length_allowed (lawful.of_isPrefix before)
      have allowed := lawful.allowed seen answer (List.prefix_refl _)
      have now := few (seen ++ [answer]) (List.prefix_refl _)
      have short := held.short seen (List.prefix_refl _)
      have sound : (maxRequests = 0 → answer.resets = false) ∧
          (fromLast Answer.resets (seen ++ [answer])).length < 2 ^ 32 := by
        cases resets : answer.resets with
        | true =>
            rw [resets, Bool.true_or] at allowed
            rw [fromLast_snoc_of_mark seen resets, List.filter_cons_of_pos allowed,
              List.filter_nil] at now
            rw [fromLast_snoc_of_mark seen resets]
            constructor
            · rintro rfl
              cases now
            · exact Nat.one_lt_two_pow (by decide)
        | false =>
            rw [fromLast_snoc_of_unmarked seen resets, List.filter_append, List.length_append,
              counted] at now
            rw [fromLast_snoc_of_unmarked seen resets, List.length_append, List.length_singleton]
            refine ⟨fun _ => rfl, ?_⟩
            by_contra wraps
            have full : (fromLast Answer.resets seen).length + 1 = 2 ^ 32 := by omega
            rw [resets, Bool.false_or, full, Nat.mod_self] at allowed
            rw [List.filter_cons_of_pos (by simp [allowed]), List.filter_nil,
              List.length_singleton] at now
            have bound := maxRequests.toNat_lt
            omega
      constructor
      · intro zero other mem
        rcases List.mem_append.mp mem with inSeen | isLast
        · exact held.positive zero other inSeen
        · rw [List.mem_singleton.mp isLast]
          exact sound.1 zero
      · intro first isPrefix
        rcases List.prefix_concat_iff.mp isPrefix with rfl | earlier
        · exact sound.2
        · exact held.short first earlier

/-- A reset comes a window or more after the one before. -/
theorem Lawful.spaced (lawful : Lawful maxRequests window seen)
    (ordered : seen.Pairwise fun first second => first.request.now ≤ second.request.now) :
    Spaced Answer.resets (fun answer => answer.request.now) window seen where
  ordered := ordered
  apart before answer isPrefix resets first since := by
    have far := lawful.resets before answer isPrefix resets first since
    have inBefore := (fromLast_suffix before).subset (List.mem_of_head? since)
    have snoc := ordered.sublist isPrefix.sublist
    have later : first.request.now ≤ answer.request.now :=
      (List.pairwise_append.mp snoc).2.2 first inBefore answer List.mem_cons_self
    exact (Nat.le_sub_iff_add_le' later).mp far

end Counts

/-! ## The limits -/

/-- What an address is answered among other requests. -/
def answersTo (maxRequests : UInt32) (window : Nat) (ip : IpAddr) (requests : List Request) :
    List Answer :=
  ((new maxRequests window).answers requests).filter fun answer => answer.request.ip = ip

/-- No more than the limit are allowed between resets, nor twice that in an interval as
long as a window, and the address is answered as if it were alone. -/
structure Limits (maxRequests : UInt32) (window : Nat) (ip : IpAddr) (requests : List Request) :
    Prop where
  stretches : ∀ stretch, Stretch Answer.resets (answersTo maxRequests window ip requests) stretch →
    (stretch.filter Answer.allowed).length ≤ maxRequests.toNat
  intervals : ∀ start, ((answersTo maxRequests window ip requests).filter
    (within (fun answer => answer.request.now) Answer.allowed start window)).length ≤
      2 * maxRequests.toNat
  alone : answersTo maxRequests window ip requests =
    (new maxRequests window).answers (requests.filter fun request => request.ip = ip)

theorem map_request_answers (limiter : RateLimiter) (requests : List Request) :
    (limiter.answers requests).map Answer.request = requests := by
  induction requests generalizing limiter with
  | nil => rfl
  | cons request rest ih =>
      rw [answers, List.map_cons, ih]
      rfl

/-- The limiter keeps its limits exactly if, where the limit is zero, no request resets
the bucket, and never as many as 2^32 come between resets. -/
theorem limits_iff {maxRequests : UInt32} {window : Nat}
    (ordered : (requests.filter fun request => request.ip = ip).Pairwise
      fun first second => first.now ≤ second.now) :
    Limits maxRequests window ip requests ↔
      (maxRequests = 0 → ∀ answer ∈ answersTo maxRequests window ip requests,
        answer.resets = false) ∧
      ∀ stretch, Stretch Answer.resets (answersTo maxRequests window ip requests) stretch →
        stretch.length < 2 ^ 32 := by
  have alone : answersTo maxRequests window ip requests =
      (new maxRequests window).answers (requests.filter fun request => request.ip = ip) :=
    (Alike.refl ip _).answers_eq requests
  have lawful : Lawful maxRequests window (answersTo maxRequests window ip requests) := by
    have own : ∀ request ∈ requests.filter fun request => request.ip = ip, request.ip = ip :=
      fun request mem => of_decide_eq_true (List.mem_filter.mp mem).2
    rw [alone]
    exact lawful_answers own
  have sorted : (answersTo maxRequests window ip requests).Pairwise
      fun first second => first.request.now ≤ second.request.now := by
    rw [alone]
    have mapped := map_request_answers (new maxRequests window)
      (requests.filter fun request => request.ip = ip)
    rw [← mapped] at ordered
    simpa only [List.pairwise_map] using ordered
  have lengths : (∀ stretch,
        Stretch Answer.resets (answersTo maxRequests window ip requests) stretch →
          stretch.length < 2 ^ 32) ↔
      ∀ before, before <+: answersTo maxRequests window ip requests →
        (fromLast Answer.resets before).length < 2 ^ 32 := by
    have few : (∀ stretch,
          Stretch Answer.resets (answersTo maxRequests window ip requests) stretch →
            (stretch.filter fun _ => true).length ≤ 2 ^ 32 - 1) ↔
        ∀ before, before <+: answersTo maxRequests window ip requests →
          ((fromLast Answer.resets before).filter fun _ => true).length ≤ 2 ^ 32 - 1 :=
      forall_stretch_iff
    simpa [Nat.lt_iff_le_pred] using few
  rw [lengths]
  constructor
  · intro limits
    have sound := sound_of_few lawful (forall_stretch_iff.mp limits.stretches)
    exact ⟨sound.positive, sound.short⟩
  · rintro ⟨positive, short⟩
    have sound : Sound maxRequests (answersTo maxRequests window ip requests) :=
      ⟨positive, short⟩
    have few : ∀ before, before <+: answersTo maxRequests window ip requests →
        ((fromLast Answer.resets before).filter Answer.allowed).length ≤
          maxRequests.toNat := by
      intro before isPrefix
      rw [(sound.of_isPrefix isPrefix).length_allowed (lawful.of_isPrefix isPrefix)]
      exact Nat.min_le_right ..
    exact
      { stretches := forall_stretch_iff.mpr few
        intervals := length_filter_within_le_two_mul (lawful.spaced sorted) few
        alone := alone }

/-- One address asks twice, a minute apart. -/
def twice : List Request :=
  [⟨.v4 0, 0⟩, ⟨.v4 0, 60000000000⟩]

/-- An instance of `limits_iff`: under the limit of the bridge, all is kept. -/
theorem limits_twice : Limits 30 60000000000 (.v4 0) twice := by
  apply (limits_iff (by decide)).mpr
  constructor
  · intro zero
    cases zero
  · rintro stretch ⟨before, after, whole, -⟩
    have length := congrArg List.length whole
    have two : (answersTo 30 60000000000 (.v4 0) twice).length = 2 := by decide
    rw [two, List.length_append, List.length_append] at length
    omega

/-- A limit of zero allows the request that resets the bucket. -/
theorem reset_allowed_at_zero : ¬ Limits 0 60000000000 (.v4 0) twice := by
  intro limits
  have few := limits.stretches [⟨⟨.v4 0, 60000000000⟩, true, true⟩]
    ⟨[⟨⟨.v4 0, 0⟩, false, false⟩], [], by decide, by decide⟩
  exact absurd few (by decide)

end RateLimiter

end StratumBridge.Http
