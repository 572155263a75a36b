import StratumBridge.Lifecycle.Commit
import Mathlib.Data.List.Range
import Mathlib.Data.Nat.ModEq

/-!
# Trying the addresses of a pool

A call of the daemon is tried for one address of the pool after the other, from an
offset that each call moves on.  The offset is a machine word that wraps; what the
daemon answers to each try is input.
-/

namespace StratumBridge.Stake

open Lifecycle (StakePool)

/-- `StakePool` with its counter. -/
structure Pool (width : Nat) extends StakePool where
  next : BitVec width

/-- The addresses that a call tried, by their indexes, and what it returns. -/
structure Trial (α : Type) where
  called : List Nat
  outcome : Except AppError (String × α)

namespace Pool

variable {width : Nat} {α : Type}

/-- `StakePool::new`. -/
def new (pool : StakePool) : Pool width :=
  ⟨pool, 0⟩

theorem length_pos (pool : Pool width) : 0 < pool.addresses.length :=
  List.length_pos_iff.mpr pool.nonempty

/-- The index that an offset from the start comes to. -/
def index (pool : Pool width) (offset : Nat) : Nat :=
  offset % pool.addresses.length

def address (pool : Pool width) (offset : Nat) : String :=
  pool.addresses.get ⟨pool.index offset, Nat.mod_lt _ pool.length_pos⟩

/-- The address that a call starts with. -/
def start (pool : Pool width) : Nat :=
  pool.next.toNat % pool.addresses.length

/-- `fetch_add`. -/
def advance (pool : Pool width) : Pool width :=
  { pool with next := pool.next + 1 }

/-- The loop of `try_each` over the steps that are left, after an error. -/
def tryFrom (pool : Pool width) (f : Nat → String → Except AppError α) (start : Nat) :
    List Nat → AppError → Trial α
  | [], lastErr => ⟨[], .error lastErr⟩
  | i :: rest, _ =>
      let addr := pool.address (start + i)
      match f i addr with
      | .ok v => ⟨[pool.index (start + i)], .ok (addr, v)⟩
      | .error e =>
          let later := pool.tryFrom f start rest e
          ⟨pool.index (start + i) :: later.called, later.outcome⟩

/-- `try_each`, where `f` is what each try answers. -/
def tryEach (pool : Pool width) (f : Nat → String → Except AppError α) :
    Pool width × Trial α :=
  (pool.advance, pool.tryFrom f pool.start (List.range pool.addresses.length)
    (.rpc "StakePool: no addresses configured"))

/-- The pool after some calls. -/
def after (pool : Pool width) (calls : List (Nat → String → Except AppError α)) : Pool width :=
  calls.foldl (fun pool f => (pool.tryEach f).1) pool

variable {pool : Pool width} {f : Nat → String → Except AppError α}

/-- What the try in a step answers. -/
def answer (pool : Pool width) (f : Nat → String → Except AppError α) (step : Nat) :
    Except AppError α :=
  f step (pool.address (pool.start + step))

/-! ## One call -/

/-- The steps that are left: the first that succeeds ends the call. -/
theorem tryFrom_cases (pool : Pool width) (f : Nat → String → Except AppError α)
    (steps : List Nat) (lastErr : AppError) :
    (∃ front step rest v, steps = front ++ step :: rest ∧
      (∀ failed ∈ front, ∃ err, pool.answer f failed = .error err) ∧
      pool.answer f step = .ok v ∧
      pool.tryFrom f pool.start steps lastErr =
        ⟨(front ++ [step]).map fun i => pool.index (pool.start + i),
          .ok (pool.address (pool.start + step), v)⟩) ∨
    (∃ err, (∀ failed ∈ steps, ∃ err, pool.answer f failed = .error err) ∧
      (steps = [] → err = lastErr) ∧
      (∀ step, steps.getLast? = some step → pool.answer f step = .error err) ∧
      pool.tryFrom f pool.start steps lastErr =
        ⟨steps.map fun i => pool.index (pool.start + i), .error err⟩) := by
  induction steps generalizing lastErr with
  | nil => exact .inr ⟨lastErr, nofun, fun _ => rfl, nofun, rfl⟩
  | cons step rest ih =>
      cases answered : pool.answer f step with
      | ok v =>
          refine .inl ⟨[], step, rest, v, rfl, nofun, answered, ?_⟩
          rw [answer] at answered
          simp only [tryFrom, answered, List.nil_append, List.map_singleton]
      | error e =>
          have unfolded : pool.tryFrom f pool.start (step :: rest) lastErr =
              ⟨pool.index (pool.start + step) :: (pool.tryFrom f pool.start rest e).called,
                (pool.tryFrom f pool.start rest e).outcome⟩ := by
            rw [answer] at answered
            simp only [tryFrom, answered]
          rw [unfolded]
          rcases ih e with ⟨front, hit, others, v, rfl, missed, found, same⟩ |
            ⟨err, missed, first, last, same⟩
          · refine .inl ⟨step :: front, hit, others, v, rfl, ?_, found, ?_⟩
            · exact List.forall_mem_cons.mpr ⟨⟨e, answered⟩, missed⟩
            · rw [same, List.cons_append, List.map_cons]
          · refine .inr ⟨err, List.forall_mem_cons.mpr ⟨⟨e, answered⟩, missed⟩, nofun, ?_, ?_⟩
            · intro final isFinal
              cases rest with
              | nil =>
                  cases isFinal
                  rw [first rfl]
                  exact answered
              | cons other others =>
                  rw [List.getLast?_cons_cons] at isFinal
                  exact last final isFinal
            · rw [same, List.map_cons]

/-- The indexes that a call goes through when nothing succeeds. -/
def round (pool : Pool width) : List Nat :=
  (List.range pool.addresses.length).map fun i => pool.index (pool.start + i)

/-- No two of them are the same. -/
theorem nodup_round (pool : Pool width) : pool.round.Nodup := by
  apply List.Nodup.map_on _ List.nodup_range
  intro first firstMem second secondMem same
  have firstBound := List.mem_range.mp firstMem
  have secondBound := List.mem_range.mp secondMem
  have equal : Nat.ModEq pool.addresses.length first second :=
    Nat.ModEq.add_left_cancel' pool.start same
  exact Nat.ModEq.eq_of_lt_of_lt equal firstBound secondBound

/-- A call ends with the first success, or fails with the last error after a whole
round. -/
theorem tryEach_cases (pool : Pool width) (f : Nat → String → Except AppError α) :
    (∃ count v, count < pool.addresses.length ∧
      (∀ step < count, ∃ err, pool.answer f step = .error err) ∧
      pool.answer f count = .ok v ∧
      (pool.tryEach f).2 = ⟨pool.round.take (count + 1),
        .ok (pool.address (pool.start + count), v)⟩) ∨
    (∃ err, (∀ step < pool.addresses.length, ∃ err, pool.answer f step = .error err) ∧
      pool.answer f (pool.addresses.length - 1) = .error err ∧
      (pool.tryEach f).2 = ⟨pool.round, .error err⟩) := by
  rcases pool.tryFrom_cases f (List.range pool.addresses.length)
    (.rpc "StakePool: no addresses configured") with
    ⟨front, count, rest, v, split, missed, found, same⟩ | ⟨err, missed, -, last, same⟩
  · left
    have size := congrArg List.length split
    rw [List.length_range, List.length_append, List.length_cons] at size
    -- the steps before the success are the numbers below it
    have front_eq : front = List.range front.length := by
      have cut := congrArg (List.take front.length) split
      rw [List.take_left, List.take_range, Nat.min_eq_left (by omega)] at cut
      exact cut.symm
    have count_eq : count = front.length := by
      have here := congrArg (·[front.length]?) split
      rw [List.getElem?_range (by omega), List.getElem?_append_right (Nat.le_refl _),
        Nat.sub_self] at here
      cases here
      rfl
    have short : count < pool.addresses.length := by omega
    refine ⟨count, v, short, fun step below => missed step ?_, found, ?_⟩
    · rw [front_eq, ← count_eq]
      exact List.mem_range.mpr below
    · have taken : front ++ [count] = (List.range pool.addresses.length).take (count + 1) := by
        rw [front_eq, ← count_eq, List.take_range, Nat.min_eq_left short, List.range_succ]
      rw [tryEach, same, taken, List.map_take]
      rfl
  · right
    refine ⟨err, fun step below => missed step (List.mem_range.mpr below), ?_, same⟩
    apply last
    rw [List.getLast?_range, if_neg (Nat.ne_of_gt pool.length_pos)]

/-! ## Consecutive calls -/

theorem start_advance (pool : Pool width) : pool.advance.start =
    if pool.next = BitVec.allOnes width then 0
    else (pool.start + 1) % pool.addresses.length := by
  have below := pool.next.isLt
  have counted : (pool.next + 1).toNat = (pool.next.toNat + 1) % 2 ^ width := by
    simp only [BitVec.toNat_add, BitVec.ofNat_eq_ofNat, BitVec.toNat_ofNat, Nat.add_mod_mod]
  have most : (BitVec.allOnes width).toNat = 2 ^ width - 1 := BitVec.toNat_allOnes
  unfold start advance
  split
  · rename_i full
    have wrapped : pool.next.toNat + 1 = 2 ^ width := by
      rw [full]
      omega
    rw [counted, wrapped, Nat.mod_self, Nat.zero_mod]
  · rename_i room
    have fits : pool.next.toNat + 1 < 2 ^ width := by
      have ne : pool.next.toNat ≠ (BitVec.allOnes width).toNat :=
        fun same => room (BitVec.eq_of_toNat_eq same)
      omega
    rw [counted, Nat.mod_eq_of_lt fits, Nat.mod_add_mod]

theorem after_append (pool : Pool width) (calls : List (Nat → String → Except AppError α))
    (f : Nat → String → Except AppError α) :
    pool.after (calls ++ [f]) = (pool.after calls).advance := by
  unfold after
  rw [List.foldl_append]
  rfl

theorem addresses_after (pool : Pool width)
    (calls : List (Nat → String → Except AppError α)) :
    (pool.after calls).addresses = pool.addresses := by
  induction calls using List.reverseRecOn with
  | nil => rfl
  | append_singleton calls f ih =>
      rw [after_append]
      exact ih

/-- A call goes once round the pool, from its start on, until something succeeds: it
fails with the last error exactly when the whole round failed.  The start moves on by
one with each call, except when the counter wraps. -/
theorem tryEach_goes_round (pool : Pool width) (f : Nat → String → Except AppError α)
    (calls : List (Nat → String → Except AppError α)) :
    (pool.round.Nodup ∧ pool.round.length = pool.addresses.length) ∧
    ((∃ count v, count < pool.addresses.length ∧
        (∀ step < count, ∃ err, pool.answer f step = .error err) ∧
        pool.answer f count = .ok v ∧
        (pool.tryEach f).2 = ⟨pool.round.take (count + 1),
          .ok (pool.address (pool.start + count), v)⟩) ∨
      (∃ err, (∀ step < pool.addresses.length, ∃ err, pool.answer f step = .error err) ∧
        pool.answer f (pool.addresses.length - 1) = .error err ∧
        (pool.tryEach f).2 = ⟨pool.round, .error err⟩)) ∧
    ((∃ err, (pool.tryEach f).2.outcome = .error err) ↔
      (pool.tryEach f).2.called = pool.round ∧
        ∀ step < pool.addresses.length, ∃ err, pool.answer f step = .error err) ∧
    (pool.after (calls ++ [f])).start =
      if (pool.after calls).next = BitVec.allOnes width then 0
      else ((pool.after calls).start + 1) % pool.addresses.length := by
  have length : pool.round.length = pool.addresses.length := by
    rw [round, List.length_map, List.length_range]
  refine ⟨⟨pool.nodup_round, length⟩, pool.tryEach_cases f, ?_, ?_⟩
  · constructor
    · rintro ⟨err, failed⟩
      rcases pool.tryEach_cases f with ⟨count, v, -, -, -, same⟩ | ⟨last, missed, -, same⟩
      · rw [same] at failed
        cases failed
      · rw [same]
        exact ⟨rfl, missed⟩
    · rintro ⟨-, missed⟩
      rcases pool.tryEach_cases f with ⟨count, v, short, -, found, -⟩ | ⟨last, -, -, same⟩
      · obtain ⟨err, failed⟩ := missed count short
        cases found.symm.trans failed
      · exact ⟨last, by rw [same]⟩
  · rw [after_append, start_advance, addresses_after]

end Pool

end StratumBridge.Stake
