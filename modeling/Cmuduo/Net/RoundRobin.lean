import Cmuduo.Net.EventLoopThread
import Cmuduo.Net.Kernel
import Mathlib.Data.List.Nodup

set_option autoImplicit false

namespace Cmuduo.Net

-- The fields of EventLoopThreadPool that dispatch connections. threads is the
-- size of threads_; next_ is an int that is compared with a size_t.
structure DispatchPool where
  baseLoop : LoopRef
  started : Bool
  numThreads : Nat
  next : Nat
  threads : Nat
  loops : List LoopRef
deriving DecidableEq, Repr

namespace DispatchPool

def new (numThreads : Nat) : DispatchPool :=
  { baseLoop := .baseLoop
    started := false
    numThreads := numThreads
    next := 0
    threads := 0
    loops := [] }

-- One turn of the for statement of start(), with the pointer that startLoop is
-- there to return: the loop of the new thread.
def startThread (s : DispatchPool) (i : Nat) : DispatchPool :=
  { s with threads := s.threads + 1, loops := s.loops ++ [.thread i] }

def start (s : DispatchPool) : DispatchPool := (List.range s.numThreads).foldl startThread { s with started := true }

def getNextLoop (s : DispatchPool) : Except Stop (LoopRef × DispatchPool) :=
  if s.threads ≠ 0 then
    match s.loops[s.next]? with
    | none => .error .badAccess
    | some loop =>
        let next := s.next + 1
        .ok (loop, { s with next := if next > s.loops.length then 0 else next })
  else .ok (s.baseLoop, s)

def calls : Nat → DispatchPool → Except Stop (List LoopRef × DispatchPool)
  | 0, s => .ok ([], s)
  | count + 1, s =>
      match s.getNextLoop with
      | .error stop => .error stop
      | .ok (loop, next) => (calls count next).map fun result => (loop :: result.1, result.2)

theorem start_threads (s : DispatchPool) (count : Nat) :
    (List.range count).foldl startThread s =
      { s with threads := s.threads + count, loops := s.loops ++ (List.range count).map .thread } := by
  induction count with
  | zero => simp
  | succ count ih => rw [List.range_succ, List.foldl_append, ih]; simp [startThread, Nat.add_assoc]

theorem start_new (n : Nat) :
    (new n).start = ⟨.baseLoop, true, n, 0, n, (List.range n).map .thread⟩ := by
  simp [start, new, start_threads]

theorem calls_base (s : DispatchPool) (count : Nat) (none : s.threads = 0) :
    s.calls count = .ok (List.replicate count s.baseLoop, s) := by
  induction count with
  | zero => rfl
  | succ count ih => simp [calls, getNextLoop, none, ih, Except.map, List.replicate_succ]

theorem get_next_loop_inside (s : DispatchPool) (some : s.threads ≠ 0) (inside : s.next < s.loops.length) :
    s.getNextLoop = .ok (s.loops[s.next], { s with next := s.next + 1 }) := by
  simp [getNextLoop, some, List.getElem?_eq_getElem inside, Nat.not_lt.mpr (Nat.succ_le_of_lt inside)]

-- The cursor walks up to the end of loops_: it is set back only when it has
-- passed the end, so the call that finds it at the end reads behind the vector.
theorem calls_inside (s : DispatchPool) (count : Nat) (some : s.threads ≠ 0) (inside : s.next + count ≤ s.loops.length) :
    s.calls count = .ok ((s.loops.drop s.next).take count, { s with next := s.next + count }) := by
  induction count generalizing s with
  | zero => simp [calls]
  | succ count ih =>
      have here : s.next < s.loops.length := by omega
      rw [calls, get_next_loop_inside s some here]
      simp only [ih { s with next := s.next + 1 } some (by dsimp only; omega), Except.map]
      rw [List.drop_eq_getElem_cons here, List.take_succ_cons, Nat.add_assoc, Nat.add_comm 1]

theorem calls_outside (s : DispatchPool) (count : Nat) (some : s.threads ≠ 0) (start : s.next ≤ s.loops.length)
    (outside : s.loops.length < s.next + count) : s.calls count = .error .badAccess := by
  induction count generalizing s with
  | zero => omega
  | succ count ih =>
      by_cases here : s.next < s.loops.length
      · rw [calls, get_next_loop_inside s some here]
        simp only [ih { s with next := s.next + 1 } some (by dsimp only; omega) (by dsimp only; omega), Except.map]
      · simp [calls, getNextLoop, some, List.getElem?_eq_none (Nat.not_lt.mp here)]

-- The first calls on a pool of n threads all stay in range, take the loops in
-- turn, and so differ by at most one in how often they choose each of them.
def Dispatches (n count : Nat) : Prop :=
  ∃ results s, (new n).start.calls count = .ok (results, s) ∧
    (∀ k, k < count → results[k]? = some (if n = 0 then .baseLoop else .thread (k % n))) ∧
    ∀ i j, i < n → j < n → results.count (.thread i) ≤ results.count (.thread j) + 1

theorem dispatches_first (n count : Nat) (few : count ≤ n) (positive : n ≠ 0) : Dispatches n count := by
  have returned := calls_inside (new n).start count (by rw [start_new]; exact positive)
    (by rw [start_new]; simpa using few)
  have taken : ((new n).start.loops.drop (new n).start.next).take count = (List.range count).map .thread := by
    rw [start_new, List.drop_zero, ← List.map_take, List.take_range, Nat.min_eq_left few]
  rw [taken] at returned
  refine ⟨_, _, returned, fun k below => ?_, fun i j _ _ => ?_⟩
  · rw [if_neg positive, Nat.mod_eq_of_lt (Nat.lt_of_lt_of_le below few)]
    simp [below]
  · have once : ((List.range count).map LoopRef.thread).Nodup :=
      List.Nodup.map (fun a b same => LoopRef.thread.inj same) List.nodup_range
    exact Nat.le_trans (List.nodup_iff_count_le_one.mp once _) (Nat.le_add_left _ _)

end DispatchPool

open DispatchPool in
theorem round_robin_dispatch (n count : Nat) : Dispatches n count ↔ n = 0 ∨ count ≤ n := by
  constructor
  · rintro ⟨results, s, returned, -⟩
    by_contra beyond
    rw [not_or, Nat.not_le] at beyond
    have failed := calls_outside (new n).start count (by rw [start_new]; exact beyond.1)
      (by rw [start_new]; exact Nat.zero_le _) (by rw [start_new]; simpa using beyond.2)
    rw [failed] at returned
    cases returned
  · intro within
    by_cases none : n = 0
    · subst none
      refine ⟨_, _, calls_base (new 0).start count rfl, fun k below => ?_, fun i j below => absurd below (Nat.not_lt_zero i)⟩
      rw [List.getElem?_replicate, if_pos below]
      rfl
    · exact dispatches_first n count (within.resolve_left none) none

-- A pool of one thread: the second connection reads loops_[1].
theorem second_dispatch_out_of_range :
    (DispatchPool.new 1).start.calls 2 = .error .badAccess ∧ ¬DispatchPool.Dispatches 1 2 := by
  have failed : (DispatchPool.new 1).start.calls 2 = .error .badAccess := by decide
  refine ⟨failed, ?_⟩
  rintro ⟨results, s, returned, -⟩
  rw [failed] at returned
  cases returned

end Cmuduo.Net
