import Cmuduo.Lib.Machine

set_option autoImplicit false

namespace Cmuduo.Net

open Machine

-- A pointer to an EventLoop is an Option of this; none is nullptr.
inductive LoopRef where
  | baseLoop
  | thread (index : Nat)
deriving DecidableEq, Repr

-- Where threadFunc stands: before the sem_post of Thread::start, before the
-- init callback, before the store to loop_, before notify_one, inside
-- loop.loop(), before the final store of nullptr, at its end.
inductive ThreadFuncPc where
  | starting
  | callback
  | publish
  | notify
  | looping
  | clear
  | exited
deriving DecidableEq, Repr

structure EventLoopThread where
  loop : Option LoopRef
  pc : ThreadFuncPc
deriving DecidableEq, Repr

-- Where EventLoopThreadPool::start stands: at the for statement, or in the
-- startLoop of the thread it has created last.
inductive StartPc where
  | next
  | semWait
  | lock
  | test
  | waiting
  | relock
  | read
  | returned
deriving DecidableEq, Repr

-- loop is the local variable of startLoop. mutexHeld is the mutex_ of the
-- thread being started; startLoop alone locks it, since the statement
-- std::unique_lock<std::mutex>(mutex_); of threadFunc declares a variable.
structure EventLoopThreadPool where
  numThreads : Nat
  cb : Bool
  threads : List EventLoopThread
  loops : List (Option LoopRef)
  pc : StartPc
  loop : Option LoopRef
  mutexHeld : Bool
  initialised : List LoopRef
deriving DecidableEq, Repr

inductive StartLabel where
  | create
  | semWait
  | lock
  | test
  | spuriousWake
  | relock
  | read
  | finish
  | semPost (index : Nat)
  | callback (index : Nat)
  | publish (index : Nat)
  | notify (index : Nat)
  | loopReturns (index : Nat)
  | clear (index : Nat)
deriving DecidableEq, Repr

namespace EventLoopThreadPool

def new (numThreads : Nat) (cb : Bool) : EventLoopThreadPool :=
  { numThreads := numThreads
    cb := cb
    threads := []
    loops := []
    pc := .next
    loop := none
    mutexHeld := false
    initialised := [] }

def started (s : EventLoopThreadPool) : Option EventLoopThread := s.threads.getLast?

def advance (s : EventLoopThreadPool) (index : Nat) (source target : ThreadFuncPc) (loop : Option LoopRef → Option LoopRef) :
    Option EventLoopThreadPool :=
  match s.threads[index]? with
  | none => none
  | some thread =>
      if thread.pc = source then
        some { s with threads := s.threads.set index ⟨loop thread.loop, target⟩ }
      else none

def step (s : EventLoopThreadPool) : StartLabel → Option EventLoopThreadPool
  | .create =>
      if s.pc = .next ∧ s.loops.length < s.numThreads then
        some { s with threads := s.threads ++ [⟨none, .starting⟩], loop := none, pc := .semWait }
      else none
  | .semWait =>
      if s.pc = .semWait ∧ s.started.any (·.pc ≠ .starting) then some { s with pc := .lock } else none
  | .lock => if s.pc = .lock ∧ !s.mutexHeld then some { s with mutexHeld := true, pc := .test } else none
  | .test =>
      if s.pc = .test then
        -- cond_.wait releases the mutex
        some (if s.loop = none then { s with mutexHeld := false, pc := .waiting } else { s with pc := .read })
      else none
  | .spuriousWake => if s.pc = .waiting then some { s with pc := .relock } else none
  | .relock => if s.pc = .relock ∧ !s.mutexHeld then some { s with mutexHeld := true, pc := .test } else none
  | .read =>
      if s.pc = .read then
        let loop := s.started.bind (·.loop)
        some { s with loop := loop, mutexHeld := false, loops := s.loops ++ [loop], pc := .next }
      else none
  | .finish =>
      if s.pc = .next ∧ s.numThreads ≤ s.loops.length then
        some { s with
          pc := .returned
          initialised := if s.numThreads = 0 ∧ s.cb then s.initialised ++ [.baseLoop] else s.initialised }
      else none
  | .semPost index => s.advance index .starting .callback id
  | .callback index =>
      (s.advance index .callback .publish id).map fun next =>
        { next with initialised := if s.cb then s.initialised ++ [.thread index] else s.initialised }
  | .publish index => s.advance index .publish .notify fun _ => some (.thread index)
  | .notify index =>
      (s.advance index .notify .looping id).map fun next =>
        if s.pc = .waiting ∧ index + 1 = s.threads.length then { next with pc := .relock } else next
  | .loopReturns index => s.advance index .looping .clear id
  | .clear index => s.advance index .clear .exited fun _ => none

def Notified (s : EventLoopThreadPool) : Prop :=
  s.started.any (fun thread => thread.pc = .looping ∨ thread.pc = .clear ∨ thread.pc = .exited) = true

-- startLoop is blocked in cond_.wait, or will block as soon as it runs on.
def BoundToWait (s : EventLoopThreadPool) : Prop :=
  s.pc = .waiting ∨ (s.pc = .semWait ∨ s.pc = .lock ∨ s.pc = .relock ∨ s.pc = .test) ∧ s.loop = none

def Stuck (s : EventLoopThreadPool) : Prop := s.Notified ∧ s.BoundToWait

instance (s : EventLoopThreadPool) : Decidable s.Stuck := by
  unfold Stuck Notified BoundToWait
  infer_instance

-- What the pool is to guarantee, for a number of threads and with or without an
-- init callback.
structure Handshake (numThreads : Nat) (cb : Bool) : Prop where
  awake : ∀ labels s, run step (new numThreads cb) labels = some s → ¬Stuck s
  published : ∀ labels s, run step (new numThreads cb) labels = some s →
    ∀ index (loop : Option LoopRef), s.loops[index]? = some loop → loop = some (.thread index)
  finishes : ∀ labels s, run step (new numThreads cb) labels = some s →
    ∃ later t, run step s later = some t ∧ t.pc = .returned ∧ t.loops.length = numThreads ∧ none ∉ t.loops

theorem advance_changes (s t : EventLoopThreadPool) (index : Nat) (source target : ThreadFuncPc)
    (loop : Option LoopRef → Option LoopRef) (taken : s.advance index source target loop = some t) :
    ∃ threads, t = { s with threads := threads } ∧ s.threads ≠ [] := by
  unfold advance at taken
  cases found : s.threads[index]? with
  | none => simp [found] at taken
  | some thread =>
      simp only [found, Option.ite_none_right_eq_some, Option.some.injEq] at taken
      obtain ⟨-, rfl⟩ := taken
      refine ⟨_, rfl, fun empty => ?_⟩
      rw [empty, List.getElem?_nil] at found
      cases found

-- The condition of startLoop's wait loop is never false: its variable is set
-- only after the loop. So the first startLoop does not come back.
structure InFirstStart (s : EventLoopThreadPool) : Prop where
  count : 0 < s.numThreads
  loop : s.loop = none
  loops : s.loops = []
  pc : s.pc ≠ .read ∧ s.pc ≠ .returned
  fresh : s.pc = .next → s.threads = []

theorem step_in_first_start (s t : EventLoopThreadPool) (label : StartLabel) (inside : InFirstStart s)
    (taken : s.step label = some t) : InFirstStart t := by
  obtain ⟨count, loop, loops, pc, fresh⟩ := inside
  have keeps : ∀ index source target update next, s.advance index source target update = some next →
      InFirstStart next := by
    intro index source target update next moved
    obtain ⟨changed, rfl, some⟩ := advance_changes s next index source target update moved
    exact ⟨count, loop, loops, pc, fun first => absurd (fresh first) some⟩
  cases label with
  | semPost index => exact keeps index .starting .callback id t taken
  | publish index => exact keeps index .publish .notify (fun _ => some (.thread index)) t taken
  | loopReturns index => exact keeps index .looping .clear id t taken
  | clear index => exact keeps index .clear .exited (fun _ => none) t taken
  | callback index =>
      obtain ⟨next, moved, rfl⟩ := Option.map_eq_some_iff.mp taken
      obtain ⟨count, loop, loops, pc, fresh⟩ := keeps _ _ _ _ _ moved
      exact ⟨count, loop, loops, pc, fresh⟩
  | notify index =>
      obtain ⟨next, moved, rfl⟩ := Option.map_eq_some_iff.mp taken
      obtain ⟨count, loop, loops, pc, fresh⟩ := keeps _ _ _ _ _ moved
      split
      · exact ⟨count, loop, loops, by simp, by simp⟩
      · exact ⟨count, loop, loops, pc, fresh⟩
  | read =>
      simp only [step, Option.ite_none_right_eq_some] at taken
      exact absurd taken.1 pc.1
  | finish =>
      simp only [step, Option.ite_none_right_eq_some, loops, List.length_nil] at taken
      omega
  | test =>
      simp only [step, Option.ite_none_right_eq_some, Option.some.injEq, if_pos loop] at taken
      obtain ⟨-, rfl⟩ := taken
      exact ⟨count, loop, loops, by simp, by simp⟩
  | create =>
      simp only [step, Option.ite_none_right_eq_some, Option.some.injEq] at taken
      obtain ⟨-, rfl⟩ := taken
      exact ⟨count, rfl, loops, by simp, by simp⟩
  | _ =>
      simp only [step, Option.ite_none_right_eq_some, Option.some.injEq] at taken
      obtain ⟨-, rfl⟩ := taken
      exact ⟨count, loop, loops, by simp, by simp⟩

theorem in_first_start (numThreads : Nat) (cb : Bool) (labels : List StartLabel) (s : EventLoopThreadPool)
    (positive : 0 < numThreads) (ran : run step (new numThreads cb) labels = some s) : InFirstStart s :=
  invariant step InFirstStart (fun s l t => step_in_first_start s t l) _ s labels
    ⟨positive, rfl, rfl, by simp [new], fun _ => rfl⟩ ran

theorem notified_stuck (s : EventLoopThreadPool) (inside : InFirstStart s) (notified : Notified s) : Stuck s := by
  refine ⟨notified, ?_⟩
  cases pc : s.pc with
  | next =>
      rw [Notified, started, inside.fresh pc] at notified
      cases notified
  | read => exact absurd pc inside.pc.1
  | returned => exact absurd pc inside.pc.2
  | waiting => exact .inl pc
  | semWait => exact .inr ⟨.inl pc, inside.loop⟩
  | lock => exact .inr ⟨.inr (.inl pc), inside.loop⟩
  | relock => exact .inr ⟨.inr (.inr (.inl pc)), inside.loop⟩
  | test => exact .inr ⟨.inr (.inr (.inr pc)), inside.loop⟩

structure Unthreaded (s : EventLoopThreadPool) : Prop where
  count : s.numThreads = 0
  threads : s.threads = []
  loops : s.loops = []
  pc : s.pc = .next ∨ s.pc = .returned

theorem step_unthreaded (s t : EventLoopThreadPool) (label : StartLabel) (inside : Unthreaded s)
    (taken : s.step label = some t) : Unthreaded t := by
  obtain ⟨count, threads, loops, pc⟩ := inside
  have stands : ∀ index source target update next, s.advance index source target update ≠ some next := by
    intro index source target update next moved
    obtain ⟨-, -, some⟩ := advance_changes s next index source target update moved
    exact some threads
  cases label with
  | semPost index => exact absurd taken (stands index .starting .callback id t)
  | publish index => exact absurd taken (stands index .publish .notify (fun _ => some (.thread index)) t)
  | loopReturns index => exact absurd taken (stands index .looping .clear id t)
  | clear index => exact absurd taken (stands index .clear .exited (fun _ => none) t)
  | callback index =>
      obtain ⟨next, moved, -⟩ := Option.map_eq_some_iff.mp taken
      exact absurd moved (stands _ _ _ _ _)
  | notify index =>
      obtain ⟨next, moved, -⟩ := Option.map_eq_some_iff.mp taken
      exact absurd moved (stands _ _ _ _ _)
  | create =>
      simp only [step, Option.ite_none_right_eq_some] at taken
      omega
  | finish =>
      simp only [step, Option.ite_none_right_eq_some, Option.some.injEq] at taken
      obtain ⟨-, rfl⟩ := taken
      exact ⟨count, threads, loops, .inr rfl⟩
  | _ =>
      simp only [step, Option.ite_none_right_eq_some] at taken
      rcases pc with next | returned <;> simp_all

theorem handshake_unthreaded (cb : Bool) : Handshake 0 cb := by
  have always : ∀ labels s, run step (new 0 cb) labels = some s → Unthreaded s := fun labels s ran =>
    invariant step Unthreaded (fun s l t => step_unthreaded s t l) _ s labels ⟨rfl, rfl, rfl, .inl rfl⟩ ran
  refine ⟨fun labels s ran stuck => ?_, fun labels s ran index loop found => ?_, fun labels s ran => ?_⟩
  · have empty := (always labels s ran).threads
    simp [Stuck, Notified, started, empty] at stuck
  · rw [(always labels s ran).loops, List.getElem?_nil] at found
    cases found
  · obtain ⟨count, threads, loops, pc⟩ := always labels s ran
    rcases pc with next | returned
    · refine ⟨[.finish], { s with
        pc := .returned
        initialised := if s.numThreads = 0 ∧ s.cb then s.initialised ++ [.baseLoop] else s.initialised }, ?_, rfl, ?_, ?_⟩
      · simp [run, step, next, count]
      · simp [loops]
      · simp [loops]
    · exact ⟨[], s, rfl, returned, by simp [loops], by simp [loops]⟩

end EventLoopThreadPool

open EventLoopThreadPool in
theorem thread_start_handshake (numThreads : Nat) (cb : Bool) :
    (Handshake numThreads cb ↔ numThreads = 0) ∧
    ∀ labels s, run step (new numThreads cb) labels = some s → 0 < numThreads →
      s.pc ≠ .returned ∧ (Notified s → Stuck s) := by
  have never : ∀ labels s, run step (new numThreads cb) labels = some s → 0 < numThreads →
      s.pc ≠ .returned ∧ (Notified s → Stuck s) := by
    intro labels s ran positive
    have inside := in_first_start numThreads cb labels s positive ran
    exact ⟨inside.pc.2, notified_stuck s inside⟩
  refine ⟨⟨fun handshake => ?_, ?_⟩, never⟩
  · by_contra positive
    obtain ⟨later, t, ran, returned, -⟩ := handshake.finishes [] _ rfl
    exact (never later t ran (Nat.pos_of_ne_zero positive)).1 returned
  · rintro rfl
    exact handshake_unthreaded cb

-- The thread publishes its loop and notifies, and only then startLoop goes to
-- sleep.
def notifyBeforeWait : List StartLabel :=
  [.create, .semPost 0, .callback 0, .publish 0, .notify 0, .semWait, .lock, .test]

open EventLoopThreadPool in
theorem start_loop_stuck :
    ∃ s, run step (new 1 false) notifyBeforeWait = some s ∧ s.pc = .waiting ∧ Stuck s ∧ ¬Handshake 1 false := by
  have asleep : (run step (new 1 false) notifyBeforeWait).map (fun s => decide (s.pc = .waiting ∧ Stuck s)) = some true := by
    decide
  obtain ⟨s, ran, holds⟩ := Option.map_eq_some_iff.mp asleep
  obtain ⟨waiting, stuck⟩ := of_decide_eq_true holds
  exact ⟨s, ran, waiting, stuck, fun handshake => handshake.awake _ s ran stuck⟩

end Cmuduo.Net
