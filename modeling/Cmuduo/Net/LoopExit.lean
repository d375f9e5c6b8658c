import Cmuduo.Net.TaskQueue

set_option autoImplicit false

namespace Cmuduo.Net

open Machine

-- loop() has stored quit_ = false and is in its while statement, or behind it.
def LoopPc.started : LoopPc → Bool
  | .constructed => false
  | .looping => false
  | _ => true

-- How far an iteration has come, from poll to the next test of quit_.
def LoopPc.rank : LoopPc → Nat
  | .dispatch _ => 1
  | .callback _ => 1
  | .calling => 2
  | .functors => 3
  | .functor => 3
  | .test => 4
  | .returned => 5
  | _ => 0

def LoopLabel.polls {Functor : Type} : LoopLabel Functor → Bool
  | .pollReturns _ => true
  | _ => false

attribute [simp] LoopPc.started LoopPc.rank LoopLabel.polls

-- The steps the loop thread takes by itself, outside callbacks and functors.
def LoopLabel.ofLoop {Functor : Type} : LoopLabel Functor → Bool
  | .ownQueueInLoop _ => false
  | .ownWakeup => false
  | .ownQuit => false
  | .queueInLoop _ _ => false
  | .quit _ => false
  | .wakeup _ => false
  | _ => true

section
variable {Functor : Type}

namespace EventLoop

-- A step with quit_ set: the flag stays, and the iteration only goes on. Past
-- the swap means from the swap of this iteration to the exit.
structure Onward (s t : EventLoop Functor) (label : LoopLabel Functor) : Prop where
  quit : t.quit = true
  started : t.pc.started = true
  rank : s.pc.rank ≤ t.pc.rank
  polls : label.polls = true → s.pc.rank = 0 ∧ 1 ≤ t.pc.rank
  test : label = .test → t.pc = .returned
  swap : label = .swap ↔ s.pc.rank ≤ 2 ∧ 3 ≤ t.pc.rank

theorem onward_here (s t : EventLoop Functor) (label : LoopLabel Functor) (quit : t.quit = true)
    (started : s.pc.started = true) (same : t.pc = s.pc) (silent : label.ofLoop = false) : Onward s t label := by
  refine ⟨quit, by rw [same]; exact started, Nat.le_of_eq (by rw [same]), fun polls => ?_, fun test => ?_, ?_⟩
  · cases label with
    | pollReturns active => cases silent
    | _ => cases polls
  · rw [test] at silent
    cases silent
  · refine iff_of_false (fun swap => ?_) (by rw [same]; omega)
    rw [swap] at silent
    cases silent

theorem step_onward (s t : EventLoop Functor) (label : LoopLabel Functor) (quit : s.quit = true)
    (started : s.pc.started = true) (taken : s.step label = some t) : Onward s t label := by
  cases step_takes s t label taken with
  | enter pc =>
      rw [pc] at started
      cases started
  | clearQuit pc =>
      rw [pc] at started
      cases started
  | test pc => constructor <;> simp [quit, pc]
  | pollReturns active pc => constructor <;> simp [quit, pc]
  | handleWakeup rest pc => constructor <;> simp [quit, pc, handleRead]
  | handleOther rest pc => constructor <;> simp [quit, pc]
  | callbackReturns rest pc => constructor <;> simp [quit, pc]
  | setCalling pc => constructor <;> simp [quit, pc]
  | swap pc => constructor <;> simp [quit, pc]
  | call cb rest pc => constructor <;> simp [quit, pc]
  | functorReturns pc => constructor <;> simp [quit, pc]
  | clearCalling pc => constructor <;> simp [quit, pc]
  | ownQuit => exact onward_here s _ _ rfl started rfl rfl
  | quit => exact onward_here s _ _ rfl started rfl rfl
  | ownWakeup => cases s.callingPendingFunctors <;> exact onward_here s _ _ quit started rfl rfl
  | ownQueueInLoop => exact onward_here s _ _ quit started rfl rfl
  | queueInLoop => exact onward_here s _ _ quit started rfl rfl
  | wakeup => exact onward_here s _ _ quit started rfl rfl

-- From there on: one more return of poll at most, the first test leaves the
-- loop, and a swap happens exactly on the way past it.
structure LastIteration (s : EventLoop Functor) (labels : List (LoopLabel Functor)) (t : EventLoop Functor) : Prop where
  quit : t.quit = true
  started : t.pc.started = true
  rank : s.pc.rank ≤ t.pc.rank
  polls : labels.countP LoopLabel.polls + min s.pc.rank 1 ≤ min t.pc.rank 1
  test : .test ∈ labels → t.pc = .returned
  swap : .swap ∈ labels ↔ s.pc.rank ≤ 2 ∧ 3 ≤ t.pc.rank

theorem rank_returned (pc : LoopPc) : pc = .returned ↔ 5 ≤ pc.rank := by
  cases pc <;> simp

theorem run_last_iteration (s t : EventLoop Functor) (labels : List (LoopLabel Functor)) (quit : s.quit = true)
    (started : s.pc.started = true) (ran : run step s labels = some t) : LastIteration s labels t := by
  revert quit started
  apply run_relates step (fun _ => True) (fun s labels t => s.quit = true → s.pc.started = true →
    LastIteration s labels t) _ _ s t labels (fun _ _ => trivial) ran
  · intro s quit started
    exact ⟨quit, started, Nat.le_refl _, by simp, by simp, iff_of_false (by simp) (by omega)⟩
  · intro s label next labels t _ taken later quit started
    have here := step_onward s next label quit started taken
    have rest := later here.quit here.started
    refine ⟨rest.quit, rest.started, Nat.le_trans here.rank rest.rank, ?_, fun test => ?_, ?_⟩
    · have first := here.rank
      have counted := rest.polls
      rw [List.countP_cons]
      by_cases polls : label.polls = true
      · obtain ⟨before, after⟩ := here.polls polls
        rw [if_pos polls]
        omega
      · rw [if_neg polls]
        omega
    · rcases List.mem_cons.mp test with same | member
      · have left := here.test same.symm
        rw [rank_returned] at left ⊢
        exact Nat.le_trans left rest.rank
      · exact rest.test member
    · have first := here.rank
      have second := rest.rank
      rw [List.mem_cons, rest.swap, eq_comm, here.swap]
      omega

theorem step_quit_stored (s t : EventLoop Functor) (label : LoopLabel Functor) (thread : Nat)
    (taken : s.step label = some t) (stored : t.threads thread = .quitStored) :
    s.threads thread = .quitStored ∨ label = .quit thread := by
  cases step_takes s t label taken with
  | queueInLoop other cb =>
      by_cases same : thread = other
      · simp [same] at stored
      · simpa [same, emplaceBack] using stored
  | quit other =>
      by_cases same : thread = other
      · exact .inr (by rw [same])
      · exact .inl (by simpa [same] using stored)
  | wakeup other =>
      by_cases same : thread = other
      · simp [same] at stored
      · simpa [same, wakeup] using stored
  | ownWakeup => cases calling : s.callingPendingFunctors <;> simp only [calling] at stored <;> exact .inl stored
  | _ => exact .inl stored

-- The loop thread is never stuck: poll returns by its timeout at the latest.
theorem loop_enabled (s : EventLoop Functor) (running : s.pc ≠ .returned) (idle : s.own = .idle) :
    ∃ label, label.ofLoop = true ∧ (s.step label).isSome := by
  cases pc : s.pc with
  | constructed => exact ⟨.enter, rfl, by simp [step, pc]⟩
  | looping => exact ⟨.clearQuit, rfl, by simp [step, pc]⟩
  | test => exact ⟨.test, rfl, by simp [step, pc]⟩
  | poll => exact ⟨.pollReturns [], rfl, by simp [step, pc]⟩
  | dispatch rest =>
      cases rest with
      | nil => exact ⟨.setCalling, rfl, by simp [step, pc]⟩
      | cons channel rest => cases channel <;> exact ⟨.handleEvent, rfl, by simp [step, pc]⟩
  | callback rest => exact ⟨.callbackReturns, rfl, by simp [step, pc, idle]⟩
  | calling => exact ⟨.swap, rfl, by simp [step, pc]⟩
  | functors =>
      cases next : s.queue.batch with
      | nil => exact ⟨.clearCalling, rfl, by simp [step, pc, next]⟩
      | cons cb rest => exact ⟨.call, rfl, by simp [step, pc, next]⟩
  | functor => exact ⟨.functorReturns, rfl, by simp [step, pc, idle]⟩
  | returned => exact absurd pc running

end EventLoop

-- An EventLoop with, as a ghost, whether a quit() of another thread has
-- returned.
structure QuitWatch (Functor : Type) where
  loop : EventLoop Functor
  quitReturned : Bool

namespace QuitWatch

def new : QuitWatch Functor := ⟨.new, false⟩

def step (s : QuitWatch Functor) (label : LoopLabel Functor) : Option (QuitWatch Functor) :=
  (s.loop.step label).map fun next =>
    ⟨next, s.quitReturned || match label with
      | .wakeup thread => s.loop.threads thread == .quitStored
      | _ => false⟩

-- No quit() stores before loop() has made its own store.
def AfterClear (s : QuitWatch Functor) : LoopLabel Functor → Prop
  | .quit _ => s.loop.pc.started = true
  | _ => True

instance (s : QuitWatch Functor) : (label : LoopLabel Functor) → Decidable (s.AfterClear label)
  | .quit _ => inferInstanceAs (Decidable (_ = _))
  | .enter | .clearQuit | .test | .pollReturns _ | .handleEvent | .callbackReturns | .setCalling | .swap | .call
  | .functorReturns | .clearCalling | .ownQueueInLoop _ | .ownWakeup | .ownQuit | .queueInLoop _ _ | .wakeup _ =>
      .isTrue trivial

-- A quit() has made its store, whether or not it has returned.
def Asked (s : QuitWatch Functor) : Prop := s.quitReturned = true ∨ ∃ thread, s.loop.threads thread = .quitStored

def Inv (s : QuitWatch Functor) : Prop := s.Asked → s.loop.quit = true ∧ s.loop.pc.started = true

theorem step_inv (s t : QuitWatch Functor) (label : LoopLabel Functor) (inv : Inv s) (allowed : s.AfterClear label)
    (taken : s.step label = some t) : Inv t := by
  obtain ⟨next, moved, rfl⟩ := Option.map_eq_some_iff.mp taken
  intro asked
  by_cases before : s.Asked
  · obtain ⟨quit, started⟩ := inv before
    have onward := EventLoop.step_onward s.loop next label quit started moved
    exact ⟨onward.quit, onward.started⟩
  · rcases asked with returned | ⟨thread, stored⟩
    · cases label with
      | wakeup thread =>
          simp only [Bool.or_eq_true, beq_iff_eq] at returned
          exact absurd (returned.imp_right fun stored => ⟨thread, stored⟩) before
      | _ => exact absurd (.inl (by simpa using returned)) before
    · rcases EventLoop.step_quit_stored s.loop next label thread moved stored with stored | rfl
      · exact absurd (.inr ⟨thread, stored⟩) before
      · cases EventLoop.step_takes s.loop next _ moved with
        | quit => exact ⟨rfl, allowed⟩

end QuitWatch

theorem quit_never_lost (labels : List (LoopLabel Functor)) (s : QuitWatch Functor)
    (allowed : Guarded QuitWatch.step QuitWatch.AfterClear .new labels) (ran : run QuitWatch.step .new labels = some s)
    (returned : s.quitReturned = true) :
    s.loop.quit = true ∧
    ∀ later t, run EventLoop.step s.loop later = some t →
      later.countP LoopLabel.polls ≤ 1 ∧ (.test ∈ later → t.pc = .returned) ∧
      (t.pc ≠ .returned → t.own = .idle → ∃ label, label.ofLoop = true ∧ (t.step label).isSome) := by
  have start : QuitWatch.Inv (.new : QuitWatch Functor) := by
    rintro (returned | ⟨thread, stored⟩)
    · cases returned
    · cases stored
  have inv := guarded_invariant QuitWatch.step QuitWatch.AfterClear QuitWatch.Inv
    (fun s l t inv allowed taken => QuitWatch.step_inv s t l inv allowed taken) _ s labels start allowed ran
  obtain ⟨quit, started⟩ := inv (.inl returned)
  refine ⟨quit, fun later t continued => ?_⟩
  have last := EventLoop.run_last_iteration s.loop t later quit started continued
  have counted := last.polls
  exact ⟨by omega, last.test, EventLoop.loop_enabled t⟩

end

-- A quit() while the loop sleeps in poll.
def quitDuringPoll : List (LoopLabel Nat) := [.enter, .clearQuit, .test, .quit 1, .wakeup 1]

theorem quit_never_lost_during_poll :
    ∃ s, run QuitWatch.step .new quitDuringPoll = some s ∧ s.loop.pc = .poll ∧ s.loop.quit = true := by
  have finished : (run QuitWatch.step .new quitDuringPoll).map (fun s => (s.loop.pc, s.quitReturned)) =
      some (.poll, true) := by decide
  obtain ⟨s, ran, shown⟩ := Option.map_eq_some_iff.mp finished
  obtain ⟨poll, returned⟩ := Prod.mk.inj shown
  exact ⟨s, ran, poll, (quit_never_lost quitDuringPoll s (by decide) ran returned).1⟩

-- A quit() after loop_ was published and before loop() runs: its store is
-- overwritten, and the loop goes to poll.
def quitBeforeLoop : List (LoopLabel Nat) := [.quit 1, .wakeup 1, .enter, .clearQuit, .test]

theorem quit_lost_before_loop :
    ∃ s, run QuitWatch.step .new quitBeforeLoop = some s ∧
      s.quitReturned = true ∧ s.loop.pc = .poll ∧ s.loop.quit = false := by
  have finished : (run QuitWatch.step .new quitBeforeLoop).map (fun s => (s.quitReturned, s.loop.pc, s.loop.quit)) =
      some (true, .poll, false) := by decide
  obtain ⟨s, ran, shown⟩ := Option.map_eq_some_iff.mp finished
  simp only [Prod.mk.injEq] at shown
  exact ⟨s, ran, shown⟩

end Cmuduo.Net
