import Cmuduo.Net.TaskQueue

set_option autoImplicit false

namespace Cmuduo.Net

open Machine

-- Whether a functor queued while the loop thread is here is run without a
-- wakeup: the thread is between poll's return and the swap, or it will not
-- poll again, because quit_ is tested first or loop() has returned.
def LoopPc.inTime (quit : Bool) : LoopPc → Bool
  | .dispatch _ => true
  | .callback _ => true
  | .calling => true
  | .returned => true
  | .test => quit
  | .functors => quit
  | .functor => quit
  | _ => false

theorem in_time_quit (pc : LoopPc) (quit : Bool) (inTime : pc.inTime quit = true) : pc.inTime true = true := by
  cases pc <;> first | rfl | exact inTime

section
variable {Functor : Type}

namespace EventLoop

def QueuesInTime (s : EventLoop Functor) (label : LoopLabel Functor) : Prop :=
  label.queued = [] ∨ s.pc.inTime s.quit = true

-- The loop thread is about to enter or blocked in poll, work is pending, and
-- neither the eventfd nor a queueInLoop in progress will wake it.
structure LostWakeup (s : EventLoop Functor) : Prop where
  poll : s.pc = .poll
  pending : s.queue.pending ≠ []
  silent : s.wakeupFd = 0
  own : s.own ≠ .queued
  threads : ∀ thread, s.threads thread ≠ .queued

theorem step_in_time (s t : EventLoop Functor) (label : LoopLabel Functor) (noSwap : label ≠ .swap)
    (inTime : s.pc.inTime s.quit = true) (taken : s.step label = some t) : t.pc.inTime t.quit = true := by
  cases step_takes s t label taken with
  | swap => exact absurd rfl noSwap
  | enter pc =>
      rw [pc] at inTime
      cases inTime
  | clearQuit pc =>
      rw [pc] at inTime
      cases inTime
  | pollReturns active pc =>
      rw [pc] at inTime
      cases inTime
  | test pc =>
      have quit : s.quit = true := by rwa [pc] at inTime
      simp [quit, LoopPc.inTime]
  | handleWakeup => rfl
  | handleOther => rfl
  | callbackReturns => rfl
  | setCalling => rfl
  | call cb rest pc => rwa [pc] at inTime
  | functorReturns pc => rwa [pc] at inTime
  | clearCalling pc => rwa [pc] at inTime
  | ownQuit => exact in_time_quit s.pc s.quit inTime
  | quit => exact in_time_quit s.pc s.quit inTime
  | ownWakeup => cases s.callingPendingFunctors <;> exact inTime
  | ownQueueInLoop => exact inTime
  | queueInLoop => exact inTime
  | wakeup => exact inTime

def PendingInTime (s : EventLoop Functor) : Prop := s.queue.pending ≠ [] → s.pc.inTime s.quit = true

theorem step_pending_in_time (s t : EventLoop Functor) (label : LoopLabel Functor) (inTime : PendingInTime s)
    (allowed : QueuesInTime s label) (taken : s.step label = some t) : PendingInTime t := by
  intro pending
  by_cases swapped : label = .swap
  · subst swapped
    simp only [step, Option.ite_none_right_eq_some, Option.some.injEq] at taken
    obtain ⟨-, rfl⟩ := taken
    exact absurd rfl pending
  · apply step_in_time s t label swapped _ taken
    rcases allowed with silent | before
    · obtain ⟨-, same, -⟩ := step_between_swaps s t label swapped taken
      rw [same, silent, List.append_nil] at pending
      exact inTime pending
    · exact before

theorem pending_not_lost (s : EventLoop Functor) (inTime : PendingInTime s) : ¬LostWakeup s := by
  intro lost
  have late := inTime lost.pending
  rw [lost.poll] at late
  cases late

end EventLoop

theorem no_lost_wakeup (labels : List (LoopLabel Functor)) (s : EventLoop Functor)
    (allowed : Guarded EventLoop.step EventLoop.QueuesInTime .new labels)
    (ran : run EventLoop.step .new labels = some s) : ¬EventLoop.LostWakeup s :=
  EventLoop.pending_not_lost s (guarded_invariant EventLoop.step EventLoop.QueuesInTime EventLoop.PendingInTime
    (fun s l t => EventLoop.step_pending_in_time s t l) .new s labels (fun pending => absurd rfl pending) allowed ran)

end

instance {Functor : Type} [DecidableEq Functor] (s : EventLoop Functor) (label : LoopLabel Functor) :
    Decidable (s.QueuesInTime label) :=
  inferInstanceAs (Decidable (_ ∨ _))

-- Queued by another thread while a channel callback runs.
def queuedDuringCallback : List (LoopLabel Nat) :=
  [.enter, .clearQuit, .test, .pollReturns [.other], .handleEvent, .queueInLoop 1 10, .wakeup 1, .callbackReturns,
    .setCalling, .swap, .call, .functorReturns, .clearCalling, .test]

theorem no_lost_wakeup_during_callback :
    ∃ s, run EventLoop.step .new queuedDuringCallback = some s ∧ s.pc = .poll ∧ ¬EventLoop.LostWakeup s := by
  have finished : (run EventLoop.step .new queuedDuringCallback).map (·.pc) = some .poll := by decide
  obtain ⟨s, ran, poll⟩ := Option.map_eq_some_iff.mp finished
  exact ⟨s, ran, poll, no_lost_wakeup queuedDuringCallback s (by decide) ran⟩

-- Queued by another thread while the loop sleeps in poll: its wakeup reads the
-- eventfd instead of writing it.
def queuedDuringPoll : List (LoopLabel Nat) :=
  [.enter, .clearQuit, .test, .queueInLoop 1 10, .wakeup 1]

theorem wakeup_lost_during_poll :
    ∃ s, run EventLoop.step .new queuedDuringPoll = some s ∧ EventLoop.LostWakeup s := by
  refine ⟨_, rfl, rfl, by decide, rfl, by decide, fun thread => ?_⟩
  by_cases same : thread = 1
  · simp [same]
  · simp [same, EventLoop.new]

end Cmuduo.Net
