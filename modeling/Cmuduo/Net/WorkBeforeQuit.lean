import Cmuduo.Net.LoopExit

set_option autoImplicit false

namespace Cmuduo.Net

open Machine

-- The loop thread has still to swap in this iteration.
def LoopPc.beforeSwap : LoopPc → Bool
  | .poll => true
  | .dispatch _ => true
  | .callback _ => true
  | .calling => true
  | _ => false

theorem before_swap_rank (pc : LoopPc) (started : pc.started = true) : pc.beforeSwap = true ↔ pc.rank ≤ 2 := by
  cases pc with
  | constructed => cases started
  | looping => cases started
  | _ => simp [LoopPc.beforeSwap]

section
variable {Functor : Type}

namespace EventLoop

-- Whatever has been queued up to the swap is executed when the for statement
-- behind it ends.
theorem swapped_is_executed (front back : List (LoopLabel Functor)) (s t final : EventLoop Functor)
    (ran : run step .new front = some s) (swapped : s.step .swap = some t) (noSwap : .swap ∉ back)
    (later : run step t back = some final) (ended : final.queue.batch = []) :
    final.executed = front.flatMap LoopLabel.queued := by
  have order := new_run_order front s ran
  have served := new_run_served front s ran
  have moved := (run_between_swaps t final back noSwap later).1
  rw [ended, List.append_nil] at moved
  cases step_takes s t _ swapped with
  | swap calling =>
      rw [served (by rw [calling]; rfl), List.nil_append] at order
      exact moved.trans order

-- The n-th queued functor has been executed once more than n have.
theorem executed_at (labels : List (LoopLabel Functor)) (t : EventLoop Functor) (front back : List Functor) (cb : Functor)
    (ran : run step .new labels = some t) (queued : labels.flatMap LoopLabel.queued = front ++ cb :: back) :
    t.executed[front.length]? = some cb ↔ front.length < t.executed.length := by
  have order := new_run_order labels t ran
  rw [queued] at order
  constructor
  · intro found
    exact (List.getElem?_eq_some_iff.mp found).1
  · intro inside
    rw [← List.getElem?_append_left inside, order, List.getElem?_append_right (Nat.le_refl _), Nat.sub_self]
    rfl

end EventLoop

theorem work_before_quit (a b c : List (LoopLabel Functor)) (thread : Nat) (f : Functor) (s final : EventLoop Functor)
    (atQuit : run EventLoop.step .new (a ++ .queueInLoop thread f :: b) = some s) (running : s.pc.started = true)
    (ran : run EventLoop.step s (.quit thread :: c) = some final) (left : final.pc = .returned) :
    final.executed[(a.flatMap LoopLabel.queued).length]? = some f ↔
      s.pc.beforeSwap = true ∨
        (a.flatMap LoopLabel.queued).length < s.executed.length + s.queue.batch.length := by
  have whole : run EventLoop.step .new (a ++ .queueInLoop thread f :: b ++ .quit thread :: c) = some final :=
    (run_append _ _ _ _ _).mpr ⟨s, atQuit, ran⟩
  have queued : (a ++ .queueInLoop thread f :: b ++ .quit thread :: c).flatMap LoopLabel.queued =
      a.flatMap LoopLabel.queued ++ f :: (b ++ .quit thread :: c).flatMap LoopLabel.queued := by
    simp [List.flatMap_append, LoopLabel.queued]
  have ended : final.queue.batch = [] := EventLoop.new_run_served _ final whole (by rw [left]; rfl)
  rw [EventLoop.executed_at _ final _ _ f whole queued, before_swap_rank s.pc running]
  obtain ⟨asked, stored, tail⟩ := (run_cons _ _ _ _ _).mp ran
  have same : asked.quit = true ∧ asked.pc = s.pc ∧ asked.queue = s.queue ∧ asked.executed = s.executed := by
    cases EventLoop.step_takes s asked _ stored with
    | quit => exact ⟨rfl, rfl, rfl, rfl⟩
  obtain ⟨quit, pc, queue, executed⟩ := same
  have last := EventLoop.run_last_iteration asked final c quit (by rw [pc]; exact running) tail
  have exit : 3 ≤ final.pc.rank := by rw [left]; decide
  by_cases early : s.pc.rank ≤ 2
  · refine iff_of_true ?_ (.inl early)
    obtain ⟨front, back, rfl⟩ := List.append_of_mem (last.swap.mpr ⟨by rw [pc]; exact early, exit⟩)
    obtain ⟨before, first, rest⟩ := (run_append _ _ _ _ _).mp tail
    obtain ⟨after, swapped, later⟩ := (run_cons _ _ _ _ _).mp rest
    have middle := EventLoop.run_last_iteration asked before front quit (by rw [pc]; exact running) first
    have onward := EventLoop.step_onward before after .swap middle.quit middle.started swapped
    have noSwap : .swap ∉ back := fun member =>
      absurd ((EventLoop.run_last_iteration after final back onward.quit onward.started later).swap.mp member).1
        (by have past := (onward.swap.mp rfl).2; omega)
    have upTo : run EventLoop.step .new (a ++ .queueInLoop thread f :: b ++ .quit thread :: front) = some before :=
      (run_append _ _ _ _ _).mpr ⟨s, atQuit, (run_cons _ _ _ _ _).mpr ⟨asked, stored, first⟩⟩
    rw [EventLoop.swapped_is_executed _ back before after final upTo swapped noSwap later ended]
    simp [List.flatMap_append, LoopLabel.queued]
  · have noSwap : .swap ∉ c := fun member => early (pc ▸ (last.swap.mp member).1)
    have moved := (EventLoop.run_between_swaps asked final c noSwap tail).1
    have lengths := congrArg List.length moved
    rw [ended, List.append_nil, List.length_append, queue, executed] at lengths
    rw [lengths]
    exact ⟨.inr, fun either => either.resolve_left early⟩

end

-- Queued and followed by quit() while a channel callback runs: the swap of this
-- iteration takes the functor along.
def queuedBeforeSwap : List (LoopLabel Nat) :=
  [.enter, .clearQuit, .test, .pollReturns [.other], .handleEvent]

theorem work_before_quit_swapped :
    ∃ final, run EventLoop.step .new (queuedBeforeSwap ++ [.queueInLoop 1 10, .wakeup 1, .quit 1, .callbackReturns,
        .setCalling, .swap, .call, .functorReturns, .clearCalling, .test]) = some final ∧
      final.executed[0]? = some 10 := by
  have first : (run EventLoop.step .new (queuedBeforeSwap ++ [.queueInLoop 1 10, .wakeup 1])).map (·.pc) =
      some (.callback []) := by decide
  obtain ⟨s, atQuit, pc⟩ := Option.map_eq_some_iff.mp first
  have finished : (run EventLoop.step .new (queuedBeforeSwap ++ [.queueInLoop 1 10, .wakeup 1] ++ [.quit 1,
      .callbackReturns, .setCalling, .swap, .call, .functorReturns, .clearCalling, .test])).map (·.pc) =
      some .returned := by decide
  obtain ⟨final, whole, left⟩ := Option.map_eq_some_iff.mp finished
  obtain ⟨middle, before, ran⟩ := (run_append _ _ _ _ _).mp whole
  obtain rfl := Option.some.inj (atQuit.symm.trans before)
  exact ⟨final, whole, (work_before_quit queuedBeforeSwap [.wakeup 1] _ 1 10 s final atQuit (by rw [pc]; rfl) ran left).mpr
    (.inl (by rw [pc]; rfl))⟩

-- Queued and followed by quit() between the swap and the test: the functor is
-- left behind.
def queuedAfterSwap : List (LoopLabel Nat) :=
  [.enter, .clearQuit, .test, .pollReturns [], .setCalling, .swap, .queueInLoop 1 10, .wakeup 1, .quit 1, .wakeup 1,
    .clearCalling, .test]

theorem queued_work_left_behind :
    (run EventLoop.step .new queuedAfterSwap).map (fun s => (s.pc, s.executed, s.queue.pending)) =
      some (.returned, [], [10]) := by
  decide

end Cmuduo.Net
