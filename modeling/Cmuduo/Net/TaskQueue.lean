import Cmuduo.Net.EventLoop

set_option autoImplicit false

namespace Cmuduo.Net

open Machine

section
variable {Functor : Type}

-- The functor a step pushes on pendingFunctor_.
def LoopLabel.queued : LoopLabel Functor → List Functor
  | .ownQueueInLoop cb => [cb]
  | .queueInLoop _ cb => [cb]
  | _ => []

-- The steps of the loop thread in the for statement of doPendingFunctors.
def LoopLabel.inFor : LoopLabel Functor → Bool
  | .call => true
  | .functorReturns => true
  | _ => false

def LoopPc.inFor : LoopPc → Bool
  | .functors => true
  | .functor => true
  | _ => false

namespace EventLoop

inductive QueueMove (s t : EventLoop Functor) : LoopLabel Functor → Prop where
  | swap (before : s.pc = .calling) (after : t.pc = .functors) (queue : t.queue = s.queue.swap)
      (executed : t.executed = s.executed) : QueueMove s t .swap
  | call (cb : Functor) (rest : List Functor) (before : s.pc = .functors) (after : t.pc = .functor)
      (next : s.queue.batch = cb :: rest) (queue : t.queue = s.queue.pop)
      (executed : t.executed = s.executed ++ [cb]) : QueueMove s t .call
  | functorReturns (before : s.pc = .functor) (after : t.pc = .functors) (queue : t.queue = s.queue)
      (executed : t.executed = s.executed) : QueueMove s t .functorReturns
  | clearCalling (before : s.pc = .functors) (after : t.pc = .test) (served : s.queue.batch = [])
      (queue : t.queue = s.queue) (executed : t.executed = s.executed) : QueueMove s t .clearCalling
  | push (label : LoopLabel Functor) (cb : Functor) (queued : label.queued = [cb]) (pc : t.pc = s.pc)
      (queue : t.queue = s.queue.push cb) (executed : t.executed = s.executed) : QueueMove s t label
  | other (label : LoopLabel Functor) (silent : label.queued = []) (outside : label.inFor = false)
      (pc : t.pc = s.pc ∨ s.pc.inFor = false ∧ t.pc.inFor = false) (queue : t.queue = s.queue)
      (executed : t.executed = s.executed) : QueueMove s t label

theorem queue_move (s t : EventLoop Functor) (label : LoopLabel Functor) (taken : s.step label = some t) :
    QueueMove s t label := by
  cases step_takes s t label taken with
  | swap pc => exact .swap pc rfl rfl rfl
  | call cb rest pc next => exact .call cb rest pc rfl next rfl rfl
  | functorReturns pc => exact .functorReturns pc rfl rfl rfl
  | clearCalling pc served => exact .clearCalling pc rfl served rfl rfl
  | ownQueueInLoop cb => exact .push _ cb rfl rfl rfl rfl
  | queueInLoop thread cb => exact .push _ cb rfl rfl rfl rfl
  | enter pc => exact .other _ rfl rfl (.inr ⟨by rw [pc]; rfl, rfl⟩) rfl rfl
  | clearQuit pc => exact .other _ rfl rfl (.inr ⟨by rw [pc]; rfl, rfl⟩) rfl rfl
  | test pc => exact .other _ rfl rfl (.inr ⟨by rw [pc]; rfl, by cases s.quit <;> rfl⟩) rfl rfl
  | pollReturns active pc => exact .other _ rfl rfl (.inr ⟨by rw [pc]; rfl, rfl⟩) rfl rfl
  | handleWakeup rest pc => exact .other _ rfl rfl (.inr ⟨by rw [pc]; rfl, rfl⟩) rfl rfl
  | handleOther rest pc => exact .other _ rfl rfl (.inr ⟨by rw [pc]; rfl, rfl⟩) rfl rfl
  | callbackReturns rest pc => exact .other _ rfl rfl (.inr ⟨by rw [pc]; rfl, rfl⟩) rfl rfl
  | setCalling pc => exact .other _ rfl rfl (.inr ⟨by rw [pc]; rfl, rfl⟩) rfl rfl
  | ownWakeup => cases s.callingPendingFunctors <;> exact .other _ rfl rfl (.inl rfl) rfl rfl
  | ownQuit => exact .other _ rfl rfl (.inl rfl) rfl rfl
  | quit => exact .other _ rfl rfl (.inl rfl) rfl rfl
  | wakeup => exact .other _ rfl rfl (.inl rfl) rfl rfl

-- Outside the for statement the local vector of doPendingFunctors is gone.
def Served (s : EventLoop Functor) : Prop := s.pc.inFor = false → s.queue.batch = []

theorem step_served (s t : EventLoop Functor) (label : LoopLabel Functor) (served : Served s)
    (taken : s.step label = some t) : Served t := by
  intro outside
  cases queue_move s t label taken with
  | swap before after queue executed => rw [after] at outside; cases outside
  | call cb rest before after next queue executed => rw [after] at outside; cases outside
  | functorReturns before after queue executed => rw [after] at outside; cases outside
  | clearCalling before after empty queue executed => rw [queue, empty]
  | push _ cb queued pc queue executed =>
      rw [pc] at outside
      rw [queue]
      exact served outside
  | other _ silent outsideFor pc queue executed =>
      rw [queue]
      rcases pc with same | ⟨before, after⟩
      · exact served (by rw [← same]; exact outside)
      · exact served before

theorem step_order (s t : EventLoop Functor) (label : LoopLabel Functor) (served : Served s)
    (taken : s.step label = some t) :
    t.executed ++ t.queue.contents = s.executed ++ s.queue.contents ++ label.queued := by
  cases queue_move s t label taken with
  | swap before after queue executed =>
      have empty : s.queue.batch = [] := served (by rw [before]; rfl)
      rw [queue, executed, s.queue.swap_contents empty]
      exact (List.append_nil _).symm
  | call cb rest before after next queue executed =>
      rw [queue, executed, s.queue.pop_contents cb rest next]
      simp [LoopLabel.queued]
  | functorReturns before after queue executed => simp [queue, executed, LoopLabel.queued]
  | clearCalling before after empty queue executed => simp [queue, executed, LoopLabel.queued]
  | push _ cb queued pc queue executed => rw [queue, executed, queued, BatchQueue.push_contents, List.append_assoc]
  | other _ silent outsideFor pc queue executed => rw [queue, executed, silent, List.append_nil]

-- Between two swaps the batch only moves over to the executed functors, and
-- pushes only add to pendingFunctor_.
theorem step_between_swaps (s t : EventLoop Functor) (label : LoopLabel Functor) (noSwap : label ≠ .swap)
    (taken : s.step label = some t) :
    t.executed ++ t.queue.batch = s.executed ++ s.queue.batch ∧
    t.queue.pending = s.queue.pending ++ label.queued ∧ (s.queue.batch = [] → t.queue.batch = []) := by
  cases queue_move s t label taken with
  | swap before after queue executed => exact absurd rfl noSwap
  | call cb rest before after next queue executed =>
      simp [queue, executed, next, BatchQueue.pop, LoopLabel.queued]
  | functorReturns before after queue executed => simp [queue, executed, LoopLabel.queued]
  | clearCalling before after empty queue executed => simp [queue, executed, LoopLabel.queued]
  | push _ cb queued pc queue executed => simp [queue, executed, queued, BatchQueue.push, BatchQueue.append]
  | other _ silent outsideFor pc queue executed => simp [queue, executed, silent]

-- What is left of the for statement: two steps for each functor not started,
-- and the return of the one that is running.
def forWork (s : EventLoop Functor) : Nat := 2 * s.queue.batch.length + if s.pc = .functor then 1 else 0

theorem step_for_work (s t : EventLoop Functor) (label : LoopLabel Functor) (inside : s.pc.inFor = true)
    (noSwap : label ≠ .swap) (notDone : label ≠ .clearCalling) (taken : s.step label = some t) :
    t.pc.inFor = true ∧ (if label.inFor then 1 else 0) + t.forWork = s.forWork := by
  cases queue_move s t label taken with
  | swap before after queue executed => exact absurd rfl noSwap
  | clearCalling before after empty queue executed => exact absurd rfl notDone
  | call cb rest before after next queue executed =>
      refine ⟨by rw [after]; rfl, ?_⟩
      simp only [forWork, queue, BatchQueue.pop, next, before, after, LoopLabel.inFor, List.tail_cons, List.length_cons]
      simp
      omega
  | functorReturns before after queue executed =>
      refine ⟨by rw [after]; rfl, ?_⟩
      simp only [forWork, queue, before, after, LoopLabel.inFor]
      simp [Nat.add_comm]
  | push label cb queued pc queue executed =>
      have outside : label.inFor = false := by
        cases label with
        | call => cases queued
        | functorReturns => cases queued
        | _ => rfl
      exact ⟨by rw [pc]; exact inside, by simp [forWork, queue, BatchQueue.push, BatchQueue.append, pc, outside]⟩
  | other _ silent outside pc queue executed =>
      rcases pc with same | ⟨before, -⟩
      · exact ⟨by rw [same]; exact inside, by simp [forWork, queue, same, outside]⟩
      · rw [inside] at before
        cases before

theorem for_enabled (s : EventLoop Functor) (inside : s.pc.inFor = true) (idle : s.own = .idle) :
    ∃ label, (label.inFor = true ∨ label = .clearCalling) ∧ (s.step label).isSome := by
  cases pc : s.pc with
  | functors =>
      cases next : s.queue.batch with
      | nil => exact ⟨.clearCalling, .inr rfl, by simp [step, pc, next]⟩
      | cons cb rest => exact ⟨.call, .inl rfl, by simp [step, pc, next]⟩
  | functor => exact ⟨.functorReturns, .inl rfl, by simp [step, pc, idle]⟩
  | _ =>
      rw [pc] at inside
      cases inside

theorem run_order (s t : EventLoop Functor) (labels : List (LoopLabel Functor)) (served : Served s)
    (ran : run step s labels = some t) :
    t.executed ++ t.queue.contents = s.executed ++ s.queue.contents ++ labels.flatMap LoopLabel.queued := by
  revert served
  apply run_relates step (fun _ => True) (fun s labels t => Served s →
    t.executed ++ t.queue.contents = s.executed ++ s.queue.contents ++ labels.flatMap LoopLabel.queued) _ _ s t labels
    (fun _ _ => trivial) ran
  · intro s _
    simp
  · intro s label next labels t _ taken tail served
    rw [tail (step_served s next label served taken), step_order s next label served taken, List.flatMap_cons,
      List.append_assoc]

theorem run_between_swaps (s t : EventLoop Functor) (labels : List (LoopLabel Functor)) (noSwap : .swap ∉ labels)
    (ran : run step s labels = some t) :
    t.executed ++ t.queue.batch = s.executed ++ s.queue.batch ∧
    t.queue.pending = s.queue.pending ++ labels.flatMap LoopLabel.queued ∧
    (s.queue.batch = [] → t.queue.batch = []) := by
  apply run_relates step (· ≠ .swap) (fun s labels t => t.executed ++ t.queue.batch = s.executed ++ s.queue.batch ∧
    t.queue.pending = s.queue.pending ++ labels.flatMap LoopLabel.queued ∧
    (s.queue.batch = [] → t.queue.batch = [])) _ _ s t labels (fun l member same => noSwap (same ▸ member)) ran
  · intro s
    simp
  · intro s label next labels t allowed taken tail
    obtain ⟨moved, pushed, empty⟩ := step_between_swaps s next label allowed taken
    exact ⟨tail.1.trans moved, by rw [tail.2.1, pushed, List.flatMap_cons, List.append_assoc], tail.2.2 ∘ empty⟩

theorem run_for_work (s t : EventLoop Functor) (labels : List (LoopLabel Functor)) (inside : s.pc.inFor = true)
    (noSwap : .swap ∉ labels) (notDone : .clearCalling ∉ labels) (ran : run step s labels = some t) :
    t.pc.inFor = true ∧ labels.countP LoopLabel.inFor + t.forWork = s.forWork := by
  revert inside
  apply run_relates step (fun l => l ≠ .swap ∧ l ≠ .clearCalling) (fun s labels t => s.pc.inFor = true →
    t.pc.inFor = true ∧ labels.countP LoopLabel.inFor + t.forWork = s.forWork) _ _ s t labels
    (fun l member => ⟨fun same => noSwap (same ▸ member), fun same => notDone (same ▸ member)⟩) ran
  · intro s inside
    simp [inside]
  · intro s label next labels t allowed taken tail inside
    obtain ⟨nextInside, work⟩ := step_for_work s next label inside allowed.1 allowed.2 taken
    obtain ⟨finalInside, rest⟩ := tail nextInside
    refine ⟨finalInside, ?_⟩
    rw [List.countP_cons]
    omega

theorem new_served : Served (new : EventLoop Functor) := fun _ => rfl

theorem new_run_served (labels : List (LoopLabel Functor)) (t : EventLoop Functor) (ran : run step .new labels = some t) :
    Served t :=
  invariant step Served (fun s l t served taken => step_served s t l served taken) _ t labels new_served ran

theorem new_run_order (labels : List (LoopLabel Functor)) (t : EventLoop Functor) (ran : run step .new labels = some t) :
    t.executed ++ (t.queue.batch ++ t.queue.pending) = labels.flatMap LoopLabel.queued :=
  run_order .new t labels new_served ran

theorem run_cleared (s t : EventLoop Functor) (labels : List (LoopLabel Functor)) (noSwap : .swap ∉ labels)
    (done : .clearCalling ∈ labels) (ran : run step s labels = some t) : t.queue.batch = [] := by
  obtain ⟨front, back, rfl⟩ := List.append_of_mem done
  obtain ⟨before, -, later⟩ := (run_append _ _ _ _ _).mp ran
  obtain ⟨after, cleared, tail⟩ := (run_cons _ _ _ _ _).mp later
  have empty : after.queue.batch = [] := by
    cases step_takes before after _ cleared with
    | clearCalling pc served => exact served
  exact (run_between_swaps after t back (fun member => noSwap (by simp [member])) tail).2.2 empty

end EventLoop

theorem task_queue_in_order (labels : List (LoopLabel Functor)) (t : EventLoop Functor)
    (ran : run EventLoop.step .new labels = some t) :
    t.executed ++ t.queue.batch ++ t.queue.pending = labels.flatMap LoopLabel.queued ∧
    ∀ front back s, labels = front ++ .swap :: back → .swap ∉ back → run EventLoop.step .new front = some s →
      t.executed ++ t.queue.batch = s.executed ++ s.queue.pending ∧
      t.queue.pending = back.flatMap LoopLabel.queued ∧
      (.clearCalling ∈ back → t.queue.batch = []) ∧
      (.clearCalling ∉ back →
        back.countP LoopLabel.inFor + t.forWork = 2 * s.queue.pending.length ∧
        (t.own = .idle → ∃ label, (label.inFor = true ∨ label = .clearCalling) ∧ (t.step label).isSome)) := by
  constructor
  · rw [List.append_assoc]
    exact EventLoop.new_run_order labels t ran
  · intro front back s split noSwap atSwap
    rw [split] at ran
    obtain ⟨before, first, later⟩ := (run_append _ _ _ _ _).mp ran
    obtain rfl := Option.some.inj (first.symm.trans atSwap)
    obtain ⟨after, swapped, tail⟩ := (run_cons _ _ _ _ _).mp later
    obtain rfl : after = { before with queue := before.queue.swap, pc := .functors } := by
      cases EventLoop.step_takes before after _ swapped with
      | swap => rfl
    obtain ⟨moved, pushed, -⟩ := EventLoop.run_between_swaps _ t back noSwap tail
    refine ⟨moved, pushed, fun done => EventLoop.run_cleared _ t back noSwap done tail, fun notDone => ?_⟩
    obtain ⟨inside, work⟩ := EventLoop.run_for_work _ t back rfl noSwap notDone tail
    refine ⟨?_, EventLoop.for_enabled t inside⟩
    rw [work]
    simp [EventLoop.forWork, BatchQueue.swap]

end

-- One functor from another thread, which queues a second one while it runs.
def requeueing : List (LoopLabel Nat) :=
  [.enter, .clearQuit, .queueInLoop 1 10, .wakeup 1, .test, .pollReturns [], .setCalling, .swap, .call,
    .ownQueueInLoop 11, .ownWakeup, .functorReturns, .clearCalling]

theorem task_queue_in_order_requeueing :
    ∃ t, run EventLoop.step .new requeueing = some t ∧
      t.executed ++ t.queue.batch ++ t.queue.pending = [10, 11] ∧ t.queue.pending = [11] := by
  have finished : (run EventLoop.step .new requeueing).isSome := by decide
  obtain ⟨t, ran⟩ := Option.isSome_iff_exists.mp finished
  obtain ⟨order, batches⟩ := task_queue_in_order requeueing t ran
  have atSwap : (run EventLoop.step (.new : EventLoop Nat) (requeueing.take 7)).isSome := by decide
  obtain ⟨s, front⟩ := Option.isSome_iff_exists.mp atSwap
  exact ⟨t, ran, order, (batches (requeueing.take 7) (requeueing.drop 8) s rfl (by decide) front).2.1⟩

end Cmuduo.Net
