import Cmuduo.Lib.BatchQueue
import Cmuduo.Lib.Machine
import Mathlib.Logic.Function.Basic

set_option autoImplicit false

namespace Cmuduo.Net

open Machine

-- A non-blocking eventfd, given by its counter: ::read returns the counter and
-- resets it, or fails with EAGAIN when it is zero.
def eventfdRead (counter : Nat) : Option Nat × Nat :=
  if counter = 0 then (none, 0) else (some counter, 0)

-- The channels poll can report: the loop's own wakeupChannel_, or another one,
-- whose callback is code of the program above the loop.
inductive ActiveChannel where
  | wakeupChannel
  | other
deriving DecidableEq, Repr

-- Where the loop thread stands. dispatch and callback carry the channels of
-- activeChannels_ that have not been handled yet; functor is inside one of the
-- functors, functors is between two of them.
inductive LoopPc where
  | constructed
  | looping
  | test
  | poll
  | dispatch (rest : List ActiveChannel)
  | callback (rest : List ActiveChannel)
  | calling
  | functors
  | functor
  | returned
deriving DecidableEq, Repr

def LoopPc.inUserCode : LoopPc → Bool
  | .callback _ => true
  | .functor => true
  | _ => false

-- Where a thread stands in a call it makes on the loop: after the emplace_back
-- of queueInLoop, or after the store of quit, in both cases before wakeup.
inductive CallPc where
  | idle
  | queued
  | quitStored
deriving DecidableEq, Repr

-- own is the loop thread's call in progress. executed is a ghost: the functors
-- doPendingFunctors has called so far.
structure EventLoop (Functor : Type) where
  looping : Bool
  quit : Bool
  callingPendingFunctors : Bool
  wakeupFd : Nat
  queue : BatchQueue Functor
  pc : LoopPc
  own : CallPc
  threads : Nat → CallPc
  executed : List Functor

-- Steps of the loop thread, of the code it runs in callbacks and functors
-- (ownX), and of the other threads.
inductive LoopLabel (Functor : Type) where
  | enter
  | clearQuit
  | test
  | pollReturns (active : List ActiveChannel)
  | handleEvent
  | callbackReturns
  | setCalling
  | swap
  | call
  | functorReturns
  | clearCalling
  | ownQueueInLoop (cb : Functor)
  | ownWakeup
  | ownQuit
  | queueInLoop (thread : Nat) (cb : Functor)
  | quit (thread : Nat)
  | wakeup (thread : Nat)
deriving DecidableEq

namespace EventLoop

variable {Functor : Type}

def new : EventLoop Functor :=
  { looping := false
    quit := false
    callingPendingFunctors := false
    wakeupFd := 0
    queue := .empty
    pc := .constructed
    own := .idle
    threads := fun _ => .idle
    executed := [] }

-- EventLoop::wakeup and EventLoop::handleRead; both call ::read.
def wakeup (s : EventLoop Functor) : EventLoop Functor := { s with wakeupFd := (eventfdRead s.wakeupFd).2 }

def handleRead (s : EventLoop Functor) : EventLoop Functor := { s with wakeupFd := (eventfdRead s.wakeupFd).2 }

def emplaceBack (s : EventLoop Functor) (cb : Functor) : EventLoop Functor := { s with queue := s.queue.push cb }

def step (s : EventLoop Functor) : LoopLabel Functor → Option (EventLoop Functor)
  | .enter => if s.pc = .constructed then some { s with looping := true, pc := .looping } else none
  | .clearQuit => if s.pc = .looping then some { s with quit := false, pc := .test } else none
  | .test => if s.pc = .test then some { s with pc := if s.quit then .returned else .poll } else none
  | .pollReturns active =>
      if s.pc = .poll ∧ (.wakeupChannel ∈ active → 0 < s.wakeupFd) then some { s with pc := .dispatch active } else none
  | .handleEvent =>
      match s.pc with
      | .dispatch (.wakeupChannel :: rest) => some { s.handleRead with pc := .dispatch rest }
      | .dispatch (.other :: rest) => some { s with pc := .callback rest }
      | _ => none
  | .callbackReturns =>
      match s.pc with
      | .callback rest => if s.own = .idle then some { s with pc := .dispatch rest } else none
      | _ => none
  | .setCalling => if s.pc = .dispatch [] then some { s with callingPendingFunctors := true, pc := .calling } else none
  | .swap => if s.pc = .calling then some { s with queue := s.queue.swap, pc := .functors } else none
  | .call =>
      match s.pc, s.queue.batch with
      | .functors, cb :: _ => some { s with queue := s.queue.pop, executed := s.executed ++ [cb], pc := .functor }
      | _, _ => none
  | .functorReturns => if s.pc = .functor ∧ s.own = .idle then some { s with pc := .functors } else none
  | .clearCalling =>
      if s.pc = .functors ∧ s.queue.batch = [] then some { s with callingPendingFunctors := false, pc := .test } else none
  | .ownQueueInLoop cb =>
      if s.pc.inUserCode ∧ s.own = .idle then some { s.emplaceBack cb with own := .queued } else none
  | .ownWakeup =>
      if s.own = .queued then
        -- isInLoopThread() holds here, so only the flag decides
        some { (if s.callingPendingFunctors then s.wakeup else s) with own := .idle }
      else none
  | .ownQuit => if s.pc.inUserCode ∧ s.own = .idle then some { s with quit := true } else none
  | .queueInLoop thread cb =>
      if s.threads thread = .idle then
        some { s.emplaceBack cb with threads := Function.update s.threads thread .queued }
      else none
  | .quit thread =>
      if s.threads thread = .idle then
        some { s with quit := true, threads := Function.update s.threads thread .quitStored }
      else none
  | .wakeup thread =>
      if s.threads thread = .idle then none
      else some { s.wakeup with threads := Function.update s.threads thread .idle }

inductive Takes (s : EventLoop Functor) : LoopLabel Functor → EventLoop Functor → Prop where
  | enter (pc : s.pc = .constructed) : Takes s .enter { s with looping := true, pc := .looping }
  | clearQuit (pc : s.pc = .looping) : Takes s .clearQuit { s with quit := false, pc := .test }
  | test (pc : s.pc = .test) : Takes s .test { s with pc := if s.quit then .returned else .poll }
  | pollReturns (active : List ActiveChannel) (pc : s.pc = .poll) (ready : .wakeupChannel ∈ active → 0 < s.wakeupFd) :
      Takes s (.pollReturns active) { s with pc := .dispatch active }
  | handleWakeup (rest : List ActiveChannel) (pc : s.pc = .dispatch (.wakeupChannel :: rest)) :
      Takes s .handleEvent { s.handleRead with pc := .dispatch rest }
  | handleOther (rest : List ActiveChannel) (pc : s.pc = .dispatch (.other :: rest)) :
      Takes s .handleEvent { s with pc := .callback rest }
  | callbackReturns (rest : List ActiveChannel) (pc : s.pc = .callback rest) (own : s.own = .idle) :
      Takes s .callbackReturns { s with pc := .dispatch rest }
  | setCalling (pc : s.pc = .dispatch []) : Takes s .setCalling { s with callingPendingFunctors := true, pc := .calling }
  | swap (pc : s.pc = .calling) : Takes s .swap { s with queue := s.queue.swap, pc := .functors }
  | call (cb : Functor) (rest : List Functor) (pc : s.pc = .functors) (next : s.queue.batch = cb :: rest) :
      Takes s .call { s with queue := s.queue.pop, executed := s.executed ++ [cb], pc := .functor }
  | functorReturns (pc : s.pc = .functor) (own : s.own = .idle) : Takes s .functorReturns { s with pc := .functors }
  | clearCalling (pc : s.pc = .functors) (served : s.queue.batch = []) :
      Takes s .clearCalling { s with callingPendingFunctors := false, pc := .test }
  | ownQueueInLoop (cb : Functor) (inside : s.pc.inUserCode = true) (own : s.own = .idle) :
      Takes s (.ownQueueInLoop cb) { s.emplaceBack cb with own := .queued }
  | ownWakeup (own : s.own = .queued) :
      Takes s .ownWakeup { (if s.callingPendingFunctors then s.wakeup else s) with own := .idle }
  | ownQuit (inside : s.pc.inUserCode = true) (own : s.own = .idle) : Takes s .ownQuit { s with quit := true }
  | queueInLoop (thread : Nat) (cb : Functor) (idle : s.threads thread = .idle) :
      Takes s (.queueInLoop thread cb)
        { s.emplaceBack cb with threads := Function.update s.threads thread .queued }
  | quit (thread : Nat) (idle : s.threads thread = .idle) :
      Takes s (.quit thread) { s with quit := true, threads := Function.update s.threads thread .quitStored }
  | wakeup (thread : Nat) (busy : s.threads thread ≠ .idle) :
      Takes s (.wakeup thread) { s.wakeup with threads := Function.update s.threads thread .idle }

theorem step_takes (s t : EventLoop Functor) (label : LoopLabel Functor) (taken : s.step label = some t) :
    Takes s label t := by
  cases label with
  | enter =>
      simp only [step, Option.ite_none_right_eq_some, Option.some.injEq] at taken
      obtain ⟨pc, rfl⟩ := taken
      exact .enter pc
  | clearQuit =>
      simp only [step, Option.ite_none_right_eq_some, Option.some.injEq] at taken
      obtain ⟨pc, rfl⟩ := taken
      exact .clearQuit pc
  | test =>
      simp only [step, Option.ite_none_right_eq_some, Option.some.injEq] at taken
      obtain ⟨pc, rfl⟩ := taken
      exact .test pc
  | pollReturns active =>
      simp only [step, Option.ite_none_right_eq_some, Option.some.injEq] at taken
      obtain ⟨⟨pc, ready⟩, rfl⟩ := taken
      exact .pollReturns active pc ready
  | handleEvent =>
      simp only [step] at taken
      split at taken
      · next rest pc =>
          cases taken
          exact .handleWakeup rest pc
      · next rest pc =>
          cases taken
          exact .handleOther rest pc
      · cases taken
  | callbackReturns =>
      simp only [step] at taken
      split at taken
      · next rest pc =>
          simp only [Option.ite_none_right_eq_some, Option.some.injEq] at taken
          obtain ⟨own, rfl⟩ := taken
          exact .callbackReturns rest pc own
      · cases taken
  | setCalling =>
      simp only [step, Option.ite_none_right_eq_some, Option.some.injEq] at taken
      obtain ⟨pc, rfl⟩ := taken
      exact .setCalling pc
  | swap =>
      simp only [step, Option.ite_none_right_eq_some, Option.some.injEq] at taken
      obtain ⟨pc, rfl⟩ := taken
      exact .swap pc
  | call =>
      simp only [step] at taken
      split at taken
      · next cb rest pc next =>
          cases taken
          exact .call cb rest pc next
      · cases taken
  | functorReturns =>
      simp only [step, Option.ite_none_right_eq_some, Option.some.injEq] at taken
      obtain ⟨⟨pc, own⟩, rfl⟩ := taken
      exact .functorReturns pc own
  | clearCalling =>
      simp only [step, Option.ite_none_right_eq_some, Option.some.injEq] at taken
      obtain ⟨⟨pc, served⟩, rfl⟩ := taken
      exact .clearCalling pc served
  | ownQueueInLoop cb =>
      simp only [step, Option.ite_none_right_eq_some, Option.some.injEq] at taken
      obtain ⟨⟨inside, own⟩, rfl⟩ := taken
      exact .ownQueueInLoop cb inside own
  | ownWakeup =>
      simp only [step, Option.ite_none_right_eq_some, Option.some.injEq] at taken
      obtain ⟨own, rfl⟩ := taken
      exact .ownWakeup own
  | ownQuit =>
      simp only [step, Option.ite_none_right_eq_some, Option.some.injEq] at taken
      obtain ⟨⟨inside, own⟩, rfl⟩ := taken
      exact .ownQuit inside own
  | queueInLoop thread cb =>
      simp only [step, Option.ite_none_right_eq_some, Option.some.injEq] at taken
      obtain ⟨idle, rfl⟩ := taken
      exact .queueInLoop thread cb idle
  | quit thread =>
      simp only [step, Option.ite_none_right_eq_some, Option.some.injEq] at taken
      obtain ⟨idle, rfl⟩ := taken
      exact .quit thread idle
  | wakeup thread =>
      simp only [step, Option.ite_none_left_eq_some, Option.some.injEq] at taken
      obtain ⟨busy, rfl⟩ := taken
      exact .wakeup thread busy

end EventLoop

end Cmuduo.Net
