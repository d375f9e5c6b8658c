import Cmuduo.Net.Channel
import Mathlib.Logic.Function.Basic

set_option autoImplicit false

namespace Cmuduo.Net

inductive EpollErrno where
  | EEXIST
  | ENOENT
  | other (code : Nat)
deriving DecidableEq, Repr

-- One ::epoll_ctl call: the operation, and whether the descriptor was in the
-- interest set at that moment.
structure EpollCall where
  operation : EpollCtl
  registered : Bool
deriving DecidableEq, Repr

-- A whole EpollPoller: channels_ and the kernel's interest set, by descriptor.
-- calls and exited are ghosts: the epoll_ctl calls so far, and the error with
-- which update has left the process, if it has.
structure Poller (κ : Type) where
  channels : Nat → Option κ
  interest : Nat → Option (EventMask × κ)
  calls : List EpollCall
  exited : Option EpollErrno

section
variable {κ : Type}

namespace Poller

def new : Poller κ := ⟨fun _ => none, fun _ => none, [], none⟩

-- Apart from EEXIST and ENOENT the kernel may refuse to add or to modify, for
-- lack of memory for instance; taking out an open descriptor needs nothing.
def epollCtl (operation : EpollCtl) (fd : Nat) (events : EventMask) (ptr : κ) (refusal : Option Nat) (p : Poller κ) :
    Except EpollErrno (Poller κ) :=
  match operation, p.interest fd, refusal with
  | .add, some _, _ => .error .EEXIST
  | .mod, none, _ => .error .ENOENT
  | .del, none, _ => .error .ENOENT
  | .del, some _, _ => .ok { p with interest := Function.update p.interest fd none }
  | _, _, some code => .error (.other code)
  | _, _, none => .ok { p with interest := Function.update p.interest fd (some (events, ptr)) }

def update (operation : EpollCtl) (this : κ) (channel : Channel) (refusal : Option Nat) (p : Poller κ) : Poller κ :=
  let p := { p with calls := p.calls ++ [EpollCall.mk operation (p.interest channel.fd).isSome] }
  match p.epollCtl operation channel.fd channel.events this refusal with
  | .ok next => next
  | .error errno => if operation = EpollCtl.del then p else { p with exited := some errno }

def updateChannel (this : κ) (channel : Channel) (refusal : Option Nat) (p : Poller κ) : Channel × Poller κ :=
  if channel.index = kNew ∨ channel.index = kDeleted then
    let p :=
      if channel.index = kNew then { p with channels := Function.update p.channels channel.fd (some this) } else p
    let channel := { channel with index := kAdded }
    (channel, p.update .add this channel refusal)
  else if channel.isNoneEvent then
    let channel := { channel with index := kNew }
    (channel, p.update .del this channel refusal)
  else (channel, p.update .mod this channel refusal)

def removeChannel (this : κ) (channel : Channel) (p : Poller κ) : Channel × Poller κ :=
  let p := { p with channels := Function.update p.channels channel.fd none }
  let p := if channel.index = kAdded then p.update .del this channel none else p
  ({ channel with index := kNew }, p)

def hasChannel [DecidableEq κ] (this : κ) (channel : Channel) (p : Poller κ) : Bool := p.channels channel.fd == some this

-- What the poller keeps about one descriptor. On the slot of its channel an
-- operation acts as the one of that slot does, and no other slot changes.
def slot (p : Poller κ) (fd : Nat) : Slot κ := ⟨p.channels fd, p.interest fd⟩

structure ActsOn (p next : Poller κ) (fd : Nat) (operation : Except Stop (Slot κ)) : Prop where
  here : next.exited = none → operation = .ok (next.slot fd)
  elsewhere : ∀ other, other ≠ fd → next.slot other = p.slot other

theorem update_acts (operation : EpollCtl) (this : κ) (channel : Channel) (refusal : Option Nat) (p : Poller κ) :
    ActsOn p (p.update operation this channel refusal) channel.fd
      (EpollPoller.update operation this channel (p.slot channel.fd)) := by
  constructor
  · intro running
    cases operation <;> cases present : p.interest channel.fd <;> cases refusal <;>
      simp_all [update, epollCtl, EpollPoller.update, Cmuduo.Net.epollCtl, slot]
  · intro other different
    cases operation <;> cases present : p.interest channel.fd <;> cases refusal <;>
      simp [update, epollCtl, present, slot, different]

theorem update_channel_acts (this : κ) (channel result : Channel) (refusal : Option Nat) (p next : Poller κ)
    (done : p.updateChannel this channel refusal = (result, next)) :
    (next.exited = none → EpollPoller.updateChannel this channel (p.slot channel.fd) = .ok (result, next.slot channel.fd)) ∧
    ∀ other, other ≠ channel.fd → next.slot other = p.slot other := by
  by_cases absent : channel.index = kNew ∨ channel.index = kDeleted
  · simp only [updateChannel, if_pos absent, Prod.mk.injEq] at done
    obtain ⟨rfl, rfl⟩ := done
    by_cases fresh : channel.index = kNew
    · simp only [if_pos fresh]
      have acts := update_acts .add this { channel with index := kAdded } refusal
        { p with channels := Function.update p.channels channel.fd (some this) }
      refine ⟨fun running => ?_, fun other different => ?_⟩
      · have added := acts.here running
        simp only [slot, Function.update_self] at added
        simp only [EpollPoller.updateChannel, if_pos absent, if_pos fresh, slot, added, Except.map]
      · rw [acts.elsewhere other different]
        simp [slot, different]
    · simp only [if_neg fresh]
      have acts := update_acts .add this { channel with index := kAdded } refusal p
      refine ⟨fun running => ?_, acts.elsewhere⟩
      rw [EpollPoller.updateChannel, if_pos absent, if_neg fresh]
      simp only [acts.here running, Except.map]
  · simp only [updateChannel, if_neg absent] at done
    by_cases quiet : channel.isNoneEvent = true
    · simp only [if_pos quiet, Prod.mk.injEq] at done
      obtain ⟨rfl, rfl⟩ := done
      have acts := update_acts .del this { channel with index := kNew } refusal p
      refine ⟨fun running => ?_, acts.elsewhere⟩
      rw [EpollPoller.updateChannel, if_neg absent, if_pos quiet]
      simp only [acts.here running, Except.map]
    · simp only [if_neg quiet, Prod.mk.injEq] at done
      obtain ⟨rfl, rfl⟩ := done
      have acts := update_acts .mod this channel refusal p
      refine ⟨fun running => ?_, acts.elsewhere⟩
      rw [EpollPoller.updateChannel, if_neg absent, if_neg quiet]
      simp only [acts.here running, Except.map]

theorem remove_channel_acts (this : κ) (channel result : Channel) (p next : Poller κ)
    (done : p.removeChannel this channel = (result, next)) :
    (next.exited = none → EpollPoller.removeChannel this channel (p.slot channel.fd) = .ok (result, next.slot channel.fd)) ∧
    ∀ other, other ≠ channel.fd → next.slot other = p.slot other := by
  simp only [removeChannel, Prod.mk.injEq] at done
  obtain ⟨rfl, rfl⟩ := done
  by_cases added : channel.index = kAdded
  · simp only [if_pos added]
    have acts := update_acts .del this channel none { p with channels := Function.update p.channels channel.fd none }
    refine ⟨fun running => ?_, fun other different => ?_⟩
    · have removed := acts.here running
      simp only [slot, Function.update_self] at removed
      simp only [EpollPoller.removeChannel, if_pos added, slot, removed, Except.map]
    · rw [acts.elsewhere other different]
      simp [slot, different]
  · simp only [if_neg added]
    refine ⟨fun running => ?_, fun other different => by simp [slot, different]⟩
    simp [EpollPoller.removeChannel, if_neg added, slot, Except.map]

end Poller

-- The kernel accepts the call: add is for descriptors outside the interest
-- set, mod and del are for those in it.
def EpollCall.Fits (call : EpollCall) : Prop := call.registered = true ↔ call.operation ≠ .add

namespace Poller

-- An operation issues no call that does not fit, so that only a refusal for
-- another reason ends the process.
structure Accepted (p next : Poller κ) : Prop where
  calls : ∀ call ∈ next.calls, call ∈ p.calls ∨ call.Fits
  exited : next.exited = p.exited ∨ ∃ code, next.exited = some (.other code)

theorem update_accepted (operation : EpollCtl) (this : κ) (channel : Channel) (refusal : Option Nat) (p : Poller κ)
    (fits : (p.interest channel.fd).isSome = true ↔ operation ≠ .add) :
    Accepted p (p.update operation this channel refusal) := by
  have calls : (p.update operation this channel refusal).calls =
      p.calls ++ [⟨operation, (p.interest channel.fd).isSome⟩] := by
    cases operation <;> cases present : p.interest channel.fd <;> cases refusal <;> simp [update, epollCtl, present]
  constructor
  · intro call member
    rw [calls, List.mem_append, List.mem_singleton] at member
    exact member.imp_right fun last => by rw [last]; exact fits
  · cases operation <;> cases present : p.interest channel.fd <;> cases refusal <;> simp_all [update, epollCtl]

def Placed (p : Poller κ) (channel : Channel) : Prop :=
  channel.index = kAdded ∧ (p.interest channel.fd).isSome = true ∨
    channel.index = kNew ∧ (p.interest channel.fd).isSome = false

theorem update_channel_accepted (this : κ) (channel : Channel) (refusal : Option Nat) (p : Poller κ)
    (placed : p.Placed channel) : Accepted p (p.updateChannel this channel refusal).2 := by
  rcases placed with ⟨added, present⟩ | ⟨fresh, absent⟩
  · have known : ¬(channel.index = kNew ∨ channel.index = kDeleted) := by rw [added]; decide
    rw [updateChannel, if_neg known]
    by_cases quiet : channel.isNoneEvent = true
    · rw [if_pos quiet]
      exact update_accepted .del this { channel with index := kNew } refusal p (iff_of_true present (by decide))
    · rw [if_neg quiet]
      exact update_accepted .mod this channel refusal p (iff_of_true present (by decide))
  · rw [updateChannel, if_pos (.inl fresh)]
    simp only [if_pos fresh]
    have accepted := update_accepted .add this { channel with index := kAdded } refusal
      { p with channels := Function.update p.channels channel.fd (some this) } (by simp [absent])
    exact ⟨accepted.calls, accepted.exited⟩

theorem remove_channel_accepted (this : κ) (channel : Channel) (p : Poller κ) (placed : p.Placed channel) :
    Accepted p (p.removeChannel this channel).2 := by
  rcases placed with ⟨added, present⟩ | ⟨fresh, -⟩
  · simp only [removeChannel, if_pos added]
    have accepted := update_accepted .del this channel none
      { p with channels := Function.update p.channels channel.fd none } (iff_of_true present (by decide))
    exact ⟨accepted.calls, accepted.exited⟩
  · have unknown : channel.index ≠ kAdded := by rw [fresh]; decide
    simp only [removeChannel, if_neg unknown]
    exact ⟨fun call member => .inl member, .inl rfl⟩

end Poller

end

end Cmuduo.Net
