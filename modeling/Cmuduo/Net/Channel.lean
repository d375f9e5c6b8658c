import Cmuduo.Net.Kernel

set_option autoImplicit false

namespace Cmuduo.Net

abbrev EventMask := BitVec 32

def EPOLLIN : EventMask := 0x001#32
def EPOLLPRI : EventMask := 0x002#32
def EPOLLOUT : EventMask := 0x004#32
def EPOLLERR : EventMask := 0x008#32
def EPOLLHUP : EventMask := 0x010#32

def KNoneEvent : EventMask := 0#32
def KReadEvent : EventMask := EPOLLIN ||| EPOLLPRI
def KWriteEvent : EventMask := EPOLLOUT

def kNew : Int := -1
def kAdded : Int := 1
def kDeleted : Int := 2

structure Channel where
  fd : Nat
  events : EventMask
  index : Int
  tied : Bool
deriving DecidableEq, Repr

def Channel.new (fd : Nat) : Channel := ⟨fd, KNoneEvent, kNew, false⟩

def Channel.isNoneEvent (channel : Channel) : Bool := channel.events == KNoneEvent

-- Everything a poller keeps about one descriptor: the entry of channels_ and
-- the kernel's registration, whose data pointer names a channel.
structure Slot (κ : Type) where
  channels : Option κ
  interest : Option (EventMask × κ)
deriving DecidableEq, Repr

def Slot.empty {κ : Type} : Slot κ := ⟨none, none⟩

inductive EpollCtl where
  | add
  | mod
  | del
deriving DecidableEq, Repr

section
variable {κ : Type}

-- ::epoll_ctl; none is -1 (EEXIST for an add, ENOENT for the other two).
def epollCtl (operation : EpollCtl) (events : EventMask) (ptr : κ) (slot : Slot κ) : Option (Slot κ) :=
  match operation, slot.interest with
  | .add, none => some { slot with interest := some (events, ptr) }
  | .mod, some _ => some { slot with interest := some (events, ptr) }
  | .del, some _ => some { slot with interest := none }
  | _, _ => none

namespace EpollPoller

def update (operation : EpollCtl) (this : κ) (channel : Channel) (slot : Slot κ) : Except Stop (Slot κ) :=
  match epollCtl operation channel.events this slot with
  | some next => .ok next
  | none => if operation = .del then .ok slot else .error .fatalExit

def updateChannel (this : κ) (channel : Channel) (slot : Slot κ) : Except Stop (Channel × Slot κ) :=
  if channel.index = kNew ∨ channel.index = kDeleted then
    let slot := if channel.index = kNew then { slot with channels := some this } else slot
    let channel := { channel with index := kAdded }
    (update .add this channel slot).map fun next => (channel, next)
  else if channel.isNoneEvent then
    let channel := { channel with index := kNew }
    (update .del this channel slot).map fun next => (channel, next)
  else (update .mod this channel slot).map fun next => (channel, next)

def removeChannel (this : κ) (channel : Channel) (slot : Slot κ) : Except Stop (Channel × Slot κ) :=
  let slot := { slot with channels := none }
  let removed := if channel.index = kAdded then update .del this channel slot else .ok slot
  removed.map fun next => ({ channel with index := kNew }, next)

end EpollPoller

namespace Channel

def isWriting (channel : Channel) : Bool := channel.events &&& KWriteEvent != 0#32

def enableReading (this : κ) (channel : Channel) (slot : Slot κ) : Except Stop (Channel × Slot κ) :=
  EpollPoller.updateChannel this { channel with events := channel.events ||| KReadEvent } slot

def enableWriting (this : κ) (channel : Channel) (slot : Slot κ) : Except Stop (Channel × Slot κ) :=
  EpollPoller.updateChannel this { channel with events := channel.events ||| KWriteEvent } slot

def disableWriting (this : κ) (channel : Channel) (slot : Slot κ) : Except Stop (Channel × Slot κ) :=
  EpollPoller.updateChannel this { channel with events := channel.events &&& ~~~KWriteEvent } slot

def disableAll (this : κ) (channel : Channel) (slot : Slot κ) : Except Stop (Channel × Slot κ) :=
  EpollPoller.updateChannel this { channel with events := KNoneEvent } slot

end Channel

-- The two situations a channel and its slot can be in. The index alone tells
-- them apart, and kDeleted never occurs.
def Registered (this : κ) (channel : Channel) (slot : Slot κ) : Prop :=
  channel.index = kAdded ∧ slot.interest = some (channel.events, this)

def Unregistered (channel : Channel) (slot : Slot κ) : Prop :=
  channel.index = kNew ∧ slot.interest = none

def Mirrors (this : κ) (channel : Channel) (slot : Slot κ) : Prop :=
  Registered this channel slot ∨ Unregistered channel slot

theorem update_unregistered (this : κ) (channel : Channel) (slot : Slot κ) (absent : Unregistered channel slot) :
    EpollPoller.updateChannel this channel slot =
      .ok ({ channel with index := kAdded }, ⟨some this, some (channel.events, this)⟩) := by
  obtain ⟨index, interest⟩ := absent
  simp [EpollPoller.updateChannel, EpollPoller.update, epollCtl, index, interest, Except.map]

theorem update_registered (this : κ) (channel : Channel) (slot : Slot κ) (index : channel.index = kAdded)
    (present : slot.interest.isSome) (wanted : channel.events ≠ KNoneEvent) :
    EpollPoller.updateChannel this channel slot =
      .ok (channel, { slot with interest := some (channel.events, this) }) := by
  obtain ⟨old, interest⟩ := Option.isSome_iff_exists.mp present
  simp [EpollPoller.updateChannel, EpollPoller.update, epollCtl, Channel.isNoneEvent, index, interest, wanted, kAdded,
    kNew, kDeleted, Except.map]

theorem update_emptied (this : κ) (channel : Channel) (slot : Slot κ) (index : channel.index = kAdded)
    (present : slot.interest.isSome) (unwanted : channel.events = KNoneEvent) :
    EpollPoller.updateChannel this channel slot =
      .ok ({ channel with index := kNew }, { slot with interest := none }) := by
  obtain ⟨old, interest⟩ := Option.isSome_iff_exists.mp present
  simp [EpollPoller.updateChannel, EpollPoller.update, epollCtl, Channel.isNoneEvent, index, interest, unwanted,
    kAdded, kNew, kDeleted, Except.map]

-- Whatever events_ has been set to just before, an update ends mirrored, and
-- can therefore not reach the fatal exit.
theorem update_mirrors (this : κ) (channel : Channel) (slot : Slot κ) (events : EventMask)
    (mirrors : Mirrors this channel slot) :
    ∃ (result : Channel) (next : Slot κ),
      EpollPoller.updateChannel this { channel with events := events } slot = .ok (result, next) ∧
      Mirrors this result next ∧ result.events = events := by
  rcases mirrors with ⟨index, interest⟩ | ⟨index, interest⟩
  · have present : slot.interest.isSome := by rw [interest]; rfl
    by_cases unwanted : events = KNoneEvent
    · exact ⟨_, _, update_emptied this { channel with events := events } slot index present unwanted,
        .inr ⟨rfl, rfl⟩, rfl⟩
    · exact ⟨_, _, update_registered this { channel with events := events } slot index present unwanted,
        .inl ⟨index, rfl⟩, rfl⟩
  · exact ⟨_, _, update_unregistered this { channel with events := events } slot ⟨index, interest⟩,
      .inl ⟨rfl, rfl⟩, rfl⟩

theorem remove_unregistered (this : κ) (channel : Channel) (slot : Slot κ) (mirrors : Mirrors this channel slot) :
    EpollPoller.removeChannel this channel slot = .ok ({ channel with index := kNew }, Slot.empty) := by
  rcases mirrors with ⟨index, interest⟩ | ⟨index, interest⟩
  · simp [EpollPoller.removeChannel, EpollPoller.update, epollCtl, index, interest, Except.map, Slot.empty]
  · simp [EpollPoller.removeChannel, index, interest, kNew, kAdded, Except.map, Slot.empty]

end

end Cmuduo.Net
