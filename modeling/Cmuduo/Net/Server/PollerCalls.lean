import Cmuduo.Net.Poller
import Cmuduo.Net.Server.Calls

set_option autoImplicit false

namespace Cmuduo.Net

-- A call on a poller, with the channel as the call finds it.
inductive ChannelCall where
  | updateChannel (channel : Channel)
  | removeChannel (channel : Channel)
deriving DecidableEq, Repr

namespace ChannelCall

variable {κ : Type}

def channel : ChannelCall → Channel
  | .updateChannel channel => channel
  | .removeChannel channel => channel

-- What it does to the one slot of its descriptor, and to a whole poller.
def onSlot (this : κ) (slot : Slot κ) : ChannelCall → Except Stop (Channel × Slot κ)
  | .updateChannel channel => EpollPoller.updateChannel this channel slot
  | .removeChannel channel => EpollPoller.removeChannel this channel slot

def onPoller (this : κ) (p : Poller κ) : ChannelCall → Channel × Poller κ
  | .updateChannel channel => p.updateChannel this channel none
  | .removeChannel channel => p.removeChannel this channel

end ChannelCall

-- The slot of a connection that is known to its poller by the given name.
def Slot.named {κ : Type} (this : κ) (slot : Slot Unit) : Slot κ :=
  ⟨slot.channels.map fun _ => this, slot.interest.map fun entry => (entry.1, this)⟩

section
variable {κ : Type}

theorem update_named (operation : EpollCtl) (this : κ) (channel : Channel) (slot next : Slot Unit)
    (done : EpollPoller.update operation () channel slot = .ok next) :
    EpollPoller.update operation this channel (slot.named this) = .ok (next.named this) := by
  cases operation <;> cases present : slot.interest <;>
    simp_all [EpollPoller.update, epollCtl, Slot.named] <;> simp [← done]

theorem map_ok {α β : Type} (result : Except Stop α) (f : α → β) (value : β) (done : result.map f = .ok value) :
    ∃ first, result = .ok first ∧ f first = value := by
  cases result with
  | error stop => cases done
  | ok first => exact ⟨first, rfl, Except.ok.inj done⟩

theorem on_slot_named (call : ChannelCall) (this : κ) (slot next : Slot Unit) (left : Channel)
    (done : call.onSlot () slot = .ok (left, next)) : call.onSlot this (slot.named this) = .ok (left, next.named this) := by
  cases call with
  | updateChannel channel =>
      simp only [ChannelCall.onSlot, EpollPoller.updateChannel] at done ⊢
      split at done
      · next absent =>
          obtain ⟨after, added, same⟩ := map_ok _ _ _ done
          cases same
          rw [if_pos absent]
          by_cases fresh : channel.index = kNew
          · rw [if_pos fresh] at added ⊢
            exact congrArg (Except.map _) (update_named .add this _ { slot with channels := some () } next added)
          · rw [if_neg fresh] at added ⊢
            exact congrArg (Except.map _) (update_named .add this _ slot next added)
      · next present =>
          rw [if_neg present]
          split at done
          · next quiet =>
              obtain ⟨after, removed, same⟩ := map_ok _ _ _ done
              cases same
              rw [if_pos quiet]
              exact congrArg (Except.map _) (update_named .del this _ slot next removed)
          · next wanted =>
              obtain ⟨after, changed, same⟩ := map_ok _ _ _ done
              cases same
              rw [if_neg wanted]
              exact congrArg (Except.map _) (update_named .mod this _ slot next changed)
  | removeChannel channel =>
      simp only [ChannelCall.onSlot, EpollPoller.removeChannel] at done ⊢
      obtain ⟨after, removed, same⟩ := map_ok _ _ _ done
      cases same
      by_cases added : channel.index = kAdded
      · rw [if_pos added] at removed ⊢
        exact congrArg (Except.map _) (update_named .del this channel { slot with channels := none } next removed)
      · rw [if_neg added] at removed ⊢
        cases removed
        rfl

theorem update_fits (operation : EpollCtl) (this : κ) (channel : Channel) (p : Poller κ) (next : Slot κ)
    (running : p.exited = none) (done : EpollPoller.update operation this channel (p.slot channel.fd) = .ok next) :
    (p.update operation this channel none).exited = none := by
  cases operation <;> cases present : p.interest channel.fd <;>
    simp_all [Poller.update, Poller.epollCtl, EpollPoller.update, epollCtl, Poller.slot]

theorem on_poller_runs (call : ChannelCall) (this : κ) (p : Poller κ) (result : Channel × Slot κ)
    (running : p.exited = none) (done : call.onSlot this (p.slot call.channel.fd) = .ok result) :
    (call.onPoller this p).2.exited = none := by
  cases call with
  | updateChannel channel =>
      simp only [ChannelCall.onSlot, EpollPoller.updateChannel] at done
      simp only [ChannelCall.onPoller, Poller.updateChannel]
      split at done
      · next absent =>
          obtain ⟨after, added, -⟩ := map_ok _ _ _ done
          rw [if_pos absent]
          by_cases fresh : channel.index = kNew
          · rw [if_pos fresh] at added
            simp only [if_pos fresh]
            refine update_fits .add this _ _ after running ?_
            simpa [Poller.slot, ChannelCall.channel] using added
          · rw [if_neg fresh] at added
            simp only [if_neg fresh]
            exact update_fits .add this _ p after running added
      · next present =>
          rw [if_neg present]
          split at done
          · next quiet =>
              obtain ⟨after, removed, -⟩ := map_ok _ _ _ done
              rw [if_pos quiet]
              exact update_fits .del this _ p after running removed
          · next wanted =>
              obtain ⟨after, changed, -⟩ := map_ok _ _ _ done
              rw [if_neg wanted]
              exact update_fits .mod this _ p after running changed
  | removeChannel channel =>
      simp only [ChannelCall.onSlot, EpollPoller.removeChannel] at done
      simp only [ChannelCall.onPoller, Poller.removeChannel]
      obtain ⟨after, removed, -⟩ := map_ok _ _ _ done
      by_cases added : channel.index = kAdded
      · rw [if_pos added] at removed ⊢
        refine update_fits .del this channel _ after running ?_
        simpa [Poller.slot, ChannelCall.channel] using removed
      · rw [if_neg added]
        exact running

-- A poller does to its descriptor what the call does to the slot alone, and
-- nothing to the others.
structure Serves (p next : Poller κ) (fd : Nat) (slot : Slot κ) : Prop where
  running : next.exited = none
  here : next.slot fd = slot
  elsewhere : ∀ other, other ≠ fd → next.slot other = p.slot other

theorem on_poller_serves (call : ChannelCall) (this : κ) (p : Poller κ) (left : Channel) (slot : Slot κ)
    (running : p.exited = none) (done : call.onSlot this (p.slot call.channel.fd) = .ok (left, slot)) :
    (call.onPoller this p).1 = left ∧ Serves p (call.onPoller this p).2 call.channel.fd slot := by
  have runs := on_poller_runs call this p (left, slot) running done
  have acts : ((call.onPoller this p).2.exited = none →
      call.onSlot this (p.slot call.channel.fd) =
        .ok ((call.onPoller this p).1, (call.onPoller this p).2.slot call.channel.fd)) ∧
      ∀ other, other ≠ call.channel.fd → (call.onPoller this p).2.slot other = p.slot other := by
    cases call with
    | updateChannel channel => exact p.update_channel_acts this channel _ none _ rfl
    | removeChannel channel => exact p.remove_channel_acts this channel _ _ rfl
  have same := (acts.1 runs).symm.trans done
  obtain ⟨channel, here⟩ := Prod.mk.inj (Except.ok.inj same)
  exact ⟨channel, runs, here, acts.2⟩

end

theorem on_slot_left (call : ChannelCall) (slot next : Slot Unit) (left : Channel)
    (done : call.onSlot () slot = .ok (left, next)) : ∃ index, left = { call.channel with index := index } := by
  cases call with
  | updateChannel channel =>
      simp only [ChannelCall.onSlot, EpollPoller.updateChannel] at done
      split at done
      · obtain ⟨after, -, same⟩ := map_ok _ _ _ done
        cases same
        exact ⟨_, rfl⟩
      · split at done
        · obtain ⟨after, -, same⟩ := map_ok _ _ _ done
          cases same
          exact ⟨_, rfl⟩
        · obtain ⟨after, -, same⟩ := map_ok _ _ _ done
          cases same
          exact ⟨_, rfl⟩
  | removeChannel channel =>
      obtain ⟨after, -, same⟩ := map_ok _ _ _ done
      cases same
      exact ⟨_, rfl⟩

-- What a call of a connection does to its channel and its slot: it makes this
-- one call on the poller, or none.
inductive Polls (channel : Channel) (slot : Slot Unit) (after : Channel) (left : Slot Unit) : Option ChannelCall → Prop where
  | leaves (same : after = channel) (kept : left = slot) : Polls channel slot after left none
  | makes (call : ChannelCall) (fd : call.channel.fd = channel.fd) (done : call.onSlot () slot = .ok (after, left)) :
      Polls channel slot after left (some call)

namespace TcpConnection

def writesOn (c : TcpConnection) : ChannelCall :=
  .updateChannel { c.channel with events := c.channel.events ||| KWriteEvent }

def writesOff (c : TcpConnection) : ChannelCall :=
  .updateChannel { c.channel with events := c.channel.events &&& ~~~KWriteEvent }

def PollsOn (c next : TcpConnection) : Option ChannelCall → Prop := Polls c.channel c.slot next.channel next.slot

theorem with_channel_makes (c next : TcpConnection) (call : ChannelCall) (fd : call.channel.fd = c.channel.fd)
    (done : c.withChannel (call.onSlot () c.slot) = .ok next) : PollsOn c next (some call) := by
  cases made : call.onSlot () c.slot with
  | error stop => simp [withChannel, made] at done
  | ok pair =>
      obtain ⟨channel, slot⟩ := pair
      simp only [withChannel, made, Except.ok.injEq] at done
      subst done
      exact .makes call fd made

theorem writes_on (channel after : Channel) (slot left : Slot Unit)
    (done : EpollPoller.updateChannel () { channel with events := channel.events ||| KWriteEvent } slot = .ok (after, left)) :
    after.isWriting = true := by
  obtain ⟨index, rfl⟩ := on_slot_left (.updateChannel { channel with events := channel.events ||| KWriteEvent }) slot left after done
  have bit : ((channel.events ||| KWriteEvent) &&& KWriteEvent).getLsbD 2 = true := by
    simp [KWriteEvent, EPOLLOUT]
  refine bne_iff_ne.mpr fun none => ?_
  rw [show (channel.events ||| KWriteEvent) &&& KWriteEvent = 0#32 from none] at bit
  cases bit

theorem writes_off (channel after : Channel) (slot left : Slot Unit)
    (done : EpollPoller.updateChannel () { channel with events := channel.events &&& ~~~KWriteEvent } slot =
      .ok (after, left)) : after.isWriting = false := by
  obtain ⟨index, rfl⟩ :=
    on_slot_left (.updateChannel { channel with events := channel.events &&& ~~~KWriteEvent }) slot left after done
  simp [Channel.isWriting, ChannelCall.channel, BitVec.and_assoc]

theorem buffer_remaining_polls (c next : TcpConnection) (rest : CppString) (notices queued : List Notice)
    (done : c.bufferRemaining rest notices = .ok (next, queued)) :
    PollsOn c next (if !c.channel.isWriting && next.channel.isWriting then some c.writesOn else none) := by
  cases buffer_remaining_buffers c next rest notices queued done with
  | nothing empty same =>
      rw [same, if_neg (by simp)]
      exact .leaves rfl rfl
  | appends buffer some appended turned =>
      rcases turned with ⟨writing, rfl⟩ | ⟨writing, turned⟩
      · rw [writing, if_neg (by simp)]
        exact .leaves rfl rfl
      · have made := with_channel_makes { c with outputBuffer := buffer } next c.writesOn rfl turned
        cases made with
        | makes call fd there =>
            have on := writes_on c.channel next.channel c.slot next.slot there
            rw [writing, on]
            exact .makes c.writesOn rfl there

theorem send_in_loop_polls (c next : TcpConnection) (data : CppString) (result : WriteResult) (queued : List Notice)
    (done : c.sendInLoop data result = .ok (next, queued)) :
    PollsOn c next (if !c.channel.isWriting && next.channel.isWriting then some c.writesOn else none) := by
  have nothing : PollsOn c c (if !c.channel.isWriting && c.channel.isWriting then some c.writesOn else none) := by
    rw [if_neg (by simp)]
    exact .leaves rfl rfl
  cases send_in_loop_sends c next data result queued done with
  | refused _ closing same => exact same ▸ nothing
  | broken errno accepted direct fault same => exact same ▸ nothing
  | writes count accepted direct rest => exact buffer_remaining_polls (c.wrote (data.bytes.take count)) next _ _ queued rest
  | waits _ accepted behind rest => exact buffer_remaining_polls c next data [] queued rest

theorem handle_write_polls (c next : TcpConnection) (result : WriteResult) (queued : List Notice)
    (done : c.handleWrite result = .ok (next, queued)) :
    PollsOn c next (if c.channel.isWriting && !next.channel.isWriting then some c.writesOff else none) := by
  cases writing : c.channel.isWriting with
  | false =>
      rw [c.handle_write_quiet next result queued writing done]
      exact .leaves rfl rfl
  | true =>
      cases handle_write_writes c next result queued done with
      | nothing =>
          rw [writing]
          exact .leaves rfl rfl
      | partly out =>
          rw [show (c.flushed out).channel = c.channel from rfl, writing]
          exact .leaves rfl rfl
      | fully out quiet disabled =>
          have made := with_channel_makes (c.flushed out) quiet c.writesOff rfl disabled
          have last : (if quiet.state = .kDisconnecting then quiet.shutdownInLoop else quiet).channel = quiet.channel ∧
              (if quiet.state = .kDisconnecting then quiet.shutdownInLoop else quiet).slot = quiet.slot := by
            split
            · exact ⟨quiet.shutdown_in_loop_same.1.channel, quiet.shutdown_in_loop_same.1.slot⟩
            · exact ⟨rfl, rfl⟩
          cases made with
          | makes call fd there =>
              have off := writes_off c.channel quiet.channel c.slot quiet.slot there
              rw [PollsOn, last.1, last.2, off]
              exact .makes c.writesOff rfl there

end TcpConnection

namespace Connection

-- The call on its loop's poller that a task of a connection makes. A send and a
-- flush make one when they turn write interest on or off.
def pollerCall (conn next : Connection) : Task → Option ChannelCall
  | .handleClose | .setDisconnected => some (.updateChannel { conn.tcp.channel with events := KNoneEvent })
  | .connectEstablished =>
      some (.updateChannel { conn.tcp.channel with events := conn.tcp.channel.events ||| KReadEvent, tied := true })
  | .channelRemove => some (.removeChannel conn.tcp.channel)
  | .sendInLoop _ => if !conn.tcp.channel.isWriting && next.tcp.channel.isWriting then some conn.tcp.writesOn else none
  | .handleWrite => if conn.tcp.channel.isWriting && !next.tcp.channel.isWriting then some conn.tcp.writesOff else none
  | _ => none

theorem performs_polls {read : Captured → Option CppString} {conn : Connection} {task : Task} {answer : Answer}
    {effect : Effect} (performs : Performs read conn task answer effect) :
    conn.tcp.PollsOn effect.conn.tcp (conn.pollerCall effect.conn task) := by
  cases performs with
  | handleClose answer tcp disabled =>
      exact TcpConnection.with_channel_makes (conn.tcp.setState .kDisconnected) tcp (.updateChannel _) rfl disabled
  | setDisconnected answer tcp disabled =>
      exact TcpConnection.with_channel_makes (conn.tcp.setState .kDisconnected) tcp (.updateChannel _) rfl disabled
  | connectEstablished answer tcp up =>
      have made := TcpConnection.with_channel_makes { conn.tcp.setState .kConnected with
        channel := { conn.tcp.channel with tied := true } } tcp (.updateChannel
        { conn.tcp.channel with events := conn.tcp.channel.events ||| KReadEvent, tied := true }) rfl up
      cases made with
      | makes call fd done => exact .makes _ rfl done
  | channelRemove answer tcp removed =>
      exact TcpConnection.with_channel_makes conn.tcp tcp (.removeChannel conn.tcp.channel) rfl removed
  | handleRead result outcome tcp received =>
      obtain ⟨⟨buffer, rfl⟩, -⟩ := conn.tcp.handle_read_input tcp result outcome received
      exact .leaves rfl rfl
  | handleWrite result tcp notices flushed => exact conn.tcp.handle_write_polls tcp result notices flushed
  | sendDirect data result tcp notices sent => exact conn.tcp.send_in_loop_polls tcp data result notices sent
  | sendCaptured data bytes result tcp notices found sent =>
      exact conn.tcp.send_in_loop_polls tcp bytes result notices sent
  | sendStray data memory result tcp notices missing long sent =>
      exact conn.tcp.send_in_loop_polls tcp memory result notices sent
  | shutdownInLoop =>
      obtain ⟨same, -⟩ := conn.tcp.shutdown_in_loop_same
      exact .leaves same.channel same.slot
  | _ => exact .leaves rfl rfl

end Connection

end Cmuduo.Net
