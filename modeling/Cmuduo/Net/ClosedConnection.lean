import Cmuduo.Net.OpenConnection

set_option autoImplicit false

namespace Cmuduo.Net.TcpConnection

structure SameChannel (c next : TcpConnection) : Prop where
  state : next.state = c.state
  channel : next.channel = c.channel
  slot : next.slot = c.slot

theorem same_channel_refl (c : TcpConnection) : SameChannel c c := ⟨rfl, rfl, rfl⟩

theorem Open.set_state {c : TcpConnection} (isOpen : Open c) (state : StateE) : Open (c.setState state) :=
  ⟨isOpen.valid, isOpen.registered, isOpen.events⟩

-- Whatever ::write answers, an open connection stays open in sendInLoop; a
-- broken one only loses the data.
theorem send_in_loop_keeps_open (c next : TcpConnection) (data : CppString) (result : WriteResult) (queued : List Notice)
    (isOpen : Open c) (done : c.sendInLoop data result = .ok (next, queued)) : Open next ∧ next.state = c.state := by
  cases send_in_loop_sends c next data result queued done with
  | refused _ closing same => exact same.symm ▸ ⟨isOpen, rfl⟩
  | broken errno accepted direct fault same => exact same.symm ▸ ⟨isOpen, rfl⟩
  | writes count accepted direct rest =>
      have moved : Open (c.wrote (data.bytes.take count)) := ⟨isOpen.valid, isOpen.registered, isOpen.events⟩
      obtain ⟨nextOpen, same, -⟩ := buffer_remaining_open _ next _ _ queued moved rest
      exact ⟨nextOpen, same.state⟩
  | waits _ accepted behind rest =>
      obtain ⟨nextOpen, same, -⟩ := buffer_remaining_open c next data [] queued isOpen rest
      exact ⟨nextOpen, same.state⟩

theorem disable_all_registered (c next : TcpConnection) (state : StateE) (registered : Registered () c.channel c.slot)
    (done : (c.setState state).disableAll = .ok next) :
    Unregistered next.channel next.slot ∧ next.channel.events = KNoneEvent ∧ next.state = state := by
  have present : c.slot.interest.isSome := by rw [registered.2]; rfl
  have emptied := update_emptied () { c.channel with events := KNoneEvent } c.slot registered.1 present rfl
  simp only [disableAll, Channel.disableAll, setState, emptied, withChannel, Except.ok.injEq] at done
  subst done
  exact ⟨⟨rfl, rfl⟩, rfl, rfl⟩

theorem channel_remove_unregistered (c next : TcpConnection) (mirrors : Mirrors () c.channel c.slot)
    (done : c.channelRemove = .ok next) :
    Unregistered next.channel next.slot ∧ next.channel.events = c.channel.events ∧ next.state = c.state ∧
      next.wire = c.wire := by
  simp only [channelRemove, remove_unregistered () c.channel c.slot mirrors, withChannel, Except.ok.injEq] at done
  subst done
  exact ⟨⟨rfl, rfl⟩, rfl, rfl, rfl⟩

def LeavesNothing (c : TcpConnection) (data : CppString) (result : WriteResult) : Prop :=
  c.state = .kDisconnecting ∨ data.bytes = [] ∨
    ((!c.channel.isWriting) = true ∧ c.outputBuffer.readableBytes = 0) ∧
      match result with
      | .room count => data.bytes.length ≤ count
      | .error errno => errno = .EPIPE ∨ errno = .ECONNRESET

-- sendInLoop is refused, or it has nothing to send, or the kernel rejects its
-- direct ::write on a broken connection.
def SendsNothing (c : TcpConnection) (data : CppString) (result : WriteResult) : Prop :=
  c.state = .kDisconnecting ∨ data.bytes = [] ∨
    ((!c.channel.isWriting) = true ∧ c.outputBuffer.readableBytes = 0) ∧
      (result = .error .EPIPE ∨ result = .error .ECONNRESET)

instance (c : TcpConnection) (data : CppString) (result : WriteResult) : Decidable (c.SendsNothing data result) := by
  unfold SendsNothing
  infer_instance

theorem sends_nothing_leaves_nothing (c : TcpConnection) (data : CppString) (result : WriteResult)
    (silent : c.SendsNothing data result) : c.LeavesNothing data result := by
  rcases silent with refused | empty | ⟨direct, rfl | rfl⟩
  · exact .inl refused
  · exact .inr (.inl empty)
  · exact .inr (.inr ⟨direct, .inl rfl⟩)
  · exact .inr (.inr ⟨direct, .inr rfl⟩)

theorem buffer_remaining_nothing (c next : TcpConnection) (rest : CppString) (notices queued : List Notice)
    (nothing : rest.bytes = []) (done : c.bufferRemaining rest notices = .ok (next, queued)) : next = c := by
  cases buffer_remaining_buffers c next rest notices queued done with
  | nothing empty same => exact same
  | appends buffer some => exact absurd (by rw [nothing, List.length_nil]) some

theorem send_leaving_nothing (c next : TcpConnection) (data : CppString) (result : WriteResult) (queued : List Notice)
    (nothing : c.LeavesNothing data result) (done : c.sendInLoop data result = .ok (next, queued)) :
    SameChannel c next := by
  cases send_in_loop_sends c next data result queued done with
  | refused _ closing same => exact same ▸ same_channel_refl c
  | broken errno accepted direct fault same => exact same ▸ same_channel_refl c
  | writes count accepted direct rest =>
      have all : data.bytes.length ≤ count := by
        rcases nothing.resolve_left accepted with empty | ⟨-, all⟩
        · simp [empty]
        · exact all
      have left : (data.drop (data.bytes.take count).length).bytes = [] := by
        simp [CppString.drop, List.take_of_length_le all]
      rw [buffer_remaining_nothing _ next _ _ queued left rest]
      exact ⟨rfl, rfl, rfl⟩
  | waits _ accepted behind rest =>
      have empty : data.bytes = [] := by
        refine (nothing.resolve_left accepted).resolve_right ?_
        rintro ⟨direct, answer⟩
        obtain ⟨errno, rfl, whole⟩ := behind direct
        exact whole answer
      rw [buffer_remaining_nothing c next data [] queued empty rest]
      exact same_channel_refl c

theorem send_sending_nothing (c next : TcpConnection) (data : CppString) (result : WriteResult) (queued : List Notice)
    (silent : c.SendsNothing data result) (done : c.sendInLoop data result = .ok (next, queued)) :
    next.wire = c.wire := by
  cases send_in_loop_sends c next data result queued done with
  | refused _ closing same => rw [same]
  | broken errno accepted direct fault same => rw [same]
  | writes count accepted direct rest =>
      have empty : data.bytes = [] := by
        refine (silent.resolve_left accepted).resolve_right ?_
        rintro ⟨-, error | error⟩
        · cases error
        · cases error
      have left : (data.drop (data.bytes.take count).length).bytes = [] := by simp [CppString.drop, empty]
      rw [buffer_remaining_nothing _ next _ _ queued left rest]
      simp [wrote, empty]
  | waits _ accepted behind rest =>
      have empty : data.bytes = [] := by
        refine (silent.resolve_left accepted).resolve_right ?_
        rintro ⟨direct, answer⟩
        obtain ⟨errno, rfl, whole⟩ := behind direct
        exact whole (answer.imp WriteResult.error.inj WriteResult.error.inj)
      rw [buffer_remaining_nothing c next data [] queued empty rest]

theorem handle_write_quiet (c next : TcpConnection) (result : WriteResult) (queued : List Notice)
    (off : c.channel.isWriting = false) (done : c.handleWrite result = .ok (next, queued)) : next = c := by
  simp only [handleWrite, off, Bool.false_eq_true, if_false, Except.ok.injEq, Prod.mk.injEq] at done
  exact done.1.symm

theorem read_fd_zero (b next : Buffer) (result : ReadResult) (n : Nat) (zero : n = 0)
    (done : b.readFd result = .ok (.ok n, next)) : result = .arrived [] := by
  cases result with
  | error errno => simp [Buffer.readFd, kernelReadv] at done
  | arrived bytes =>
      simp only [Buffer.readFd, kernelReadv] at done
      generalize size : (if b.writableBytes < Buffer.extrabufSize then b.writableBytes + Buffer.extrabufSize
        else b.writableBytes) = capacity at done
      have positive : 0 < capacity := by
        rw [← size]
        unfold Buffer.extrabufSize
        split <;> omega
      have count : n = (bytes.take capacity).length := by
        split at done
        · cases done
        · split at done
          · cases done
            rfl
          · split at done
            · cases done
            · cases done
              rfl
      cases bytes with
      | nil => rfl
      | cons byte bytes =>
          rw [count, List.length_take, List.length_cons] at zero
          omega

-- handleRead touches nothing but the input buffer, and ends in handleClose only
-- when nothing at all has arrived.
theorem handle_read_input (c next : TcpConnection) (result : ReadResult) (outcome : ReadOutcome)
    (done : c.handleRead result = .ok (outcome, next)) :
    (∃ buffer, next = { c with inputBuffer := buffer }) ∧ (outcome = .close → result = .arrived []) := by
  simp only [handleRead] at done
  split at done
  · cases done
  · cases done
    exact ⟨⟨_, rfl⟩, fun close => by cases close⟩
  · next n buffer received =>
      cases done
      refine ⟨⟨_, rfl⟩, fun close => ?_⟩
      refine read_fd_zero c.inputBuffer buffer result n ?_ received
      by_contra some
      rw [if_pos (Nat.pos_of_ne_zero some)] at close
      cases close

theorem shutdown_in_loop_same (c : TcpConnection) :
    SameChannel c c.shutdownInLoop ∧ c.shutdownInLoop.outputBuffer = c.outputBuffer ∧
      c.shutdownInLoop.wire = c.wire ∧ c.shutdownInLoop.taken = c.taken := by
  rw [shutdownInLoop]
  split
  · exact ⟨same_channel_refl c, rfl, rfl, rfl⟩
  · exact ⟨⟨rfl, rfl, rfl⟩, rfl, rfl, rfl⟩

structure Mirrored (c next : TcpConnection) : Prop where
  state : next.state = c.state
  mirrors : Mirrors () c.channel c.slot → Mirrors () next.channel next.slot

theorem mirrored_refl (c : TcpConnection) : Mirrored c c := ⟨rfl, fun mirrors => mirrors⟩

theorem same_channel_mirrored (c next : TcpConnection) (same : SameChannel c next) : Mirrored c next :=
  ⟨same.state, fun mirrors => by rwa [same.channel, same.slot]⟩

theorem with_channel_state (c next : TcpConnection) (result : Except Stop (Channel × Slot Unit))
    (done : c.withChannel result = .ok next) : next.state = c.state := by
  obtain ⟨channel, slot, rfl⟩ := with_channel_inversion c next result done
  rfl

theorem update_mirrored (c next : TcpConnection) (mask : EventMask)
    (done : c.withChannel (EpollPoller.updateChannel () { c.channel with events := mask } c.slot) = .ok next) :
    Mirrored c next := by
  refine ⟨with_channel_state c next _ done, fun mirrors => ?_⟩
  obtain ⟨channel, slot, update, after, -⟩ := update_mirrors () c.channel c.slot mask mirrors
  simp only [withChannel, update, Except.ok.injEq] at done
  exact done ▸ after

theorem buffer_remaining_mirrored (c next : TcpConnection) (rest : CppString) (notices queued : List Notice)
    (done : c.bufferRemaining rest notices = .ok (next, queued)) : Mirrored c next := by
  cases buffer_remaining_buffers c next rest notices queued done with
  | nothing empty same => exact same ▸ mirrored_refl c
  | appends buffer some appended turned =>
      rcases turned with ⟨-, rfl⟩ | ⟨-, turned⟩
      · exact ⟨rfl, fun mirrors => mirrors⟩
      · have kept := update_mirrored { c with outputBuffer := buffer } next _ turned
        exact ⟨kept.state, kept.mirrors⟩

theorem send_in_loop_mirrored (c next : TcpConnection) (data : CppString) (result : WriteResult) (queued : List Notice)
    (done : c.sendInLoop data result = .ok (next, queued)) : Mirrored c next := by
  cases send_in_loop_sends c next data result queued done with
  | refused _ closing same => exact same ▸ mirrored_refl c
  | broken errno accepted direct fault same => exact same ▸ mirrored_refl c
  | writes count accepted direct rest =>
      have kept := buffer_remaining_mirrored _ next _ _ queued rest
      exact ⟨kept.state, kept.mirrors⟩
  | waits _ accepted behind rest => exact buffer_remaining_mirrored c next data [] queued rest

theorem handle_write_mirrored (c next : TcpConnection) (result : WriteResult) (queued : List Notice)
    (done : c.handleWrite result = .ok (next, queued)) : Mirrored c next := by
  cases handle_write_writes c next result queued done with
  | nothing => exact mirrored_refl c
  | partly out => exact ⟨rfl, fun mirrors => mirrors⟩
  | fully out quiet disabled =>
      have kept := update_mirrored (c.flushed out) quiet _ disabled
      by_cases closing : quiet.state = .kDisconnecting
      · rw [if_pos closing]
        have same := quiet.shutdown_in_loop_same.1
        exact ⟨same.state.trans kept.state, fun mirrors => by
          rw [same.channel, same.slot]
          exact kept.mirrors mirrors⟩
      · rw [if_neg closing]
        exact ⟨kept.state, kept.mirrors⟩

theorem disable_all_mirrored (c next : TcpConnection) (done : c.disableAll = .ok next) : Mirrored c next :=
  update_mirrored c next KNoneEvent done

theorem disable_all_events (c next : TcpConnection) (mirrors : Mirrors () c.channel c.slot)
    (done : c.disableAll = .ok next) : next.channel.events = KNoneEvent := by
  obtain ⟨channel, slot, update, -, events⟩ := update_mirrors () c.channel c.slot KNoneEvent mirrors
  simp only [disableAll, Channel.disableAll, update, withChannel, Except.ok.injEq] at done
  exact done ▸ events

theorem connect_established_state (c next : TcpConnection) (up : c.connectEstablished = .ok next) :
    next.state = .kConnected :=
  (update_mirrored { c.setState .kConnected with channel := { c.channel with tied := true } } next _ up).state

end Cmuduo.Net.TcpConnection
