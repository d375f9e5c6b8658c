import Cmuduo.Net.OutputStream
import Cmuduo.Net.ScatterRead
import Cmuduo.Net.WriteInterest

set_option autoImplicit false

namespace Cmuduo.Net.TcpConnection

-- send, in the loop thread of the connection.
def send (c : TcpConnection) (buf : CppString) (result : WriteResult) : Except Stop (TcpConnection × List Notice) :=
  if c.state = .kConnected then c.sendInLoop buf result else .ok (c, [])

theorem send_connected (c : TcpConnection) (buf : CppString) (result : WriteResult) (connected : c.state = .kConnected) :
    c.send buf result = c.sendInLoop buf result := if_pos connected

theorem send_ignored (c : TcpConnection) (buf : CppString) (result : WriteResult) (down : c.state ≠ .kConnected) :
    c.send buf result = .ok (c, []) := if_neg down

-- shutdown, in the loop thread of the connection: runInLoop makes the call at once.
def shutdown (c : TcpConnection) : TcpConnection :=
  if c.state = .kConnected then (c.setState .kDisconnecting).shutdownInLoop else c

-- handleClose and connectDestroyed without the callbacks they make.
def handleClose (c : TcpConnection) : Except Stop TcpConnection := (c.setState .kDisconnected).disableAll

def connectDestroyed (c : TcpConnection) : Except Stop TcpConnection :=
  match if c.state = .kConnected then c.handleClose else .ok c with
  | .error stop => .error stop
  | .ok c => c.channelRemove

structure SameStreams (c next : TcpConnection) : Prop where
  inputBuffer : next.inputBuffer = c.inputBuffer
  outputBuffer : next.outputBuffer = c.outputBuffer
  wire : next.wire = c.wire

theorem SameStreams.trans {c middle next : TcpConnection} (first : SameStreams c middle) (second : SameStreams middle next) :
    SameStreams c next :=
  ⟨second.inputBuffer.trans first.inputBuffer, second.outputBuffer.trans first.outputBuffer,
    second.wire.trans first.wire⟩

theorem with_channel_streams (c next : TcpConnection) (result : Except Stop (Channel × Slot Unit))
    (done : c.withChannel result = .ok next) : SameStreams c next := by
  obtain ⟨channel, slot, rfl⟩ := with_channel_inversion c next result done
  exact ⟨rfl, rfl, rfl⟩

theorem shutdown_in_loop_streams (c : TcpConnection) : SameStreams c c.shutdownInLoop := by
  rw [shutdownInLoop]
  split <;> exact ⟨rfl, rfl, rfl⟩

theorem buffer_remaining_input (c next : TcpConnection) (rest : CppString) (notices queued : List Notice)
    (done : c.bufferRemaining rest notices = .ok (next, queued)) : next.inputBuffer = c.inputBuffer := by
  cases buffer_remaining_buffers c next rest notices queued done with
  | nothing empty same => rw [same]
  | appends buffer some appended turned =>
      rcases turned with ⟨-, rfl⟩ | ⟨-, turned⟩
      · rfl
      · exact (with_channel_streams { c with outputBuffer := buffer } next _ turned).inputBuffer

theorem send_in_loop_input (c next : TcpConnection) (data : CppString) (result : WriteResult) (queued : List Notice)
    (done : c.sendInLoop data result = .ok (next, queued)) : next.inputBuffer = c.inputBuffer := by
  cases send_in_loop_sends c next data result queued done with
  | refused _ closing same => rw [same]
  | broken errno accepted direct fault same => rw [same]
  | writes count accepted direct rest =>
      exact (c.wrote (data.bytes.take count)).buffer_remaining_input next _ _ queued rest
  | waits _ accepted behind rest => exact buffer_remaining_input c next data [] queued rest

theorem handle_write_input (c next : TcpConnection) (result : WriteResult) (queued : List Notice)
    (done : c.handleWrite result = .ok (next, queued)) : next.inputBuffer = c.inputBuffer := by
  cases handle_write_writes c next result queued done with
  | nothing => rfl
  | partly out => rfl
  | fully out quiet disabled =>
      have same := (with_channel_streams (c.flushed out) quiet _ disabled).inputBuffer
      split
      · exact quiet.shutdown_in_loop_streams.inputBuffer.trans same
      · exact same

-- What an accepted send leaves: it is all with the kernel or in the backlog, unless
-- the kernel rejects it.
theorem send_in_loop_exact (c next : TcpConnection) (data : CppString) (result : WriteResult) (queued : List Notice)
    (isOpen : Open c) (accepted : c.state ≠ .kDisconnecting) (done : c.sendInLoop data result = .ok (next, queued)) :
    Open next ∧ next.state = c.state ∧
      (next.wire ++ next.outputBuffer.readable = c.wire ++ c.outputBuffer.readable ++ data.bytes ↔
        ¬(data.bytes ≠ [] ∧ c.outputBuffer.readable = [] ∧ (result = .error .EPIPE ∨ result = .error .ECONNRESET))) := by
  obtain ⟨nextOpen, state⟩ := c.send_in_loop_keeps_open next data result queued isOpen done
  refine ⟨nextOpen, state, ?_⟩
  by_cases broken : result = .error .EPIPE ∨ result = .error .ECONNRESET
  · by_cases empty : c.outputBuffer.readable = []
    · have direct : (!c.channel.isWriting) = true ∧ c.outputBuffer.readableBytes = 0 :=
        ⟨by rw [(c.open_not_writing isOpen).mpr empty]; rfl, (c.outputBuffer.readable_bytes_zero isOpen.valid).mpr empty⟩
      have same : next = c := by
        have silent : c.sendInLoop data result = .ok (c, []) := by
          rcases broken with rfl | rfl <;> simp [sendInLoop, accepted, direct, kernelWrite]
        rw [silent] at done
        cases done
        rfl
      rw [same, List.self_eq_append_right]
      exact ⟨fun nothing both => both.1 nothing, fun whole => by_contra fun some => whole ⟨some, empty, broken⟩⟩
    · have waiting : c.outputBuffer.readableBytes ≠ 0 :=
        fun zero => empty ((c.outputBuffer.readable_bytes_zero isOpen.valid).mp zero)
      rw [c.send_in_loop_waits data result (.room 0) waiting] at done
      obtain ⟨-, out, extends_, bytes⟩ := c.send_in_loop_open next data (.room 0) queued isOpen accepted (by simp) done
      refine iff_of_true ?_ fun both => empty both.2.1
      rw [extends_.wire, List.append_assoc, bytes, List.append_assoc]
  · obtain ⟨-, out, extends_, bytes⟩ := c.send_in_loop_open next data result queued isOpen accepted
      (not_or.mp broken) done
    refine iff_of_true ?_ fun both => broken both.2.2
    rw [extends_.wire, List.append_assoc, bytes, List.append_assoc]

theorem buffer_remaining_fits (c : TcpConnection) (rest : CppString) (notices : List Notice) (isOpen : Open c)
    (fits : rest.bytes.length + c.outputBuffer.writeIndex ≤ maxSize) :
    ∃ next queued, c.bufferRemaining rest notices = .ok (next, queued) ∧
      next.outputBuffer.writeIndex ≤ c.outputBuffer.writeIndex + rest.bytes.length := by
  by_cases empty : rest.bytes.length = 0
  · exact ⟨c, notices, by rw [bufferRemaining, if_pos empty], Nat.le_add_right _ _⟩
  · obtain ⟨buffer, appended, index⟩ := c.outputBuffer.append_fits rest.bytes isOpen.valid fits
    simp only [bufferRemaining, if_neg empty, appended]
    cases writing : c.channel.isWriting with
    | true => exact ⟨{ c with outputBuffer := buffer }, _, rfl, index⟩
    | false =>
        have events : c.channel.events = KReadEvent := by rw [isOpen.events, if_pos ((c.open_not_writing isOpen).mp writing)]
        have armed := registered_set_mask { c with outputBuffer := buffer } (KReadEvent ||| KWriteEvent)
          isOpen.registered (by decide)
        rw [← events] at armed
        exact ⟨_, _, by simp only [enableWriting, Channel.enableWriting, armed]; rfl, index⟩

-- A send comes to its end, whatever ::write answers, if the output buffer has room for it.
theorem send_in_loop_fits (c : TcpConnection) (data : CppString) (result : WriteResult) (isOpen : Open c)
    (fits : data.bytes.length + c.outputBuffer.writeIndex ≤ maxSize) :
    ∃ next queued, c.sendInLoop data result = .ok (next, queued) ∧
      next.outputBuffer.writeIndex ≤ c.outputBuffer.writeIndex + data.bytes.length := by
  rw [sendInLoop]
  split
  · exact ⟨c, [], rfl, Nat.le_add_right _ _⟩
  · split
    · cases result with
      | room count =>
          have moved : Open (c.wrote (data.bytes.take count)) := ⟨isOpen.valid, isOpen.registered, isOpen.events⟩
          have less : (data.drop (data.bytes.take count).length).bytes.length ≤ data.bytes.length := by
            rw [CppString.drop, List.length_drop]
            exact Nat.sub_le _ _
          obtain ⟨next, queued, done, index⟩ := (c.wrote (data.bytes.take count)).buffer_remaining_fits
            (data.drop (data.bytes.take count).length) _ moved (Nat.le_trans (Nat.add_le_add_right less _) fits)
          exact ⟨next, queued, done, Nat.le_trans index (Nat.add_le_add_left less _)⟩
      | error errno =>
          simp only [kernelWrite]
          split
          · exact ⟨c, [], rfl, Nat.le_add_right _ _⟩
          · exact c.buffer_remaining_fits data [] isOpen fits
    · exact c.buffer_remaining_fits data [] isOpen fits

-- A flush moves bytes from the backlog to the wire exactly if it keeps within the
-- backlog.
theorem handle_write_exact (c next : TcpConnection) (result : WriteResult) (queued : List Notice) (isOpen : Open c)
    (done : c.handleWrite result = .ok (next, queued)) :
    Open next ∧ next.state = c.state ∧
      (next.wire ++ next.outputBuffer.readable = c.wire ++ c.outputBuffer.readable ↔ c.WithinBacklog result) := by
  obtain ⟨nextOpen, flushes⟩ := c.handle_write_open next result queued isOpen done
  refine ⟨nextOpen, flushes.state, ?_⟩
  have whole := List.take_append_drop (c.flushOut result).length c.outputBuffer.readable
  rw [flushes.wire, flushes.left, List.append_assoc, List.append_right_inj, ← c.flush_exact isOpen result]
  exact ⟨fun same => List.append_cancel_right (same.trans whole.symm), fun same => (congrArg (· ++ _) same).trans whole⟩

def withInput (c : TcpConnection) (buffer : Buffer) : TcpConnection := { c with inputBuffer := buffer }

theorem Open.with_input {c : TcpConnection} (isOpen : Open c) (buffer : Buffer) : Open (c.withInput buffer) :=
  ⟨isOpen.valid, isOpen.registered, isOpen.events⟩

-- The bytes that ::readv returns in handleRead.
def chunk (c : TcpConnection) : ReadResult → List UInt8
  | .arrived bytes => bytes.take c.inputBuffer.offeredBytes
  | .error _ => []

theorem handle_read_chunk (c next : TcpConnection) (result : ReadResult) (outcome : ReadOutcome)
    (valid : c.inputBuffer.Valid) (done : c.handleRead result = .ok (outcome, next)) :
    (outcome = .message ↔ c.chunk result ≠ []) ∧ ∃ buffer : Buffer, next = c.withInput buffer ∧
      buffer.Valid ∧ buffer.readable = c.inputBuffer.readable ++ c.chunk result := by
  cases result with
  | error errno =>
      simp only [handleRead, Buffer.readFd, kernelReadv, Except.ok.injEq, Prod.mk.injEq] at done
      obtain ⟨rfl, rfl⟩ := done
      exact ⟨by simp [chunk], c.inputBuffer, rfl, valid, (List.append_nil _).symm⟩
  | arrived bytes =>
      rcases c.inputBuffer.read_fd_arrived bytes valid with ⟨buffer, read, kept, all⟩ | ⟨thrown, -⟩
      · simp only [handleRead, read, Except.ok.injEq, Prod.mk.injEq] at done
        obtain ⟨rfl, rfl⟩ := done
        refine ⟨?_, buffer, rfl, kept, all⟩
        rw [← List.length_pos_iff, chunk]
        split
        · next some => exact iff_of_true rfl some
        · next nothing => exact iff_of_false (fun same => by cases same) nothing
      · simp [handleRead, thrown] at done

-- A connection that has been closed: it does not wait to write, and sends to it
-- are ignored.
structure Closed (c : TcpConnection) : Prop where
  state : c.state = .kDisconnected
  quiet : c.channel.isWriting = false
  mirrors : Mirrors () c.channel c.slot

theorem Closed.with_input {c : TcpConnection} (closed : Closed c) (buffer : Buffer) : Closed (c.withInput buffer) :=
  ⟨closed.state, closed.quiet, closed.mirrors⟩

theorem no_events_quiet (channel : Channel) (events : channel.events = KNoneEvent) : channel.isWriting = false := by
  rw [Channel.isWriting, events]
  decide

theorem handle_close_closes (c next : TcpConnection) (mirrors : Mirrors () c.channel c.slot)
    (done : c.handleClose = .ok next) : Closed next ∧ SameStreams c next := by
  have kept := disable_all_mirrored (c.setState .kDisconnected) next done
  have events := disable_all_events (c.setState .kDisconnected) next mirrors done
  have streams := with_channel_streams _ next _ done
  exact ⟨⟨kept.state, no_events_quiet _ events, kept.mirrors mirrors⟩, streams.inputBuffer, streams.outputBuffer,
    streams.wire⟩

theorem channel_remove_closed (c next : TcpConnection) (closed : Closed c) (done : c.channelRemove = .ok next) :
    Closed next ∧ SameStreams c next := by
  obtain ⟨absent, events, state, -⟩ := channel_remove_unregistered c next closed.mirrors done
  refine ⟨⟨state.trans closed.state, ?_, .inr absent⟩, with_channel_streams c next _ done⟩
  rw [Channel.isWriting, events]
  exact closed.quiet

theorem connect_destroyed_closes (c next : TcpConnection) (mirrors : Mirrors () c.channel c.slot)
    (settled : c.state = .kConnected ∨ Closed c) (done : c.connectDestroyed = .ok next) :
    Closed next ∧ SameStreams c next := by
  rw [connectDestroyed] at done
  by_cases connected : c.state = .kConnected
  · rw [if_pos connected] at done
    cases closing : c.handleClose with
    | error stop => simp [closing] at done
    | ok middle =>
        simp only [closing] at done
        obtain ⟨closed, same⟩ := c.handle_close_closes middle mirrors closing
        obtain ⟨after, streams⟩ := middle.channel_remove_closed next closed done
        exact ⟨after, same.trans streams⟩
  · rw [if_neg connected] at done
    exact c.channel_remove_closed next (settled.resolve_left connected) done

end Cmuduo.Net.TcpConnection
