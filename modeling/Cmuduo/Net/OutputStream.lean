import Cmuduo.Lib.Machine
import Cmuduo.Net.OpenConnection

set_option autoImplicit false

namespace Cmuduo.Net

open Machine Region

namespace TcpConnection

-- The kernel takes no more of a flush than there is backlog.
def WithinBacklog (c : TcpConnection) : WriteResult → Prop
  | .room count => c.channel.isWriting = true → min count c.outputBuffer.writableBytes ≤ c.outputBuffer.readableBytes
  | .error _ => True

instance (c : TcpConnection) : (result : WriteResult) → Decidable (c.WithinBacklog result)
  | .room count => inferInstanceAs (Decidable (c.channel.isWriting = true →
      min count c.outputBuffer.writableBytes ≤ c.outputBuffer.readableBytes))
  | .error _ => .isTrue trivial

theorem offered_length (c : TcpConnection) (isOpen : Open c) : c.offered.length = c.outputBuffer.writableBytes := by
  have writable := c.outputBuffer.writable_bytes_exact isOpen.valid
  have ordered := isOpen.valid.ordered
  have inside := isOpen.valid.inside
  rw [offered, slice_length _ _ _ (by omega), Nat.add_sub_cancel_left]

theorem offered_within (c : TcpConnection) (isOpen : Open c) (count : Nat)
    (short : count ≤ c.outputBuffer.writableBytes) (within : count ≤ c.outputBuffer.readableBytes) :
    c.offered.take count = c.outputBuffer.readable.take count := by
  have readable := c.outputBuffer.readable_bytes_exact isOpen.valid
  have ordered := isOpen.valid.ordered
  rw [offered, Buffer.readable, slice_take _ _ _ _ (by omega), slice_take _ _ _ _ (by omega)]

theorem flush_exact (c : TcpConnection) (isOpen : Open c) (result : WriteResult) :
    c.flushOut result = c.outputBuffer.readable.take (c.flushOut result).length ↔ c.WithinBacklog result := by
  cases result with
  | error errno =>
      have nothing : c.flushOut (.error errno) = [] := by
        cases writing : c.channel.isWriting <;> simp [flushOut, writing, kernelWrite]
      rw [nothing]
      exact ⟨fun _ => trivial, fun _ => rfl⟩
  | room count =>
      cases writing : c.channel.isWriting with
      | false => simp [flushOut, WithinBacklog, writing]
      | true =>
          have out : c.flushOut (.room count) = c.offered.take (min count c.outputBuffer.writableBytes) := by
            rw [← offered_length c isOpen, ← List.take_eq_take_min]
            simp [flushOut, writing, kernelWrite]
          have length : (c.flushOut (.room count)).length = min count c.outputBuffer.writableBytes := by
            rw [out, List.length_take, offered_length c isOpen, Nat.min_eq_left (Nat.min_le_right _ _)]
          rw [length]
          constructor
          · intro same _
            have shorter := congrArg List.length same
            rw [length, List.length_take, c.outputBuffer.readable_length isOpen.valid] at shorter
            omega
          · intro within
            rw [out]
            exact offered_within c isOpen _ (Nat.min_le_right _ _) (within writing)

end TcpConnection

-- A connection with, as a ghost, the concatenation of the data of all sends
-- that were not refused.
structure OutputStream where
  conn : TcpConnection
  sent : List UInt8

inductive StreamLabel where
  | sendInLoop (data : CppString) (result : WriteResult)
  | handleWrite (result : WriteResult)
  | shutdown
  | shutdownInLoop

namespace OutputStream

def step (s : OutputStream) : StreamLabel → Option OutputStream
  | .sendInLoop data result =>
      match s.conn.sendInLoop data result with
      | .ok (conn, _) => some ⟨conn, if s.conn.state = .kDisconnecting then s.sent else s.sent ++ data.bytes⟩
      | .error _ => none
  | .handleWrite result =>
      match s.conn.handleWrite result with
      | .ok (conn, _) => some ⟨conn, s.sent⟩
      | .error _ => none
  -- the test and the store of shutdown(); the task it queues is the next label
  | .shutdown => some ⟨if s.conn.state = .kConnected then s.conn.setState .kDisconnecting else s.conn, s.sent⟩
  | .shutdownInLoop => some ⟨s.conn.shutdownInLoop, s.sent⟩

def Intact (s : OutputStream) : Prop := s.conn.wire ++ s.conn.outputBuffer.readable = s.sent

-- ::write fails with EWOULDBLOCK only.
def Benign : StreamLabel → Prop
  | .sendInLoop _ (.error errno) => errno = .EWOULDBLOCK
  | .handleWrite (.error errno) => errno = .EWOULDBLOCK
  | _ => True

instance (label : StreamLabel) : Decidable (Benign label) := by
  rcases label with ⟨_, _ | _⟩ | ⟨_ | _⟩ | _ | _ <;> unfold Benign <;> infer_instance

def FlushesWithinBacklog (s : OutputStream) : StreamLabel → Prop
  | .handleWrite result => s.conn.WithinBacklog result
  | _ => True

-- The invariant that holds in every run, whatever a flush offers: taken is the
-- part of the stream that has left the output buffer.
structure Inv (s : OutputStream) : Prop where
  isOpen : s.conn.Open
  taken : s.conn.taken ++ s.conn.outputBuffer.readable = s.sent

theorem intact_iff_wire (s : OutputStream) (inv : Inv s) : s.Intact ↔ s.conn.wire = s.conn.taken := by
  rw [Intact, ← inv.taken, List.append_left_inj]

theorem send_benign (data : CppString) (result : WriteResult) (benign : Benign (.sendInLoop data result)) :
    result ≠ .error .EPIPE ∧ result ≠ .error .ECONNRESET := by
  constructor
  · rintro rfl
    cases benign
  · rintro rfl
    cases benign

-- One step: the invariant survives, and the kernel's bytes stay the stream's
-- bytes exactly if a flush kept within the backlog.
theorem step_exact (s t : OutputStream) (label : StreamLabel) (inv : Inv s) (benign : Benign label)
    (fine : s.conn.wire = s.conn.taken) (taken : s.step label = some t) :
    Inv t ∧ (t.conn.wire = t.conn.taken ↔ s.FlushesWithinBacklog label) := by
  cases label with
  | sendInLoop data result =>
      simp only [step] at taken
      cases done : s.conn.sendInLoop data result with
      | error stop => simp [done] at taken
      | ok pair =>
          obtain ⟨conn, queued⟩ := pair
          simp only [done, Option.some.injEq] at taken
          by_cases refused : s.conn.state = .kDisconnecting
          · have same := s.conn.send_in_loop_refused conn data result queued refused done
            rw [if_pos refused, same] at taken
            cases taken
            exact ⟨inv, iff_of_true fine trivial⟩
          · obtain ⟨isOpen, out, extends_, bytes⟩ := s.conn.send_in_loop_open conn data result queued inv.isOpen refused
              (send_benign data result benign) done
            rw [if_neg refused] at taken
            cases taken
            refine ⟨⟨isOpen, ?_⟩, iff_of_true ?_ trivial⟩
            · rw [extends_.taken, List.append_assoc, bytes, ← List.append_assoc, inv.taken]
            · rw [extends_.wire, extends_.taken, fine]
  | handleWrite result =>
      simp only [step] at taken
      cases done : s.conn.handleWrite result with
      | error stop => simp [done] at taken
      | ok pair =>
          obtain ⟨conn, queued⟩ := pair
          simp only [done, Option.some.injEq] at taken
          cases taken
          obtain ⟨isOpen, flushes⟩ := s.conn.handle_write_open conn result queued inv.isOpen done
          refine ⟨⟨isOpen, ?_⟩, ?_⟩
          · rw [flushes.taken, flushes.left, List.append_assoc, List.take_append_drop, inv.taken]
          · rw [flushes.wire, flushes.taken, fine, List.append_right_inj]
            exact s.conn.flush_exact inv.isOpen result
  | shutdown =>
      cases taken
      by_cases connected : s.conn.state = .kConnected
      · rw [if_pos connected]
        exact ⟨⟨⟨inv.isOpen.valid, inv.isOpen.registered, inv.isOpen.events⟩, inv.taken⟩, iff_of_true fine trivial⟩
      · rw [if_neg connected]
        exact ⟨inv, iff_of_true fine trivial⟩
  | shutdownInLoop =>
      cases taken
      cases writing : s.conn.channel.isWriting with
      | true =>
          simp only [TcpConnection.shutdownInLoop, writing, if_true]
          exact ⟨inv, iff_of_true fine trivial⟩
      | false =>
          simp only [TcpConnection.shutdownInLoop, writing, Bool.false_eq_true, if_false]
          exact ⟨⟨⟨inv.isOpen.valid, inv.isOpen.registered, inv.isOpen.events⟩, inv.taken⟩, iff_of_true fine trivial⟩

instance (s : OutputStream) : Decidable s.Intact := inferInstanceAs (Decidable (_ = _))

instance (s : OutputStream) (label : StreamLabel) : Decidable (s.FlushesWithinBacklog label) := by
  unfold FlushesWithinBacklog
  split <;> infer_instance

theorem established_inv (sockfd : Nat) (writeComplete highWater : Bool) (mark : Nat) (c : TcpConnection)
    (up : (TcpConnection.new sockfd writeComplete highWater mark).connectEstablished = .ok c) :
    Inv ⟨c, []⟩ ∧ Intact ⟨c, []⟩ := by
  rw [TcpConnection.new_connect_established] at up
  cases up
  have isOpen := TcpConnection.established_open sockfd writeComplete highWater mark
  have empty : (TcpConnection.established sockfd writeComplete highWater mark).outputBuffer.readable = [] :=
    Buffer.new_readable kInitiaSize
  exact ⟨⟨isOpen, empty⟩, empty⟩

end OutputStream

theorem outgoing_stream_exact (sockfd : Nat) (writeComplete highWater : Bool) (mark : Nat) (c : TcpConnection)
    (labels : List StreamLabel) (final : OutputStream)
    (up : (TcpConnection.new sockfd writeComplete highWater mark).connectEstablished = .ok c)
    (benign : ∀ label ∈ labels, OutputStream.Benign label)
    (ran : run OutputStream.step ⟨c, []⟩ labels = some final) :
    Always OutputStream.step OutputStream.Intact ⟨c, []⟩ labels ↔
      Guarded OutputStream.step OutputStream.FlushesWithinBacklog ⟨c, []⟩ labels := by
  obtain ⟨inv, intact⟩ := OutputStream.established_inv sockfd writeComplete highWater mark c up
  apply always_iff_guarded OutputStream.step _ OutputStream.Benign OutputStream.Inv OutputStream.Intact _ _ final labels
    inv intact benign ran
  intro s label t inv fine harmless taken
  obtain ⟨nextInv, exactly⟩ := OutputStream.step_exact s t label inv harmless
    ((OutputStream.intact_iff_wire s inv).mp fine) taken
  exact ⟨nextInv, (OutputStream.intact_iff_wire t nextInv).trans exactly⟩

-- Two bytes of which the kernel takes one at once and one in a flush.
def partialSend : List StreamLabel :=
  [.sendInLoop (.ofBytes [65, 66]) (.room 1), .handleWrite (.room 1)]

theorem outgoing_stream_exact_partial :
    Always OutputStream.step OutputStream.Intact ⟨TcpConnection.established 5 false false 0, []⟩ partialSend := by
  have finished : (run OutputStream.step ⟨TcpConnection.established 5 false false 0, []⟩ partialSend).isSome := by
    decide +kernel
  obtain ⟨final, ran⟩ := Option.isSome_iff_exists.mp finished
  exact (outgoing_stream_exact 5 false false 0 _ partialSend final
    (TcpConnection.new_connect_established 5 false false 0) (by decide) ran).mpr (by decide +kernel)

-- One byte that would block, then a flush for which the kernel has room for
-- two: the offer is 1023 bytes long, and a zero byte follows the caller's byte.
def overlongFlush : List StreamLabel :=
  [.sendInLoop (.ofBytes [65]) (.error .EWOULDBLOCK), .handleWrite (.room 2)]

theorem outgoing_stream_corrupted :
    (∀ label ∈ overlongFlush, OutputStream.Benign label) ∧
    (run OutputStream.step ⟨TcpConnection.established 5 false false 0, []⟩ overlongFlush).map
      (fun s => (s.conn.wire, s.conn.outputBuffer.readable, s.sent)) = some ([65, 0], [], [65]) ∧
    ¬Always OutputStream.step OutputStream.Intact ⟨TcpConnection.established 5 false false 0, []⟩ overlongFlush := by
  refine ⟨by decide, by decide +kernel, by decide +kernel⟩

end Cmuduo.Net
