import Cmuduo.Net.InLoopCalls

set_option autoImplicit false

namespace Cmuduo.Example

open Cmuduo.Net Machine

namespace EchoServer

def onMessage (conn : TcpConnection) (result : WriteResult) : Except Stop (TcpConnection × List Notice) :=
  match conn.inputBuffer.retrieveAllAsString with
  | .error stop => .error stop
  | .ok (msg, buffer) => (conn.withInput buffer).send (.ofBytes msg) result

end EchoServer

-- A connection of the echo server with, as a ghost, all that it has read while
-- it was kConnected. No other callback is set.
structure Echo where
  conn : TcpConnection
  received : List UInt8

-- The handlers of the connection, in any order. result answers the ::readv of a
-- handleRead and written the ::write of the send inside its message callback.
inductive EchoLabel where
  | handleRead (result : ReadResult) (written : WriteResult)
  | handleWrite (result : WriteResult)
  | handleClose
  | handleError
  | connectDestroyed

namespace Echo

def closes (s : Echo) : Except Stop TcpConnection → Option Echo
  | .ok conn => some ⟨conn, s.received⟩
  | .error _ => none

def step (s : Echo) : EchoLabel → Option Echo
  | .handleRead result written =>
      match s.conn.handleRead result with
      | .error _ => none
      | .ok (.error, conn) => some ⟨conn, s.received⟩
      | .ok (.close, conn) => s.closes conn.handleClose
      | .ok (.message, conn) =>
          match EchoServer.onMessage conn written with
          | .error _ => none
          | .ok (conn, _) => some ⟨conn, if s.conn.connected then s.received ++ s.conn.chunk result else s.received⟩
  | .handleWrite result =>
      match s.conn.handleWrite result with
      | .error _ => none
      | .ok (conn, _) => some ⟨conn, s.received⟩
  | .handleClose => s.closes s.conn.handleClose
  | .handleError => some s
  | .connectDestroyed => s.closes s.conn.connectDestroyed

-- What has been read is on the wire or waits behind it, and nothing waits in the
-- input buffer.
def Echoed (s : Echo) : Prop :=
  s.conn.wire ++ s.conn.outputBuffer.readable = s.received ∧ s.conn.inputBuffer.readable = []

-- The send inside a message callback goes straight to a ::write that fails on a
-- broken connection.
def Breaks (s : Echo) (result : ReadResult) (written : WriteResult) : Prop :=
  s.conn.state = .kConnected ∧ s.conn.chunk result ≠ [] ∧ s.conn.outputBuffer.readable = [] ∧
    (written = .error .EPIPE ∨ written = .error .ECONNRESET)

def Delivers (s : Echo) : EchoLabel → Prop
  | .handleRead result written => ¬s.Breaks result written
  | .handleWrite result => s.conn.WithinBacklog result
  | _ => True

instance (s : Echo) : Decidable s.Echoed := inferInstanceAs (Decidable (_ ∧ _))

instance (s : Echo) (result : ReadResult) (written : WriteResult) : Decidable (s.Breaks result written) :=
  inferInstanceAs (Decidable (_ ∧ _))

instance (s : Echo) : (label : EchoLabel) → Decidable (s.Delivers label)
  | .handleRead result written => inferInstanceAs (Decidable (¬s.Breaks result written))
  | .handleWrite result => inferInstanceAs (Decidable (s.conn.WithinBacklog result))
  | .handleClose | .handleError | .connectDestroyed => .isTrue trivial

structure Inv (s : Echo) : Prop where
  input : s.conn.inputBuffer.Valid
  drained : s.conn.inputBuffer.readable = []
  phase : s.conn.state = .kConnected ∧ s.conn.Open ∨ s.conn.Closed

theorem inv_mirrors (s : Echo) (inv : Inv s) : Mirrors () s.conn.channel s.conn.slot := by
  rcases inv.phase with ⟨-, isOpen⟩ | closed
  · exact .inl isOpen.registered
  · exact closed.mirrors

theorem inv_settled (s : Echo) (inv : Inv s) : s.conn.state = .kConnected ∨ s.conn.Closed :=
  inv.phase.imp_left And.left

-- A close leaves the streams as they are.
theorem closed_echo (s t : Echo) (next : TcpConnection) (inv : Inv s) (closed : next.Closed)
    (same : s.conn.SameStreams next) (after : t = ⟨next, s.received⟩) : Inv t ∧ (Echoed t ↔ Echoed s) := by
  subst after
  refine ⟨⟨?_, ?_, .inr closed⟩, ?_⟩
  · rw [same.inputBuffer]
    exact inv.input
  · rw [same.inputBuffer]
    exact inv.drained
  · simp only [Echoed, same.inputBuffer, same.outputBuffer, same.wire]

theorem retrieve_all_ok (b : Buffer) (valid : b.Valid) :
    b.retrieveAllAsString = .ok (b.readable, b.retrieve b.readableBytes) := by
  have taken := b.retrieve_as_string_ok _ valid (Nat.le_refl _)
  rwa [← b.readable_length valid, List.take_length, b.readable_length valid] at taken

-- onMessage takes the input buffer whole and sends it.
theorem on_message_sends (conn : TcpConnection) (written : WriteResult) (valid : conn.inputBuffer.Valid) :
    EchoServer.onMessage conn written =
      (conn.withInput (conn.inputBuffer.retrieve conn.inputBuffer.readableBytes)).send
        (.ofBytes conn.inputBuffer.readable) written := by
  rw [EchoServer.onMessage, retrieve_all_ok _ valid]

theorem whole_string (b : Buffer) (valid : b.Valid) : (CppString.ofBytes b.readable).bytes = b.readable := by
  apply List.take_of_length_le
  rw [b.readable_length valid, b.readable_bytes_exact valid]
  exact Nat.le_trans (Nat.sub_le _ _) (Nat.le_trans valid.inside valid.bounded)

theorem retrieved_drained (b : Buffer) (valid : b.Valid) :
    (b.retrieve b.readableBytes).Valid ∧ (b.retrieve b.readableBytes).readable = [] := by
  refine ⟨b.retrieve_valid _ valid, ?_⟩
  rw [b.retrieve_readable _ valid, ← b.readable_length valid, List.drop_length]

theorem close_exact (s t : Echo) (inv : Inv s) (taken : s.closes s.conn.handleClose = some t) :
    Inv t ∧ (Echoed t ↔ Echoed s) := by
  cases done : s.conn.handleClose with
  | error stop => simp [closes, done] at taken
  | ok next =>
      simp only [closes, done, Option.some.injEq] at taken
      obtain ⟨closed, streams⟩ := s.conn.handle_close_closes next (s.inv_mirrors inv) done
      exact s.closed_echo t next inv closed streams taken.symm

theorem with_input_exact (s : Echo) (buffer : Buffer) (inv : Inv s) (valid : buffer.Valid)
    (drained : buffer.readable = []) :
    Inv ⟨s.conn.withInput buffer, s.received⟩ ∧ (Echoed ⟨s.conn.withInput buffer, s.received⟩ ↔ Echoed s) := by
  refine ⟨⟨valid, drained, ?_⟩, and_congr_right fun _ => iff_of_true drained inv.drained⟩
  exact inv.phase.imp (fun up => ⟨up.1, up.2.with_input buffer⟩) fun closed => closed.with_input buffer

-- The message callback of a connection that is up echoes what has been read; on
-- one that is closed it drops it.
theorem message_exact (s : Echo) (buffer : Buffer) (next : TcpConnection) (result : ReadResult) (written : WriteResult)
    (queued : List Notice) (inv : Inv s) (echoed : Echoed s) (valid : buffer.Valid)
    (bytes : buffer.readable = s.conn.chunk result)
    (done : EchoServer.onMessage (s.conn.withInput buffer) written = .ok (next, queued)) :
    Inv ⟨next, if s.conn.connected then s.received ++ s.conn.chunk result else s.received⟩ ∧
      (Echoed ⟨next, if s.conn.connected then s.received ++ s.conn.chunk result else s.received⟩ ↔
        ¬s.Breaks result written) := by
  obtain ⟨after, drained⟩ := retrieved_drained buffer valid
  have sent := (on_message_sends (s.conn.withInput buffer) written valid).symm.trans done
  change (s.conn.withInput (buffer.retrieve buffer.readableBytes)).send (.ofBytes buffer.readable) written = _ at sent
  rcases inv.phase with ⟨connected, isOpen⟩ | closed
  · have same : (s.conn.withInput (buffer.retrieve buffer.readableBytes)).state = .kConnected := connected
    rw [TcpConnection.send_connected _ _ _ same] at sent
    have input : next.inputBuffer = buffer.retrieve buffer.readableBytes :=
      TcpConnection.send_in_loop_input _ next _ written queued sent
    obtain ⟨nextOpen, state, exactly⟩ := TcpConnection.send_in_loop_exact _ next _ written queued
      (isOpen.with_input (buffer.retrieve buffer.readableBytes)) (by simp [same]) sent
    rw [whole_string buffer valid, bytes] at exactly
    have up : s.conn.connected = true := by simp [TcpConnection.connected, connected]
    rw [if_pos up]
    refine ⟨⟨by rwa [input], by rwa [input], .inl ⟨state.trans same, nextOpen⟩⟩, ?_⟩
    rw [Echoed, input, ← echoed.1, Breaks, and_iff_left drained, and_iff_right connected]
    exact exactly
  · have down : s.conn.state ≠ .kConnected := by simp [closed.state]
    have same : (s.conn.withInput (buffer.retrieve buffer.readableBytes)).state ≠ .kConnected := down
    rw [TcpConnection.send_ignored _ _ _ same] at sent
    cases sent
    obtain ⟨kept, same⟩ := s.with_input_exact _ inv after drained
    rw [if_neg (by simpa [TcpConnection.connected] using down)]
    exact ⟨kept, iff_of_true (same.mpr echoed) fun breaks => down breaks.1⟩

theorem read_exact (s t : Echo) (result : ReadResult) (written : WriteResult) (inv : Inv s) (echoed : Echoed s)
    (taken : s.step (.handleRead result written) = some t) : Inv t ∧ (Echoed t ↔ ¬s.Breaks result written) := by
  simp only [step] at taken
  cases read : s.conn.handleRead result with
  | error stop => simp [read] at taken
  | ok pair =>
      obtain ⟨outcome, conn⟩ := pair
      obtain ⟨message, buffer, rfl, valid, bytes⟩ := s.conn.handle_read_chunk conn result outcome inv.input read
      rw [inv.drained, List.nil_append] at bytes
      by_cases some : s.conn.chunk result = []
      · -- nothing has arrived: an error, or the end of the stream
        obtain ⟨kept, same⟩ := s.with_input_exact buffer inv valid (bytes.trans some)
        have fine : ¬s.Breaks result written := fun breaks => breaks.2.1 some
        cases outcome with
        | message => exact absurd some (message.mp rfl)
        | error =>
            simp only [read, Option.some.injEq] at taken
            exact taken ▸ ⟨kept, iff_of_true (same.mpr echoed) fine⟩
        | close =>
            simp only [read] at taken
            obtain ⟨closed, exactly⟩ := close_exact ⟨s.conn.withInput buffer, s.received⟩ t kept taken
            exact ⟨closed, iff_of_true (exactly.mpr (same.mpr echoed)) fine⟩
      · obtain rfl := message.mpr some
        simp only [read] at taken
        cases done : EchoServer.onMessage (s.conn.withInput buffer) written with
        | error stop => simp [done] at taken
        | ok pair =>
            obtain ⟨next, queued⟩ := pair
            simp only [done, Option.some.injEq] at taken
            exact taken ▸ s.message_exact buffer next result written queued inv echoed valid bytes done

theorem flush_exact (s t : Echo) (result : WriteResult) (inv : Inv s) (echoed : Echoed s)
    (taken : s.step (.handleWrite result) = some t) : Inv t ∧ (Echoed t ↔ s.conn.WithinBacklog result) := by
  simp only [step] at taken
  cases done : s.conn.handleWrite result with
  | error stop => simp [done] at taken
  | ok pair =>
      obtain ⟨next, queued⟩ := pair
      simp only [done, Option.some.injEq] at taken
      subst taken
      have input := s.conn.handle_write_input next result queued done
      rcases inv.phase with ⟨connected, isOpen⟩ | closed
      · obtain ⟨nextOpen, state, exactly⟩ := s.conn.handle_write_exact next result queued isOpen done
        refine ⟨⟨?_, ?_, .inl ⟨state.trans connected, nextOpen⟩⟩, ?_⟩
        · rw [input]
          exact inv.input
        · rw [input]
          exact inv.drained
        · rw [Echoed, input, ← echoed.1, and_iff_left inv.drained]
          exact exactly
      · obtain rfl := s.conn.handle_write_quiet next result queued closed.quiet done
        refine ⟨inv, iff_of_true echoed ?_⟩
        cases result with
        | room count => exact fun writing => by simp [closed.quiet] at writing
        | error errno => trivial

theorem step_exact (s t : Echo) (label : EchoLabel) (inv : Inv s) (echoed : Echoed s) (taken : s.step label = some t) :
    Inv t ∧ (Echoed t ↔ s.Delivers label) := by
  cases label with
  | handleRead result written => exact s.read_exact t result written inv echoed taken
  | handleWrite result => exact s.flush_exact t result inv echoed taken
  | handleClose =>
      obtain ⟨kept, same⟩ := s.close_exact t inv taken
      exact ⟨kept, iff_of_true (same.mpr echoed) trivial⟩
  | handleError =>
      cases taken
      exact ⟨inv, iff_of_true echoed trivial⟩
  | connectDestroyed =>
      simp only [step] at taken
      cases done : s.conn.connectDestroyed with
      | error stop => simp [closes, done] at taken
      | ok next =>
          simp only [closes, done, Option.some.injEq] at taken
          obtain ⟨closed, streams⟩ := s.conn.connect_destroyed_closes next (s.inv_mirrors inv) (s.inv_settled inv) done
          obtain ⟨kept, same⟩ := s.closed_echo t next inv closed streams taken.symm
          exact ⟨kept, iff_of_true (same.mpr echoed) trivial⟩

end Echo

-- Each client gets back what it has sent, byte for byte, as long as its flushes
-- keep within the backlog and no direct write fails on a broken connection.
theorem echo_exact (sockfd mark : Nat) (c : TcpConnection) (labels : List EchoLabel) (final : Echo)
    (up : (TcpConnection.new sockfd false false mark).connectEstablished = .ok c)
    (ran : run Echo.step ⟨c, []⟩ labels = some final) :
    Always Echo.step Echo.Echoed ⟨c, []⟩ labels ↔ Guarded Echo.step Echo.Delivers ⟨c, []⟩ labels := by
  rw [TcpConnection.new_connect_established] at up
  cases up
  have empty := Buffer.new_readable kInitiaSize
  refine always_iff_guarded Echo.step Echo.Delivers (fun _ => True) Echo.Inv Echo.Echoed
    (fun s label t inv echoed _ taken => s.step_exact t label inv echoed taken) _ final labels ?_ ⟨empty, empty⟩
    (fun _ _ => trivial) ran
  exact ⟨Buffer.new_valid kInitiaSize, empty, .inl ⟨rfl, TcpConnection.established_open sockfd false false mark⟩⟩

-- Three bytes come in, of which two go out at once; one more comes in behind the
-- backlog, a flush takes both, and the client closes its end.
def echoesAndCloses : List EchoLabel :=
  [.handleRead (.arrived [65, 66, 67]) (.room 2), .handleRead (.arrived [68]) (.room 0), .handleWrite (.room 2),
    .handleRead (.arrived []) (.room 0), .connectDestroyed]

theorem echo_exact_closed :
    ∃ final, run Echo.step ⟨TcpConnection.established 5 false false 0, []⟩ echoesAndCloses = some final ∧
      final.conn.wire = [65, 66, 67, 68] ∧
      Always Echo.step Echo.Echoed ⟨TcpConnection.established 5 false false 0, []⟩ echoesAndCloses := by
  have wire : (run Echo.step ⟨TcpConnection.established 5 false false 0, []⟩ echoesAndCloses).map
      (fun s => s.conn.wire) = some [65, 66, 67, 68] := by decide +kernel
  obtain ⟨final, ran, same⟩ := Option.map_eq_some_iff.mp wire
  exact ⟨final, ran, same, (echo_exact 5 0 _ echoesAndCloses final (TcpConnection.new_connect_established 5 false false 0)
    ran).mpr (by decide +kernel)⟩

end Cmuduo.Example
