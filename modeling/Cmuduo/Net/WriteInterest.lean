import Cmuduo.Lib.Machine
import Cmuduo.Net.ClosedConnection

set_option autoImplicit false

namespace Cmuduo.Net

open Machine

-- A connection between connectEstablished and its close, with what its last
-- step did: the notices it queued and, as shutWr is cleared before every step,
-- whether it issued ::shutdown(SHUT_WR).
structure Established where
  conn : TcpConnection
  queued : List Notice

-- Code run by a callback inside handleRead or connectEstablished is the label
-- after it. A zero read ends in handleClose and is not one of these steps.
inductive ConnectionLabel where
  | sendInLoop (data : CppString) (result : WriteResult)
  | handleRead (result : ReadResult)
  | handleWrite (result : WriteResult)
  | shutdown
  | shutdownInLoop

def ConnectionLabel.isSend : ConnectionLabel → Bool
  | .sendInLoop _ _ => true
  | _ => false

namespace TcpConnection

-- All that bufferRemaining can change, and the notices it leaves: its test is
-- strict on both sides of the mark, and adding nothing never passes it.
theorem buffer_remaining_inversion (c next : TcpConnection) (rest : CppString) (notices queued : List Notice)
    (done : c.bufferRemaining rest notices = .ok (next, queued)) :
    (∃ channel slot buffer, next = { c with channel := channel, slot := slot, outputBuffer := buffer }) ∧
    queued =
      if sizeAdd c.outputBuffer.readableBytes rest.bytes.length > c.highWaterMark ∧
          c.outputBuffer.readableBytes < c.highWaterMark ∧ c.highWaterMarkCallback then
        notices ++ [.highWaterMark (sizeAdd c.outputBuffer.readableBytes rest.bytes.length)]
      else notices := by
  cases buffer_remaining_buffers c next rest notices queued done with
  | nothing empty same =>
      have small : c.outputBuffer.readableBytes < 2 ^ 64 := Nat.mod_lt _ (by decide)
      have unmoved : sizeAdd c.outputBuffer.readableBytes rest.bytes.length = c.outputBuffer.readableBytes := by
        rw [empty, size_add_exact _ _ small, Nat.add_zero]
      refine ⟨⟨c.channel, c.slot, c.outputBuffer, same⟩, ?_⟩
      rw [unmoved, if_neg]
      rintro ⟨above, below, -⟩
      omega
  | appends buffer some appended turned =>
      refine ⟨?_, rfl⟩
      rcases turned with ⟨-, rfl⟩ | ⟨-, turned⟩
      · exact ⟨c.channel, c.slot, buffer, rfl⟩
      · obtain ⟨channel, slot, same⟩ := with_channel_inversion _ next _ turned
        exact ⟨channel, slot, buffer, same⟩

theorem buffer_remaining_notices (c next : TcpConnection) (rest : CppString) (notices queued : List Notice)
    (done : c.bufferRemaining rest notices = .ok (next, queued)) (complete : .writeComplete ∈ queued) :
    .writeComplete ∈ notices := by
  rw [(buffer_remaining_inversion c next rest notices queued done).2] at complete
  split at complete
  · simpa using complete
  · exact complete

-- What sendInLoop shows outside: bytes reach the socket only past an empty
-- backlog, and a completed write leaves the backlog empty.
structure SendEffects (c next : TcpConnection) (queued : List Notice) : Prop where
  isOpen : Open next
  shutWr : next.shutWr = c.shutWr
  wire : next.wire = c.wire ∨ c.outputBuffer.readable = []
  complete : .writeComplete ∈ queued → next.outputBuffer.readable = []

theorem send_effects_refl (c : TcpConnection) (isOpen : Open c) : SendEffects c c [] :=
  ⟨isOpen, rfl, .inl rfl, by simp⟩

theorem buffer_remaining_effects (c next : TcpConnection) (rest : CppString) (queued : List Notice) (isOpen : Open c)
    (done : c.bufferRemaining rest [] = .ok (next, queued)) : SendEffects c next queued := by
  obtain ⟨nextOpen, same, -⟩ := buffer_remaining_open c next rest [] queued isOpen done
  refine ⟨nextOpen, same.shutWr, .inl same.wire, fun complete => ?_⟩
  have absent := buffer_remaining_notices c next rest [] queued done complete
  simp at absent

theorem send_in_loop_effects (c next : TcpConnection) (data : CppString) (result : WriteResult) (queued : List Notice)
    (isOpen : Open c) (done : c.sendInLoop data result = .ok (next, queued)) : SendEffects c next queued := by
  cases send_in_loop_sends c next data result queued done with
  | refused _ closing same silent =>
      rw [same, silent]
      exact send_effects_refl c isOpen
  | broken errno accepted direct fault same silent =>
      rw [same, silent]
      exact send_effects_refl c isOpen
  | writes count accepted direct rest =>
      have empty := (c.outputBuffer.readable_bytes_zero isOpen.valid).mp direct.2
      have moved : Open (c.wrote (data.bytes.take count)) := ⟨isOpen.valid, isOpen.registered, isOpen.events⟩
      obtain ⟨nextOpen, same, bytes⟩ := buffer_remaining_open _ next _ _ queued moved rest
      refine ⟨nextOpen, same.shutWr, .inr empty, fun complete => ?_⟩
      have all := buffer_remaining_notices _ next _ _ queued rest complete
      split at all
      · next written =>
          have nothing : (data.drop (data.bytes.take count).length).bytes = [] := by
            rw [← List.length_eq_zero_iff, CppString.drop, List.length_drop]
            exact written.1
          rw [bytes, nothing, List.append_nil]
          exact empty
      · cases all
  | waits _ accepted behind rest => exact buffer_remaining_effects c next data queued isOpen rest

-- With a backlog sendInLoop does not call ::write: what it would answer is
-- never looked at.
theorem send_in_loop_waits (c : TcpConnection) (data : CppString) (result other : WriteResult)
    (waiting : c.outputBuffer.readableBytes ≠ 0) : c.sendInLoop data result = c.sendInLoop data other := by
  have behind : ¬((!c.channel.isWriting) = true ∧ c.outputBuffer.readableBytes = 0) := fun direct => waiting direct.2
  rw [sendInLoop, sendInLoop, if_neg behind, if_neg behind]

theorem handle_write_effects (c next : TcpConnection) (result : WriteResult) (queued : List Notice) (isOpen : Open c)
    (done : c.handleWrite result = .ok (next, queued)) :
    Open next ∧ (next.shutWr = c.shutWr ∨ next.outputBuffer.readable = []) ∧
      (.writeComplete ∈ queued → next.outputBuffer.readable = []) := by
  cases writing : c.channel.isWriting with
  | false =>
      simp only [handleWrite, writing, Bool.false_eq_true, if_false, Except.ok.injEq, Prod.mk.injEq] at done
      obtain ⟨rfl, rfl⟩ := done
      exact ⟨isOpen, .inl rfl, by simp⟩
  | true =>
      obtain ⟨after, notices, returned, outcome⟩ := handle_write_outcome c result isOpen writing
      rw [returned] at done
      cases done
      cases outcome with
      | nothing refused => exact ⟨isOpen, .inl rfl, by simp⟩
      | partly some nextOpen filled => exact ⟨nextOpen, .inl rfl, by simp⟩
      | fully next some nextOpen off buffer empty state wire taken shutWr =>
          exact ⟨nextOpen, .inr empty, fun _ => empty⟩

end TcpConnection

namespace Established

def ready (s : Established) : TcpConnection := { s.conn with shutWr := false }

def returned : Except Stop (TcpConnection × List Notice) → Option Established
  | .ok (conn, queued) => some ⟨conn, queued⟩
  | .error _ => none

def step (s : Established) : ConnectionLabel → Option Established
  | .sendInLoop data result => returned (s.ready.sendInLoop data result)
  | .handleRead result =>
      match s.ready.handleRead result with
      | .error _ => none
      | .ok (outcome, conn) => if outcome = .close then none else some ⟨conn, []⟩
  | .handleWrite result => returned (s.ready.handleWrite result)
  -- the test and the store of shutdown(); the task it queues is a later label
  | .shutdown => some ⟨if s.conn.state = .kConnected then s.ready.setState .kDisconnecting else s.ready, []⟩
  | .shutdownInLoop => some ⟨s.ready.shutdownInLoop, []⟩

theorem returned_some (result : Except Stop (TcpConnection × List Notice)) (t : Established)
    (done : returned result = some t) : result = .ok (t.conn, t.queued) := by
  cases result with
  | error stop => cases done
  | ok pair =>
      cases done
      rfl

theorem ready_open (s : Established) (isOpen : s.conn.Open) : s.ready.Open :=
  ⟨isOpen.valid, isOpen.registered, isOpen.events⟩

-- Every step but a send and a flush leaves the backlog alone.
structure Idle (s t : Established) : Prop where
  isOpen : t.conn.Open
  outputBuffer : t.conn.outputBuffer = s.conn.outputBuffer
  queued : t.queued = []
  shutWr : t.conn.shutWr = true → s.conn.outputBuffer.readable = []

theorem step_idle (s t : Established) (label : ConnectionLabel) (isOpen : s.conn.Open) (taken : s.step label = some t)
    (noSend : label.isSend = false) (noFlush : ∀ result, label ≠ .handleWrite result) : Idle s t := by
  have readyOpen := s.ready_open isOpen
  cases label with
  | sendInLoop data result => cases noSend
  | handleWrite result => exact absurd rfl (noFlush result)
  | handleRead result =>
      simp only [step] at taken
      split at taken
      · cases taken
      · next outcome conn done =>
          obtain ⟨-, rfl⟩ := by simpa only [Option.ite_none_left_eq_some, Option.some.injEq] using taken
          obtain ⟨⟨buffer, rfl⟩, -⟩ := s.ready.handle_read_input conn result outcome done
          exact ⟨⟨isOpen.valid, isOpen.registered, isOpen.events⟩, rfl, rfl, fun issued => by cases issued⟩
  | shutdown =>
      cases taken
      by_cases connected : s.conn.state = .kConnected
      · rw [if_pos connected]
        exact ⟨readyOpen.set_state _, rfl, rfl, fun issued => by cases issued⟩
      · rw [if_neg connected]
        exact ⟨readyOpen, rfl, rfl, fun issued => by cases issued⟩
  | shutdownInLoop =>
      cases taken
      cases writing : s.ready.channel.isWriting with
      | true =>
          simp only [TcpConnection.shutdownInLoop, writing, if_true]
          exact ⟨readyOpen, rfl, rfl, fun issued => by cases issued⟩
      | false =>
          simp only [TcpConnection.shutdownInLoop, writing, Bool.false_eq_true, if_false]
          exact ⟨⟨isOpen.valid, isOpen.registered, isOpen.events⟩, rfl, rfl, fun _ =>
            (s.ready.open_not_writing readyOpen).mp writing⟩

structure Shows (s t : Established) (label : ConnectionLabel) : Prop where
  wire : label.isSend = true → t.conn.wire = s.conn.wire ∨ s.conn.outputBuffer.readable = []
  shutWr : t.conn.shutWr = true → t.conn.outputBuffer.readable = []
  complete : .writeComplete ∈ t.queued → t.conn.outputBuffer.readable = []

theorem step_shows (s t : Established) (label : ConnectionLabel) (isOpen : s.conn.Open) (taken : s.step label = some t) :
    t.conn.Open ∧ Shows s t label := by
  have readyOpen := s.ready_open isOpen
  by_cases sends : label.isSend = true
  · cases label with
    | sendInLoop data result =>
        have effects := s.ready.send_in_loop_effects t.conn data result t.queued readyOpen (returned_some _ t taken)
        refine ⟨effects.isOpen, ⟨fun _ => effects.wire, fun issued => ?_, effects.complete⟩⟩
        rw [effects.shutWr] at issued
        cases issued
    | _ => cases sends
  · by_cases flushes : ∃ result, label = .handleWrite result
    · obtain ⟨result, rfl⟩ := flushes
      obtain ⟨nextOpen, shutWr, complete⟩ :=
        s.ready.handle_write_effects t.conn result t.queued readyOpen (returned_some _ t taken)
      refine ⟨nextOpen, ⟨fun send => absurd send sends, fun issued => shutWr.resolve_left fun same => ?_, complete⟩⟩
      rw [same] at issued
      cases issued
    · have idle := step_idle s t label isOpen taken (by simpa using sends) fun result same => flushes ⟨result, same⟩
      refine ⟨idle.isOpen, ⟨fun send => absurd send sends, fun issued => ?_, fun complete => ?_⟩⟩
      · rw [idle.outputBuffer]
        exact idle.shutWr issued
      · rw [idle.queued] at complete
        cases complete

theorem run_open (labels : List ConnectionLabel) (s t : Established) (isOpen : s.conn.Open)
    (ran : run step s labels = some t) : t.conn.Open :=
  invariant step (fun s => s.conn.Open) (fun s l t isOpen taken => (step_shows s t l isOpen taken).1) s t labels isOpen ran

theorem established_run_open (sockfd : Nat) (writeComplete highWater : Bool) (mark : Nat) (c : TcpConnection)
    (labels : List ConnectionLabel) (s : Established)
    (up : (TcpConnection.new sockfd writeComplete highWater mark).connectEstablished = .ok c)
    (ran : run step ⟨c, []⟩ labels = some s) : s.conn.Open := by
  rw [TcpConnection.new_connect_established] at up
  cases up
  exact run_open labels _ s (TcpConnection.established_open sockfd writeComplete highWater mark) ran

end Established

theorem write_interest_mirrors_backlog (sockfd : Nat) (writeComplete highWater : Bool) (mark : Nat) (c : TcpConnection)
    (labels : List ConnectionLabel) (s : Established)
    (up : (TcpConnection.new sockfd writeComplete highWater mark).connectEstablished = .ok c)
    (ran : run Established.step ⟨c, []⟩ labels = some s) :
    (s.conn.channel.isWriting = true ↔ 0 < s.conn.outputBuffer.readableBytes) ∧
    ∀ label t, s.step label = some t →
      (∀ data result, label = .sendInLoop data result → 0 < s.conn.outputBuffer.readableBytes →
        t.conn.wire = s.conn.wire ∧ ∀ other, s.step (.sendInLoop data other) = some t) ∧
      (t.conn.shutWr = true → t.conn.outputBuffer.readableBytes = 0) ∧
      (.writeComplete ∈ t.queued → t.conn.outputBuffer.readableBytes = 0) := by
  have isOpen := Established.established_run_open sockfd writeComplete highWater mark c labels s up ran
  have zero := s.conn.outputBuffer.readable_bytes_zero isOpen.valid
  refine ⟨?_, fun label t taken => ?_⟩
  · rw [s.conn.open_writing isOpen, Nat.pos_iff_ne_zero]
    exact not_congr zero.symm
  · obtain ⟨nextOpen, shows⟩ := Established.step_shows s t label isOpen taken
    have nextZero := t.conn.outputBuffer.readable_bytes_zero nextOpen.valid
    refine ⟨?_, fun issued => nextZero.mpr (shows.shutWr issued), fun complete => nextZero.mpr (shows.complete complete)⟩
    rintro data result rfl waiting
    have behind := Nat.pos_iff_ne_zero.mp waiting
    refine ⟨(shows.wire rfl).resolve_right fun empty => behind (zero.mpr empty), fun other => ?_⟩
    rw [← taken]
    exact congrArg Established.returned (s.ready.send_in_loop_waits data other result behind)

-- Two bytes of which the kernel takes one, then a read and a shutdown that has
-- to wait for the other one.
def shutdownBehindBacklog : List ConnectionLabel :=
  [.sendInLoop (.ofBytes [65, 66]) (.room 1), .handleRead (.arrived [67]), .shutdown, .shutdownInLoop]

theorem write_interest_mirrors_backlog_pending :
    ∃ s, run Established.step ⟨TcpConnection.established 5 true false 0, []⟩ shutdownBehindBacklog = some s ∧
      0 < s.conn.outputBuffer.readableBytes := by
  have writing : (run Established.step ⟨TcpConnection.established 5 true false 0, []⟩ shutdownBehindBacklog).map
      (fun s => s.conn.channel.isWriting) = some true := by decide +kernel
  obtain ⟨s, ran, on⟩ := Option.map_eq_some_iff.mp writing
  exact ⟨s, ran, (write_interest_mirrors_backlog 5 true false 0 _ shutdownBehindBacklog s
    (TcpConnection.new_connect_established 5 true false 0) ran).1.mp on⟩

end Cmuduo.Net
