import Cmuduo.Net.HighWaterMark

set_option autoImplicit false

namespace Cmuduo.Net

open Machine

def Notice.isWriteComplete : Notice → Bool
  | .writeComplete => true
  | .highWaterMark _ => false

namespace TcpConnection

-- A send past an empty backlog begins a burst when ::write takes some of the
-- data, even no byte of none, or leaves all of it to wait; a fault drops it.
def beginsBurst (c : TcpConnection) (data : CppString) : WriteResult → Bool
  | .room _ => c.state != .kDisconnecting && c.outputBuffer.readableBytes == 0
  | .error errno =>
      c.state != .kDisconnecting && c.outputBuffer.readableBytes == 0 &&
        !(errno == .EPIPE || errno == .ECONNRESET) && !data.bytes.isEmpty

-- A burst is under way as long as there is a backlog, and is reported when it is
-- over.
structure Bursts (c next : TcpConnection) (began : Bool) (queued : List Notice) : Prop where
  callback : next.writeCompleteCallback = c.writeCompleteCallback
  first : began = true → c.outputBuffer.readableBytes = 0
  waiting : 0 < next.outputBuffer.readableBytes → 0 < c.outputBuffer.readableBytes ∨ began = true
  reported : c.writeCompleteCallback = true → queued.filter Notice.isWriteComplete =
    if next.outputBuffer.readableBytes = 0 ∧ (0 < c.outputBuffer.readableBytes ∨ began = true) then [.writeComplete] else []

theorem bursts_quiet (c next : TcpConnection) (queued : List Notice)
    (callback : next.writeCompleteCallback = c.writeCompleteCallback)
    (same : next.outputBuffer.readableBytes = c.outputBuffer.readableBytes)
    (silent : queued.filter Notice.isWriteComplete = []) : Bursts c next false queued := by
  refine ⟨callback, fun began => (by cases began), fun waiting => .inl (same ▸ waiting), fun _ => ?_⟩
  rw [silent, if_neg]
  rintro ⟨empty, waiting | began⟩
  · omega
  · cases began

theorem buffer_remaining_completes (c next : TcpConnection) (rest : CppString) (notices queued : List Notice)
    (done : c.bufferRemaining rest notices = .ok (next, queued)) :
    next.writeCompleteCallback = c.writeCompleteCallback ∧
      queued.filter Notice.isWriteComplete = notices.filter Notice.isWriteComplete := by
  obtain ⟨⟨channel, slot, buffer, rfl⟩, exactly⟩ := buffer_remaining_inversion c next rest notices queued done
  refine ⟨rfl, ?_⟩
  rw [exactly]
  split
  · exact (List.filter_append _ _).trans (List.append_nil _)
  · rfl

theorem send_in_loop_bursts (c next : TcpConnection) (data : CppString) (result : WriteResult) (queued : List Notice)
    (isOpen : Open c) (done : c.sendInLoop data result = .ok (next, queued)) :
    Bursts c next (c.beginsBurst data result) queued := by
  cases send_in_loop_sends c next data result queued done with
  | refused _ closing same silent =>
      have dropped : c.beginsBurst data result = false := by
        cases result <;> simp [beginsBurst, closing]
      rw [dropped, same, silent]
      exact bursts_quiet c c [] rfl rfl rfl
  | broken errno accepted direct fault same silent =>
      have dropped : c.beginsBurst data (.error errno) = false := by
        rcases fault with rfl | rfl <;> simp [beginsBurst]
      rw [dropped, same, silent]
      exact bursts_quiet c c [] rfl rfl rfl
  | writes count accepted direct rest =>
      have begins : c.beginsBurst data (.room count) = true := by
        simp [beginsBurst, accepted, direct.2]
      have moved : Open (c.wrote (data.bytes.take count)) := ⟨isOpen.valid, isOpen.registered, isOpen.events⟩
      obtain ⟨callback, reports⟩ := buffer_remaining_completes _ next _ _ queued rest
      have left := buffer_remaining_grows _ next _ _ queued moved rest
      rw [show (c.wrote (data.bytes.take count)).outputBuffer.readableBytes = 0 from direct.2, Nat.zero_add, CppString.drop,
        List.length_drop] at left
      rw [begins]
      refine ⟨callback, fun _ => direct.2, fun _ => .inr rfl, fun set => ?_⟩
      rw [reports, left]
      by_cases written : data.bytes.length - (data.bytes.take count).length = 0
      · rw [if_pos ⟨written, set⟩, if_pos ⟨written, .inr rfl⟩]
        rfl
      · rw [if_neg fun both => written both.1, if_neg fun both => written both.1]
        rfl
  | waits _ accepted behind rest =>
      obtain ⟨callback, reports⟩ := buffer_remaining_completes c next data [] queued rest
      have grows := buffer_remaining_grows c next data [] queued isOpen rest
      by_cases empty : c.outputBuffer.readableBytes = 0
      · have off := (c.open_not_writing isOpen).mpr ((c.outputBuffer.readable_bytes_zero isOpen.valid).mp empty)
        obtain ⟨errno, rfl, mild⟩ := behind ⟨by rw [off]; rfl, empty⟩
        have begins : c.beginsBurst data (.error errno) = true ↔ data.bytes ≠ [] := by
          simp [beginsBurst, accepted, empty, not_or.mp mild]
        rw [empty, Nat.zero_add] at grows
        refine ⟨callback, fun _ => empty, fun waiting => .inr ?_, fun _ => ?_⟩
        · rw [begins, ← List.length_pos_iff, ← grows]
          exact waiting
        · rw [reports, if_neg]
          · rfl
          · rintro ⟨nothing, waiting | began⟩
            · omega
            · rw [begins, ← List.length_pos_iff, ← grows] at began
              omega
      · have late : c.beginsBurst data result = false := by
          cases result <;> simp [beginsBurst, empty]
        rw [late]
        refine ⟨callback, fun began => (by cases began), fun _ => .inl (Nat.pos_of_ne_zero empty), fun _ => ?_⟩
        rw [reports, if_neg fun both => empty (by omega)]
        rfl

theorem handle_write_keeps_callback (c next : TcpConnection) (result : WriteResult) (queued : List Notice)
    (done : c.handleWrite result = .ok (next, queued)) : next.writeCompleteCallback = c.writeCompleteCallback := by
  cases handle_write_writes c next result queued done with
  | nothing => rfl
  | partly out => rfl
  | fully out quiet disabled =>
      obtain ⟨channel, slot, rfl⟩ := with_channel_inversion _ quiet _ disabled
      split
      · rw [shutdownInLoop]
        split <;> rfl
      · rfl

theorem handle_write_bursts (c next : TcpConnection) (result : WriteResult) (queued : List Notice) (isOpen : Open c)
    (done : c.handleWrite result = .ok (next, queued)) : Bursts c next false queued := by
  have callback := handle_write_keeps_callback c next result queued done
  cases writing : c.channel.isWriting with
  | false =>
      simp only [handleWrite, writing, Bool.false_eq_true, if_false, Except.ok.injEq, Prod.mk.injEq] at done
      obtain ⟨rfl, rfl⟩ := done
      exact bursts_quiet c c [] rfl rfl rfl
  | true =>
      have backlog : c.outputBuffer.readableBytes ≠ 0 := fun empty =>
        (c.open_writing isOpen).mp writing ((c.outputBuffer.readable_bytes_zero isOpen.valid).mp empty)
      have waiting := Nat.pos_of_ne_zero backlog
      obtain ⟨after, notices, returned, outcome⟩ := handle_write_outcome c result isOpen writing
      rw [returned] at done
      cases done
      refine ⟨callback, fun began => (by cases began), fun _ => .inl waiting, fun set => ?_⟩
      cases outcome with
      | nothing refused =>
          rw [if_neg fun both => backlog both.1]
          rfl
      | partly some nextOpen filled =>
          rw [if_neg fun both => filled ((Buffer.readable_bytes_zero _ nextOpen.valid).mp both.1)]
          rfl
      | fully next some nextOpen off buffer empty state wire taken shutWr =>
          rw [if_pos set, if_pos ⟨(Buffer.readable_bytes_zero _ nextOpen.valid).mpr empty, .inl waiting⟩]
          rfl

end TcpConnection

namespace Established

def beginsBurst (s : Established) : ConnectionLabel → Bool
  | .sendInLoop data result => s.conn.beginsBurst data result
  | _ => false

abbrev bursts (s : Established) (label : ConnectionLabel) (_ : Established) : List ConnectionLabel :=
  if s.beginsBurst label then [label] else []

abbrev completions (_ : Established) (_ : ConnectionLabel) (t : Established) : List Notice :=
  t.queued.filter Notice.isWriteComplete

-- The burst under way that is still to be reported.
def unreported (s : Established) : Nat := if 0 < s.backlog then 1 else 0

theorem idle_keeps_callback (s t : Established) (label : ConnectionLabel) (taken : s.step label = some t)
    (noSend : label.isSend = false) (noFlush : ∀ result, label ≠ .handleWrite result) :
    t.conn.writeCompleteCallback = s.conn.writeCompleteCallback := by
  cases label with
  | sendInLoop data result => cases noSend
  | handleWrite result => exact absurd rfl (noFlush result)
  | handleRead result =>
      simp only [step] at taken
      split at taken
      · cases taken
      · next outcome conn done =>
          obtain ⟨-, rfl⟩ := by simpa only [Option.ite_none_left_eq_some, Option.some.injEq] using taken
          obtain ⟨⟨buffer, rfl⟩, -⟩ := s.ready.handle_read_input conn result outcome done
          rfl
  | shutdown =>
      cases taken
      split <;> rfl
  | shutdownInLoop =>
      cases taken
      rw [TcpConnection.shutdownInLoop]
      split <;> rfl

theorem step_bursts (s t : Established) (label : ConnectionLabel) (isOpen : s.conn.Open) (taken : s.step label = some t) :
    TcpConnection.Bursts s.conn t.conn (s.beginsBurst label) t.queued := by
  have readyOpen := s.ready_open isOpen
  cases label with
  | sendInLoop data result =>
      obtain ⟨callback, first, waiting, reported⟩ :=
        s.ready.send_in_loop_bursts t.conn data result t.queued readyOpen (returned_some _ t taken)
      cases result <;> exact ⟨callback, first, waiting, reported⟩
  | handleWrite result =>
      obtain ⟨callback, first, waiting, reported⟩ :=
        s.ready.handle_write_bursts t.conn result t.queued readyOpen (returned_some _ t taken)
      exact ⟨callback, first, waiting, reported⟩
  | _ =>
      have idle := step_idle s t _ isOpen taken rfl fun result same => (by cases same)
      have callback := idle_keeps_callback s t _ taken rfl fun result same => (by cases same)
      exact TcpConnection.bursts_quiet _ _ _ callback (congrArg Buffer.readableBytes idle.outputBuffer)
        (by rw [idle.queued]; rfl)

theorem step_balances (s t : Established) (label : ConnectionLabel) (isOpen : s.conn.Open)
    (set : s.conn.writeCompleteCallback = true) (taken : s.step label = some t) :
    (completions s label t).length + t.unreported = s.unreported + (bursts s label t).length := by
  have burst := step_bursts s t label isOpen taken
  have waiting := burst.waiting
  have first := burst.first
  rw [completions, burst.reported set, bursts, unreported, unreported, backlog, backlog]
  cases began : s.beginsBurst label with
  | true =>
      rw [first began]
      by_cases left : t.conn.outputBuffer.readableBytes = 0
      · simp [left]
      · simp [left, Nat.pos_of_ne_zero left]
  | false =>
      rw [began] at waiting
      by_cases left : t.conn.outputBuffer.readableBytes = 0
      · by_cases before : s.conn.outputBuffer.readableBytes = 0
        · simp [left, before]
        · simp [left, Nat.pos_of_ne_zero before]
      · have behind : 0 < s.conn.outputBuffer.readableBytes := by
          simpa using waiting (Nat.pos_of_ne_zero left)
        simp [left, Nat.pos_of_ne_zero left, behind]

end Established

theorem bursts_completed_once (sockfd : Nat) (highWater : Bool) (mark : Nat) (c : TcpConnection)
    (labels : List ConnectionLabel) (s : Established)
    (up : (TcpConnection.new sockfd true highWater mark).connectEstablished = .ok c)
    (ran : run Established.step ⟨c, []⟩ labels = some s) :
    (outputs Established.step Established.completions ⟨c, []⟩ labels).length + s.unreported =
      (outputs Established.step Established.bursts ⟨c, []⟩ labels).length ∧
    ∀ label t, s.step label = some t → t.queued.filter Notice.isWriteComplete =
      if t.backlog = 0 ∧ (0 < s.backlog ∨ s.beginsBurst label = true) then [.writeComplete] else [] := by
  rw [TcpConnection.new_connect_established] at up
  cases up
  have kept : ∀ (s : Established) label t, s.conn.Open ∧ s.conn.writeCompleteCallback = true → s.step label = some t →
      t.conn.Open ∧ t.conn.writeCompleteCallback = true := by
    rintro s label t ⟨isOpen, set⟩ taken
    exact ⟨(Established.step_shows s t label isOpen taken).1,
      (Established.step_bursts s t label isOpen taken).callback.trans set⟩
  have start := TcpConnection.established_open sockfd true highWater mark
  refine ⟨?_, fun label t taken => ?_⟩
  · have balance := outputs_balance Established.step Established.completions Established.bursts _ Established.unreported
      (fun s label t inv taken => ⟨kept s label t inv taken, Established.step_balances s t label inv.1 inv.2 taken⟩)
      ⟨TcpConnection.established sockfd true highWater mark, []⟩ s labels ⟨start, rfl⟩ ran
    have empty := (Buffer.readable_bytes_zero _ start.valid).mpr (Buffer.new_readable kInitiaSize)
    have fresh : Established.unreported ⟨TcpConnection.established sockfd true highWater mark, []⟩ = 0 :=
      if_neg (Nat.not_lt.mpr (Nat.le_of_eq empty))
    exact balance.trans (by rw [fresh, Nat.zero_add])
  · obtain ⟨isOpen, set⟩ := invariant Established.step _ kept _ s labels ⟨start, rfl⟩ ran
    exact (Established.step_bursts s t label isOpen taken).reported set

-- A burst of two sends written in two flushes, one written at once, and one of
-- which a byte is still waiting.
def threeBursts : List ConnectionLabel :=
  [.sendInLoop (.ofBytes [65, 66]) (.error .EWOULDBLOCK), .sendInLoop (.ofBytes [67]) (.room 9), .handleWrite (.room 2),
    .handleWrite (.room 1), .sendInLoop (.ofBytes [68]) (.room 9), .sendInLoop (.ofBytes [69, 70]) (.room 1)]

theorem bursts_completed_once_three :
    ∃ s, run Established.step ⟨TcpConnection.established 5 true false 0, []⟩ threeBursts = some s ∧
      (outputs Established.step Established.completions ⟨TcpConnection.established 5 true false 0, []⟩
        threeBursts).length = 2 := by
  have facts : (run Established.step ⟨TcpConnection.established 5 true false 0, []⟩ threeBursts).map (fun s =>
      (s.unreported, (outputs Established.step Established.bursts ⟨TcpConnection.established 5 true false 0, []⟩
        threeBursts).length)) = some (1, 3) := by decide +kernel
  obtain ⟨s, ran, both⟩ := Option.map_eq_some_iff.mp facts
  obtain ⟨unreported, begun⟩ := Prod.mk.inj both
  have balance := (bursts_completed_once 5 false 0 _ threeBursts s (TcpConnection.new_connect_established 5 true false 0)
    ran).1
  exact ⟨s, ran, by omega⟩

end Cmuduo.Net
