import Cmuduo.Net.OutputStream
import Cmuduo.Net.WriteInterest

set_option autoImplicit false

namespace Cmuduo.Net

open Machine

-- No further send, and a kernel that accepts at least one byte whenever it is
-- offered at least one.
def ConnectionLabel.Draining : ConnectionLabel → Prop
  | .sendInLoop _ _ => False
  | .handleWrite (.room count) => 0 < count
  | .handleWrite (.error _) => False
  | _ => True

def ConnectionLabel.isFlush : ConnectionLabel → Bool
  | .handleWrite _ => true
  | _ => false

theorem Buffer.retrieve_writable (b : Buffer) (len : Nat) (short : len < b.readableBytes) :
    (b.retrieve len).writableBytes = b.writableBytes := by
  rw [retrieve, if_pos short]
  rfl

namespace TcpConnection

theorem flush_out_length (c : TcpConnection) (count : Nat) (isOpen : Open c) (writing : c.channel.isWriting = true) :
    (c.flushOut (.room count)).length = min count c.outputBuffer.writableBytes := by
  simp only [flushOut, writing, if_true, kernelWrite, List.length_take, offered_length c isOpen]

end TcpConnection

namespace Established

abbrev backlog (s : Established) : Nat := s.conn.outputBuffer.readableBytes

-- From u to v the backlog became empty, with all that this has to set off.
structure LastFlush (u v : Established) : Prop where
  emptied : v.backlog = 0
  off : v.conn.channel.isWriting = false
  complete : u.conn.writeCompleteCallback = true → .writeComplete ∈ v.queued
  shutWr : u.conn.state = .kDisconnecting → v.conn.shutWr = true

def Progress (s : Established) : Prop :=
  ∀ count, 0 < count → ∃ t, s.step (.handleWrite (.room count)) = some t ∧ t.backlog < s.backlog

-- Any run without sends that flushes as often as there are bytes in the backlog
-- has a last flush among its first ones.
def Drains (s : Established) : Prop :=
  ∀ labels t, (∀ label ∈ labels, label.Draining) → s.backlog ≤ labels.countP ConnectionLabel.isFlush →
    run step s labels = some t →
    ∃ front flush back u v, labels = front ++ flush :: back ∧ flush.isFlush = true ∧
      front.countP ConnectionLabel.isFlush < s.backlog ∧ run step s front = some u ∧ u.step flush = some v ∧ LastFlush u v

theorem ready_writing (s : Established) (isOpen : s.conn.Open) (waiting : 0 < s.backlog) :
    s.ready.channel.isWriting = true := by
  rw [s.ready.open_writing (s.ready_open isOpen)]
  exact fun empty => Nat.ne_of_gt waiting ((s.conn.outputBuffer.readable_bytes_zero isOpen.valid).mpr empty)

theorem flush_stalls (s : Established) (count : Nat) (isOpen : s.conn.Open) (waiting : 0 < s.backlog)
    (full : s.conn.outputBuffer.writableBytes = 0) : s.step (.handleWrite (.room count)) = some ⟨s.ready, []⟩ := by
  have readyOpen := s.ready_open isOpen
  have writing := s.ready_writing isOpen waiting
  have length := s.ready.flush_out_length count readyOpen writing
  rw [show s.ready.outputBuffer.writableBytes = 0 from full, Nat.min_zero] at length
  obtain ⟨next, queued, done, outcome⟩ := s.ready.handle_write_outcome (.room count) readyOpen writing
  rw [step, done]
  cases outcome with
  | nothing refused => rfl
  | partly some nextOpen filled => omega
  | fully next some nextOpen off buffer empty state wire taken shutWr => omega

theorem flush_advances (s : Established) (count : Nat) (isOpen : s.conn.Open) (waiting : 0 < s.backlog)
    (room : 0 < s.conn.outputBuffer.writableBytes) (accepts : 0 < count) :
    ∃ t, s.step (.handleWrite (.room count)) = some t ∧ t.conn.Open ∧ t.backlog < s.backlog ∧
      (LastFlush s t ∨ 0 < t.backlog ∧ t.conn.outputBuffer.writableBytes = s.conn.outputBuffer.writableBytes) := by
  have readyOpen := s.ready_open isOpen
  have writing := s.ready_writing isOpen waiting
  have length := s.ready.flush_out_length count readyOpen writing
  have offers : 0 < min count s.ready.outputBuffer.writableBytes := Nat.lt_min.mpr ⟨accepts, room⟩
  obtain ⟨next, queued, done, outcome⟩ := s.ready.handle_write_outcome (.room count) readyOpen writing
  refine ⟨⟨next, queued⟩, by rw [step, done]; rfl, ?_⟩
  cases outcome with
  | nothing refused =>
      rw [refused, List.length_nil] at length
      omega
  | partly some nextOpen filled =>
      have bytes := s.conn.outputBuffer.retrieve_readable (s.ready.flushOut (.room count)).length isOpen.valid
      have left := congrArg List.length bytes
      have before := s.conn.outputBuffer.readable_length isOpen.valid
      have after := (s.conn.outputBuffer.retrieve _).readable_length nextOpen.valid
      rw [List.length_drop] at left
      have positive : 0 < (s.conn.outputBuffer.retrieve (s.ready.flushOut (.room count)).length).readable.length :=
        List.length_pos_iff.mpr filled
      have short : (s.ready.flushOut (.room count)).length < s.conn.outputBuffer.readableBytes := by omega
      refine ⟨nextOpen, ?_, .inr ⟨?_, s.conn.outputBuffer.retrieve_writable _ short⟩⟩
      · change (s.conn.outputBuffer.retrieve (s.ready.flushOut (.room count)).length).readableBytes <
          s.conn.outputBuffer.readableBytes
        omega
      · change 0 < (s.conn.outputBuffer.retrieve (s.ready.flushOut (.room count)).length).readableBytes
        omega
  | fully next some nextOpen off buffer empty state wire taken shutWr =>
      have emptied := (next.outputBuffer.readable_bytes_zero nextOpen.valid).mpr empty
      refine ⟨nextOpen, by rw [backlog, emptied]; exact waiting, .inl ⟨emptied, off, fun set => ?_, fun closing => ?_⟩⟩
      · simp only [show s.ready.writeCompleteCallback = true from set, if_true, List.mem_singleton]
      · exact shutWr.trans (if_pos closing)

theorem flush_progresses (s : Established) (isOpen : s.conn.Open) (waiting : 0 < s.backlog)
    (room : 0 < s.conn.outputBuffer.writableBytes) : s.Progress := by
  intro count accepts
  obtain ⟨t, taken, -, less, -⟩ := s.flush_advances count isOpen waiting room accepts
  exact ⟨t, taken, less⟩

-- By induction on the run: a step that is no flush leaves the output buffer as
-- it is, and a flush that is not the last one takes a byte and keeps the room
-- behind the backlog.
theorem flush_drains (s : Established) (isOpen : s.conn.Open) (waiting : 0 < s.backlog)
    (room : 0 < s.conn.outputBuffer.writableBytes) : s.Drains := by
  intro labels t draining enough ran
  induction labels generalizing s with
  | nil =>
      simp only [List.countP_nil] at enough
      omega
  | cons label rest ih =>
      obtain ⟨next, taken, tail⟩ := (run_cons _ _ _ _ _).mp ran
      have restDraining : ∀ l ∈ rest, l.Draining := fun l member => draining l (by simp [member])
      have here := draining label (by simp)
      by_cases flushes : label.isFlush = true
      · rw [List.countP_cons_of_pos flushes] at enough
        have accepted : ∃ count, label = .handleWrite (.room count) ∧ 0 < count := by
          cases label with
          | handleWrite result =>
              cases result with
              | room count => exact ⟨count, rfl, here⟩
              | error errno => cases here
          | _ => cases flushes
        obtain ⟨count, rfl, accepts⟩ := accepted
        obtain ⟨after, stepped, nextOpen, less, outcome⟩ := s.flush_advances count isOpen waiting room accepts
        obtain rfl := Option.some.inj (stepped.symm.trans taken)
        rcases outcome with last | ⟨more, kept⟩
        · exact ⟨[], _, rest, s, after, rfl, rfl, waiting, rfl, stepped, last⟩
        · obtain ⟨front, flush, back, u, v, split, isFlush, few, before, last⟩ :=
            ih after nextOpen more (kept ▸ room) restDraining (by omega) tail
          refine ⟨_ :: front, flush, back, u, v, by rw [split]; rfl, isFlush, ?_, (run_cons _ _ _ _ _).mpr ⟨after, taken, before⟩,
            last⟩
          rw [List.countP_cons_of_pos flushes]
          omega
      · rw [List.countP_cons_of_neg flushes] at enough
        have noSend : label.isSend = false := by
          cases label with
          | sendInLoop data result => cases here
          | _ => rfl
        have idle := step_idle s next label isOpen taken noSend fun result same => flushes (by rw [same]; rfl)
        have same : next.backlog = s.backlog := congrArg Buffer.readableBytes idle.outputBuffer
        obtain ⟨front, flush, back, u, v, split, isFlush, few, before, last⟩ :=
          ih next idle.isOpen (same ▸ waiting) (by rw [idle.outputBuffer]; exact room) restDraining (same ▸ enough) tail
        refine ⟨label :: front, flush, back, u, v, by rw [split]; rfl, isFlush, ?_,
          (run_cons _ _ _ _ _).mpr ⟨next, taken, before⟩, last⟩
        rw [List.countP_cons_of_neg flushes]
        exact same ▸ few

end Established

theorem flush_makes_progress (sockfd : Nat) (writeComplete highWater : Bool) (mark : Nat) (c : TcpConnection)
    (labels : List ConnectionLabel) (s : Established)
    (up : (TcpConnection.new sockfd writeComplete highWater mark).connectEstablished = .ok c)
    (ran : run Established.step ⟨c, []⟩ labels = some s) (waiting : 0 < s.conn.outputBuffer.readableBytes) :
    (s.Progress ∧ s.Drains) ↔ 0 < s.conn.outputBuffer.writableBytes := by
  have isOpen := Established.established_run_open sockfd writeComplete highWater mark c labels s up ran
  constructor
  · rintro ⟨progress, -⟩
    by_contra none
    have stalls := s.flush_stalls 1 isOpen waiting (Nat.eq_zero_of_not_pos none)
    obtain ⟨t, taken, less⟩ := progress 1 Nat.one_pos
    obtain rfl := Option.some.inj (stalls.symm.trans taken)
    exact Nat.lt_irrefl _ less
  · intro room
    exact ⟨s.flush_progresses isOpen waiting room, s.flush_drains isOpen waiting room⟩

-- Two bytes behind a closing connection, which the kernel takes one at a time.
def drainedInTwo : List ConnectionLabel := [.sendInLoop (.ofBytes [65, 66]) (.error .EWOULDBLOCK), .shutdown]

theorem flush_makes_progress_in_two :
    ∃ s, run Established.step ⟨TcpConnection.established 5 true false 0, []⟩ drainedInTwo = some s ∧
      s.Progress ∧ s.Drains := by
  have layout : (run Established.step ⟨TcpConnection.established 5 true false 0, []⟩ drainedInTwo).map (fun s =>
      (s.conn.outputBuffer.readableBytes, s.conn.outputBuffer.writableBytes)) = some (2, 1022) := by decide +kernel
  obtain ⟨s, ran, bytes⟩ := Option.map_eq_some_iff.mp layout
  obtain ⟨two, room⟩ := Prod.mk.inj bytes
  exact ⟨s, ran, (flush_makes_progress 5 true false 0 _ drainedInTwo s
    (TcpConnection.new_connect_established 5 true false 0) ran (by omega)).mpr (by omega)⟩

-- 1024 bytes fill the fresh buffer to its end: from then on a flush offers the
-- kernel nothing.
def filledToTheEnd : List ConnectionLabel :=
  [.sendInLoop (.ofBytes (List.replicate 1024 65)) (.error .EWOULDBLOCK)]

theorem flush_stalls_forever :
    ∃ s, run Established.step ⟨TcpConnection.established 5 true false 0, []⟩ filledToTheEnd = some s ∧
      s.conn.outputBuffer.readableBytes = 1024 ∧
      (∀ count, ∃ t, s.step (.handleWrite (.room count)) = some t ∧ t.conn.outputBuffer.readableBytes = 1024) ∧
      ¬s.Progress := by
  have layout : (run Established.step ⟨TcpConnection.established 5 true false 0, []⟩ filledToTheEnd).map (fun s =>
      (s.conn.outputBuffer.readableBytes, s.conn.outputBuffer.writableBytes)) = some (1024, 0) := by decide +kernel
  obtain ⟨s, ran, bytes⟩ := Option.map_eq_some_iff.mp layout
  obtain ⟨whole, none⟩ := Prod.mk.inj bytes
  have isOpen := Established.established_run_open 5 true false 0 _ filledToTheEnd s
    (TcpConnection.new_connect_established 5 true false 0) ran
  have stalls : ∀ count, s.step (.handleWrite (.room count)) = some ⟨s.ready, []⟩ := fun count =>
    s.flush_stalls count isOpen (by rw [Established.backlog, whole]; decide) none
  refine ⟨s, ran, whole, fun count => ⟨_, stalls count, whole⟩, fun progress => ?_⟩
  obtain ⟨t, taken, less⟩ := progress 1 Nat.one_pos
  obtain rfl := Option.some.inj ((stalls 1).symm.trans taken)
  exact Nat.lt_irrefl _ less

end Cmuduo.Net
