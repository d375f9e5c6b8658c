import Cmuduo.Net.FlushProgress

set_option autoImplicit false

namespace Cmuduo.Net

open Machine

def Notice.isHighWater : Notice → Bool
  | .highWaterMark _ => true
  | .writeComplete => false

namespace TcpConnection

-- What setHighWaterMarkCallback has set.
structure SameMark (c next : TcpConnection) : Prop where
  callback : next.highWaterMarkCallback = c.highWaterMarkCallback
  mark : next.highWaterMark = c.highWaterMark

theorem with_channel_same_mark (c next : TcpConnection) (result : Except Stop (Channel × Slot Unit))
    (done : c.withChannel result = .ok next) : SameMark c next := by
  obtain ⟨channel, slot, rfl⟩ := with_channel_inversion c next result done
  exact ⟨rfl, rfl⟩

theorem handle_write_same_mark (c next : TcpConnection) (result : WriteResult) (queued : List Notice)
    (done : c.handleWrite result = .ok (next, queued)) :
    SameMark c next ∧ queued.filter Notice.isHighWater = [] := by
  cases handle_write_writes c next result queued done with
  | nothing => exact ⟨⟨rfl, rfl⟩, rfl⟩
  | partly out => exact ⟨⟨rfl, rfl⟩, rfl⟩
  | fully out quiet disabled =>
      have same := with_channel_same_mark _ quiet _ disabled
      constructor
      · by_cases closing : quiet.state = .kDisconnecting
        · rw [if_pos closing, shutdownInLoop]
          split
          · exact ⟨same.callback, same.mark⟩
          · exact ⟨same.callback, same.mark⟩
        · rw [if_neg closing]
          exact ⟨same.callback, same.mark⟩
      · split
        · rfl
        · rfl

theorem handle_write_lowers (c next : TcpConnection) (result : WriteResult) (queued : List Notice) (isOpen : Open c)
    (done : c.handleWrite result = .ok (next, queued)) :
    next.outputBuffer.readableBytes ≤ c.outputBuffer.readableBytes := by
  obtain ⟨nextOpen, flushes⟩ := handle_write_open c next result queued isOpen done
  have left := congrArg List.length flushes.left
  rw [List.length_drop, Buffer.readable_length _ nextOpen.valid, Buffer.readable_length _ isOpen.valid] at left
  omega

-- The notice of a send that takes the backlog from less than the mark to more.
def notice (c next : TcpConnection) : List Notice :=
  if c.highWaterMark < next.outputBuffer.readableBytes ∧ c.outputBuffer.readableBytes < c.highWaterMark ∧
      c.highWaterMarkCallback = true then
    [.highWaterMark next.outputBuffer.readableBytes]
  else []

theorem notice_silent (c next : TcpConnection) (lower : next.outputBuffer.readableBytes ≤ c.outputBuffer.readableBytes) :
    notice c next = [] := by
  rw [notice, if_neg]
  rintro ⟨above, below, -⟩
  omega

theorem buffer_remaining_grows (c next : TcpConnection) (rest : CppString) (notices queued : List Notice) (isOpen : Open c)
    (done : c.bufferRemaining rest notices = .ok (next, queued)) :
    next.outputBuffer.readableBytes = c.outputBuffer.readableBytes + rest.bytes.length := by
  obtain ⟨nextOpen, -, bytes⟩ := buffer_remaining_open c next rest notices queued isOpen done
  have length := congrArg List.length bytes
  rwa [List.length_append, Buffer.readable_length _ nextOpen.valid, Buffer.readable_length _ isOpen.valid] at length

theorem buffer_remaining_reports (c next : TcpConnection) (rest : CppString) (notices queued : List Notice)
    (isOpen : Open c) (others : notices.filter Notice.isHighWater = [])
    (done : c.bufferRemaining rest notices = .ok (next, queued)) :
    SameMark c next ∧ queued.filter Notice.isHighWater = notice c next := by
  have grows := buffer_remaining_grows c next rest notices queued isOpen done
  obtain ⟨nextOpen, -, -⟩ := buffer_remaining_open c next rest notices queued isOpen done
  obtain ⟨⟨channel, slot, buffer, same⟩, exactly⟩ := buffer_remaining_inversion c next rest notices queued done
  have small : next.outputBuffer.readableBytes < 2 ^ 64 := Nat.mod_lt _ (by decide)
  have size : sizeAdd c.outputBuffer.readableBytes rest.bytes.length = next.outputBuffer.readableBytes :=
    (size_add_exact _ _ (grows ▸ small)).trans grows.symm
  refine ⟨by rw [same]; exact ⟨rfl, rfl⟩, ?_⟩
  rw [exactly, size, notice]
  split
  · rw [List.filter_append, others]
    rfl
  · exact others

theorem send_in_loop_reports (c next : TcpConnection) (data : CppString) (result : WriteResult) (queued : List Notice)
    (isOpen : Open c) (done : c.sendInLoop data result = .ok (next, queued)) :
    SameMark c next ∧ queued.filter Notice.isHighWater = notice c next := by
  have unchanged : SameMark c c ∧ ([] : List Notice).filter Notice.isHighWater = notice c c :=
    ⟨⟨rfl, rfl⟩, (notice_silent c c (Nat.le_refl _)).symm⟩
  cases send_in_loop_sends c next data result queued done with
  | refused _ closing same silent =>
      rw [same, silent]
      exact unchanged
  | broken errno accepted direct fault same silent =>
      rw [same, silent]
      exact unchanged
  | writes count accepted direct rest =>
      have moved : Open (c.wrote (data.bytes.take count)) := ⟨isOpen.valid, isOpen.registered, isOpen.events⟩
      obtain ⟨same, reports⟩ := buffer_remaining_reports _ next _ _ queued moved (by split <;> rfl) rest
      exact ⟨⟨same.callback, same.mark⟩, reports⟩
  | waits _ accepted behind rest => exact buffer_remaining_reports c next data [] queued isOpen rfl rest

-- Behind a backlog all of the data is appended, unless the connection has been
-- shut down.
theorem send_in_loop_behind (c next : TcpConnection) (data : CppString) (result : WriteResult) (queued : List Notice)
    (isOpen : Open c) (waiting : 0 < c.outputBuffer.readableBytes)
    (done : c.sendInLoop data result = .ok (next, queued)) :
    next.outputBuffer.readableBytes =
      if c.state = .kDisconnecting then c.outputBuffer.readableBytes
      else c.outputBuffer.readableBytes + data.bytes.length := by
  cases send_in_loop_sends c next data result queued done with
  | refused _ closing same => rw [same, if_pos closing]
  | broken errno accepted direct => exact absurd direct.2 (Nat.ne_of_gt waiting)
  | writes count accepted direct => exact absurd direct.2 (Nat.ne_of_gt waiting)
  | waits _ accepted behind rest =>
      rw [if_neg accepted]
      exact buffer_remaining_grows c next data [] queued isOpen rest

end TcpConnection

namespace Established

abbrev highWaterNotices (_ : Established) (_ : ConnectionLabel) (t : Established) : List Notice :=
  t.queued.filter Notice.isHighWater

-- The step queues the high-water callback exactly if it takes the backlog from
-- at most the mark to more, and with the new size.
def Reports (mark : Nat) (s t : Established) : Prop :=
  t.queued.filter Notice.isHighWater =
    if s.backlog ≤ mark ∧ mark < t.backlog then [.highWaterMark t.backlog] else []

-- As long as the backlog is above the mark, one callback has been queued since
-- it was not.
def ReportedOnce (mark : Nat) (s : Established) (labels : List ConnectionLabel) : Prop :=
  ∀ front label back rest u v, labels = front ++ label :: (back ++ rest) → run step s front = some u → u.backlog ≤ mark →
    u.step label = some v → Always step (fun t => mark < t.backlog) v back →
    outputs step highWaterNotices u (label :: back) = [.highWaterMark v.backlog]

-- No bytes are sent, before shutdown, behind a backlog of just the mark.
def AwayFromMark (mark : Nat) (s : Established) : ConnectionLabel → Prop
  | .sendInLoop data _ => s.backlog = mark → s.conn.state = .kDisconnecting ∨ data.bytes = []
  | _ => True

instance (mark : Nat) (s : Established) (label : ConnectionLabel) : Decidable (AwayFromMark mark s label) := by
  unfold AwayFromMark
  split <;> infer_instance

structure Watched (mark : Nat) (s : Established) : Prop where
  isOpen : s.conn.Open
  callback : s.conn.highWaterMarkCallback = true
  mark : s.conn.highWaterMark = mark

theorem idle_same_mark (s t : Established) (label : ConnectionLabel) (taken : s.step label = some t)
    (noSend : label.isSend = false) (noFlush : ∀ result, label ≠ .handleWrite result) :
    TcpConnection.SameMark s.conn t.conn := by
  cases label with
  | sendInLoop data result => cases noSend
  | handleWrite result => exact absurd rfl (noFlush result)
  | handleRead result =>
      simp only [step] at taken
      split at taken
      · cases taken
      · next outcome conn done =>
          obtain ⟨-, rfl⟩ := by simpa only [Option.ite_none_left_eq_some, Option.some.injEq] using taken
          obtain ⟨⟨buffer, rfl⟩, -⟩ := s.ready.handle_read_input conn result outcome done
          exact ⟨rfl, rfl⟩
  | shutdown =>
      cases taken
      split
      · exact ⟨rfl, rfl⟩
      · exact ⟨rfl, rfl⟩
  | shutdownInLoop =>
      cases taken
      rw [TcpConnection.shutdownInLoop]
      split
      · exact ⟨rfl, rfl⟩
      · exact ⟨rfl, rfl⟩

theorem reports_unless_at_mark (mark : Nat) (s t : Established)
    (queued : t.queued.filter Notice.isHighWater =
      if mark < t.backlog ∧ s.backlog < mark then [.highWaterMark t.backlog] else []) :
    Reports mark s t ↔ ¬(s.backlog = mark ∧ mark < t.backlog) := by
  rw [Reports, queued]
  by_cases risen : mark < t.backlog
  · rcases Nat.lt_trichotomy s.backlog mark with below | level | above
    · simp [risen, below, Nat.le_of_lt below, Nat.ne_of_lt below]
    · simp [risen, level]
    · simp [risen, Nat.not_lt.mpr (Nat.le_of_lt above), Nat.not_le.mpr above, Nat.ne_of_gt above]
  · simp [risen]

theorem step_reports (mark : Nat) (positive : 0 < mark) (s t : Established) (label : ConnectionLabel)
    (watched : Watched mark s) (taken : s.step label = some t) :
    Watched mark t ∧ (Reports mark s t ↔ AwayFromMark mark s label) := by
  have isOpen := s.ready_open watched.isOpen
  have nextOpen := (step_shows s t label watched.isOpen taken).1
  by_cases sends : label.isSend = true
  · cases label with
    | sendInLoop data result =>
        have done := returned_some _ t taken
        obtain ⟨same, reports⟩ := s.ready.send_in_loop_reports t.conn data result t.queued isOpen done
        refine ⟨⟨nextOpen, same.callback.trans watched.callback, same.mark.trans watched.mark⟩, ?_⟩
        have queued : t.queued.filter Notice.isHighWater =
            if mark < t.backlog ∧ s.backlog < mark then [.highWaterMark t.backlog] else [] := by
          rw [reports, TcpConnection.notice, show s.ready.highWaterMark = mark from watched.mark,
            show s.ready.highWaterMarkCallback = true from watched.callback]
          simp only [and_true]
          rfl
        rw [reports_unless_at_mark mark s t queued]
        simp only [AwayFromMark, not_and]
        refine forall_congr' fun level => ?_
        have waiting : 0 < s.backlog := by
          rw [level]
          exact positive
        have size := s.ready.send_in_loop_behind t.conn data result t.queued isOpen waiting done
        change t.backlog = if s.conn.state = .kDisconnecting then s.backlog else s.backlog + data.bytes.length at size
        rw [size, level]
        by_cases closing : s.conn.state = .kDisconnecting
        · simp [closing]
        · simp [closing, List.length_pos_iff]
    | _ => cases sends
  · have allowed : AwayFromMark mark s label := by
      cases label with
      | sendInLoop data result => exact absurd rfl sends
      | _ => trivial
    have silent : t.queued.filter Notice.isHighWater = [] → t.backlog ≤ s.backlog → Reports mark s t := by
      intro nothing lower
      rw [Reports, nothing, if_neg]
      rintro ⟨below, above⟩
      omega
    by_cases flushes : ∃ result, label = .handleWrite result
    · obtain ⟨result, rfl⟩ := flushes
      have done := returned_some _ t taken
      obtain ⟨same, quiet⟩ := s.ready.handle_write_same_mark t.conn result t.queued done
      refine ⟨⟨nextOpen, same.callback.trans watched.callback, same.mark.trans watched.mark⟩, iff_of_true ?_ allowed⟩
      exact silent quiet (s.ready.handle_write_lowers t.conn result t.queued isOpen done)
    · have idle := step_idle s t label watched.isOpen taken (by simpa using sends) fun result same => flushes ⟨result, same⟩
      have same : TcpConnection.SameMark s.conn t.conn :=
        idle_same_mark s t label taken (by simpa using sends) fun result same => flushes ⟨result, same⟩
      refine ⟨⟨nextOpen, same.callback.trans watched.callback, same.mark.trans watched.mark⟩, iff_of_true ?_ allowed⟩
      exact silent (by rw [idle.queued, List.filter_nil]) (Nat.le_of_eq (congrArg Buffer.readableBytes idle.outputBuffer))

theorem above_silent (mark : Nat) (back rest : List ConnectionLabel) (s : Established)
    (reports : Across step (Reports mark) s (back ++ rest)) (above : Always step (fun t => mark < t.backlog) s back) :
    outputs step highWaterNotices s back = [] := by
  induction back generalizing s with
  | nil => rfl
  | cons label back ih =>
      cases taken : s.step label with
      | none => rw [outputs, taken]
      | some t =>
          obtain ⟨here, later⟩ := reports t taken
          have nothing : t.queued.filter Notice.isHighWater = [] :=
            here.trans (if_neg fun rises => Nat.not_le.mpr above.1 rises.1)
          rw [outputs_cons step highWaterNotices s t label back taken, ih t later (above.2 t taken), List.append_nil]
          exact nothing

theorem reported_once (mark : Nat) (s : Established) (labels : List ConnectionLabel)
    (reports : Across step (Reports mark) s labels) : ReportedOnce mark s labels := by
  rintro front label back rest u v rfl before low taken above
  obtain ⟨here, later⟩ := across_append step (Reports mark) s u front (label :: (back ++ rest)) reports before v taken
  have risen : mark < v.backlog := by
    cases back with
    | nil => exact above
    | cons label back => exact above.1
  have notice : v.queued.filter Notice.isHighWater = [.highWaterMark v.backlog] := here.trans (if_pos ⟨low, risen⟩)
  rw [outputs_cons step highWaterNotices u v label back taken, above_silent mark back rest v later above, List.append_nil]
  exact notice

end Established

theorem rise_reported_once (sockfd : Nat) (writeComplete : Bool) (mark : Nat) (c : TcpConnection)
    (labels : List ConnectionLabel) (s : Established) (positive : 0 < mark)
    (up : (TcpConnection.new sockfd writeComplete true mark).connectEstablished = .ok c)
    (ran : run Established.step ⟨c, []⟩ labels = some s) :
    (Across Established.step (Established.Reports mark) ⟨c, []⟩ labels ∧ Established.ReportedOnce mark ⟨c, []⟩ labels) ↔
      Guarded Established.step (Established.AwayFromMark mark) ⟨c, []⟩ labels := by
  rw [TcpConnection.new_connect_established] at up
  cases up
  have exactly := across_iff_guarded Established.step (Established.AwayFromMark mark) (fun _ => True)
    (Established.Watched mark) (Established.Reports mark) (fun s label t watched _ taken => by
      obtain ⟨after, reports⟩ := Established.step_reports mark positive s t label watched taken
      exact ⟨reports, fun _ => after⟩)
    ⟨TcpConnection.established sockfd writeComplete true mark, []⟩ s labels
    ⟨TcpConnection.established_open sockfd writeComplete true mark, rfl, rfl⟩ (fun _ _ => trivial) ran
  constructor
  · rintro ⟨reports, -⟩
    exact exactly.mp reports
  · intro away
    have reports := exactly.mpr away
    exact ⟨reports, Established.reported_once mark _ labels reports⟩

-- The backlog rises above the mark twice, with a flush in between.
def risesTwice : List ConnectionLabel :=
  [.sendInLoop (.ofBytes [65, 66, 67]) (.error .EWOULDBLOCK), .handleWrite (.room 2), .sendInLoop (.ofBytes [68, 69]) (.room 0)]

theorem rise_reported_once_twice :
    ∃ s, run Established.step ⟨TcpConnection.established 5 false true 2, []⟩ risesTwice = some s ∧
      Across Established.step (Established.Reports 2) ⟨TcpConnection.established 5 false true 2, []⟩ risesTwice := by
  have finished : (run Established.step ⟨TcpConnection.established 5 false true 2, []⟩ risesTwice).isSome := by
    decide +kernel
  obtain ⟨s, ran⟩ := Option.isSome_iff_exists.mp finished
  exact ⟨s, ran, ((rise_reported_once 5 false 2 _ risesTwice s (by decide)
    (TcpConnection.new_connect_established 5 false true 2) ran).mpr (by decide +kernel)).1⟩

-- Two bytes are just the mark, and the third one goes behind them unreported.
def risesFromMark : List ConnectionLabel :=
  [.sendInLoop (.ofBytes [65, 66]) (.error .EWOULDBLOCK), .sendInLoop (.ofBytes [67]) (.room 0)]

theorem rise_from_mark_unreported :
    (run Established.step ⟨TcpConnection.established 5 false true 2, []⟩ risesFromMark).map (fun s =>
      (s.backlog, s.queued)) = some (3, []) ∧
    ¬Across Established.step (Established.Reports 2) ⟨TcpConnection.established 5 false true 2, []⟩ risesFromMark := by
  have shown : (run Established.step ⟨TcpConnection.established 5 false true 2, []⟩ risesFromMark).map (fun s =>
      (s.backlog, s.queued)) = some (3, []) := by decide +kernel
  have level : (run Established.step ⟨TcpConnection.established 5 false true 2, []⟩ (risesFromMark.take 1)).map
      Established.backlog = some 2 := by decide +kernel
  refine ⟨shown, fun reports => ?_⟩
  obtain ⟨s, ran, after⟩ := Option.map_eq_some_iff.mp shown
  obtain ⟨size, queued⟩ := Prod.mk.inj after
  obtain ⟨u, first, before⟩ := Option.map_eq_some_iff.mp level
  obtain ⟨middle, front, second⟩ := (run_cons _ _ _ _ _).mp ran
  obtain ⟨last, taken, stop⟩ := (run_cons _ _ _ _ _).mp second
  obtain ⟨u', front', stop'⟩ := (run_cons _ _ _ _ _).mp first
  cases stop
  cases stop'
  obtain rfl := Option.some.inj (front'.symm.trans front)
  have missing := ((reports u front).2 s taken).1
  rw [Established.Reports, queued, before, size] at missing
  cases missing

end Cmuduo.Net
