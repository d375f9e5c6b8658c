import Cmuduo.Net.TcpConnection

set_option autoImplicit false

namespace Cmuduo.Net.TcpConnection

-- A connection between connectEstablished and its close: registered for
-- reading, and for writing exactly while the output buffer holds bytes.
structure Open (c : TcpConnection) : Prop where
  valid : c.outputBuffer.Valid
  registered : Registered () c.channel c.slot
  events : c.channel.events = if c.outputBuffer.readable = [] then KReadEvent else KReadEvent ||| KWriteEvent

def established (sockfd : Nat) (writeComplete highWater : Bool) (mark : Nat) : TcpConnection :=
  { new sockfd writeComplete highWater mark with
    state := .kConnected
    channel := ⟨sockfd, KReadEvent, kAdded, true⟩
    slot := ⟨some (), some (KReadEvent, ())⟩ }

theorem new_connect_established (sockfd : Nat) (writeComplete highWater : Bool) (mark : Nat) :
    (new sockfd writeComplete highWater mark).connectEstablished =
      .ok (established sockfd writeComplete highWater mark) := by
  have added := update_unregistered () ⟨sockfd, KNoneEvent ||| KReadEvent, kNew, true⟩ (Slot.empty (κ := Unit)) ⟨rfl, rfl⟩
  simp only [connectEstablished, tieAndEnableReading, enableReading, Channel.enableReading, setState, new, Channel.new,
    added, withChannel]
  rfl

theorem established_open (sockfd : Nat) (writeComplete highWater : Bool) (mark : Nat) :
    Open (established sockfd writeComplete highWater mark) :=
  { valid := Buffer.new_valid kInitiaSize
    registered := ⟨rfl, rfl⟩
    events := (if_pos (Buffer.new_readable kInitiaSize)).symm }

theorem open_writing (c : TcpConnection) (isOpen : Open c) :
    c.channel.isWriting = true ↔ c.outputBuffer.readable ≠ [] := by
  rw [Channel.isWriting, isOpen.events]
  by_cases empty : c.outputBuffer.readable = [] <;> simp [empty, KReadEvent, KWriteEvent, EPOLLIN, EPOLLPRI, EPOLLOUT]

theorem open_not_writing (c : TcpConnection) (isOpen : Open c) :
    c.channel.isWriting = false ↔ c.outputBuffer.readable = [] := by
  have writing := open_writing c isOpen
  cases flag : c.channel.isWriting <;> simp_all

structure SameSocket (c next : TcpConnection) : Prop where
  state : next.state = c.state
  wire : next.wire = c.wire
  taken : next.taken = c.taken
  shutWr : next.shutWr = c.shutWr

theorem registered_set_mask (c : TcpConnection) (mask : EventMask) (registered : Registered () c.channel c.slot)
    (wanted : mask ≠ KNoneEvent) :
    c.withChannel (EpollPoller.updateChannel () { c.channel with events := mask } c.slot) =
      .ok { c with
        channel := { c.channel with events := mask }
        slot := { c.slot with interest := some (mask, ()) } } := by
  have present : c.slot.interest.isSome := by rw [registered.2]; rfl
  rw [update_registered () { c.channel with events := mask } c.slot registered.1 present wanted]
  rfl

theorem with_channel_inversion (c next : TcpConnection) (result : Except Stop (Channel × Slot Unit))
    (done : c.withChannel result = .ok next) : ∃ channel slot, next = { c with channel := channel, slot := slot } := by
  cases result with
  | error stop => cases done
  | ok pair =>
      cases done
      exact ⟨pair.1, pair.2, rfl⟩

-- The ways through bufferRemaining: there is nothing left to append, or it is
-- appended and write interest is there already or is turned on.
inductive Buffers (c next : TcpConnection) (rest : CppString) (notices : List Notice) : List Notice → Prop where
  | nothing (empty : rest.bytes.length = 0) (same : next = c) : Buffers c next rest notices notices
  | appends (buffer : Buffer) (some : rest.bytes.length ≠ 0) (appended : c.outputBuffer.append rest.bytes = .ok buffer)
      (turned : c.channel.isWriting = true ∧ next = { c with outputBuffer := buffer } ∨
        c.channel.isWriting = false ∧ ({ c with outputBuffer := buffer } : TcpConnection).enableWriting = .ok next) :
      Buffers c next rest notices
        (if sizeAdd c.outputBuffer.readableBytes rest.bytes.length > c.highWaterMark ∧
            c.outputBuffer.readableBytes < c.highWaterMark ∧ c.highWaterMarkCallback then
          notices ++ [.highWaterMark (sizeAdd c.outputBuffer.readableBytes rest.bytes.length)]
        else notices)

theorem buffer_remaining_buffers (c next : TcpConnection) (rest : CppString) (notices queued : List Notice)
    (done : c.bufferRemaining rest notices = .ok (next, queued)) : Buffers c next rest notices queued := by
  by_cases empty : rest.bytes.length = 0
  · rw [bufferRemaining, if_pos empty] at done
    cases done
    exact .nothing empty rfl
  · simp only [bufferRemaining, if_neg empty] at done
    cases appended : c.outputBuffer.append rest.bytes with
    | error stop => simp [appended] at done
    | ok buffer =>
        simp only [appended] at done
        cases writing : c.channel.isWriting with
        | true =>
            simp only [writing, if_true, Except.ok.injEq, Prod.mk.injEq] at done
            exact done.2 ▸ .appends buffer empty appended (.inl ⟨writing, done.1.symm⟩)
        | false =>
            cases turned : ({ c with outputBuffer := buffer } : TcpConnection).enableWriting with
            | error stop => simp [writing, turned, Except.map] at done
            | ok after =>
                simp only [writing, turned, Except.map, Bool.false_eq_true, if_false, Except.ok.injEq,
                  Prod.mk.injEq] at done
                exact done.2 ▸ .appends buffer empty appended (.inr ⟨writing, done.1 ▸ turned⟩)

-- The ways through sendInLoop: the data is dropped, or is written past an empty
-- backlog as far as the kernel takes it, or is all buffered.
inductive Sends (c next : TcpConnection) (data : CppString) (queued : List Notice) : WriteResult → Prop where
  | refused (result : WriteResult) (closing : c.state = .kDisconnecting) (same : next = c) (silent : queued = []) :
      Sends c next data queued result
  | broken (errno : Errno) (accepted : c.state ≠ .kDisconnecting)
      (direct : (!c.channel.isWriting) = true ∧ c.outputBuffer.readableBytes = 0)
      (fault : errno = .EPIPE ∨ errno = .ECONNRESET) (same : next = c) (silent : queued = []) :
      Sends c next data queued (.error errno)
  | writes (count : Nat) (accepted : c.state ≠ .kDisconnecting)
      (direct : (!c.channel.isWriting) = true ∧ c.outputBuffer.readableBytes = 0)
      (done : (c.wrote (data.bytes.take count)).bufferRemaining (data.drop (data.bytes.take count).length)
        (if data.bytes.length - (data.bytes.take count).length = 0 ∧ c.writeCompleteCallback then [.writeComplete]
          else []) = .ok (next, queued)) : Sends c next data queued (.room count)
  | waits (result : WriteResult) (accepted : c.state ≠ .kDisconnecting)
      (behind : (!c.channel.isWriting) = true ∧ c.outputBuffer.readableBytes = 0 →
        ∃ errno, result = .error errno ∧ ¬(errno = .EPIPE ∨ errno = .ECONNRESET))
      (done : c.bufferRemaining data [] = .ok (next, queued)) : Sends c next data queued result

theorem send_in_loop_sends (c next : TcpConnection) (data : CppString) (result : WriteResult) (queued : List Notice)
    (done : c.sendInLoop data result = .ok (next, queued)) : Sends c next data queued result := by
  by_cases closing : c.state = .kDisconnecting
  · rw [sendInLoop, if_pos closing] at done
    cases done
    exact .refused result closing rfl rfl
  · by_cases direct : (!c.channel.isWriting) = true ∧ c.outputBuffer.readableBytes = 0
    · cases result with
      | room count =>
          simp only [sendInLoop, if_neg closing, if_pos direct, kernelWrite] at done
          exact .writes count closing direct done
      | error errno =>
          simp only [sendInLoop, if_neg closing, if_pos direct, kernelWrite] at done
          by_cases fault : errno = .EPIPE ∨ errno = .ECONNRESET
          · rw [if_pos fault] at done
            cases done
            exact .broken errno closing direct fault rfl rfl
          · rw [if_neg fault] at done
            exact .waits (.error errno) closing (fun _ => ⟨errno, rfl, fault⟩) done
    · simp only [sendInLoop, if_neg closing, if_neg direct] at done
      exact .waits result closing (fun idle => absurd idle direct) done

-- The ways through handleWrite: it writes nothing, part of the backlog, or the
-- last of it.
inductive Writes (c : TcpConnection) : TcpConnection → List Notice → Prop where
  | nothing : Writes c c []
  | partly (out : List UInt8) : Writes c (c.flushed out) []
  | fully (out : List UInt8) (quiet : TcpConnection) (disabled : (c.flushed out).disableWriting = .ok quiet) :
      Writes c (if quiet.state = .kDisconnecting then quiet.shutdownInLoop else quiet)
        (if quiet.writeCompleteCallback then [.writeComplete] else [])

theorem handle_write_writes (c next : TcpConnection) (result : WriteResult) (queued : List Notice)
    (done : c.handleWrite result = .ok (next, queued)) : Writes c next queued := by
  cases writing : c.channel.isWriting with
  | false =>
      simp only [handleWrite, writing, Bool.false_eq_true, if_false] at done
      cases done
      exact .nothing
  | true =>
      simp only [handleWrite, writing, if_true] at done
      split at done
      · cases done
      · cases done
        exact .nothing
      · next out offered =>
          split at done
          · cases done
            exact .nothing
          · split at done
            · cases disabled : (c.flushed out).disableWriting with
              | error stop => simp [disabled] at done
              | ok quiet =>
                  simp only [disabled, Except.ok.injEq, Prod.mk.injEq] at done
                  obtain ⟨rfl, rfl⟩ := done
                  exact .fully out quiet disabled
            · cases done
              exact .partly out

theorem buffer_remaining_open (c next : TcpConnection) (rest : CppString) (notices queued : List Notice)
    (isOpen : Open c) (done : c.bufferRemaining rest notices = .ok (next, queued)) :
    Open next ∧ SameSocket c next ∧ next.outputBuffer.readable = c.outputBuffer.readable ++ rest.bytes := by
  cases buffer_remaining_buffers c next rest notices queued done with
  | nothing empty same =>
      subst same
      exact ⟨isOpen, ⟨rfl, rfl, rfl, rfl⟩, by rw [List.length_eq_zero_iff.mp empty, List.append_nil]⟩
  | appends buffer some appended turned =>
      have fits : rest.bytes.length + c.outputBuffer.writeIndex < 2 ^ 64 := by
        have length := rest.fits
        have index := Nat.le_trans isOpen.valid.inside isOpen.valid.bounded
        unfold maxSize at length index
        omega
      obtain ⟨valid, bytes⟩ : buffer.Valid ∧ buffer.readable = c.outputBuffer.readable ++ rest.bytes := by
        rcases c.outputBuffer.append_outcome rest.bytes isOpen.valid fits with thrown | ⟨other, there, valid, bytes⟩
        · cases appended.symm.trans thrown
        · cases appended.symm.trans there
          exact ⟨valid, bytes⟩
      have filled : buffer.readable ≠ [] := by
        intro empty
        rw [empty] at bytes
        exact some (by rw [(List.append_eq_nil_iff.mp bytes.symm).2, List.length_nil])
      rcases turned with ⟨writing, rfl⟩ | ⟨writing, turned⟩
      · refine ⟨⟨valid, isOpen.registered, ?_⟩, ⟨rfl, rfl, rfl, rfl⟩, bytes⟩
        rw [if_neg filled, isOpen.events, if_neg ((open_writing c isOpen).mp writing)]
      · have empty := (open_not_writing c isOpen).mp writing
        have events : c.channel.events = KReadEvent := by rw [isOpen.events, if_pos empty]
        have armed := registered_set_mask { c with outputBuffer := buffer } (KReadEvent ||| KWriteEvent)
          isOpen.registered (by decide)
        rw [← events] at armed
        obtain rfl := Except.ok.inj (turned.symm.trans armed)
        refine ⟨⟨valid, ⟨isOpen.registered.1, rfl⟩, ?_⟩, ⟨rfl, rfl, rfl, rfl⟩, bytes⟩
        rw [if_neg filled, events]

-- What a call adds to the socket and to the stream: out went to the kernel, of
-- which the bytes of sent belong to the stream.
structure Extends (c next : TcpConnection) (out sent : List UInt8) : Prop where
  state : next.state = c.state
  shutWr : next.shutWr = c.shutWr
  wire : next.wire = c.wire ++ out
  taken : next.taken = c.taken ++ sent

theorem send_in_loop_refused (c next : TcpConnection) (data : CppString) (result : WriteResult) (queued : List Notice)
    (refused : c.state = .kDisconnecting) (done : c.sendInLoop data result = .ok (next, queued)) : next = c := by
  rw [sendInLoop, if_pos refused] at done
  cases done
  rfl

-- The stream equation of sendInLoop: unless it is refused or hits a broken
-- connection, all of data is either with the kernel or behind the backlog.
theorem send_in_loop_open (c next : TcpConnection) (data : CppString) (result : WriteResult) (queued : List Notice)
    (isOpen : Open c) (accepted : c.state ≠ .kDisconnecting)
    (unbroken : result ≠ .error .EPIPE ∧ result ≠ .error .ECONNRESET)
    (done : c.sendInLoop data result = .ok (next, queued)) :
    Open next ∧ ∃ out, Extends c next out out ∧
      out ++ next.outputBuffer.readable = c.outputBuffer.readable ++ data.bytes := by
  cases send_in_loop_sends c next data result queued done with
  | refused _ closing => exact absurd closing accepted
  | broken errno _ direct fault =>
      rcases fault with rfl | rfl
      · exact absurd rfl unbroken.1
      · exact absurd rfl unbroken.2
  | writes count _ direct rest =>
      have empty := (c.outputBuffer.readable_bytes_zero isOpen.valid).mp direct.2
      have moved : Open (c.wrote (data.bytes.take count)) := ⟨isOpen.valid, isOpen.registered, isOpen.events⟩
      obtain ⟨nextOpen, same, bytes⟩ := buffer_remaining_open _ next _ _ queued moved rest
      refine ⟨nextOpen, data.bytes.take count, ⟨same.state, same.shutWr, same.wire, same.taken⟩, ?_⟩
      rw [bytes, wrote, empty, List.nil_append, List.nil_append, taken_and_dropped]
  | waits _ _ behind rest =>
      obtain ⟨nextOpen, same, bytes⟩ := buffer_remaining_open c next data [] queued isOpen rest
      exact ⟨nextOpen, [], ⟨same.state, same.shutWr, by simp [same.wire], by simp [same.taken]⟩, bytes⟩

-- What ::write is offered by a flush: the readable region and, because the
-- count is writableBytes(), whatever lies between it and the count.
def offered (c : TcpConnection) : List UInt8 :=
  Region.slice c.outputBuffer.buffer c.outputBuffer.readerIndex (c.outputBuffer.readerIndex + c.outputBuffer.writableBytes)

theorem write_fd_offers (c : TcpConnection) (isOpen : Open c) (result : WriteResult) :
    c.outputBuffer.writeFd result = .ok (kernelWrite c.offered result) := by
  have writable := c.outputBuffer.writable_bytes_exact isOpen.valid
  have ordered := isOpen.valid.ordered
  have inside := isOpen.valid.inside
  rw [Buffer.writeFd, Buffer.read_out_ok _ _ _ (by omega), offered]

theorem disable_writing_open (c : TcpConnection) (registered : Registered () c.channel c.slot)
    (events : c.channel.events = KReadEvent ||| KWriteEvent) :
    c.disableWriting = .ok { c with
      channel := { c.channel with events := KReadEvent }
      slot := { c.slot with interest := some (KReadEvent, ()) } } := by
  have mask : (KReadEvent ||| KWriteEvent) &&& ~~~KWriteEvent = KReadEvent := by decide
  rw [disableWriting, Channel.disableWriting, events, mask]
  exact registered_set_mask c KReadEvent registered (by decide)

def flushOut (c : TcpConnection) (result : WriteResult) : List UInt8 :=
  if c.channel.isWriting then
    match kernelWrite c.offered result with
    | .ok out => out
    | .error _ => []
  else []

structure Flushes (c next : TcpConnection) (out : List UInt8) : Prop where
  state : next.state = c.state
  wire : next.wire = c.wire ++ out
  taken : next.taken = c.taken ++ c.outputBuffer.readable.take out.length
  left : next.outputBuffer.readable = c.outputBuffer.readable.drop out.length
  shutWr : next.shutWr = true → c.shutWr = true ∨ c.state = .kDisconnecting ∧ next.outputBuffer.readable = []

theorem flushes_nothing (c : TcpConnection) : Flushes c c [] :=
  ⟨rfl, (List.append_nil _).symm, (List.append_nil _).symm, rfl, .inl⟩

theorem flushed_partly (c : TcpConnection) (out : List UInt8) (isOpen : Open c) (writing : c.channel.isWriting = true)
    (filled : (c.outputBuffer.retrieve out.length).readable ≠ []) : Open (c.flushed out) := by
  refine ⟨c.outputBuffer.retrieve_valid out.length isOpen.valid, isOpen.registered, ?_⟩
  change c.channel.events = if (c.outputBuffer.retrieve out.length).readable = [] then _ else _
  rw [if_neg filled, isOpen.events, if_neg ((open_writing c isOpen).mp writing)]

theorem flushed_fully (c : TcpConnection) (out : List UInt8) (isOpen : Open c) (writing : c.channel.isWriting = true)
    (empty : (c.outputBuffer.retrieve out.length).readable = []) :
    ∃ quiet, (c.flushed out).disableWriting = .ok quiet ∧ Open quiet ∧ quiet.channel.isWriting = false ∧
      SameSocket (c.flushed out) quiet ∧ quiet.outputBuffer = c.outputBuffer.retrieve out.length ∧
      quiet.writeCompleteCallback = c.writeCompleteCallback := by
  have events : c.channel.events = KReadEvent ||| KWriteEvent := by
    rw [isOpen.events, if_neg ((open_writing c isOpen).mp writing)]
  refine ⟨_, disable_writing_open (c.flushed out) isOpen.registered events, ?_, ?_, ⟨rfl, rfl, rfl, rfl⟩, rfl, rfl⟩
  · exact ⟨c.outputBuffer.retrieve_valid out.length isOpen.valid, ⟨isOpen.registered.1, rfl⟩, (if_pos empty).symm⟩
  · change (KReadEvent &&& KWriteEvent != 0#32) = false
    decide

-- What a flush does on an open connection that waits to write, out being what
-- the kernel took: nothing, part of the backlog, or all of it. Only the last
-- case turns write interest off, notifies, and carries a pending shutdown out.
inductive FlushOutcome (c : TcpConnection) (out : List UInt8) : TcpConnection → List Notice → Prop where
  | nothing (refused : out = []) : FlushOutcome c out c []
  | partly (some : 0 < out.length) (isOpen : Open (c.flushed out))
      (filled : (c.outputBuffer.retrieve out.length).readable ≠ []) : FlushOutcome c out (c.flushed out) []
  | fully (next : TcpConnection) (some : 0 < out.length) (isOpen : Open next) (off : next.channel.isWriting = false)
      (buffer : next.outputBuffer = c.outputBuffer.retrieve out.length) (empty : next.outputBuffer.readable = [])
      (state : next.state = c.state) (wire : next.wire = c.wire ++ out)
      (taken : next.taken = c.taken ++ c.outputBuffer.readable.take out.length)
      (shutWr : next.shutWr = if c.state = .kDisconnecting then true else c.shutWr) :
      FlushOutcome c out next (if c.writeCompleteCallback then [.writeComplete] else [])

theorem handle_write_outcome (c : TcpConnection) (result : WriteResult) (isOpen : Open c)
    (writing : c.channel.isWriting = true) :
    ∃ next queued, c.handleWrite result = .ok (next, queued) ∧ FlushOutcome c (c.flushOut result) next queued := by
  simp only [handleWrite, flushOut, writing, if_true, write_fd_offers c isOpen]
  cases kernelWrite c.offered result with
  | error errno => exact ⟨c, [], rfl, .nothing rfl⟩
  | ok out =>
      by_cases nothing : out.length = 0
      · exact ⟨c, [], if_pos nothing, .nothing (List.length_eq_zero_iff.mp nothing)⟩
      · have some : 0 < out.length := Nat.pos_of_ne_zero nothing
        have valid := c.outputBuffer.retrieve_valid out.length isOpen.valid
        simp only [if_neg nothing]
        by_cases flushed : (c.flushed out).outputBuffer.readableBytes = 0
        · have empty := (Buffer.readable_bytes_zero _ valid).mp flushed
          obtain ⟨quiet, disabled, quietOpen, off, same, buffer, callback⟩ := flushed_fully c out isOpen writing empty
          have drained : quiet.outputBuffer.readable = [] := by rw [buffer]; exact empty
          have closing : quiet.state = .kDisconnecting ↔ c.state = .kDisconnecting := by rw [same.state]; rfl
          simp only [if_pos flushed, disabled, shutdownInLoop, off, Bool.false_eq_true, if_false, closing, callback]
          refine ⟨_, _, rfl, ?_⟩
          by_cases pending : c.state = .kDisconnecting
          · simp only [if_pos pending]
            exact .fully _ some ⟨quietOpen.valid, quietOpen.registered, quietOpen.events⟩ off buffer drained same.state
              same.wire same.taken (if_pos pending).symm
          · simp only [if_neg pending]
            exact .fully _ some quietOpen off buffer drained same.state same.wire same.taken
              (same.shutWr.trans (if_neg pending).symm)
        · have filled : (c.outputBuffer.retrieve out.length).readable ≠ [] := fun empty =>
            flushed ((Buffer.readable_bytes_zero _ valid).mpr empty)
          simp only [if_neg flushed]
          exact ⟨_, _, rfl, .partly some (flushed_partly c out isOpen writing filled) filled⟩

theorem handle_write_open (c next : TcpConnection) (result : WriteResult) (queued : List Notice)
    (isOpen : Open c) (done : c.handleWrite result = .ok (next, queued)) :
    Open next ∧ Flushes c next (c.flushOut result) := by
  cases writing : c.channel.isWriting with
  | false =>
      simp only [handleWrite, writing, Bool.false_eq_true, if_false, Except.ok.injEq, Prod.mk.injEq] at done
      obtain ⟨rfl, -⟩ := done
      simpa only [flushOut, writing, Bool.false_eq_true, if_false] using And.intro isOpen (flushes_nothing c)
  | true =>
      obtain ⟨after, notices, returned, outcome⟩ := handle_write_outcome c result isOpen writing
      rw [returned] at done
      cases done
      have left := c.outputBuffer.retrieve_readable (c.flushOut result).length isOpen.valid
      cases outcome with
      | nothing refused =>
          rw [refused]
          exact ⟨isOpen, flushes_nothing c⟩
      | partly some nextOpen filled => exact ⟨nextOpen, rfl, rfl, rfl, left, .inl⟩
      | fully next some nextOpen off buffer empty state wire taken shutWr =>
          refine ⟨nextOpen, state, wire, taken, by rw [buffer, left], fun issued => ?_⟩
          by_cases pending : c.state = .kDisconnecting
          · exact .inr ⟨pending, empty⟩
          · exact .inl (by rwa [shutWr, if_neg pending] at issued)

end Cmuduo.Net.TcpConnection
