import Cmuduo.Net.Server.UserCode

set_option autoImplicit false

namespace Cmuduo.Net

open Machine

-- The tasks that call the user back on what the connection has done.
def Task.callsBack : Task → Bool
  | .connectionCallback _ | .messageCallback => true
  | _ => false

-- The tasks that a chunk passes through on its way to messageCallback_.
def Task.takesIn : Task → Bool
  | .handleRead | .messageCallback => true
  | _ => false

def LifeEvent.closes : LifeEvent → Bool
  | .connectionCallback closing _ => closing
  | _ => false

-- The user has been told that the connection is down.
def Connection.toldDown (conn : Connection) : Bool := conn.events.any LifeEvent.closes

-- The chunk that has been read since the input buffer was what it was.
def Buffer.since (old new : Buffer) : List UInt8 := new.readable.drop old.readable.length

theorem Buffer.read_fd_since (b next : Buffer) (bytes : List UInt8) (n : Nat) (valid : b.Valid)
    (read : b.readFd (.arrived bytes) = .ok (.ok n, next)) :
    next.Valid ∧ b.readFd (.arrived (b.since next)) = .ok (.ok n, next) := by
  have again : b.readFd (.arrived (bytes.take b.offeredBytes)) = b.readFd (.arrived bytes) := by
    have twice : (bytes.take b.offeredBytes).take b.offeredBytes = bytes.take b.offeredBytes := by
      rw [List.take_take, Nat.min_self]
    simp only [Buffer.readFd, kernelReadv, ← offered_bytes_exact, twice]
  rcases b.read_fd_arrived bytes valid with ⟨same, done, kept, all⟩ | ⟨thrown, -⟩
  · simp only [read, Except.ok.injEq, Prod.mk.injEq] at done
    obtain ⟨-, rfl⟩ := done
    rw [Buffer.since, all, List.drop_left, again]
    exact ⟨kept, read⟩
  · cases read.symm.trans thrown

theorem Buffer.read_fd_nothing (b next : Buffer) (bytes : List UInt8) (valid : b.Valid)
    (none : (bytes.take b.offeredBytes).length = 0) (read : b.readFd (.arrived bytes) = .ok (.ok 0, next)) : next = b := by
  have inside := valid.inside
  have bounded := valid.bounded
  have index : sizeAdd b.writeIndex 0 = b.writeIndex := size_add_exact _ _ (by unfold maxSize at bounded; omega)
  simp only [Buffer.readFd, kernelReadv, ← offered_bytes_exact, List.length_eq_zero_iff.mp none, List.take_nil,
    copy_into_ok b.buffer [] b.writeIndex inside, List.length_nil, Nat.zero_le, if_true, index, Region.overwrite,
    List.append_nil, Nat.add_zero, List.take_append_drop, Except.ok.injEq, Prod.mk.injEq, true_and] at read
  exact read.symm

namespace Connection

variable {read : Captured → Option CppString} {conn : Connection} {task : Task} {answer : Answer} {effect : Effect}

theorem performs_told (performs : Performs read conn task answer effect) (own : task.callsBack = false)
    (published : conn.events ≠ []) : effect.conn.events ≠ [] ∧ effect.conn.toldDown = conn.toldDown := by
  have more : ∀ event : LifeEvent, event.closes = false →
      conn.events ++ [event] ≠ [] ∧ (conn.events ++ [event]).any LifeEvent.closes = conn.toldDown := by
    intro event stays
    simp [toldDown, stays]
  cases performs with
  | connectionCallback => cases own
  | messageCallback => cases own
  | closeCallback => exact more .closeCallback rfl
  | connectDestroyed => exact more .connectDestroyed rfl
  | _ => exact ⟨published, rfl⟩

-- connectionCallback_ is next only at the end of connectEstablished or of a
-- handleClose.
theorem performs_callbacks (performs : Performs read conn task answer effect) (notUp : task ≠ .connectEstablished)
    (leaving : task.leaves = true → conn.tcp.state = .kDisconnected) (closing : Bool)
    (next : .connectionCallback closing ∈ effect.front) : closing = true ∧ effect.conn.tcp.state = .kDisconnected := by
  cases performs with
  | handleClose answer tcp disabled =>
      have closed := (TcpConnection.disable_all_mirrored _ tcp disabled).state
      simp only [List.mem_cons, Task.connectionCallback.injEq, reduceCtorEq, List.not_mem_nil, or_false] at next
      exact ⟨next, closed⟩
  | handleRead result outcome tcp received => cases outcome <;> simp [TcpConnection.ReadOutcome.next] at next
  | connectEstablished => exact absurd rfl notUp
  | connectDestroyed =>
      have closed := leaving rfl
      simp [closed] at next
  | _ => exact absurd next List.not_mem_nil

theorem performs_input (performs : Performs read conn task answer effect) (other : task ≠ .handleRead) :
    effect.conn.tcp.inputBuffer = conn.tcp.inputBuffer ∧ effect.front.filter Task.takesIn = [] := by
  cases performs with
  | handleClose answer tcp disabled => exact ⟨(TcpConnection.with_channel_streams _ tcp _ disabled).inputBuffer, rfl⟩
  | handleRead => exact absurd rfl other
  | handleWrite result tcp notices flushed => exact ⟨conn.tcp.handle_write_input tcp result notices flushed, rfl⟩
  | connectEstablished answer tcp up => exact ⟨(TcpConnection.with_channel_streams _ tcp _ up).inputBuffer, rfl⟩
  | connectDestroyed =>
      refine ⟨rfl, ?_⟩
      dsimp only [plain]
      split <;> rfl
  | setDisconnected answer tcp disabled => exact ⟨(TcpConnection.with_channel_streams _ tcp _ disabled).inputBuffer, rfl⟩
  | channelRemove answer tcp removed => exact ⟨(TcpConnection.with_channel_streams _ tcp _ removed).inputBuffer, rfl⟩
  | sendDirect data result tcp notices sent => exact ⟨conn.tcp.send_in_loop_input tcp data result notices sent, rfl⟩
  | sendCaptured data bytes result tcp notices found sent =>
      exact ⟨conn.tcp.send_in_loop_input tcp bytes result notices sent, rfl⟩
  | sendStray data memory result tcp notices missing long sent =>
      exact ⟨conn.tcp.send_in_loop_input tcp memory result notices sent, rfl⟩
  | shutdownInLoop => exact ⟨conn.tcp.shutdown_in_loop_streams.inputBuffer, rfl⟩
  | _ => exact ⟨rfl, rfl⟩

end Connection

namespace View

-- How far a chunk has come, with buffer as messageCallback_ has last left it.
inductive Receiving (c : TcpConnection) (buffer : Buffer) : List Task → Prop where
  | waiting (tasks : List Task) (here : tasks = [] ∨ tasks = [.handleRead]) (same : c.inputBuffer = buffer) :
      Receiving c buffer tasks
  | message (n : Nat) (some : 0 < n)
      (received : buffer.readFd (.arrived (buffer.since c.inputBuffer)) = .ok (.ok n, c.inputBuffer)) :
      Receiving c buffer [.messageCallback]

theorem receiving_same (c next : TcpConnection) {buffer : Buffer} {tasks : List Task}
    (same : next.inputBuffer = c.inputBuffer) (receiving : Receiving c buffer tasks) : Receiving next buffer tasks := by
  cases receiving with
  | waiting _ here still => exact .waiting _ here (same.trans still)
  | message n some received => exact .message n some (by rwa [same])

-- A connection between two callbacks of the user.
structure Attended (v : View) (buffer : Buffer) : Prop where
  unpublished : v.conn.events = [] → Established v
  opened : v.conn.events ≠ [] → .connectionCallback false ∉ v.todo
  closing : .connectionCallback true ∈ v.todo → v.conn.tcp.state = .kDisconnected
  reading : Receiving v.conn.tcp buffer (v.todo.filter Task.takesIn)

theorem established_attended (v : View) (established : Established v) : Attended v (Buffer.new kInitiaSize) := by
  obtain ⟨sockfd, writeComplete, highWater, mark, same⟩ := established.tcp
  refine ⟨fun _ => established, fun published => absurd established.events published, fun member => ?_, ?_⟩
  · rw [established.todo] at member
    simp at member
  · rw [established.todo, same]
    exact .waiting _ (.inl rfl) rfl

-- A connection the server has, or has not yet, with what its buffer was.
def Met (buffer : Buffer) : Option View → Prop
  | none => buffer = Buffer.new kInitiaSize
  | some v => Accepted v ∧ buffer = Buffer.new kInitiaSize ∨ Settling v ∧ Attended v buffer

-- Everything but the callbacks themselves.
def Apart (v : View) : LifeLabel → Prop
  | .exec _ _ => ∀ task rest, v.todo = task :: rest → task.callsBack = false
  | life => OnLoop life

theorem apart_on_loop (v : View) (life : LifeLabel) (apart : v.Apart life) : OnLoop life := by
  cases life with
  | exec read answer => trivial
  | _ => exact apart

section
variable {read : Captured → Option CppString} {answer : Answer} {effect : Effect} {task : Task} {rest : List Task}
  {buffer : Buffer}

theorem attended_events (v : View) (attended : Attended v buffer) (next : v.todo = task :: rest)
    (other : task ≠ .connectionCallback false) : v.conn.events ≠ [] := by
  intro none
  have callback := (attended.unpublished none).todo
  rw [next] at callback
  exact other (List.cons.inj callback).1

theorem apply_takes_in (v : View) :
    (v.apply rest effect).todo.filter Task.takesIn = effect.front.filter Task.takesIn ++ rest.filter Task.takesIn := by
  cases removes : effect.remove && v.shared <;> simp [apply, removes, Task.takesIn]

theorem attended_read (v : View) (result : ReadResult) (outcome : TcpConnection.ReadOutcome) (tcp : TcpConnection)
    (valid : buffer.Valid) (attended : Attended v buffer) (next : v.todo = .handleRead :: rest)
    (received : v.conn.tcp.handleRead result = .ok (outcome, tcp)) :
    Receiving tcp buffer ([outcome.next].filter Task.takesIn ++ rest.filter Task.takesIn) := by
  have reading := attended.reading
  rw [next, List.filter_cons_of_pos rfl] at reading
  generalize rest.filter Task.takesIn = tasks at reading ⊢
  cases reading with
  | waiting _ here same =>
      obtain rfl : tasks = [] := by simpa using here
      subst same
      cases result with
      | error errno =>
          simp only [TcpConnection.handleRead, Buffer.readFd, kernelReadv, Except.ok.injEq, Prod.mk.injEq] at received
          obtain ⟨rfl, rfl⟩ := received
          exact .waiting _ (.inl rfl) rfl
      | arrived bytes =>
          rcases v.conn.tcp.inputBuffer.read_fd_arrived bytes valid with ⟨after, read, -, all⟩ | ⟨thrown, -⟩
          · simp only [TcpConnection.handleRead, read, Except.ok.injEq, Prod.mk.injEq] at received
            obtain ⟨rfl, rfl⟩ := received
            split
            · next some => exact .message _ some (v.conn.tcp.inputBuffer.read_fd_since after bytes _ valid read).2
            · next nothing =>
                have none := Nat.eq_zero_of_not_pos nothing
                exact .waiting _ (.inl rfl) (v.conn.tcp.inputBuffer.read_fd_nothing after bytes valid none (none ▸ read))
          · simp [TcpConnection.handleRead, thrown] at received

theorem attended_exec (v : View) (valid : buffer.Valid) (settling : Settling v) (attended : Attended v buffer)
    (next : v.todo = task :: rest) (own : task.callsBack = false)
    (performs : Connection.Performs read v.conn task answer effect) :
    Attended (v.apply rest effect) buffer ∧ effect.conn.events ≠ [] ∧ effect.conn.toldDown = v.conn.toldDown := by
  have published := v.attended_events attended next (by rintro rfl; cases own)
  obtain ⟨still, told⟩ := Connection.performs_told performs own published
  have member : task ∈ v.todo := by simp [next]
  have notUp := (settling.todo task member).1
  have callbacks := Connection.performs_callbacks performs notUp (settling.leaving task (next_everywhere v next))
  have behind : ∀ other, other ∈ rest → other ∈ v.todo := fun other later => next ▸ List.mem_cons_of_mem task later
  refine ⟨⟨fun none => absurd none still, fun _ opening => ?_, fun closing => ?_, ?_⟩, still, told⟩
  · rcases v.apply_todo _ opening with front | same | later
    · cases (callbacks false front).1
    · cases same
    · exact attended.opened published (behind _ later)
  · rcases v.apply_todo _ closing with front | same | later
    · exact (callbacks true front).2
    · cases same
    · exact (performs_disconnects performs notUp).elim id fun same => same.1.trans (attended.closing (behind _ later))
  · rw [apply_takes_in]
    by_cases reads : task = .handleRead
    · subst reads
      cases performs with
      | handleRead result outcome tcp received => exact v.attended_read result outcome tcp valid attended next received
    · have reading := attended.reading
      have silent : task.takesIn = false := by
        cases task with
        | handleRead => exact absurd rfl reads
        | messageCallback => cases own
        | _ => rfl
      rw [next, List.filter_cons_of_neg (by simp [silent])] at reading
      obtain ⟨input, nothing⟩ := Connection.performs_input performs reads
      rw [nothing, List.nil_append]
      exact receiving_same _ _ input reading

theorem attended_idle (v : View) (attended : Attended v buffer) (idle : v.todo = []) :
    v.conn.events ≠ [] ∧ v.conn.tcp.inputBuffer = buffer := by
  refine ⟨fun none => ?_, ?_⟩
  · cases idle.symm.trans (attended.unpublished none).todo
  · have reading := attended.reading
    rw [idle] at reading
    cases reading with
    | waiting _ _ same => exact same

theorem attended_fetch (v : View) (queue : List Task) (attended : Attended v buffer) (idle : v.todo = [])
    (queued : task = .connectDestroyed ∨ ∃ notice, task = .notice notice) : Attended (v.fetch task queue) buffer := by
  obtain ⟨published, same⟩ := v.attended_idle attended idle
  refine ⟨fun none => absurd none published, fun _ opening => ?_, fun closing => ?_, ?_⟩
  · rcases queued with rfl | ⟨notice, rfl⟩ <;> cases List.mem_singleton.mp opening
  · rcases queued with rfl | ⟨notice, rfl⟩ <;> cases List.mem_singleton.mp closing
  · refine .waiting _ (.inl ?_) same
    rcases queued with rfl | ⟨notice, rfl⟩ <;> rfl

theorem attended_dispatch (v : View) (revents : EventMask) (active : List EventMask) (attended : Attended v buffer)
    (idle : v.todo = []) : Attended { v with active := active, todo := handleEventWithGuard revents } buffer := by
  obtain ⟨published, same⟩ := v.attended_idle attended idle
  have among := dispatch_order revents
  refine ⟨fun none => absurd none published, fun _ opening => ?_, fun closing => ?_, ?_⟩
  · simpa using among.subset opening
  · simpa using among.subset closing
  · exact .waiting _ (List.sublist_singleton.mp (among.filter Task.takesIn)) same

-- A call of the user on a connection that is up.
theorem attended_push (v : View) (conn : Connection) (attended : Attended v buffer) (published : v.conn.published = true)
    (connected : v.conn.tcp.state = .kConnected) (calls : task.carries = true) (events : conn.events = v.conn.events)
    (input : conn.tcp.inputBuffer = v.conn.tcp.inputBuffer) :
    Attended { v with conn := conn, todo := task :: v.todo } buffer := by
  have some : v.conn.events ≠ [] := by simpa [Connection.published] using published
  refine ⟨fun none => absurd (events ▸ none) some, fun _ opening => ?_, fun closing => ?_, ?_⟩
  · rcases List.mem_cons.mp opening with rfl | old
    · cases calls
    · exact attended.opened some old
  · rcases List.mem_cons.mp closing with rfl | old
    · cases calls
    · cases connected.symm.trans (attended.closing old)
  · have silent : task.takesIn = false := by cases task <;> first | rfl | cases calls
    rw [List.filter_cons_of_neg (by simp [silent])]
    exact receiving_same _ _ input attended.reading

theorem attended_moves (v w : View) (life : LifeLabel) (valid : buffer.Valid) (settling : Settling v)
    (attended : Attended v buffer) (apart : v.Apart life) (moves : Moves v life w) :
    Attended w buffer ∧ (w.conn.events = [] ↔ v.conn.events = []) ∧ w.conn.toldDown = v.conn.toldDown := by
  cases moves with
  | poll revents drained idle registered =>
      obtain ⟨published, -⟩ := v.attended_idle attended idle
      exact ⟨⟨fun none => absurd none published, attended.opened, attended.closing, attended.reading⟩, Iff.rfl, rfl⟩
  | dispatch revents active idle next => exact ⟨v.attended_dispatch revents active attended idle, Iff.rfl, rfl⟩
  | functor read answer task queue effect idle drained next performs =>
      have queued := settling.queue task (by simp [next])
      obtain ⟨published, -⟩ := v.attended_idle attended idle
      obtain ⟨after, still, told⟩ := attended_exec _ valid (settling_fetch v task queue settling idle drained next)
        (v.attended_fetch queue attended idle queued) rfl (by rcases queued with rfl | ⟨notice, rfl⟩ <;> rfl) performs
      exact ⟨after, iff_of_false still published, told⟩
  | exec read answer task rest effect next performs =>
      have own := apart task rest next
      obtain ⟨after, still, told⟩ := v.attended_exec valid settling attended next own performs
      exact ⟨after, iff_of_false still (v.attended_events attended next (by rintro rfl; cases own)), told⟩
  | mainFunctor main next =>
      refine ⟨⟨fun none => ?_, attended.opened, attended.closing, attended.reading⟩, Iff.rfl, rfl⟩
      cases next.symm.trans (attended.unpublished none).main
  | ignored life published refused => exact ⟨attended, Iff.rfl, rfl⟩
  | userSend data published connected =>
      exact ⟨v.attended_push v.conn attended published connected rfl rfl rfl, Iff.rfl, rfl⟩
  | userShutdown published connected =>
      exact ⟨v.attended_push _ attended published connected rfl rfl rfl, Iff.rfl, rfl⟩
  | send => exact apart.elim
  | shutdown => exact apart.elim
  | queueSend thread data calling => cases (settling.calls thread).symm.trans calling
  | storeDisconnecting thread calling => cases (settling.calls thread).symm.trans calling
  | queueShutdown thread calling => cases (settling.calls thread).symm.trans calling
  | destroyHere => exact apart.elim
  | destroyThere => exact apart.elim

end

-- What a callback leaves: the life event it is, if it is one, and what is to be
-- done after it.
def announced (c : TcpConnection) : Task → List LifeEvent
  | .connectionCallback closing => [.connectionCallback closing c.connected]
  | _ => []

section
variable {read : Captured → Option CppString} {answer : Answer} {task : Task} {rest : List Task} {buffer : Buffer}

theorem called_back (v w : View) (next : v.todo = task :: rest) (calls : task.callsBack = true)
    (called : v.step (.exec read answer) = some w) :
    w.todo = rest ∧ w.conn = { v.conn with events := v.conn.events ++ announced v.conn.tcp task } := by
  simp only [step, next] at called
  obtain ⟨effect, performs, rfl⟩ := call_performs v w _ rest read answer called
  cases performs with
  | connectionCallback => exact ⟨rfl, rfl⟩
  | messageCallback => exact ⟨rfl, by simp [apply, Connection.plain, announced]⟩
  | _ => cases calls

-- The first callback, which finds the connection up.
theorem callback_opens (v w : View) (attended : Attended v buffer) (next : v.todo = .connectionCallback false :: rest)
    (called : v.step (.exec read answer) = some w) :
    v.conn.events = [] ∧ v.conn.tcp.connected = true ∧ w.conn.events ≠ [] ∧ w.conn.toldDown = false ∧ Attended w buffer := by
  have none : v.conn.events = [] := by_contra fun some => attended.opened some (by simp [next])
  have established := attended.unpublished none
  obtain ⟨sockfd, writeComplete, highWater, mark, same⟩ := established.tcp
  obtain ⟨last, after⟩ := v.called_back w next rfl called
  have idle : w.todo = [] := by
    rw [last]
    exact (List.cons.inj (next.symm.trans established.todo)).2
  have reading := attended.reading
  rw [next, List.filter_cons_of_neg (by simp [Task.takesIn]), ← last, idle] at reading
  have some : w.conn.events ≠ [] := by simp [after, announced]
  refine ⟨none, by rw [same]; rfl, some, by simp [after, announced, Connection.toldDown, none, LifeEvent.closes], ?_⟩
  refine ⟨fun empty => absurd empty some, fun _ => by simp [idle], fun closing => by simp [idle] at closing, ?_⟩
  rw [idle]
  exact receiving_same v.conn.tcp _ (by rw [after]) reading

-- A later one, which finds it closed.
theorem callback_closes (v w : View) (attended : Attended v buffer) (next : v.todo = .connectionCallback true :: rest)
    (called : v.step (.exec read answer) = some w) :
    v.conn.events ≠ [] ∧ v.conn.tcp.connected = false ∧ w.conn.events ≠ [] ∧ w.conn.toldDown = true ∧ Attended w buffer := by
  have closed := attended.closing (by simp [next])
  have published : v.conn.events ≠ [] := v.attended_events attended next (by simp)
  obtain ⟨last, after⟩ := v.called_back w next rfl called
  have some : w.conn.events ≠ [] := by simp [after, announced]
  have behind : ∀ other, other ∈ w.todo → other ∈ v.todo := fun other later => by
    rw [last] at later
    simp [next, later]
  refine ⟨published, by simp [TcpConnection.connected, closed], some,
    by simp [after, announced, Connection.toldDown, LifeEvent.closes], ?_⟩
  refine ⟨fun empty => absurd empty some, fun _ opening => attended.opened published (behind _ opening), fun closing => ?_, ?_⟩
  · rw [after]
    exact closed
  · have reading := attended.reading
    rw [next, List.filter_cons_of_neg (by simp [Task.takesIn]), ← last] at reading
    exact receiving_same v.conn.tcp _ (by rw [after]) reading

-- A message, which finds the chunk read for it and may take from the buffer.
theorem callback_reads (v w : View) (left : Buffer) (attended : Attended v buffer) (next : v.todo = .messageCallback :: rest)
    (called : (v.withInput left).step (.exec read answer) = some w) :
    (∃ n, 0 < n ∧ buffer.readFd (.arrived (buffer.since v.conn.tcp.inputBuffer)) = .ok (.ok n, v.conn.tcp.inputBuffer)) ∧
      w.conn.events = v.conn.events ∧ Attended w left := by
  have published : v.conn.events ≠ [] := v.attended_events attended next (by simp)
  obtain ⟨last, after⟩ := (v.withInput left).called_back w next rfl called
  have events : w.conn.events = v.conn.events := by
    rw [after]
    exact List.append_nil _
  have behind : ∀ other, other ∈ w.todo → other ∈ v.todo := fun other later => by
    rw [last] at later
    simp [next, later]
  have reading := attended.reading
  rw [next, List.filter_cons_of_pos rfl, ← last] at reading
  generalize tail : w.todo.filter Task.takesIn = tasks at reading
  cases reading with
  | waiting _ here => simp at here
  | message n some received =>
      refine ⟨⟨n, some, received⟩, events, fun empty => absurd (events ▸ empty) published,
        fun _ opening => attended.opened published (behind _ opening), fun closing => ?_, ?_⟩
      · rw [after]
        exact attended.closing (behind _ closing)
      · rw [tail, after]
        exact .waiting _ (.inl rfl) rfl

end

end View

namespace System

-- What the user has been told of a connection: that it is up, and that it is down.
def heard (s : System) (id : ConnId) : Bool × Bool :=
  match s.conns id with
  | none => (false, false)
  | some conn => (conn.published, conn.toldDown)

theorem heard_seen (s : System) (id : ConnId) (v : View) (seen : s.view id = some v) :
    s.heard id = (v.conn.published, v.conn.toldDown) := by
  rw [heard, view_conn s id v seen]

theorem heard_unseen (s : System) (id : ConnId) (unseen : s.view id = none) : s.heard id = (false, false) := by
  have none : s.conns id = none := by simpa [view] using unseen
  rw [heard, none]

-- Nothing is told by what messageCallback_ has left in the buffer.
theorem retrieved_heard (s : System) (id other : ConnId) (conn : Connection) (buffer : Buffer)
    (found : s.conns id = some conn) : (s.retrieved id conn buffer).heard other = s.heard other := by
  by_cases here : other = id
  · rw [here, heard_seen _ id _ (s.retrieved_own id conn buffer), heard_seen s id _ (view_found s id conn found)]
    rfl
  · have same : (s.retrieved id conn buffer).conns other = s.conns other := Function.update_of_ne here _ _
    rw [heard, heard, same]

theorem heard_unpublished (s : System) (id : ConnId) (v : View) (seen : s.view id = some v) (events : v.conn.events = []) :
    s.heard id = (false, false) := by
  rw [heard_seen s id v seen]
  simp [Connection.published, Connection.toldDown, events]

theorem unseen_met (s t : System) (label : Label) (id : ConnId) (buffer : Buffer) (home : Home s)
    (before : s.view id = none) (same : buffer = Buffer.new kInitiaSize) (taken : s.step label = some t) :
    View.Met buffer (t.view id) ∧ t.heard id = (false, false) := by
  have unseen : s.conns id = none := by simpa [view] using before
  cases after : t.view id with
  | none => exact ⟨same, t.heard_unseen id after⟩
  | some w =>
      have accepted := View.fresh_accepted w (step_creates s t label id w home unseen taken after)
      exact ⟨.inl ⟨accepted, same⟩, t.heard_unpublished id w after accepted.events⟩

-- A step that is not a callback on this connection.
theorem step_met (s t : System) (label : Label) (id : ConnId) (buffer : Buffer) (valid : buffer.Valid)
    (settles : EveryView (fun _ => View.Settles) s) (onLoop : label.OnLoop)
    (apart : ∀ v life, s.view id = some v → s.lifeLabel id label = some life → v.Apart life)
    (met : View.Met buffer (s.view id)) (taken : s.step label = some t) :
    View.Met buffer (t.view id) ∧ t.heard id = s.heard id := by
  cases before : s.view id with
  | none =>
      rw [before] at met
      rw [s.heard_unseen id before]
      exact unseen_met s t label id buffer settles.1 before met taken
  | some v =>
      rw [before] at met
      rcases step_of_view s t label id v settles.1 onLoop taken before with ⟨-, after⟩ | ⟨life, w, about, -, moved, after⟩
      · rw [after, t.heard_seen id v after, s.heard_seen id v before]
        exact ⟨met, rfl⟩
      · have moves := View.step_moves v w life moved
        rw [after]
        rcases met with ⟨accepted, same⟩ | ⟨settling, attended⟩
        · rw [s.heard_unpublished id v before accepted.events]
          rcases (View.accepted_moves v w life accepted moves).1 with waiting | established
          · exact ⟨.inl ⟨waiting, same⟩, t.heard_unpublished id w after waiting.events⟩
          · have up := w.established_settled ((step_settles s t label settles onLoop taken).2 id w after) established
            exact ⟨.inr ⟨up, same ▸ w.established_attended established⟩, t.heard_unpublished id w after established.events⟩
        · have fine := apart v life before about
          obtain ⟨stays, events, told⟩ := v.attended_moves w life valid settling attended fine moves
          have onward := v.settling_moves w life settling (View.apart_on_loop v life fine) moves
          refine ⟨.inr ⟨onward, stays⟩, ?_⟩
          rw [t.heard_seen id w after, s.heard_seen id v before, told]
          simp [Connection.published, events]

end System

end Cmuduo.Net
