import Cmuduo.Net.Server.Registration

set_option autoImplicit false

namespace Cmuduo.Net

open Machine

def Task.closes : Task → Bool
  | .handleClose | .connectDestroyed | .setDisconnected | .channelRemove => true
  | _ => false

def Task.sent : Task → Option CppString
  | .sendInLoop (.captured data) => some data.sent
  | _ => none

def Call.sent : Call → List CppString
  | .sending data => [data.sent]
  | _ => []

def Answer.Benign : Answer → Prop
  | .write (.error errno) | .stray _ (.error errno) => errno = .EWOULDBLOCK
  | _ => True

instance (answer : Answer) : Decidable answer.Benign := by
  unfold Answer.Benign
  split <;> infer_instance

-- The string that a queued sendInLoop points to is as it was at the call.
def Task.Intact (read : Captured → Option CppString) : Task → Prop
  | .sendInLoop (.captured data) => read data = some data.sent
  | _ => True

instance (read : Captured → Option CppString) (task : Task) : Decidable (task.Intact read) := by
  unfold Task.Intact
  split <;> infer_instance

def streamOf (strings : List CppString) : List UInt8 := strings.flatMap (·.bytes)

namespace View

def cargo (v : View) : List Task := (v.todo ++ v.queue).filter Task.carries

-- The strings of a thread's sends that sendInLoop has not processed yet.
def inFlight (v : View) (thread : ThreadId) : List CppString :=
  v.cargo.filterMap Task.sent ++ (v.calls thread).sent

-- A connection that is up and that one other thread uses.
structure Flowing (thread : ThreadId) (v : View) : Prop where
  up : Up v
  alone : ∀ other, other ≠ thread → v.calls other = .none
  cargo : ∀ task ∈ v.cargo, task = .shutdownInLoop ∨ ∃ data, task = .sendInLoop (.captured data)
  called : v.conn.called = v.conn.processed.map Prod.fst ++ v.inFlight thread
  stream : v.conn.tcp.taken ++ v.conn.tcp.outputBuffer.readable = streamOf (v.conn.processed.map Prod.fst)
  state : v.conn.tcp.state = .kConnected ∨ v.conn.tcp.state = .kDisconnecting ∧ v.inFlight thread = []
  shutdown : v.calls thread = .stored ∨ Task.shutdownInLoop ∈ v.cargo → v.conn.tcp.state = .kDisconnecting
  shutWr : v.conn.tcp.shutWr = true → v.conn.tcp.state = .kDisconnecting ∧ v.conn.tcp.outputBuffer.readable = []

-- The calls of one thread, each of which finds kConnected, and whatever the
-- loop does but for closing the connection.
def ByOneThread (thread : ThreadId) (v : View) : LifeLabel → Prop
  | .functor _ answer => (∀ task ∈ v.queue.head?, task.closes = false) ∧ answer.Benign
  | .exec _ answer => (∀ task ∈ v.todo.head?, task.closes = false) ∧ answer.Benign
  | .userSend _ | .userShutdown | .destroy => False
  | .send other _ | .shutdown other => other = thread ∧ v.conn.tcp.state = .kConnected
  | _ => True

-- shutdown stores kDisconnecting when no sendInLoop is queued, and each of these
-- runs while the caller's string is intact.
def StoresLast (v : View) : LifeLabel → Prop
  | .storeDisconnecting _ => v.cargo.filterMap Task.sent = []
  | .functor read _ => ∀ task ∈ v.queue.head?, task.Intact read
  | .exec read _ => ∀ task ∈ v.todo.head?, task.Intact read
  | _ => True

instance (thread : ThreadId) (v : View) : (life : LifeLabel) → Decidable (v.ByOneThread thread life)
  | .functor _ answer => inferInstanceAs (Decidable ((∀ task ∈ v.queue.head?, task.closes = false) ∧ answer.Benign))
  | .exec _ answer => inferInstanceAs (Decidable ((∀ task ∈ v.todo.head?, task.closes = false) ∧ answer.Benign))
  | .userSend _ | .userShutdown | .destroy => .isFalse id
  | .send other _ | .shutdown other => inferInstanceAs (Decidable (other = thread ∧ v.conn.tcp.state = .kConnected))
  | .poll _ | .dispatch | .mainFunctor | .queueSend _ | .storeDisconnecting _ | .queueShutdown _ => .isTrue trivial

instance (v : View) : (life : LifeLabel) → Decidable (v.StoresLast life)
  | .storeDisconnecting _ => inferInstanceAs (Decidable (v.cargo.filterMap Task.sent = []))
  | .functor read _ => inferInstanceAs (Decidable (∀ task ∈ v.queue.head?, task.Intact read))
  | .exec read _ => inferInstanceAs (Decidable (∀ task ∈ v.todo.head?, task.Intact read))
  | .poll _ | .dispatch | .mainFunctor | .userSend _ | .userShutdown | .send .. | .queueSend _ | .shutdown _
  | .queueShutdown _ | .destroy => .isTrue trivial

theorem established_flowing (thread : ThreadId) (v : View) (established : Established v) : Flowing thread v := by
  obtain ⟨sockfd, writeComplete, highWater, mark, same⟩ := established.tcp
  have empty : v.cargo = [] := by
    rw [cargo, established.todo, established.queue, destruction]
    split <;> rfl
  have quiet : v.inFlight thread = [] := by rw [inFlight, empty, established.calls]; rfl
  refine ⟨established_up v established, fun other _ => established.calls other, ?_, ?_, ?_, .inl ?_, ?_, ?_⟩
  · simp [empty]
  · rw [quiet, established.called, established.processed]
    rfl
  · rw [same, established.processed]
    exact Buffer.new_readable kInitiaSize
  · rw [same]
    rfl
  · rw [established.calls, empty]
    simp
  · rw [same]
    intro issued
    cases issued

section
variable {read : Captured → Option CppString} {conn : Connection} {task : Task} {rest : List Task} {answer : Answer}
  {effect : Effect}

theorem cargo_apply (v : View) (performs : Connection.Performs read conn task answer effect) :
    (v.apply rest effect).cargo = (rest ++ v.queue).filter Task.carries := by
  obtain ⟨front, queue⟩ := Connection.performs_carries performs
  have silent : (if (effect.remove && v.shared) = true then [Task.removeConnectionInLoop] else []).filter Task.carries =
      [] := by
    split <;> rfl
  simp only [cargo, apply, List.filter_append, front, queue, silent, List.nil_append, List.append_nil]

theorem cargo_next (v : View) (next : v.todo = task :: rest) :
    v.cargo = (if task.carries then [task] else []) ++ (rest ++ v.queue).filter Task.carries := by
  rw [cargo, next, List.cons_append, List.filter_cons]
  split <;> rfl

theorem performs_stays (performs : Connection.Performs read conn task answer effect) (stays : task.closes = false) :
    effect.conn.deregistered = conn.deregistered := by
  cases performs with
  | handleClose => cases stays
  | setDisconnected => cases stays
  | channelRemove => cases stays
  | _ => rfl

theorem exec_up (v : View) (up : Up v) (next : v.todo = task :: rest) (stays : task.closes = false)
    (performs : Connection.Performs read v.conn task answer effect) : Up (v.apply rest effect) := by
  rcases up_exec v up next performs with still | down
  · exact still
  · have gone : effect.conn.deregistered = true := down.deregistered
    rw [performs_stays performs stays, up.deregistered] at gone
    cases gone

-- A call that carries no data only moves bytes from the backlog to the kernel.
structure Passes (c next : TcpConnection) : Prop where
  state : next.state = c.state
  stream : next.taken ++ next.outputBuffer.readable = c.taken ++ c.outputBuffer.readable
  drained : c.outputBuffer.readable = [] → next.outputBuffer.readable = []
  shutWr : next.shutWr = true → c.shutWr = true ∨ c.state = .kDisconnecting ∧ next.outputBuffer.readable = []

theorem passes_refl (c : TcpConnection) : Passes c c := ⟨rfl, rfl, fun empty => empty, .inl⟩

theorem performs_passes (performs : Connection.Performs read conn task answer effect) (isOpen : conn.tcp.Open)
    (stays : task.closes = false) (notUp : task ≠ .connectEstablished) (light : task.carries = false) :
    Passes conn.tcp effect.conn.tcp ∧ effect.conn.called = conn.called ∧ effect.conn.processed = conn.processed := by
  cases performs with
  | handleRead result outcome tcp received =>
      obtain ⟨⟨buffer, rfl⟩, -⟩ := conn.tcp.handle_read_input tcp result outcome received
      exact ⟨⟨rfl, rfl, fun empty => empty, .inl⟩, rfl, rfl⟩
  | handleWrite result tcp notices flushed =>
      obtain ⟨-, flushes⟩ := conn.tcp.handle_write_open tcp result notices isOpen flushed
      refine ⟨⟨flushes.state, ?_, fun empty => ?_, flushes.shutWr⟩, rfl, rfl⟩
      · change tcp.taken ++ tcp.outputBuffer.readable = _
        rw [flushes.taken, flushes.left, List.append_assoc, List.take_append_drop]
      · change tcp.outputBuffer.readable = []
        rw [flushes.left, empty, List.drop_nil]
  | handleError => exact ⟨passes_refl _, rfl, rfl⟩
  | connectionCallback => exact ⟨passes_refl _, rfl, rfl⟩
  | messageCallback => exact ⟨passes_refl _, rfl, rfl⟩
  | closeCallback => exact ⟨passes_refl _, rfl, rfl⟩
  | removeConnectionInLoop => exact ⟨passes_refl _, rfl, rfl⟩
  | notice => exact ⟨passes_refl _, rfl, rfl⟩
  | connectEstablished => exact absurd rfl notUp
  | handleClose => cases stays
  | connectDestroyed => cases stays
  | setDisconnected => cases stays
  | channelRemove => cases stays
  | _ => cases light

theorem up_not_establishing (v : View) (up : Up v) (next : v.todo = task :: rest) : task ≠ .connectEstablished := by
  rintro rfl
  have todo := up.todo
  rw [next, core_touching .connectEstablished rest rfl] at todo
  simp [List.sublist_cons_iff] at todo

variable {thread : ThreadId}

theorem flowing_light (v : View) (flowing : Flowing thread v) (next : v.todo = task :: rest) (stays : task.closes = false)
    (light : task.carries = false) (performs : Connection.Performs read v.conn task answer effect) :
    Flowing thread (v.apply rest effect) := by
  have same : (v.apply rest effect).cargo = v.cargo := by
    rw [cargo_apply v performs, cargo_next v next, light]
    rfl
  have flight : (v.apply rest effect).inFlight thread = v.inFlight thread := by
    rw [inFlight, same]
    rfl
  obtain ⟨passes, called, processed⟩ := performs_passes performs flowing.up.isOpen stays
    (up_not_establishing v flowing.up next) light
  refine ⟨exec_up v flowing.up next stays performs, flowing.alone, ?_, ?_, ?_, ?_, ?_, ?_⟩
  · rw [same]
    exact flowing.cargo
  · rw [flight]
    change effect.conn.called = effect.conn.processed.map Prod.fst ++ _
    rw [called, processed]
    exact flowing.called
  · change effect.conn.tcp.taken ++ effect.conn.tcp.outputBuffer.readable = streamOf (effect.conn.processed.map Prod.fst)
    rw [passes.stream, processed]
    exact flowing.stream
  · rw [flight]
    exact passes.state ▸ flowing.state
  · rw [same]
    exact passes.state ▸ flowing.shutdown
  · intro issued
    rcases passes.shutWr issued with before | ⟨closing, empty⟩
    · obtain ⟨closing, empty⟩ := flowing.shutWr before
      exact ⟨passes.state.trans closing, passes.drained empty⟩
    · exact ⟨passes.state.trans closing, empty⟩

theorem flowing_send (v : View) (data : Captured) (flowing : Flowing thread v)
    (next : v.todo = .sendInLoop (.captured data) :: rest) (benign : answer.Benign) (intact : read data = some data.sent)
    (performs : Connection.Performs read v.conn (.sendInLoop (.captured data)) answer effect) :
    Flowing thread (v.apply rest effect) := by
  have before : v.cargo = .sendInLoop (.captured data) :: (v.apply rest effect).cargo := by
    rw [cargo_apply v performs, cargo_next v next]
    rfl
  have flight : v.inFlight thread = data.sent :: (v.apply rest effect).inFlight thread := by
    rw [inFlight, before]
    rfl
  have connected : v.conn.tcp.state = .kConnected := by
    refine flowing.state.resolve_right fun closing => ?_
    rw [flight] at closing
    cases closing.2
  have opens : v.conn.tcp.state ≠ .kDisconnecting := by rw [connected]; exact StateE.noConfusion
  have up := exec_up v flowing.up next rfl performs
  cases performs with
  | sendStray data memory result tcp notices missing => cases intact.symm.trans missing
  | sendCaptured data bytes result tcp notices found sent =>
      obtain rfl := Option.some.inj (intact.symm.trans found)
      have unbroken : result ≠ .error .EPIPE ∧ result ≠ .error .ECONNRESET := by
        constructor
        · rintro rfl
          cases benign
        · rintro rfl
          cases benign
      obtain ⟨-, out, extends_, bytes⟩ := v.conn.tcp.send_in_loop_open tcp data.sent result notices flowing.up.isOpen opens
        unbroken sent
      refine ⟨up, flowing.alone, ?_, ?_, ?_, .inl (extends_.state.trans connected), ?_, ?_⟩
      · exact fun task member => flowing.cargo task (before ▸ .tail _ member)
      · change v.conn.called = (v.conn.processed ++ [(data.sent, some data.sent)]).map Prod.fst ++ _
        rw [flowing.called, flight, List.map_append, List.append_assoc]
        rfl
      · change tcp.taken ++ tcp.outputBuffer.readable = streamOf ((v.conn.processed ++ [(data.sent, some data.sent)]).map Prod.fst)
        rw [extends_.taken, List.append_assoc, bytes, ← List.append_assoc, flowing.stream, List.map_append]
        simp [streamOf]
      · intro stopping
        refine absurd (flowing.shutdown ?_) opens
        exact stopping.imp_right fun member => before ▸ .tail _ member
      · intro issued
        exact absurd (flowing.shutWr (extends_.shutWr.symm.trans issued)).1 opens

theorem flowing_shutdown (v : View) (flowing : Flowing thread v) (next : v.todo = .shutdownInLoop :: rest)
    (performs : Connection.Performs read v.conn .shutdownInLoop answer effect) :
    Flowing thread (v.apply rest effect) := by
  have before : v.cargo = .shutdownInLoop :: (v.apply rest effect).cargo := by
    rw [cargo_apply v performs, cargo_next v next]
    rfl
  have flight : v.inFlight thread = (v.apply rest effect).inFlight thread := by
    rw [inFlight, before]
    rfl
  have closing := flowing.shutdown (.inr (before ▸ List.mem_cons_self))
  have up := exec_up v flowing.up next rfl performs
  cases performs with
  | shutdownInLoop answer =>
      obtain ⟨same, buffer, -, taken⟩ := v.conn.tcp.shutdown_in_loop_same
      have state : v.conn.tcp.shutdownInLoop.state = .kDisconnecting := same.state.trans closing
      refine ⟨up, flowing.alone, ?_, ?_, ?_, .inr ⟨state, ?_⟩, fun _ => state, fun issued => ⟨state, ?_⟩⟩
      · exact fun task member => flowing.cargo task (before ▸ .tail _ member)
      · rw [← flight]
        exact flowing.called
      · change v.conn.tcp.shutdownInLoop.taken ++ v.conn.tcp.shutdownInLoop.outputBuffer.readable = _
        rw [taken, buffer]
        exact flowing.stream
      · rw [← flight]
        rcases flowing.state with connected | ⟨-, nothing⟩
        · cases closing.symm.trans connected
        · exact nothing
      · change v.conn.tcp.shutdownInLoop.outputBuffer.readable = []
        rw [buffer]
        cases writing : v.conn.tcp.channel.isWriting with
        | false => exact (v.conn.tcp.open_not_writing flowing.up.isOpen).mp writing
        | true =>
            change v.conn.tcp.shutdownInLoop.shutWr = true at issued
            rw [TcpConnection.shutdownInLoop, if_pos writing] at issued
            exact (flowing.shutWr issued).2

theorem flowing_exec (v : View) (flowing : Flowing thread v) (next : v.todo = task :: rest)
    (stays : task.closes = false) (benign : answer.Benign) (intact : task.Intact read)
    (performs : Connection.Performs read v.conn task answer effect) : Flowing thread (v.apply rest effect) := by
  cases carries : task.carries with
  | false => exact flowing_light v flowing next stays carries performs
  | true =>
      have member : task ∈ v.cargo := by simp [cargo, next, carries]
      rcases flowing.cargo task member with rfl | ⟨data, rfl⟩
      · exact flowing_shutdown v flowing next performs
      · exact flowing_send v data flowing next benign intact performs

end

theorem flowing_fetch (thread : ThreadId) (v : View) (task : Task) (queue : List Task) (flowing : Flowing thread v)
    (idle : v.todo = []) (drained : v.active = []) (next : v.queue = task :: queue) :
    Flowing thread (v.fetch task queue) := by
  have same : (v.fetch task queue).cargo = v.cargo := by simp [cargo, fetch, idle, next]
  have flight : (v.fetch task queue).inFlight thread = v.inFlight thread := by
    rw [inFlight, same]
    rfl
  refine ⟨up_fetch v task queue flowing.up drained next, flowing.alone, ?_, ?_, flowing.stream, ?_, ?_, flowing.shutWr⟩
  · rw [same]
    exact flowing.cargo
  · rw [flight]
    exact flowing.called
  · rw [flight]
    exact flowing.state
  · rw [same]
    exact flowing.shutdown

theorem up_still (v w : View) (life : LifeLabel) (up : Up v) (moves : Moves v life w)
    (same : w.conn.deregistered = v.conn.deregistered) : Up w := by
  refine (up_moves v w life up moves).resolve_right fun down => ?_
  cases (same.trans up.deregistered).symm.trans down.deregistered

theorem cargo_light (v : View) (task : Task) (light : task.carries = false) :
    (v.todo ++ (v.queue ++ [task])).filter Task.carries = v.cargo := by
  rw [cargo, ← List.append_assoc, List.filter_append, List.filter_cons_of_neg (by simp [light]), List.filter_nil,
    List.append_nil]

theorem cargo_queued (v : View) (task : Task) (thread : ThreadId) (call : Call) (carries : task.carries = true) :
    ({ v with queue := v.queue ++ [task] }.setCall thread call).cargo = v.cargo ++ [task] := by
  change (v.todo ++ (v.queue ++ [task])).filter Task.carries = _
  rw [cargo, ← List.append_assoc, List.filter_append, List.filter_cons_of_pos carries, List.filter_nil]

theorem flowing_same_cargo (thread : ThreadId) (v w : View) (flowing : Flowing thread v) (up : Up w)
    (conn : w.conn = v.conn) (calls : w.calls = v.calls) (same : w.cargo = v.cargo) : Flowing thread w := by
  have flight : w.inFlight thread = v.inFlight thread := by rw [inFlight, same, calls]; rfl
  refine ⟨up, ?_, ?_, ?_, ?_, ?_, ?_, ?_⟩
  · rw [calls]
    exact flowing.alone
  · rw [same]
    exact flowing.cargo
  · rw [flight, conn]
    exact flowing.called
  · rw [conn]
    exact flowing.stream
  · rw [flight, conn]
    exact flowing.state
  · rw [calls, same, conn]
    exact flowing.shutdown
  · rw [conn]
    exact flowing.shutWr

theorem calling_thread (thread other : ThreadId) (v : View) (flowing : Flowing thread v) (calling : v.calls other ≠ .none) :
    other = thread := by
  by_contra different
  exact calling (flowing.alone other different)

theorem set_call_alone (thread : ThreadId) (v : View) (call : Call) (flowing : Flowing thread v) :
    ∀ other, other ≠ thread → Function.update v.calls thread call other = .none := by
  intro other different
  rw [Function.update_of_ne different]
  exact flowing.alone other different

theorem call_flight (thread : ThreadId) (v : View) (call : Call) (same : call.sent = (v.calls thread).sent) :
    (v.setCall thread call).inFlight thread = v.inFlight thread := by
  simp only [inFlight, setCall, Function.update_self, same]
  rfl

theorem flowing_queued (thread : ThreadId) (v : View) (task : Task) (flowing : Flowing thread v)
    (up : Up ({ v with queue := v.queue ++ [task] }.setCall thread .none)) (carries : task.carries = true)
    (kind : task = .shutdownInLoop ∨ ∃ data, task = .sendInLoop (.captured data))
    (sent : [task].filterMap Task.sent = (v.calls thread).sent)
    (closing : task = .shutdownInLoop → v.conn.tcp.state = .kDisconnecting) :
    Flowing thread ({ v with queue := v.queue ++ [task] }.setCall thread .none) := by
  have queued := cargo_queued v task thread .none carries
  have flight : inFlight ({ v with queue := v.queue ++ [task] }.setCall thread .none) thread = v.inFlight thread := by
    rw [inFlight, queued, List.filterMap_append, List.append_assoc, inFlight, sent]
    simp only [setCall, Function.update_self, Call.sent, List.append_nil]
  refine ⟨up, set_call_alone thread v _ flowing, fun other member => ?_, ?_, flowing.stream, ?_, ?_, flowing.shutWr⟩
  · rcases List.mem_append.mp (queued ▸ member) with old | new
    · exact flowing.cargo other old
    · rw [List.mem_singleton.mp new]
      exact kind
  · rw [flight]
    exact flowing.called
  · rw [flight]
    exact flowing.state
  · rintro (stopping | member)
    · simp [setCall] at stopping
    · rw [queued] at member
      rcases List.mem_append.mp member with old | new
      · exact flowing.shutdown (.inr old)
      · exact closing (List.mem_singleton.mp new).symm

theorem flowing_moves (thread : ThreadId) (v w : View) (life : LifeLabel) (flowing : Flowing thread v)
    (allowed : ByOneThread thread v life) (stores : StoresLast v life) (moves : Moves v life w) :
    Flowing thread w := by
  have still := up_still v w life flowing.up moves
  cases moves with
  | poll revents drained idle registered => exact flowing_same_cargo thread v _ flowing (still rfl) rfl rfl rfl
  | dispatch revents active idle next =>
      refine flowing_same_cargo thread v _ flowing (still rfl) rfl rfl ?_
      have light : (handleEventWithGuard revents).filter Task.carries = [] :=
        List.sublist_nil.mp ((dispatch_order revents).filter Task.carries)
      simp [cargo, idle, light]
  | functor read answer task queue effect idle drained next performs =>
      exact flowing_exec _ (flowing_fetch thread v task queue flowing idle drained next) rfl
        (allowed.1 task (by simp [next])) allowed.2 (stores task (by simp [next])) performs
  | exec read answer task rest effect next performs =>
      exact flowing_exec v flowing next (allowed.1 task (by simp [next])) allowed.2 (stores task (by simp [next])) performs
  | mainFunctor main next =>
      exact flowing_same_cargo thread v _ flowing (still rfl) rfl rfl (cargo_light v .connectDestroyed rfl)
  | ignored life published refused => exact flowing
  | userSend data published connected => exact allowed.elim
  | userShutdown published connected => exact allowed.elim
  | send other data calling published connected =>
      obtain ⟨rfl, -⟩ := allowed
      refine ⟨still rfl, set_call_alone other v _ flowing, flowing.cargo, ?_, flowing.stream, .inl connected, ?_,
        flowing.shutWr⟩
      · have called := flowing.called
        simp only [inFlight, calling, Call.sent, List.append_nil] at called
        simp only [inFlight, setCall, Function.update_self, Call.sent]
        rw [called, List.append_assoc]
        rfl
      · simp only [setCall, Function.update_self]
        exact fun stopping => flowing.shutdown (.inr (stopping.resolve_left Call.noConfusion))
  | queueSend other data calling =>
      obtain rfl := calling_thread thread other v flowing (by simp [calling])
      exact flowing_queued other v _ flowing (still rfl) rfl (.inr ⟨data, rfl⟩) (by rw [calling]; rfl) Task.noConfusion
  | shutdown other calling published connected =>
      obtain ⟨rfl, -⟩ := allowed
      have flight := call_flight other v .shuttingDown (by rw [calling]; rfl)
      refine ⟨still rfl, set_call_alone other v _ flowing, flowing.cargo, ?_, flowing.stream, ?_, ?_, flowing.shutWr⟩
      · rw [flight]
        exact flowing.called
      · rw [flight]
        exact flowing.state
      · simp only [setCall, Function.update_self]
        exact fun stopping => flowing.shutdown (.inr (stopping.resolve_left Call.noConfusion))
  | storeDisconnecting other calling =>
      obtain rfl := calling_thread thread other v flowing (by simp [calling])
      have nothing : v.cargo.filterMap Task.sent = [] := stores
      have before : v.inFlight other = [] := by rw [inFlight, nothing, calling]; rfl
      have after : ((v.setState .kDisconnecting).setCall other .stored).inFlight other = [] := by
        simp only [inFlight, setCall, Function.update_self, Call.sent, List.append_nil]
        exact nothing
      refine ⟨still rfl, set_call_alone other v _ flowing, flowing.cargo, ?_, flowing.stream, .inr ⟨rfl, after⟩,
        fun _ => rfl, fun issued => ⟨rfl, (flowing.shutWr issued).2⟩⟩
      rw [after, ← before]
      exact flowing.called
  | queueShutdown other calling =>
      obtain rfl := calling_thread thread other v flowing (by simp [calling])
      exact flowing_queued other v _ flowing (still rfl) rfl (.inl rfl) (by rw [calling]; rfl) fun _ =>
        flowing.shutdown (.inl calling)
  | destroyHere => exact allowed.elim
  | destroyThere => exact allowed.elim

def Sends (thread : ThreadId) (v : View) : Prop := Accepted v ∨ Flowing thread v

theorem sends_moves (thread : ThreadId) (v w : View) (life : LifeLabel) (sends : Sends thread v)
    (allowed : ByOneThread thread v life) (stores : StoresLast v life) (moves : Moves v life w) :
    Sends thread w := by
  rcases sends with accepted | flowing
  · rcases (accepted_moves v w life accepted moves).1 with waiting | established
    · exact .inl waiting
    · exact .inr (established_flowing thread w established)
  · exact .inr (flowing_moves thread v w life flowing allowed stores moves)

-- The strings of the thread's sends reach the kernel or the output buffer in
-- full and in order, none is dropped, and ::shutdown waits for all of them.
structure Delivers (thread : ThreadId) (v : View) : Prop where
  called : v.conn.called = v.conn.processed.map Prod.fst ++ v.inFlight thread
  stream : v.conn.tcp.taken ++ v.conn.tcp.outputBuffer.readable = streamOf (v.conn.processed.map Prod.fst)
  shutWr : v.conn.tcp.shutWr = true → v.conn.tcp.taken = streamOf v.conn.called

theorem sends_delivers (thread : ThreadId) (v : View) (sends : Sends thread v) : Delivers thread v := by
  rcases sends with accepted | flowing
  · obtain ⟨sockfd, writeComplete, highWater, mark, isNew⟩ := accepted.tcp
    have quiet : v.inFlight thread = [] := by
      rw [inFlight, accepted.calls, cargo]
      rcases accepted.waits with ⟨-, todo, queue, -⟩ | ⟨-, todo, queue⟩
      · rw [todo, queue]
        rfl
      · rw [todo, queue, destruction]
        split <;> rfl
    refine ⟨?_, ?_, fun issued => ?_⟩
    · rw [quiet, accepted.called, accepted.processed]
      rfl
    · rw [isNew, accepted.processed]
      exact Buffer.new_readable kInitiaSize
    · rw [isNew] at issued
      cases issued
  · refine ⟨flowing.called, flowing.stream, fun issued => ?_⟩
    obtain ⟨closing, empty⟩ := flowing.shutWr issued
    have nothing : v.inFlight thread = [] := by
      rcases flowing.state with connected | ⟨-, nothing⟩
      · cases closing.symm.trans connected
      · exact nothing
    have stream := flowing.stream
    rw [empty, List.append_nil] at stream
    rw [stream, flowing.called, nothing, List.append_nil]

end View

namespace System

def ByOneThread (id : ConnId) (thread : ThreadId) (s : System) (label : Label) : Prop :=
  s.Guards (fun other v life => other = id → v.ByOneThread thread life) label

def StoresLast (id : ConnId) (s : System) (label : Label) : Prop :=
  s.Guards (fun other v life => other = id → v.StoresLast life) label

instance (id : ConnId) (thread : ThreadId) (s : System) (label : Label) : Decidable (s.ByOneThread id thread label) :=
  inferInstanceAs (Decidable (s.Guards _ label))

instance (id : ConnId) (s : System) (label : Label) : Decidable (s.StoresLast id label) :=
  inferInstanceAs (Decidable (s.Guards _ label))

end System

theorem shutdown_after_sends (name : List Char) (listen : Base.InetAddress) (labels : List Label) (s : System)
    (id : ConnId) (thread : ThreadId) (conn : Connection)
    (byOneThread : Guarded System.step (System.ByOneThread id thread) (.new name listen) labels)
    (storesLast : Guarded System.step (System.StoresLast id) (.new name listen) labels)
    (ran : run System.step (.new name listen) labels = some s) (found : s.conns id = some conn) :
    View.Delivers thread (s.see id conn) := by
  have allowed := guarded_both System.step (System.ByOneThread id thread) (System.StoresLast id) (System.Guards _)
    (fun s l calls stores => System.guards_and _ _ s l stores calls) _ labels byOneThread storesLast
  have sends := System.every_view _ (fun other v => other = id → View.Sends thread v)
    (fun _ _ _ => ⟨fun _ => trivial, fun _ => trivial⟩) (fun _ v fresh _ => .inl (View.fresh_accepted v fresh))
    (fun _ v w life held may moves same =>
      View.sends_moves thread v w life (held same) (may.1 same) (may.2 same) moves)
    name listen labels s allowed ran
  exact View.sends_delivers thread _ (sends.2 id _ (System.view_found s id conn found) rfl)

def sendThenShutdown : List Label :=
  comesUp ++ [.overwrite 7 0 (.ofBytes [65]), .send 7 1 0, .queueSend 7, .poll 1 [], .swap 1,
    .functor 1 (.write (.error .EWOULDBLOCK)), .iterate 1, .shutdown 7 1, .storeDisconnecting 7, .queueShutdown 7,
    .poll 1 [(1, EPOLLOUT)], .dispatch 1, .exec 1 (.write (.room 1)), .swap 1, .functor 1 .none]

theorem shutdown_after_sends_flushed :
    ∃ s conn, run System.step listening sendThenShutdown = some s ∧ s.conns 1 = some conn ∧
      conn.tcp.shutWr = true ∧ conn.tcp.taken = [65] ∧ View.Delivers 7 (s.see 1 conn) := by
  obtain ⟨s, conn, ran, found, facts⟩ := outcome_found sendThenShutdown
    (fun _ conn => (conn.tcp.shutWr, conn.tcp.taken)) (true, [65]) (by decide +kernel)
  obtain ⟨issued, taken⟩ := Prod.mk.inj facts
  exact ⟨s, conn, ran, found, issued, taken, shutdown_after_sends _ _ sendThenShutdown s 1 7 conn (by decide +kernel)
    (by decide +kernel) ran found⟩

-- shutdown stores kDisconnecting while the sendInLoop of the send before it is
-- still queued: it is refused, and then ::shutdown is issued.
def shutdownOvertakes : List Label :=
  comesUp ++ [.overwrite 7 0 (.ofBytes [65]), .send 7 1 0, .queueSend 7, .shutdown 7 1, .storeDisconnecting 7,
    .queueShutdown 7, .poll 1 [], .swap 1, .functor 1 (.write (.room 1)), .functor 1 .none]

theorem send_lost_in_shutdown :
    Guarded System.step (System.ByOneThread 1 7) listening shutdownOvertakes ∧
    ∃ s conn, run System.step listening shutdownOvertakes = some s ∧ s.conns 1 = some conn ∧
      conn.called.map (·.bytes) = [[65]] ∧ conn.tcp.taken = [] ∧ conn.tcp.outputBuffer.readable = [] ∧
      conn.tcp.shutWr = true ∧ ¬View.Delivers 7 (s.see 1 conn) := by
  obtain ⟨s, conn, ran, found, facts⟩ := outcome_found shutdownOvertakes
    (fun _ conn => (conn.called.map (·.bytes), streamOf conn.called, conn.tcp.taken, conn.tcp.outputBuffer.readable,
      conn.tcp.shutWr)) ([[65]], [65], [], [], true) (by decide +kernel)
  simp only [Prod.mk.injEq] at facts
  obtain ⟨called, stream, taken, readable, issued⟩ := facts
  refine ⟨by decide +kernel, s, conn, ran, found, called, taken, readable, issued, fun delivers => ?_⟩
  have all : conn.tcp.taken = streamOf conn.called := delivers.shutWr issued
  rw [taken, stream] at all
  cases all

end Cmuduo.Net
