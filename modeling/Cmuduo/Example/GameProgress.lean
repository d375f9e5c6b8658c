import Cmuduo.Example.GameDelivery

set_option autoImplicit false

namespace Cmuduo.Example

open Net Machine

-- Whatever has come, onMessage returns.
theorem GameServer.on_message_returns {κ : Type} [DecidableEq κ] (s : GameServer κ) (conn : κ) (randomNum : RandomNum)
    (valid : (s.inputBuffer conn).Valid) : ∃ t, s.onMessage conn randomNum = .ok t := by
  cases seated : s.seat conn with
  | none =>
      obtain ⟨-, t, answered, -⟩ := s.on_message_unseated conn randomNum seated
      exact ⟨t, answered⟩
  | some place => exact ⟨_, (s.on_message_seated conn randomNum place.1 place.2 seated valid).2⟩

-- The bytes of the call, if it is a send to the connection.
def Output.size {κ : Type} [DecidableEq κ] (conn : κ) : Output κ → Nat
  | .send other text => if other = conn then (content text).bytes.length else 0
  | .shutdown _ => 0

-- send and shutdown on the connection's own loop thread, once they have found it
-- kConnected: the call they make, and what shutdown stores before it.
def Output.task : Output ConnId → Task
  | .send _ text => .sendInLoop (.direct (content text))
  | .shutdown _ => .shutdownInLoop

def Output.store (conn : Connection) : Output ConnId → Connection
  | .send _ _ => conn
  | .shutdown _ => System.setState conn .kDisconnecting

def Output.answer (result : WriteResult) : Output ConnId → Answer
  | .send _ _ => .write result
  | .shutdown _ => .none

namespace Program

def callbackLabel (randomNum : RandomNum) : Task → ProgramLabel
  | .messageCallback => .onMessage randomNum
  | _ => .onConnection

-- What the thread of the loop does next in a callback: the sendInLoop under way, whose
-- ::write answers the result, the next call, or the return. Nothing handles SIGPIPE,
-- so that the program ends where ::write fails with EPIPE.
def nextLabel (s : Program) (result : WriteResult) : Option ProgramLabel :=
  match (s.system.loops mainLoop).todo with
  | .task _ (.sendInLoop _) :: _ =>
      if result = .error .EPIPE then none else some (.server (.exec mainLoop (.write result)))
  | .task _ _ :: _ => some (.server (.exec mainLoop .none))
  | .user :: _ => some (if s.made < s.game.output.length then .call else .server (.userReturns mainLoop))
  | [] => none

def goOn (s : Program) (result : WriteResult) : Option Program := (s.nextLabel result).bind s.step

-- What the callback under way still has to send to the connection.
def unsaid (s : Program) (id : ConnId) : Nat := ((s.game.output.drop s.made).map (Output.size id)).sum

-- The output buffers of those it sends to have room for it.
def Fits (s : Program) : Prop :=
  ∀ call ∈ s.game.output.drop s.made, ∀ conn ∈ s.system.conns call.conn,
    s.unsaid call.conn + conn.tcp.outputBuffer.writeIndex ≤ maxSize

instance (s : Program) : Decidable s.Fits := by unfold Fits; infer_instance

section
variable {player : PlayerId → Player ConnId} {room : RoomId → GameRoom} {s : Program} {past : List (LobbyLabel ConnId)}

theorem front_found (s : System) (l : LoopId) (id : ConnId) (task : Task) (rest : List Job) (home : System.Home s)
    (todo : (s.loops l).todo = .task id task :: rest) : ∃ conn, s.conns id = some conn := by
  have placed := (home.loops l).todo id task (by simp [todo])
  obtain ⟨conn, found, -⟩ := Option.map_eq_some_iff.mp placed
  exact ⟨conn, found⟩

-- A callback is no more to the loop than that it is in code of the user.
theorem callback_called (s : System) (id : ConnId) (task : Task) (rest : List Job) (conn : Connection)
    (todo : (s.loops mainLoop).todo = .task id task :: rest) (calls : task.callsBack = true)
    (found : s.conns id = some conn) :
    ∃ t, s.step (.exec mainLoop .none) = some t ∧ (t.loops mainLoop).todo = .user :: rest := by
  obtain ⟨next, done⟩ : ∃ next : Connection, conn.perform s.read task .none = some { next.plain with userCode := true } := by
    cases task with
    | connectionCallback closing => exact ⟨_, rfl⟩
    | messageCallback => exact ⟨_, rfl⟩
    | _ => cases calls
  refine ⟨s.apply mainLoop id rest { next.plain with userCode := true }, ?_, ?_⟩
  · simp [System.step, todo, System.call, found, done]
  · simp [System.apply_loops, System.jobs, Connection.plain]

theorem connection_enabled (id : ConnId) (closing : Bool) (rest : List Job) (hosted : Hosted (.new player room) s past)
    (todo : (s.system.loops mainLoop).todo = .task id (.connectionCallback closing) :: rest) :
    ∃ t, s.step .onConnection = some t ∧ (t.system.loops mainLoop).todo = .user :: rest := by
  obtain ⟨conn, found⟩ := front_found s.system mainLoop id _ rest hosted.settles.1 todo
  obtain ⟨system, called, after⟩ := callback_called s.system id _ rest conn todo rfl found
  exact ⟨⟨system, s.game.onConnection id conn.tcp.connected, s.made⟩, by simp [step, todo, found, called], after⟩

theorem message_enabled (id : ConnId) (rest : List Job) (randomNum : RandomNum) (hosted : Hosted (.new player room) s past)
    (todo : (s.system.loops mainLoop).todo = .task id .messageCallback :: rest) :
    ∃ t, s.step (.onMessage randomNum) = some t ∧ (t.system.loops mainLoop).todo = .user :: rest := by
  obtain ⟨conn, found⟩ := front_found s.system mainLoop id _ rest hosted.settles.1 todo
  obtain ⟨next, settling⟩ := front_settling s.system mainLoop id _ rest conn hosted.settles todo found (by simp)
  have attended := met_attended _ _ (System.view_found s.system id conn found ▸ hosted.clients id) settling
  have reading := attended.reading
  rw [next, List.filter_cons_of_pos rfl] at reading
  have valid : conn.tcp.inputBuffer.Valid := by
    generalize (tasksOf id rest).filter Task.takesIn = tasks at reading
    cases reading with
    | waiting _ here => simp at here
    | message n arrived received => exact (Buffer.read_fd_since _ _ _ n (hosted.readable id) received).1
  obtain ⟨game, answered⟩ := (s.handed id conn).on_message_returns id randomNum (by simpa [handed] using valid)
  obtain ⟨system, called, after⟩ := callback_called (s.system.retrieved id conn (game.inputBuffer id)) id .messageCallback
    rest (conn.withTcp (conn.tcp.withInput (game.inputBuffer id))) todo rfl (by simp [System.retrieved, System.setConn])
  rw [handed] at answered
  exact ⟨⟨system, game, s.made⟩, by simp [step, todo, found, answered, called], after⟩

theorem callback_enabled (id : ConnId) (task : Task) (rest : List Job) (randomNum : RandomNum)
    (hosted : Hosted (.new player room) s past) (todo : (s.system.loops mainLoop).todo = .task id task :: rest)
    (calls : task.callsBack = true) :
    ∃ t, s.step (callbackLabel randomNum task) = some t ∧ (t.system.loops mainLoop).todo = .user :: rest := by
  cases task with
  | connectionCallback closing => exact connection_enabled id closing rest hosted todo
  | messageCallback => exact message_enabled id rest randomNum hosted todo
  | _ => cases calls

theorem call_label_calls (s : System) (call : Output ConnId) :
    s.step (callLabel call) = s.userCall mainLoop call.conn call.task call.store := by
  cases call <;> rfl

-- A call of a callback is on a connection that has come up.
theorem call_enabled (call : Output ConnId) (later : List (Output ConnId)) (rest : List Job)
    (hosted : Hosted (.new player room) s past) (calling : Calling s)
    (todo : (s.system.loops mainLoop).todo = .user :: rest) (next : s.game.output.drop s.made = call :: later) :
    ∃ v system, s.system.view call.conn = some v ∧ v.Settling ∧
      s.system.userCall mainLoop call.conn call.task call.store = some system := by
  have heard := (hosted_speaks hosted).2 call (List.mem_of_mem_drop (next ▸ List.mem_cons_self))
  obtain ⟨v, seen, settling⟩ := heard_settled call.conn hosted heard
  have published : v.conn.published = true := by
    rw [phases, s.system.heard_seen call.conn v seen] at heard
    cases published : v.conn.published with
    | true => rfl
    | false => exact absurd (by simp [phase, published]) heard
  have found := System.view_conn s.system call.conn v seen
  have own := calling.turns.here call.conn v.conn found
  have allowed : (s.system.userCall mainLoop call.conn call.task call.store).isSome := by
    simp [System.userCall, todo, found, own, published]
  obtain ⟨system, moved⟩ := Option.isSome_iff_exists.mp allowed
  exact ⟨v, system, seen, settling, moved⟩

-- What the rest of the program keeps, from its start on.
structure Reached (player : PlayerId → Player ConnId) (room : RoomId → GameRoom) (s : Program) : Prop where
  hosted : ∃ past, Hosted (.new player room) s past
  calling : Calling s

theorem step_reached (s t : Program) (label : ProgramLabel) (reached : Reached player room s) (taken : s.step label = some t) :
    Reached player room t := by
  obtain ⟨past, hosted⟩ := reached.hosted
  have after := step_hosted t label hosted taken
  exact ⟨⟨_, after⟩, step_calling s t label reached.calling hosted.settles (hosted_grows t _ hosted after) taken⟩

theorem run_reached (name : List Char) (listen : Base.InetAddress) (labels : List ProgramLabel) (s : Program)
    (ran : run step (.new name listen player room) labels = some s) : Reached player room s :=
  invariant step (Reached player room) (fun s label t reached taken => step_reached s t label reached taken) _ s labels
    ⟨⟨[], new_hosted name listen player room⟩, new_calling name listen player room⟩ ran

-- The loop is in a callback that has room for all that it says.
structure Answering (player : PlayerId → Player ConnId) (room : RoomId → GameRoom) (rest : List Job) (s : Program) : Prop
    extends Reached player room s where
  todo : (s.system.loops mainLoop).todo = .user :: rest
  fits : s.Fits

-- One call of the output is made, which adds no more than its bytes to its buffer.
theorem fits_called (s t : Program) (call : Output ConnId) (later : List (Output ConnId))
    (next : s.game.output.drop s.made = call :: later) (fits : s.Fits) (game : t.game = s.game) (made : t.made = s.made + 1)
    (grows : ∀ id, ∀ conn ∈ t.system.conns id, ∃ old ∈ s.system.conns id,
      conn.tcp.outputBuffer.writeIndex ≤ old.tcp.outputBuffer.writeIndex + call.size id) : t.Fits := by
  have left : t.game.output.drop t.made = later := by
    rw [game, made, ← List.drop_drop, next]
    rfl
  intro other member conn found
  obtain ⟨old, before, index⟩ := grows other.conn conn found
  have room := fits other (next ▸ List.mem_cons_of_mem call (left ▸ member)) old before
  have said : s.unsaid other.conn = call.size other.conn + t.unsaid other.conn := by simp [unsaid, next, left]
  omega

theorem call_performs (call : Output ConnId) (conn : Connection) (read : Captured → Option CppString) (result : WriteResult)
    (isOpen : conn.tcp.Open) (room : call.size call.conn + conn.tcp.outputBuffer.writeIndex ≤ maxSize) :
    ∃ (after : Connection) (queue : List Task),
      (call.store conn).perform read call.task (call.answer result) = some { after.plain with queue := queue } ∧
      after.tcp.outputBuffer.writeIndex ≤ conn.tcp.outputBuffer.writeIndex + call.size call.conn := by
  cases call with
  | send id text =>
      rw [show (Output.send id text).size (Output.send id text).conn = (content text).bytes.length from if_pos rfl] at room ⊢
      obtain ⟨tcp, notices, sent, index⟩ := conn.tcp.send_in_loop_fits (content text) result isOpen room
      refine ⟨conn.withTcp tcp, notices.map .notice, ?_, index⟩
      simp [Output.store, Output.task, Output.answer, Connection.perform, Connection.sendInLoop, sent]
  | shutdown id =>
      refine ⟨(System.setState conn .kDisconnecting).withTcp (conn.tcp.setState .kDisconnecting).shutdownInLoop, [], rfl, ?_⟩
      have same := (conn.tcp.setState .kDisconnecting).shutdown_in_loop_streams.outputBuffer
      exact Nat.le_of_eq (congrArg Buffer.writeIndex same)

theorem next_carries (call : Output ConnId) (more : List Job) (result : WriteResult)
    (todo : (s.system.loops mainLoop).todo = .task call.conn call.task :: more) (survives : result ≠ .error .EPIPE) :
    s.nextLabel result = some (.server (.exec mainLoop (call.answer result))) := by
  cases call with
  | send id text => simp [nextLabel, todo, Output.task, Output.answer, survives]
  | shutdown id => simp [nextLabel, todo, Output.task, Output.answer]

theorem exec_taken (id : ConnId) (task : Task) (rest : List Job) (conn : Connection) (answer : Answer) (effect : Effect)
    (todo : (s.system.loops mainLoop).todo = .task id task :: rest) (found : s.system.conns id = some conn)
    (own : task.callsBack = false) (done : conn.perform s.system.read task answer = some effect) :
    s.step (.server (.exec mainLoop answer)) = some ⟨s.system.apply mainLoop id rest effect, s.game, s.made⟩ := by
  simp [step, Unattended, inCallback, todo, own, System.step, System.call, found, done]

-- A call that has found its connection kConnected is carried out in the step after it,
-- and the thread is in the callback again.
theorem passed_carried (call : Output ConnId) (later : List (Output ConnId)) (result : WriteResult) (rest : List Job)
    (conn : Connection) (system : System) (answering : Answering player room rest s)
    (next : s.game.output.drop s.made = call :: later) (found : s.system.conns call.conn = some conn)
    (isOpen : conn.tcp.Open) (survives : result ≠ .error .EPIPE) (reached : Reached player room ⟨system, s.game, s.made + 1⟩)
    (todo : (system.loops mainLoop).todo = .task call.conn call.task :: .user :: rest)
    (conns : system.conns = Function.update s.system.conns call.conn (some (call.store conn))) :
    ∃ t, Answering player room rest t ∧ t.game = s.game ∧ t.made = s.made + 1 ∧
      goOn ⟨system, s.game, s.made + 1⟩ result = some t := by
  have fits : call.size call.conn + conn.tcp.outputBuffer.writeIndex ≤ maxSize := by
    have all := answering.fits call (next ▸ List.mem_cons_self) conn found
    have part : call.size call.conn ≤ s.unsaid call.conn := by simp [unsaid, next]
    omega
  obtain ⟨after, queue, done, index⟩ := call_performs call conn system.read result isOpen fits
  have own : call.task.callsBack = false := by cases call <;> rfl
  have carried := exec_taken (s := ⟨system, s.game, s.made + 1⟩) call.conn call.task (.user :: rest) (call.store conn)
    (call.answer result) _ todo (by simp [conns]) own done
  refine ⟨_, ⟨step_reached _ _ _ reached carried, ?_, ?_⟩, rfl, rfl, ?_⟩
  · simp [System.apply_loops, System.jobs, Connection.plain]
  · refine fits_called s _ call later next answering.fits rfl rfl fun id other member => ?_
    simp only [System.apply_conns, conns, Function.update_idem] at member
    by_cases same : id = call.conn
    · subst same
      rw [Function.update_self] at member
      obtain rfl := Option.some.inj member
      exact ⟨conn, found, index⟩
    · rw [Function.update_of_ne same] at member
      exact ⟨other, member, Nat.le_add_right _ _⟩
  · rw [goOn, next_carries call _ result todo survives]
    exact carried

theorem call_carried (call : Output ConnId) (later : List (Output ConnId)) (first second : WriteResult) (rest : List Job)
    (answering : Answering player room rest s) (next : s.game.output.drop s.made = call :: later)
    (survives : second ≠ .error .EPIPE) :
    ∃ t, Answering player room rest t ∧ t.game = s.game ∧ t.made = s.made + 1 ∧
      (s.goOn first = some t ∨ ∃ middle, s.goOn first = some middle ∧ middle.goOn second = some t) := by
  obtain ⟨past, hosted⟩ := answering.hosted
  obtain ⟨v, system, seen, settling, moved⟩ := call_enabled call later rest hosted answering.calling answering.todo next
  have more : s.made < s.game.output.length := by
    rw [← Nat.not_le, ← List.drop_eq_nil_iff]
    simp [next]
  have taken : s.step .call = some ⟨system, s.game, s.made + 1⟩ := by simp [step, next, call_label_calls, moved]
  have begins : s.goOn first = some ⟨system, s.game, s.made + 1⟩ := by simp [goOn, nextLabel, answering.todo, more, taken]
  have reached := step_reached s _ .call answering.toReached taken
  cases System.user_call_outcome s.system system mainLoop call.conn call.task call.store moved with
  | ignored =>
      refine ⟨_, ⟨reached, answering.todo, ?_⟩, rfl, rfl, .inl begins⟩
      exact fits_called s _ call later next answering.fits rfl rfl fun id conn found => ⟨conn, found, Nat.le_add_right _ _⟩
  | passes _ conn todo found _ _ connected =>
      have isOpen : conn.tcp.Open := by
        obtain rfl := Option.some.inj ((System.view_conn s.system call.conn v seen).symm.trans found)
        exact settling.isOpen (by rw [connected]; exact StateE.noConfusion)
      obtain ⟨t, after, game, made, carried⟩ := passed_carried call later second rest conn _ answering next found isOpen
        survives reached (by simp [answering.todo]) rfl
      exact ⟨t, after, game, made, .inr ⟨_, begins, carried⟩⟩

-- The induction is on the calls that are left.
theorem answering_returns (calls : Nat) (rest : List Job) (answers : List WriteResult) (s : Program)
    (answering : Answering player room rest s) (left : s.game.output.length - s.made = calls)
    (survives : .error .EPIPE ∉ answers) (enough : 2 * calls < answers.length) :
    ∃ used final, used <+: answers ∧ run goOn s used = some final ∧ (final.system.loops mainLoop).todo = rest ∧
      final.game = s.game ∧ final.made = s.game.output.length := by
  induction calls generalizing s answers with
  | zero =>
      obtain ⟨first, more, rfl⟩ := List.exists_cons_of_length_pos enough
      have all : s.made = s.game.output.length := Nat.le_antisymm answering.calling.made (Nat.le_of_sub_eq_zero left)
      refine ⟨[first], ⟨s.system.setTodo mainLoop rest, s.game, s.made⟩, ⟨more, rfl⟩, ?_, ?_, rfl, all⟩
      · simp [run, goOn, nextLabel, answering.todo, all, step, Unattended, System.step]
      · simp
  | succ calls ih =>
      obtain ⟨first, behind, rfl⟩ := List.exists_cons_of_length_pos (Nat.zero_lt_of_lt enough)
      obtain ⟨second, more, rfl⟩ := List.exists_cons_of_length_pos (l := behind) (by simp at enough; omega)
      obtain ⟨call, later, next⟩ := List.exists_cons_of_length_pos (l := s.game.output.drop s.made) (by simp; omega)
      simp only [List.mem_cons, not_or] at survives
      obtain ⟨t, after, game, made, steps⟩ := call_carried call later first second rest answering next (Ne.symm survives.2.1)
      have fewer : t.game.output.length - t.made = calls := by
        rw [game, made]
        omega
      rw [List.length_cons, List.length_cons] at enough
      rcases steps with once | ⟨middle, begins, carried⟩
      · obtain ⟨used, final, front, ran, todo, same, done⟩ := ih (second :: more) t after fewer
          (by simpa using survives.2) (by rw [List.length_cons]; omega)
        exact ⟨first :: used, final, (List.prefix_cons_inj first).mpr front, (run_cons _ _ _ _ _).mpr ⟨t, once, ran⟩, todo,
          same.trans game, game ▸ done⟩
      · obtain ⟨used, final, front, ran, todo, same, done⟩ := ih more t after fewer survives.2.2 (by omega)
        exact ⟨first :: second :: used, final,
          (List.prefix_cons_inj first).mpr ((List.prefix_cons_inj second).mpr front),
          (run_cons _ _ _ _ _).mpr ⟨middle, begins, (run_cons _ _ _ _ _).mpr ⟨t, carried, ran⟩⟩, todo, same.trans game,
          game ▸ done⟩

end

end Program

-- A callback that is the next of its loop comes to its end, whatever has come and
-- whoever is gone: it can be called, and unless a ::write of it answers EPIPE or an
-- output buffer cannot become that long, it has made all its calls and is back in the
-- loop within two steps a call.
theorem callbacks_return (name : List Char) (listen : Base.InetAddress) (player : PlayerId → Player ConnId)
    (room : RoomId → GameRoom) (labels : List ProgramLabel) (s : Program) (id : ConnId) (task : Task) (rest : List Job)
    (randomNum : RandomNum) (ran : run Program.step (.new name listen player room) labels = some s)
    (todo : (s.system.loops mainLoop).todo = .task id task :: rest) (calls : task.callsBack = true) :
    ∃ called, s.step (Program.callbackLabel randomNum task) = some called ∧
      ∀ answers : List WriteResult, .error .EPIPE ∉ answers → called.Fits →
        answers.length = 2 * (called.game.output.length - called.made) + 1 →
        ∃ used final, used <+: answers ∧ run Program.goOn called used = some final ∧
          (final.system.loops mainLoop).todo = rest ∧ final.game = called.game ∧
          final.made = called.game.output.length := by
  have reached : Program.Reached player room s := Program.run_reached name listen labels s ran
  obtain ⟨past, hosted⟩ := reached.hosted
  obtain ⟨called, taken, here⟩ := Program.callback_enabled id task rest randomNum hosted todo calls
  refine ⟨called, taken, fun answers survives fits enough => ?_⟩
  exact Program.answering_returns _ rest answers called ⟨Program.step_reached s called _ reached taken, here, fits⟩ rfl
    survives (by omega)

-- The first player has gone down when the second one hits him.
def hitsDeparted : List ProgramLabel :=
  meetOnLoop ++ [.server (.swap mainLoop), .server (.iterate mainLoop),
    .server (.poll mainLoop [(1, EPOLLIN), (2, EPOLLIN)]), .server (.dispatch mainLoop),
    .server (.exec mainLoop (.read (.arrived []))), .server (.exec mainLoop .none), .onConnection, .server (.userReturns mainLoop),
    .server (.exec mainLoop .none), .server (.exec mainLoop .none), .server (.dispatch mainLoop),
    .server (.exec mainLoop (.read (.arrived [97])))]

-- The socket of the second one takes two bytes, and then none.
def answersBusy : List WriteResult := .room 9 :: .room 2 :: List.replicate 11 (.room 0)

theorem callbacks_return_departed :
    ∃ s called used final, run Program.step serving hitsDeparted = some s ∧ Program.phases s.system 1 = .down ∧
      s.step (.onMessage fixedDamage) = some called ∧ (called.game.player 0).hp = 150 ∧
      called.made + 6 = called.game.output.length ∧ used <+: answersBusy ∧ run Program.goOn called used = some final ∧
      (final.system.loops mainLoop).todo = [] ∧ final.made = called.game.output.length := by
  have facts : (run Program.step serving hitsDeparted).map (fun s => ((s.system.loops mainLoop).todo,
      Program.phases s.system 1)) = some ([.task 2 .messageCallback], .down) := by decide +kernel
  obtain ⟨s, ran, shown⟩ := Option.map_eq_some_iff.mp facts
  obtain ⟨next, down⟩ := Prod.mk.inj shown
  obtain ⟨called, taken, returns⟩ := callbacks_return _ _ _ _ hitsDeparted s 2 .messageCallback [] fixedDamage ran next rfl
  have after : (run Program.step serving (hitsDeparted ++ [.onMessage fixedDamage])).map (fun s =>
      ((s.game.player 0).hp, decide (s.made + 6 = s.game.output.length), decide s.Fits)) = some (150, true, true) := by
    decide +kernel
  have here : run Program.step serving (hitsDeparted ++ [.onMessage fixedDamage]) = some called :=
    (run_append _ _ _ _ _).mpr ⟨s, ran, (run_cons _ _ _ _ _).mpr ⟨called, taken, rfl⟩⟩
  rw [here] at after
  simp only [Option.map_some, Option.some.injEq, Prod.mk.injEq, decide_eq_true_eq] at after
  obtain ⟨hit, calls, fits⟩ := after
  obtain ⟨used, final, front, went, todo, -, made⟩ := returns answersBusy (by decide) fits (by
    rw [← calls, Nat.add_sub_cancel_left]
    rfl)
  exact ⟨s, called, used, final, ran, down, taken, hit, calls, front, went, todo, made⟩

end Cmuduo.Example
