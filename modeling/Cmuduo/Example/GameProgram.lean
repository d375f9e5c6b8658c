import Cmuduo.Example.Delivery
import Cmuduo.Net.Server.Callbacks
import Cmuduo.Net.Server.SingleThread

set_option autoImplicit false

namespace Cmuduo.Example

open Net Machine

-- The program of main: the GameServer with its TcpServer, whose pool has no
-- threads. made counts the calls in output that the callback under way has made.
structure Program where
  system : System
  game : GameServer ConnId
  made : Nat

-- What the loop does by itself, the callback that is next, and the next call on a
-- connection in that callback.
inductive ProgramLabel where
  | server (label : Label)
  | onConnection
  | onMessage (randomNum : RandomNum)
  | call

namespace Program

def new (name : List Char) (listen : Base.InetAddress) (player : PlayerId → Player ConnId) (room : RoomId → GameRoom) :
    Program := ⟨.new name listen, .new player room, 0⟩

def inCallback (s : System) : Bool :=
  match (s.loops mainLoop).todo with
  | .task _ task :: _ => task.callsBack
  | _ => false

-- No other callback is set, and a callback returns when it has made its calls.
def Unattended (s : Program) : Label → Prop
  | .poll l _ | .dispatch l | .otherChannel l | .swap l | .functor l _ | .iterate l => l = mainLoop
  | .accept _ ioLoop writeComplete highWater _ => ioLoop = mainLoop ∧ writeComplete = false ∧ highWater = false
  | .exec l _ => l = mainLoop ∧ inCallback s.system = false
  | .userReturns l => l = mainLoop ∧ s.made = s.game.output.length
  | _ => False

instance (s : Program) : (label : Label) → Decidable (s.Unattended label)
  | .poll l _ | .dispatch l | .otherChannel l | .swap l | .functor l _ | .iterate l => inferInstanceAs (Decidable (l = mainLoop))
  | .accept _ ioLoop writeComplete highWater _ =>
      inferInstanceAs (Decidable (ioLoop = mainLoop ∧ writeComplete = false ∧ highWater = false))
  | .exec l _ => inferInstanceAs (Decidable (l = mainLoop ∧ inCallback s.system = false))
  | .userReturns l => inferInstanceAs (Decidable (l = mainLoop ∧ s.made = s.game.output.length))
  | .userSend .. | .userShutdown .. | .queueUser _ | .send .. | .queueSend _ | .shutdown .. | .storeDisconnecting _
  | .queueShutdown _ | .overwrite .. | .release .. | .destroy | .destroyConnection _ => .isFalse id

-- conn->send and conn->shutdown.
def callLabel : Output ConnId → Label
  | .send conn text => .userSend mainLoop conn (content text)
  | .shutdown conn => .userShutdown mainLoop conn

def step (s : Program) : ProgramLabel → Option Program
  | .server label => if s.Unattended label then (s.system.step label).map fun system => { s with system := system } else none
  | .onConnection =>
      match (s.system.loops mainLoop).todo with
      | .task id (.connectionCallback _) :: _ =>
          match s.system.conns id, s.system.step (.exec mainLoop .none) with
          | some conn, some system => some { s with system := system, game := s.game.onConnection id conn.tcp.connected }
          | _, _ => none
      | _ => none
  | .onMessage randomNum =>
      match (s.system.loops mainLoop).todo with
      | .task id .messageCallback :: _ =>
          match s.system.conns id with
          | none => none
          | some conn =>
              -- buf is the input buffer of the connection
              match { s.game with
                  inputBuffer := Function.update s.game.inputBuffer id conn.tcp.inputBuffer }.onMessage id randomNum with
              | .error _ => none
              | .ok game =>
                  ((s.system.retrieved id conn (game.inputBuffer id)).step (.exec mainLoop .none)).map fun system =>
                    { s with system := system, game := game }
      | _ => none
  | .call =>
      match s.game.output.drop s.made with
      | [] => none
      | call :: _ => (s.system.step (callLabel call)).map fun system => { s with system := system, made := s.made + 1 }

-- What the GameServer knows of a connection.
def phase : Bool × Bool → Phase
  | (false, _) => .before
  | (true, false) => .up
  | (true, true) => .down

def phases (s : System) (id : ConnId) : Phase := phase (s.heard id)

-- The step of the lobby that a callback is. A connection that is closed once more is
-- already down, and a chunk is what has come since the last message.
def plays (s : Program) (label : ProgramLabel) (_ : Program) : List (LobbyLabel ConnId) :=
  match label, (s.system.loops mainLoop).todo with
  | .onConnection, .task id (.connectionCallback false) :: _ => [.up id]
  | .onConnection, .task id (.connectionCallback true) :: _ => if phases s.system id = .up then [.down id] else []
  | .onMessage randomNum, .task id .messageCallback :: _ =>
      match s.system.conns id with
      | none => []
      | some conn => [.message id (.arrived ((s.game.inputBuffer id).since conn.tcp.inputBuffer)) randomNum]
  | _, _ => []

-- The game when onMessage is called.
def handed (s : Program) (id : ConnId) (conn : Connection) : GameServer ConnId :=
  { s.game with inputBuffer := Function.update s.game.inputBuffer id conn.tcp.inputBuffer }

inductive Steps (s : Program) : ProgramLabel → Program → Prop where
  | server (label : Label) (system : System) (unattended : s.Unattended label) (taken : s.system.step label = some system) :
      Steps s (.server label) { s with system := system }
  | onConnection (id : ConnId) (closing : Bool) (rest : List Job) (conn : Connection) (system : System)
      (todo : (s.system.loops mainLoop).todo = .task id (.connectionCallback closing) :: rest)
      (found : s.system.conns id = some conn) (called : s.system.step (.exec mainLoop .none) = some system) :
      Steps s .onConnection { s with system := system, game := s.game.onConnection id conn.tcp.connected }
  | onMessage (randomNum : RandomNum) (id : ConnId) (rest : List Job) (conn : Connection) (game : GameServer ConnId)
      (system : System) (todo : (s.system.loops mainLoop).todo = .task id .messageCallback :: rest)
      (found : s.system.conns id = some conn) (answered : (s.handed id conn).onMessage id randomNum = .ok game)
      (called : (s.system.retrieved id conn (game.inputBuffer id)).step (.exec mainLoop .none) = some system) :
      Steps s (.onMessage randomNum) { s with system := system, game := game }
  | call (call : Output ConnId) (rest : List (Output ConnId)) (system : System) (next : s.game.output.drop s.made = call :: rest)
      (taken : s.system.step (callLabel call) = some system) : Steps s .call { s with system := system, made := s.made + 1 }

theorem step_steps (s t : Program) (label : ProgramLabel) (taken : s.step label = some t) : Steps s label t := by
  cases label with
  | server label =>
      simp only [step, Option.ite_none_right_eq_some] at taken
      obtain ⟨unattended, taken⟩ := taken
      obtain ⟨system, moved, rfl⟩ := Option.map_eq_some_iff.mp taken
      exact .server label system unattended moved
  | onConnection =>
      simp only [step] at taken
      split at taken
      · next id closing rest todo =>
          split at taken
          · next conn system found called =>
              cases taken
              exact .onConnection id closing rest conn system todo found called
          · cases taken
      · cases taken
  | onMessage randomNum =>
      simp only [step] at taken
      split at taken
      · next id rest todo =>
          split at taken
          · cases taken
          · next conn found =>
              split at taken
              · cases taken
              · next game answered =>
                  obtain ⟨system, called, rfl⟩ := Option.map_eq_some_iff.mp taken
                  exact .onMessage randomNum id rest conn game system todo found answered called
      · cases taken
  | call =>
      simp only [step] at taken
      split at taken
      · cases taken
      · next call rest next =>
          obtain ⟨system, moved, rfl⟩ := Option.map_eq_some_iff.mp taken
          exact .call call rest system next moved

theorem unattended_on_loop (s : Program) (label : Label) (unattended : s.Unattended label) : label.OnLoop := by
  cases label <;> trivial

theorem call_guards (s : System) (call : Output ConnId) : s.Guards (fun _ => View.Apart) (callLabel call) := by
  cases call with
  | send conn text =>
      simp only [System.Guards, callLabel, System.target]
      split <;> trivial
  | shutdown conn =>
      simp only [System.Guards, callLabel, System.target]
      split <;> trivial

theorem call_on_loop (call : Output ConnId) : (callLabel call).OnLoop := by
  cases call <;> trivial

theorem unattended_guards (s : Program) (label : Label) (home : System.Home s.system) (unattended : s.Unattended label) :
    s.system.Guards (fun _ => View.Apart) label := by
  have onLoop := s.unattended_on_loop label unattended
  have guards := s.system.on_loop_guards label onLoop
  cases targeted : s.system.target label with
  | none => simp [System.Guards, targeted]
  | some pair =>
      obtain ⟨id, life⟩ := pair
      cases seen : s.system.view id with
      | none => simp [System.Guards, targeted, seen]
      | some v =>
          simp only [System.Guards, targeted, seen] at guards ⊢
          cases life with
          | exec read answer =>
              obtain ⟨l, task, rest, rfl, todo⟩ := s.system.target_exec label id read answer targeted
              obtain ⟨rfl, outside⟩ := unattended
              intro first later next
              have front := s.system.front_view mainLoop id task rest v home todo seen
              obtain ⟨rfl, -⟩ := List.cons.inj (front.symm.trans next)
              rwa [inCallback, todo] at outside
          | _ => exact guards

-- The lobby that the program plays, after the steps it has issued to it.
structure Hosted (start : Lobby ConnId) (s : Program) (past : List (LobbyLabel ConnId)) : Prop where
  settles : System.EveryView (fun _ => View.Settles) s.system
  clients : ∀ id, View.Met (s.game.inputBuffer id) (s.system.view id)
  readable : ∀ id, (s.game.inputBuffer id).Valid
  lobby : run Lobby.step start past = some ⟨s.game, phases s.system⟩

theorem new_hosted (name : List Char) (listen : Base.InetAddress) (player : PlayerId → Player ConnId)
    (room : RoomId → GameRoom) : Hosted (.new player room) (new name listen player room) [] :=
  ⟨System.new_every_view _ name listen, fun _ => rfl, fun _ => Buffer.new_valid kInitiaSize, rfl⟩

theorem front_settling (s : System) (l : LoopId) (id : ConnId) (task : Task) (rest : List Job) (conn : Connection)
    (settles : System.EveryView (fun _ => View.Settles) s) (todo : (s.loops l).todo = .task id task :: rest)
    (found : s.conns id = some conn) (other : task ≠ .connectEstablished) :
    (s.see id conn).todo = task :: tasksOf id rest ∧ (s.see id conn).Settling := by
  have seen := System.view_found s id conn found
  have next := s.front_view l id task rest _ settles.1 todo seen
  exact ⟨next, View.settles_settling _ task _ (settles.2 id _ seen) next other⟩

theorem met_attended (v : View) (buffer : Buffer) (met : View.Met buffer (some v)) (settling : View.Settling v) :
    View.Attended v buffer := by
  rcases met with ⟨accepted, -⟩ | ⟨-, attended⟩
  · exact absurd settling (v.accepted_unsettled accepted)
  · exact attended

section
variable {start : Lobby ConnId} {s : Program} {past : List (LobbyLabel ConnId)}

-- A step of the server leaves the game alone.
theorem server_hosted (system : System) (label : Label) (made : Nat) (hosted : Hosted start s past) (onLoop : label.OnLoop)
    (apart : s.system.Guards (fun _ => View.Apart) label) (taken : s.system.step label = some system) :
    Hosted start ⟨system, s.game, made⟩ past := by
  have each : ∀ id, View.Met (s.game.inputBuffer id) (system.view id) ∧ system.heard id = s.system.heard id := fun id =>
    System.step_met s.system system label id _ (hosted.readable id) hosted.settles onLoop
      (fun v life seen about => System.guards_life _ s.system label id v life (fun _ _ _ => trivial) apart seen about)
      (hosted.clients id) taken
  refine ⟨System.step_settles s.system system label hosted.settles onLoop taken, fun id => (each id).1, hosted.readable, ?_⟩
  have same : phases system = phases s.system := funext fun id => congrArg phase (each id).2
  rw [same]
  exact hosted.lobby

-- What a callback on one connection leaves of the others.
theorem elsewhere_met (s t : System) (id other : ConnId) (buffer : Buffer) (life : LifeLabel) (valid : buffer.Valid)
    (settles : System.EveryView (fun _ => View.Settles) s) (about : s.target (.exec mainLoop .none) = some (id, life))
    (different : other ≠ id) (met : View.Met buffer (s.view other)) (called : s.step (.exec mainLoop .none) = some t) :
    View.Met buffer (t.view other) ∧ t.heard other = s.heard other := by
  have quiet := System.life_label_other s other id _ life about (fun _ _ => Label.noConfusion)
  rw [if_neg (Ne.symm different)] at quiet
  exact System.step_met s t (.exec mainLoop .none) other buffer valid settles trivial (fun v life seen here => by cases quiet.symm.trans here)
    met called

theorem phases_update (s t : System) (id : ConnId) (others : ∀ other, other ≠ id → t.heard other = s.heard other) :
    phases t = Function.update (phases s) id (phase (t.heard id)) := by
  funext other
  by_cases here : other = id
  · rw [here, Function.update_self]
    rfl
  · rw [Function.update_of_ne here, phases, others other here]
    rfl

-- A callback: the connection it is on, and the step of the lobby that it is.
theorem called_hosted (system : System) (game : GameServer ConnId) (made : Nat) (id : ConnId) (w : View)
    (labels : List (LobbyLabel ConnId)) (hosted : Hosted start s past)
    (settles : System.EveryView (fun _ => View.Settles) system) (after : system.view id = some w) (settling : w.Settling)
    (attended : w.Attended (game.inputBuffer id)) (valid : (game.inputBuffer id).Valid)
    (input : ∀ other, other ≠ id → game.inputBuffer other = s.game.inputBuffer other)
    (others : ∀ other, other ≠ id →
      View.Met (s.game.inputBuffer other) (system.view other) ∧ system.heard other = s.system.heard other)
    (plays : run Lobby.step ⟨s.game, phases s.system⟩ labels =
      some ⟨game, Function.update (phases s.system) id (phase (w.conn.published, w.conn.toldDown))⟩) :
    Hosted start ⟨system, game, made⟩ (past ++ labels) := by
  refine ⟨settles, fun other => ?_, fun other => ?_, (run_append _ _ _ _ _).mpr ⟨_, hosted.lobby, ?_⟩⟩
  · by_cases here : other = id
    · rw [here, after]
      exact .inr ⟨settling, attended⟩
    · rw [input other here]
      exact (others other here).1
  · by_cases here : other = id
    · rw [here]
      exact valid
    · rw [input other here]
      exact hosted.readable other
  · rw [phases_update s.system system id fun other away => (others other away).2, system.heard_seen id w after]
    exact plays

theorem connection_hosted (id : ConnId) (closing : Bool) (rest : List Job) (conn : Connection) (system : System) (made : Nat)
    (hosted : Hosted start s past) (todo : (s.system.loops mainLoop).todo = .task id (.connectionCallback closing) :: rest)
    (found : s.system.conns id = some conn) (called : s.system.step (.exec mainLoop .none) = some system) (t : Program) :
    Hosted start ⟨system, s.game.onConnection id conn.tcp.connected, made⟩ (past ++ plays s .onConnection t) := by
  obtain ⟨next, settling⟩ := front_settling s.system mainLoop id _ rest conn hosted.settles todo found (by simp)
  have seen := System.view_found s.system id conn found
  have attended := met_attended _ _ (seen ▸ hosted.clients id) settling
  have target : s.system.target (.exec mainLoop .none) = some (id, .exec s.system.read .none) :=
    s.system.exec_target mainLoop id _ rest .none todo
  obtain ⟨w, moved, after⟩ := System.step_of_target s.system system (.exec mainLoop .none) id _ _ hosted.settles.1 trivial
    called seen target
  have onward := View.settling_moves _ w (.exec s.system.read .none) settling trivial (View.step_moves _ w _ moved)
  have still := s.game.on_connection_input id conn.tcp.connected
  refine called_hosted system _ made id w _ hosted
    (System.step_settles s.system system (.exec mainLoop .none) hosted.settles trivial called) after onward ?_ ?_
    (fun other _ => congrFun still other) (fun other away => elsewhere_met s.system system id other _ _
      (hosted.readable other) hosted.settles target away (hosted.clients other) called) ?_
  · rw [congrFun still id]
    cases closing with
    | false => exact (View.callback_opens _ w attended next moved).2.2.2.2
    | true => exact (View.callback_closes _ w attended next moved).2.2.2.2
  · rw [congrFun still id]
    exact hosted.readable id
  · cases closing with
    | false =>
        obtain ⟨none, connected, some, up, -⟩ := View.callback_opens _ w attended next moved
        have before : phases s.system id = .before := by
          rw [phases, s.system.heard_unpublished id _ seen none]
          rfl
        rw [show conn.tcp.connected = true from connected, up, show w.conn.published = true by simp [Connection.published, some]]
        simp [plays, todo, run, Lobby.step, before, phase]
    | true =>
        obtain ⟨published, closed, some, down, -⟩ := View.callback_closes _ w attended next moved
        rw [show conn.tcp.connected = false from closed, down, show w.conn.published = true by simp [Connection.published, some]]
        by_cases up : phases s.system id = .up
        · simp [plays, todo, run, Lobby.step, up, phase]
        · have before : phases s.system id = .down := by
            rw [phases, s.system.heard_seen id _ seen] at up ⊢
            cases told : (s.system.see id conn).conn.toldDown with
            | false => simp [phase, told, Connection.published, published] at up
            | true => simp [phase, Connection.published, published]
          have same : Function.update (phases s.system) id (phase (true, true)) = phases s.system := by
            rw [show phase (true, true) = phases s.system id from before.symm]
            exact Function.update_eq_self id _
          rw [same]
          simp [plays, todo, run, up, GameServer.onConnection]

theorem message_hosted (randomNum : RandomNum) (id : ConnId) (rest : List Job) (conn : Connection) (game : GameServer ConnId)
    (system : System) (made : Nat) (hosted : Hosted start s past)
    (todo : (s.system.loops mainLoop).todo = .task id .messageCallback :: rest) (found : s.system.conns id = some conn)
    (answered : (s.handed id conn).onMessage id randomNum = .ok game)
    (called : (s.system.retrieved id conn (game.inputBuffer id)).step (.exec mainLoop .none) = some system) (t : Program) :
    Hosted start ⟨system, game, made⟩ (past ++ plays s (.onMessage randomNum) t) := by
  obtain ⟨next, settling⟩ := front_settling s.system mainLoop id _ rest conn hosted.settles todo found (by simp)
  have seen := System.view_found s.system id conn found
  have attended := met_attended _ _ (seen ▸ hosted.clients id) settling
  set middle := s.system.retrieved id conn (game.inputBuffer id) with retrieved
  have settles : System.EveryView (fun _ => View.Settles) middle :=
    s.system.retrieved_settles id conn _ hosted.settles found settling
  have own : middle.view id = some ((s.system.see id conn).withInput (game.inputBuffer id)) := s.system.retrieved_own id conn _
  have target : middle.target (.exec mainLoop .none) = some (id, .exec middle.read .none) :=
    middle.exec_target mainLoop id _ rest .none todo
  obtain ⟨w, moved, after⟩ := System.step_of_target middle system (.exec mainLoop .none) id _ _ settles.1 trivial called own
    target
  have onward := View.settling_moves _ w (.exec middle.read .none) (View.settling_with_input _ _ settling) trivial
    (View.step_moves _ w _ moved)
  obtain ⟨⟨n, arrived, received⟩, events, stays⟩ := View.callback_reads _ w (game.inputBuffer id) attended next moved
  have message : Lobby.step ⟨s.game, phases s.system⟩
      (.message id (.arrived ((s.game.inputBuffer id).since conn.tcp.inputBuffer)) randomNum) =
        some ⟨game, phases s.system⟩ := by
    simp only [Lobby.step, show (s.game.inputBuffer id).readFd (.arrived ((s.game.inputBuffer id).since conn.tcp.inputBuffer)) =
      .ok (.ok n, conn.tcp.inputBuffer) from received, if_pos arrived]
    rw [handed] at answered
    simp only [answered]
  obtain ⟨left, valid, -, input⟩ := Lobby.message_input ⟨s.game, phases s.system⟩ ⟨game, phases s.system⟩ id _ randomNum
    hosted.readable message
  have mine : game.inputBuffer id = left := (congrFun input id).trans (Function.update_self _ _ _)
  refine called_hosted system game made id w _ hosted
    (System.step_settles middle system (.exec mainLoop .none) settles trivial called) after onward stays (mine ▸ valid)
    (fun other away => (congrFun input other).trans (Function.update_of_ne away _ _)) (fun other away => ?_) ?_
  · have same : middle.view other = s.system.view other := s.system.retrieved_other id conn _ other away
    obtain ⟨met, heard⟩ := elsewhere_met middle system id other _ _ (hosted.readable other) settles target away
      (same ▸ hosted.clients other) called
    exact ⟨met, heard.trans (s.system.retrieved_heard id other conn _ found)⟩
  · have same : phase (w.conn.published, w.conn.toldDown) = phases s.system id := by
      rw [phases, s.system.heard_seen id _ seen, Connection.published, Connection.toldDown, events]
      rfl
    have issued : plays s (.onMessage randomNum) t =
        [.message id (.arrived ((s.game.inputBuffer id).since conn.tcp.inputBuffer)) randomNum] := by simp [plays, todo, found]
    rw [same, issued, Function.update_eq_self]
    exact (run_cons _ _ _ _ _).mpr ⟨_, message, rfl⟩

theorem step_hosted (t : Program) (label : ProgramLabel) (hosted : Hosted start s past) (taken : s.step label = some t) :
    Hosted start t (past ++ plays s label t) := by
  cases step_steps s t label taken with
  | server label system unattended moved =>
      rw [show plays s (.server label) _ = [] from rfl, List.append_nil]
      exact server_hosted system label s.made hosted (s.unattended_on_loop label unattended)
        (s.unattended_guards label hosted.settles.1 unattended) moved
  | onConnection id closing rest conn system todo found called =>
      exact connection_hosted id closing rest conn system s.made hosted todo found called _
  | onMessage randomNum id rest conn game system todo found answered called =>
      exact message_hosted randomNum id rest conn game system s.made hosted todo found answered called _
  | call call rest system next moved =>
      rw [show plays s .call _ = [] from rfl, List.append_nil]
      exact server_hosted system _ _ hosted (call_on_loop call) (call_guards s.system call) moved

end

end Program

-- The event loop with all that it does for the connections is nothing but a lobby to
-- the game: what the program makes of its players and rooms is what the callbacks
-- make, one by one, of the chunks that have come.
theorem program_plays_lobby (name : List Char) (listen : Base.InetAddress) (player : PlayerId → Player ConnId)
    (room : RoomId → GameRoom) (labels : List ProgramLabel) (s : Program)
    (ran : run Program.step (.new name listen player room) labels = some s) :
    run Lobby.step (.new player room) (outputs Program.step Program.plays (.new name listen player room) labels) =
      some ⟨s.game, Program.phases s.system⟩ := by
  have hosted := guarded_outputs Program.step (fun _ _ => True) Program.plays (Program.Hosted (.new player room))
    (fun s l t past hosted _ taken => Program.step_hosted t l hosted taken) _ s labels []
    (Program.new_hosted name listen player room) (guarded_trivial _ _ _ _ fun _ _ => trivial) ran
  exact hosted.lobby

-- Two players come up, and the first one hits.
def comesIn (sockfd calls : Nat) : List ProgramLabel :=
  [.server (.accept sockfd mainLoop false false 0), .server (.exec mainLoop .none), .onConnection] ++
    (List.replicate calls [.call, .server (.exec mainLoop (.write (.room 1000)))]).flatten ++ [.server (.userReturns mainLoop)]

def meetOnLoop : List ProgramLabel :=
  [.server (.poll mainLoop [])] ++ comesIn 5 1 ++ comesIn 6 4 ++
    [.server (.swap mainLoop), .server (.iterate mainLoop), .server (.poll mainLoop [(1, EPOLLIN)]), .server (.dispatch mainLoop),
      .server (.exec mainLoop (.read (.arrived [97]))), .onMessage fixedDamage] ++
    (List.replicate 6 [.call, .server (.exec mainLoop (.write (.room 1000)))]).flatten ++ [.server (.userReturns mainLoop)]

def serving : Program := .new "GameServer".toList ⟨0, 0, 0, 0, 8000⟩ (fun _ => .new 0 0) fun _ => .new 0 0

theorem program_plays_lobby_two :
    ∃ s, run Program.step serving meetOnLoop = some s ∧ (s.game.player 1).hp = 150 ∧
      (outputs Program.step Program.plays serving meetOnLoop).filterMap Lobby.arrival = [1, 2] ∧
      run Lobby.step (.new (fun _ => .new 0 0) fun _ => .new 0 0) (outputs Program.step Program.plays serving meetOnLoop) =
        some ⟨s.game, Program.phases s.system⟩ := by
  have facts : (run Program.step serving meetOnLoop).map (fun s => (s.game.player 1).hp) = some 150 := by decide +kernel
  obtain ⟨s, ran, hit⟩ := Option.map_eq_some_iff.mp facts
  exact ⟨s, ran, hit, by decide +kernel, program_plays_lobby _ _ _ _ meetOnLoop s ran⟩

end Cmuduo.Example
