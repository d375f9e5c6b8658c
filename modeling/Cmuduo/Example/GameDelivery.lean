import Cmuduo.Example.GameProgram
import Cmuduo.Example.Telling
import Cmuduo.Net.Server.SingleCall

set_option autoImplicit false

namespace Cmuduo.Example

open Net Machine Screen

namespace Lobby

variable {κ : Type}

theorem arrived_phase (s : Lobby κ) (arrived : List κ) (hosting : Hosting s arrived) (conn : κ) (came : conn ∈ arrived) :
    s.phase conn ≠ .before := by
  obtain ⟨p, there⟩ := List.mem_iff_getElem?.mp came
  obtain ⟨mapped, named⟩ := hosting.hosts.named p conn there
  rw [← named]
  exact hosting.inv.conns p (hosting.inv.mapped conn p mapped).1

variable [DecidableEq κ]

-- All that a run shows and says goes to those who have come.
theorem run_speaks (player : PlayerId → Player κ) (room : RoomId → GameRoom) (labels : List (LobbyLabel κ)) (s : Lobby κ)
    (ran : run step (.new player room) labels = some s) :
    Showing s (labels.filterMap arrival) ∧ ∀ o ∈ s.server.output, s.phase o.conn ≠ .before := by
  have told := guarded_history step (fun _ _ => True) arrival
    (fun s arrived => Showing s arrived ∧ ∀ o ∈ s.server.output, o.conn ∈ arrived) (fun s label t arrived both _ taken => by
      obtain ⟨more, output, tells⟩ := step_tells s t label arrived both.1.hosting taken
      refine ⟨step_showing s t label arrived both.1 taken, fun o member => ?_⟩
      rw [output] at member
      rcases List.mem_append.mp member with old | new
      · exact List.mem_append_left _ (both.2 o old)
      · exact tells o new) _ s labels [] ⟨new_showing player room, fun o member => absurd member List.not_mem_nil⟩
    (guarded_trivial _ _ _ _ fun _ _ => trivial) ran
  exact ⟨told.1, fun o member => arrived_phase s _ told.1.hosting o.conn (told.2 o member)⟩

-- Nothing that has been said is taken back.
theorem run_output (labels : List (LobbyLabel κ)) (s t : Lobby κ) (arrived : List κ) (showing : Showing s arrived)
    (ran : run step s labels = some t) : s.server.output <+: t.server.output := by
  induction labels generalizing s arrived with
  | nil =>
      cases ran
      exact List.prefix_refl _
  | cons label rest ih =>
      obtain ⟨next, taken, tail⟩ := (run_cons _ _ _ _ _).mp ran
      obtain ⟨more, output, -⟩ := step_tells s next label arrived showing.hosting taken
      have first : s.server.output <+: next.server.output := ⟨more, output.symm⟩
      exact first.trans (ih next _ (step_showing s next label arrived showing taken) tail)

end Lobby

namespace Program

def spoken (s : Program) : List (Output ConnId) := s.game.output.take s.made

-- No flush of the connection writes past its backlog, and no direct write of it
-- fails for good.
def Delivers (id : ConnId) (s : Program) : ProgramLabel → Prop
  | .server label =>
      s.system.Guards (fun other v life =>
        other = id → ∀ call ∈ v.streamCalls life, OutputStream.Delivers ⟨v.conn.tcp, []⟩ call) label
  | _ => True

instance (id : ConnId) (s : Program) : (label : ProgramLabel) → Decidable (s.Delivers id label)
  | .server label => by unfold Delivers; infer_instance
  | .onConnection | .onMessage _ | .call => .isTrue trivial

-- The callback under way makes its calls one by one, and returns after the last.
structure Calling (s : Program) : Prop where
  turns : System.Turns s.system
  single : System.Single s.system
  made : s.made ≤ s.game.output.length
  busy : s.made < s.game.output.length → .user ∈ (s.system.loops mainLoop).todo

theorem new_calling (name : List Char) (listen : Base.InetAddress) (player : PlayerId → Player ConnId)
    (room : RoomId → GameRoom) : Calling (new name listen player room) :=
  ⟨System.new_turns name listen, fun _ member => absurd member List.not_mem_nil, Nat.le_refl _,
    fun some => absurd some (Nat.lt_irrefl _)⟩

theorem unattended_one_thread (s : Program) (label : Label) (unattended : s.Unattended label) : label.OneThread := by
  cases label with
  | poll => exact unattended
  | dispatch => exact unattended
  | otherChannel => exact unattended
  | swap => exact unattended
  | functor => exact unattended
  | iterate => exact unattended
  | accept => exact unattended.1
  | exec => exact unattended.1
  | userReturns => exact unattended.1
  | _ => exact unattended.elim

theorem call_one_thread (call : Output ConnId) : (callLabel call).OneThread := by
  cases call <;> rfl

theorem unattended_uncalled (s : Program) (label : Label) (unattended : s.Unattended label) (id : ConnId) :
    (∀ data, label ≠ .userSend mainLoop id data) ∧ label ≠ .userShutdown mainLoop id := by
  constructor
  · rintro data rfl
    exact unattended.elim
  · rintro rfl
    exact unattended.elim

theorem retrieved_turns (s : System) (id : ConnId) (conn : Connection) (buffer : Buffer) (turns : System.Turns s)
    (found : s.conns id = some conn) : System.Turns (s.retrieved id conn buffer) := by
  refine ⟨fun other next there => ?_, turns.queue, turns.todo, turns.pending, turns.idle⟩
  simp only [System.retrieved, System.setConn] at there
  by_cases here : other = id
  · rw [here, Function.update_self] at there
    cases there
    exact turns.here id conn found
  · rw [Function.update_of_ne here] at there
    exact turns.here other next there

theorem call_single (s system : System) (call : Output ConnId) (single : System.Single s)
    (moved : s.step (callLabel call) = some system) :
    (∀ job ∈ (s.loops mainLoop).todo, job.carries = false) ∧ System.Single system ∧ .user ∈ (system.loops mainLoop).todo := by
  cases call with
  | send conn text => exact System.user_call_single s system conn _ _ single moved
  | shutdown conn => exact System.user_call_single s system conn _ _ single moved

-- Every connection is handled on the one loop.
theorem view_todo (s : Program) (id : ConnId) (v : View) (calling : Calling s) (seen : s.system.view id = some v) :
    v.todo = tasksOf id (s.system.loops mainLoop).todo := by
  have found := System.view_conn s.system id v seen
  rw [← Option.some.inj ((System.view_found s.system id v.conn found).symm.trans seen)]
  simp [System.see, calling.turns.here id v.conn found]

-- A callback of the server, in whatever it leaves to be called.
theorem callback_calling (s : System) (system : System) (game : GameServer ConnId) (made : Nat) (id : ConnId) (task : Task)
    (rest : List Job) (turns : System.Turns s) (home : System.Home s) (single : System.Single s)
    (todo : (s.loops mainLoop).todo = .task id task :: rest) (calls : task.callsBack = true) (before : made ≤ game.output.length)
    (called : s.step (.exec mainLoop .none) = some system) : Calling ⟨system, game, made⟩ := by
  have after := (System.step_single s system (.exec mainLoop .none) single rfl (fun id => ⟨fun _ => by simp, by simp⟩) called).1
  refine ⟨System.step_turns s system (.exec mainLoop .none) turns home rfl called, after, before, fun _ => ?_⟩
  simp only [System.step, todo] at called
  obtain ⟨effect, -, left, user⟩ := System.call_todo s system mainLoop id task rest .none called
  rw [left, System.jobs, if_pos (user calls)]
  simp

theorem step_calling (s t : Program) (label : ProgramLabel) (calling : Calling s)
    (settles : System.EveryView (fun _ => View.Settles) s.system) (grows : s.game.output <+: t.game.output)
    (taken : s.step label = some t) : Calling t := by
  have made := Nat.le_trans calling.made grows.length_le
  cases step_steps s t label taken with
  | server label system unattended moved =>
      have oneThread := s.unattended_one_thread label unattended
      obtain ⟨single, user⟩ := System.step_single s.system system label calling.single oneThread
        (s.unattended_uncalled label unattended) moved
      refine ⟨System.step_turns s.system system label calling.turns settles.1 oneThread moved, single, calling.made,
        fun some => user (calling.busy some) ?_⟩
      rintro rfl
      exact absurd unattended.2 (Nat.ne_of_lt some)
  | onConnection id closing rest conn system todo found called =>
      exact callback_calling s.system system _ s.made id _ rest calling.turns settles.1 calling.single todo rfl made called
  | onMessage randomNum id rest conn game system todo found answered called =>
      have settling := (front_settling s.system mainLoop id _ rest conn settles todo found (by simp)).2
      exact callback_calling (s.system.retrieved id conn (game.inputBuffer id)) system game s.made id _ rest
        (retrieved_turns s.system id conn _ calling.turns found)
        (s.system.retrieved_settles id conn _ settles found settling).1 calling.single todo rfl made called
  | call call rest system next moved =>
      have more : s.made < s.game.output.length := by
        rw [← Nat.not_le, ← List.drop_eq_nil_iff]
        simp [next]
      have after := (call_single s.system system call calling.single moved).2
      exact ⟨System.step_turns s.system system _ calling.turns settles.1 (call_one_thread call) moved, after.1, more,
        fun _ => after.2⟩

-- What has been told to a connection, after a step that is no call of the user on it.
theorem told_step (s t : System) (label : Label) (id : ConnId) (said : List String) (ended : Bool)
    (settles : System.EveryView (fun _ => View.Settles) s) (onLoop : label.OnLoop)
    (first : s.heard id = (false, false) → said = [] ∧ ended = false)
    (allowed : ∀ v life, s.view id = some v → s.lifeLabel id label = some life →
      Uncalled life ∧ ∀ call ∈ v.streamCalls life, OutputStream.Delivers ⟨v.conn.tcp, []⟩ call)
    (told : ∀ v, s.view id = some v → v.Settling → Told v said ended) (taken : s.step label = some t) (w : View)
    (after : t.view id = some w) (settling : w.Settling) : Told w said ended := by
  cases before : s.view id with
  | none =>
      have unseen : s.conns id = none := by simpa [System.view] using before
      have fresh := View.fresh_accepted w (System.step_creates s t label id w settles.1 unseen taken after)
      exact absurd settling (w.accepted_unsettled fresh)
  | some v =>
      rcases System.step_of_view s t label id v settles.1 onLoop taken before with
        ⟨-, same⟩ | ⟨life, next, about, here, moved, there⟩
      · obtain rfl := Option.some.inj (same.symm.trans after)
        exact told v before settling
      · obtain rfl := Option.some.inj (there.symm.trans after)
        have moves := View.step_moves v next life moved
        rcases settles.2 id v before with ⟨accepted, -⟩ | settled
        · rcases (View.accepted_moves v next life accepted moves).1 with waiting | established
          · exact absurd settling (next.accepted_unsettled waiting)
          · obtain ⟨rfl, rfl⟩ := first (s.heard_unpublished id v before accepted.events)
            exact established_told next established
        · obtain ⟨uncalled, delivers⟩ := allowed v life before about
          exact told_moves v next life settled (told v before settled) here uncalled delivers moves

theorem uncalled_target (s : Program) (label : Label) (unattended : s.Unattended label) (id : ConnId) (life : LifeLabel)
    (about : s.system.target label = some (id, life)) : Uncalled life := by
  have origin := s.system.target_origin label id life about
  cases life with
  | userSend data =>
      obtain ⟨l, rfl⟩ := origin
      exact unattended.elim
  | userShutdown =>
      obtain ⟨l, rfl⟩ := origin
      exact unattended.elim
  | _ => trivial

-- A callback makes no calls of the output by itself.
theorem callback_allowed (s : System) (id other : ConnId) (task : Task) (rest : List Job) (home : System.Home s)
    (todo : (s.loops mainLoop).todo = .task id task :: rest) (calls : task.callsBack = true) (v : View) (life : LifeLabel)
    (seen : s.view other = some v) (about : s.lifeLabel other (.exec mainLoop .none) = some life) :
    Uncalled life ∧ ∀ call ∈ v.streamCalls life, OutputStream.Delivers ⟨v.conn.tcp, []⟩ call := by
  have target : s.target (.exec mainLoop .none) = some (id, .exec s.read .none) := s.exec_target mainLoop id task rest .none todo
  rw [System.life_label_other s other id _ _ target (fun _ _ => Label.noConfusion)] at about
  split at about
  · next same =>
      subst same
      cases about
      have next := s.front_view mainLoop id task rest v home todo seen
      have silent : v.streamCalls (.exec s.read .none) = [] := by
        rw [View.streamCalls, next]
        cases task with
        | connectionCallback => exact ite_self _
        | messageCallback => exact ite_self _
        | _ => cases calls
      exact ⟨trivial, fun call member => by simp [silent] at member⟩
  · cases about

section
variable {player : PlayerId → Player ConnId} {room : RoomId → GameRoom} {s : Program} {past : List (LobbyLabel ConnId)}

theorem hosted_speaks (hosted : Hosted (.new player room) s past) :
    Lobby.Showing ⟨s.game, phases s.system⟩ (past.filterMap Lobby.arrival) ∧
      ∀ o ∈ s.game.output, phases s.system o.conn ≠ .before :=
  Lobby.run_speaks player room past _ hosted.lobby

theorem hosted_grows (t : Program) (more : List (LobbyLabel ConnId)) (hosted : Hosted (.new player room) s past)
    (after : Hosted (.new player room) t (past ++ more)) : s.game.output <+: t.game.output := by
  obtain ⟨middle, front, back⟩ := (run_append _ _ _ _ _).mp after.lobby
  obtain rfl := Option.some.inj (front.symm.trans hosted.lobby)
  exact Lobby.run_output more _ _ _ (hosted_speaks hosted).1 back

-- Nothing is said to a connection before its first callback.
theorem first_told (id : ConnId) (hosted : Hosted (.new player room) s past) (unheard : s.system.heard id = (false, false)) :
    texts id s.spoken = [] ∧ shut id s.spoken = false := by
  refine nothing_said id s.spoken fun o member same => ?_
  have before : phases s.system id = .before := by
    rw [phases, unheard]
    rfl
  exact (hosted_speaks hosted).2 o (List.mem_of_mem_take member) (same ▸ before)

-- A connection that the game knows of is up, or has been.
theorem heard_settled (id : ConnId) (hosted : Hosted (.new player room) s past) (heard : phases s.system id ≠ .before) :
    ∃ v, s.system.view id = some v ∧ v.Settling := by
  cases seen : s.system.view id with
  | none => exact absurd (by rw [phases, s.system.heard_unseen id seen]; rfl) heard
  | some v =>
      refine ⟨v, rfl, (hosted.settles.2 id v seen).resolve_left fun accepted => heard ?_⟩
      rw [phases, s.system.heard_unpublished id v seen accepted.1.events]
      rfl

structure Delivered (player : PlayerId → Player ConnId) (room : RoomId → GameRoom) (id : ConnId) (s : Program)
    (past : List (LobbyLabel ConnId)) : Prop where
  hosted : Hosted (.new player room) s past
  calling : Calling s
  told : ∀ v, s.system.view id = some v → v.Settling → Told v (texts id s.spoken) (shut id s.spoken)

theorem new_delivered (name : List Char) (listen : Base.InetAddress) (player : PlayerId → Player ConnId)
    (room : RoomId → GameRoom) (id : ConnId) : Delivered player room id (new name listen player room) [] :=
  ⟨new_hosted name listen player room, new_calling name listen player room, fun _ seen => by cases seen⟩

theorem server_told (id : ConnId) (label : Label) (system : System) (delivered : Delivered player room id s past)
    (unattended : s.Unattended label) (delivers : s.Delivers id (.server label))
    (moved : s.system.step label = some system) (w : View) (after : system.view id = some w) (settling : w.Settling) :
    Told w (texts id s.spoken) (shut id s.spoken) := by
  refine told_step s.system system label id _ _ delivered.hosted.settles (s.unattended_on_loop label unattended)
    (first_told id delivered.hosted) (fun v life seen about => ⟨?_, ?_⟩) delivered.told moved w after settling
  · exact System.guards_life (fun _ _ => Uncalled) s.system label id v life (fun _ _ _ => trivial)
      (System.guards_target Uncalled s.system label (s.uncalled_target label unattended)) seen about
  · exact System.guards_life _ s.system label id v life (fun _ _ _ _ _ member => absurd member List.not_mem_nil) delivers
      seen about rfl

theorem message_told (id other : ConnId) (rest : List Job) (conn : Connection) (buffer : Buffer) (system : System)
    (delivered : Delivered player room id s past)
    (todo : (s.system.loops mainLoop).todo = .task other .messageCallback :: rest) (found : s.system.conns other = some conn)
    (called : (s.system.retrieved other conn buffer).step (.exec mainLoop .none) = some system) (w : View)
    (after : system.view id = some w) (settling : w.Settling) : Told w (texts id s.spoken) (shut id s.spoken) := by
  have settles := delivered.hosted.settles
  have settled := (front_settling s.system mainLoop other _ rest conn settles todo found (by simp)).2
  have onward := s.system.retrieved_settles other conn buffer settles found settled
  have seen := System.view_found s.system other conn found
  refine told_step (s.system.retrieved other conn buffer) system (.exec mainLoop .none) id _ _ onward trivial (fun unheard =>
      first_told id delivered.hosted ((s.system.retrieved_heard other id conn buffer found).symm.trans unheard))
    (callback_allowed (s.system.retrieved other conn buffer) other id .messageCallback rest onward.1 todo rfl)
    (fun v there still => ?_) called w after settling
  by_cases here : id = other
  · subst here
    rw [s.system.retrieved_own id conn buffer, Option.some.injEq] at there
    subst there
    exact told_with_input _ buffer (delivered.told _ seen settled)
  · exact delivered.told v ((s.system.retrieved_other other conn buffer id here).symm.trans there) still

theorem spoken_call (call : Output ConnId) (rest : List (Output ConnId)) (next : s.game.output.drop s.made = call :: rest) :
    s.game.output.take (s.made + 1) = s.spoken ++ [call] := by
  rw [List.take_add_one, ← List.head?_drop, next]
  rfl

-- What the call in words leads the connection to.
theorem called_told (call : Output ConnId) (v w : View) (life : LifeLabel)
    (about : s.system.target (callLabel call) = some (call.conn, life)) (nothing : v.todo.filter Task.carries = [])
    (told : Told v (texts call.conn s.spoken) (shut call.conn s.spoken)) (moves : View.Moves v life w) :
    Told w (texts call.conn (s.spoken ++ [call])) (shut call.conn (s.spoken ++ [call])) := by
  rw [texts_append, shut_append]
  cases call with
  | send conn text =>
      cases about
      have after : Told w (if shut conn s.spoken then texts conn s.spoken else texts conn s.spoken ++ [text])
          (shut conn s.spoken) := told_send v w text told nothing moves
      have here : texts conn [Output.send conn text] = [text] ∧ shut conn [Output.send conn text] = false := by
        simp [texts, shut]
      rw [Output.conn, here.1, here.2, Bool.or_false]
      generalize shut conn s.spoken = ended at after ⊢
      cases ended with
      | true => exact (List.append_nil (texts conn s.spoken)).symm ▸ after
      | false => exact after
  | shutdown conn =>
      cases about
      have after : Told w (texts conn s.spoken) true := told_shutdown v w told nothing moves
      have here : texts conn [Output.shutdown conn] = [] ∧ shut conn [Output.shutdown conn] = true := by
        simp [texts, shut]
      rw [Output.conn, here.1, here.2, Bool.or_true, ite_self, List.append_nil]
      exact after

theorem call_told (id : ConnId) (call : Output ConnId) (rest : List (Output ConnId)) (system : System)
    (delivered : Delivered player room id s past) (next : s.game.output.drop s.made = call :: rest)
    (moved : s.system.step (callLabel call) = some system) (w : View) (after : system.view id = some w)
    (settling : w.Settling) : Told w (texts id (s.spoken ++ [call])) (shut id (s.spoken ++ [call])) := by
  have settles := delivered.hosted.settles
  have onLoop := call_on_loop call
  obtain ⟨life, target⟩ : ∃ life, s.system.target (callLabel call) = some (call.conn, life) := by
    cases call <;> exact ⟨_, rfl⟩
  have quiet := System.life_label_other s.system id call.conn _ life target (fun l active same => by
    cases call <;> cases same)
  by_cases here : call.conn = id
  · subst here
    have silent := (call_single s.system system call delivered.calling.single moved).1
    have member : call ∈ s.game.output := List.mem_of_mem_drop (next ▸ List.mem_cons_self)
    obtain ⟨v, before, settled⟩ :=
      heard_settled call.conn delivered.hosted ((hosted_speaks delivered.hosted).2 call member)
    obtain ⟨next, moves, there⟩ :=
      System.step_of_target s.system system _ call.conn v life settles.1 onLoop moved before target
    obtain rfl := Option.some.inj (there.symm.trans after)
    have todo := view_todo s call.conn v delivered.calling before
    exact called_told call v next life target (todo ▸ System.tasks_carry_nothing call.conn _ silent)
      (delivered.told v before settled) (View.step_moves v next life moves)
  · rw [if_neg here] at quiet
    obtain ⟨silent, still⟩ := nothing_said id [call] (by simpa using here)
    rw [texts_append, shut_append, silent, still, ite_self, List.append_nil, Bool.or_false]
    exact told_step s.system system (callLabel call) id _ _ settles onLoop (first_told id delivered.hosted)
      (fun v life _ about => by cases quiet.symm.trans about) delivered.told moved w after settling

theorem step_delivered (id : ConnId) (t : Program) (label : ProgramLabel) (delivered : Delivered player room id s past)
    (delivers : s.Delivers id label) (taken : s.step label = some t) :
    Delivered player room id t (past ++ plays s label t) := by
  have hosted := step_hosted t label delivered.hosted taken
  have grows := hosted_grows t _ delivered.hosted hosted
  refine ⟨hosted, step_calling s t label delivered.calling delivered.hosted.settles grows taken, fun w after settling => ?_⟩
  have still : t.made = s.made → t.spoken = s.spoken := fun same => by
    obtain ⟨more, output⟩ := grows
    rw [spoken, same, ← output, List.take_append_of_le_length delivered.calling.made]
    rfl
  cases step_steps s t label taken with
  | server label system unattended moved => exact server_told id label system delivered unattended delivers moved w after settling
  | onConnection other closing rest conn system todo found called =>
      rw [still rfl]
      exact told_step s.system system (.exec mainLoop .none) id _ _ delivered.hosted.settles trivial
        (first_told id delivered.hosted) (callback_allowed s.system other id _ rest delivered.hosted.settles.1 todo rfl)
        delivered.told called w after settling
  | onMessage randomNum other rest conn game system todo found answered called =>
      rw [still rfl]
      exact message_told id other rest conn _ system delivered todo found called w after settling
  | call call rest system next moved =>
      rw [show spoken ⟨system, s.game, s.made + 1⟩ = s.spoken ++ [call] from spoken_call call rest next]
      exact call_told id call rest system delivered next moved w after settling

end

end Program

-- What the socket of a player has been given, with the backlog, is what the game has
-- said to him, and it shows him his own game, whatever the loop does for others in
-- between. A socket is shut down after the last of it.
theorem sockets_show_own_games (name : List Char) (listen : Base.InetAddress) (player : PlayerId → Player ConnId)
    (room : RoomId → GameRoom) (labels : List ProgramLabel) (s : Program) (p : Nat) (id : ConnId)
    (delivers : Guarded Program.step (Program.Delivers id) (.new name listen player room) labels)
    (ran : run Program.step (.new name listen player room) labels = some s)
    (idle : (s.system.loops mainLoop).todo = []) :
    let arrived := (outputs Program.step Program.plays (.new name listen player room) labels).filterMap Lobby.arrival
    arrived[p]? = some id → ∃ conn, s.system.conns id = some conn ∧ (conn.tcp.state ≠ .kDisconnected →
      conn.tcp.wire ++ conn.tcp.outputBuffer.readable = bytes (texts id s.game.output) ∧
        (p / 2 < arrived.length / 2 → Game.Follows (s.game.game (p / 2)) p
          { (texts id s.game.output).foldl display blank with closed := conn.tcp.state == .kDisconnecting }) ∧
        (conn.tcp.shutWr = true → conn.tcp.outputBuffer.readable = [] ∧ p / 2 < arrived.length / 2 ∧
          (s.game.room (p / 2)).finished = true)) := by
  intro arrived there
  have delivered := guarded_outputs Program.step (Program.Delivers id) Program.plays (Program.Delivered player room id)
    (fun s l t past delivered fine taken => Program.step_delivered id t l delivered fine taken) _ s labels []
    (Program.new_delivered name listen player room id) delivers ran
  obtain ⟨showing, -⟩ := Program.hosted_speaks delivered.hosted
  have up : Program.phases s.system id ≠ .before :=
    Lobby.arrived_phase _ _ showing.hosting id (List.mem_of_getElem? there)
  obtain ⟨v, seen, settling⟩ := Program.heard_settled id delivered.hosted up
  refine ⟨v.conn, System.view_conn s.system id v seen, fun opens => ?_⟩
  have waits : v.todo = [] := by
    rw [s.view_todo id v delivered.calling seen, idle]
    rfl
  have all : s.spoken = s.game.output := by
    refine List.take_of_length_le (Nat.not_lt.mp fun more => ?_)
    have busy := delivered.calling.busy more
    simp [idle] at busy
  have carried := told_idle v (delivered.told v seen settling) waits opens
  rw [all] at carried
  have closed : (v.conn.tcp.state == .kDisconnecting) = shut id s.game.output := by
    rw [carried.state]
    cases shut id s.game.output <;> rfl
  have screen := after_texts id s.game.output
  refine ⟨carried.stream, fun playing => ?_, fun issued => ?_⟩
  · rw [closed, ← screen]
    exact showing.shown.playing p id there playing
  · obtain ⟨ended, drained⟩ := carried.final issued
    refine ⟨drained, ?_⟩
    by_cases playing : p / 2 < arrived.length / 2
    · have follows := (showing.shown.playing p id there playing).closed
      rw [screen] at follows
      exact ⟨playing, follows.symm.trans ended⟩
    · rw [showing.shown.waiting p id there (Nat.not_lt.mp playing)] at screen
      cases (congrArg Screen.closed screen).trans ended

-- The second player's socket takes five bytes at first; his opponent hits him
-- before the rest is flushed, in one iteration of the loop.
def makeCalls (rooms : List Nat) : List ProgramLabel :=
  rooms.flatMap fun room => [.call, .server (.exec mainLoop (.write (.room room)))]

def hitAndFlush : List ProgramLabel :=
  [.server (.poll mainLoop [])] ++ comesIn 5 1 ++
    [.server (.accept 6 mainLoop false false 0), .server (.exec mainLoop .none), .onConnection] ++ makeCalls [1000, 5, 1000, 0] ++
    [.server (.userReturns mainLoop), .server (.swap mainLoop), .server (.iterate mainLoop),
      .server (.poll mainLoop [(1, EPOLLIN), (2, EPOLLOUT)]), .server (.dispatch mainLoop),
      .server (.exec mainLoop (.read (.arrived [97]))), .onMessage fixedDamage] ++
    makeCalls [1000, 0, 1000, 0, 0, 1000] ++
    [.server (.userReturns mainLoop), .server (.dispatch mainLoop), .server (.exec mainLoop (.write (.room 100)))]

theorem sockets_show_own_games_flushed :
    ∃ s conn, run Program.step serving hitAndFlush = some s ∧ s.system.conns 2 = some conn ∧ conn.tcp.wire.length = 105 ∧
      conn.tcp.wire ++ conn.tcp.outputBuffer.readable = bytes (texts 2 s.game.output) ∧
      Game.Follows (s.game.game 0) 1
        { (texts 2 s.game.output).foldl display blank with closed := conn.tcp.state == .kDisconnecting } := by
  have facts : (run Program.step serving hitAndFlush).map (fun s => ((s.system.loops mainLoop).todo,
      (s.system.conns 2).map fun conn => (conn.tcp.state, conn.tcp.wire.length))) = some ([], some (.kConnected, 105)) := by
    decide +kernel
  obtain ⟨s, ran, shown⟩ := Option.map_eq_some_iff.mp facts
  obtain ⟨idle, second⟩ := Prod.mk.inj shown
  obtain ⟨conn, found, same⟩ := Option.map_eq_some_iff.mp second
  obtain ⟨connected, length⟩ := Prod.mk.inj same
  obtain ⟨other, there, shows⟩ := sockets_show_own_games _ _ _ _ hitAndFlush s 1 2 (by decide +kernel) ran idle (by decide +kernel)
  obtain rfl := Option.some.inj (found.symm.trans there)
  obtain ⟨stream, follows, -⟩ := shows (by simp [connected])
  exact ⟨s, conn, ran, found, length, stream, follows (by decide +kernel)⟩

end Cmuduo.Example
