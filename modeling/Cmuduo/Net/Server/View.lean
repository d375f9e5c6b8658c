import Cmuduo.Net.Server.System

set_option autoImplicit false

namespace Cmuduo.Net

open Base Machine

inductive Call where
  | none
  | sending (data : Captured)
  | shuttingDown
  | stored
deriving DecidableEq

-- One connection alone: its part of the system's loops, map and threads. todo
-- and queue are on its own loop; main is on the server's loop, when that is
-- another one.
structure View where
  shared : Bool
  conn : Connection
  mapped : Bool
  active : List EventMask
  todo : List Task
  queue : List Task
  main : List Task
  calls : ThreadId → Call

inductive LifeLabel where
  | poll (revents : EventMask)
  | dispatch
  | functor (read : Captured → Option CppString) (answer : Answer)
  | exec (read : Captured → Option CppString) (answer : Answer)
  | mainFunctor
  | userSend (data : CppString)
  | userShutdown
  | send (thread : ThreadId) (data : Captured)
  | queueSend (thread : ThreadId)
  | shutdown (thread : ThreadId)
  | storeDisconnecting (thread : ThreadId)
  | queueShutdown (thread : ThreadId)
  | destroy

namespace View

def accepted (shared : Bool) (conn : Connection) : View :=
  { shared := shared
    conn := conn
    mapped := true
    active := []
    todo := if shared then [.connectEstablished] else []
    queue := if shared then [] else [.connectEstablished]
    main := []
    calls := fun _ => .none }

def apply (v : View) (rest : List Task) (effect : Effect) : View :=
  { v with
    conn := effect.conn
    mapped := v.mapped && !effect.erase
    todo := effect.front ++ (if effect.remove && v.shared then [.removeConnectionInLoop] else []) ++ rest
    queue := v.queue ++ effect.queue
    main := v.main ++ if effect.remove && !v.shared then [.removeConnectionInLoop] else [] }

def call (v : View) (task : Task) (rest : List Task) (read : Captured → Option CppString) (answer : Answer) :
    Option View :=
  (v.conn.perform read task answer).map (v.apply rest)

def setCall (v : View) (thread : ThreadId) (call : Call) : View :=
  { v with calls := Function.update v.calls thread call }

def setState (v : View) (state : StateE) : View := { v with conn := System.setState v.conn state }

def step (v : View) : LifeLabel → Option View
  | .poll revents =>
      if v.active = [] ∧ v.todo = [] ∧ v.conn.tcp.slot.interest.isSome then some { v with active := [revents] } else none
  | .dispatch =>
      match v.todo, v.active with
      | [], revents :: active => some { v with active := active, todo := handleEventWithGuard revents }
      | _, _ => none
  | .functor read answer =>
      match v.todo, v.active, v.queue with
      | [], [], task :: queue => { v with queue := queue }.call task [] read answer
      | _, _, _ => none
  | .exec read answer =>
      match v.todo with
      | task :: rest => v.call task rest read answer
      | [] => none
  | .mainFunctor =>
      match v.main with
      | .removeConnectionInLoop :: main =>
          some { v with mapped := false, queue := v.queue ++ [.connectDestroyed], main := main }
      | _ => none
  | .userSend data =>
      if v.conn.published then
        some (if v.conn.tcp.state = .kConnected then { v with todo := Task.sendInLoop (.direct data) :: v.todo } else v)
      else none
  | .userShutdown =>
      if v.conn.published then
        some (if v.conn.tcp.state = .kConnected then
          { v.setState .kDisconnecting with todo := Task.shutdownInLoop :: v.todo }
        else v)
      else none
  | .send thread data =>
      if v.calls thread = .none ∧ v.conn.published then
        some (if v.conn.tcp.state = .kConnected then
          { v with conn := { v.conn with called := v.conn.called ++ [data.sent] } }.setCall thread (.sending data)
        else v)
      else none
  | .queueSend thread =>
      match v.calls thread with
      | .sending data => some ({ v with queue := v.queue ++ [Task.sendInLoop (.captured data)] }.setCall thread .none)
      | _ => none
  | .shutdown thread =>
      if v.calls thread = .none ∧ v.conn.published then
        some (if v.conn.tcp.state = .kConnected then v.setCall thread .shuttingDown else v)
      else none
  | .storeDisconnecting thread =>
      match v.calls thread with
      | .shuttingDown => some ((v.setState .kDisconnecting).setCall thread .stored)
      | _ => none
  | .queueShutdown thread =>
      match v.calls thread with
      | .stored => some ({ v with queue := v.queue ++ [Task.shutdownInLoop] }.setCall thread .none)
      | _ => none
  | .destroy =>
      if v.mapped then
        if v.shared then
          if v.todo = [] ∧ v.active = [] then
            { v with mapped := false }.call .connectDestroyed [] (fun _ => none) .none
          else none
        else some { v with mapped := false, queue := v.queue ++ [.connectDestroyed] }
      else none

end View

def tasksOf (id : ConnId) (jobs : List Job) : List Task :=
  jobs.filterMap fun job =>
    match job with
    | .task other task => if other = id then some task else none
    | .user => none

def masksOf (id : ConnId) (active : List (ConnId × EventMask)) : List EventMask :=
  active.filterMap fun entry => if entry.1 = id then some entry.2 else none

def ThreadPc.on (id : ConnId) : ThreadPc → Call
  | .idle => .none
  | .sending other data => if other = id then .sending data else .none
  | .shuttingDown other => if other = id then .shuttingDown else .none
  | .stored other => if other = id then .stored else .none

namespace System

def loopOf (s : System) (id : ConnId) : Option LoopId := (s.conns id).map (·.loop)

def see (s : System) (id : ConnId) (conn : Connection) : View :=
  { shared := conn.loop == mainLoop
    conn := conn
    mapped := s.connectionMap conn.name == some id
    active := masksOf id (s.loops conn.loop).active
    todo := tasksOf id (s.loops conn.loop).todo
    queue := tasksOf id (s.loops conn.loop).queue.contents
    main := if conn.loop = mainLoop then [] else tasksOf id (s.loops mainLoop).queue.contents
    calls := fun thread => (s.threads thread).on id }

def view (s : System) (id : ConnId) : Option View := (s.conns id).map (s.see id)

-- The connection that a step is about, and the step as it sees it. A poll is
-- about all the connections it reports.
def target (s : System) : Label → Option (ConnId × LifeLabel)
  | .dispatch l =>
      match (s.loops l).active with
      | (id, _) :: _ => some (id, .dispatch)
      | [] => none
  | .functor l answer =>
      match (s.loops l).queue.batch with
      | .task id _ :: _ => some (id, if s.loopOf id = some l then .functor s.read answer else .mainFunctor)
      | _ => none
  | .exec l answer =>
      match (s.loops l).todo with
      | .task id _ :: _ => some (id, .exec s.read answer)
      | _ => none
  | .userSend _ id data => some (id, .userSend data)
  | .userShutdown _ id => some (id, .userShutdown)
  | .send thread id cell =>
      (s.cells thread cell).map fun text => (id, .send thread ⟨thread, cell, text.bytes.length, text⟩)
  | .queueSend thread =>
      match s.threads thread with
      | .sending id _ => some (id, .queueSend thread)
      | _ => none
  | .shutdown thread id => some (id, .shutdown thread)
  | .storeDisconnecting thread =>
      match s.threads thread with
      | .shuttingDown id => some (id, .storeDisconnecting thread)
      | _ => none
  | .queueShutdown thread =>
      match s.threads thread with
      | .stored id => some (id, .queueShutdown thread)
      | _ => none
  | .destroyConnection id => some (id, .destroy)
  | _ => none

def lifeLabel (s : System) (id : ConnId) : Label → Option LifeLabel
  | .poll l active => if s.loopOf id = some l then (masksOf id active).head?.map .poll else none
  | label =>
      match s.target label with
      | some (other, life) => if other = id then some life else none
      | none => none

end System

end Cmuduo.Net
