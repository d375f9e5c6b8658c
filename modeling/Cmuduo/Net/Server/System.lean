import Cmuduo.Lib.BatchQueue
import Cmuduo.Lib.Machine
import Cmuduo.Net.Server.Connection
import Mathlib.Logic.Function.Basic

set_option autoImplicit false

namespace Cmuduo.Net

open Base Machine

-- A functor or a pending call: one of the server's on a connection, or code of
-- the user, which may call send and shutdown while it runs.
inductive Job where
  | task (conn : ConnId) (task : Task)
  | user
deriving DecidableEq

inductive Phase where
  | poll
  | dispatch
  | functors
deriving DecidableEq, Repr

-- A loop thread. active is the part of activeChannels_ not dispatched yet, and
-- todo is what remains of the handler or functor being run, next call first.
structure Loop where
  phase : Phase
  active : List (ConnId × EventMask)
  todo : List Job
  queue : BatchQueue Job

-- A thread that is not the loop thread of the connections it uses: in send
-- after its test of state_, in shutdown after its test, and after its store.
inductive ThreadPc where
  | idle
  | sending (conn : ConnId) (data : Captured)
  | shuttingDown (conn : ConnId)
  | stored (conn : ConnId)
deriving DecidableEq

-- A TcpServer with its loops and the threads that use its connections. cells
-- are the strings of these threads, by owner. destroying is set from the start
-- of the destructor on. Connections are never released in the model, as if the
-- user kept a pointer to each of them.
structure System where
  name : List Char
  listen : InetAddress
  nextConnId : ConnId
  conns : ConnId → Option Connection
  connectionMap : List Char → Option ConnId
  loops : LoopId → Loop
  threads : ThreadId → ThreadPc
  cells : ThreadId → Nat → Option CppString
  destroying : Bool

inductive Label where
  | poll (loop : LoopId) (active : List (ConnId × EventMask))
  | dispatch (loop : LoopId)
  | otherChannel (loop : LoopId)
  | accept (sockfd : Nat) (ioLoop : LoopId) (writeComplete highWater : Bool) (mark : Nat)
  | swap (loop : LoopId)
  | functor (loop : LoopId) (answer : Answer)
  | exec (loop : LoopId) (answer : Answer)
  | userReturns (loop : LoopId)
  | iterate (loop : LoopId)
  | userSend (loop : LoopId) (conn : ConnId) (data : CppString)
  | userShutdown (loop : LoopId) (conn : ConnId)
  | queueUser (loop : LoopId)
  | send (thread : ThreadId) (conn : ConnId) (cell : Nat)
  | queueSend (thread : ThreadId)
  | shutdown (thread : ThreadId) (conn : ConnId)
  | storeDisconnecting (thread : ThreadId)
  | queueShutdown (thread : ThreadId)
  | overwrite (thread : ThreadId) (cell : Nat) (data : CppString)
  | release (thread : ThreadId) (cell : Nat)
  | destroy
  | destroyConnection (conn : ConnId)

namespace System

def new (name : List Char) (listen : InetAddress) : System :=
  { name := name
    listen := listen
    nextConnId := 1
    conns := fun _ => none
    connectionMap := fun _ => none
    loops := fun _ => ⟨.poll, [], [], .empty⟩
    threads := fun _ => .idle
    cells := fun _ _ => none
    destroying := false }

def setConn (s : System) (id : ConnId) (conn : Connection) : System :=
  { s with conns := Function.update s.conns id (some conn) }

def setLoop (s : System) (l : LoopId) (loop : Loop) : System := { s with loops := Function.update s.loops l loop }

def setTodo (s : System) (l : LoopId) (todo : List Job) : System := s.setLoop l { s.loops l with todo := todo }

-- queueInLoop, once for each job.
def post (s : System) (l : LoopId) (jobs : List Job) : System :=
  s.setLoop l { s.loops l with queue := (s.loops l).queue.append jobs }

def takeFunctor (s : System) (l : LoopId) : System :=
  s.setLoop l { s.loops l with queue := (s.loops l).queue.pop }

def setThread (s : System) (thread : ThreadId) (pc : ThreadPc) : System :=
  { s with threads := Function.update s.threads thread pc }

def setMap (s : System) (name : List Char) (entry : Option ConnId) : System :=
  { s with connectionMap := Function.update s.connectionMap name entry }

-- The len bytes at the pointer of a queued functor, when they are all in the cell's
-- string. In a released cell, or behind a shorter string, they are what is left in
-- memory, which the answer of the call brings. A string that moves gives its cell
-- back.
def read (s : System) (data : Captured) : Option CppString :=
  match s.cells data.owner data.cell with
  | none => none
  | some text => if data.len ≤ text.bytes.length then some (text.take data.len) else none

-- Carries out the effect of a call made on loop l, with rest still to do there.
-- removeConnection runs removeConnectionInLoop at once on the server's loop.
def apply (s : System) (l : LoopId) (id : ConnId) (rest : List Job) (effect : Effect) : System :=
  let inline := effect.remove && l == mainLoop
  let s := s.setConn id effect.conn
  let s := if effect.erase then s.setMap effect.conn.name none else s
  let s := s.setTodo l ((if effect.userCode then [.user] else []) ++ effect.front.map (.task id) ++
    (if inline then [.task id .removeConnectionInLoop] else []) ++ rest)
  let s := s.post effect.conn.loop (effect.queue.map (.task id))
  if effect.remove && !inline then s.post mainLoop [.task id .removeConnectionInLoop] else s

def call (s : System) (l : LoopId) (id : ConnId) (task : Task) (rest : List Job) (answer : Answer) : Option System :=
  match s.conns id with
  | none => none
  | some conn => (conn.perform s.read task answer).map (s.apply l id rest)

def ready (s : System) (l : LoopId) (id : ConnId) : Bool :=
  match s.conns id with
  | none => false
  | some conn => conn.loop == l && conn.tcp.slot.interest.isSome

-- TcpServer::newConnection, with the loop chosen by the pool.
def newConnection (s : System) (ioLoop : LoopId) (tcp : TcpConnection) : System :=
  let id := s.nextConnId
  let name := connName s.name s.listen id
  let s := { s with nextConnId := id + 1 }
  let s := (s.setConn id (.new name ioLoop tcp)).setMap name (some id)
  if ioLoop = mainLoop then s.setTodo mainLoop [.task id .connectEstablished]
  else s.post ioLoop [.task id .connectEstablished]

-- send and shutdown of the user on the connection's own loop thread.
def userCall (s : System) (l : LoopId) (id : ConnId) (task : Task) (store : Connection → Connection) : Option System :=
  match (s.loops l).todo, s.conns id with
  | .user :: _, some conn =>
      if conn.loop = l ∧ conn.published then
        some (if conn.tcp.state = .kConnected then
          (s.setConn id (store conn)).setTodo l (.task id task :: (s.loops l).todo)
        else s)
      else none
  | _, _ => none

-- The test of state_ in a call from another thread: on kConnected the call goes
-- on at pc, otherwise it is over.
def threadCall (s : System) (thread : ThreadId) (id : ConnId) (pc : ThreadPc) (store : Connection → Connection) :
    Option System :=
  match s.threads thread, s.conns id with
  | .idle, some conn =>
      if conn.published then
        some (if conn.tcp.state = .kConnected then (s.setConn id (store conn)).setThread thread pc else s)
      else none
  | _, _ => none

def setState (conn : Connection) (state : StateE) : Connection := conn.withTcp (conn.tcp.setState state)

def step (s : System) : Label → Option System
  | .poll l active =>
      if (s.loops l).phase = .poll ∧ (s.loops l).todo = [] ∧ (s.destroying = true → l ≠ mainLoop) ∧
          (active.map Prod.fst).Nodup ∧ active.all (fun entry => s.ready l entry.1) then
        some (s.setLoop l { s.loops l with phase := .dispatch, active := active })
      else none
  | .dispatch l =>
      match (s.loops l).todo, (s.loops l).active with
      | [], (id, revents) :: active =>
          some (s.setLoop l { s.loops l with active := active, todo := (handleEventWithGuard revents).map (.task id) })
      | _, _ => none
  | .otherChannel l =>
      if (s.loops l).phase = .dispatch ∧ (s.loops l).todo = [] then some (s.setTodo l [.user]) else none
  | .accept sockfd ioLoop writeComplete highWater mark =>
      -- nextConnId_++ on the largest int is undefined
      if (s.loops mainLoop).phase = .dispatch ∧ (s.loops mainLoop).todo = [] ∧ s.nextConnId + 1 < 2 ^ 31 then
        some (s.newConnection ioLoop (.new sockfd writeComplete highWater mark))
      else none
  | .swap l =>
      if (s.loops l).phase = .dispatch ∧ (s.loops l).todo = [] ∧ (s.loops l).active = [] then
        some (s.setLoop l { s.loops l with phase := .functors, queue := (s.loops l).queue.swap })
      else none
  | .functor l answer =>
      match (s.loops l).phase, (s.loops l).todo, (s.loops l).queue.batch with
      | .functors, [], .task id task :: _ =>
          (s.takeFunctor l).call l id task [] answer
      | .functors, [], .user :: _ => some ((s.takeFunctor l).setTodo l [.user])
      | _, _, _ => none
  | .exec l answer =>
      match (s.loops l).todo with
      | .task id task :: rest => s.call l id task rest answer
      | _ => none
  | .userReturns l =>
      match (s.loops l).todo with
      | .user :: rest => some (s.setTodo l rest)
      | _ => none
  | .iterate l =>
      if (s.loops l).phase = .functors ∧ (s.loops l).todo = [] ∧ (s.loops l).queue.batch = [] then
        some (s.setLoop l { s.loops l with phase := .poll })
      else none
  | .userSend l id data => s.userCall l id (.sendInLoop (.direct data)) fun conn => conn
  | .userShutdown l id => s.userCall l id .shutdownInLoop (setState · .kDisconnecting)
  | .queueUser l => some (s.post l [.user])
  | .send thread id cell =>
      match s.cells thread cell with
      | none => none
      | some text =>
          s.threadCall thread id (.sending id ⟨thread, cell, text.bytes.length, text⟩)
            fun conn => { conn with called := conn.called ++ [text] }
  | .queueSend thread =>
      match s.threads thread with
      | .sending id data =>
          (s.conns id).map fun conn =>
            (s.post conn.loop [.task id (.sendInLoop (.captured data))]).setThread thread .idle
      | _ => none
  | .shutdown thread id => s.threadCall thread id (.shuttingDown id) fun conn => conn
  | .storeDisconnecting thread =>
      match s.threads thread with
      | .shuttingDown id =>
          (s.conns id).map fun conn => (s.setConn id (setState conn .kDisconnecting)).setThread thread (.stored id)
      | _ => none
  | .queueShutdown thread =>
      match s.threads thread with
      | .stored id =>
          (s.conns id).map fun conn => (s.post conn.loop [.task id .shutdownInLoop]).setThread thread .idle
      | _ => none
  | .overwrite thread cell data =>
      if s.threads thread = .idle then
        some { s with cells := Function.update s.cells thread (Function.update (s.cells thread) cell (some data)) }
      else none
  | .release thread cell =>
      if s.threads thread = .idle then
        some { s with cells := Function.update s.cells thread (Function.update (s.cells thread) cell none) }
      else none
  | .destroy =>
      if (s.loops mainLoop).phase = .poll ∧ (s.loops mainLoop).todo = [] then some { s with destroying := true } else none
  | .destroyConnection id =>
      match s.conns id with
      | none => none
      | some conn =>
          if s.destroying ∧ (s.loops mainLoop).todo = [] ∧ s.connectionMap conn.name = some id then
            if conn.loop = mainLoop then (s.setMap conn.name none).call mainLoop id .connectDestroyed [] .none
            else some ((s.setMap conn.name none).post conn.loop [.task id .connectDestroyed])
          else none

theorem call_outcome (s t : System) (l : LoopId) (id : ConnId) (task : Task) (rest : List Job) (answer : Answer)
    (taken : s.call l id task rest answer = some t) :
    ∃ conn effect, s.conns id = some conn ∧ conn.perform s.read task answer = some effect ∧
      t = s.apply l id rest effect := by
  rw [call] at taken
  split at taken
  · cases taken
  · next conn found =>
      obtain ⟨effect, done, rfl⟩ := Option.map_eq_some_iff.mp taken
      exact ⟨conn, effect, found, done, rfl⟩

-- A call of the user goes on if it finds state_ kConnected, and is over if not.
inductive UserCalls (s : System) (l : LoopId) (id : ConnId) (task : Task) (store : Connection → Connection) :
    System → Prop where
  | passes (rest : List Job) (conn : Connection) (todo : (s.loops l).todo = .user :: rest)
      (found : s.conns id = some conn) (own : conn.loop = l) (published : conn.published = true)
      (connected : conn.tcp.state = .kConnected) :
      UserCalls s l id task store ((s.setConn id (store conn)).setTodo l (.task id task :: (s.loops l).todo))
  | ignored (rest : List Job) (conn : Connection) (todo : (s.loops l).todo = .user :: rest)
      (found : s.conns id = some conn) (own : conn.loop = l) (published : conn.published = true)
      (refused : conn.tcp.state ≠ .kConnected) : UserCalls s l id task store s

inductive ThreadCalls (s : System) (thread : ThreadId) (id : ConnId) (pc : ThreadPc) (store : Connection → Connection) :
    System → Prop where
  | passes (conn : Connection) (idle : s.threads thread = .idle) (found : s.conns id = some conn)
      (published : conn.published = true) (connected : conn.tcp.state = .kConnected) :
      ThreadCalls s thread id pc store ((s.setConn id (store conn)).setThread thread pc)
  | ignored (conn : Connection) (idle : s.threads thread = .idle) (found : s.conns id = some conn)
      (published : conn.published = true) (refused : conn.tcp.state ≠ .kConnected) : ThreadCalls s thread id pc store s

theorem user_call_outcome (s t : System) (l : LoopId) (id : ConnId) (task : Task) (store : Connection → Connection)
    (taken : s.userCall l id task store = some t) : UserCalls s l id task store t := by
  rw [userCall] at taken
  split at taken
  · next rest conn todo found =>
      simp only [Option.ite_none_right_eq_some, Option.some.injEq] at taken
      obtain ⟨⟨own, published⟩, rfl⟩ := taken
      by_cases connected : conn.tcp.state = .kConnected
      · rw [if_pos connected]
        exact .passes rest conn todo found own published connected
      · rw [if_neg connected]
        exact .ignored rest conn todo found own published connected
  · cases taken

theorem thread_call_outcome (s t : System) (thread : ThreadId) (id : ConnId) (pc : ThreadPc)
    (store : Connection → Connection) (taken : s.threadCall thread id pc store = some t) :
    ThreadCalls s thread id pc store t := by
  rw [threadCall] at taken
  split at taken
  · next conn idle found =>
      simp only [Option.ite_none_right_eq_some, Option.some.injEq] at taken
      obtain ⟨published, rfl⟩ := taken
      by_cases connected : conn.tcp.state = .kConnected
      · rw [if_pos connected]
        exact .passes conn idle found published connected
      · rw [if_neg connected]
        exact .ignored conn idle found published connected
  · cases taken

inductive Takes (s : System) : Label → System → Prop where
  | poll (l : LoopId) (active : List (ConnId × EventMask)) (phase : (s.loops l).phase = .poll)
      (todo : (s.loops l).todo = []) (alive : s.destroying = true → l ≠ mainLoop) (distinct : (active.map Prod.fst).Nodup)
      (ready : active.all (fun entry => s.ready l entry.1) = true) :
      Takes s (.poll l active) (s.setLoop l { s.loops l with phase := .dispatch, active := active })
  | dispatch (l : LoopId) (id : ConnId) (revents : EventMask) (active : List (ConnId × EventMask))
      (todo : (s.loops l).todo = []) (reported : (s.loops l).active = (id, revents) :: active) :
      Takes s (.dispatch l)
        (s.setLoop l { s.loops l with active := active, todo := (handleEventWithGuard revents).map (.task id) })
  | otherChannel (l : LoopId) (phase : (s.loops l).phase = .dispatch) (todo : (s.loops l).todo = []) :
      Takes s (.otherChannel l) (s.setTodo l [.user])
  | accept (sockfd : Nat) (ioLoop : LoopId) (writeComplete highWater : Bool) (mark : Nat)
      (phase : (s.loops mainLoop).phase = .dispatch) (todo : (s.loops mainLoop).todo = [])
      (room : s.nextConnId + 1 < 2 ^ 31) :
      Takes s (.accept sockfd ioLoop writeComplete highWater mark)
        (s.newConnection ioLoop (.new sockfd writeComplete highWater mark))
  | swap (l : LoopId) (phase : (s.loops l).phase = .dispatch) (todo : (s.loops l).todo = [])
      (active : (s.loops l).active = []) :
      Takes s (.swap l) (s.setLoop l { s.loops l with phase := .functors, queue := (s.loops l).queue.swap })
  | functor (l : LoopId) (answer : Answer) (id : ConnId) (task : Task) (rest : List Job) (t : System)
      (phase : (s.loops l).phase = .functors) (todo : (s.loops l).todo = [])
      (next : (s.loops l).queue.batch = .task id task :: rest)
      (called : (s.takeFunctor l).call l id task [] answer = some t) : Takes s (.functor l answer) t
  | userFunctor (l : LoopId) (answer : Answer) (rest : List Job) (phase : (s.loops l).phase = .functors)
      (todo : (s.loops l).todo = []) (next : (s.loops l).queue.batch = .user :: rest) :
      Takes s (.functor l answer) ((s.takeFunctor l).setTodo l [.user])
  | exec (l : LoopId) (answer : Answer) (id : ConnId) (task : Task) (rest : List Job) (t : System)
      (todo : (s.loops l).todo = .task id task :: rest) (called : s.call l id task rest answer = some t) :
      Takes s (.exec l answer) t
  | userReturns (l : LoopId) (rest : List Job) (todo : (s.loops l).todo = .user :: rest) :
      Takes s (.userReturns l) (s.setTodo l rest)
  | iterate (l : LoopId) (phase : (s.loops l).phase = .functors) (todo : (s.loops l).todo = [])
      (served : (s.loops l).queue.batch = []) : Takes s (.iterate l) (s.setLoop l { s.loops l with phase := .poll })
  | userSend (l : LoopId) (id : ConnId) (data : CppString) (t : System)
      (called : s.userCall l id (.sendInLoop (.direct data)) (fun conn => conn) = some t) : Takes s (.userSend l id data) t
  | userShutdown (l : LoopId) (id : ConnId) (t : System)
      (called : s.userCall l id .shutdownInLoop (setState · .kDisconnecting) = some t) : Takes s (.userShutdown l id) t
  | queueUser (l : LoopId) : Takes s (.queueUser l) (s.post l [.user])
  | send (thread : ThreadId) (id : ConnId) (cell : Nat) (text : CppString) (t : System)
      (held : s.cells thread cell = some text)
      (called : s.threadCall thread id (.sending id ⟨thread, cell, text.bytes.length, text⟩)
        (fun conn => { conn with called := conn.called ++ [text] }) = some t) : Takes s (.send thread id cell) t
  | queueSend (thread : ThreadId) (id : ConnId) (data : Captured) (conn : Connection)
      (sending : s.threads thread = .sending id data) (found : s.conns id = some conn) :
      Takes s (.queueSend thread) ((s.post conn.loop [.task id (.sendInLoop (.captured data))]).setThread thread .idle)
  | shutdown (thread : ThreadId) (id : ConnId) (t : System)
      (called : s.threadCall thread id (.shuttingDown id) (fun conn => conn) = some t) : Takes s (.shutdown thread id) t
  | storeDisconnecting (thread : ThreadId) (id : ConnId) (conn : Connection)
      (shutting : s.threads thread = .shuttingDown id) (found : s.conns id = some conn) :
      Takes s (.storeDisconnecting thread) ((s.setConn id (setState conn .kDisconnecting)).setThread thread (.stored id))
  | queueShutdown (thread : ThreadId) (id : ConnId) (conn : Connection) (stored : s.threads thread = .stored id)
      (found : s.conns id = some conn) :
      Takes s (.queueShutdown thread) ((s.post conn.loop [.task id .shutdownInLoop]).setThread thread .idle)
  | overwrite (thread : ThreadId) (cell : Nat) (data : CppString) (idle : s.threads thread = .idle) :
      Takes s (.overwrite thread cell data)
        { s with cells := Function.update s.cells thread (Function.update (s.cells thread) cell (some data)) }
  | release (thread : ThreadId) (cell : Nat) (idle : s.threads thread = .idle) :
      Takes s (.release thread cell)
        { s with cells := Function.update s.cells thread (Function.update (s.cells thread) cell none) }
  | destroy (phase : (s.loops mainLoop).phase = .poll) (todo : (s.loops mainLoop).todo = []) :
      Takes s .destroy { s with destroying := true }
  | destroyHere (id : ConnId) (conn : Connection) (t : System) (found : s.conns id = some conn)
      (destroying : s.destroying = true) (todo : (s.loops mainLoop).todo = [])
      (mapped : s.connectionMap conn.name = some id) (main : conn.loop = mainLoop)
      (called : (s.setMap conn.name none).call mainLoop id .connectDestroyed [] .none = some t) :
      Takes s (.destroyConnection id) t
  | destroyThere (id : ConnId) (conn : Connection) (found : s.conns id = some conn) (destroying : s.destroying = true)
      (todo : (s.loops mainLoop).todo = []) (mapped : s.connectionMap conn.name = some id) (away : conn.loop ≠ mainLoop) :
      Takes s (.destroyConnection id) ((s.setMap conn.name none).post conn.loop [.task id .connectDestroyed])

theorem step_takes (s t : System) (label : Label) (taken : s.step label = some t) : Takes s label t := by
  cases label with
  | poll l active =>
      simp only [step, Option.ite_none_right_eq_some, Option.some.injEq] at taken
      obtain ⟨⟨phase, todo, alive, distinct, ready⟩, rfl⟩ := taken
      exact .poll l active phase todo alive distinct ready
  | dispatch l =>
      simp only [step] at taken
      split at taken
      · next id revents active todo reported =>
          cases taken
          exact .dispatch l id revents active todo reported
      · cases taken
  | otherChannel l =>
      simp only [step, Option.ite_none_right_eq_some, Option.some.injEq] at taken
      obtain ⟨⟨phase, todo⟩, rfl⟩ := taken
      exact .otherChannel l phase todo
  | accept sockfd ioLoop writeComplete highWater mark =>
      simp only [step, Option.ite_none_right_eq_some, Option.some.injEq] at taken
      obtain ⟨⟨phase, todo, room⟩, rfl⟩ := taken
      exact .accept sockfd ioLoop writeComplete highWater mark phase todo room
  | swap l =>
      simp only [step, Option.ite_none_right_eq_some, Option.some.injEq] at taken
      obtain ⟨⟨phase, todo, active⟩, rfl⟩ := taken
      exact .swap l phase todo active
  | functor l answer =>
      simp only [step] at taken
      split at taken
      · next id task rest phase todo next => exact .functor l answer id task rest t phase todo next taken
      · next rest phase todo next =>
          cases taken
          exact .userFunctor l answer rest phase todo next
      · cases taken
  | exec l answer =>
      simp only [step] at taken
      split at taken
      · next id task rest todo => exact .exec l answer id task rest t todo taken
      · cases taken
  | userReturns l =>
      simp only [step] at taken
      split at taken
      · next rest todo =>
          cases taken
          exact .userReturns l rest todo
      · cases taken
  | iterate l =>
      simp only [step, Option.ite_none_right_eq_some, Option.some.injEq] at taken
      obtain ⟨⟨phase, todo, served⟩, rfl⟩ := taken
      exact .iterate l phase todo served
  | userSend l id data => exact .userSend l id data t taken
  | userShutdown l id => exact .userShutdown l id t taken
  | queueUser l =>
      cases taken
      exact .queueUser l
  | send thread id cell =>
      simp only [step] at taken
      split at taken
      · cases taken
      · next text held => exact .send thread id cell text t held taken
  | queueSend thread =>
      simp only [step] at taken
      split at taken
      · next id data sending =>
          obtain ⟨conn, found, rfl⟩ := Option.map_eq_some_iff.mp taken
          exact .queueSend thread id data conn sending found
      · cases taken
  | shutdown thread id => exact .shutdown thread id t taken
  | storeDisconnecting thread =>
      simp only [step] at taken
      split at taken
      · next id shutting =>
          obtain ⟨conn, found, rfl⟩ := Option.map_eq_some_iff.mp taken
          exact .storeDisconnecting thread id conn shutting found
      · cases taken
  | queueShutdown thread =>
      simp only [step] at taken
      split at taken
      · next id stored =>
          obtain ⟨conn, found, rfl⟩ := Option.map_eq_some_iff.mp taken
          exact .queueShutdown thread id conn stored found
      · cases taken
  | overwrite thread cell data =>
      simp only [step, Option.ite_none_right_eq_some, Option.some.injEq] at taken
      obtain ⟨idle, rfl⟩ := taken
      exact .overwrite thread cell data idle
  | release thread cell =>
      simp only [step, Option.ite_none_right_eq_some, Option.some.injEq] at taken
      obtain ⟨idle, rfl⟩ := taken
      exact .release thread cell idle
  | destroy =>
      simp only [step, Option.ite_none_right_eq_some, Option.some.injEq] at taken
      obtain ⟨⟨phase, todo⟩, rfl⟩ := taken
      exact .destroy phase todo
  | destroyConnection id =>
      simp only [step] at taken
      split at taken
      · cases taken
      · next conn found =>
          simp only [Option.ite_none_right_eq_some] at taken
          obtain ⟨⟨destroying, todo, mapped⟩, taken⟩ := taken
          split at taken
          · next main => exact .destroyHere id conn t found destroying todo mapped main taken
          · next away =>
              cases taken
              exact .destroyThere id conn found destroying todo mapped away

end System

end Cmuduo.Net
