import Cmuduo.Base.InetAddress
import Cmuduo.Net.TcpConnection

set_option autoImplicit false

namespace Cmuduo.Net

open Base

-- A connection is named by the nextConnId_ it was given, a loop by its place
-- in the pool after the server's own loop.
abbrev ConnId := Nat
abbrev LoopId := Nat
abbrev ThreadId := Nat

def mainLoop : LoopId := 0

-- name_ + buf, where snprintf stores at most 63 characters in the 64 of buf.
def connName (name : List Char) (listen : InetAddress) (id : ConnId) : List Char :=
  name ++ ('-' :: listen.toIpPort ++ '#' :: decimal id).take 63

-- What send binds in another thread: the c_str() and the size() of the owner's
-- string. sent, a ghost, is the string at the time of the call.
structure Captured where
  owner : ThreadId
  cell : Nat
  len : Nat
  sent : CppString
deriving DecidableEq

inductive Payload where
  | direct (data : CppString)
  | captured (data : Captured)
deriving DecidableEq

-- The calls made on a connection by its handlers and by queued functors.
-- setDisconnected and channelRemove are the two later parts of
-- connectDestroyed, after its test of state_.
inductive Task where
  | handleClose
  | handleError
  | handleRead
  | handleWrite
  | connectionCallback (closing : Bool)
  | messageCallback
  | closeCallback
  | removeConnectionInLoop
  | connectEstablished
  | connectDestroyed
  | setDisconnected
  | channelRemove
  | sendInLoop (payload : Payload)
  | shutdownInLoop
  | notice (notice : Notice)
deriving DecidableEq

-- Channel::handleEventWithGuard, with the callbacks the constructor of
-- TcpConnection sets.
def handleEventWithGuard (revents : EventMask) : List Task :=
  (if revents &&& EPOLLHUP ≠ 0#32 ∧ revents &&& EPOLLIN = 0#32 then [.handleClose] else []) ++
    (if revents &&& EPOLLERR ≠ 0#32 then [.handleError] else []) ++
    (if revents &&& (EPOLLIN ||| EPOLLPRI) ≠ 0#32 then [.handleRead] else []) ++
    (if revents &&& EPOLLOUT ≠ 0#32 then [.handleWrite] else [])

inductive LifeEvent where
  | connectionCallback (closing connected : Bool)
  | closeCallback
  | connectDestroyed
deriving DecidableEq, Repr

-- The last four fields are ghosts: the life cycle events so far, whether
-- handleClose or connectDestroyed has deregistered the channel, the strings
-- that send has accepted from other threads, and for each of these that
-- sendInLoop has processed the bytes it found (none for an invalid access).
structure Connection where
  name : List Char
  loop : LoopId
  tcp : TcpConnection
  events : List LifeEvent
  deregistered : Bool
  called : List CppString
  processed : List (CppString × Option CppString)
deriving DecidableEq

-- What the kernel answers to the call's ::readv or ::write, if it makes one.
-- stray also has the bytes that are in memory at a captured pointer when it leads
-- nowhere that the strings tell of.
inductive Answer where
  | none
  | read (result : ReadResult)
  | write (result : WriteResult)
  | stray (memory : CppString) (result : WriteResult)
deriving DecidableEq, Repr

-- The data and the ::write of a sendInLoop on a captured pointer, where the
-- strings of the callers still have its bytes or not. It is len bytes in any case.
def Captured.found (data : Captured) : Option CppString → Answer → Option (CppString × WriteResult)
  | some bytes, .write result => some (bytes, result)
  | none, .stray memory result => if memory.bytes.length = data.len then some (memory, result) else none
  | _, _ => none

-- What a call does: the connection it leaves, what the same thread does next,
-- whether it is in code of the user before that, what is queued on the
-- connection's loop, whether the server is to remove the connection on its own
-- loop, and whether the connection's map entry is erased.
structure Effect where
  conn : Connection
  front : List Task
  userCode : Bool
  queue : List Task
  remove : Bool
  erase : Bool

theorem Captured.found_outcome (data : Captured) (found : Option CppString) (answer : Answer) (bytes : CppString)
    (result : WriteResult) (offered : data.found found answer = some (bytes, result)) :
    found = some bytes ∧ answer = .write result ∨
      found = none ∧ bytes.bytes.length = data.len ∧ answer = .stray bytes result := by
  unfold Captured.found at offered
  split at offered
  · cases offered
    exact .inl ⟨rfl, rfl⟩
  · simp only [Option.ite_none_right_eq_some, Option.some.injEq, Prod.mk.injEq] at offered
    obtain ⟨long, rfl, rfl⟩ := offered
    exact .inr ⟨rfl, long, rfl⟩
  · cases offered

def TcpConnection.ReadOutcome.next : ReadOutcome → Task
  | .message => .messageCallback
  | .close => .handleClose
  | .error => .handleError

namespace Connection

def new (name : List Char) (loop : LoopId) (tcp : TcpConnection) : Connection :=
  { name := name
    loop := loop
    tcp := tcp
    events := []
    deregistered := false
    called := []
    processed := [] }

def plain (conn : Connection) : Effect := ⟨conn, [], false, [], false, false⟩

def withTcp (conn : Connection) (tcp : TcpConnection) : Connection := { conn with tcp := tcp }

-- The user has been handed the connection, by its first callback.
def published (conn : Connection) : Bool := conn.events ≠ []

def sendInLoop (conn : Connection) (data : CppString) (result : WriteResult) : Option Effect :=
  match conn.tcp.sendInLoop data result with
  | .error _ => none
  | .ok (tcp, notices) => some { (conn.withTcp tcp).plain with queue := notices.map .notice }

-- One call. read is the callers' strings: what a captured pointer and size give
-- now, if it is within one. An exception or the fatal exit ends the program, so
-- there is no effect then.
def perform (read : Captured → Option CppString) (conn : Connection) (task : Task) (answer : Answer) : Option Effect :=
  match task, answer with
  | .handleClose, _ =>
      match (conn.tcp.setState .kDisconnected).disableAll with
      | .error _ => none
      | .ok tcp =>
          some { ({ conn with tcp := tcp, deregistered := true } : Connection).plain with
            front := [.connectionCallback true, .closeCallback] }
  | .handleError, _ => some conn.plain
  | .handleRead, .read result =>
      match conn.tcp.handleRead result with
      | .error _ => none
      | .ok (outcome, tcp) => some { (conn.withTcp tcp).plain with front := [outcome.next] }
  | .handleWrite, .write result =>
      match conn.tcp.handleWrite result with
      | .error _ => none
      | .ok (tcp, notices) => some { (conn.withTcp tcp).plain with queue := notices.map .notice }
  | .connectionCallback closing, _ =>
      some { ({ conn with events := conn.events ++ [.connectionCallback closing conn.tcp.connected] } : Connection).plain with
        userCode := true }
  | .messageCallback, _ => some { conn.plain with userCode := true }
  | .closeCallback, _ =>
      some { ({ conn with events := conn.events ++ [.closeCallback] } : Connection).plain with remove := true }
  | .removeConnectionInLoop, _ => some { conn.plain with queue := [.connectDestroyed], erase := true }
  | .connectEstablished, _ =>
      match conn.tcp.connectEstablished with
      | .error _ => none
      | .ok tcp => some { (conn.withTcp tcp).plain with front := [.connectionCallback false] }
  | .connectDestroyed, _ =>
      some { ({ conn with events := conn.events ++ [.connectDestroyed] } : Connection).plain with
        front :=
          if conn.tcp.state = .kConnected then [.setDisconnected, .connectionCallback true, .channelRemove]
          else [.channelRemove] }
  | .setDisconnected, _ =>
      match (conn.tcp.setState .kDisconnected).disableAll with
      | .error _ => none
      | .ok tcp => some ({ conn with tcp := tcp, deregistered := true } : Connection).plain
  | .channelRemove, _ =>
      match conn.tcp.channelRemove with
      | .error _ => none
      | .ok tcp => some ({ conn with tcp := tcp, deregistered := true } : Connection).plain
  | .sendInLoop (.direct data), .write result => conn.sendInLoop data result
  | .sendInLoop (.captured data), answer =>
      match data.found (read data) answer with
      | none => none
      | some (bytes, result) =>
          { conn with processed := conn.processed ++ [(data.sent, read data)] }.sendInLoop bytes result
  | .shutdownInLoop, _ => some (conn.withTcp conn.tcp.shutdownInLoop).plain
  | .notice _, _ => some { conn.plain with userCode := true }
  | _, _ => none

inductive Performs (read : Captured → Option CppString) (conn : Connection) : Task → Answer → Effect → Prop where
  | handleClose (answer : Answer) (tcp : TcpConnection)
      (disabled : (conn.tcp.setState .kDisconnected).disableAll = .ok tcp) :
      Performs read conn .handleClose answer
        { ({ conn with tcp := tcp, deregistered := true } : Connection).plain with
          front := [.connectionCallback true, .closeCallback] }
  | handleError (answer : Answer) : Performs read conn .handleError answer conn.plain
  | handleRead (result : ReadResult) (outcome : TcpConnection.ReadOutcome) (tcp : TcpConnection)
      (received : conn.tcp.handleRead result = .ok (outcome, tcp)) :
      Performs read conn .handleRead (.read result) { (conn.withTcp tcp).plain with front := [outcome.next] }
  | handleWrite (result : WriteResult) (tcp : TcpConnection) (notices : List Notice)
      (flushed : conn.tcp.handleWrite result = .ok (tcp, notices)) :
      Performs read conn .handleWrite (.write result) { (conn.withTcp tcp).plain with queue := notices.map .notice }
  | connectionCallback (closing : Bool) (answer : Answer) :
      Performs read conn (.connectionCallback closing) answer
        { ({ conn with
            events := conn.events ++ [.connectionCallback closing conn.tcp.connected] } : Connection).plain with
          userCode := true }
  | messageCallback (answer : Answer) : Performs read conn .messageCallback answer { conn.plain with userCode := true }
  | closeCallback (answer : Answer) :
      Performs read conn .closeCallback answer
        { ({ conn with events := conn.events ++ [.closeCallback] } : Connection).plain with remove := true }
  | removeConnectionInLoop (answer : Answer) :
      Performs read conn .removeConnectionInLoop answer { conn.plain with queue := [.connectDestroyed], erase := true }
  | connectEstablished (answer : Answer) (tcp : TcpConnection) (up : conn.tcp.connectEstablished = .ok tcp) :
      Performs read conn .connectEstablished answer
        { (conn.withTcp tcp).plain with front := [.connectionCallback false] }
  | connectDestroyed (answer : Answer) :
      Performs read conn .connectDestroyed answer
        { ({ conn with events := conn.events ++ [.connectDestroyed] } : Connection).plain with
          front :=
            if conn.tcp.state = .kConnected then [.setDisconnected, .connectionCallback true, .channelRemove]
            else [.channelRemove] }
  | setDisconnected (answer : Answer) (tcp : TcpConnection)
      (disabled : (conn.tcp.setState .kDisconnected).disableAll = .ok tcp) :
      Performs read conn .setDisconnected answer ({ conn with tcp := tcp, deregistered := true } : Connection).plain
  | channelRemove (answer : Answer) (tcp : TcpConnection) (removed : conn.tcp.channelRemove = .ok tcp) :
      Performs read conn .channelRemove answer ({ conn with tcp := tcp, deregistered := true } : Connection).plain
  | sendDirect (data : CppString) (result : WriteResult) (tcp : TcpConnection) (notices : List Notice)
      (sent : conn.tcp.sendInLoop data result = .ok (tcp, notices)) :
      Performs read conn (.sendInLoop (.direct data)) (.write result)
        { (conn.withTcp tcp).plain with queue := notices.map .notice }
  | sendCaptured (data : Captured) (bytes : CppString) (result : WriteResult) (tcp : TcpConnection)
      (notices : List Notice) (found : read data = some bytes)
      (sent : conn.tcp.sendInLoop bytes result = .ok (tcp, notices)) :
      Performs read conn (.sendInLoop (.captured data)) (.write result)
        { ({ conn with tcp := tcp, processed := conn.processed ++ [(data.sent, some bytes)] } : Connection).plain with
          queue := notices.map .notice }
  | sendStray (data : Captured) (memory : CppString) (result : WriteResult) (tcp : TcpConnection)
      (notices : List Notice) (missing : read data = none) (long : memory.bytes.length = data.len)
      (sent : conn.tcp.sendInLoop memory result = .ok (tcp, notices)) :
      Performs read conn (.sendInLoop (.captured data)) (.stray memory result)
        { ({ conn with tcp := tcp, processed := conn.processed ++ [(data.sent, none)] } : Connection).plain with
          queue := notices.map .notice }
  | shutdownInLoop (answer : Answer) :
      Performs read conn .shutdownInLoop answer (conn.withTcp conn.tcp.shutdownInLoop).plain
  | notice (notice : Notice) (answer : Answer) :
      Performs read conn (.notice notice) answer { conn.plain with userCode := true }

theorem send_in_loop_outcome (conn : Connection) (data : CppString) (result : WriteResult) (effect : Effect)
    (done : conn.sendInLoop data result = some effect) :
    ∃ tcp notices, conn.tcp.sendInLoop data result = .ok (tcp, notices) ∧
      effect = { (conn.withTcp tcp).plain with queue := notices.map .notice } := by
  rw [sendInLoop] at done
  split at done
  · cases done
  · next tcp notices sent => exact ⟨tcp, notices, sent, (Option.some.inj done).symm⟩

theorem perform_outcome (read : Captured → Option CppString) (conn : Connection) (task : Task) (answer : Answer)
    (effect : Effect) (done : conn.perform read task answer = some effect) : Performs read conn task answer effect := by
  cases task with
  | handleClose =>
      simp only [perform] at done
      cases disabled : (conn.tcp.setState .kDisconnected).disableAll with
      | error stop => simp [disabled] at done
      | ok tcp =>
          simp only [disabled, Option.some.injEq] at done
          exact done ▸ .handleClose answer tcp disabled
  | handleError => exact Option.some.inj done ▸ .handleError answer
  | handleRead =>
      cases answer with
      | read result =>
          simp only [perform] at done
          cases received : conn.tcp.handleRead result with
          | error stop => simp [received] at done
          | ok pair =>
              obtain ⟨outcome, tcp⟩ := pair
              simp only [received, Option.some.injEq] at done
              exact done ▸ .handleRead result outcome tcp received
      | _ => cases done
  | handleWrite =>
      cases answer with
      | write result =>
          simp only [perform] at done
          cases flushed : conn.tcp.handleWrite result with
          | error stop => simp [flushed] at done
          | ok pair =>
              obtain ⟨tcp, notices⟩ := pair
              simp only [flushed, Option.some.injEq] at done
              exact done ▸ .handleWrite result tcp notices flushed
      | _ => cases done
  | connectionCallback closing => exact Option.some.inj done ▸ .connectionCallback closing answer
  | messageCallback => exact Option.some.inj done ▸ .messageCallback answer
  | closeCallback => exact Option.some.inj done ▸ .closeCallback answer
  | removeConnectionInLoop => exact Option.some.inj done ▸ .removeConnectionInLoop answer
  | connectEstablished =>
      simp only [perform] at done
      cases up : conn.tcp.connectEstablished with
      | error stop => simp [up] at done
      | ok tcp =>
          simp only [up, Option.some.injEq] at done
          exact done ▸ .connectEstablished answer tcp up
  | connectDestroyed => exact Option.some.inj done ▸ .connectDestroyed answer
  | setDisconnected =>
      simp only [perform] at done
      cases disabled : (conn.tcp.setState .kDisconnected).disableAll with
      | error stop => simp [disabled] at done
      | ok tcp =>
          simp only [disabled, Option.some.injEq] at done
          exact done ▸ .setDisconnected answer tcp disabled
  | channelRemove =>
      simp only [perform] at done
      cases removed : conn.tcp.channelRemove with
      | error stop => simp [removed] at done
      | ok tcp =>
          simp only [removed, Option.some.injEq] at done
          exact done ▸ .channelRemove answer tcp removed
  | sendInLoop payload =>
      cases payload with
      | direct data =>
          cases answer with
          | write result =>
              simp only [perform] at done
              obtain ⟨tcp, notices, sent, rfl⟩ := send_in_loop_outcome conn data result effect done
              exact .sendDirect data result tcp notices sent
          | _ => cases done
      | captured data =>
          simp only [perform] at done
          split at done
          · cases done
          · next bytes result offered =>
              obtain ⟨tcp, notices, sent, rfl⟩ := send_in_loop_outcome _ bytes result effect done
              rcases data.found_outcome _ answer bytes result offered with ⟨found, rfl⟩ | ⟨missing, long, rfl⟩
              · rw [found]
                exact .sendCaptured data bytes result tcp notices found sent
              · rw [missing]
                exact .sendStray data bytes result tcp notices missing long sent
  | shutdownInLoop => exact Option.some.inj done ▸ .shutdownInLoop answer
  | notice notice => exact Option.some.inj done ▸ .notice notice answer

theorem perform_keeps (read : Captured → Option CppString) (conn : Connection) (task : Task) (answer : Answer)
    (effect : Effect) (done : conn.perform read task answer = some effect) :
    effect.conn.loop = conn.loop ∧ effect.conn.name = conn.name := by
  cases perform_outcome read conn task answer effect done <;> exact ⟨rfl, rfl⟩

end Connection

theorem conn_suffix_fits (listen : InetAddress) (id : ConnId) (bound : id < 2 ^ 31) :
    ('-' :: listen.toIpPort ++ '#' :: decimal id).length ≤ 63 := by
  have address := to_ip_port_length listen
  have digits := decimal_length id 10 (by decide) (Nat.lt_trans bound (by decide))
  simp only [List.length_append, List.length_cons]
  omega

theorem conn_name_whole (name : List Char) (listen : InetAddress) (id : ConnId) (bound : id < 2 ^ 31) :
    connName name listen id = name ++ ('-' :: listen.toIpPort ++ '#' :: decimal id) := by
  rw [connName, List.take_of_length_le (conn_suffix_fits listen id bound)]

theorem conn_name_injective (name : List Char) (listen : InetAddress) (first second : ConnId)
    (firstBound : first < 2 ^ 31) (secondBound : second < 2 ^ 31)
    (same : connName name listen first = connName name listen second) : first = second := by
  rw [conn_name_whole name listen first firstBound, conn_name_whole name listen second secondBound,
    List.append_cancel_left_eq, List.append_cancel_left_eq] at same
  exact decimal_injective (List.cons.inj same).2

end Cmuduo.Net
