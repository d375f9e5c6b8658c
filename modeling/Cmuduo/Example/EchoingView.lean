import Cmuduo.Example.EchoServer
import Cmuduo.Net.Server.UserCode

set_option autoImplicit false

namespace Cmuduo.Net

open Machine

-- The tasks that a message of the peer passes through, and those of the user.
def Task.handles : Task → Bool
  | .handleRead | .messageCallback | .sendInLoop _ | .shutdownInLoop => true
  | _ => false

-- What has been given to the output, in order.
def TcpConnection.sentBack (c : TcpConnection) : List UInt8 := c.wire ++ c.outputBuffer.readable

namespace Connection

variable {read : Captured → Option CppString} {conn : Connection} {task : Task} {answer : Answer} {effect : Effect}

structure Apart (conn : Connection) (effect : Effect) : Prop where
  input : effect.conn.tcp.inputBuffer = conn.tcp.inputBuffer
  output : effect.conn.tcp.sentBack = conn.tcp.sentBack
  state : effect.conn.tcp.state = .kDisconnected ∨ effect.conn.tcp.state = conn.tcp.state
  front : effect.front.filter Task.handles = []

end Connection

namespace View

-- What a step reads on a connection that is up.
def arrives (v : View) : LifeLabel → List UInt8
  | .exec _ answer =>
      match v.todo, answer with
      | .handleRead :: _, .read result => if v.conn.tcp.connected then v.conn.tcp.chunk result else []
      | _, _ => []
  | _ => []

section
variable {read : Captured → Option CppString} {answer : Answer} {effect : Effect} {task : Task} {rest : List Task}
  {received : List UInt8}

end

-- The steps that are not calls of the program.
def Unattended (v : View) : LifeLabel → Prop
  | .poll _ | .dispatch | .functor _ _ | .mainFunctor => True
  | .exec _ _ => v.todo.head? ≠ some .messageCallback
  | _ => False

end View

end Cmuduo.Net
