import Cmuduo.Example.EchoingView

set_option autoImplicit false

namespace Cmuduo.Example.EchoServer

open Net Machine

-- The program on the loops of its TcpServer: what the loops do by themselves, and
-- the call of messageCallback_ that is next on a loop.
inductive ServerLabel where
  | server (label : Label)
  | onMessage (loop : LoopId)

def inMessage (s : System) (l : LoopId) : Bool :=
  match (s.loops l).todo with
  | .task _ .messageCallback :: _ => true
  | _ => false

-- No other callback is set but onConnection, which makes no calls.
def Unattended (s : System) : Label → Prop
  | .poll _ _ | .dispatch _ | .otherChannel _ | .swap _ | .functor _ _ | .userReturns _ | .iterate _ => True
  | .accept _ _ writeComplete highWater _ => writeComplete = false ∧ highWater = false
  | .exec l _ => inMessage s l = false
  | _ => False

instance (s : System) : (label : Label) → Decidable (Unattended s label)
  | .poll _ _ | .dispatch _ | .otherChannel _ | .swap _ | .functor _ _ | .userReturns _ | .iterate _ => .isTrue trivial
  | .accept _ _ writeComplete highWater _ => inferInstanceAs (Decidable (writeComplete = false ∧ highWater = false))
  | .exec l _ => inferInstanceAs (Decidable (inMessage s l = false))
  | .userSend .. | .userShutdown .. | .queueUser _ | .send .. | .queueSend _ | .shutdown .. | .storeDisconnecting _
  | .queueShutdown _ | .overwrite .. | .release .. | .destroy | .destroyConnection _ => .isFalse id

def step (s : System) : ServerLabel → Option System
  | .server label => if Unattended s label then s.step label else none
  | .onMessage l =>
      match (s.loops l).todo with
      | .task id .messageCallback :: _ =>
          match s.conns id with
          | none => none
          | some conn =>
              match conn.tcp.inputBuffer.retrieveAllAsString with
              | .error _ => none
              | .ok (msg, buffer) =>
                  run System.step (s.retrieved id conn buffer) [.exec l .none, .userSend l id (.ofBytes msg)]
      | _ => none

end Cmuduo.Example.EchoServer

namespace Cmuduo.Example

open Net Net.System Machine

namespace EchoServer

-- What the ::readv of a connection that is up have returned.
def received (id : ConnId) (s : System) (label : ServerLabel) (_ : System) : List UInt8 :=
  match label with
  | .onMessage _ => []
  | .server label =>
      match s.view id, s.lifeLabel id label with
      | some v, some life => v.arrives life
      | _, _ => []

-- No flush of the connection writes past its backlog, and no direct write of it
-- fails for good.
def Delivers (id : ConnId) (s : System) : ServerLabel → Prop
  | .server label =>
      s.Guards (fun other v life =>
        other = id → ∀ call ∈ v.streamCalls life, OutputStream.Delivers ⟨v.conn.tcp, []⟩ call) label
  | .onMessage _ => True

instance (id : ConnId) (s : System) : (label : ServerLabel) → Decidable (Delivers id s label)
  | .server label => by unfold Delivers; infer_instance
  | .onMessage _ => .isTrue trivial

theorem unattended_on_loop (s : System) (label : Label) (unattended : Unattended s label) : label.OnLoop := by
  cases label <;> trivial

theorem unattended_guards (s : System) (label : Label) (home : Home s) (unattended : Unattended s label) :
    s.Guards (fun _ => View.Unattended) label := by
  cases targeted : s.target label with
  | none => simp [Guards, targeted]
  | some pair =>
      obtain ⟨id, life⟩ := pair
      cases seen : s.view id with
      | none => simp [Guards, targeted, seen]
      | some v =>
          simp only [Guards, targeted, seen]
          cases label with
          | dispatch l =>
              simp only [target] at targeted
              split at targeted <;> cases targeted
              trivial
          | functor l answer =>
              simp only [target] at targeted
              split at targeted
              · simp only [Option.some.injEq, Prod.mk.injEq] at targeted
                split at targeted <;> exact targeted.2 ▸ trivial
              · cases targeted
          | exec l answer =>
              simp only [target] at targeted
              split at targeted
              · next other task rest todo =>
                  cases targeted
                  rw [View.Unattended, front_view s l id task rest v home todo seen]
                  rintro same
                  cases same
                  rw [Unattended, inMessage, todo] at unattended
                  cases unattended
              · cases targeted
          | poll => cases targeted
          | otherChannel => cases targeted
          | accept => cases targeted
          | swap => cases targeted
          | userReturns => cases targeted
          | iterate => cases targeted
          | _ => exact unattended.elim

section
variable (s : System) (l : LoopId) (id : ConnId) (conn : Connection) (buffer : Buffer) (rest : List Job)

end

end EchoServer

end Cmuduo.Example
