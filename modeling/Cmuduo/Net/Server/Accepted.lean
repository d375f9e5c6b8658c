import Cmuduo.Net.OpenConnection
import Cmuduo.Net.Server.Run

set_option autoImplicit false

namespace Cmuduo.Net

namespace View

-- A connection that the user has not been handed yet.
structure Unpublished (v : View) : Prop where
  events : v.conn.events = []
  deregistered : v.conn.deregistered = false
  called : v.conn.called = []
  processed : v.conn.processed = []
  calls : ∀ thread, v.calls thread = .none
  active : v.active = []
  main : v.main = []

-- What the destructor of the server has queued behind connectEstablished.
def destruction (v : View) : List Task := if v.mapped then [] else [.connectDestroyed]

structure Accepted (v : View) : Prop extends Unpublished v where
  tcp : ∃ sockfd writeComplete highWater mark, v.conn.tcp = .new sockfd writeComplete highWater mark
  waits : v.shared = true ∧ v.todo = [.connectEstablished] ∧ v.queue = [] ∧ v.mapped = true ∨
    v.shared = false ∧ v.todo = [] ∧ v.queue = .connectEstablished :: v.destruction

-- From connectEstablished to the connection callback it ends with.
structure Established (v : View) : Prop extends Unpublished v where
  tcp : ∃ sockfd writeComplete highWater mark, v.conn.tcp = .established sockfd writeComplete highWater mark
  todo : v.todo = [.connectionCallback false]
  queue : v.queue = v.destruction

theorem fresh_accepted (v : View) (fresh : System.Fresh v) : Accepted v := by
  obtain ⟨name, loop, sockfd, writeComplete, highWater, mark, rfl⟩ := fresh
  refine ⟨⟨rfl, rfl, rfl, rfl, fun _ => rfl, rfl, rfl⟩, ⟨sockfd, writeComplete, highWater, mark, rfl⟩, ?_⟩
  cases loop == mainLoop with
  | true => exact .inl ⟨rfl, rfl, rfl, rfl⟩
  | false => exact .inr ⟨rfl, rfl, rfl⟩

theorem fresh_mapped (v : View) (fresh : System.Fresh v) : v.mapped = true := by
  obtain ⟨name, loop, sockfd, writeComplete, highWater, mark, rfl⟩ := fresh
  rfl

theorem unpublished_not_published (v : View) (unpublished : Unpublished v) : v.conn.published = false := by
  simp [Connection.published, unpublished.events]

-- Nobody but the loops and the destructor can do anything with it.
theorem unpublished_moves (v w : View) (life : LifeLabel) (unpublished : Unpublished v) (moves : Moves v life w) :
    (∃ revents, life = .poll revents) ∨ (∃ read answer, life = .functor read answer) ∨
      (∃ read answer, life = .exec read answer) ∨ life = .destroy := by
  have hidden := unpublished_not_published v unpublished
  cases moves with
  | poll revents => exact .inl ⟨revents, rfl⟩
  | dispatch revents active idle next => cases unpublished.active.symm.trans next
  | functor read answer => exact .inr (.inl ⟨read, answer, rfl⟩)
  | exec read answer => exact .inr (.inr (.inl ⟨read, answer, rfl⟩))
  | mainFunctor main next => cases unpublished.main.symm.trans next
  | ignored life published => cases hidden.symm.trans published
  | userSend data published => cases hidden.symm.trans published
  | userShutdown published => cases hidden.symm.trans published
  | send thread data calling published => cases hidden.symm.trans published
  | queueSend thread data calling => cases (unpublished.calls thread).symm.trans calling
  | shutdown thread calling published => cases hidden.symm.trans published
  | storeDisconnecting thread calling => cases (unpublished.calls thread).symm.trans calling
  | queueShutdown thread calling => cases (unpublished.calls thread).symm.trans calling
  | destroyHere => exact .inr (.inr (.inr rfl))
  | destroyThere => exact .inr (.inr (.inr rfl))

theorem accepted_establishes (v : View) (queue : List Task) (read : Captured → Option CppString) (answer : Answer)
    (effect : Effect) (accepted : Accepted v) (behind : queue = v.destruction)
    (performs : Connection.Performs read v.conn .connectEstablished answer effect) :
    Established ((v.fetch .connectEstablished queue).apply [] effect) := by
  obtain ⟨sockfd, writeComplete, highWater, mark, isNew⟩ := accepted.tcp
  cases performs with
  | connectEstablished answer tcp up =>
      rw [isNew, TcpConnection.new_connect_established, Except.ok.injEq] at up
      refine ⟨⟨accepted.events, accepted.deregistered, accepted.called, accepted.processed, accepted.calls,
        accepted.active, ?_⟩, ⟨sockfd, writeComplete, highWater, mark, up.symm⟩, rfl, ?_⟩
      · simp [apply, fetch, Connection.plain, accepted.main]
      · simp [apply, fetch, Connection.plain, behind, destruction]

theorem accepted_moves (v w : View) (life : LifeLabel) (accepted : Accepted v) (moves : Moves v life w) :
    (Accepted w ∨ Established w) ∧ (life ≠ .destroy → w.mapped = v.mapped) := by
  have origin := unpublished_moves v w life accepted.toUnpublished moves
  cases moves with
  | poll revents drained idle registered =>
      obtain ⟨sockfd, writeComplete, highWater, mark, isNew⟩ := accepted.tcp
      rw [isNew] at registered
      cases registered
  | functor read answer task queue effect idle drained next performs =>
      rcases accepted.waits with ⟨-, waiting, -⟩ | ⟨-, -, waiting⟩
      · cases idle.symm.trans waiting
      · obtain ⟨rfl, behind⟩ := List.cons.inj (next.symm.trans waiting)
        refine ⟨.inr (accepted_establishes v queue read answer effect accepted behind performs), fun _ => ?_⟩
        cases performs
        exact Bool.and_true _
  | exec read answer task rest effect next performs =>
      rcases accepted.waits with ⟨-, waiting, empty, mapped⟩ | ⟨-, waiting, -⟩
      · obtain ⟨rfl, rfl⟩ := List.cons.inj (next.symm.trans waiting)
        have behind : v.queue = v.destruction := by simp [empty, destruction, mapped]
        refine ⟨.inr (accepted_establishes v v.queue read answer effect accepted behind performs), fun _ => ?_⟩
        cases performs
        exact Bool.and_true _
      · cases next.symm.trans waiting
  | destroyHere effect mapped shared idle drained performs =>
      rcases accepted.waits with ⟨-, waiting, -⟩ | ⟨away, -⟩
      · cases idle.symm.trans waiting
      · cases shared.symm.trans away
  | destroyThere mapped away =>
      refine ⟨.inl ?_, fun other => absurd rfl other⟩
      rcases accepted.waits with ⟨shared, -⟩ | ⟨-, idle, waiting⟩
      · cases shared.symm.trans away
      · exact ⟨⟨accepted.events, accepted.deregistered, accepted.called, accepted.processed, accepted.calls,
          accepted.active, accepted.main⟩, accepted.tcp, .inr ⟨away, idle, by simp [waiting, destruction, mapped]⟩⟩
  | ignored life published => cases (unpublished_not_published v accepted.toUnpublished).symm.trans published
  | _ => simp at origin

end View

-- A server whose connection 1 comes up on loop 1, or on the server's own loop.
def listening : System := .new "echo".toList ⟨127, 0, 0, 1, 8000⟩

def comesUp : List Label :=
  [.poll 0 [], .accept 5 1 false false 0, .poll 1 [], .swap 1, .functor 1 .none, .exec 1 .none, .userReturns 1, .iterate 1]

def comesUpHere : List Label :=
  [.poll 0 [], .accept 5 0 false false 0, .exec 0 .none, .exec 0 .none, .userReturns 0, .swap 0, .iterate 0]

-- A send of another thread is queued, and then the peer closes.
def closesBeforeSend : List Label :=
  comesUp ++ [.overwrite 7 0 (.ofBytes [65, 66]), .send 7 1 0, .queueSend 7, .poll 1 [(1, EPOLLIN)], .dispatch 1,
    .exec 1 (.read (.arrived [])), .exec 1 .none, .exec 1 .none, .userReturns 1, .exec 1 .none, .swap 1]

-- What a run of that server shows of its connection 1.
def outcome {α : Type} (labels : List Label) (shown : System → Connection → α) : Option α :=
  (Machine.run System.step listening labels).bind fun s => (s.conns 1).map (shown s)

theorem outcome_found {α : Type} (labels : List Label) (shown : System → Connection → α) (value : α)
    (reached : outcome labels shown = some value) :
    ∃ s conn, Machine.run System.step listening labels = some s ∧ s.conns 1 = some conn ∧ shown s conn = value := by
  obtain ⟨s, ran, seen⟩ := Option.bind_eq_some_iff.mp reached
  obtain ⟨conn, found, same⟩ := Option.map_eq_some_iff.mp seen
  exact ⟨s, conn, ran, found, same⟩

example : outcome comesUp (fun _ conn => (conn.loop, conn.tcp)) = some (1, .established 5 false false 0) := by
  decide +kernel

example : outcome comesUpHere (fun _ conn => (conn.loop, conn.tcp)) = some (0, .established 5 false false 0) := by
  decide +kernel

end Cmuduo.Net
