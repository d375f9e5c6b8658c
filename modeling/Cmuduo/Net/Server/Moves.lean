import Cmuduo.Net.Server.View

set_option autoImplicit false

namespace Cmuduo.Net

namespace View

def fetch (v : View) (task : Task) (queue : List Task) : View := { v with todo := [task], queue := queue }

-- The outcomes of one step of a connection, one by one. ignored is a call of
-- the user that finds state_ not kConnected.
inductive Moves (v : View) : LifeLabel → View → Prop where
  | poll (revents : EventMask) (drained : v.active = []) (idle : v.todo = [])
      (registered : v.conn.tcp.slot.interest.isSome) : Moves v (.poll revents) { v with active := [revents] }
  | dispatch (revents : EventMask) (active : List EventMask) (idle : v.todo = []) (next : v.active = revents :: active) :
      Moves v .dispatch { v with active := active, todo := handleEventWithGuard revents }
  | functor (read : Captured → Option CppString) (answer : Answer) (task : Task) (queue : List Task) (effect : Effect)
      (idle : v.todo = []) (drained : v.active = []) (next : v.queue = task :: queue)
      (performs : Connection.Performs read v.conn task answer effect) :
      Moves v (.functor read answer) ((v.fetch task queue).apply [] effect)
  | exec (read : Captured → Option CppString) (answer : Answer) (task : Task) (rest : List Task) (effect : Effect)
      (next : v.todo = task :: rest) (performs : Connection.Performs read v.conn task answer effect) :
      Moves v (.exec read answer) (v.apply rest effect)
  | mainFunctor (main : List Task) (next : v.main = .removeConnectionInLoop :: main) :
      Moves v .mainFunctor { v with mapped := false, queue := v.queue ++ [.connectDestroyed], main := main }
  | ignored (life : LifeLabel) (published : v.conn.published = true) (refused : v.conn.tcp.state ≠ .kConnected) :
      Moves v life v
  | userSend (data : CppString) (published : v.conn.published = true) (connected : v.conn.tcp.state = .kConnected) :
      Moves v (.userSend data) { v with todo := Task.sendInLoop (.direct data) :: v.todo }
  | userShutdown (published : v.conn.published = true) (connected : v.conn.tcp.state = .kConnected) :
      Moves v .userShutdown { v.setState .kDisconnecting with todo := Task.shutdownInLoop :: v.todo }
  | send (thread : ThreadId) (data : Captured) (calling : v.calls thread = .none) (published : v.conn.published = true)
      (connected : v.conn.tcp.state = .kConnected) :
      Moves v (.send thread data)
        ({ v with conn := { v.conn with called := v.conn.called ++ [data.sent] } }.setCall thread (.sending data))
  | queueSend (thread : ThreadId) (data : Captured) (calling : v.calls thread = .sending data) :
      Moves v (.queueSend thread) ({ v with queue := v.queue ++ [Task.sendInLoop (.captured data)] }.setCall thread .none)
  | shutdown (thread : ThreadId) (calling : v.calls thread = .none) (published : v.conn.published = true)
      (connected : v.conn.tcp.state = .kConnected) : Moves v (.shutdown thread) (v.setCall thread .shuttingDown)
  | storeDisconnecting (thread : ThreadId) (calling : v.calls thread = .shuttingDown) :
      Moves v (.storeDisconnecting thread) ((v.setState .kDisconnecting).setCall thread .stored)
  | queueShutdown (thread : ThreadId) (calling : v.calls thread = .stored) :
      Moves v (.queueShutdown thread) ({ v with queue := v.queue ++ [Task.shutdownInLoop] }.setCall thread .none)
  | destroyHere (effect : Effect) (mapped : v.mapped = true) (shared : v.shared = true) (idle : v.todo = [])
      (drained : v.active = [])
      (performs : Connection.Performs (fun _ => none) v.conn .connectDestroyed .none effect) :
      Moves v .destroy (({ v with mapped := false }.fetch .connectDestroyed v.queue).apply [] effect)
  | destroyThere (mapped : v.mapped = true) (away : v.shared = false) :
      Moves v .destroy { v with mapped := false, queue := v.queue ++ [.connectDestroyed] }

theorem call_performs (v w : View) (task : Task) (rest : List Task) (read : Captured → Option CppString)
    (answer : Answer) (taken : v.call task rest read answer = some w) :
    ∃ effect, Connection.Performs read v.conn task answer effect ∧ w = v.apply rest effect := by
  obtain ⟨effect, done, rfl⟩ := Option.map_eq_some_iff.mp taken
  exact ⟨effect, Connection.perform_outcome read v.conn task answer effect done, rfl⟩

theorem step_moves (v w : View) (life : LifeLabel) (taken : v.step life = some w) : Moves v life w := by
  cases life with
  | poll revents =>
      simp only [step, Option.ite_none_right_eq_some, Option.some.injEq] at taken
      obtain ⟨⟨drained, idle, registered⟩, rfl⟩ := taken
      exact .poll revents drained idle registered
  | dispatch =>
      simp only [step] at taken
      split at taken
      · next revents active idle next =>
          cases taken
          exact .dispatch revents active idle next
      · cases taken
  | functor read answer =>
      simp only [step] at taken
      split at taken
      · next task queue idle drained next =>
          obtain ⟨effect, performs, rfl⟩ := call_performs _ w task [] read answer taken
          exact .functor read answer task queue effect idle drained next performs
      · cases taken
  | exec read answer =>
      simp only [step] at taken
      split at taken
      · next task rest next =>
          obtain ⟨effect, performs, rfl⟩ := call_performs v w task rest read answer taken
          exact .exec read answer task rest effect next performs
      · cases taken
  | mainFunctor =>
      simp only [step] at taken
      split at taken
      · next main next =>
          cases taken
          exact .mainFunctor main next
      · cases taken
  | userSend data =>
      simp only [step, Option.ite_none_right_eq_some, Option.some.injEq] at taken
      obtain ⟨published, rfl⟩ := taken
      by_cases connected : v.conn.tcp.state = .kConnected
      · rw [if_pos connected]
        exact .userSend data published connected
      · rw [if_neg connected]
        exact .ignored _ published connected
  | userShutdown =>
      simp only [step, Option.ite_none_right_eq_some, Option.some.injEq] at taken
      obtain ⟨published, rfl⟩ := taken
      by_cases connected : v.conn.tcp.state = .kConnected
      · rw [if_pos connected]
        exact .userShutdown published connected
      · rw [if_neg connected]
        exact .ignored _ published connected
  | send thread data =>
      simp only [step, Option.ite_none_right_eq_some, Option.some.injEq] at taken
      obtain ⟨⟨calling, published⟩, rfl⟩ := taken
      by_cases connected : v.conn.tcp.state = .kConnected
      · rw [if_pos connected]
        exact .send thread data calling published connected
      · rw [if_neg connected]
        exact .ignored _ published connected
  | queueSend thread =>
      simp only [step] at taken
      split at taken
      · next data calling =>
          cases taken
          exact .queueSend thread data calling
      · cases taken
  | shutdown thread =>
      simp only [step, Option.ite_none_right_eq_some, Option.some.injEq] at taken
      obtain ⟨⟨calling, published⟩, rfl⟩ := taken
      by_cases connected : v.conn.tcp.state = .kConnected
      · rw [if_pos connected]
        exact .shutdown thread calling published connected
      · rw [if_neg connected]
        exact .ignored _ published connected
  | storeDisconnecting thread =>
      simp only [step] at taken
      split at taken
      · next calling =>
          cases taken
          exact .storeDisconnecting thread calling
      · cases taken
  | queueShutdown thread =>
      simp only [step] at taken
      split at taken
      · next calling =>
          cases taken
          exact .queueShutdown thread calling
      · cases taken
  | destroy =>
      simp only [step, Option.ite_none_right_eq_some] at taken
      obtain ⟨mapped, taken⟩ := taken
      by_cases shared : v.shared = true
      · simp only [if_pos shared, Option.ite_none_right_eq_some] at taken
        obtain ⟨⟨idle, drained⟩, taken⟩ := taken
        obtain ⟨effect, performs, rfl⟩ := call_performs _ w _ _ _ _ taken
        exact .destroyHere effect mapped shared idle drained performs
      · simp only [if_neg shared, Option.some.injEq] at taken
        subst taken
        exact .destroyThere mapped (by simpa using shared)

end View

end Cmuduo.Net
