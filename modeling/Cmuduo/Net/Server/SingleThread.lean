import Cmuduo.Net.Server.Settled

set_option autoImplicit false

namespace Cmuduo.Net

open Machine

-- A step of a server whose pool has no threads: every connection lives in the
-- server's own loop, and the user's code runs there.
def Label.OneThread : Label → Prop
  | .poll l _ | .dispatch l | .otherChannel l | .swap l | .functor l _ | .exec l _ | .userReturns l | .iterate l
  | .userSend l _ _ | .userShutdown l _ | .queueUser l => l = mainLoop
  | .accept _ ioLoop _ _ _ => ioLoop = mainLoop
  | _ => False

instance : (label : Label) → Decidable label.OneThread
  | .poll l _ | .dispatch l | .otherChannel l | .swap l | .functor l _ | .exec l _ | .userReturns l | .iterate l
  | .userSend l _ _ | .userShutdown l _ | .queueUser l => inferInstanceAs (Decidable (l = mainLoop))
  | .accept _ ioLoop _ _ _ => inferInstanceAs (Decidable (ioLoop = mainLoop))
  | .send .. | .queueSend _ | .shutdown .. | .storeDisconnecting _ | .queueShutdown _ | .overwrite .. | .release ..
  | .destroy | .destroyConnection _ => .isFalse id

theorem one_thread_on_loop (label : Label) (oneThread : label.OneThread) : label.OnLoop := by
  cases label <;> trivial

-- The calls that end in removeConnectionInLoop, which alone queues
-- connectDestroyed.
def Task.tearsDown : Task → Bool
  | .handleClose | .handleRead | .closeCallback | .removeConnectionInLoop => true
  | _ => false

theorem performs_opens {read : Captured → Option CppString} {conn : Connection} {task : Task} {answer : Answer}
    {effect : Effect} (performs : Connection.Performs read conn task answer effect) (serves : task.tearsDown = false) :
    (∀ next ∈ effect.front, next.tearsDown = false) ∧ effect.remove = false ∧ .connectDestroyed ∉ effect.queue := by
  have removes : effect.remove = false := by
    by_contra removes
    rw [View.performs_remove performs (by simpa using removes)] at serves
    cases serves
  have queues : .connectDestroyed ∉ effect.queue := by
    intro member
    rcases View.performs_queue performs _ member with ⟨-, rfl⟩ | ⟨notice, same⟩
    · cases serves
    · cases same
  refine ⟨?_, removes, queues⟩
  cases performs with
  | handleClose => cases serves
  | handleRead => cases serves
  | connectEstablished => simp [Task.tearsDown]
  | connectDestroyed =>
      intro next member
      dsimp only [Connection.plain] at member
      split at member <;> simp only [List.mem_cons, List.not_mem_nil, or_false] at member
      · rcases member with rfl | rfl | rfl <;> rfl
      · rw [member]
        rfl
  | _ => exact fun next member => absurd member List.not_mem_nil

namespace System

-- The one loop between two steps. Only while it dispatches can a close be under
-- way, and only then is connectDestroyed queued.
structure Turns (s : System) : Prop where
  here : ∀ id conn, s.conns id = some conn → conn.loop = mainLoop
  queue : ∀ id task, .task id task ∈ (s.loops mainLoop).queue.contents →
    task = .connectDestroyed ∨ ∃ notice, task = .notice notice
  todo : (s.loops mainLoop).phase ≠ .dispatch → ∀ id task, .task id task ∈ (s.loops mainLoop).todo → task.tearsDown = false
  pending : (s.loops mainLoop).phase ≠ .dispatch → ∀ id, .task id .connectDestroyed ∉ (s.loops mainLoop).queue.pending
  idle : (s.loops mainLoop).phase = .poll → (s.loops mainLoop).todo = []

theorem new_turns (name : List Char) (listen : Base.InetAddress) : Turns (new name listen) :=
  { here := fun _ _ found => by cases found
    queue := fun _ _ member => absurd member List.not_mem_nil
    todo := fun _ _ _ member => absurd member List.not_mem_nil
    pending := fun _ _ => List.not_mem_nil
    idle := fun _ => rfl }

-- A call on the one loop, with the rest of todo behind it.
theorem turns_apply (s : System) (id : ConnId) (conn : Connection) (task : Task) (rest : List Job) (answer : Answer)
    (effect : Effect) (turns : Turns s) (found : s.conns id = some conn)
    (performs : Connection.Performs s.read conn task answer effect)
    (serves : (s.loops mainLoop).phase ≠ .dispatch → task.tearsDown = false)
    (behind : (s.loops mainLoop).phase ≠ .dispatch → ∀ other task, .task other task ∈ rest → task.tearsDown = false)
    (busy : (s.loops mainLoop).phase ≠ .poll) (same : effect.conn.loop = conn.loop) :
    Turns (s.apply mainLoop id rest effect) := by
  have own : effect.conn.loop = mainLoop := same.trans (turns.here id conn found)
  have loop : (s.apply mainLoop id rest effect).loops mainLoop =
      { s.loops mainLoop with
        todo := jobs mainLoop id effect ++ rest
        queue := (s.loops mainLoop).queue.append (effect.queue.map (.task id)) } := by
    rw [apply_loops]
    simp [own]
  have added : ∀ other task, .task other task ∈ effect.queue.map (Job.task id) → task ∈ effect.queue := by
    intro other task member
    obtain ⟨_, inside, same⟩ := List.mem_map.mp member
    cases same
    exact inside
  refine ⟨fun other next there => ?_, fun other queued member => ?_, fun phase other next member => ?_,
    fun phase other member => ?_, fun phase => ?_⟩
  · rw [apply_conns] at there
    by_cases mine : other = id
    · rw [mine, Function.update_self] at there
      cases there
      exact own
    · rw [Function.update_of_ne mine] at there
      exact turns.here other next there
  · rw [loop, BatchQueue.append_contents] at member
    rcases List.mem_append.mp member with old | new
    · exact turns.queue other queued old
    · exact (View.performs_queue performs queued (added other queued new)).imp And.left fun notice => notice
  · rw [loop] at phase member
    obtain ⟨front, stays, -⟩ := performs_opens performs (serves phase)
    rcases List.mem_append.mp member with mine | later
    · simp only [jobs, stays, Bool.false_and, Bool.false_eq_true, if_false, List.append_nil, List.mem_append] at mine
      rcases mine with user | mine
      · cases called : effect.userCode <;> simp [called] at user
      · obtain ⟨_, inside, same⟩ := List.mem_map.mp mine
        cases same
        exact front next inside
    · exact behind phase other next later
  · rw [loop] at phase member
    rcases List.mem_append.mp member with old | new
    · exact turns.pending phase other old
    · exact (performs_opens performs (serves phase)).2.2 (added other _ new)
  · rw [loop] at phase
    exact absurd phase busy

theorem turns_call (s t : System) (id : ConnId) (task : Task) (rest : List Job) (answer : Answer) (turns : Turns s)
    (serves : (s.loops mainLoop).phase ≠ .dispatch → task.tearsDown = false)
    (behind : (s.loops mainLoop).phase ≠ .dispatch → ∀ other task, .task other task ∈ rest → task.tearsDown = false)
    (busy : (s.loops mainLoop).phase ≠ .poll) (taken : s.call mainLoop id task rest answer = some t) : Turns t := by
  obtain ⟨conn, effect, found, done, rfl⟩ := call_outcome s t mainLoop id task rest answer taken
  exact turns_apply s id conn task rest answer effect turns found (conn.perform_outcome _ _ _ _ done) serves behind busy
    (conn.perform_keeps _ _ _ _ done).1

theorem turns_take (s : System) (job : Job) (rest : List Job) (turns : Turns s)
    (next : (s.loops mainLoop).queue.batch = job :: rest) : Turns (s.takeFunctor mainLoop) := by
  have loop : (s.takeFunctor mainLoop).loops mainLoop =
      { s.loops mainLoop with queue := (s.loops mainLoop).queue.pop } := by simp [takeFunctor]
  refine ⟨turns.here, fun id task member => turns.queue id task ?_, ?_, ?_, ?_⟩
  · rw [loop] at member
    rw [(s.loops mainLoop).queue.pop_contents _ _ next]
    exact List.mem_cons_of_mem _ member
  · rw [loop]
    exact turns.todo
  · rw [loop]
    exact turns.pending
  · rw [loop]
    exact turns.idle

-- A call of the user, which does not close anything.
theorem turns_user_call (s t : System) (id : ConnId) (task : Task) (store : Connection → Connection) (turns : Turns s)
    (stays : task.tearsDown = false) (kept : ∀ conn, (store conn).loop = conn.loop)
    (taken : s.userCall mainLoop id task store = some t) : Turns t := by
  cases user_call_outcome s t mainLoop id task store taken with
  | ignored => exact turns
  | passes rest conn todo found own published connected =>
      have loop : ((s.setConn id (store conn)).setTodo mainLoop (.task id task :: (s.loops mainLoop).todo)).loops mainLoop =
          { s.loops mainLoop with todo := .task id task :: (s.loops mainLoop).todo } := by simp
      refine ⟨fun other next there => ?_, ?_, fun phase other next member => ?_, ?_, fun phase => ?_⟩
      · by_cases mine : other = id
        · rw [mine] at there
          simp only [set_todo_conns, setConn, Function.update_self, Option.some.injEq] at there
          rw [← there, kept, own]
        · simp only [set_todo_conns, setConn, Function.update_of_ne mine] at there
          exact turns.here other next there
      · rw [loop]
        exact turns.queue
      · rw [loop] at phase member
        rcases List.mem_cons.mp member with same | old
        · cases same
          exact stays
        · exact turns.todo phase other next old
      · rw [loop]
        exact turns.pending
      · rw [loop] at phase
        rw [turns.idle phase] at todo
        cases todo

theorem turns_accept (s : System) (tcp : TcpConnection) (turns : Turns s)
    (phase : (s.loops mainLoop).phase = .dispatch) : Turns (s.newConnection mainLoop tcp) := by
  have loop : (s.newConnection mainLoop tcp).loops mainLoop =
      { s.loops mainLoop with todo := [.task s.nextConnId .connectEstablished] } := by
    simp [newConnection, setConn, setMap]
  refine ⟨fun id conn found => ?_, ?_, fun serving => ?_, fun serving => ?_, fun polling => ?_⟩
  · simp only [newConnection, if_true, set_todo_conns, set_map_conns, setConn] at found
    by_cases new : id = s.nextConnId
    · rw [new, Function.update_self] at found
      cases found
      rfl
    · rw [Function.update_of_ne new] at found
      exact turns.here id conn found
  · rw [loop]
    exact turns.queue
  · rw [loop] at serving
    exact absurd phase serving
  · rw [loop] at serving
    exact absurd phase serving
  · rw [loop] at polling
    cases phase.symm.trans polling

theorem step_turns (s t : System) (label : Label) (turns : Turns s) (home : Home s) (oneThread : label.OneThread)
    (taken : s.step label = some t) : Turns t := by
  have busy : ∀ job rest, (s.loops mainLoop).todo = job :: rest → (s.loops mainLoop).phase ≠ .poll := by
    intro job rest todo polling
    cases todo.symm.trans (turns.idle polling)
  cases step_takes s t label taken with
  | poll l active phase todo alive distinct ready =>
      cases oneThread
      exact ⟨turns.here, by simpa using turns.queue, by simp, by simp, by simp⟩
  | dispatch l id revents active todo reported =>
      cases oneThread
      have phase : (s.loops mainLoop).phase = .dispatch := by
        by_contra outside
        cases reported.symm.trans ((home.loops mainLoop).idle outside)
      exact ⟨turns.here, by simpa using turns.queue, by simp [phase], by simp [phase], by simp [phase]⟩
  | otherChannel l phase todo =>
      cases oneThread
      exact ⟨turns.here, by simpa using turns.queue, by simp [phase], by simp [phase], by simp [phase]⟩
  | accept sockfd ioLoop writeComplete highWater mark phase todo room =>
      cases oneThread
      exact turns_accept s _ turns phase
  | swap l phase todo active =>
      cases oneThread
      have served : (s.loops mainLoop).queue.batch = [] := (home.loops mainLoop).served (by simp [phase])
      refine ⟨turns.here, ?_, by simp [todo], by simp [BatchQueue.swap], by simp⟩
      simpa only [set_loop_loops, if_true, BatchQueue.swap_contents _ served] using turns.queue
  | functor l answer id task rest t phase todo next called =>
      cases oneThread
      have serving := turns.queue id task (by simp [BatchQueue.contents, next])
      refine turns_call (s.takeFunctor mainLoop) t id task [] answer (turns_take s _ rest turns next) (fun _ => ?_)
        (fun _ _ _ member => absurd member List.not_mem_nil) (by simp [takeFunctor, phase]) called
      rcases serving with rfl | ⟨notice, rfl⟩ <;> rfl
  | userFunctor l answer rest phase todo next =>
      cases oneThread
      have popped := turns_take s _ rest turns next
      refine ⟨popped.here, by simpa using popped.queue, by simp, by simpa using popped.pending, fun polling => ?_⟩
      simp [takeFunctor, phase] at polling
  | exec l answer id task rest t todo called =>
      cases oneThread
      exact turns_call s t id task rest answer turns
        (fun outside => turns.todo outside id task (by simp [todo]))
        (fun outside other next member => turns.todo outside other next (by rw [todo]; exact List.mem_cons_of_mem _ member))
        (busy _ rest todo) called
  | userReturns l rest todo =>
      cases oneThread
      refine ⟨turns.here, by simpa using turns.queue, fun outside id task member => ?_, by simpa using turns.pending,
        fun polling => ?_⟩
      · simp only [set_todo_loops, if_true] at outside member
        exact turns.todo outside id task (by rw [todo]; exact List.mem_cons_of_mem _ member)
      · simp only [set_todo_loops] at polling
        exact absurd polling (busy _ rest todo)
  | iterate l phase todo served =>
      cases oneThread
      have serving : (s.loops mainLoop).phase ≠ .dispatch := by simp [phase]
      exact ⟨turns.here, by simpa using turns.queue, by simp [todo], by simpa using turns.pending serving, by simp [todo]⟩
  | userSend l id data t called =>
      cases oneThread
      exact turns_user_call s t id _ _ turns rfl (fun _ => rfl) called
  | userShutdown l id t called =>
      cases oneThread
      exact turns_user_call s t id _ (setState · .kDisconnecting) turns rfl (fun _ => rfl) called
  | queueUser l =>
      cases oneThread
      refine ⟨turns.here, fun id task member => turns.queue id task ?_, by simpa using turns.todo,
        fun outside id member => turns.pending (by simpa using outside) id ?_, by simpa using turns.idle⟩
      · simpa using member
      · simpa [BatchQueue.append] using member
  | _ => exact oneThread.elim

theorem run_turns (name : List Char) (listen : Base.InetAddress) (labels : List Label) (s : System)
    (oneThread : ∀ label ∈ labels, label.OneThread) (ran : run step (.new name listen) labels = some s) :
    Home s ∧ Turns s :=
  guarded_invariant step (fun _ => Label.OneThread) (fun s => Home s ∧ Turns s)
    (fun s l t both one taken => ⟨step_home s t l both.1 taken, step_turns s t l both.2 both.1 one taken⟩) _ s labels
    ⟨new_home name listen, new_turns name listen⟩ (guarded_labels step _ Label.OneThread (fun _ _ one => one) _ labels oneThread)
    ran

-- Every functor queued in an iteration for a close has been run in it.
theorem polling_at_rest (s : System) (home : Home s) (turns : Turns s) (polling : (s.loops mainLoop).phase = .poll)
    (id : ConnId) (conn : Connection) (found : s.conns id = some conn) : s.AtRest id := by
  refine s.everywhere_at_rest id conn home found fun task member => ?_
  have own := turns.here id conn found
  simp only [View.everywhere, see, own, if_true, turns.idle polling, List.mem_append, mem_tasks_of, List.not_mem_nil,
    false_or, or_false] at member
  rcases turns.queue id task member with rfl | notice
  · rw [BatchQueue.contents, (home.loops mainLoop).served (by simp [polling]), List.nil_append] at member
    exact absurd member (turns.pending (by simp [polling]) id)
  · exact notice

end System

-- Whenever the loop is about to poll, the map, the poller and the kernel hold the
-- connections that are up, and no others.
theorem settled_between_iterations (name : List Char) (listen : Base.InetAddress) (labels : List Label) (s : System)
    (oneThread : ∀ label ∈ labels, label.OneThread) (ran : run System.step (.new name listen) labels = some s)
    (polling : (s.loops mainLoop).phase = .poll) :
    ∀ id conn, s.conns id = some conn →
      s.connectionMap conn.name = some id ∧ conn.Serving ∨ s.connectionMap conn.name ≠ some id ∧ conn.Gone := by
  intro id conn found
  obtain ⟨home, turns⟩ := System.run_turns name listen labels s oneThread ran
  have rest := s.polling_at_rest home turns polling id conn found
  rcases settled_at_rest name listen labels s id conn (fun label member => one_thread_on_loop label (oneThread label member))
    ran found rest with serving | ⟨unmapped, gone, -⟩
  · exact .inl serving
  · exact .inr ⟨unmapped, gone⟩

-- Urgent data reported with a hang-up closes connection 1 twice, and the second
-- disableAll puts it back into the interest set for the rest of the iteration.
def closesTwiceHere : List Label :=
  comesUpHere ++ [.poll 0 [(1, EPOLLHUP ||| EPOLLPRI)], .dispatch 0, .exec 0 .none, .exec 0 .none, .userReturns 0,
    .exec 0 .none, .exec 0 .none, .exec 0 (.read (.arrived [])), .exec 0 .none, .exec 0 .none, .userReturns 0,
    .exec 0 .none, .exec 0 .none]

def endsIteration : List Label := [.swap 0, .functor 0 .none, .exec 0 .none, .functor 0 .none, .exec 0 .none, .iterate 0]

example : outcome closesTwiceHere (fun _ conn => conn.tcp.slot) = some ⟨some (), some (KNoneEvent, ())⟩ := by
  decide +kernel

theorem settled_between_iterations_closed :
    ∃ s conn, run System.step listening (closesTwiceHere ++ endsIteration) = some s ∧ s.conns 1 = some conn ∧ conn.Gone := by
  obtain ⟨s, conn, ran, found, facts⟩ := outcome_found (closesTwiceHere ++ endsIteration)
    (fun s conn => ((s.loops mainLoop).phase, s.connectionMap conn.name)) (.poll, none) (by decide +kernel)
  obtain ⟨polling, erased⟩ := Prod.mk.inj facts
  rcases settled_between_iterations _ _ (closesTwiceHere ++ endsIteration) s (by decide) ran polling 1 conn found with
    ⟨mapped, -⟩ | ⟨-, gone⟩
  · cases erased.symm.trans mapped
  · exact ⟨s, conn, ran, found, gone⟩

end Cmuduo.Net
