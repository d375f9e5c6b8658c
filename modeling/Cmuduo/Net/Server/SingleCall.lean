import Cmuduo.Net.Server.Callbacks
import Cmuduo.Net.Server.SingleThread

set_option autoImplicit false

namespace Cmuduo.Net

def Job.carries : Job → Bool
  | .task _ call => call.carries
  | .user => false

namespace System

-- Only the call that the user is making may still be under way.
def Single (s : System) : Prop := ∀ job ∈ (s.loops mainLoop).todo.tail, job.carries = false

theorem tasks_carry_nothing (id : ConnId) (jobs : List Job) (nothing : ∀ job ∈ jobs, job.carries = false) :
    (tasksOf id jobs).filter Task.carries = [] := by
  refine List.filter_eq_nil_iff.mpr fun task member => ?_
  have silent := nothing _ ((mem_tasks_of id task jobs).mp member)
  simpa [Job.carries] using silent

theorem jobs_carry_nothing (l : LoopId) (id : ConnId) (effect : Effect) (light : effect.front.filter Task.carries = []) :
    ∀ job ∈ jobs l id effect, job.carries = false := by
  intro job member
  simp only [jobs, List.mem_append] at member
  rcases member with (user | front) | removal
  · split at user
    · rw [List.mem_singleton.mp user]
      rfl
    · cases user
  · obtain ⟨task, inside, rfl⟩ := List.mem_map.mp front
    simpa [Job.carries] using List.filter_eq_nil_iff.mp light task inside
  · split at removal
    · rw [List.mem_singleton.mp removal]
      rfl
    · cases removal

theorem call_todo (s t : System) (l : LoopId) (id : ConnId) (task : Task) (rest : List Job) (answer : Answer)
    (taken : s.call l id task rest answer = some t) :
    ∃ effect, effect.front.filter Task.carries = [] ∧ (t.loops l).todo = jobs l id effect ++ rest ∧
      (task.callsBack = true → effect.userCode = true) := by
  obtain ⟨conn, effect, -, done, rfl⟩ := call_outcome s t l id task rest answer taken
  have performs := conn.perform_outcome _ _ _ _ done
  refine ⟨effect, (Connection.performs_carries performs).1, by rw [apply_loops, if_pos rfl], fun calls => ?_⟩
  cases performs with
  | connectionCallback => rfl
  | messageCallback => rfl
  | _ => cases calls

theorem step_single (s t : System) (label : Label) (single : Single s) (oneThread : label.OneThread)
    (uncalled : ∀ id, (∀ data, label ≠ .userSend mainLoop id data) ∧ label ≠ .userShutdown mainLoop id)
    (taken : s.step label = some t) :
    Single t ∧ (.user ∈ (s.loops mainLoop).todo → label ≠ .userReturns mainLoop → .user ∈ (t.loops mainLoop).todo) := by
  cases step_takes s t label taken with
  | poll l active phase todo alive distinct ready =>
      cases oneThread
      exact ⟨by simpa [Single] using single, by simp [todo]⟩
  | dispatch l id revents active todo reported =>
      cases oneThread
      refine ⟨fun job member => ?_, fun user => by simp [todo] at user⟩
      simp only [set_loop_loops, if_true] at member
      obtain ⟨task, inside, rfl⟩ := List.mem_map.mp (List.mem_of_mem_tail member)
      have among := (dispatch_order revents).subset inside
      simp only [List.mem_cons, List.not_mem_nil, or_false] at among
      rcases among with rfl | rfl | rfl | rfl <;> rfl
  | otherChannel l phase todo =>
      cases oneThread
      exact ⟨by simp [Single], by simp [todo]⟩
  | accept sockfd ioLoop writeComplete highWater mark phase todo room =>
      cases oneThread
      have after : ((s.newConnection mainLoop (.new sockfd writeComplete highWater mark)).loops mainLoop).todo =
          [.task s.nextConnId .connectEstablished] := by simp [newConnection]
      exact ⟨by simp [Single, after], by simp [todo]⟩
  | swap l phase todo active =>
      cases oneThread
      exact ⟨by simpa [Single] using single, by simp [todo]⟩
  | functor l answer id task rest t phase todo next called =>
      cases oneThread
      obtain ⟨effect, light, after, -⟩ := call_todo _ t mainLoop id task [] answer called
      refine ⟨fun job member => ?_, by simp [todo]⟩
      rw [after, List.append_nil] at member
      exact jobs_carry_nothing mainLoop id effect light job (List.mem_of_mem_tail member)
  | userFunctor l answer rest phase todo next =>
      cases oneThread
      exact ⟨by simp [Single], by simp [todo]⟩
  | exec l answer id task rest t todo called =>
      cases oneThread
      obtain ⟨effect, light, after, -⟩ := call_todo s t mainLoop id task rest answer called
      rw [Single, todo] at single
      refine ⟨fun job member => ?_, fun user _ => ?_⟩
      · rw [after] at member
        rcases List.mem_append.mp (List.mem_of_mem_tail member) with mine | later
        · exact jobs_carry_nothing mainLoop id effect light job mine
        · exact single job later
      · rw [after]
        rw [todo] at user
        simp only [List.mem_cons, reduceCtorEq, false_or] at user
        exact List.mem_append_right _ user
  | userReturns l rest todo =>
      cases oneThread
      rw [Single, todo] at single
      refine ⟨fun job member => ?_, fun _ other => absurd rfl other⟩
      simp only [set_todo_loops, if_true] at member
      exact single job (List.mem_of_mem_tail member)
  | iterate l phase todo served =>
      cases oneThread
      exact ⟨by simpa [Single] using single, by simp [todo]⟩
  | userSend l id data =>
      cases oneThread
      exact absurd rfl ((uncalled id).1 data)
  | userShutdown l id =>
      cases oneThread
      exact absurd rfl (uncalled id).2
  | queueUser l =>
      cases oneThread
      refine ⟨?_, fun user _ => ?_⟩
      · simpa [Single] using single
      · simpa using user
  | _ => exact oneThread.elim

-- A call is made from the callback under way, when nothing else is.
theorem user_call_single (s t : System) (id : ConnId) (task : Task) (store : Connection → Connection) (single : Single s)
    (taken : s.userCall mainLoop id task store = some t) :
    (∀ job ∈ (s.loops mainLoop).todo, job.carries = false) ∧ Single t ∧ .user ∈ (t.loops mainLoop).todo := by
  have silent : ∀ rest, (s.loops mainLoop).todo = .user :: rest → ∀ job ∈ (s.loops mainLoop).todo, job.carries = false := by
    intro rest todo job member
    rw [Single, todo] at single
    rw [todo] at member
    rcases List.mem_cons.mp member with rfl | later
    · rfl
    · exact single job later
  cases user_call_outcome s t mainLoop id task store taken with
  | passes rest conn todo found own published connected =>
      refine ⟨silent rest todo, ?_, ?_⟩
      · simpa [Single] using silent rest todo
      · simp [todo]
  | ignored rest conn todo found own published refused => exact ⟨silent rest todo, single, by simp [todo]⟩

end System

end Cmuduo.Net
