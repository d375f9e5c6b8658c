import Cmuduo.Net.Server.ConnectionStreams

set_option autoImplicit false

namespace Cmuduo.Net

open Machine

namespace View

-- The connection once its messageCallback_ has read from the input buffer.
def withInput (v : View) (buffer : Buffer) : View := { v with conn := v.conn.withTcp (v.conn.tcp.withInput buffer) }

theorem settling_with_input (v : View) (buffer : Buffer) (settling : Settling v) : Settling (v.withInput buffer) :=
  { calls := settling.calls
    mirrors := settling.mirrors
    queue := settling.queue
    todo := settling.todo
    mapped := settling.mapped
    leaving := settling.leaving
    removing := settling.removing
    owned := settling.owned
    begun := settling.begun
    isOpen := fun up => (settling.isOpen up).with_input buffer
    listed := settling.listed
    masked := settling.masked
    pushed := settling.pushed
    closing := settling.closing
    cleared := settling.cleared }

-- Only a connection that is up, or has been, does anything but connectEstablished.
theorem settles_settling (v : View) (task : Task) (rest : List Task) (settles : Settles v) (next : v.todo = task :: rest)
    (notUp : task ≠ .connectEstablished) : Settling v := by
  rcases settles with ⟨accepted, -⟩ | settling
  · rcases accepted.waits with ⟨-, waiting, -⟩ | ⟨-, idle, -⟩
    · exact absurd (List.cons.inj (next.symm.trans waiting)).1 notUp
    · cases idle.symm.trans next
  · exact settling

theorem accepted_unsettled (v : View) (accepted : Accepted v) : ¬Settling v := fun settling => by
  obtain ⟨_, _, _, _, new⟩ := accepted.tcp
  exact settling.begun (congrArg TcpConnection.state new)

-- What the user calls stands before what the server does.
theorem behind_silent (v : View) (task : Task) (rest : List Task) (settling : Settling v) (next : v.todo = task :: rest)
    (apart : task.carries = false) :
    ∀ other ∈ rest, other.carries = false := by
  obtain ⟨ahead, base, split, front, back⟩ := settling.pushed
  rw [next] at split
  cases ahead with
  | nil =>
      rw [List.nil_append] at split
      exact fun other member => back other (split ▸ List.mem_cons_of_mem task member)
  | cons first ahead =>
      obtain ⟨rfl, -⟩ := List.cons.inj split
      cases apart.symm.trans (front task List.mem_cons_self)

end View

namespace System

-- A task at the front of a loop is at the front for its connection too.
theorem front_view (s : System) (l : LoopId) (id : ConnId) (task : Task) (rest : List Job) (v : View) (home : Home s)
    (todo : (s.loops l).todo = .task id task :: rest) (seen : s.view id = some v) : v.todo = task :: tasksOf id rest := by
  have found := view_conn s id v seen
  have placed := (home.loops l).todo id task (by simp [todo])
  rw [loop_of_found s id v.conn found, Option.some.injEq] at placed
  rw [← Option.some.inj ((view_found s id v.conn found).symm.trans seen)]
  simp [see, placed, todo]

theorem exec_target (s : System) (l : LoopId) (id : ConnId) (task : Task) (rest : List Job) (answer : Answer)
    (todo : (s.loops l).todo = .task id task :: rest) : s.target (.exec l answer) = some (id, .exec s.read answer) := by
  simp [target, todo]

theorem target_exec (s : System) (label : Label) (id : ConnId) (read : Captured → Option CppString) (answer : Answer)
    (about : s.target label = some (id, .exec read answer)) :
    ∃ l task rest, label = .exec l answer ∧ (s.loops l).todo = .task id task :: rest := by
  cases label with
  | exec l other =>
      simp only [target] at about
      split at about
      · next id task rest todo =>
          cases about
          exact ⟨l, task, rest, rfl, todo⟩
      · cases about
  | send thread other cell =>
      obtain ⟨text, -, same⟩ := Option.map_eq_some_iff.mp about
      cases same
  | functor l other =>
      simp only [target] at about
      split at about
      · simp only [Option.some.injEq, Prod.mk.injEq] at about
        split at about <;> cases about.2
      · cases about
  | _ => grind [target]

theorem step_of_target (s t : System) (label : Label) (id : ConnId) (v : View) (life : LifeLabel) (home : Home s)
    (onLoop : label.OnLoop) (taken : s.step label = some t) (seen : s.view id = some v)
    (about : s.target label = some (id, life)) : ∃ w, v.step life = some w ∧ t.view id = some w := by
  have known := target_life s label id life about
  rcases step_of_view s t label id v home onLoop taken seen with ⟨quiet, -⟩ | ⟨_, w, same, -, moved, after⟩
  · cases quiet.symm.trans known
  · obtain rfl := Option.some.inj (known.symm.trans same)
    exact ⟨w, moved, after⟩

-- The server once messageCallback_ has left buffer in the connection.
def retrieved (s : System) (id : ConnId) (conn : Connection) (buffer : Buffer) : System :=
  s.setConn id (conn.withTcp (conn.tcp.withInput buffer))

section
variable (s : System) (id : ConnId) (conn : Connection) (buffer : Buffer)

theorem retrieved_own : (s.retrieved id conn buffer).view id = some ((s.see id conn).withInput buffer) := by
  rw [view_found _ id (conn.withTcp (conn.tcp.withInput buffer)) (by simp [retrieved, setConn])]
  rfl

theorem retrieved_other (other : ConnId) (different : other ≠ id) :
    (s.retrieved id conn buffer).view other = s.view other := by
  rw [view, view, show (s.retrieved id conn buffer).conns other = s.conns other from Function.update_of_ne different _ _]
  rfl

theorem retrieved_settles (settles : EveryView (fun _ => View.Settles) s) (found : s.conns id = some conn)
    (settling : View.Settling (s.see id conn)) : EveryView (fun _ => View.Settles) (s.retrieved id conn buffer) := by
  refine ⟨home_set_conn s id conn _ settles.1 found ⟨rfl, rfl⟩, fun other v seen => ?_⟩
  by_cases here : other = id
  · subst here
    rw [retrieved_own, Option.some.injEq] at seen
    exact seen ▸ .inr (View.settling_with_input _ buffer settling)
  · exact settles.2 other v ((s.retrieved_other id conn buffer other here).symm.trans seen)

end

end System

end Cmuduo.Net
