import Cmuduo.Net.Server.View

set_option autoImplicit false

namespace Cmuduo.Net

open Base Machine

section
variable (id other : ConnId) (task : Task) (jobs more : List Job)

@[simp] theorem tasks_of_nil : tasksOf id [] = [] := rfl

@[simp] theorem tasks_of_same : tasksOf id (.task id task :: jobs) = task :: tasksOf id jobs := by
  simp [tasksOf]

theorem tasks_of_other (different : other ≠ id) : tasksOf id (.task other task :: jobs) = tasksOf id jobs := by
  simp [tasksOf, different]

@[simp] theorem tasks_of_user : tasksOf id (.user :: jobs) = tasksOf id jobs := by
  simp [tasksOf]

@[simp] theorem tasks_of_append : tasksOf id (jobs ++ more) = tasksOf id jobs ++ tasksOf id more := by
  simp [tasksOf]

@[simp] theorem tasks_of_map (tasks : List Task) : tasksOf id (tasks.map (.task id)) = tasks := by
  induction tasks with
  | nil => rfl
  | cons task tasks ih => rw [List.map_cons, tasks_of_same, ih]

theorem tasks_of_map_other (different : other ≠ id) (tasks : List Task) : tasksOf id (tasks.map (.task other)) = [] := by
  induction tasks with
  | nil => rfl
  | cons task tasks ih => rw [List.map_cons, tasks_of_other id other task _ different, ih]

theorem mem_tasks_of : task ∈ tasksOf id jobs ↔ .task id task ∈ jobs := by
  constructor
  · intro member
    obtain ⟨job, inside, found⟩ := List.mem_filterMap.mp member
    cases job with
    | user => cases found
    | task other seen =>
        by_cases same : other = id
        · simp only [if_pos same, Option.some.injEq] at found
          exact found ▸ same ▸ inside
        · simp only [if_neg same] at found
          cases found
  · intro member
    exact List.mem_filterMap.mpr ⟨_, member, by simp⟩

theorem mem_masks_of (revents : EventMask) (active : List (ConnId × EventMask)) :
    revents ∈ masksOf id active ↔ (id, revents) ∈ active := by
  constructor
  · intro member
    obtain ⟨⟨other, seen⟩, inside, found⟩ := List.mem_filterMap.mp member
    by_cases same : other = id
    · simp only [if_pos same, Option.some.injEq] at found
      exact found ▸ same ▸ inside
    · simp only [if_neg same] at found
      cases found
  · intro member
    exact List.mem_filterMap.mpr ⟨_, member, by simp⟩

end

namespace System

section
variable (s : System) (l place : LoopId) (id : ConnId)

@[simp] theorem set_loop_loops (loop : Loop) :
    (s.setLoop l loop).loops place = if place = l then loop else s.loops place := by
  simp [setLoop, Function.update_apply]

@[simp] theorem set_todo_loops (todo : List Job) :
    (s.setTodo l todo).loops place =
      { s.loops place with todo := if place = l then todo else (s.loops place).todo } := by
  by_cases here : place = l <;> simp [setTodo, here]

@[simp] theorem post_loops (jobs : List Job) :
    (s.post l jobs).loops place =
      { s.loops place with queue := (s.loops place).queue.append (if place = l then jobs else []) } := by
  by_cases here : place = l <;> simp [post, here]

@[simp] theorem set_loop_conns (loop : Loop) : (s.setLoop l loop).conns = s.conns := rfl
@[simp] theorem set_loop_map (loop : Loop) : (s.setLoop l loop).connectionMap = s.connectionMap := rfl
@[simp] theorem set_loop_threads (loop : Loop) : (s.setLoop l loop).threads = s.threads := rfl
@[simp] theorem set_todo_conns (todo : List Job) : (s.setTodo l todo).conns = s.conns := rfl
@[simp] theorem set_todo_map (todo : List Job) : (s.setTodo l todo).connectionMap = s.connectionMap := rfl
@[simp] theorem set_todo_threads (todo : List Job) : (s.setTodo l todo).threads = s.threads := rfl
@[simp] theorem post_conns (jobs : List Job) : (s.post l jobs).conns = s.conns := rfl
@[simp] theorem post_map (jobs : List Job) : (s.post l jobs).connectionMap = s.connectionMap := rfl
@[simp] theorem post_threads (jobs : List Job) : (s.post l jobs).threads = s.threads := rfl
@[simp] theorem set_conn_loops (conn : Connection) : (s.setConn id conn).loops = s.loops := rfl
@[simp] theorem set_conn_map (conn : Connection) : (s.setConn id conn).connectionMap = s.connectionMap := rfl
@[simp] theorem set_conn_threads (conn : Connection) : (s.setConn id conn).threads = s.threads := rfl
@[simp] theorem set_map_loops (name : List Char) (entry : Option ConnId) : (s.setMap name entry).loops = s.loops := rfl
@[simp] theorem set_map_conns (name : List Char) (entry : Option ConnId) : (s.setMap name entry).conns = s.conns := rfl
@[simp] theorem set_map_threads (name : List Char) (entry : Option ConnId) :
    (s.setMap name entry).threads = s.threads := rfl
@[simp] theorem set_thread_loops (thread : ThreadId) (pc : ThreadPc) : (s.setThread thread pc).loops = s.loops := rfl
@[simp] theorem set_thread_conns (thread : ThreadId) (pc : ThreadPc) : (s.setThread thread pc).conns = s.conns := rfl
@[simp] theorem set_thread_map (thread : ThreadId) (pc : ThreadPc) :
    (s.setThread thread pc).connectionMap = s.connectionMap := rfl

def jobs (effect : Effect) : List Job :=
  (if effect.userCode then [.user] else []) ++ effect.front.map (.task id) ++
    if effect.remove && l == mainLoop then [.task id .removeConnectionInLoop] else []

theorem apply_loops (rest : List Job) (effect : Effect) :
    (s.apply l id rest effect).loops place =
      { s.loops place with
        todo := if place = l then jobs l id effect ++ rest else (s.loops place).todo
        queue := ((s.loops place).queue.append (if place = effect.conn.loop then effect.queue.map (.task id) else [])).append
          (if place = mainLoop ∧ effect.remove = true ∧ l ≠ mainLoop then [.task id .removeConnectionInLoop] else []) } := by
  cases remove : effect.remove <;> cases erase : effect.erase <;> by_cases main : l = mainLoop <;>
    simp [apply, remove, erase, main, jobs, setConn, setMap]

end

-- Everything about a connection is on its own loop, except that its removal is
-- queued on the server's.
structure Placed (home : ConnId → Option LoopId) (l : LoopId) (loop : Loop) : Prop where
  active : ∀ id revents, (id, revents) ∈ loop.active → home id = some l
  distinct : (loop.active.map Prod.fst).Nodup
  todo : ∀ id task, .task id task ∈ loop.todo → home id = some l
  queue : ∀ id task, .task id task ∈ loop.queue.contents →
    home id = some l ∨ l = mainLoop ∧ task = .removeConnectionInLoop ∧ (home id).isSome = true
  idle : loop.phase ≠ .dispatch → loop.active = []
  served : loop.phase ≠ .functors → loop.queue.batch = []

structure Home (s : System) : Prop where
  loops : ∀ l, Placed s.loopOf l (s.loops l)
  named : ∀ id conn, s.conns id = some conn → id < s.nextConnId ∧ conn.name = connName s.name s.listen id
  bound : s.nextConnId < 2 ^ 31
  threads : ∀ thread id, (s.threads thread).on id ≠ .none → (s.loopOf id).isSome = true
  destroying : s.destroying = true → (s.loops mainLoop).phase = .poll

theorem new_home (name : List Char) (listen : InetAddress) : Home (new name listen) :=
  { loops := fun _ => ⟨fun _ _ member => absurd member List.not_mem_nil, List.nodup_nil,
      fun _ _ member => absurd member List.not_mem_nil, fun _ _ member => absurd member List.not_mem_nil,
      fun _ => rfl, fun _ => rfl⟩
    named := fun _ _ found => by cases found
    bound := by simp [new]
    threads := fun _ _ some => absurd rfl some
    destroying := fun destroying => by cases destroying }

theorem loop_of_found (s : System) (id : ConnId) (conn : Connection) (found : s.conns id = some conn) :
    s.loopOf id = some conn.loop := by
  rw [loopOf, found, Option.map_some]

theorem set_conn_loop_of (s : System) (id : ConnId) (conn next : Connection) (found : s.conns id = some conn)
    (kept : next.loop = conn.loop) : (s.setConn id next).loopOf = s.loopOf := by
  funext other
  by_cases same : other = id
  · simp [loopOf, setConn, same, found, kept]
  · simp [loopOf, setConn, same]

theorem home_set_loop (s : System) (l : LoopId) (loop : Loop) (home : Home s) (placed : Placed s.loopOf l loop)
    (phase : l = mainLoop → s.destroying = true → loop.phase = .poll) : Home (s.setLoop l loop) := by
  refine { home with loops := fun place => ?_, destroying := fun destroying => ?_ }
  · rw [set_loop_loops]
    by_cases here : place = l
    · rw [if_pos here, here]
      exact placed
    · rw [if_neg here]
      exact home.loops place
  · rw [set_loop_loops]
    by_cases here : mainLoop = l
    · rw [if_pos here]
      exact phase here.symm destroying
    · rw [if_neg here]
      exact home.destroying destroying

theorem home_set_conn (s : System) (id : ConnId) (conn next : Connection) (home : Home s)
    (found : s.conns id = some conn) (kept : next.loop = conn.loop ∧ next.name = conn.name) :
    Home (s.setConn id next) := by
  have same := set_conn_loop_of s id conn next found kept.1
  refine { home with loops := fun l => ?_, named := fun other seen there => ?_, threads := fun thread other some => ?_ }
  · rw [same]
    exact home.loops l
  · by_cases here : other = id
    · subst here
      obtain ⟨below, name⟩ := home.named other conn found
      simp only [setConn, Function.update_self, Option.some.injEq] at there
      exact there ▸ ⟨below, kept.2.trans name⟩
    · simp only [setConn, Function.update_of_ne here] at there
      exact home.named other seen there
  · rw [same]
    exact home.threads thread other some

theorem home_set_map (s : System) (name : List Char) (entry : Option ConnId) (home : Home s) :
    Home (s.setMap name entry) :=
  ⟨home.loops, home.named, home.bound, home.threads, home.destroying⟩

theorem home_set_thread (s : System) (thread : ThreadId) (pc : ThreadPc) (home : Home s)
    (known : ∀ id, pc.on id ≠ .none → (s.loopOf id).isSome = true) : Home (s.setThread thread pc) := by
  refine { home with threads := fun other id some => ?_ }
  by_cases here : other = thread
  · simp only [setThread, here, Function.update_self] at some
    exact known id some
  · simp only [setThread, Function.update_of_ne here] at some
    exact home.threads other id some

theorem home_set_todo (s : System) (l : LoopId) (todo : List Job) (home : Home s)
    (placed : ∀ id task, .task id task ∈ todo → s.loopOf id = some l) : Home (s.setTodo l todo) :=
  home_set_loop s l _ home { home.loops l with todo := placed } fun main destroying => by
    rw [main]
    exact home.destroying destroying

theorem home_post (s : System) (l : LoopId) (jobs : List Job) (home : Home s)
    (placed : ∀ id task, .task id task ∈ jobs →
      s.loopOf id = some l ∨ l = mainLoop ∧ task = .removeConnectionInLoop ∧ (s.loopOf id).isSome = true) :
    Home (s.post l jobs) := by
  refine home_set_loop s l _ home { home.loops l with queue := fun id task member => ?_ } fun main destroying => by
    rw [main]
    exact home.destroying destroying
  rw [BatchQueue.append_contents, List.mem_append] at member
  rcases member with old | added
  · exact (home.loops l).queue id task old
  · exact placed id task added

theorem mem_jobs (l : LoopId) (id other : ConnId) (task : Task) (effect : Effect)
    (member : .task other task ∈ jobs l id effect) : other = id ∧ (effect.front ≠ [] ∨ effect.remove = true) := by
  simp only [jobs, List.mem_append] at member
  rcases member with (user | front) | inline
  · cases called : effect.userCode <;> simp [called] at user
  · obtain ⟨_, inside, same⟩ := List.mem_map.mp front
    cases same
    exact ⟨rfl, .inl (List.ne_nil_of_mem inside)⟩
  · cases remove : effect.remove with
    | false => simp [remove] at inline
    | true =>
        by_cases main : l = mainLoop
        · simp only [remove, main, beq_self_eq_true, Bool.and_self, if_true, List.mem_singleton] at inline
          cases inline
          exact ⟨rfl, .inr rfl⟩
        · simp [remove, main] at inline

theorem home_apply (s : System) (l : LoopId) (id : ConnId) (conn : Connection) (rest : List Job) (effect : Effect)
    (home : Home s) (found : s.conns id = some conn)
    (kept : effect.conn.loop = conn.loop ∧ effect.conn.name = conn.name)
    (own : conn.loop = l ∨ effect.front = [] ∧ effect.remove = false)
    (placed : ∀ other task, .task other task ∈ rest → s.loopOf other = some l) :
    Home (s.apply l id rest effect) := by
  have here := loop_of_found s id conn found
  have first := home_set_conn s id conn effect.conn home found kept
  have same := set_conn_loop_of s id conn effect.conn found kept.1
  have mapped : Home (if effect.erase then (s.setConn id effect.conn).setMap effect.conn.name none
      else s.setConn id effect.conn) := by
    cases effect.erase with
    | true => exact home_set_map _ _ _ first
    | false => exact first
  have loopOf : (if effect.erase then (s.setConn id effect.conn).setMap effect.conn.name none
      else s.setConn id effect.conn).loopOf = s.loopOf := by
    cases effect.erase <;> exact same
  have second := home_set_todo _ l (jobs l id effect ++ rest) mapped fun other task member => by
    rw [loopOf]
    rcases List.mem_append.mp member with added | old
    · obtain ⟨rfl, some⟩ := mem_jobs l id other task effect added
      rcases own with own | ⟨front, remove⟩
      · rw [here, own]
      · rcases some with some | some
        · exact absurd front some
        · rw [remove] at some
          cases some
    · exact placed other task old
  have third := home_post _ effect.conn.loop (effect.queue.map (.task id)) second fun other task member => by
    obtain ⟨_, -, same⟩ := List.mem_map.mp member
    cases same
    refine .inl ((congrFun loopOf id).trans ?_)
    rw [here, kept.1]
  rw [apply]
  split
  · refine home_post _ mainLoop _ third fun other task member => .inr ?_
    obtain ⟨rfl, rfl⟩ : other = id ∧ task = .removeConnectionInLoop := by simpa using member
    exact ⟨rfl, rfl, congrArg Option.isSome ((congrFun loopOf other).trans here)⟩
  · exact third

theorem home_call (s t : System) (l : LoopId) (id : ConnId) (task : Task) (rest : List Job) (answer : Answer)
    (home : Home s) (own : s.loopOf id = some l ∨ task = .removeConnectionInLoop)
    (placed : ∀ other task, .task other task ∈ rest → s.loopOf other = some l)
    (taken : s.call l id task rest answer = some t) : Home t := by
  obtain ⟨conn, effect, found, done, rfl⟩ := call_outcome s t l id task rest answer taken
  refine home_apply s l id conn rest effect home found (conn.perform_keeps _ _ _ _ done) ?_ placed
  rcases own with own | rfl
  · rw [loop_of_found s id conn found] at own
    exact .inl (Option.some.inj own)
  · cases conn.perform_outcome _ _ _ _ done
    exact .inr ⟨rfl, rfl⟩

theorem take_functor_home (s : System) (l : LoopId) (job : Job) (rest : List Job) (home : Home s)
    (phase : (s.loops l).phase = .functors) (next : (s.loops l).queue.batch = job :: rest) : Home (s.takeFunctor l) := by
  have placed := home.loops l
  refine home_set_loop s l _ home { placed with
    queue := fun id task member => placed.queue id task ?_
    served := fun outside => absurd phase outside } fun main destroying => ?_
  · rw [(s.loops l).queue.pop_contents _ _ next]
    exact List.mem_cons_of_mem _ member
  · rw [main]
    exact home.destroying destroying

theorem home_user_call (s t : System) (l : LoopId) (id : ConnId) (task : Task) (store : Connection → Connection)
    (home : Home s) (kept : ∀ conn, (store conn).loop = conn.loop ∧ (store conn).name = conn.name)
    (taken : s.userCall l id task store = some t) : Home t := by
  cases user_call_outcome s t l id task store taken with
  | passes rest conn todo found own =>
      refine home_set_todo _ l _ (home_set_conn s id conn (store conn) home found (kept conn)) ?_
      rw [set_conn_loop_of s id conn _ found (kept conn).1]
      intro other task member
      rcases List.mem_cons.mp member with same | old
      · cases same
        rw [loop_of_found s id conn found, own]
      · exact (home.loops l).todo other task old
  | ignored => exact home

theorem home_thread_call (s t : System) (thread : ThreadId) (id : ConnId) (pc : ThreadPc)
    (store : Connection → Connection) (home : Home s)
    (kept : ∀ conn, (store conn).loop = conn.loop ∧ (store conn).name = conn.name)
    (about : ∀ other, pc.on other ≠ .none → other = id) (taken : s.threadCall thread id pc store = some t) : Home t := by
  cases thread_call_outcome s t thread id pc store taken with
  | passes conn idle found =>
      refine home_set_thread _ thread pc (home_set_conn s id conn (store conn) home found (kept conn)) ?_
      intro other some
      rw [set_conn_loop_of s id conn _ found (kept conn).1, about other some, loop_of_found s id conn found]
      rfl
  | ignored => exact home

theorem on_conn (pc : ThreadPc) (id other : ConnId)
    (shape : (∃ data, pc = .sending id data) ∨ pc = .shuttingDown id ∨ pc = .stored id) (some : pc.on other ≠ .none) :
    other = id := by
  rcases shape with ⟨data, rfl⟩ | rfl | rfl <;>
  · by_contra different
    exact some (by simp [ThreadPc.on, Ne.symm different])

theorem fresh_conn (s : System) (home : Home s) : s.conns s.nextConnId = none := by
  cases found : s.conns s.nextConnId with
  | none => rfl
  | some conn => exact absurd (home.named _ conn found).1 (Nat.lt_irrefl _)

theorem placed_mono (home more : ConnId → Option LoopId) (l : LoopId) (loop : Loop) (placed : Placed home l loop)
    (extends_ : ∀ id place, home id = some place → more id = some place) : Placed more l loop :=
  { placed with
    active := fun id revents member => extends_ id l (placed.active id revents member)
    todo := fun id task member => extends_ id l (placed.todo id task member)
    queue := fun id task member => by
      rcases placed.queue id task member with own | ⟨main, removal, known⟩
      · exact .inl (extends_ id l own)
      · obtain ⟨place, there⟩ := Option.isSome_iff_exists.mp known
        exact .inr ⟨main, removal, by rw [extends_ id place there]; rfl⟩ }

-- The connection is there and in the map, but not yet on its loop.
def registered (s : System) (ioLoop : LoopId) (tcp : TcpConnection) : System :=
  { s with nextConnId := s.nextConnId + 1 }.setConn s.nextConnId
    (.new (connName s.name s.listen s.nextConnId) ioLoop tcp) |>.setMap (connName s.name s.listen s.nextConnId)
    (some s.nextConnId)

theorem registered_home (s : System) (ioLoop : LoopId) (tcp : TcpConnection) (home : Home s)
    (room : s.nextConnId + 1 < 2 ^ 31) :
    Home (s.registered ioLoop tcp) ∧ (s.registered ioLoop tcp).loopOf s.nextConnId = some ioLoop := by
  have more : ∀ id place, s.loopOf id = some place → (s.registered ioLoop tcp).loopOf id = some place := by
    intro id place known
    have old : id ≠ s.nextConnId := by
      rintro rfl
      rw [loopOf, fresh_conn s home] at known
      cases known
    simpa [registered, loopOf, setConn, setMap, old] using known
  refine ⟨⟨fun l => placed_mono _ _ l _ (home.loops l) more, ?_, room, fun thread id some => ?_, home.destroying⟩, ?_⟩
  · intro id conn found
    by_cases new : id = s.nextConnId
    · subst new
      simp only [registered, setMap, setConn, Function.update_self, Option.some.injEq] at found
      exact found ▸ ⟨Nat.lt_succ_self _, rfl⟩
    · simp only [registered, setMap, setConn, Function.update_of_ne new] at found
      obtain ⟨below, name⟩ := home.named id conn found
      exact ⟨Nat.lt_succ_of_lt below, name⟩
  · obtain ⟨place, known⟩ := Option.isSome_iff_exists.mp (home.threads thread id some)
    rw [more id place known]
    rfl
  · simp [registered, loopOf, setConn, setMap, Connection.new]

theorem new_connection_home (s : System) (ioLoop : LoopId) (tcp : TcpConnection) (home : Home s)
    (room : s.nextConnId + 1 < 2 ^ 31) : Home (s.newConnection ioLoop tcp) := by
  obtain ⟨first, here⟩ := registered_home s ioLoop tcp home room
  change Home (if ioLoop = mainLoop then (s.registered ioLoop tcp).setTodo mainLoop [.task s.nextConnId .connectEstablished]
    else (s.registered ioLoop tcp).post ioLoop [.task s.nextConnId .connectEstablished])
  split
  · next main =>
      refine home_set_todo _ mainLoop _ first fun other task member => ?_
      cases List.mem_singleton.mp member
      rw [here, main]
  · refine home_post _ ioLoop _ first fun other task member => ?_
    cases List.mem_singleton.mp member
    exact .inl here

theorem step_home (s t : System) (label : Label) (home : Home s) (taken : s.step label = some t) : Home t := by
  cases step_takes s t label taken with
  | poll l active phase todo alive distinct ready =>
      refine home_set_loop s l _ home { home.loops l with
        active := fun id revents member => ?_
        distinct := distinct
        idle := fun never => absurd rfl never
        served := fun _ => (home.loops l).served (by simp [phase]) } fun main destroying => absurd main (alive destroying)
      have fits := List.all_eq_true.mp ready _ member
      simp only [System.ready] at fits
      split at fits
      · cases fits
      · next conn found =>
          rw [loop_of_found s id conn found]
          simp only [Bool.and_eq_true, beq_iff_eq] at fits
          rw [fits.1]
  | dispatch l id revents active todo reported =>
      have placed := home.loops l
      refine home_set_loop s l _ home { placed with
        active := fun other seen member => placed.active other seen (by rw [reported]; exact List.mem_cons_of_mem _ member)
        distinct := ?_
        todo := fun other task member => ?_
        idle := fun outside => absurd (placed.idle outside) (by simp [reported]) } fun main destroying => by
          rw [main]
          exact home.destroying destroying
      · have all := placed.distinct
        rw [reported] at all
        exact (List.nodup_cons.mp all).2
      · obtain ⟨_, -, same⟩ := List.mem_map.mp member
        cases same
        exact placed.active id revents (by simp [reported])
  | otherChannel l phase todo => exact home_set_todo s l _ home (by simp)
  | accept sockfd ioLoop writeComplete highWater mark phase todo room => exact new_connection_home s ioLoop _ home room
  | swap l phase todo active =>
      have placed := home.loops l
      have served := placed.served (by simp [phase])
      refine home_set_loop s l _ home { placed with
        queue := fun id task member => placed.queue id task (by rwa [BatchQueue.swap_contents _ served] at member)
        idle := fun _ => active
        served := fun never => absurd rfl never } fun main destroying => ?_
      have poll := home.destroying destroying
      rw [← main, phase] at poll
      cases poll
  | functor l answer id task rest t phase todo next called =>
      have placed := (home.loops l).queue id task
      rw [(s.loops l).queue.pop_contents _ _ next] at placed
      refine home_call _ t l id task [] answer (take_functor_home s l _ rest home phase next) ?_ (by simp) called
      rcases placed List.mem_cons_self with own | ⟨-, removal, -⟩
      · exact .inl own
      · exact .inr removal
  | userFunctor l answer rest phase todo next =>
      exact home_set_todo _ l _ (take_functor_home s l _ rest home phase next) (by simp)
  | exec l answer id task rest t todo called =>
      have placed := (home.loops l).todo
      rw [todo] at placed
      exact home_call s t l id task rest answer home (.inl (placed id task List.mem_cons_self))
        (fun other task member => placed other task (List.mem_cons_of_mem _ member)) called
  | userReturns l rest todo =>
      have placed := (home.loops l).todo
      rw [todo] at placed
      exact home_set_todo s l rest home fun other task member => placed other task (List.mem_cons_of_mem _ member)
  | iterate l phase todo served =>
      have placed := home.loops l
      exact home_set_loop s l _ home { placed with
        idle := fun _ => placed.idle (by simp [phase])
        served := fun _ => served } fun _ _ => rfl
  | userSend l id data t called => exact home_user_call s t l id _ (fun conn => conn) home (fun _ => ⟨rfl, rfl⟩) called
  | userShutdown l id t called =>
      exact home_user_call s t l id _ (setState · .kDisconnecting) home (fun _ => ⟨rfl, rfl⟩) called
  | queueUser l => exact home_post s l _ home (by simp)
  | send thread id cell text t held called =>
      exact home_thread_call s t thread id _ (fun conn => { conn with called := conn.called ++ [text] }) home
        (fun _ => ⟨rfl, rfl⟩) (fun other some => on_conn _ id other (.inl ⟨_, rfl⟩) some) called
  | queueSend thread id data conn sending found =>
      refine home_set_thread _ thread .idle (home_post s conn.loop _ home ?_) fun _ some => absurd rfl some
      intro other task member
      cases List.mem_singleton.mp member
      exact .inl (loop_of_found s id conn found)
  | shutdown thread id t called =>
      exact home_thread_call s t thread id _ (fun conn => conn) home (fun _ => ⟨rfl, rfl⟩)
        (fun other some => on_conn _ id other (.inr (.inl rfl)) some) called
  | storeDisconnecting thread id conn shutting found =>
      refine home_set_thread _ thread _ (home_set_conn s id conn _ home found ⟨rfl, rfl⟩) fun other some => ?_
      rw [set_conn_loop_of s id conn (setState conn .kDisconnecting) found rfl,
        on_conn _ id other (.inr (.inr rfl)) some, loop_of_found s id conn found]
      rfl
  | queueShutdown thread id conn stored found =>
      refine home_set_thread _ thread .idle (home_post s conn.loop _ home ?_) fun _ some => absurd rfl some
      intro other task member
      cases List.mem_singleton.mp member
      exact .inl (loop_of_found s id conn found)
  | overwrite thread cell data idle => exact ⟨home.loops, home.named, home.bound, home.threads, home.destroying⟩
  | release thread cell idle => exact ⟨home.loops, home.named, home.bound, home.threads, home.destroying⟩
  | destroy phase todo => exact ⟨home.loops, home.named, home.bound, home.threads, fun _ => phase⟩
  | destroyHere id conn t found destroying todo mapped main called =>
      refine home_call _ t mainLoop id _ [] .none (home_set_map s conn.name none home) (.inl ?_) (by simp) called
      exact main ▸ loop_of_found s id conn found
  | destroyThere id conn found destroying todo mapped away =>
      refine home_post _ conn.loop _ (home_set_map s conn.name none home) fun other task member => ?_
      cases List.mem_singleton.mp member
      exact .inl (loop_of_found s id conn found)

end System

end Cmuduo.Net
