import Cmuduo.Net.Server.Projection

set_option autoImplicit false

namespace Cmuduo.Net

open Base Machine

namespace System

theorem masks_of_same (id : ConnId) (revents : EventMask) (active : List (ConnId × EventMask)) :
    masksOf id ((id, revents) :: active) = revents :: masksOf id active := by
  simp [masksOf]

theorem masks_of_other (id other : ConnId) (revents : EventMask) (active : List (ConnId × EventMask))
    (different : other ≠ id) : masksOf id ((other, revents) :: active) = masksOf id active := by
  simp [masksOf, different]

-- epoll reports a descriptor at most once.
theorem masks_of_distinct (id : ConnId) (active : List (ConnId × EventMask)) (distinct : (active.map Prod.fst).Nodup) :
    (masksOf id active).length ≤ 1 := by
  induction active with
  | nil => simp [masksOf]
  | cons entry active ih =>
      obtain ⟨other, revents⟩ := entry
      obtain ⟨absent, distinct⟩ := List.nodup_cons.mp distinct
      by_cases same : other = id
      · subst same
        have none : masksOf other active = [] := by
          refine List.eq_nil_iff_forall_not_mem.mpr fun seen member => absent ?_
          exact List.mem_map.mpr ⟨_, (mem_masks_of other seen active).mp member, rfl⟩
        rw [masks_of_same, none]
        rfl
      · rw [masks_of_other id other revents active same]
        exact ih distinct

theorem masks_of_unplaced (s : System) (l : LoopId) (id : ConnId) (home : Home s) (away : s.loopOf id ≠ some l) :
    masksOf id (s.loops l).active = [] := by
  refine List.eq_nil_iff_forall_not_mem.mpr fun revents member => away ?_
  exact (home.loops l).active id revents ((mem_masks_of id revents _).mp member)

structure Agrees (s t : System) (id : ConnId) (conn : Connection) : Prop where
  conns : t.conns id = s.conns id
  map : t.connectionMap conn.name = s.connectionMap conn.name
  active : masksOf id (t.loops conn.loop).active = masksOf id (s.loops conn.loop).active
  todo : tasksOf id (t.loops conn.loop).todo = tasksOf id (s.loops conn.loop).todo
  queue : ∀ l, tasksOf id (t.loops l).queue.contents = tasksOf id (s.loops l).queue.contents
  threads : ∀ thread, (t.threads thread).on id = (s.threads thread).on id

theorem agrees_view (s t : System) (id : ConnId) (conn : Connection) (found : s.conns id = some conn)
    (agrees : Agrees s t id conn) : t.view id = s.view id := by
  rw [view, view, agrees.conns, found, Option.map_some, Option.map_some, see, see, agrees.map, agrees.active, agrees.todo,
    agrees.queue, agrees.queue]
  simp only [agrees.threads]

theorem agrees_refl (s : System) (id : ConnId) (conn : Connection) : Agrees s s id conn :=
  ⟨rfl, rfl, rfl, rfl, fun _ => rfl, fun _ => rfl⟩

theorem tasks_of_jobs_other (l : LoopId) (id other : ConnId) (effect : Effect) (different : other ≠ id) :
    tasksOf id (jobs l other effect) = [] := by
  refine List.eq_nil_iff_forall_not_mem.mpr fun task member => different ?_
  exact (mem_jobs l other id task effect ((mem_tasks_of id task _).mp member)).1.symm

theorem tasks_of_jobs_same (l : LoopId) (id : ConnId) (effect : Effect) :
    tasksOf id (jobs l id effect) =
      effect.front ++ if effect.remove && l == mainLoop then [.removeConnectionInLoop] else [] := by
  cases called : effect.userCode <;> cases inline : effect.remove && l == mainLoop <;> simp [jobs, called, inline]

theorem apply_map (s : System) (l : LoopId) (id : ConnId) (rest : List Job) (effect : Effect) :
    (s.apply l id rest effect).connectionMap =
      if effect.erase then Function.update s.connectionMap effect.conn.name none else s.connectionMap := by
  cases remove : effect.remove <;> cases erase : effect.erase <;> by_cases main : l = mainLoop <;>
    simp [apply, remove, erase, main, setConn, setMap, setTodo, post, setLoop]

theorem apply_conns (s : System) (l : LoopId) (id : ConnId) (rest : List Job) (effect : Effect) :
    (s.apply l id rest effect).conns = Function.update s.conns id (some effect.conn) := by
  cases remove : effect.remove <;> cases erase : effect.erase <;> by_cases main : l = mainLoop <;>
    simp [apply, remove, erase, main, setConn, setMap, setTodo, post, setLoop]

theorem apply_threads (s : System) (l : LoopId) (id : ConnId) (rest : List Job) (effect : Effect) :
    (s.apply l id rest effect).threads = s.threads := by
  cases remove : effect.remove <;> cases erase : effect.erase <;> by_cases main : l = mainLoop <;>
    simp [apply, remove, erase, main, setConn, setMap, setTodo, post, setLoop]

theorem names_differ (s : System) (id other : ConnId) (conn next : Connection) (home : Home s)
    (found : s.conns id = some conn) (there : s.conns other = some next) (different : other ≠ id) :
    conn.name ≠ next.name := by
  intro same
  obtain ⟨below, name⟩ := home.named id conn found
  obtain ⟨otherBelow, otherName⟩ := home.named other next there
  rw [name, otherName] at same
  exact different (conn_name_injective s.name s.listen other id (Nat.lt_trans otherBelow home.bound)
    (Nat.lt_trans below home.bound) same.symm)

theorem apply_other (s : System) (l : LoopId) (id other : ConnId) (conn next : Connection) (rest : List Job)
    (effect : Effect) (home : Home s) (found : s.conns id = some conn) (there : s.conns other = some next)
    (kept : effect.conn.loop = next.loop ∧ effect.conn.name = next.name) (different : other ≠ id)
    (left : conn.loop = l → tasksOf id rest = tasksOf id (s.loops l).todo) :
    Agrees s (s.apply l other rest effect) id conn := by
  refine ⟨?_, ?_, ?_, ?_, fun place => ?_, fun thread => by rw [apply_threads]⟩
  · rw [apply_conns, Function.update_of_ne (Ne.symm different)]
  · rw [apply_map]
    split
    · rw [Function.update_of_ne]
      rw [kept.2]
      exact names_differ s id other conn next home found there different
    · rfl
  · rw [apply_loops]
  · rw [apply_loops]
    by_cases here : conn.loop = l
    · simp only [if_pos here, tasks_of_append, tasks_of_jobs_other l id other effect different, List.nil_append]
      rw [left here, here]
    · simp only [if_neg here]
  · simp only [apply_loops, BatchQueue.append_contents, tasks_of_append]
    have own : tasksOf id (if place = effect.conn.loop then effect.queue.map (.task other) else []) = [] := by
      split
      · exact tasks_of_map_other id other different _
      · rfl
    have main : tasksOf id (if place = mainLoop ∧ effect.remove = true ∧ l ≠ mainLoop then
        [.task other .removeConnectionInLoop] else []) = [] := by
      split
      · exact tasks_of_other id other _ [] different
      · rfl
    rw [own, main, List.append_nil, List.append_nil]

theorem apply_own (s : System) (id : ConnId) (conn : Connection) (rest : List Job) (effect : Effect)
    (kept : effect.conn.loop = conn.loop ∧ effect.conn.name = conn.name) :
    (s.apply conn.loop id rest effect).view id = some ((s.see id conn).apply (tasksOf id rest) effect) := by
  rw [view, apply_conns, Function.update_self, Option.map_some, see, View.apply]
  simp only [apply_loops, apply_map, apply_threads, kept.1, kept.2, see, if_true, tasks_of_append, tasks_of_jobs_same,
    BatchQueue.append_contents, tasks_of_map]
  by_cases main : conn.loop = mainLoop
  · cases remove : effect.remove <;> cases erase : effect.erase <;> simp [main]
  · cases remove : effect.remove <;> cases erase : effect.erase <;> simp [main, Ne.symm main]

-- removeConnectionInLoop on the server's loop, for a connection of another loop.
theorem apply_removal (s : System) (id : ConnId) (conn : Connection) (away : conn.loop ≠ mainLoop) :
    (s.apply mainLoop id [] { conn.plain with queue := [.connectDestroyed], erase := true }).view id =
      some { s.see id conn with mapped := false, queue := (s.see id conn).queue ++ [.connectDestroyed] } := by
  rw [view, apply_conns, Function.update_self, Option.map_some, see, see]
  simp only [apply_loops, apply_map, apply_threads, Connection.plain]
  simp [away, Ne.symm away]

-- One step of the system, as a connection sees it: nothing, or the step of its
-- own machine that the label stands for.
def Follows (s t : System) (id : ConnId) (conn : Connection) : Option LifeLabel → Prop
  | none => t.view id = s.view id
  | some life => ∃ w, (s.see id conn).step life = some w ∧ t.view id = some w

theorem view_found (s : System) (id : ConnId) (conn : Connection) (found : s.conns id = some conn) :
    s.view id = some (s.see id conn) := by
  rw [view, found, Option.map_some]

theorem view_conn (s : System) (id : ConnId) (v : View) (seen : s.view id = some v) : s.conns id = some v.conn := by
  obtain ⟨conn, found, rfl⟩ := Option.map_eq_some_iff.mp seen
  exact found

theorem follows_quiet (s t : System) (id : ConnId) (conn : Connection) (label : Label) (found : s.conns id = some conn)
    (quiet : s.lifeLabel id label = none) (agrees : Agrees s t id conn) :
    Follows s t id conn (s.lifeLabel id label) := by
  rw [quiet]
  exact agrees_view s t id conn found agrees

theorem follows_step (s t : System) (id : ConnId) (conn next : Connection) (label : Label) (life : LifeLabel)
    (seen : s.lifeLabel id label = some life) (found : t.conns id = some next)
    (moved : (s.see id conn).step life = some (t.see id next)) : Follows s t id conn (s.lifeLabel id label) := by
  rw [seen]
  exact ⟨_, moved, view_found t id next found⟩

theorem poll_follows (s : System) (l : LoopId) (active : List (ConnId × EventMask)) (id : ConnId) (conn : Connection)
    (home : Home s) (found : s.conns id = some conn) (phase : (s.loops l).phase = .poll) (todo : (s.loops l).todo = [])
    (distinct : (active.map Prod.fst).Nodup) (ready : active.all (fun entry => s.ready l entry.1) = true) :
    Follows s (s.setLoop l { s.loops l with phase := .dispatch, active := active }) id conn
      (s.lifeLabel id (.poll l active)) := by
  have here := loop_of_found s id conn found
  have before : masksOf id (s.loops l).active = [] := by
    rw [(home.loops l).idle (by simp [phase])]
    rfl
  by_cases own : conn.loop = l
  · cases reported : masksOf id active with
    | nil =>
        refine follows_quiet s _ id conn _ found (by simp [lifeLabel, reported]) ⟨rfl, rfl, ?_, ?_, fun place => ?_, fun _ => rfl⟩
        · simp [own, reported, before]
        · simp [own]
        · by_cases same : place = l <;> simp [same]
    | cons revents rest =>
        have single := masks_of_distinct id active distinct
        rw [reported] at single
        obtain rfl : rest = [] := List.eq_nil_of_length_eq_zero (by simpa using single)
        have ready : conn.tcp.slot.interest.isSome = true := by
          have member := (mem_masks_of id revents active).mp (by simp [reported])
          have fits := List.all_eq_true.mp ready _ member
          simp only [System.ready, found, Bool.and_eq_true] at fits
          exact fits.2
        refine follows_step s _ id conn conn _ (.poll revents) ?_ found ?_
        · simp [lifeLabel, here, own, reported]
        · simp only [View.step, see, own, before, todo, ready, set_loop_loops, if_true, reported, tasks_of_nil, and_self]
          by_cases same : mainLoop = l <;> simp [same]
  · refine follows_quiet s _ id conn _ found (by simp [lifeLabel, here, own]) ⟨rfl, rfl, ?_, ?_, fun place => ?_, fun _ => rfl⟩
    · simp [own]
    · simp [own]
    · by_cases same : place = l <;> simp [same]

theorem dispatch_follows (s : System) (l : LoopId) (id other : ConnId) (revents : EventMask)
    (active : List (ConnId × EventMask)) (conn : Connection) (home : Home s) (found : s.conns id = some conn)
    (todo : (s.loops l).todo = []) (reported : (s.loops l).active = (other, revents) :: active) :
    Follows s (s.setLoop l { s.loops l with active := active, todo := (handleEventWithGuard revents).map (.task other) })
      id conn (s.lifeLabel id (.dispatch l)) := by
  have here := loop_of_found s id conn found
  by_cases same : other = id
  · subst same
    have own : conn.loop = l := by
      have placed := (home.loops l).active other revents (by simp [reported])
      rw [here] at placed
      exact Option.some.inj placed
    refine follows_step s _ other conn conn _ .dispatch (by simp [lifeLabel, target, reported]) found ?_
    simp only [View.step, see, own, reported, todo, masks_of_same, tasks_of_nil, set_loop_loops, if_true, tasks_of_map]
    by_cases main : mainLoop = l <;> simp [main]
  · refine follows_quiet s _ id conn _ found (by simp [lifeLabel, target, reported, same])
      ⟨rfl, rfl, ?_, ?_, fun place => ?_, fun _ => rfl⟩
    · by_cases own : conn.loop = l
      · simp [own, reported, masks_of_other id other revents active same]
      · simp [own]
    · by_cases own : conn.loop = l
      · simp [own, todo, tasks_of_map_other id other same]
      · simp [own]
    · by_cases here : place = l <;> simp [here]

theorem call_follows (s t : System) (l : LoopId) (id other : ConnId) (conn : Connection) (task : Task) (rest : List Job)
    (answer : Answer) (home : Home s) (found : s.conns id = some conn) (different : other ≠ id)
    (left : conn.loop = l → tasksOf id rest = tasksOf id (s.loops l).todo)
    (taken : s.call l other task rest answer = some t) : Agrees s t id conn := by
  obtain ⟨next, effect, there, done, rfl⟩ := call_outcome s t l other task rest answer taken
  exact apply_other s l id other conn next rest effect home found there (next.perform_keeps _ _ _ _ done) different left

theorem call_own (s t : System) (id : ConnId) (conn : Connection) (task : Task) (rest : List Job) (answer : Answer)
    (found : s.conns id = some conn) (taken : s.call conn.loop id task rest answer = some t) :
    t.view id = (s.see id conn).call task (tasksOf id rest) s.read answer ∧ (t.view id).isSome = true := by
  obtain ⟨next, effect, there, done, rfl⟩ := call_outcome s t conn.loop id task rest answer taken
  obtain rfl := Option.some.inj (found.symm.trans there)
  rw [apply_own s id conn rest effect (conn.perform_keeps _ _ _ _ done)]
  refine ⟨?_, rfl⟩
  rw [View.call]
  change _ = (conn.perform s.read task answer).map _
  rw [done, Option.map_some]

theorem exec_follows (s t : System) (l : LoopId) (answer : Answer) (id other : ConnId) (task : Task) (rest : List Job)
    (conn : Connection) (home : Home s) (found : s.conns id = some conn) (todo : (s.loops l).todo = .task other task :: rest)
    (called : s.call l other task rest answer = some t) : Follows s t id conn (s.lifeLabel id (.exec l answer)) := by
  by_cases same : other = id
  · subst same
    have own : conn.loop = l := by
      have placed := (home.loops l).todo other task (by simp [todo])
      rw [loop_of_found s other conn found] at placed
      exact Option.some.inj placed
    subst own
    obtain ⟨moved, there⟩ := call_own s t other conn task rest answer found called
    obtain ⟨w, seen⟩ := Option.isSome_iff_exists.mp there
    have label : s.lifeLabel other (.exec conn.loop answer) = some (.exec s.read answer) := by
      simp [lifeLabel, target, todo]
    rw [label]
    refine ⟨w, ?_, seen⟩
    rw [← seen, moved]
    simp [View.step, see, todo]
  · refine follows_quiet s t id conn _ found (by simp [lifeLabel, target, todo, same]) ?_
    refine call_follows s t l id other conn task rest answer home found same (fun _ => ?_) called
    rw [todo, tasks_of_other id other task rest same]

theorem take_functor_agrees (s : System) (l : LoopId) (job : Job) (rest : List Job) (id : ConnId) (conn : Connection)
    (next : (s.loops l).queue.batch = job :: rest) (about : ∀ task, job ≠ .task id task) :
    Agrees s (s.takeFunctor l) id conn := by
  refine ⟨rfl, rfl, ?_, ?_, fun place => ?_, fun _ => rfl⟩
  · by_cases own : conn.loop = l <;> simp [takeFunctor, own]
  · by_cases own : conn.loop = l <;> simp [takeFunctor, own]
  · by_cases here : place = l
    · have contents := (s.loops l).queue.pop_contents _ _ next
      simp only [takeFunctor, here, set_loop_loops, if_true, contents]
      cases job with
      | user => simp
      | task other task =>
          rw [tasks_of_other id other task]
          rintro rfl
          exact about task rfl
    · simp [takeFunctor, here]

theorem agrees_trans (s t u : System) (id : ConnId) (conn : Connection) (first : Agrees s t id conn)
    (second : Agrees t u id conn) : Agrees s u id conn :=
  ⟨second.conns.trans first.conns, second.map.trans first.map, second.active.trans first.active,
    second.todo.trans first.todo, fun l => (second.queue l).trans (first.queue l),
    fun thread => (second.threads thread).trans (first.threads thread)⟩

theorem functor_own_follows (s t : System) (id : ConnId) (conn : Connection) (task : Task) (rest : List Job)
    (answer : Answer) (home : Home s) (found : s.conns id = some conn)
    (phase : (s.loops conn.loop).phase = .functors) (todo : (s.loops conn.loop).todo = [])
    (next : (s.loops conn.loop).queue.batch = .task id task :: rest)
    (called : (s.takeFunctor conn.loop).call conn.loop id task [] answer = some t) :
    Follows s t id conn (s.lifeLabel id (.functor conn.loop answer)) := by
  have contents := (s.loops conn.loop).queue.pop_contents _ _ next
  have active : (s.loops conn.loop).active = [] := (home.loops conn.loop).idle (by simp [phase])
  obtain ⟨moved, there⟩ := call_own (s.takeFunctor conn.loop) t id conn task [] answer found called
  obtain ⟨w, seen⟩ := Option.isSome_iff_exists.mp there
  have label : s.lifeLabel id (.functor conn.loop answer) = some (.functor s.read answer) := by
    simp [lifeLabel, target, next, loop_of_found s id conn found]
  rw [label]
  refine ⟨w, ?_, seen⟩
  rw [← seen, moved]
  have view : (s.takeFunctor conn.loop).see id conn =
      { s.see id conn with queue := tasksOf id (s.loops conn.loop).queue.pop.contents } := by
    by_cases main : mainLoop = conn.loop
    · simp [see, takeFunctor, main]
    · simp [see, takeFunctor, main]
  rw [view]
  simp only [View.step, see, contents, todo, active, tasks_of_nil, tasks_of_same]
  rfl

theorem functor_away_follows (s t : System) (l : LoopId) (id : ConnId) (conn : Connection) (task : Task)
    (rest : List Job) (answer : Answer) (home : Home s) (found : s.conns id = some conn) (own : conn.loop ≠ l)
    (next : (s.loops l).queue.batch = .task id task :: rest)
    (called : (s.takeFunctor l).call l id task [] answer = some t) :
    Follows s t id conn (s.lifeLabel id (.functor l answer)) := by
  have here := loop_of_found s id conn found
  have contents := (s.loops l).queue.pop_contents _ _ next
  have removal : l = mainLoop ∧ task = .removeConnectionInLoop := by
    have placed := (home.loops l).queue id task (by simp [contents])
    rw [here] at placed
    rcases placed with there | ⟨main, removal, -⟩
    · exact absurd (Option.some.inj there) own
    · exact ⟨main, removal⟩
  obtain ⟨rfl, rfl⟩ := removal
  have there : (s.takeFunctor mainLoop).conns id = some conn := found
  simp only [call, there, Connection.perform, Option.map_some, Option.some.injEq] at called
  subst called
  have label : s.lifeLabel id (.functor mainLoop answer) = some .mainFunctor := by
    simp [lifeLabel, target, next, here, own]
  rw [label]
  refine ⟨_, ?_, apply_removal (s.takeFunctor mainLoop) id conn own⟩
  simp [View.step, see, takeFunctor, own, contents]

theorem functor_follows (s t : System) (l : LoopId) (answer : Answer) (id other : ConnId) (conn : Connection)
    (task : Task) (rest : List Job) (home : Home s) (found : s.conns id = some conn)
    (phase : (s.loops l).phase = .functors) (todo : (s.loops l).todo = [])
    (next : (s.loops l).queue.batch = .task other task :: rest)
    (called : (s.takeFunctor l).call l other task [] answer = some t) :
    Follows s t id conn (s.lifeLabel id (.functor l answer)) := by
  by_cases same : other = id
  · subst same
    by_cases own : conn.loop = l
    · subst own
      exact functor_own_follows s t other conn task rest answer home found phase todo next called
    · exact functor_away_follows s t l other conn task rest answer home found own next called
  · refine follows_quiet s t id conn _ found (by simp [lifeLabel, target, next, same]) ?_
    refine agrees_trans s _ _ id conn (take_functor_agrees s l _ rest id conn next (by simp [same])) ?_
    have first : Home (s.takeFunctor l) := take_functor_home s l _ rest home phase next
    refine call_follows _ t l id other conn task [] answer first found same (fun _ => ?_) called
    simp [takeFunctor, todo]

theorem user_functor_follows (s : System) (l : LoopId) (answer : Answer) (rest : List Job) (id : ConnId)
    (conn : Connection) (found : s.conns id = some conn) (todo : (s.loops l).todo = [])
    (next : (s.loops l).queue.batch = .user :: rest) :
    Follows s ((s.takeFunctor l).setTodo l [.user]) id conn (s.lifeLabel id (.functor l answer)) := by
  refine follows_quiet s _ id conn _ found (by simp [lifeLabel, target, next]) ?_
  refine agrees_trans s _ _ id conn (take_functor_agrees s l _ rest id conn next (by simp)) ?_
  refine ⟨rfl, rfl, ?_, ?_, fun place => ?_, fun _ => rfl⟩
  · simp
  · by_cases own : conn.loop = l <;> simp [own, todo, takeFunctor]
  · by_cases same : place = l <;> simp [same]

theorem user_call_other (s t : System) (l : LoopId) (id other : ConnId) (conn : Connection) (task : Task)
    (store : Connection → Connection) (different : other ≠ id) (taken : s.userCall l other task store = some t) :
    Agrees s t id conn := by
  cases user_call_outcome s t l other task store taken with
  | passes rest next todo =>
      refine ⟨?_, rfl, ?_, ?_, fun place => ?_, fun _ => rfl⟩
      · simp [setConn, Ne.symm different]
      · simp
      · by_cases own : conn.loop = l <;> simp [own, todo, tasks_of_other id other task _ different]
      · simp
  | ignored => exact agrees_refl s id conn

theorem user_call_own (s t : System) (l : LoopId) (id : ConnId) (conn : Connection) (task : Task)
    (store : Connection → Connection) (found : s.conns id = some conn)
    (kept : (store conn).loop = conn.loop ∧ (store conn).name = conn.name)
    (taken : s.userCall l id task store = some t) :
    conn.published = true ∧
    t.view id = some (if conn.tcp.state = .kConnected then
      { s.see id conn with conn := store conn, todo := task :: (s.see id conn).todo }
    else s.see id conn) := by
  cases user_call_outcome s t l id task store taken with
  | passes rest next todo there own published connected =>
      obtain rfl := Option.some.inj (found.symm.trans there)
      refine ⟨published, ?_⟩
      rw [if_pos connected, view_found _ id (store conn) (by simp [setConn])]
      subst own
      by_cases main : mainLoop = conn.loop <;> simp [see, kept, todo]
  | ignored rest next todo there own published refused =>
      obtain rfl := Option.some.inj (found.symm.trans there)
      rw [if_neg refused]
      exact ⟨published, view_found s id conn found⟩

theorem thread_call_other (s t : System) (thread : ThreadId) (id other : ConnId) (conn : Connection) (pc : ThreadPc)
    (store : Connection → Connection) (different : other ≠ id) (silent : pc.on id = .none)
    (taken : s.threadCall thread other pc store = some t) : Agrees s t id conn := by
  cases thread_call_outcome s t thread other pc store taken with
  | passes next idle =>
      refine ⟨?_, rfl, rfl, rfl, fun _ => rfl, fun place => ?_⟩
      · simp [setConn, Ne.symm different]
      · by_cases here : place = thread
        · simp only [setThread, here, Function.update_self, silent, idle]
          rfl
        · simp [setThread, here]
  | ignored => exact agrees_refl s id conn

theorem see_set_thread (s : System) (thread : ThreadId) (pc : ThreadPc) (id : ConnId) (conn : Connection) :
    (s.setThread thread pc).see id conn = (s.see id conn).setCall thread (pc.on id) := by
  have calls : (fun place => ((s.setThread thread pc).threads place).on id) =
      Function.update (fun place => (s.threads place).on id) thread (pc.on id) := by
    funext place
    by_cases here : place = thread
    · simp [setThread, here]
    · simp [setThread, here]
  simp only [see, View.setCall, calls, set_thread_loops, set_thread_map]

theorem thread_call_own (s t : System) (thread : ThreadId) (id : ConnId) (conn : Connection) (pc : ThreadPc)
    (store : Connection → Connection) (found : s.conns id = some conn)
    (kept : (store conn).loop = conn.loop ∧ (store conn).name = conn.name)
    (taken : s.threadCall thread id pc store = some t) :
    (s.see id conn).calls thread = .none ∧ conn.published = true ∧
    t.view id = some (if conn.tcp.state = .kConnected then
      { s.see id conn with conn := store conn }.setCall thread (pc.on id)
    else s.see id conn) := by
  cases thread_call_outcome s t thread id pc store taken with
  | passes next idle there published connected =>
      obtain rfl := Option.some.inj (found.symm.trans there)
      refine ⟨by simp [see, idle, ThreadPc.on], published, ?_⟩
      rw [if_pos connected, view_found _ id (store conn) (by simp [setConn]), see_set_thread]
      simp [see, kept]
  | ignored next idle there published refused =>
      obtain rfl := Option.some.inj (found.symm.trans there)
      rw [if_neg refused]
      exact ⟨by simp [see, idle, ThreadPc.on], published, view_found s id conn found⟩

theorem on_sending (id : ConnId) (data : Captured) : (ThreadPc.sending id data).on id = .sending data := by
  simp [ThreadPc.on]

theorem on_shutting_down (id : ConnId) : (ThreadPc.shuttingDown id).on id = .shuttingDown := by
  simp [ThreadPc.on]

theorem on_stored (id : ConnId) : (ThreadPc.stored id).on id = .stored := by
  simp [ThreadPc.on]

theorem see_post (s : System) (id : ConnId) (conn : Connection) (task : Task) :
    (s.post conn.loop [.task id task]).see id conn =
      { s.see id conn with queue := (s.see id conn).queue ++ [task] } := by
  by_cases main : conn.loop = mainLoop
  · simp [see, main]
  · simp [see, main, Ne.symm main]

theorem post_agrees (s : System) (l : LoopId) (id other : ConnId) (conn : Connection) (task : Task)
    (different : other ≠ id) : Agrees s (s.post l [.task other task]) id conn := by
  refine ⟨rfl, rfl, by simp, by simp, fun place => ?_, fun _ => rfl⟩
  by_cases here : place = l
  · simp [here, tasks_of_other id other task [] different]
  · simp [here]

theorem set_thread_agrees (s : System) (thread : ThreadId) (pc : ThreadPc) (id : ConnId) (conn : Connection)
    (same : pc.on id = (s.threads thread).on id) : Agrees s (s.setThread thread pc) id conn := by
  refine ⟨rfl, rfl, rfl, rfl, fun _ => rfl, fun place => ?_⟩
  by_cases here : place = thread
  · simpa [setThread, here] using same
  · simp [setThread, here]

theorem thread_post_follows (s : System) (thread : ThreadId) (id other : ConnId) (conn next : Connection) (task : Task)
    (life : LifeLabel) (found : s.conns id = some conn) (there : s.conns other = some next)
    (silent : other ≠ id → (s.threads thread).on id = .none)
    (moved : other = id → (s.see id conn).step life =
      some ({ s.see id conn with queue := (s.see id conn).queue ++ [task] }.setCall thread .none)) :
    Follows s ((s.post next.loop [.task other task]).setThread thread .idle) id conn
      (if other = id then some life else none) := by
  split
  · next same =>
      subst same
      obtain rfl := Option.some.inj (found.symm.trans there)
      refine ⟨_, moved rfl, ?_⟩
      rw [view_found ((s.post conn.loop [.task other task]).setThread thread .idle) other conn found, see_set_thread,
        see_post]
      rfl
  · next different =>
      refine agrees_view s _ id conn found (agrees_trans s (s.post next.loop [.task other task]) _ id conn
        (post_agrees s next.loop id other conn task different) ?_)
      exact set_thread_agrees _ thread .idle id conn (silent different).symm

theorem life_label_other (s : System) (id other : ConnId) (label : Label) (life : LifeLabel)
    (about : s.target label = some (other, life)) (notPoll : ∀ l active, label ≠ .poll l active) :
    s.lifeLabel id label = if other = id then some life else none := by
  cases label with
  | poll l active => exact absurd rfl (notPoll l active)
  | _ => simp only [lifeLabel, about]

theorem registered_agrees (s : System) (ioLoop : LoopId) (tcp : TcpConnection) (id : ConnId) (conn : Connection)
    (home : Home s) (found : s.conns id = some conn) : Agrees s (s.registered ioLoop tcp) id conn := by
  obtain ⟨below, name⟩ := home.named id conn found
  have old : id ≠ s.nextConnId := Nat.ne_of_lt below
  refine ⟨?_, ?_, rfl, rfl, fun _ => rfl, fun _ => rfl⟩
  · simp [registered, setConn, setMap, old]
  · have differ : conn.name ≠ connName s.name s.listen s.nextConnId := by
      rw [name]
      intro same
      exact old (conn_name_injective s.name s.listen id s.nextConnId (Nat.lt_trans below home.bound) home.bound same)
    simp [registered, setMap, differ]

theorem accept_agrees (s : System) (ioLoop : LoopId) (tcp : TcpConnection) (id : ConnId) (conn : Connection)
    (home : Home s) (found : s.conns id = some conn) (todo : (s.loops mainLoop).todo = []) :
    Agrees s (s.newConnection ioLoop tcp) id conn := by
  have old : s.nextConnId ≠ id := (Nat.ne_of_lt (home.named id conn found).1).symm
  refine agrees_trans s (s.registered ioLoop tcp) _ id conn (registered_agrees s ioLoop _ id conn home found) ?_
  change Agrees _ (if ioLoop = mainLoop then
    (s.registered ioLoop _).setTodo mainLoop [.task s.nextConnId .connectEstablished]
    else (s.registered ioLoop _).post ioLoop [.task s.nextConnId .connectEstablished]) id conn
  split
  · refine ⟨rfl, rfl, by simp, ?_, fun _ => by simp, fun _ => rfl⟩
    by_cases own : conn.loop = mainLoop
    · have before : ((s.registered ioLoop tcp).loops mainLoop).todo = [] := todo
      simp [own, before, tasks_of_other id s.nextConnId _ [] old]
    · simp [own]
  · exact post_agrees _ ioLoop id s.nextConnId conn _ old

section
variable (s : System) (id other : ConnId) (conn next : Connection)

theorem store_follows (thread : ThreadId) (found : s.conns id = some conn) (there : s.conns other = some next)
    (shutting : s.threads thread = .shuttingDown other) :
    Follows s ((s.setConn other (setState next .kDisconnecting)).setThread thread (.stored other)) id conn
      (if other = id then some (.storeDisconnecting thread) else none) := by
  split
  · next same =>
      subst same
      obtain rfl := Option.some.inj (found.symm.trans there)
      refine ⟨_, ?_, view_found _ other (setState conn .kDisconnecting) (by simp [setConn])⟩
      rw [see_set_thread, on_stored]
      simp only [View.step, see, shutting, on_shutting_down]
      rfl
  · next different =>
      refine agrees_view s _ id conn found (agrees_trans s (s.setConn other (setState next .kDisconnecting)) _ id conn
        ⟨?_, rfl, rfl, rfl, fun _ => rfl, fun _ => rfl⟩ (set_thread_agrees _ thread (.stored other) id conn ?_))
      · simp [setConn, Ne.symm different]
      · simp [shutting, ThreadPc.on, different]

theorem erased_own :
    (s.setMap conn.name none).see id conn = { s.see id conn with mapped := false } := by
  simp [see, setMap]

theorem erased_other (home : Home s) (found : s.conns id = some conn) (there : s.conns other = some next)
    (different : other ≠ id) : Agrees s (s.setMap next.name none) id conn := by
  refine ⟨rfl, ?_, rfl, rfl, fun _ => rfl, fun _ => rfl⟩
  simp [setMap, names_differ s id other conn next home found there different]

theorem destroy_here_follows (t : System) (home : Home s) (found : s.conns id = some conn)
    (there : s.conns other = some next) (destroying : s.destroying = true) (todo : (s.loops mainLoop).todo = [])
    (mapped : s.connectionMap next.name = some other) (main : next.loop = mainLoop)
    (called : (s.setMap next.name none).call mainLoop other .connectDestroyed [] .none = some t) :
    Follows s t id conn (if other = id then some .destroy else none) := by
  split
  · next same =>
      subst same
      obtain rfl := Option.some.inj (found.symm.trans there)
      obtain ⟨moved, some⟩ := call_own (s.setMap conn.name none) t other conn .connectDestroyed [] .none found
        (main ▸ called)
      obtain ⟨w, seen⟩ := Option.isSome_iff_exists.mp some
      refine ⟨w, ?_, seen⟩
      rw [← seen, moved, erased_own s other conn]
      have active : (s.loops mainLoop).active = [] := (home.loops mainLoop).idle (by
        rw [home.destroying destroying]
        simp)
      simp only [View.step, see, mapped, main, todo, active]
      simp only [masksOf, beq_self_eq_true, if_true, tasks_of_nil, and_self, List.filterMap_nil]
      rfl
  · next different =>
      refine agrees_view s t id conn found (agrees_trans s _ t id conn
        (erased_other s id other conn next home found there different)
        (call_follows _ t mainLoop id other conn _ [] .none (home_set_map s next.name none home) found different
          (fun _ => ?_) called))
      simp [todo]

theorem destroy_there_follows (home : Home s) (found : s.conns id = some conn) (there : s.conns other = some next)
    (mapped : s.connectionMap next.name = some other) (away : next.loop ≠ mainLoop) :
    Follows s ((s.setMap next.name none).post next.loop [.task other .connectDestroyed]) id conn
      (if other = id then some .destroy else none) := by
  split
  · next same =>
      subst same
      obtain rfl := Option.some.inj (found.symm.trans there)
      refine ⟨_, ?_, view_found _ other conn found⟩
      rw [see_post, erased_own s other conn]
      simp [View.step, see, mapped, away]
  · next different =>
      exact agrees_view s _ id conn found (agrees_trans s _ _ id conn
        (erased_other s id other conn next home found there different)
        (post_agrees _ next.loop id other conn _ different))

end

theorem step_follows (s t : System) (label : Label) (id : ConnId) (conn : Connection) (home : Home s)
    (found : s.conns id = some conn) (taken : s.step label = some t) :
    Follows s t id conn (s.lifeLabel id label) := by
  cases step_takes s t label taken with
  | poll l active phase todo alive distinct ready =>
      exact poll_follows s l active id conn home found phase todo distinct ready
  | dispatch l other revents active todo reported =>
      exact dispatch_follows s l id other revents active conn home found todo reported
  | functor l answer other task rest t phase todo next called =>
      exact functor_follows s t l answer id other conn task rest home found phase todo next called
  | userFunctor l answer rest phase todo next => exact user_functor_follows s l answer rest id conn found todo next
  | exec l answer other task rest t todo called =>
      exact exec_follows s t l answer id other task rest conn home found todo called
  | otherChannel l phase todo =>
      refine follows_quiet s _ id conn _ found rfl ⟨rfl, rfl, by simp, ?_, fun _ => by simp, fun _ => rfl⟩
      by_cases own : conn.loop = l <;> simp [own, todo]
  | accept sockfd ioLoop writeComplete highWater mark phase todo room =>
      exact follows_quiet s _ id conn _ found rfl (accept_agrees s ioLoop _ id conn home found todo)
  | swap l phase todo active =>
      have served := (home.loops l).served (by simp [phase])
      refine follows_quiet s _ id conn _ found rfl ⟨rfl, rfl, ?_, ?_, fun place => ?_, fun _ => rfl⟩
      · by_cases own : conn.loop = l <;> simp [own]
      · by_cases own : conn.loop = l <;> simp [own]
      · by_cases same : place = l <;> simp [same, BatchQueue.swap_contents _ served]
  | userReturns l rest todo =>
      refine follows_quiet s _ id conn _ found rfl ⟨rfl, rfl, by simp, ?_, fun _ => by simp, fun _ => rfl⟩
      by_cases own : conn.loop = l <;> simp [own, todo]
  | iterate l phase todo served =>
      refine follows_quiet s _ id conn _ found rfl ⟨rfl, rfl, ?_, ?_, fun place => ?_, fun _ => rfl⟩
      · by_cases own : conn.loop = l <;> simp [own]
      · by_cases own : conn.loop = l <;> simp [own]
      · by_cases same : place = l <;> simp [same]
  | userSend l other data t called =>
      rw [life_label_other s id other (.userSend l other data) (.userSend data) rfl (by simp)]
      split
      · next same =>
          subst same
          obtain ⟨published, seen⟩ := user_call_own s t l other conn _ (fun conn => conn) found ⟨rfl, rfl⟩ called
          exact ⟨_, if_pos published, seen⟩
      · next different => exact agrees_view s t id conn found (user_call_other s t l id other conn _ _ different called)
  | userShutdown l other t called =>
      rw [life_label_other s id other (.userShutdown l other) .userShutdown rfl (by simp)]
      split
      · next same =>
          subst same
          obtain ⟨published, seen⟩ := user_call_own s t l other conn _ (setState · .kDisconnecting) found ⟨rfl, rfl⟩ called
          exact ⟨_, if_pos published, seen⟩
      · next different => exact agrees_view s t id conn found (user_call_other s t l id other conn _ _ different called)
  | queueUser l =>
      refine follows_quiet s _ id conn _ found rfl ⟨rfl, rfl, by simp, by simp, fun place => ?_, fun _ => rfl⟩
      by_cases same : place = l <;> simp [same]
  | send thread other cell text t held called =>
      have about : s.target (.send thread other cell) =
          some (other, .send thread ⟨thread, cell, text.bytes.length, text⟩) := by simp [target, held]
      rw [life_label_other s id other (.send thread other cell) _ about (by simp)]
      split
      · next same =>
          subst same
          obtain ⟨idle, published, seen⟩ := thread_call_own s t thread other conn _
            (fun conn => { conn with called := conn.called ++ [text] }) found ⟨rfl, rfl⟩ called
          rw [on_sending] at seen
          exact ⟨_, if_pos ⟨idle, published⟩, seen⟩
      · next different =>
          refine agrees_view s t id conn found (thread_call_other s t thread id other conn _ _ different ?_ called)
          simp [ThreadPc.on, different]
  | shutdown thread other t called =>
      rw [life_label_other s id other (.shutdown thread other) (.shutdown thread) rfl (by simp)]
      split
      · next same =>
          subst same
          obtain ⟨idle, published, seen⟩ := thread_call_own s t thread other conn _ (fun conn => conn) found ⟨rfl, rfl⟩ called
          rw [on_shutting_down] at seen
          exact ⟨_, if_pos ⟨idle, published⟩, seen⟩
      · next different =>
          refine agrees_view s t id conn found (thread_call_other s t thread id other conn _ _ different ?_ called)
          simp [ThreadPc.on, different]
  | queueSend thread other data next sending there =>
      have about : s.target (.queueSend thread) = some (other, .queueSend thread) := by simp [target, sending]
      rw [life_label_other s id other (.queueSend thread) _ about (by simp)]
      refine thread_post_follows s thread id other conn next _ _ found there (fun different => ?_) fun same => ?_
      · simp [sending, ThreadPc.on, different]
      · simp [View.step, see, sending, ThreadPc.on, same]
  | queueShutdown thread other next stored there =>
      have about : s.target (.queueShutdown thread) = some (other, .queueShutdown thread) := by simp [target, stored]
      rw [life_label_other s id other (.queueShutdown thread) _ about (by simp)]
      refine thread_post_follows s thread id other conn next _ _ found there (fun different => ?_) fun same => ?_
      · simp [stored, ThreadPc.on, different]
      · simp [View.step, see, stored, ThreadPc.on, same]
  | storeDisconnecting thread other next shutting there =>
      have about : s.target (.storeDisconnecting thread) = some (other, .storeDisconnecting thread) := by
        simp [target, shutting]
      rw [life_label_other s id other (.storeDisconnecting thread) _ about (by simp)]
      exact store_follows s id other conn next thread found there shutting
  | overwrite thread cell data idle =>
      exact follows_quiet s _ id conn _ found rfl ⟨rfl, rfl, rfl, rfl, fun _ => rfl, fun _ => rfl⟩
  | release thread cell idle =>
      exact follows_quiet s _ id conn _ found rfl ⟨rfl, rfl, rfl, rfl, fun _ => rfl, fun _ => rfl⟩
  | destroy phase todo =>
      exact follows_quiet s _ id conn _ found rfl ⟨rfl, rfl, rfl, rfl, fun _ => rfl, fun _ => rfl⟩
  | destroyHere other next t there destroying todo mapped main called =>
      rw [life_label_other s id other (.destroyConnection other) .destroy rfl (by simp)]
      exact destroy_here_follows s id other conn next t home found there destroying todo mapped main called
  | destroyThere other next there destroying todo mapped away =>
      rw [life_label_other s id other (.destroyConnection other) .destroy rfl (by simp)]
      exact destroy_there_follows s id other conn next home found there mapped away

end System

end Cmuduo.Net
