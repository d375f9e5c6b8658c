import Cmuduo.Net.Server.Moves
import Cmuduo.Net.Server.Simulation

set_option autoImplicit false

namespace Cmuduo.Net

open Base Machine

def Label.Serving : Label → Prop
  | .destroy | .destroyConnection _ => False
  | _ => True

instance (label : Label) : Decidable label.Serving := by
  unfold Label.Serving
  split <;> infer_instance

-- The label that a call of the user, or of the server's destructor, comes from.
def Label.Origin (id : ConnId) (life : LifeLabel) (label : Label) : Prop :=
  match life with
  | .userSend data => ∃ l, label = .userSend l id data
  | .userShutdown => ∃ l, label = .userShutdown l id
  | .send thread _ => ∃ cell, label = .send thread id cell
  | .shutdown thread => label = .shutdown thread id
  | .destroy => label = .destroyConnection id
  | _ => True

namespace System

theorem target_origin (s : System) (label : Label) (id : ConnId) (life : LifeLabel)
    (about : s.target label = some (id, life)) : label.Origin id life := by
  cases label with
  | send thread other cell =>
      obtain ⟨text, -, same⟩ := Option.map_eq_some_iff.mp about
      cases same
      exact ⟨cell, rfl⟩
  | functor l answer =>
      simp only [target] at about
      split at about
      · simp only [Option.some.injEq, Prod.mk.injEq] at about
        split at about <;> exact about.2 ▸ trivial
      · cases about
  | _ => grind [target, Label.Origin]

theorem serving_target (s : System) (label : Label) (id : ConnId) (life : LifeLabel) (serving : label.Serving)
    (about : s.target label = some (id, life)) : life ≠ .destroy := by
  rintro rfl
  have origin := s.target_origin label id _ about
  subst origin
  exact serving

def Fresh (v : View) : Prop :=
  ∃ name loop sockfd writeComplete highWater mark,
    v = .accepted (loop == mainLoop) (.new name loop (.new sockfd writeComplete highWater mark))

theorem set_conn_unseen (s : System) (id other : ConnId) (conn next : Connection) (unseen : s.conns id = none)
    (there : s.conns other = some next) : Function.update s.conns other (some conn) id = none := by
  have different : id ≠ other := by
    rintro rfl
    rw [unseen] at there
    cases there
  rw [Function.update_of_ne different, unseen]

theorem conn_untouched (s t : System) (l : LoopId) (id other : ConnId) (task : Task) (rest : List Job) (answer : Answer)
    (unseen : s.conns id = none) (taken : s.call l other task rest answer = some t) : t.conns id = none := by
  obtain ⟨next, effect, there, -, rfl⟩ := call_outcome s t l other task rest answer taken
  rw [apply_conns]
  exact set_conn_unseen s id other _ next unseen there

theorem tasks_of_unseen (s : System) (l : LoopId) (id : ConnId) (home : Home s) (unseen : s.conns id = none) :
    tasksOf id (s.loops l).todo = [] ∧ tasksOf id (s.loops l).queue.contents = [] ∧
    masksOf id (s.loops l).active = [] := by
  have nowhere : s.loopOf id = none := by rw [loopOf, unseen, Option.map_none]
  refine ⟨?_, ?_, ?_⟩
  · refine List.eq_nil_iff_forall_not_mem.mpr fun task member => ?_
    have placed := (home.loops l).todo id task ((mem_tasks_of id task _).mp member)
    rw [nowhere] at placed
    cases placed
  · refine List.eq_nil_iff_forall_not_mem.mpr fun task member => ?_
    rcases (home.loops l).queue id task ((mem_tasks_of id task _).mp member) with placed | ⟨-, -, placed⟩
    · rw [nowhere] at placed
      cases placed
    · rw [nowhere] at placed
      cases placed
  · exact masks_of_unplaced s l id home (by simp [nowhere])

theorem new_connection_view (s : System) (ioLoop : LoopId) (tcp : TcpConnection) (home : Home s) :
    (s.newConnection ioLoop tcp).view s.nextConnId =
      some (.accepted (ioLoop == mainLoop) (.new (connName s.name s.listen s.nextConnId) ioLoop tcp)) := by
  have nowhere := fun l => tasks_of_unseen s l s.nextConnId home (fresh_conn s home)
  have silent : ∀ thread, (s.threads thread).on s.nextConnId = .none := by
    intro thread
    by_contra some
    have known := home.threads thread s.nextConnId some
    rw [loopOf, fresh_conn s home] at known
    cases known
  by_cases main : ioLoop = mainLoop
  · simp [newConnection, main, view, setConn, setMap, see, View.accepted, Connection.new, nowhere, silent]
  · simp [newConnection, main, view, setConn, setMap, see, View.accepted, Connection.new, nowhere, silent, Ne.symm main]

theorem user_call_unseen (s t : System) (l : LoopId) (id other : ConnId) (task : Task) (store : Connection → Connection)
    (unseen : s.conns id = none) (taken : s.userCall l other task store = some t) : t.conns id = none := by
  cases user_call_outcome s t l other task store taken with
  | passes rest next todo there => exact set_conn_unseen s id other _ next unseen there
  | ignored => exact unseen

theorem thread_call_unseen (s t : System) (thread : ThreadId) (id other : ConnId) (pc : ThreadPc)
    (store : Connection → Connection) (unseen : s.conns id = none)
    (taken : s.threadCall thread other pc store = some t) : t.conns id = none := by
  cases thread_call_outcome s t thread other pc store taken with
  | passes next idle there => exact set_conn_unseen s id other _ next unseen there
  | ignored => exact unseen

theorem step_creates (s t : System) (label : Label) (id : ConnId) (v : View) (home : Home s) (unseen : s.conns id = none)
    (taken : s.step label = some t) (seen : t.view id = some v) : Fresh v := by
  have still : t.conns id ≠ none := by
    intro gone
    rw [view, gone] at seen
    cases seen
  cases step_takes s t label taken with
  | accept sockfd ioLoop writeComplete highWater mark phase todo room =>
      by_cases new : id = s.nextConnId
      · rw [new, new_connection_view s ioLoop _ home, Option.some.injEq] at seen
        exact ⟨_, ioLoop, sockfd, writeComplete, highWater, mark, seen.symm⟩
      · refine absurd ?_ still
        simp only [newConnection]
        split <;> simp [setConn, new, unseen]
  | functor l answer other task rest t phase todo next called =>
      exact absurd (conn_untouched (s.takeFunctor l) t l id other task _ answer unseen called) still
  | exec l answer other task rest t todo called =>
      exact absurd (conn_untouched s t l id other task rest answer unseen called) still
  | userSend l other data t called => exact absurd (user_call_unseen s t l id other _ _ unseen called) still
  | userShutdown l other t called => exact absurd (user_call_unseen s t l id other _ _ unseen called) still
  | send thread other cell text t held called =>
      exact absurd (thread_call_unseen s t thread id other _ _ unseen called) still
  | shutdown thread other t called => exact absurd (thread_call_unseen s t thread id other _ _ unseen called) still
  | storeDisconnecting thread other conn shutting found => exact absurd (set_conn_unseen s id _ _ conn unseen found) still
  | destroyHere other conn t found destroying todo mapped main called =>
      exact absurd (conn_untouched (s.setMap conn.name none) t mainLoop id other _ _ _ unseen called) still
  | _ => exact absurd unseen still

def Guards (guard : ConnId → View → LifeLabel → Prop) (s : System) (label : Label) : Prop :=
  match s.target label with
  | some (id, life) =>
      match s.view id with
      | some v => guard id v life
      | none => True
  | none => True

instance (guard : ConnId → View → LifeLabel → Prop) [∀ id v life, Decidable (guard id v life)] (s : System) (label : Label) :
    Decidable (s.Guards guard label) := by
  unfold Guards
  split
  · split <;> infer_instance
  · infer_instance

section
variable (guard : ConnId → View → LifeLabel → Prop) (inv : ConnId → View → Prop)

theorem guards_target (domain : LifeLabel → Prop) (s : System) (label : Label)
    (fits : ∀ id life, s.target label = some (id, life) → domain life) : s.Guards (fun _ _ => domain) label := by
  cases targeted : s.target label with
  | none => simp [Guards, targeted]
  | some pair =>
      obtain ⟨id, life⟩ := pair
      cases seen : s.view id with
      | none => simp [Guards, targeted, seen]
      | some v => simpa [Guards, targeted, seen] using fits id life targeted

theorem guards_and (also : ConnId → View → LifeLabel → Prop) (s : System) (label : Label)
    (allowed : s.Guards guard label) (more : s.Guards also label) :
    s.Guards (fun id v life => also id v life ∧ guard id v life) label := by
  cases targeted : s.target label with
  | none => simp [Guards, targeted]
  | some pair =>
      obtain ⟨id, life⟩ := pair
      cases seen : s.view id with
      | none => simp [Guards, targeted, seen]
      | some v =>
          simp only [Guards, targeted, seen] at allowed more ⊢
          exact ⟨more, allowed⟩

theorem guards_life (s : System) (label : Label) (id : ConnId) (v : View) (life : LifeLabel)
    (polls : ∀ id v revents, guard id v (.poll revents)) (allowed : s.Guards guard label) (seen : s.view id = some v)
    (about : s.lifeLabel id label = some life) : guard id v life := by
  cases label with
  | poll l active =>
      simp only [lifeLabel, Option.ite_none_right_eq_some] at about
      obtain ⟨revents, -, rfl⟩ := Option.map_eq_some_iff.mp about.2
      exact polls id v revents
  | _ =>
      simp only [lifeLabel] at about
      split at about
      · next other seenLife targeted =>
          simp only [Option.ite_none_right_eq_some, Option.some.injEq] at about
          obtain ⟨rfl, rfl⟩ := about
          simpa only [Guards, targeted, seen] using allowed
      · cases about

-- A connection stays, and either is left alone by a step of the server or takes
-- an allowed step of its own.
theorem step_view (s t : System) (label : Label) (id : ConnId) (v : View)
    (polls : ∀ id v revents, guard id v (.poll revents)) (home : Home s) (allowed : s.Guards guard label)
    (taken : s.step label = some t) (seen : s.view id = some v) :
    ∃ w, t.view id = some w ∧ (w = v ∨ ∃ life, guard id v life ∧ View.Moves v life w) := by
  cases found : s.conns id with
  | none => simp [view, found] at seen
  | some conn =>
      have follows := step_follows s t label id conn home found taken
      have same := (view_found s id conn found).symm.trans seen
      cases about : s.lifeLabel id label with
      | none =>
          rw [about] at follows
          exact ⟨v, follows.trans seen, .inl rfl⟩
      | some life =>
          rw [about] at follows
          obtain ⟨next, moved, after⟩ := follows
          rw [Option.some.injEq] at same
          rw [same] at moved
          exact ⟨next, after, .inr ⟨life, guards_life guard s label id v life polls allowed seen about,
            View.step_moves v next life moved⟩⟩

theorem target_life (s : System) (label : Label) (id : ConnId) (life : LifeLabel) (about : s.target label = some (id, life)) :
    s.lifeLabel id label = some life := by
  cases label with
  | poll l active => cases about
  | _ => simp [lifeLabel, about]

-- What one step does to every connection it does, allowed or not, to the one it
-- is about; so it is as it should be exactly if the guard allows the step.
theorem step_relates_iff (relates : View → View → Prop) (same : ∀ v, relates v v)
    (enough : ∀ id v w life, inv id v → guard id v life → View.Moves v life w → relates v w)
    (needed : ∀ id v w life, inv id v → v.step life = some w → relates v w → guard id v life)
    (polls : ∀ id v revents, guard id v (.poll revents)) (s t : System) (label : Label) (home : Home s)
    (held : ∀ id v, s.view id = some v → inv id v) (taken : s.step label = some t) :
    (∀ id v, s.view id = some v → ∃ w, t.view id = some w ∧ relates v w) ↔ s.Guards guard label := by
  constructor
  · intro related
    cases targeted : s.target label with
    | none => simp [Guards, targeted]
    | some pair =>
        obtain ⟨id, life⟩ := pair
        cases found : s.conns id with
        | none => simp [Guards, targeted, view, found]
        | some conn =>
            have seen := view_found s id conn found
            have follows := step_follows s t label id conn home found taken
            rw [target_life s label id life targeted] at follows
            obtain ⟨next, moved, after⟩ := follows
            obtain ⟨w, there, good⟩ := related id _ seen
            obtain rfl := Option.some.inj (there.symm.trans after)
            simpa only [Guards, targeted, seen] using needed id _ w life (held id _ seen) moved good
  · intro allowed id v seen
    obtain ⟨w, after, moved⟩ := step_view guard s t label id v polls home allowed taken seen
    refine ⟨w, after, ?_⟩
    rcases moved with rfl | ⟨life, may, moves⟩
    · exact same w
    · exact enough id v w life (held id v seen) may moves

-- The induction over runs of the whole server, packaged for what is said of
-- each connection on its own.
theorem step_every_view (polls : ∀ id v revents, guard id v (.poll revents)) (created : ∀ id v, Fresh v → inv id v)
    (preserved : ∀ id v w life, inv id v → guard id v life → View.Moves v life w → inv id w)
    (s t : System) (label : Label) (home : Home s) (held : ∀ id v, s.view id = some v → inv id v)
    (allowed : s.Guards guard label) (taken : s.step label = some t) : ∀ id v, t.view id = some v → inv id v := by
  intro id w after
  cases before : s.view id with
  | none =>
      have unseen : s.conns id = none := by simpa [view] using before
      exact created id w (step_creates s t label id w home unseen taken after)
  | some v =>
      obtain ⟨next, seen, moved⟩ := step_view guard s t label id v polls home allowed taken before
      obtain rfl := Option.some.inj (after.symm.trans seen)
      rcases moved with rfl | ⟨life, may, moves⟩
      · exact held id w before
      · exact preserved id v w life (held id v before) may moves

def EveryView (s : System) : Prop := Home s ∧ ∀ id v, s.view id = some v → inv id v

theorem new_every_view (name : List Char) (listen : InetAddress) : EveryView inv (new name listen) :=
  ⟨new_home name listen, fun _ _ seen => by cases seen⟩

theorem every_view (polls : ∀ id v revents, guard id v (.poll revents)) (created : ∀ id v, Fresh v → inv id v)
    (preserved : ∀ id v w life, inv id v → guard id v life → View.Moves v life w → inv id w)
    (name : List Char) (listen : InetAddress) (labels : List Label) (s : System)
    (allowed : Guarded step (Guards guard) (new name listen) labels)
    (ran : run step (new name listen) labels = some s) : EveryView inv s :=
  guarded_invariant step (Guards guard) (EveryView inv)
    (fun s l t good allowed taken => ⟨step_home s t l good.1 taken,
      step_every_view guard inv polls created preserved s t l good.1 good.2 allowed taken⟩)
    _ s labels (new_every_view inv name listen) allowed ran

end

end System

end Cmuduo.Net
