import Cmuduo.Net.Server.Accepted
import Cmuduo.Net.Server.Calls

set_option autoImplicit false

namespace Cmuduo.Net

open Machine

namespace View

-- The tasks that a loop has still to run on a connection that is up: the
-- handlers of one dispatch, or connectDestroyed, whole or in part.
structure Up (v : View) : Prop where
  deregistered : v.conn.deregistered = false
  isOpen : v.conn.tcp.Open
  active : v.active = [] ∨ (∃ revents, v.active = [revents]) ∧ core v.todo = []
  todo : (core v.todo).Sublist [.handleClose, .handleRead, .handleWrite] ∨ core v.todo = [.connectDestroyed] ∨
    core v.todo = [.setDisconnected, .channelRemove] ∨
    core v.todo = [.channelRemove] ∧ v.conn.tcp.state ≠ .kConnected
  queue : OnlyDestroys v.queue

-- And on one that has been closed, where state_ and the mask keep the rest of
-- a dispatch and connectDestroyed from registering the channel again.
structure Down (v : View) : Prop where
  deregistered : v.conn.deregistered = true
  unregistered : Unregistered v.conn.tcp.channel v.conn.tcp.slot
  state : v.conn.tcp.state ≠ .kConnected
  active : v.active = []
  todo : (core v.todo).Sublist [.handleRead, .handleWrite] ∧ (core v.todo ≠ [] → v.conn.tcp.channel.isWriting = false) ∨
    core v.todo = [.connectDestroyed] ∨ core v.todo = [.channelRemove]
  queue : OnlyDestroys v.queue

structure Undisturbed (conn next : Connection) : Prop where
  deregistered : next.deregistered = true
  interest : next.tcp.slot.interest = none
  mask : next.tcp.channel.events = conn.tcp.channel.events
  wire : next.tcp.wire = conn.tcp.wire

theorem established_up (v : View) (established : Established v) : Up v := by
  obtain ⟨sockfd, writeComplete, highWater, mark, same⟩ := established.tcp
  refine ⟨established.deregistered, ?_, .inl established.active, .inl ?_, ?_⟩
  · rw [same]
    exact TcpConnection.established_open sockfd writeComplete highWater mark
  · rw [established.todo]
    exact List.nil_sublist _
  · intro task member _
    rw [established.queue, destruction] at member
    cases mapped : v.mapped with
    | true => simp [mapped] at member
    | false => simpa [mapped] using member

section
variable {read : Captured → Option CppString} {task : Task} {rest : List Task} {answer : Answer} {effect : Effect}

theorem up_exec (v : View) (up : Up v) (next : v.todo = task :: rest)
    (performs : Connection.Performs read v.conn task answer effect) :
    Up (v.apply rest effect) ∨ Down (v.apply rest effect) := by
  cases touching : task.touches with
  | false =>
      have same : core v.todo = core rest := by rw [next, core_aside task rest touching]
      obtain ⟨front, deregistered, queued⟩ := Connection.performs_aside performs touching
      obtain ⟨isOpen, state⟩ := Connection.aside_open performs touching up.isOpen
      have left : core (v.apply rest effect).todo = core v.todo := by rw [core_apply, front, same, core_nil, List.nil_append]
      refine .inl ⟨deregistered.trans up.deregistered, isOpen, ?_, ?_, only_destroys_append _ _ up.queue queued⟩
      · rw [left]
        exact up.active
      · rw [left]
        exact state ▸ up.todo
  | true =>
      have split : core v.todo = task :: core rest := by rw [next, core_touching task rest touching]
      have drained : v.active = [] := up.active.resolve_right fun busy => by simp [split] at busy
      have todo := up.todo
      rw [split] at todo
      cases performs with
      | handleClose answer tcp disabled =>
          obtain ⟨unregistered, events, state⟩ := v.conn.tcp.disable_all_registered tcp _ up.isOpen.registered disabled
          have after : (core rest).Sublist [.handleRead, .handleWrite] := by
            simpa using todo
          refine .inr ⟨rfl, unregistered, by simp [apply, Connection.plain, state], drained, .inl ?_,
            only_destroys_append _ _ up.queue only_destroys_nil⟩
          rw [core_apply]
          refine ⟨after, fun _ => ?_⟩
          simp [apply, Connection.plain, Channel.isWriting, events, KNoneEvent]
      | handleRead result outcome tcp received =>
          obtain ⟨⟨buffer, rfl⟩, -⟩ := v.conn.tcp.handle_read_input tcp result outcome received
          have after : (core rest).Sublist [.handleWrite] := by simpa [List.sublist_cons_iff] using todo
          refine .inl ⟨up.deregistered, ⟨up.isOpen.valid, up.isOpen.registered, up.isOpen.events⟩, .inl drained, .inl ?_,
            only_destroys_append _ _ up.queue only_destroys_nil⟩
          rw [core_apply]
          cases outcome with
          | close => exact (after.cons .handleRead).cons_cons .handleClose
          | message => exact (after.cons .handleRead).cons .handleClose
          | error => exact (after.cons .handleRead).cons .handleClose
      | handleWrite result tcp notices flushed =>
          have after : core rest = [] := by simpa [List.sublist_cons_iff] using todo
          obtain ⟨isOpen, -⟩ := v.conn.tcp.handle_write_open tcp result notices up.isOpen flushed
          refine .inl ⟨up.deregistered, isOpen, .inl drained, .inl ?_,
            only_destroys_append _ _ up.queue (only_destroys_notices notices)⟩
          rw [core_apply, after]
          exact List.nil_sublist _
      | connectDestroyed =>
          have after : core rest = [] := by simpa [List.sublist_cons_iff] using todo
          refine .inl ⟨up.deregistered, up.isOpen, .inl drained, .inr (.inr ?_),
            only_destroys_append _ _ up.queue only_destroys_nil⟩
          rw [core_apply, after]
          by_cases connected : v.conn.tcp.state = .kConnected
          · rw [if_pos connected]
            exact .inl rfl
          · rw [if_neg connected]
            exact .inr ⟨rfl, connected⟩
      | setDisconnected answer tcp disabled =>
          have after : core rest = [.channelRemove] := by simpa [List.sublist_cons_iff] using todo
          obtain ⟨unregistered, -, state⟩ := v.conn.tcp.disable_all_registered tcp _ up.isOpen.registered disabled
          refine .inr ⟨rfl, unregistered, by simp [apply, Connection.plain, state], drained, .inr (.inr ?_),
            only_destroys_append _ _ up.queue only_destroys_nil⟩
          rw [core_apply, after]
          rfl
      | channelRemove answer tcp removed =>
          obtain ⟨after, refused⟩ : core rest = [] ∧ v.conn.tcp.state ≠ .kConnected := by
            simpa [List.sublist_cons_iff] using todo
          obtain ⟨unregistered, -, state, -⟩ :=
            v.conn.tcp.channel_remove_unregistered tcp (.inl up.isOpen.registered) removed
          refine .inr ⟨rfl, unregistered, by simpa [apply, Connection.plain, state] using refused, drained, .inl ?_,
            only_destroys_append _ _ up.queue only_destroys_nil⟩
          rw [core_apply, after]
          exact ⟨List.nil_sublist _, fun some => absurd rfl some⟩
      | connectEstablished => simp [List.sublist_cons_iff] at todo
      | _ => cases touching

theorem down_exec (v : View) (down : Down v) (quiet : v.conn.Quiets read task answer) (next : v.todo = task :: rest)
    (performs : Connection.Performs read v.conn task answer effect) :
    Down (v.apply rest effect) ∧ Undisturbed v.conn effect.conn := by
  have absent : v.conn.tcp.slot.interest = none := down.unregistered.2
  cases touching : task.touches with
  | false =>
      have same : core v.todo = core rest := by rw [next, core_aside task rest touching]
      obtain ⟨front, deregistered, queued⟩ := Connection.performs_aside performs touching
      obtain ⟨channel, wire⟩ := Connection.aside_closed performs touching quiet
      have left : core (v.apply rest effect).todo = core v.todo := by rw [core_apply, front, same, core_nil, List.nil_append]
      refine ⟨⟨deregistered.trans down.deregistered, ?_, ?_, down.active, ?_, only_destroys_append _ _ down.queue queued⟩,
        deregistered.trans down.deregistered, channel.slot ▸ absent, by rw [channel.channel], wire⟩
      · change Unregistered effect.conn.tcp.channel effect.conn.tcp.slot
        rw [channel.channel, channel.slot]
        exact down.unregistered
      · exact channel.state ▸ down.state
      · rw [left]
        exact channel.channel ▸ down.todo
  | true =>
      have split : core v.todo = task :: core rest := by rw [next, core_touching task rest touching]
      have todo := down.todo
      rw [split] at todo
      cases performs with
      | handleRead result outcome tcp received =>
          obtain ⟨⟨buffer, rfl⟩, silent⟩ := v.conn.tcp.handle_read_input tcp result outcome received
          obtain ⟨after, off⟩ : (core rest).Sublist [.handleWrite] ∧ v.conn.tcp.channel.isWriting = false := by
            simpa [List.sublist_cons_iff] using todo
          refine ⟨⟨down.deregistered, down.unregistered, down.state, down.active, .inl ?_,
            only_destroys_append _ _ down.queue only_destroys_nil⟩, down.deregistered, absent, rfl, rfl⟩
          rw [core_apply]
          refine ⟨?_, fun _ => off⟩
          cases outcome with
          | close => exact absurd (silent rfl) quiet
          | message => exact after.cons .handleRead
          | error => exact after.cons .handleRead
      | handleWrite result tcp notices flushed =>
          obtain ⟨after, off⟩ : core rest = [] ∧ v.conn.tcp.channel.isWriting = false := by
            simpa [List.sublist_cons_iff] using todo
          rw [v.conn.tcp.handle_write_quiet tcp result notices off flushed]
          refine ⟨⟨down.deregistered, down.unregistered, down.state, down.active, .inl ?_,
            only_destroys_append _ _ down.queue (only_destroys_notices notices)⟩, down.deregistered, absent, rfl, rfl⟩
          rw [core_apply, after]
          exact ⟨List.nil_sublist _, fun some => absurd rfl some⟩
      | connectDestroyed =>
          have after : core rest = [] := by simpa [List.sublist_cons_iff] using todo
          refine ⟨⟨down.deregistered, down.unregistered, down.state, down.active, .inr (.inr ?_),
            only_destroys_append _ _ down.queue only_destroys_nil⟩, down.deregistered, absent, rfl, rfl⟩
          rw [core_apply, after, if_neg down.state]
          rfl
      | channelRemove answer tcp removed =>
          have after : core rest = [] := by simpa [List.sublist_cons_iff] using todo
          obtain ⟨unregistered, events, state, wire⟩ :=
            v.conn.tcp.channel_remove_unregistered tcp (.inr down.unregistered) removed
          refine ⟨⟨rfl, unregistered, fun connected => down.state (state.symm.trans connected), down.active, .inl ?_,
            only_destroys_append _ _ down.queue only_destroys_nil⟩, rfl, unregistered.2, events, wire⟩
          rw [core_apply, after]
          exact ⟨List.nil_sublist _, fun some => absurd rfl some⟩
      | handleClose => simp [List.sublist_cons_iff] at todo
      | setDisconnected => simp [List.sublist_cons_iff] at todo
      | connectEstablished => simp [List.sublist_cons_iff] at todo
      | _ => cases touching

end

theorem up_fetch (v : View) (task : Task) (queue : List Task) (up : Up v) (drained : v.active = [])
    (next : v.queue = task :: queue) : Up (v.fetch task queue) := by
  refine ⟨up.deregistered, up.isOpen, .inl drained, ?_, fun other member => up.queue other (next ▸ .tail task member)⟩
  cases touching : task.touches with
  | false => exact .inl (by simp [core, fetch, touching])
  | true => exact .inr (.inl (by simp [core, fetch, up.queue task (by simp [next]) touching, Task.touches]))

theorem down_fetch (v : View) (task : Task) (queue : List Task) (down : Down v) (next : v.queue = task :: queue) :
    Down (v.fetch task queue) := by
  refine ⟨down.deregistered, down.unregistered, down.state, down.active, ?_,
    fun other member => down.queue other (next ▸ .tail task member)⟩
  cases touching : task.touches with
  | false => exact .inl (by simp [core, fetch, touching])
  | true => exact .inr (.inl (by simp [core, fetch, down.queue task (by simp [next]) touching, Task.touches]))

theorem after_store (v : View) (up : Up v) :
    (core v.todo).Sublist [.handleClose, .handleRead, .handleWrite] ∨ core v.todo = [.connectDestroyed] ∨
      core v.todo = [.setDisconnected, .channelRemove] ∨
      core v.todo = [.channelRemove] ∧ (v.setState .kDisconnecting).conn.tcp.state ≠ .kConnected := by
  rcases up.todo with handlers | destroyed | whole | ⟨removing, -⟩
  · exact .inl handlers
  · exact .inr (.inl destroyed)
  · exact .inr (.inr (.inl whole))
  · exact .inr (.inr (.inr ⟨removing, StateE.noConfusion⟩))

theorem up_moves (v w : View) (life : LifeLabel) (up : Up v) (moves : Moves v life w) : Up w ∨ Down w := by
  cases moves with
  | poll revents drained idle registered =>
      refine .inl ⟨up.deregistered, up.isOpen, .inr ⟨⟨revents, rfl⟩, ?_⟩, up.todo, up.queue⟩
      simp [idle]
  | dispatch revents active idle next =>
      have last : active = [] := by
        rcases up.active with drained | ⟨⟨only, busy⟩, -⟩
        · cases next.symm.trans drained
        · exact (List.cons.inj (next.symm.trans busy)).2
      exact .inl ⟨up.deregistered, up.isOpen, .inl last, .inl ((dispatch_order revents).filter _), up.queue⟩
  | functor read answer task queue effect idle drained next performs =>
      exact up_exec _ (up_fetch v task queue up drained next) rfl performs
  | exec read answer task rest effect next performs => exact up_exec v up next performs
  | mainFunctor main next =>
      exact .inl ⟨up.deregistered, up.isOpen, up.active, up.todo, only_destroys_append _ _ up.queue (only_destroys_single _ fun _ => rfl)⟩
  | ignored life published refused => exact .inl up
  | userSend data published connected => exact .inl ⟨up.deregistered, up.isOpen, up.active, up.todo, up.queue⟩
  | userShutdown published connected =>
      exact .inl ⟨up.deregistered, up.isOpen.set_state _, up.active, after_store v up, up.queue⟩
  | send thread data calling published connected => exact .inl ⟨up.deregistered, up.isOpen, up.active, up.todo, up.queue⟩
  | queueSend thread data calling =>
      exact .inl ⟨up.deregistered, up.isOpen, up.active, up.todo,
        only_destroys_append _ _ up.queue (only_destroys_single _ fun touching => by cases touching)⟩
  | shutdown thread calling published connected => exact .inl ⟨up.deregistered, up.isOpen, up.active, up.todo, up.queue⟩
  | storeDisconnecting thread calling =>
      exact .inl ⟨up.deregistered, up.isOpen.set_state _, up.active, after_store v up, up.queue⟩
  | queueShutdown thread calling =>
      exact .inl ⟨up.deregistered, up.isOpen, up.active, up.todo,
        only_destroys_append _ _ up.queue (only_destroys_single _ fun touching => by cases touching)⟩
  | destroyHere effect mapped shared idle drained performs =>
      have fetched : Up ({ v with mapped := false }.fetch .connectDestroyed v.queue) :=
        ⟨up.deregistered, up.isOpen, .inl drained, .inr (.inl rfl), up.queue⟩
      exact up_exec _ fetched rfl performs
  | destroyThere mapped away =>
      exact .inl ⟨up.deregistered, up.isOpen, up.active, up.todo,
        only_destroys_append _ _ up.queue (only_destroys_single _ fun _ => rfl)⟩

-- On a connection already closed, no handleRead reads 0 and no sendInLoop sends
-- anything.
def QuietWhenClosed (v : View) : LifeLabel → Prop
  | .functor read answer => v.conn.deregistered = true → ∀ task ∈ v.queue.head?, v.conn.Quiets read task answer
  | .exec read answer => v.conn.deregistered = true → ∀ task ∈ v.todo.head?, v.conn.Quiets read task answer
  | _ => True

instance (v : View) : (life : LifeLabel) → Decidable (v.QuietWhenClosed life)
  | .functor read answer =>
      inferInstanceAs (Decidable (v.conn.deregistered = true → ∀ task ∈ v.queue.head?, v.conn.Quiets read task answer))
  | .exec read answer =>
      inferInstanceAs (Decidable (v.conn.deregistered = true → ∀ task ∈ v.todo.head?, v.conn.Quiets read task answer))
  | .poll _ | .dispatch | .mainFunctor | .userSend _ | .userShutdown | .send .. | .queueSend _ | .shutdown _
  | .storeDisconnecting _ | .queueShutdown _ | .destroy => .isTrue trivial

theorem undisturbed_refl (v : View) (down : Down v) : Undisturbed v.conn v.conn :=
  ⟨down.deregistered, down.unregistered.2, rfl, rfl⟩

theorem down_moves (v w : View) (life : LifeLabel) (down : Down v) (quiet : QuietWhenClosed v life)
    (moves : Moves v life w) : Down w ∧ Undisturbed v.conn w.conn := by
  have still : Undisturbed v.conn v.conn := undisturbed_refl v down
  cases moves with
  | poll revents drained idle registered =>
      rw [down.unregistered.2] at registered
      cases registered
  | dispatch revents active idle next => cases next.symm.trans down.active
  | functor read answer task queue effect idle drained next performs =>
      exact down_exec _ (down_fetch v task queue down next)
        (quiet down.deregistered task (by simp [next])) rfl performs
  | exec read answer task rest effect next performs =>
      exact down_exec v down (quiet down.deregistered task (by simp [next])) next performs
  | mainFunctor main next =>
      exact ⟨⟨down.deregistered, down.unregistered, down.state, down.active, down.todo,
        only_destroys_append _ _ down.queue (only_destroys_single _ fun _ => rfl)⟩, still⟩
  | ignored life published refused => exact ⟨down, still⟩
  | userSend data published connected => exact absurd connected down.state
  | userShutdown published connected => exact absurd connected down.state
  | send thread data calling published connected => exact absurd connected down.state
  | queueSend thread data calling =>
      exact ⟨⟨down.deregistered, down.unregistered, down.state, down.active, down.todo,
        only_destroys_append _ _ down.queue (only_destroys_single _ fun touching => by cases touching)⟩, still⟩
  | shutdown thread calling published connected => exact absurd connected down.state
  | storeDisconnecting thread calling =>
      exact ⟨⟨down.deregistered, down.unregistered, StateE.noConfusion, down.active, down.todo, down.queue⟩,
        down.deregistered, down.unregistered.2, rfl, rfl⟩
  | queueShutdown thread calling =>
      exact ⟨⟨down.deregistered, down.unregistered, down.state, down.active, down.todo,
        only_destroys_append _ _ down.queue (only_destroys_single _ fun touching => by cases touching)⟩, still⟩
  | destroyHere effect mapped shared idle drained performs =>
      have fetched : Down ({ v with mapped := false }.fetch .connectDestroyed v.queue) :=
        ⟨down.deregistered, down.unregistered, down.state, drained, .inr (.inl rfl), down.queue⟩
      have silent : v.conn.Quiets (fun _ => none) .connectDestroyed .none := trivial
      exact down_exec _ fetched silent rfl performs
  | destroyThere mapped away =>
      exact ⟨⟨down.deregistered, down.unregistered, down.state, down.active, down.todo,
        only_destroys_append _ _ down.queue (only_destroys_single _ fun _ => rfl)⟩, still⟩

inductive Kept (v : View) : Prop where
  | accepted (accepted : Accepted v)
  | up (up : Up v)
  | down (down : Down v)

theorem kept_deregistered (v : View) (kept : Kept v) (gone : v.conn.deregistered = true) : Down v := by
  cases kept with
  | accepted accepted => cases gone.symm.trans accepted.deregistered
  | up up => cases gone.symm.trans up.deregistered
  | down down => exact down

theorem kept_moves (v w : View) (life : LifeLabel) (kept : Kept v) (quiet : QuietWhenClosed v life)
    (moves : Moves v life w) : Kept w := by
  cases kept with
  | accepted accepted =>
      rcases (accepted_moves v w life accepted moves).1 with still | established
      · exact .accepted still
      · exact .up (established_up w established)
  | up up =>
      rcases up_moves v w life up moves with still | down
      · exact .up still
      · exact .down down
  | down down => exact .down (down_moves v w life down quiet moves).1

end View

namespace System

-- A step leaves every connection that is deregistered out of the interest set,
-- with the mask it had, and puts nothing on its socket.
structure NoResurrection (s t : System) : Prop where
  deregistered : ∀ id next, t.conns id = some next → next.deregistered = true → next.tcp.slot.interest = none
  stays : ∀ id conn, s.conns id = some conn → conn.deregistered = true →
    ∃ next, t.conns id = some next ∧ View.Undisturbed conn next

def QuietWhenClosed (s : System) (label : Label) : Prop := s.Guards (fun _ => View.QuietWhenClosed) label

instance (s : System) (label : Label) : Decidable (s.QuietWhenClosed label) :=
  inferInstanceAs (Decidable (s.Guards _ label))

theorem step_no_resurrection (s t : System) (label : Label) (inv : EveryView (fun _ => View.Kept) s)
    (quiet : s.QuietWhenClosed label) (taken : s.step label = some t) :
    EveryView (fun _ => View.Kept) t ∧ NoResurrection s t := by
  have after : EveryView (fun _ => View.Kept) t :=
    ⟨step_home s t label inv.1 taken, step_every_view (fun _ => View.QuietWhenClosed) (fun _ => View.Kept)
      (fun _ _ _ => trivial) (fun _ v fresh => .accepted (View.fresh_accepted v fresh))
      (fun _ => View.kept_moves) s t label inv.1 inv.2 quiet taken⟩
  refine ⟨after, ⟨fun id next found gone => ?_, fun id conn found gone => ?_⟩⟩
  · have kept := after.2 id _ (view_found t id next found)
    exact (View.kept_deregistered _ kept gone).unregistered.2
  · have seen := view_found s id conn found
    have down := View.kept_deregistered _ (inv.2 id _ seen) gone
    obtain ⟨w, there, moved⟩ := step_view (fun _ => View.QuietWhenClosed) s t label id _ (fun _ _ _ => trivial) inv.1
      quiet taken seen
    refine ⟨w.conn, view_conn t id w there, ?_⟩
    rcases moved with rfl | ⟨life, may, moves⟩
    · exact View.undisturbed_refl _ down
    · exact (View.down_moves _ w life down may moves).2

end System

theorem no_resurrection (name : List Char) (listen : Base.InetAddress) (labels : List Label)
    (quiet : Guarded System.step System.QuietWhenClosed (.new name listen) labels) :
    Across System.step System.NoResurrection (.new name listen) labels :=
  guarded_across System.step System.QuietWhenClosed (System.EveryView fun _ => View.Kept) System.NoResurrection
    (fun s l t => System.step_no_resurrection s t l) _ labels (System.new_every_view _ name listen) quiet

theorem no_resurrection_broken_pipe :
    (run System.step listening (closesBeforeSend ++ [.functor 1 (.write (.error .EPIPE))])).isSome ∧
    Across System.step System.NoResurrection listening (closesBeforeSend ++ [.functor 1 (.write (.error .EPIPE))]) :=
  ⟨by decide +kernel, no_resurrection _ _ _ (by decide +kernel)⟩

-- When the kernel takes one of the two bytes instead, the closed connection is
-- registered for writing.
theorem channel_resurrected :
    outcome (closesBeforeSend ++ [.functor 1 (.write (.room 1))])
      (fun _ conn => (conn.deregistered, conn.tcp.slot.interest, conn.tcp.wire)) =
        some (true, some (EPOLLOUT, ()), [65]) ∧
    ¬Across System.step System.NoResurrection listening (closesBeforeSend ++ [.functor 1 (.write (.room 1))]) := by
  have resurrected : outcome (closesBeforeSend ++ [.functor 1 (.write (.room 1))])
      (fun _ conn => (conn.deregistered, conn.tcp.slot.interest, conn.tcp.wire)) =
        some (true, some (EPOLLOUT, ()), [65]) := by decide +kernel
  refine ⟨resurrected, fun across => ?_⟩
  obtain ⟨t, conn, ran, found, facts⟩ := outcome_found _ _ _ resurrected
  obtain ⟨gone, armed⟩ := Prod.mk.inj facts
  obtain ⟨s, front, last⟩ := (run_append _ _ _ _ _).mp ran
  obtain ⟨next, taken, stop⟩ := (run_cons _ _ _ _ _).mp last
  cases stop
  have absent := (across_step _ _ _ s t _ [] _ across front taken).deregistered 1 conn found gone
  rw [(Prod.mk.inj armed).1] at absent
  cases absent

end Cmuduo.Net
