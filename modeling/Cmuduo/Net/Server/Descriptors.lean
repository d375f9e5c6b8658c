import Cmuduo.Net.Server.PollerCalls
import Cmuduo.Net.Server.Settled

set_option autoImplicit false

namespace Cmuduo.Net

open Machine

namespace View

theorem entry_owned (v : View) (settles : Settles v) (entry : v.conn.tcp.slot ≠ Slot.empty) : Owned v := by
  rcases settles with ⟨-, mapped⟩ | settling
  · exact .inl mapped
  · cases slot : v.conn.tcp.slot with
    | mk channels interest =>
        cases channels with
        | some name => exact settling.cleared (by rw [slot]; rfl)
        | none =>
            cases interest with
            | some registration => exact settling.owned (.inl (by rw [slot]; rfl))
            | none => exact absurd slot entry

theorem polling_owned (v : View) (settles : Settles v) (task : Task) (next : Connection)
    (member : task ∈ v.todo ∨ task ∈ v.queue) (polls : v.conn.pollerCall next task ≠ none) : Owned v := by
  rcases settles with ⟨-, mapped⟩ | settling
  · exact .inl mapped
  · rcases member with todo | queued
    · refine settling.owned (.inr (.inr ⟨task, todo, ?_⟩))
      cases task with
      | notice notice => exact absurd rfl polls
      | _ => rfl
    · rcases settling.queue task queued with rfl | ⟨notice, rfl⟩
      · exact absurd rfl polls
      · exact absurd rfl polls

theorem notice_owned (v : View) (notice : Notice) (rest queue : List Task) (read : Captured → Option CppString)
    (answer : Answer) (effect : Effect) (performs : Connection.Performs read v.conn (.notice notice) answer effect)
    (fewer : ∀ task ∈ rest ++ queue, task ∈ v.todo ++ v.queue) (owned : Owned ({ v with queue := queue }.apply rest effect)) :
    Owned v := by
  cases performs
  rcases owned with mapped | ⟨task, member, owns⟩
  · exact .inl (by simpa [apply, Connection.plain] using mapped)
  · refine .inr ⟨task, ?_, owns⟩
    simp only [everywhere, apply, Connection.plain, Bool.false_and, Bool.false_eq_true, if_false, List.nil_append,
      List.append_nil, List.append_assoc, List.mem_append] at member
    rcases member with todo | queued | main
    · exact List.mem_append_left _ (fewer task (List.mem_append_left _ todo))
    · exact List.mem_append_left _ (fewer task (List.mem_append_right _ queued))
    · exact List.mem_append_right _ main

-- What nothing of the server points to, nothing of it will point to again.
theorem owned_moves (v w : View) (life : LifeLabel) (settles : Settles v) (onLoop : OnLoop life) (moves : Moves v life w)
    (owned : Owned w) : Owned v := by
  rcases settles with ⟨-, mapped⟩ | settling
  · exact .inl mapped
  · have connected : v.conn.tcp.state = .kConnected → Owned v := fun connected =>
      .inl (settling.mapped (by rw [connected]; exact StateE.noConfusion))
    cases moves with
    | poll revents drained idle registered => exact owned
    | dispatch revents active idle next => exact settling.owned (.inr (.inl (by simp [next])))
    | functor read answer task queue effect idle drained next performs =>
        rcases settling.queue task (by simp [next]) with rfl | ⟨notice, rfl⟩
        · exact .inr ⟨.connectDestroyed, by simp [everywhere, next], rfl⟩
        · refine notice_owned v notice [] queue read answer effect performs (fun other member => ?_) owned
          rw [next]
          exact List.mem_append_right _ (List.mem_cons_of_mem _ member)
    | exec read answer task rest effect next performs =>
        cases works : task.works with
        | true => exact settling.owned (.inr (.inr ⟨task, by simp [next], works⟩))
        | false =>
            cases task with
            | notice notice =>
                refine notice_owned v notice rest v.queue read answer effect performs (fun other member => ?_) owned
                rw [next]
                exact List.mem_cons_of_mem _ member
            | _ => cases works
    | mainFunctor main next => exact .inr ⟨.removeConnectionInLoop, by simp [everywhere, next], rfl⟩
    | ignored life published refused => exact owned
    | userSend data published up => exact connected up
    | userShutdown published up => exact connected up
    | send => exact onLoop.elim
    | shutdown => exact onLoop.elim
    | queueSend thread data calling => cases (settling.calls thread).symm.trans calling
    | storeDisconnecting thread calling => cases (settling.calls thread).symm.trans calling
    | queueShutdown thread calling => cases (settling.calls thread).symm.trans calling
    | destroyHere => exact onLoop.elim
    | destroyThere => exact onLoop.elim

end View

namespace System

-- The call of a connection that a step runs.
def running (s : System) : Label → Option (ConnId × Task)
  | .functor l _ =>
      match (s.loops l).queue.batch with
      | .task id task :: _ => some (id, task)
      | _ => none
  | .exec l _ =>
      match (s.loops l).todo with
      | .task id task :: _ => some (id, task)
      | _ => none
  | _ => none

-- ::accept4 returns no descriptor that is open, and a connection's is closed
-- only when nothing of the server points to the connection any more.
def FreshDescriptor (s : System) : Label → Prop
  | .accept sockfd _ _ _ _ => ∀ id < s.nextConnId, ∀ v ∈ s.view id, v.Owned → v.conn.tcp.channel.fd ≠ sockfd
  | _ => True

instance (v : View) : Decidable v.Owned := inferInstanceAs (Decidable (_ ∨ _))

instance (s : System) : (label : Label) → Decidable (s.FreshDescriptor label)
  | .accept .. => inferInstanceAs (Decidable (∀ id < _, ∀ v ∈ s.view id, v.Owned → _))
  | .poll .. | .dispatch _ | .otherChannel _ | .swap _ | .functor .. | .exec .. | .userReturns _ | .iterate _ | .userSend ..
  | .userShutdown .. | .queueUser _ | .send .. | .queueSend _ | .shutdown .. | .storeDisconnecting _ | .queueShutdown _
  | .overwrite .. | .release .. | .destroy | .destroyConnection _ => .isTrue trivial

def acceptedDescriptor : Label → Option Nat
  | .accept sockfd _ _ _ _ => some sockfd
  | _ => none

-- What a connection has to do with pollers.
structure SameEntry (conn next : Connection) : Prop where
  loop : next.loop = conn.loop
  channel : next.tcp.channel = conn.tcp.channel
  slot : next.tcp.slot = conn.tcp.slot

structure Undisturbing (s t : System) (label : Label) : Prop where
  kept : ∀ id conn, s.conns id = some conn → ∃ next, t.conns id = some next ∧ SameEntry conn next
  created : ∀ id next, s.conns id = none → t.conns id = some next →
    id = s.nextConnId ∧ acceptedDescriptor label = some next.tcp.channel.fd ∧ next.tcp.slot = Slot.empty

theorem undisturbing_conns (s t : System) (label : Label) (same : t.conns = s.conns) : Undisturbing s t label := by
  refine ⟨fun id conn found => ⟨conn, same ▸ found, rfl, rfl, rfl⟩, fun id next unseen found => ?_⟩
  rw [same, unseen] at found
  cases found

theorem undisturbing_set (s t : System) (label : Label) (id : ConnId) (conn next : Connection)
    (found : s.conns id = some conn) (same : SameEntry conn next)
    (set : t.conns = Function.update s.conns id (some next)) : Undisturbing s t label := by
  refine ⟨fun other old there => ?_, fun other fresh unseen there => ?_⟩
  · rw [set]
    by_cases here : other = id
    · subst here
      obtain rfl := Option.some.inj (there.symm.trans found)
      exact ⟨next, Function.update_self _ _ _, same⟩
    · exact ⟨old, (Function.update_of_ne here _ _).trans there, rfl, rfl, rfl⟩
  · rw [set, set_conn_unseen s other id next conn unseen found] at there
    cases there

theorem user_call_undisturbing (s t : System) (label : Label) (l : LoopId) (id : ConnId) (task : Task)
    (store : Connection → Connection) (same : ∀ conn, SameEntry conn (store conn))
    (taken : s.userCall l id task store = some t) : Undisturbing s t label := by
  cases user_call_outcome s t l id task store taken with
  | passes rest conn todo found => exact undisturbing_set s _ label id conn _ found (same conn) rfl
  | ignored => exact undisturbing_conns s s label rfl

theorem new_connection_conns (s : System) (ioLoop : LoopId) (tcp : TcpConnection) :
    (s.newConnection ioLoop tcp).conns =
      Function.update s.conns s.nextConnId (some (.new (connName s.name s.listen s.nextConnId) ioLoop tcp)) := by
  rw [newConnection]
  split <;> rfl

theorem accept_undisturbing (s : System) (sockfd : Nat) (ioLoop : LoopId) (writeComplete highWater : Bool) (mark : Nat)
    (home : Home s) :
    Undisturbing s (s.newConnection ioLoop (.new sockfd writeComplete highWater mark))
      (.accept sockfd ioLoop writeComplete highWater mark) := by
  have conns := s.new_connection_conns ioLoop (.new sockfd writeComplete highWater mark)
  refine ⟨fun id conn found => ⟨conn, ?_, rfl, rfl, rfl⟩, fun id next unseen there => ?_⟩
  · have old : id ≠ s.nextConnId := Nat.ne_of_lt (home.named id conn found).1
    rw [conns, Function.update_of_ne old, found]
  · rw [conns, Function.update_apply] at there
    by_cases new : id = s.nextConnId
    · rw [if_pos new, Option.some.injEq] at there
      rw [← there]
      exact ⟨new, rfl, rfl⟩
    · rw [if_neg new, unseen] at there
      cases there

-- What a step is to the pollers: nothing, or one call of a connection.
inductive Acts (s t : System) (label : Label) : Option (ConnId × Task) → Prop where
  | nothing (undisturbing : Undisturbing s t label) : Acts s t label none
  | performs (id : ConnId) (conn : Connection) (task : Task) (answer : Answer) (effect : Effect)
      (found : s.conns id = some conn) (performs : Connection.Performs s.read conn task answer effect)
      (conns : t.conns = Function.update s.conns id (some effect.conn)) : Acts s t label (some (id, task))

theorem call_acts (s t : System) (label : Label) (l : LoopId) (id : ConnId) (task : Task) (rest : List Job)
    (answer : Answer) (taken : s.call l id task rest answer = some t) : Acts s t label (some (id, task)) := by
  obtain ⟨conn, effect, found, done, rfl⟩ := call_outcome s t l id task rest answer taken
  exact .performs id conn task answer effect found (Connection.perform_outcome _ _ _ _ _ done)
    (apply_conns s l id rest effect)

theorem step_acts (s t : System) (label : Label) (home : Home s) (onLoop : label.OnLoop) (taken : s.step label = some t) :
    Acts s t label (s.running label) := by
  cases step_takes s t label taken with
  | functor l answer id task rest t phase todo next called =>
      rw [running, next]
      cases call_acts (s.takeFunctor l) t (.functor l answer) l id task [] answer called with
      | performs _ conn _ answer effect found performs conns => exact .performs id conn task answer effect found performs conns
  | userFunctor l answer rest phase todo next =>
      rw [running, next]
      exact .nothing (undisturbing_conns s _ _ rfl)
  | exec l answer id task rest t todo called =>
      rw [running, todo]
      exact call_acts s t _ l id task rest answer called
  | accept sockfd ioLoop writeComplete highWater mark =>
      exact .nothing (s.accept_undisturbing sockfd ioLoop writeComplete highWater mark home)
  | userSend l id data t called => exact .nothing (user_call_undisturbing s t _ l id _ _ (fun _ => ⟨rfl, rfl, rfl⟩) called)
  | userShutdown l id t called =>
      exact .nothing (user_call_undisturbing s t _ l id .shutdownInLoop (setState · .kDisconnecting)
        (fun _ => ⟨rfl, rfl, rfl⟩) called)
  | storeDisconnecting thread id conn shutting found =>
      exact .nothing (undisturbing_set s _ _ id conn (setState conn .kDisconnecting) found ⟨rfl, rfl, rfl⟩ rfl)
  | send => exact onLoop.elim
  | shutdown => exact onLoop.elim
  | destroy => exact onLoop.elim
  | destroyHere => exact onLoop.elim
  | destroyThere => exact onLoop.elim
  | _ => exact .nothing (undisturbing_conns s _ _ rfl)

-- No other connection has an entry at its place.
def Alone (s : System) (id : ConnId) (conn : Connection) : Prop :=
  ∀ other next, s.conns other = some next → other ≠ id → next.loop = conn.loop →
    next.tcp.channel.fd = conn.tcp.channel.fd → next.tcp.slot = Slot.empty

def OneOwner (s : System) : Prop :=
  ∀ id other v w, s.view id = some v → s.view other = some w → v.Owned → w.Owned →
    v.conn.tcp.channel.fd = w.conn.tcp.channel.fd → id = other

structure Sharing (s : System) : Prop where
  settles : EveryView (fun _ => View.Settles) s
  oneOwner : OneOwner s

theorem polls_fd {channel after : Channel} {slot left : Slot Unit} {call : Option ChannelCall}
    (polls : Polls channel slot after left call) : after.fd = channel.fd := by
  cases polls with
  | leaves same => rw [same]
  | makes call fd done =>
      obtain ⟨index, rfl⟩ := on_slot_left call slot left after done
      exact fd

theorem acts_fd (s t : System) (label : Label) (acted : Option (ConnId × Task)) (id : ConnId) (conn next : Connection)
    (acts : Acts s t label acted) (found : s.conns id = some conn) (there : t.conns id = some next) :
    next.tcp.channel.fd = conn.tcp.channel.fd := by
  cases acts with
  | nothing undisturbing =>
      obtain ⟨after, still, entry⟩ := undisturbing.kept id conn found
      obtain rfl := Option.some.inj (there.symm.trans still)
      rw [entry.channel]
  | performs other actor task answer effect seen performs conns =>
      rw [conns, Function.update_apply] at there
      by_cases own : id = other
      · subst own
        rw [if_pos rfl, Option.some.injEq] at there
        obtain rfl := Option.some.inj (seen.symm.trans found)
        rw [← there]
        exact polls_fd (Connection.performs_polls performs)
      · rw [if_neg own] at there
        rw [Option.some.inj (there.symm.trans found)]

theorem acts_created (s t : System) (label : Label) (acted : Option (ConnId × Task)) (id : ConnId) (next : Connection)
    (acts : Acts s t label acted) (unseen : s.conns id = none) (there : t.conns id = some next) :
    id = s.nextConnId ∧ acceptedDescriptor label = some next.tcp.channel.fd := by
  cases acts with
  | nothing undisturbing =>
      obtain ⟨new, accepted, -⟩ := undisturbing.created id next unseen there
      exact ⟨new, accepted⟩
  | performs other actor task answer effect seen performs conns =>
      rw [conns, set_conn_unseen s id other _ actor unseen seen] at there
      cases there

-- A connection that is owned after a step has been so before, or is the one that
-- is accepted now.
theorem owned_before (s t : System) (label : Label) (id : ConnId) (w : View) (sharing : Sharing s) (onLoop : label.OnLoop)
    (taken : s.step label = some t) (seen : t.view id = some w) (owned : w.Owned) :
    (∃ v, s.view id = some v ∧ v.Owned ∧ w.conn.tcp.channel.fd = v.conn.tcp.channel.fd) ∨
      id = s.nextConnId ∧ acceptedDescriptor label = some w.conn.tcp.channel.fd := by
  have acts := step_acts s t label sharing.settles.1 onLoop taken
  have there := view_conn t id w seen
  cases found : s.conns id with
  | none => exact .inr (acts_created s t label _ id w.conn acts found there)
  | some conn =>
      have before := view_found s id conn found
      refine .inl ⟨_, before, ?_, acts_fd s t label _ id conn w.conn acts found there⟩
      obtain ⟨next, after, moved⟩ := step_view (fun _ _ => View.OnLoop) s t label id _ (fun _ _ _ => trivial)
        sharing.settles.1 (s.on_loop_guards label onLoop) taken before
      obtain rfl := Option.some.inj (seen.symm.trans after)
      rcases moved with rfl | ⟨life, may, moves⟩
      · exact owned
      · exact View.owned_moves _ w life (sharing.settles.2 id _ before) may moves owned

theorem step_one_owner (s t : System) (label : Label) (sharing : Sharing s) (onLoop : label.OnLoop)
    (fresh : FreshDescriptor s label) (taken : s.step label = some t) : OneOwner t := by
  have unused : ∀ id v fd, s.view id = some v → v.Owned → acceptedDescriptor label = some fd →
      v.conn.tcp.channel.fd ≠ fd := by
    intro id v fd seen owned accepted
    cases label with
    | accept sockfd ioLoop writeComplete highWater mark =>
        cases accepted
        exact fresh id (sharing.settles.1.named id v.conn (view_conn s id v seen)).1 v seen owned
    | _ => cases accepted
  intro id other v w here there owned alsoOwned same
  rcases owned_before s t label id v sharing onLoop taken here owned with ⟨first, seen, held, fd⟩ | ⟨new, accepted⟩
  · rcases owned_before s t label other w sharing onLoop taken there alsoOwned with
      ⟨second, alsoSeen, alsoHeld, alsoFd⟩ | ⟨alsoNew, alsoAccepted⟩
    · exact sharing.oneOwner id other first second seen alsoSeen held alsoHeld (fd.symm.trans (same.trans alsoFd))
    · exact absurd (fd.symm.trans same) (unused id first _ seen held alsoAccepted)
  · rcases owned_before s t label other w sharing onLoop taken there alsoOwned with
      ⟨second, alsoSeen, alsoHeld, alsoFd⟩ | ⟨alsoNew, alsoAccepted⟩
    · exact absurd (alsoFd.symm.trans same.symm) (unused other second _ alsoSeen alsoHeld accepted)
    · exact new.trans alsoNew.symm

theorem step_sharing (s t : System) (label : Label) (sharing : Sharing s) (onLoop : label.OnLoop)
    (fresh : FreshDescriptor s label) (taken : s.step label = some t) : Sharing t :=
  ⟨step_settles s t label sharing.settles onLoop taken, step_one_owner s t label sharing onLoop fresh taken⟩

theorem sharing_alone (s : System) (id : ConnId) (conn : Connection) (sharing : Sharing s) (found : s.conns id = some conn)
    (owned : (s.see id conn).Owned) : Alone s id conn := by
  intro other next there different loop fd
  by_contra entry
  have alsoOwned := (s.see other next).entry_owned (sharing.settles.2 other _ (view_found s other next there)) entry
  exact different (sharing.oneOwner other id _ _ (view_found s other next there) (view_found s id conn found) alsoOwned
    owned fd)

theorem running_owned (s : System) (label : Label) (id : ConnId) (conn next : Connection) (task : Task)
    (sharing : Sharing s) (runs : s.running label = some (id, task)) (found : s.conns id = some conn)
    (polls : conn.pollerCall next task ≠ none) : (s.see id conn).Owned := by
  have here := s.loop_of_found id conn found
  refine (s.see id conn).polling_owned (sharing.settles.2 id _ (view_found s id conn found)) task next ?_ polls
  cases label with
  | functor l answer =>
      simp only [running] at runs
      split at runs
      · next other job rest served =>
          cases runs
          have queued : .task id task ∈ (s.loops l).queue.contents := by simp [BatchQueue.contents, served]
          rcases (sharing.settles.1.loops l).queue id task queued with own | ⟨-, rfl, -⟩
          · rw [here, Option.some.injEq] at own
            exact .inr ((mem_tasks_of id task _).mpr (own ▸ queued))
          · exact absurd rfl polls
      · cases runs
  | exec l answer =>
      simp only [running] at runs
      split at runs
      · next other job rest todo =>
          cases runs
          have member : .task id task ∈ (s.loops l).todo := by simp [todo]
          have own := (sharing.settles.1.loops l).todo id task member
          rw [here, Option.some.injEq] at own
          exact .inl ((mem_tasks_of id task _).mpr (own ▸ member))
      · cases runs
  | _ => cases runs

end System

end Cmuduo.Net
