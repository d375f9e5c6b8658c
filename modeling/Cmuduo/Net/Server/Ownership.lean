import Cmuduo.Net.Server.Accepted
import Cmuduo.Net.Server.Calls

set_option autoImplicit false

namespace Cmuduo.Net

open Machine

-- The tasks that hold a pointer to their connection on the server's behalf, in
-- part or as a whole.
def Task.owns : Task → Bool
  | .connectEstablished | .removeConnectionInLoop | .connectDestroyed | .setDisconnected | .channelRemove => true
  | _ => false

def Task.leaves : Task → Bool
  | .closeCallback | .removeConnectionInLoop | .connectDestroyed | .channelRemove => true
  | _ => false

def Task.works : Task → Bool
  | .notice _ => false
  | _ => true

namespace View

def everywhere (v : View) : List Task := v.todo ++ v.queue ++ v.main

def Owned (v : View) : Prop := v.mapped = true ∨ ∃ task ∈ v.everywhere, task.owns = true

def Live (v : View) : Prop :=
  v.conn.tcp.slot.interest.isSome = true ∨ v.active ≠ [] ∨ ∃ task ∈ v.todo, task.works = true

structure Late (v : View) : Prop where
  calls : ∀ thread, v.calls thread = .none
  mirrors : Mirrors () v.conn.tcp.channel v.conn.tcp.slot
  queue : ∀ task ∈ v.queue, task = .connectDestroyed ∨ ∃ notice, task = .notice notice
  todo : ∀ task ∈ v.todo, task ≠ .connectEstablished ∧ task ≠ .setDisconnected
  mapped : v.conn.tcp.state ≠ .kDisconnected → v.mapped = true
  leaving : ∀ task ∈ v.everywhere, task.leaves = true → v.conn.tcp.state = .kDisconnected
  removing : ∀ task ∈ v.todo, task = .connectDestroyed ∨ task = .channelRemove → v.todo = [task] ∧ v.active = []
  owned : Live v → Owned v

theorem established_late (v : View) (established : Established v) (mapped : v.mapped = true) : Late v := by
  obtain ⟨sockfd, writeComplete, highWater, mark, same⟩ := established.tcp
  have empty : v.queue = [] := by rw [established.queue, destruction, if_pos mapped]
  have all : v.everywhere = [.connectionCallback false] := by
    rw [everywhere, established.todo, empty, established.main]
    rfl
  refine ⟨established.calls, ?_, ?_, ?_, fun _ => mapped, ?_, ?_, fun _ => .inl mapped⟩
  · rw [same]
    exact .inl (TcpConnection.established_open sockfd writeComplete highWater mark).registered
  · simp [empty]
  · simp [established.todo]
  · intro task member leaves
    rw [all, List.mem_singleton] at member
    subst member
    cases leaves
  · simp [established.todo]

section
variable {read : Captured → Option CppString} {conn : Connection} {task : Task} {rest : List Task} {answer : Answer}
  {effect : Effect}

theorem performs_queue (performs : Connection.Performs read conn task answer effect) :
    ∀ queued ∈ effect.queue, queued = .connectDestroyed ∧ task = .removeConnectionInLoop ∨
      ∃ notice, queued = .notice notice := by
  have queues : ∀ (notices : List Notice), ∀ queued ∈ notices.map Task.notice, ∃ notice, queued = .notice notice := by
    intro notices queued member
    obtain ⟨notice, -, same⟩ := List.mem_map.mp member
    exact ⟨notice, same.symm⟩
  cases performs with
  | handleWrite result tcp notices => exact fun queued member => .inr (queues notices queued member)
  | sendDirect data result tcp notices => exact fun queued member => .inr (queues notices queued member)
  | sendCaptured data bytes result tcp notices => exact fun queued member => .inr (queues notices queued member)
  | sendStray data memory result tcp notices => exact fun queued member => .inr (queues notices queued member)
  | removeConnectionInLoop => exact fun queued member => .inl ⟨List.mem_singleton.mp member, rfl⟩
  | _ => exact fun queued member => nomatch member

theorem performs_front (performs : Connection.Performs read conn task answer effect)
    (notUp : task ≠ .connectEstablished) (closed : task = .connectDestroyed → conn.tcp.state ≠ .kConnected) :
    ∀ next ∈ effect.front, next ≠ .connectEstablished ∧ next ≠ .setDisconnected ∧ next ≠ .connectDestroyed ∧
      (next = .channelRemove → task = .connectDestroyed) ∧
      (next.leaves = true → task = .handleClose ∨ task = .connectDestroyed) := by
  cases performs with
  | handleClose => simp [Task.leaves]
  | handleRead result outcome tcp received =>
      cases outcome <;> simp [TcpConnection.ReadOutcome.next, Task.leaves]
  | connectDestroyed => simp [closed rfl]
  | connectEstablished => exact absurd rfl notUp
  | _ => exact fun next member => nomatch member

theorem performs_remove (performs : Connection.Performs read conn task answer effect) (removes : effect.remove = true) :
    task = .closeCallback := by
  cases performs with
  | closeCallback => rfl
  | _ => cases removes

theorem performs_erase (performs : Connection.Performs read conn task answer effect) (erases : effect.erase = true) :
    task = .removeConnectionInLoop := by
  cases performs with
  | removeConnectionInLoop => rfl
  | _ => cases erases

theorem performs_disconnects (performs : Connection.Performs read conn task answer effect)
    (notUp : task ≠ .connectEstablished) :
    effect.conn.tcp.state = .kDisconnected ∨ effect.conn.tcp.state = conn.tcp.state ∧ task ≠ .handleClose := by
  by_cases closes : task = .handleClose
  · subst closes
    cases performs with
    | handleClose answer tcp disabled => exact .inl (TcpConnection.disable_all_mirrored _ tcp disabled).state
  · by_cases destroys : task = .setDisconnected
    · subst destroys
      cases performs with
      | setDisconnected answer tcp disabled => exact .inl (TcpConnection.disable_all_mirrored _ tcp disabled).state
    · exact .inr ⟨Connection.performs_state performs notUp closes destroys, closes⟩

theorem apply_everywhere (v : View) (other : Task) (member : other ∈ (v.apply rest effect).everywhere) :
    other ∈ effect.front ∨ other ∈ effect.queue ∨ other = .removeConnectionInLoop ∧ effect.remove = true ∨
      other ∈ rest ++ v.queue ++ v.main := by
  simp only [everywhere, apply, List.mem_append] at member ⊢
  cases removes : effect.remove with
  | false =>
      simp only [removes, Bool.false_and, Bool.false_eq_true, if_false, List.not_mem_nil, or_false] at member
      tauto
  | true =>
      cases shared : v.shared with
      | false => simp [removes, shared] at member; tauto
      | true => simp [removes, shared] at member; tauto

theorem everywhere_apply (v : View) (other : Task)
    (member : other ∈ effect.front ∨ other ∈ effect.queue ∨ other ∈ rest ++ v.queue ++ v.main) :
    other ∈ (v.apply rest effect).everywhere := by
  simp only [everywhere, apply, List.mem_append] at member ⊢
  tauto

theorem left_everywhere (v : View) (next : v.todo = task :: rest) (other : Task) :
    other ∈ v.everywhere ↔ other = task ∨ other ∈ rest ++ v.queue ++ v.main := by
  rw [everywhere, next]
  simp

theorem next_everywhere (v : View) (next : v.todo = task :: rest) : task ∈ v.everywhere :=
  (left_everywhere v next task).mpr (.inl rfl)

theorem exec_not_connected (v : View) (late : Late v) (next : v.todo = task :: rest)
    (destroys : task = .connectDestroyed) : v.conn.tcp.state ≠ .kConnected := by
  subst destroys
  rw [late.leaving _ (next_everywhere v next) rfl]
  exact StateE.noConfusion

theorem exec_front (v : View) (late : Late v) (next : v.todo = task :: rest)
    (performs : Connection.Performs read v.conn task answer effect) :
    ∀ other ∈ effect.front, other ≠ .connectEstablished ∧ other ≠ .setDisconnected ∧ other ≠ .connectDestroyed ∧
      (other = .channelRemove → task = .connectDestroyed) ∧
      (other.leaves = true → task = .handleClose ∨ task = .connectDestroyed) :=
  performs_front performs (late.todo task (by simp [next])).1 (exec_not_connected v late next)

theorem exec_leaving (v : View) (late : Late v) (next : v.todo = task :: rest)
    (performs : Connection.Performs read v.conn task answer effect) :
    ∀ other ∈ (v.apply rest effect).everywhere, other.leaves = true → effect.conn.tcp.state = .kDisconnected := by
  intro other member leaves
  rcases performs_disconnects performs (late.todo task (by simp [next])).1 with closed | ⟨same, opens⟩
  · exact closed
  · rw [same]
    have already : task.leaves = true → v.conn.tcp.state = .kDisconnected := late.leaving task (next_everywhere v next)
    rcases apply_everywhere v other member with front | queued | ⟨-, removes⟩ | old
    · rcases (exec_front v late next performs other front).2.2.2.2 leaves with closes | destroys
      · exact absurd closes opens
      · exact already (by rw [destroys]; rfl)
    · rcases performs_queue performs other queued with ⟨-, removed⟩ | ⟨notice, isNotice⟩
      · exact already (by rw [removed]; rfl)
      · subst isNotice
        cases leaves
    · exact already (by rw [performs_remove performs removes]; rfl)
    · exact late.leaving other ((left_everywhere v next other).mpr (.inr old)) leaves

theorem exec_mapped (v : View) (late : Late v) (next : v.todo = task :: rest)
    (performs : Connection.Performs read v.conn task answer effect) (opens : effect.conn.tcp.state ≠ .kDisconnected) :
    (v.apply rest effect).mapped = true := by
  obtain ⟨same, -⟩ := (performs_disconnects performs (late.todo task (by simp [next])).1).resolve_left opens
  rw [same] at opens
  have kept : effect.erase = false := by
    by_contra erases
    have removed := performs_erase performs (by simpa using erases)
    exact opens (late.leaving task (next_everywhere v next) (by rw [removed]; rfl))
  simp [apply, late.mapped opens, kept]

theorem apply_todo (v : View) (other : Task) (member : other ∈ (v.apply rest effect).todo) :
    other ∈ effect.front ∨ other = .removeConnectionInLoop ∨ other ∈ rest := by
  rcases List.mem_append.mp member with front | old
  · rcases List.mem_append.mp front with front | removal
    · exact .inl front
    · split at removal
      · exact .inr (.inl (List.mem_singleton.mp removal))
      · cases removal
  · exact .inr (.inr old)

theorem exec_destroyed (v : View) (late : Late v) (next : v.todo = .connectDestroyed :: rest)
    (performs : Connection.Performs read v.conn .connectDestroyed answer effect) :
    (v.apply rest effect).todo = [.channelRemove] ∧ v.active = [] := by
  obtain ⟨alone, drained⟩ := late.removing .connectDestroyed (by simp [next]) (.inl rfl)
  obtain rfl : rest = [] := (List.cons.inj (next.symm.trans alone)).2
  have off := exec_not_connected v late next rfl
  cases performs
  exact ⟨by simp [apply, Connection.plain, off], drained⟩

theorem exec_removing (v : View) (late : Late v) (next : v.todo = task :: rest)
    (performs : Connection.Performs read v.conn task answer effect) :
    ∀ other ∈ (v.apply rest effect).todo, other = .connectDestroyed ∨ other = .channelRemove →
      (v.apply rest effect).todo = [other] ∧ v.active = [] := by
  intro other member removing
  rcases apply_todo v other member with front | removal | old
  · obtain ⟨-, -, notDestroyed, removes, -⟩ := exec_front v late next performs other front
    have removed := removing.resolve_left notDestroyed
    obtain rfl := removes removed
    rw [removed]
    exact exec_destroyed v late next performs
  · subst removal
    simp at removing
  · have alone := (late.removing other (next ▸ .tail task old) removing).1
    rw [(List.cons.inj (next.symm.trans alone)).2] at old
    cases old

theorem exec_removed (v : View) (late : Late v) (next : v.todo = .channelRemove :: rest)
    (performs : Connection.Performs read v.conn .channelRemove answer effect) : ¬Live (v.apply rest effect) := by
  obtain ⟨alone, drained⟩ := late.removing .channelRemove (by simp [next]) (.inr rfl)
  obtain rfl : rest = [] := (List.cons.inj (next.symm.trans alone)).2
  cases performs with
  | channelRemove answer tcp removed =>
      have absent := (v.conn.tcp.channel_remove_unregistered tcp late.mirrors removed).1.2
      rintro (registered | busy | ⟨task, member, -⟩)
      · change tcp.slot.interest.isSome = true at registered
        rw [absent] at registered
        cases registered
      · exact busy drained
      · simp [apply, Connection.plain] at member

theorem exec_live (v : View) (next : v.todo = task :: rest)
    (performs : Connection.Performs read v.conn task answer effect) (live : Live (v.apply rest effect)) : Live v := by
  cases works : task.works with
  | true => exact .inr (.inr ⟨task, by simp [next], works⟩)
  | false =>
      cases performs with
      | notice notice =>
          rcases live with registered | busy | ⟨other, member, kind⟩
          · exact .inl registered
          · exact .inr (.inl busy)
          · refine .inr (.inr ⟨other, ?_, kind⟩)
            rw [next]
            exact List.mem_cons_of_mem _ (by simpa [apply, Connection.plain] using member)
      | _ => cases works

theorem exec_keeps_owner (v : View) (next : v.todo = task :: rest)
    (performs : Connection.Performs read v.conn task answer effect) (other : task.owns = false) (owned : Owned v) :
    Owned (v.apply rest effect) := by
  rcases owned with mapped | ⟨owner, member, owns⟩
  · have kept : effect.erase = false := by
      by_contra erases
      rw [performs_erase performs (by simpa using erases)] at other
      cases other
    exact .inl (by simp [apply, mapped, kept])
  · rcases (left_everywhere v next owner).mp member with rfl | old
    · cases owns.symm.trans other
    · exact .inr ⟨owner, everywhere_apply v owner (.inr (.inr old)), owns⟩

theorem exec_owned (v : View) (late : Late v) (next : v.todo = task :: rest)
    (performs : Connection.Performs read v.conn task answer effect) (live : Live (v.apply rest effect)) :
    Owned (v.apply rest effect) := by
  cases owns : task.owns with
  | false => exact exec_keeps_owner v next performs owns (late.owned (exec_live v next performs live))
  | true =>
      cases task with
      | connectEstablished => exact absurd rfl (late.todo _ (by simp [next])).1
      | setDisconnected => exact absurd rfl (late.todo _ (by simp [next])).2
      | channelRemove => exact absurd live (exec_removed v late next performs)
      | connectDestroyed =>
          refine .inr ⟨.channelRemove, ?_, rfl⟩
          rw [everywhere, (exec_destroyed v late next performs).1]
          simp
      | removeConnectionInLoop =>
          cases performs
          exact .inr ⟨.connectDestroyed, everywhere_apply v _ (.inr (.inl (List.mem_singleton_self _))), rfl⟩
      | _ => cases owns

theorem late_exec (v : View) (late : Late v) (next : v.todo = task :: rest)
    (performs : Connection.Performs read v.conn task answer effect) : Late (v.apply rest effect) := by
  refine ⟨late.calls, Connection.performs_mirrors performs late.mirrors, ?_, ?_, exec_mapped v late next performs,
    exec_leaving v late next performs, exec_removing v late next performs, exec_owned v late next performs⟩
  · intro other member
    rcases List.mem_append.mp member with old | new
    · exact late.queue other old
    · rcases performs_queue performs other new with ⟨destroys, -⟩ | isNotice
      · exact .inl destroys
      · exact .inr isNotice
  · intro other member
    rcases apply_todo v other member with front | removal | old
    · obtain ⟨notUp, notSet, -⟩ := exec_front v late next performs other front
      exact ⟨notUp, notSet⟩
    · subst removal
      exact ⟨Task.noConfusion, Task.noConfusion⟩
    · exact late.todo other (next ▸ .tail task old)

end

theorem late_fetch (v : View) (task : Task) (queue : List Task) (late : Late v) (idle : v.todo = [])
    (drained : v.active = []) (next : v.queue = task :: queue) : Late (v.fetch task queue) := by
  have kind := late.queue task (by simp [next])
  have same : ∀ other, other ∈ (v.fetch task queue).everywhere ↔ other ∈ v.everywhere := by
    simp [everywhere, fetch, idle, next]
  refine ⟨late.calls, late.mirrors, fun other member => late.queue other (next ▸ .tail task member), ?_, late.mapped, ?_,
    ?_, ?_⟩
  · intro other member
    obtain rfl := List.mem_singleton.mp member
    rcases kind with rfl | ⟨notice, rfl⟩
    · exact ⟨Task.noConfusion, Task.noConfusion⟩
    · exact ⟨Task.noConfusion, Task.noConfusion⟩
  · exact fun other member leaves => late.leaving other ((same other).mp member) leaves
  · intro other member _
    obtain rfl := List.mem_singleton.mp member
    exact ⟨rfl, drained⟩
  · intro live
    rcases kind with rfl | ⟨notice, rfl⟩
    · exact .inr ⟨.connectDestroyed, by simp [everywhere, fetch], rfl⟩
    · have before : Live v := by
        rcases live with registered | busy | ⟨other, member, works⟩
        · exact .inl registered
        · exact .inr (.inl busy)
        · rw [List.mem_singleton.mp member] at works
          cases works
      rcases late.owned before with mapped | ⟨owner, member, owns⟩
      · exact .inl mapped
      · exact .inr ⟨owner, (same owner).mpr member, owns⟩

-- The user calls send and shutdown on the connection's loop only, and the server
-- is not being destroyed.
def OnLoop : LifeLabel → Prop
  | .send _ _ | .shutdown _ | .destroy => False
  | _ => True

theorem late_push (v : View) (task : Task) (late : Late v) (connected : v.conn.tcp.state = .kConnected)
    (leaves : task.leaves = false) (up : task ≠ .connectEstablished) (set : task ≠ .setDisconnected) :
    Late { v with todo := task :: v.todo } := by
  have opens : v.conn.tcp.state ≠ .kDisconnected := by rw [connected]; exact StateE.noConfusion
  have staying : ∀ other ∈ v.everywhere, other.leaves = false := by
    intro other member
    by_contra leaving
    exact opens (late.leaving other member (by simpa using leaving))
  refine ⟨late.calls, late.mirrors, late.queue, ?_, late.mapped, ?_, ?_, fun _ => .inl (late.mapped opens)⟩
  · intro other member
    rcases List.mem_cons.mp member with rfl | old
    · exact ⟨up, set⟩
    · exact late.todo other old
  · intro other member leaving
    rcases List.mem_cons.mp member with rfl | old
    · cases leaves.symm.trans leaving
    · exact late.leaving other old leaving
  · intro other member removing
    have stays : other.leaves = false := by
      rcases List.mem_cons.mp member with rfl | old
      · exact leaves
      · exact staying other (by simp [everywhere, old])
    rcases removing with rfl | rfl
    · cases stays
    · cases stays

theorem late_store (v : View) (late : Late v) (connected : v.conn.tcp.state = .kConnected) :
    Late (v.setState .kDisconnecting) := by
  have opens : v.conn.tcp.state ≠ .kDisconnected := by rw [connected]; exact StateE.noConfusion
  have mapped := late.mapped opens
  refine ⟨late.calls, late.mirrors, late.queue, late.todo, fun _ => mapped, ?_, late.removing, fun _ => .inl mapped⟩
  intro task member leaves
  exact absurd (late.leaving task member leaves) opens

theorem late_dispatch (v : View) (revents : EventMask) (active : List EventMask) (late : Late v) (idle : v.todo = [])
    (next : v.active = revents :: active) :
    Late { v with active := active, todo := handleEventWithGuard revents } := by
  have handler : ∀ task ∈ handleEventWithGuard revents, task.leaves = false ∧ task.owns = false ∧
      task ≠ .channelRemove := by
    intro task member
    have among := (dispatch_order revents).subset member
    simp only [List.mem_cons, List.not_mem_nil, or_false] at among
    rcases among with rfl | rfl | rfl | rfl <;> exact ⟨rfl, rfl, Task.noConfusion⟩
  refine ⟨late.calls, late.mirrors, late.queue, fun task member => ?_, late.mapped, fun task member leaves => ?_,
    fun task member removing => ?_, fun _ => ?_⟩
  · have owns := (handler task member).2.1
    constructor
    · intro same
      rw [same] at owns
      cases owns
    · intro same
      rw [same] at owns
      cases owns
  · rcases List.mem_append.mp member with here | main
    · rcases List.mem_append.mp here with todo | queued
      · cases leaves.symm.trans (handler task todo).1
      · exact late.leaving task (by simp [everywhere, queued]) leaves
    · exact late.leaving task (by simp [everywhere, main]) leaves
  · obtain ⟨leaves, -, stays⟩ := handler task member
    rcases removing with rfl | removed
    · cases leaves
    · exact absurd removed stays
  · rcases late.owned (.inr (.inl (by simp [next]))) with mapped | ⟨owner, member, owns⟩
    · exact .inl mapped
    · refine .inr ⟨owner, ?_, owns⟩
      simp only [everywhere, idle, List.nil_append, List.mem_append] at member ⊢
      exact member.elim (fun queued => .inl (.inr queued)) .inr

theorem late_main_functor (v : View) (main : List Task) (late : Late v)
    (next : v.main = .removeConnectionInLoop :: main) :
    Late { v with mapped := false, queue := v.queue ++ [.connectDestroyed], main := main } := by
  have closed : v.conn.tcp.state = .kDisconnected :=
    late.leaving .removeConnectionInLoop (by simp [everywhere, next]) rfl
  refine ⟨late.calls, late.mirrors, fun task member => ?_, late.todo, fun opens => absurd closed opens,
    fun _ _ _ => closed, late.removing, fun _ => .inr ⟨.connectDestroyed, by simp [everywhere], rfl⟩⟩
  rcases List.mem_append.mp member with old | new
  · exact late.queue task old
  · exact .inl (List.mem_singleton.mp new)

theorem late_moves (v w : View) (life : LifeLabel) (late : Late v) (onLoop : OnLoop life) (moves : Moves v life w) :
    Late w := by
  cases moves with
  | poll revents drained idle registered =>
      -- a channel is only reported while it is registered, and then it was live before
      refine ⟨late.calls, late.mirrors, late.queue, late.todo, late.mapped, late.leaving, ?_,
        fun _ => late.owned (.inl registered)⟩
      intro other member
      rw [idle] at member
      cases member
  | dispatch revents active idle next => exact late_dispatch v revents active late idle next
  | functor read answer task queue effect idle drained next performs =>
      exact late_exec _ (late_fetch v task queue late idle drained next) rfl performs
  | exec read answer task rest effect next performs => exact late_exec v late next performs
  | mainFunctor main next => exact late_main_functor v main late next
  | ignored life published refused => exact late
  | userSend data published connected => exact late_push v _ late connected rfl Task.noConfusion Task.noConfusion
  | userShutdown published connected =>
      exact late_store _ (late_push v .shutdownInLoop late connected rfl Task.noConfusion Task.noConfusion) connected
  | send => exact onLoop.elim
  | shutdown => exact onLoop.elim
  | queueSend thread data calling => cases (late.calls thread).symm.trans calling
  | storeDisconnecting thread calling => cases (late.calls thread).symm.trans calling
  | queueShutdown thread calling => cases (late.calls thread).symm.trans calling
  | destroyHere => exact onLoop.elim
  | destroyThere => exact onLoop.elim

def Held (v : View) : Prop := Accepted v ∧ v.mapped = true ∨ Late v

theorem fresh_held (v : View) (fresh : System.Fresh v) : Held v :=
  .inl ⟨fresh_accepted v fresh, fresh_mapped v fresh⟩

theorem held_moves (v w : View) (life : LifeLabel) (held : Held v) (onLoop : OnLoop life) (moves : Moves v life w) :
    Held w := by
  rcases held with ⟨accepted, mapped⟩ | late
  · obtain ⟨further, same⟩ := accepted_moves v w life accepted moves
    have still : w.mapped = true := (same (by rintro rfl; exact onLoop)).trans mapped
    rcases further with waiting | established
    · exact .inl ⟨waiting, still⟩
    · exact .inr (established_late w established still)
  · exact .inr (late_moves v w life late onLoop moves)

theorem held_owned (v : View) (held : Held v) (live : Live v) : Owned v := by
  rcases held with ⟨-, mapped⟩ | late
  · exact .inl mapped
  · exact late.owned live

end View

-- The user calls send and shutdown on loop threads only, and the server is not
-- being destroyed.
def Label.OnLoop : Label → Prop
  | .send _ _ _ | .shutdown _ _ | .destroy | .destroyConnection _ => False
  | _ => True

instance : (label : Label) → Decidable label.OnLoop
  | .send .. | .shutdown .. | .destroy | .destroyConnection _ => .isFalse id
  | .poll .. | .dispatch _ | .otherChannel _ | .accept .. | .swap _ | .functor .. | .exec .. | .userReturns _ | .iterate _
  | .userSend .. | .userShutdown .. | .queueUser _ | .queueSend _ | .storeDisconnecting _ | .queueShutdown _
  | .overwrite .. | .release .. => .isTrue trivial

namespace System

theorem on_loop_target (s : System) (label : Label) (id : ConnId) (life : LifeLabel) (onLoop : label.OnLoop)
    (about : s.target label = some (id, life)) : View.OnLoop life := by
  have origin := s.target_origin label id life about
  cases life with
  | send thread data =>
      obtain ⟨cell, rfl⟩ := origin
      exact onLoop
  | shutdown thread =>
      subst origin
      exact onLoop
  | destroy =>
      subst origin
      exact onLoop
  | _ => trivial

-- The kernel can report the channel, or has reported it to a loop that has not
-- dispatched it yet.
def Dispatchable (s : System) (id : ConnId) (conn : Connection) : Prop :=
  conn.tcp.slot.interest.isSome = true ∨ ∃ l revents, (id, revents) ∈ (s.loops l).active

-- The connection is in connectionMap_, or connectEstablished,
-- removeConnectionInLoop or connectDestroyed is queued for it or running.
def Owned (s : System) (id : ConnId) (conn : Connection) : Prop :=
  s.connectionMap conn.name = some id ∨
    ∃ l task, task.owns = true ∧ (.task id task ∈ (s.loops l).todo ∨ .task id task ∈ (s.loops l).queue.contents)

theorem see_live (s : System) (id : ConnId) (conn : Connection) (home : Home s) (found : s.conns id = some conn)
    (dispatchable : s.Dispatchable id conn) : (s.see id conn).Live := by
  rcases dispatchable with registered | ⟨l, revents, reported⟩
  · exact .inl registered
  · have placed := (home.loops l).active id revents reported
    rw [loopOf, found, Option.map_some, Option.some.injEq] at placed
    refine .inr (.inl (List.ne_nil_of_mem ((mem_masks_of id revents _).mpr ?_)))
    rwa [placed]

theorem see_owned (s : System) (id : ConnId) (conn : Connection) (owned : (s.see id conn).Owned) : s.Owned id conn := by
  rcases owned with mapped | ⟨task, member, owns⟩
  · exact .inl (by simpa [see] using mapped)
  · simp only [View.everywhere, see, List.mem_append, mem_tasks_of] at member
    rcases member with (todo | queued) | main
    · exact .inr ⟨conn.loop, task, owns, .inl todo⟩
    · exact .inr ⟨conn.loop, task, owns, .inr queued⟩
    · by_cases here : conn.loop = mainLoop
      · simp [here] at main
      · rw [if_neg here, mem_tasks_of] at main
        exact .inr ⟨mainLoop, task, owns, .inr main⟩

end System

theorem dispatchable_owned (name : List Char) (listen : Base.InetAddress) (labels : List Label) (s : System)
    (id : ConnId) (conn : Connection) (onLoop : ∀ label ∈ labels, label.OnLoop)
    (ran : run System.step (.new name listen) labels = some s) (found : s.conns id = some conn)
    (dispatchable : s.Dispatchable id conn) : s.Owned id conn := by
  have allowed := guarded_labels System.step (System.Guards fun _ _ => View.OnLoop) Label.OnLoop
    (fun s l here => System.guards_target View.OnLoop s l fun id life => s.on_loop_target l id life here)
    (.new name listen) labels onLoop
  obtain ⟨home, held⟩ := System.every_view _ (fun _ => View.Held) (fun _ _ _ => trivial) (fun _ => View.fresh_held)
    (fun _ => View.held_moves) name listen labels s allowed ran
  exact s.see_owned id conn (View.held_owned _ (held id _ (System.view_found s id conn found))
    (s.see_live id conn home found dispatchable))

-- Urgent data reported with a hang-up closes the connection twice in one
-- dispatch, and the second disableAll registers the channel again, while the
-- server's loop erases the map entry.
def closedInOneDispatch : List Label :=
  comesUp ++ [.poll 1 [(1, EPOLLHUP ||| EPOLLPRI)], .dispatch 1, .exec 1 .none, .exec 1 .none, .userReturns 1,
    .exec 1 .none, .exec 1 (.read (.arrived [])), .exec 1 .none, .swap 0, .functor 0 .none]

theorem dispatchable_owned_by_task :
    ∃ s conn, run System.step listening closedInOneDispatch = some s ∧ s.conns 1 = some conn ∧
      s.connectionMap conn.name = none ∧ s.Dispatchable 1 conn ∧ s.Owned 1 conn := by
  obtain ⟨s, conn, ran, found, facts⟩ := outcome_found closedInOneDispatch
    (fun s conn => (s.connectionMap conn.name, conn.tcp.slot.interest.isSome)) (none, true) (by decide +kernel)
  obtain ⟨erased, registered⟩ := Prod.mk.inj facts
  exact ⟨s, conn, ran, found, erased, .inl registered,
    dispatchable_owned _ _ closedInOneDispatch s 1 conn (by decide) ran found (.inl registered)⟩

end Cmuduo.Net
