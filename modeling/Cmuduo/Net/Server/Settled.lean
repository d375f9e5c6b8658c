import Cmuduo.Net.Server.Ownership

set_option autoImplicit false

namespace Cmuduo.Net

open Machine

namespace TcpConnection

-- A channel in the interest set has its entry in channels_.
def Listed (c : TcpConnection) : Prop := c.channel.index = kAdded → c.slot.channels = some ()

-- What a call does to channel and slot: at most one update, with some mask.
inductive Masks (c next : TcpConnection) : Prop where
  | leaves (here : next.channel = c.channel) (there : next.slot = c.slot)
  | sets (mask : EventMask) (channel : Channel) (slot : Slot Unit)
      (updated : EpollPoller.updateChannel () { c.channel with events := mask } c.slot = .ok (channel, slot))
      (here : next.channel = channel) (there : next.slot = slot)

theorem update_masks (c next : TcpConnection) (mask : EventMask)
    (done : c.withChannel (EpollPoller.updateChannel () { c.channel with events := mask } c.slot) = .ok next) :
    Masks c next := by
  cases updated : EpollPoller.updateChannel () { c.channel with events := mask } c.slot with
  | error stop => simp [withChannel, updated] at done
  | ok pair =>
      obtain ⟨channel, slot⟩ := pair
      simp only [withChannel, updated, Except.ok.injEq] at done
      subst done
      exact .sets mask channel slot updated rfl rfl

theorem buffer_remaining_masks (c next : TcpConnection) (rest : CppString) (notices queued : List Notice)
    (done : c.bufferRemaining rest notices = .ok (next, queued)) : Masks c next := by
  cases buffer_remaining_buffers c next rest notices queued done with
  | nothing empty same => exact same ▸ .leaves rfl rfl
  | appends buffer some appended turned =>
      rcases turned with ⟨-, rfl⟩ | ⟨-, turned⟩
      · exact .leaves rfl rfl
      · cases update_masks { c with outputBuffer := buffer } next _ turned with
        | leaves here there => exact .leaves here there
        | sets mask channel slot updated here there => exact .sets mask channel slot updated here there

theorem send_in_loop_masks (c next : TcpConnection) (data : CppString) (result : WriteResult) (queued : List Notice)
    (done : c.sendInLoop data result = .ok (next, queued)) : Masks c next := by
  cases send_in_loop_sends c next data result queued done with
  | refused _ closing same => exact same ▸ .leaves rfl rfl
  | broken errno accepted direct fault same => exact same ▸ .leaves rfl rfl
  | writes count accepted direct rest =>
      cases buffer_remaining_masks _ next _ _ queued rest with
      | leaves here there => exact .leaves here there
      | sets mask channel slot updated here there => exact .sets mask channel slot updated here there
  | waits _ accepted behind rest => exact buffer_remaining_masks c next data [] queued rest

theorem handle_write_masks (c next : TcpConnection) (result : WriteResult) (queued : List Notice)
    (done : c.handleWrite result = .ok (next, queued)) : Masks c next := by
  cases handle_write_writes c next result queued done with
  | nothing => exact .leaves rfl rfl
  | partly out => exact .leaves rfl rfl
  | fully out quiet disabled =>
      have last : (if quiet.state = .kDisconnecting then quiet.shutdownInLoop else quiet).channel = quiet.channel ∧
          (if quiet.state = .kDisconnecting then quiet.shutdownInLoop else quiet).slot = quiet.slot := by
        split
        · exact ⟨quiet.shutdown_in_loop_same.1.channel, quiet.shutdown_in_loop_same.1.slot⟩
        · exact ⟨rfl, rfl⟩
      cases update_masks (c.flushed out) quiet _ disabled with
      | leaves here there => exact .leaves (last.1.trans here) (last.2.trans there)
      | sets mask channel slot updated here there =>
          exact .sets mask channel slot updated (last.1.trans here) (last.2.trans there)

theorem masks_listed (c next : TcpConnection) (mirrors : Mirrors () c.channel c.slot) (listed : Listed c)
    (masks : Masks c next) : Listed next := by
  cases masks with
  | leaves here there =>
      rw [Listed, here, there]
      exact listed
  | sets mask channel slot updated here there =>
      rw [Listed, here, there]
      rcases mirrors with ⟨index, interest⟩ | absent
      · have present : c.slot.interest.isSome := by rw [interest]; rfl
        by_cases unwanted : mask = KNoneEvent
        · rw [update_emptied () { c.channel with events := mask } c.slot index present unwanted] at updated
          cases updated
          exact fun added => absurd (show kNew = kAdded from added) (by decide)
        · rw [update_registered () { c.channel with events := mask } c.slot index present unwanted] at updated
          cases updated
          exact fun _ => listed index
      · rw [update_unregistered () { c.channel with events := mask } c.slot absent] at updated
        cases updated
        exact fun _ => rfl

end TcpConnection

namespace Connection

variable {read : Captured → Option CppString} {conn : Connection} {task : Task} {answer : Answer} {effect : Effect}

theorem performs_listed (performs : Performs read conn task answer effect)
    (mirrors : Mirrors () conn.tcp.channel conn.tcp.slot) (listed : conn.tcp.Listed) : effect.conn.tcp.Listed := by
  cases touching : task.touches with
  | false =>
      rcases aside_tcp performs touching with same | same | ⟨payload, bytes, result, notices, -, -, sent⟩
      · rwa [same]
      · obtain ⟨channel, -⟩ := conn.tcp.shutdown_in_loop_same
        rwa [same, TcpConnection.Listed, channel.channel, channel.slot]
      · exact conn.tcp.masks_listed _ mirrors listed (conn.tcp.send_in_loop_masks _ bytes result notices sent)
  | true =>
      cases performs with
      | handleClose answer tcp disabled =>
          exact (conn.tcp.setState .kDisconnected).masks_listed tcp mirrors listed
            (TcpConnection.update_masks _ tcp _ disabled)
      | handleRead result outcome tcp received =>
          obtain ⟨⟨buffer, rfl⟩, -⟩ := conn.tcp.handle_read_input tcp result outcome received
          exact listed
      | handleWrite result tcp notices flushed =>
          exact conn.tcp.masks_listed tcp mirrors listed (conn.tcp.handle_write_masks tcp result notices flushed)
      | connectEstablished answer tcp up =>
          exact TcpConnection.masks_listed
            { conn.tcp.setState .kConnected with channel := { conn.tcp.channel with tied := true } } tcp mirrors listed
            (TcpConnection.update_masks _ tcp _ up)
      | connectDestroyed => exact listed
      | setDisconnected answer tcp disabled =>
          exact (conn.tcp.setState .kDisconnected).masks_listed tcp mirrors listed
            (TcpConnection.update_masks _ tcp _ disabled)
      | channelRemove answer tcp removed =>
          have index := (conn.tcp.channel_remove_unregistered tcp mirrors removed).1.1
          exact fun added => absurd (index.symm.trans added) (by decide)
      | _ => cases touching

-- Any call that leaves state_ as it is leaves an open connection open.
theorem performs_open (performs : Performs read conn task answer effect) (isOpen : conn.tcp.Open)
    (notUp : task ≠ .connectEstablished) (notClosed : task ≠ .handleClose) (notSet : task ≠ .setDisconnected)
    (notRemoved : task ≠ .channelRemove) : effect.conn.tcp.Open := by
  cases touching : task.touches with
  | false => exact (aside_open performs touching isOpen).1
  | true =>
      cases performs with
      | handleRead result outcome tcp received =>
          obtain ⟨⟨buffer, rfl⟩, -⟩ := conn.tcp.handle_read_input tcp result outcome received
          exact ⟨isOpen.valid, isOpen.registered, isOpen.events⟩
      | handleWrite result tcp notices flushed =>
          exact (conn.tcp.handle_write_open tcp result notices isOpen flushed).1
      | connectDestroyed => exact isOpen
      | handleClose => exact absurd rfl notClosed
      | connectEstablished => exact absurd rfl notUp
      | setDisconnected => exact absurd rfl notSet
      | channelRemove => exact absurd rfl notRemoved
      | _ => cases touching

-- Without interest nothing but a send can turn some on.
theorem performs_masked (performs : Performs read conn task answer effect)
    (mirrors : Mirrors () conn.tcp.channel conn.tcp.slot) (notUp : task ≠ .connectEstablished)
    (silent : task.carries = false)
    (masked : conn.tcp.channel.events = KNoneEvent ∨ task = .handleClose ∨ task = .setDisconnected) :
    effect.conn.tcp.channel.events = KNoneEvent := by
  by_cases closes : task = .handleClose ∨ task = .setDisconnected
  · rcases closes with rfl | rfl
    · cases performs with
      | handleClose answer tcp disabled => exact (conn.tcp.setState .kDisconnected).disable_all_events tcp mirrors disabled
    · cases performs with
      | setDisconnected answer tcp disabled =>
          exact (conn.tcp.setState .kDisconnected).disable_all_events tcp mirrors disabled
  · have none := masked.resolve_right closes
    cases performs with
    | handleClose => exact absurd (.inl rfl) closes
    | setDisconnected => exact absurd (.inr rfl) closes
    | connectEstablished => exact absurd rfl notUp
    | handleRead result outcome tcp received =>
        obtain ⟨⟨buffer, rfl⟩, -⟩ := conn.tcp.handle_read_input tcp result outcome received
        exact none
    | handleWrite result tcp notices flushed =>
        have off : conn.tcp.channel.isWriting = false := by simp [Channel.isWriting, none, KNoneEvent]
        rwa [conn.tcp.handle_write_quiet tcp result notices off flushed]
    | channelRemove answer tcp removed => exact (conn.tcp.channel_remove_unregistered tcp mirrors removed).2.1.trans none
    | sendDirect => cases silent
    | sendCaptured => cases silent
    | sendStray => cases silent
    | shutdownInLoop => cases silent
    | _ => exact none

end Connection

namespace View

-- A connection from connectEstablished on, when it is used on its own loop only.
-- What the user has called stands before the rest of todo, and nothing of it is
-- left once the connection is closed.
structure Settling (v : View) : Prop extends Late v where
  begun : v.conn.tcp.state ≠ .kConnecting
  isOpen : v.conn.tcp.state ≠ .kDisconnected → v.conn.tcp.Open
  listed : v.conn.tcp.Listed
  masked : v.conn.tcp.state = .kDisconnected →
    v.conn.tcp.channel.events = KNoneEvent ∧ ∀ task ∈ v.todo, task.carries = false
  pushed : ∃ ahead base, v.todo = ahead ++ base ∧ (∀ task ∈ ahead, task.carries = true) ∧
    ∀ task ∈ base, task.carries = false
  closing : v.mapped = true → v.conn.tcp.state = .kDisconnected →
    .closeCallback ∈ v.todo ∨ .removeConnectionInLoop ∈ v.everywhere
  cleared : v.conn.tcp.slot.channels.isSome = true → Owned v

theorem established_settling (v : View) (established : Established v) (mapped : v.mapped = true) : Settling v := by
  obtain ⟨sockfd, writeComplete, highWater, mark, same⟩ := established.tcp
  have connected : v.conn.tcp.state = .kConnected := by rw [same]; rfl
  refine { established_late v established mapped with
    begun := by rw [connected]; exact StateE.noConfusion
    isOpen := fun _ => same ▸ TcpConnection.established_open sockfd writeComplete highWater mark
    listed := fun _ => by rw [same]; rfl
    masked := fun closed => absurd (connected.symm.trans closed) StateE.noConfusion
    pushed := ⟨[], v.todo, rfl, fun task member => absurd member List.not_mem_nil, ?_⟩
    closing := fun _ closed => absurd (connected.symm.trans closed) StateE.noConfusion
    cleared := fun _ => .inl mapped }
  intro task member
  rw [established.todo, List.mem_singleton] at member
  rw [member]
  rfl

section
variable {read : Captured → Option CppString} {task : Task} {rest : List Task} {answer : Answer} {effect : Effect}

-- What carries nothing brings nothing that carries.
theorem apply_carries (v : View) (performs : Connection.Performs read v.conn task answer effect)
    (behind : ∀ other ∈ rest, other.carries = false) : ∀ other ∈ (v.apply rest effect).todo, other.carries = false := by
  intro other member
  rcases apply_todo v other member with front | rfl | old
  · simpa using List.filter_eq_nil_iff.mp (Connection.performs_carries performs).1 other front
  · rfl
  · exact behind other old

theorem carries_todo (v : View) (performs : Connection.Performs read v.conn task answer effect)
    (carries : task.carries = true) : (v.apply rest effect).todo = rest := by
  have aside : task.touches = false := by cases task <;> first | rfl | cases carries
  have stays : effect.remove = false := by
    by_contra removes
    rw [performs_remove performs (by simpa using removes)] at carries
    cases carries
  simp [apply, (Connection.performs_aside performs aside).1, stays]

theorem exec_pushed (v : View) (settling : Settling v) (next : v.todo = task :: rest)
    (performs : Connection.Performs read v.conn task answer effect) :
    (∃ ahead base, (v.apply rest effect).todo = ahead ++ base ∧ (∀ other ∈ ahead, other.carries = true) ∧
      ∀ other ∈ base, other.carries = false) ∧
    (task.carries = false → ∀ other ∈ (v.apply rest effect).todo, other.carries = false) := by
  obtain ⟨ahead, base, split, front, back⟩ := settling.pushed
  rw [next] at split
  cases ahead with
  | nil =>
      have behind : ∀ other ∈ rest, other.carries = false := fun other member =>
        back other (by rw [← show task :: rest = base from split]; exact List.mem_cons_of_mem task member)
      have silent := apply_carries v performs behind
      exact ⟨⟨[], _, rfl, fun other member => absurd member List.not_mem_nil, silent⟩, fun _ => silent⟩
  | cons first ahead =>
      obtain ⟨rfl, rest'⟩ := List.cons.inj split
      have carries := front task (by simp)
      refine ⟨⟨ahead, base, (carries_todo v performs carries).trans rest',
        fun other member => front other (List.mem_cons_of_mem _ member), back⟩, fun silent => ?_⟩
      cases carries.symm.trans silent

theorem exec_state (v : View) (settling : Settling v) (next : v.todo = task :: rest)
    (performs : Connection.Performs read v.conn task answer effect) (other : task ≠ .handleClose) :
    effect.conn.tcp.state = v.conn.tcp.state := by
  obtain ⟨notUp, notSet⟩ := settling.todo task (by simp [next])
  exact Connection.performs_state performs notUp other notSet

theorem exec_masked (v : View) (settling : Settling v) (next : v.todo = task :: rest)
    (performs : Connection.Performs read v.conn task answer effect) (closed : effect.conn.tcp.state = .kDisconnected) :
    effect.conn.tcp.channel.events = KNoneEvent ∧ ∀ other ∈ (v.apply rest effect).todo, other.carries = false := by
  have notUp := (settling.todo task (by simp [next])).1
  by_cases closes : task = .handleClose
  · have silent : task.carries = false := by rw [closes]; rfl
    exact ⟨Connection.performs_masked performs settling.mirrors notUp silent (.inr (.inl closes)),
      (exec_pushed v settling next performs).2 silent⟩
  · rw [exec_state v settling next performs closes] at closed
    obtain ⟨masked, waiting⟩ := settling.masked closed
    have silent := waiting task (by simp [next])
    exact ⟨Connection.performs_masked performs settling.mirrors notUp silent (.inl masked),
      (exec_pushed v settling next performs).2 silent⟩

theorem settling_exec_closing (v : View) (settling : Settling v) (next : v.todo = task :: rest)
    (performs : Connection.Performs read v.conn task answer effect) (mapped : (v.apply rest effect).mapped = true)
    (closed : effect.conn.tcp.state = .kDisconnected) :
    .closeCallback ∈ (v.apply rest effect).todo ∨ .removeConnectionInLoop ∈ (v.apply rest effect).everywhere := by
  obtain ⟨before, kept⟩ : v.mapped = true ∧ effect.erase = false := by simpa [apply] using mapped
  by_cases closes : task = .handleClose
  · subst closes
    cases performs with
    | handleClose answer tcp disabled => exact .inl (by simp [apply])
  · rw [exec_state v settling next performs closes] at closed
    rcases settling.closing before closed with callback | removal
    · rw [next] at callback
      rcases List.mem_cons.mp callback with rfl | later
      · cases performs
        cases shared : v.shared <;> exact .inr (by simp [everywhere, apply, shared, Connection.plain])
      · exact .inl (List.mem_append_right _ later)
    · rcases (left_everywhere v next _).mp removal with rfl | later
      · cases performs
        cases kept
      · exact .inr (everywhere_apply v _ (.inr (.inr later)))

theorem exec_cleared (v : View) (settling : Settling v) (next : v.todo = task :: rest)
    (performs : Connection.Performs read v.conn task answer effect)
    (entry : effect.conn.tcp.slot.channels.isSome = true) : Owned (v.apply rest effect) := by
  have late := settling.toLate
  cases owns : task.owns with
  | false =>
      refine exec_keeps_owner v next performs owns ?_
      cases works : task.works with
      | true => exact late.owned (.inr (.inr ⟨task, by simp [next], works⟩))
      | false =>
          cases performs with
          | notice notice => exact settling.cleared entry
          | _ => cases works
  | true =>
      cases task with
      | connectEstablished => exact absurd rfl (late.todo _ (by simp [next])).1
      | setDisconnected => exact absurd rfl (late.todo _ (by simp [next])).2
      | channelRemove =>
          cases performs with
          | channelRemove answer tcp removed =>
              simp only [TcpConnection.channelRemove, remove_unregistered () v.conn.tcp.channel v.conn.tcp.slot
                late.mirrors, TcpConnection.withChannel, Except.ok.injEq] at removed
              subst removed
              cases entry
      | connectDestroyed =>
          refine .inr ⟨.channelRemove, ?_, rfl⟩
          rw [everywhere, (exec_destroyed v late next performs).1]
          simp
      | removeConnectionInLoop =>
          cases performs
          exact .inr ⟨.connectDestroyed, everywhere_apply v _ (.inr (.inl (List.mem_singleton_self _))), rfl⟩
      | _ => cases owns

theorem settling_exec (v : View) (settling : Settling v) (next : v.todo = task :: rest)
    (performs : Connection.Performs read v.conn task answer effect) : Settling (v.apply rest effect) := by
  have notUp := (settling.todo task (by simp [next])).1
  refine { late_exec v settling.toLate next performs with
    begun := ?_
    isOpen := fun opens => ?_
    listed := Connection.performs_listed performs settling.mirrors settling.listed
    masked := exec_masked v settling next performs
    pushed := (exec_pushed v settling next performs).1
    closing := settling_exec_closing v settling next performs
    cleared := exec_cleared v settling next performs }
  · rcases performs_disconnects performs notUp with closed | ⟨same, -⟩
    · exact fun connecting => absurd (closed.symm.trans connecting) StateE.noConfusion
    · exact fun connecting => settling.begun (same.symm.trans connecting)
  · obtain ⟨same, notClosed⟩ := (performs_disconnects performs notUp).resolve_left opens
    have before : v.conn.tcp.state ≠ .kDisconnected := fun closed => opens (same.trans closed)
    refine Connection.performs_open performs (settling.isOpen before) notUp notClosed
      (settling.todo task (by simp [next])).2 fun removes => ?_
    exact before (settling.leaving task (next_everywhere v next) (by rw [removes]; rfl))

end

theorem settling_fetch (v : View) (task : Task) (queue : List Task) (settling : Settling v) (idle : v.todo = [])
    (drained : v.active = []) (next : v.queue = task :: queue) : Settling (v.fetch task queue) := by
  have silent : ∀ other ∈ (v.fetch task queue).todo, other.carries = false := by
    intro other member
    rw [List.mem_singleton.mp member]
    rcases settling.queue task (by simp [next]) with rfl | ⟨notice, rfl⟩ <;> rfl
  have same : ∀ other, other ∈ (v.fetch task queue).everywhere ↔ other ∈ v.everywhere := by
    simp [everywhere, fetch, idle, next]
  exact
    { late_fetch v task queue settling.toLate idle drained next with
      begun := settling.begun
      isOpen := settling.isOpen
      listed := settling.listed
      masked := fun closed => ⟨(settling.masked closed).1, silent⟩
      pushed := ⟨[], _, rfl, fun other member => absurd member List.not_mem_nil, silent⟩
      closing := fun mapped closed => by
        rcases settling.closing mapped closed with callback | removal
        · rw [idle] at callback
          cases callback
        · exact .inr ((same _).mpr removal)
      cleared := fun entry => by
        rcases settling.cleared entry with mapped | ⟨owner, member, owns⟩
        · exact .inl mapped
        · exact .inr ⟨owner, (same owner).mpr member, owns⟩ }

-- A call of the user, which finds state_ kConnected.
theorem settling_push (v : View) (task : Task) (settling : Settling v) (connected : v.conn.tcp.state = .kConnected)
    (carries : task.carries = true) : Settling { v with todo := task :: v.todo } := by
  have opens : v.conn.tcp.state ≠ .kDisconnected := by rw [connected]; exact StateE.noConfusion
  obtain ⟨ahead, base, split, front, back⟩ := settling.pushed
  refine { late_push v task settling.toLate connected ?_ ?_ ?_ with
    begun := settling.begun
    isOpen := settling.isOpen
    listed := settling.listed
    masked := fun closed => absurd closed opens
    pushed := ⟨task :: ahead, base, congrArg (List.cons task) split, fun other member => ?_, back⟩
    closing := fun _ closed => absurd closed opens
    cleared := fun _ => .inl (settling.mapped opens) }
  · cases task <;> first | rfl | cases carries
  · rintro rfl
    cases carries
  · rintro rfl
    cases carries
  · rcases List.mem_cons.mp member with rfl | old
    · exact carries
    · exact front other old

theorem settling_store (v : View) (settling : Settling v) (connected : v.conn.tcp.state = .kConnected) :
    Settling (v.setState .kDisconnecting) := by
  have opens : v.conn.tcp.state ≠ .kDisconnected := by rw [connected]; exact StateE.noConfusion
  exact
    { late_store v settling.toLate connected with
      begun := StateE.noConfusion
      isOpen := fun _ => (settling.isOpen opens).set_state .kDisconnecting
      listed := settling.listed
      masked := fun closed => StateE.noConfusion closed
      pushed := settling.pushed
      closing := fun _ closed => StateE.noConfusion closed
      cleared := settling.cleared }

theorem settling_dispatch (v : View) (revents : EventMask) (active : List EventMask) (settling : Settling v)
    (idle : v.todo = []) (next : v.active = revents :: active) :
    Settling { v with active := active, todo := handleEventWithGuard revents } := by
  have late := late_dispatch v revents active settling.toLate idle next
  have silent : ∀ task ∈ handleEventWithGuard revents, task.carries = false := by
    intro task member
    have among := (dispatch_order revents).subset member
    simp only [List.mem_cons, List.not_mem_nil, or_false] at among
    rcases among with rfl | rfl | rfl | rfl <;> rfl
  refine { late with
    begun := settling.begun
    isOpen := settling.isOpen
    listed := settling.listed
    masked := fun closed => ⟨(settling.masked closed).1, silent⟩
    pushed := ⟨[], _, rfl, fun task member => absurd member List.not_mem_nil, silent⟩
    closing := fun mapped closed => ?_
    cleared := fun entry => ?_ }
  · rcases settling.closing mapped closed with callback | removal
    · rw [idle] at callback
      cases callback
    · simp only [everywhere, idle, List.nil_append] at removal
      exact .inr (by simp only [everywhere, List.append_assoc]; exact List.mem_append_right _ removal)
  · rcases settling.cleared entry with mapped | ⟨owner, member, owns⟩
    · exact .inl mapped
    · simp only [everywhere, idle, List.nil_append] at member
      exact .inr ⟨owner, by simp only [everywhere, List.append_assoc]; exact List.mem_append_right _ member, owns⟩

theorem settling_moves (v w : View) (life : LifeLabel) (settling : Settling v) (onLoop : OnLoop life)
    (moves : Moves v life w) : Settling w := by
  cases moves with
  | poll revents drained idle registered =>
      exact { late_moves v _ _ settling.toLate onLoop (.poll revents drained idle registered) with
        begun := settling.begun
        isOpen := settling.isOpen
        listed := settling.listed
        masked := settling.masked
        pushed := settling.pushed
        closing := settling.closing
        cleared := settling.cleared }
  | dispatch revents active idle next => exact settling_dispatch v revents active settling idle next
  | functor read answer task queue effect idle drained next performs =>
      exact settling_exec _ (settling_fetch v task queue settling idle drained next) rfl performs
  | exec read answer task rest effect next performs => exact settling_exec v settling next performs
  | mainFunctor main next =>
      exact { late_main_functor v main settling.toLate next with
        begun := settling.begun
        isOpen := settling.isOpen
        listed := settling.listed
        masked := settling.masked
        pushed := settling.pushed
        closing := fun mapped => by cases mapped
        cleared := fun _ => .inr ⟨.connectDestroyed, by simp [everywhere], rfl⟩ }
  | ignored life published refused => exact settling
  | userSend data published connected => exact settling_push v _ settling connected rfl
  | userShutdown published connected =>
      exact settling_store _ (settling_push v .shutdownInLoop settling connected rfl) connected
  | send => exact onLoop.elim
  | shutdown => exact onLoop.elim
  | queueSend thread data calling => cases (settling.calls thread).symm.trans calling
  | storeDisconnecting thread calling => cases (settling.calls thread).symm.trans calling
  | queueShutdown thread calling => cases (settling.calls thread).symm.trans calling
  | destroyHere => exact onLoop.elim
  | destroyThere => exact onLoop.elim

def Settles (v : View) : Prop := Accepted v ∧ v.mapped = true ∨ Settling v

theorem fresh_settles (v : View) (fresh : System.Fresh v) : Settles v :=
  .inl ⟨fresh_accepted v fresh, fresh_mapped v fresh⟩

theorem settles_moves (v w : View) (life : LifeLabel) (settles : Settles v) (onLoop : OnLoop life)
    (moves : Moves v life w) : Settles w := by
  rcases settles with ⟨accepted, mapped⟩ | settling
  · obtain ⟨further, same⟩ := accepted_moves v w life accepted moves
    have still : w.mapped = true := (same (by rintro rfl; exact onLoop)).trans mapped
    rcases further with waiting | established
    · exact .inl ⟨waiting, still⟩
    · exact .inr (established_settling w established still)
  · exact .inr (settling_moves v w life settling onLoop moves)

end View

-- What the server has of a connection that is up, and of one it is done with.
structure Connection.Serving (conn : Connection) : Prop where
  state : conn.tcp.state = .kConnected ∨ conn.tcp.state = .kDisconnecting
  slot : conn.tcp.slot = ⟨some (), some (conn.tcp.channel.events, ())⟩
  events : conn.tcp.channel.events =
    if conn.tcp.outputBuffer.readable = [] then KReadEvent else KReadEvent ||| KWriteEvent

structure Connection.Gone (conn : Connection) : Prop where
  state : conn.tcp.state = .kDisconnected
  slot : conn.tcp.slot = Slot.empty
  events : conn.tcp.channel.events = KNoneEvent

theorem View.settling_serving (v : View) (settling : Settling v) (opens : v.conn.tcp.state ≠ .kDisconnected) :
    v.mapped = true ∧ v.conn.Serving := by
  have isOpen := settling.isOpen opens
  have entry := settling.listed isOpen.registered.1
  refine ⟨settling.mapped opens, ?_, ?_, isOpen.events⟩
  · cases state : v.conn.tcp.state with
    | kConnected => exact .inl rfl
    | kDisconnecting => exact .inr rfl
    | kConnecting => exact absurd state settling.begun
    | kDisconnected => exact absurd state opens
  · cases slot : v.conn.tcp.slot with
    | mk channels interest =>
        rw [slot] at entry
        have present := isOpen.registered.2
        rw [slot] at present
        exact congr (congrArg Slot.mk entry) present

-- A closed connection that nothing is left to be done for is not held by anything
-- that could still reach its channel.
theorem View.settling_gone (v : View) (settling : Settling v) (closed : v.conn.tcp.state = .kDisconnected)
    (rest : ∀ task ∈ v.everywhere, ∃ notice, task = .notice notice) :
    v.mapped = false ∧ v.conn.Gone ∧ v.active = [] := by
  have unmapped : v.mapped = false := by
    by_contra mapped
    rcases settling.closing (by simpa using mapped) closed with callback | removal
    · obtain ⟨notice, same⟩ := rest .closeCallback (by simp [everywhere, callback])
      cases same
    · obtain ⟨notice, same⟩ := rest .removeConnectionInLoop removal
      cases same
  have unowned : ¬Owned v := by
    rintro (mapped | ⟨task, member, owns⟩)
    · cases unmapped.symm.trans mapped
    · obtain ⟨notice, rfl⟩ := rest task member
      cases owns
  have dead : ¬Live v := fun live => unowned (settling.owned live)
  refine ⟨unmapped, ⟨closed, ?_, (settling.masked closed).1⟩, ?_⟩
  · cases slot : v.conn.tcp.slot with
    | mk channels interest =>
        have entry : ¬channels.isSome = true := fun entry => unowned (settling.cleared (by rw [slot]; exact entry))
        have absent : ¬interest.isSome = true := fun present => dead (.inl (by rw [slot]; exact present))
        rw [Option.not_isSome_iff_eq_none] at entry absent
        rw [entry, absent]
        rfl
  · by_contra busy
    exact dead (.inr (.inl busy))

namespace System

-- Nothing is queued or under way for the connection but callbacks of the user.
def AtRest (s : System) (id : ConnId) : Prop :=
  ∀ l task, .task id task ∈ (s.loops l).todo ++ (s.loops l).queue.contents → ∃ notice, task = .notice notice

theorem at_rest_everywhere (s : System) (id : ConnId) (conn : Connection) (rest : s.AtRest id) :
    ∀ task ∈ (s.see id conn).everywhere, ∃ notice, task = .notice notice := by
  intro task member
  simp only [View.everywhere, see, List.mem_append, mem_tasks_of] at member
  rcases member with (todo | queued) | main
  · exact rest conn.loop task (List.mem_append_left _ todo)
  · exact rest conn.loop task (List.mem_append_right _ queued)
  · by_cases here : conn.loop = mainLoop
    · simp [here] at main
    · rw [if_neg here, mem_tasks_of] at main
      exact rest mainLoop task (List.mem_append_right _ main)

theorem everywhere_at_rest (s : System) (id : ConnId) (conn : Connection) (home : Home s) (found : s.conns id = some conn)
    (rest : ∀ task ∈ (s.see id conn).everywhere, ∃ notice, task = .notice notice) : s.AtRest id := by
  have here := s.loop_of_found id conn found
  intro l task member
  refine rest task ?_
  simp only [View.everywhere, see, List.mem_append, mem_tasks_of]
  rcases List.mem_append.mp member with todo | queued
  · have own := (home.loops l).todo id task todo
    rw [here, Option.some.injEq] at own
    exact .inl (.inl (own ▸ todo))
  · by_cases own : conn.loop = l
    · exact .inl (.inr (own ▸ queued))
    · rcases (home.loops l).queue id task queued with placed | ⟨main, -, -⟩
      · rw [here, Option.some.injEq] at placed
        exact absurd placed own
      · subst main
        exact .inr (by rwa [if_neg own, mem_tasks_of])

theorem on_loop_guards (s : System) (label : Label) (onLoop : label.OnLoop) : s.Guards (fun _ _ => View.OnLoop) label :=
  guards_target View.OnLoop s label fun id life => s.on_loop_target label id life onLoop

-- What the steps of one connection keep, a step of the server keeps for all.
theorem step_on_loop (inv : View → Prop) (created : ∀ v, Fresh v → inv v)
    (preserved : ∀ v w life, inv v → View.OnLoop life → View.Moves v life w → inv w) (s t : System) (label : Label)
    (held : EveryView (fun _ => inv) s) (onLoop : label.OnLoop) (taken : s.step label = some t) :
    EveryView (fun _ => inv) t :=
  ⟨step_home s t label held.1 taken,
    step_every_view _ (fun _ => inv) (fun _ _ _ => trivial) (fun _ => created) (fun _ => preserved) s t label held.1 held.2
      (s.on_loop_guards label onLoop) taken⟩

theorem step_settles (s t : System) (label : Label) (settles : EveryView (fun _ => View.Settles) s) (onLoop : label.OnLoop)
    (taken : s.step label = some t) : EveryView (fun _ => View.Settles) t :=
  step_on_loop View.Settles View.fresh_settles View.settles_moves s t label settles onLoop taken

theorem every_settles (name : List Char) (listen : Base.InetAddress) (labels : List Label) (s : System)
    (onLoop : ∀ label ∈ labels, label.OnLoop) (ran : run step (.new name listen) labels = some s) :
    EveryView (fun _ => View.Settles) s :=
  guarded_invariant step (fun _ label => label.OnLoop) _
    (fun s label t settles here taken => step_settles s t label settles here taken) _ s labels (new_every_view _ name listen)
    (guarded_labels step _ Label.OnLoop (fun _ _ here => here) _ labels onLoop) ran

theorem accepted_busy (s : System) (id : ConnId) (conn : Connection) (rest : s.AtRest id)
    (accepted : (s.see id conn).Accepted) : False := by
  have waiting : .connectEstablished ∈ (s.see id conn).everywhere := by
    rcases accepted.waits with ⟨-, todo, -⟩ | ⟨-, -, queue⟩
    · simp [View.everywhere, todo]
    · simp [View.everywhere, queue]
  obtain ⟨notice, same⟩ := s.at_rest_everywhere id conn rest _ waiting
  cases same

end System

-- With no task on the way every connection is one or the other, in whatever loop
-- it lives and whatever has happened to it.
theorem settled_at_rest (name : List Char) (listen : Base.InetAddress) (labels : List Label) (s : System)
    (id : ConnId) (conn : Connection) (onLoop : ∀ label ∈ labels, label.OnLoop)
    (ran : run System.step (.new name listen) labels = some s) (found : s.conns id = some conn) (rest : s.AtRest id) :
    s.connectionMap conn.name = some id ∧ conn.Serving ∨
      s.connectionMap conn.name ≠ some id ∧ conn.Gone ∧ ∀ l revents, (id, revents) ∉ (s.loops l).active := by
  obtain ⟨home, settles⟩ := System.every_settles name listen labels s onLoop ran
  rcases settles id _ (System.view_found s id conn found) with ⟨accepted, -⟩ | settling
  · exact (s.accepted_busy id conn rest accepted).elim
  · by_cases closed : conn.tcp.state = .kDisconnected
    · obtain ⟨unmapped, gone, drained⟩ :=
        (s.see id conn).settling_gone settling closed (s.at_rest_everywhere id conn rest)
      refine .inr ⟨by simpa [System.see] using unmapped, gone, fun l revents reported => ?_⟩
      have placed := (home.loops l).active id revents reported
      rw [System.loop_of_found s id conn found, Option.some.injEq] at placed
      rw [← placed] at reported
      have seen := (mem_masks_of id revents _).mpr reported
      rw [show masksOf id (s.loops conn.loop).active = [] from drained] at seen
      cases seen
    · obtain ⟨mapped, serving⟩ := (s.see id conn).settling_serving settling closed
      exact .inl ⟨by simpa [System.see] using mapped, serving⟩

-- The peer closes the connection of loop 1, and the server's loop takes it out.
def closesFromPeer : List Label :=
  comesUp ++ [.poll 1 [(1, EPOLLIN)], .dispatch 1, .exec 1 (.read (.arrived [])), .exec 1 .none, .exec 1 .none,
    .userReturns 1, .exec 1 .none, .swap 0, .functor 0 .none, .swap 1, .functor 1 .none, .exec 1 .none]

theorem settled_at_rest_gone :
    ∃ s conn, run System.step listening closesFromPeer = some s ∧ s.conns 1 = some conn ∧ s.AtRest 1 ∧
      s.connectionMap conn.name ≠ some 1 ∧ conn.Gone := by
  obtain ⟨s, conn, ran, found, facts⟩ := outcome_found closesFromPeer
    (fun s conn => ((s.see 1 conn).everywhere, s.connectionMap conn.name)) ([], none) (by decide +kernel)
  obtain ⟨idle, erased⟩ := Prod.mk.inj facts
  have home := (System.every_settles _ _ closesFromPeer s (by decide) ran).1
  have rest := s.everywhere_at_rest 1 conn home found (by simp [idle])
  rcases settled_at_rest _ _ closesFromPeer s 1 conn (by decide) ran found rest with ⟨mapped, -⟩ | ⟨unmapped, gone, -⟩
  · cases erased.symm.trans mapped
  · exact ⟨s, conn, ran, found, rest, unmapped, gone⟩

end Cmuduo.Net
