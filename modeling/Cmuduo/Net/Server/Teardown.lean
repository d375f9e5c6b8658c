import Cmuduo.Net.Server.StateOrder

set_option autoImplicit false

namespace Cmuduo.Net

open Base Machine

-- What a call of connectDestroyed is to leave behind: the state, a callback
-- that found connected() false, no events, no channel in the poller.
structure Connection.TornDown (conn : Connection) : Prop where
  state : conn.tcp.state = .kDisconnected
  told : ∃ closing, .connectionCallback closing false ∈ conn.events
  events : conn.tcp.channel.events = KNoneEvent
  slot : conn.tcp.slot = Slot.empty

-- The states that the test in connectDestroyed provides for: nothing of the
-- closing has been done, or handleClose has done all of it but the removal.
def Connection.Foreseen (conn : Connection) : Prop :=
  conn.tcp.state = .kConnected ∨ conn.tcp.state = .kDisconnected ∧ conn.tcp.channel.events = KNoneEvent

instance (conn : Connection) : Decidable conn.Foreseen :=
  inferInstanceAs (Decidable (_ ∨ _))

-- What connectDestroyed does on a kConnected connection, after its test.
def closingTasks : List Task := [.setDisconnected, .connectionCallback true, .channelRemove]

namespace View

-- A closed connection has told the user so, or is about to. A fetched
-- connectDestroyed is alone; on a loop's todo it never waits.
structure Tells (conn : Connection) (todo : List Task) : Prop where
  mirrors : Mirrors () conn.tcp.channel conn.tcp.slot
  told : conn.tcp.state = .kDisconnected →
    (∃ closing, .connectionCallback closing false ∈ conn.events) ∨ .connectionCallback true ∈ todo
  closing : .setDisconnected ∈ todo → ∃ ahead, todo = ahead ++ closingTasks ∧ .setDisconnected ∉ ahead
  destroys : .connectDestroyed ∈ todo → todo = [.connectDestroyed]

structure Telling (v : View) : Prop where
  tells : Tells v.conn v.todo
  waits : .connectDestroyed ∉ v.todo
  queue : .setDisconnected ∉ v.queue

theorem fresh_telling (v : View) (fresh : System.Fresh v) : Telling v := by
  obtain ⟨name, loop, sockfd, writeComplete, highWater, mark, rfl⟩ := fresh
  cases loop == mainLoop with
  | true => exact ⟨⟨.inr ⟨rfl, rfl⟩, StateE.noConfusion, by simp [accepted], by simp [accepted]⟩, by simp [accepted],
      by simp [accepted]⟩
  | false => exact ⟨⟨.inr ⟨rfl, rfl⟩, StateE.noConfusion, by simp [accepted], by simp [accepted]⟩, by simp [accepted],
      by simp [accepted]⟩

section
variable {read : Captured → Option CppString} {conn : Connection} {task : Task} {rest : List Task} {answer : Answer}
  {effect : Effect}

theorem performs_events (performs : Connection.Performs read conn task answer effect) :
    ∃ more, effect.conn.events = conn.events ++ more ∧
      (task = .connectionCallback true → .connectionCallback true conn.tcp.connected ∈ more) := by
  cases performs with
  | connectionCallback closing =>
      refine ⟨[.connectionCallback closing conn.tcp.connected], rfl, fun same => ?_⟩
      cases same
      exact List.mem_singleton_self _
  | closeCallback => exact ⟨[.closeCallback], rfl, Task.noConfusion⟩
  | connectDestroyed => exact ⟨[.connectDestroyed], rfl, Task.noConfusion⟩
  | _ => exact ⟨[], (List.append_nil _).symm, Task.noConfusion⟩

theorem performs_destroys (performs : Connection.Performs read conn task answer effect) :
    Task.connectDestroyed ∉ effect.front ∧ Task.setDisconnected ∉ effect.queue ∧
      (.setDisconnected ∈ effect.front →
        task = .connectDestroyed ∧ effect.front = closingTasks ∧ effect.remove = false) := by
  have queued : Task.setDisconnected ∉ effect.queue := by
    intro member
    rcases performs_queue performs _ member with ⟨destroyed, -⟩ | ⟨notice, noticed⟩
    · cases destroyed
    · cases noticed
  cases performs with
  | handleClose => exact ⟨by simp, queued, by simp⟩
  | handleRead result outcome =>
      refine ⟨?_, queued, fun member => ?_⟩
      · cases outcome <;> simp [TcpConnection.ReadOutcome.next]
      · cases outcome <;> simp [TcpConnection.ReadOutcome.next] at member
  | connectEstablished => exact ⟨by simp, queued, by simp⟩
  | connectDestroyed =>
      by_cases connected : conn.tcp.state = .kConnected
      · rw [if_pos connected]
        exact ⟨by simp, queued, fun _ => ⟨rfl, rfl, rfl⟩⟩
      · rw [if_neg connected]
        exact ⟨by simp, queued, by simp⟩
  | _ => exact ⟨List.not_mem_nil, queued, fun member => absurd member List.not_mem_nil⟩

theorem exec_told (tells : Tells conn (task :: rest)) (performs : Connection.Performs read conn task answer effect)
    (closed : effect.conn.tcp.state = .kDisconnected) :
    (∃ closing, .connectionCallback closing false ∈ effect.conn.events) ∨
      .connectionCallback true ∈ effect.front ++ rest := by
  by_cases closes : task = .handleClose
  · subst closes
    cases performs
    exact .inr (by simp)
  by_cases sets : task = .setDisconnected
  · subst sets
    obtain ⟨ahead, whole, first⟩ := tells.closing (by simp)
    cases ahead with
    | nil => exact .inr (by simp [(List.cons.inj whole).2])
    | cons head ahead => simp [← (List.cons.inj whole).1] at first
  by_cases rises : task = .connectEstablished
  · subst rises
    cases performs with
    | connectEstablished answer tcp up =>
        have state : tcp.state = .kDisconnected := closed
        rw [conn.tcp.connect_established_state tcp up] at state
        cases state
  have same := Connection.performs_state performs rises closes sets
  obtain ⟨more, events, calls⟩ := performs_events performs
  rw [events]
  rcases tells.told (same ▸ closed) with ⟨closing, told⟩ | waiting
  · exact .inl ⟨closing, List.mem_append_left _ told⟩
  · rcases List.mem_cons.mp waiting with now | later
    · have shown : conn.tcp.connected = false := by simp [TcpConnection.connected, same.symm.trans closed]
      rw [shown] at calls
      exact .inl ⟨true, List.mem_append_right _ (calls now.symm)⟩
    · exact .inr (List.mem_append_right _ later)

theorem exec_closing (v : View) (tells : Tells v.conn (task :: rest))
    (performs : Connection.Performs read v.conn task answer effect) (member : .setDisconnected ∈ (v.apply rest effect).todo) :
    ∃ ahead, (v.apply rest effect).todo = ahead ++ closingTasks ∧ .setDisconnected ∉ ahead := by
  obtain ⟨-, -, whole⟩ := performs_destroys performs
  have alone : task = .connectDestroyed → rest = [] := by
    rintro rfl
    exact (List.cons.inj (tells.destroys (by simp))).2
  rcases apply_todo v _ member with front | removal | old
  · obtain ⟨destroys, front, stays⟩ := whole front
    exact ⟨[], by simp [apply, front, stays, alone destroys], List.not_mem_nil⟩
  · cases removal
  · obtain ⟨ahead, parts, first⟩ := tells.closing (List.mem_cons_of_mem task old)
    cases ahead with
    | nil =>
        rw [(List.cons.inj parts).2] at old
        simp at old
    | cons head ahead =>
        obtain ⟨rfl, rfl⟩ := List.cons.inj parts
        refine ⟨_ ++ ahead, (List.append_assoc _ _ _).symm, fun front => ?_⟩
        rcases List.mem_append.mp front with front | front
        · rcases List.mem_append.mp front with front | removal
          · have empty := alone (whole front).1
            simp [closingTasks] at empty
          · split at removal
            · simp at removal
            · cases removal
        · exact first (List.mem_cons_of_mem _ front)

theorem telling_exec (v : View) (waits : .connectDestroyed ∉ rest) (queue : .setDisconnected ∉ v.queue)
    (tells : Tells v.conn (task :: rest)) (performs : Connection.Performs read v.conn task answer effect) :
    Telling (v.apply rest effect) := by
  obtain ⟨notDestroyed, notQueued, -⟩ := performs_destroys performs
  have still : .connectDestroyed ∉ (v.apply rest effect).todo := by
    intro member
    rcases apply_todo v _ member with front | removal | old
    · exact notDestroyed front
    · cases removal
    · exact waits old
  refine ⟨⟨Connection.performs_mirrors performs tells.mirrors, fun closed => ?_, exec_closing v tells performs,
    fun member => absurd member still⟩, still, ?_⟩
  · refine (exec_told tells performs closed).imp_right fun waiting => ?_
    rcases List.mem_append.mp waiting with front | old
    · exact List.mem_append_left _ (List.mem_append_left _ front)
    · exact List.mem_append_right _ old
  · intro member
    rcases List.mem_append.mp member with old | new
    · exact queue old
    · exact notQueued new

end

theorem telling_ahead (v : View) (task : Task) (telling : Telling v) (carries : task.carries = true) :
    Tells v.conn (task :: v.todo) := by
  refine ⟨telling.tells.mirrors, fun closed => (telling.tells.told closed).imp_right (List.mem_cons_of_mem task), ?_, ?_⟩
  · intro member
    have other : Task.setDisconnected ≠ task := by
      rintro rfl
      cases carries
    obtain ⟨ahead, parts, first⟩ := telling.tells.closing ((List.mem_cons.mp member).resolve_left other)
    exact ⟨task :: ahead, by rw [parts, List.cons_append], by simp [other, first]⟩
  · intro member
    have other : Task.connectDestroyed ≠ task := by
      rintro rfl
      cases carries
    exact absurd ((List.mem_cons.mp member).resolve_left other) telling.waits

theorem tells_stored (conn : Connection) (todo : List Task) (tells : Tells conn todo) :
    Tells (System.setState conn .kDisconnecting) todo :=
  ⟨tells.mirrors, StateE.noConfusion, tells.closing, tells.destroys⟩

theorem tells_fetched (v : View) (task : Task) (telling : Telling v) (idle : v.todo = [])
    (first : task ≠ .setDisconnected) : Tells v.conn [task] := by
  have told := telling.tells.told
  rw [idle] at told
  refine ⟨telling.tells.mirrors, fun closed => ?_, fun member => ?_, fun member => ?_⟩
  · exact .inl ((told closed).resolve_right List.not_mem_nil)
  · exact absurd (List.mem_singleton.mp member).symm first
  · rw [List.mem_singleton.mp member]

theorem telling_moves (v w : View) (life : LifeLabel) (telling : Telling v) (moves : Moves v life w) : Telling w := by
  obtain ⟨tells, waits, queue⟩ := telling
  cases moves with
  | poll => exact ⟨tells, waits, queue⟩
  | dispatch revents active idle =>
      have handlers := (dispatch_order revents).subset
      have told := tells.told
      rw [idle] at told
      refine ⟨⟨tells.mirrors, fun closed => ?_, fun member => ?_, fun member => ?_⟩, fun member => ?_, queue⟩
      · exact .inl ((told closed).resolve_right List.not_mem_nil)
      · simpa using handlers member
      · simpa using handlers member
      · simpa using handlers member
  | functor read answer task rest effect idle drained next performs =>
      rw [next, List.mem_cons, not_or] at queue
      exact telling_exec (v.fetch task rest) List.not_mem_nil queue.2
        (tells_fetched v task ⟨tells, waits, by simp [next, queue]⟩ idle (Ne.symm queue.1)) performs
  | exec read answer task rest effect next performs =>
      rw [next] at tells waits
      exact telling_exec v (fun member => waits (List.mem_cons_of_mem task member)) queue tells performs
  | mainFunctor => exact ⟨tells, waits, by simpa using queue⟩
  | ignored => exact ⟨tells, waits, queue⟩
  | userSend => exact ⟨telling_ahead v _ ⟨tells, waits, queue⟩ rfl, by simpa using waits, queue⟩
  | userShutdown =>
      exact ⟨tells_stored _ _ (telling_ahead v .shutdownInLoop ⟨tells, waits, queue⟩ rfl), by simpa using waits, queue⟩
  | send => exact ⟨⟨tells.mirrors, tells.told, tells.closing, tells.destroys⟩, waits, queue⟩
  | queueSend => exact ⟨tells, waits, by simpa [setCall] using queue⟩
  | shutdown => exact ⟨tells, waits, queue⟩
  | storeDisconnecting => exact ⟨tells_stored _ _ tells, waits, queue⟩
  | queueShutdown => exact ⟨tells, waits, by simpa [setCall] using queue⟩
  | destroyHere effect mapped shared idle drained performs =>
      exact telling_exec ({ v with mapped := false }.fetch .connectDestroyed v.queue) List.not_mem_nil queue
        (tells_fetched v .connectDestroyed ⟨tells, waits, queue⟩ idle Task.noConfusion) performs
  | destroyThere => exact ⟨tells, waits, by simpa using queue⟩

-- How far one call of connectDestroyed has come after its test: mask is what
-- events() will be when it returns. Only before its store of state_ can the
-- user's calls still come ahead of it.
inductive Destroying (mask : EventMask) (v : View) : Prop where
  | tested (ahead : List Task) (todo : v.todo = ahead ++ closingTasks) (carried : ∀ task ∈ ahead, task.carries = true)
      (opened : v.conn.tcp.state ≠ .kDisconnected) (empty : mask = KNoneEvent)
  | disabled (todo : v.todo = [.connectionCallback true, .channelRemove]) (closed : v.conn.tcp.state ≠ .kConnected)
      (events : v.conn.tcp.channel.events = mask)
  | called (todo : v.todo = [.channelRemove]) (closed : v.conn.tcp.state ≠ .kConnected)
      (events : v.conn.tcp.channel.events = mask)

-- The call has its store of kDisconnected ahead, or the state is that already.
def Closes (v : View) : Prop := .setDisconnected ∈ v.todo ∨ v.conn.tcp.state = .kDisconnected

-- The task that a step runs.
def Runs (v : View) (task : Task) : LifeLabel → Prop
  | .functor _ _ => v.queue.head? = some task
  | .exec _ _ => v.todo.head? = some task
  | .destroy => v.shared = true ∧ task = .connectDestroyed
  | _ => False

theorem destroying_busy (mask : EventMask) (v : View) (destroying : Destroying mask v) : v.todo ≠ [] := by
  cases destroying with
  | tested ahead todo => simp [todo, closingTasks]
  | disabled todo => simp [todo]
  | called todo => simp [todo]

section
variable {read : Captured → Option CppString} {task : Task} {rest : List Task} {answer : Answer} {effect : Effect}

theorem carries_stays (v : View) (carries : task.carries = true)
    (performs : Connection.Performs read v.conn task answer effect) :
    (v.apply rest effect).todo = rest ∧ effect.conn.tcp.state = v.conn.tcp.state := by
  have aside : task.touches = false := by
    cases task with
    | sendInLoop payload => rfl
    | shutdownInLoop => rfl
    | _ => cases carries
  have stays : effect.remove = false := by
    by_contra removes
    rw [performs_remove performs (by simpa using removes)] at carries
    cases carries
  have front := (Connection.performs_aside performs aside).1
  exact ⟨by simp [apply, front, stays], (Connection.aside_mirrored performs aside).state⟩

theorem closes_ahead (v : View) (ahead : List Task) (todo : v.todo = ahead ++ closingTasks) : Closes v := by
  refine .inl ?_
  rw [todo]
  exact List.mem_append_right _ (by simp [closingTasks])

theorem closes_behind (v : View) (todo : .setDisconnected ∉ v.todo) : Closes v ↔ v.conn.tcp.state = .kDisconnected :=
  or_iff_right todo

theorem destroying_exec (mask : EventMask) (v : View) (destroying : Destroying mask v)
    (mirrors : Mirrors () v.conn.tcp.channel v.conn.tcp.slot) (next : v.todo = task :: rest)
    (more : task ≠ .channelRemove) (performs : Connection.Performs read v.conn task answer effect) :
    Destroying mask (v.apply rest effect) ∧ (Closes (v.apply rest effect) ↔ Closes v) := by
  cases destroying with
  | tested ahead todo carried opened empty =>
      refine (and_congr_right fun _ => iff_true_right (closes_ahead v ahead todo)).mpr ?_
      cases ahead with
      | nil =>
          obtain ⟨rfl, rfl⟩ := List.cons.inj (next.symm.trans todo)
          cases performs with
          | setDisconnected answer tcp disabled =>
              have state := (TcpConnection.disable_all_mirrored _ tcp disabled).state
              have events := TcpConnection.disable_all_events (v.conn.tcp.setState .kDisconnected) tcp mirrors disabled
              exact ⟨.disabled rfl (by simp [apply, Connection.plain, state, TcpConnection.setState])
                (events.trans empty.symm), .inr state⟩
      | cons head ahead =>
          obtain ⟨rfl, rfl⟩ := List.cons.inj (next.symm.trans todo)
          obtain ⟨left, state⟩ := carries_stays v (carried task (by simp)) performs
          exact ⟨.tested ahead left (fun other member => carried other (List.mem_cons_of_mem task member))
            (fun closed => opened (state.symm.trans closed)) empty, closes_ahead _ ahead left⟩
  | disabled todo closed events =>
      obtain ⟨rfl, rfl⟩ := List.cons.inj (next.symm.trans todo)
      have behind : Closes v ↔ v.conn.tcp.state = .kDisconnected := closes_behind v (by simp [next])
      cases performs with
      | connectionCallback closing answer =>
          refine ⟨.called rfl closed events, ?_⟩
          rw [behind, closes_behind _ (by simp [apply, Connection.plain])]
          rfl
  | called todo =>
      obtain ⟨rfl, rfl⟩ := List.cons.inj (next.symm.trans todo)
      exact absurd rfl more

end

theorem closes_stored (v : View) (thread : ThreadId) (mask : EventMask) (destroying : Destroying mask v) :
    Closes ((v.setState .kDisconnecting).setCall thread .stored) ↔ v.conn.tcp.state ≠ .kDisconnected ∧ Closes v := by
  cases destroying with
  | tested ahead todo carried opened empty =>
      exact iff_of_true (closes_ahead _ ahead todo) ⟨opened, closes_ahead v ahead todo⟩
  | disabled todo =>
      rw [closes_behind _ (by simp [setCall, setState, todo]), closes_behind v (by simp [todo])]
      exact iff_of_false StateE.noConfusion fun both => both.1 both.2
  | called todo =>
      rw [closes_behind _ (by simp [setCall, setState, todo]), closes_behind v (by simp [todo])]
      exact iff_of_false StateE.noConfusion fun both => both.1 both.2

theorem destroying_stored (v : View) (thread : ThreadId) (mask : EventMask) (destroying : Destroying mask v) :
    Destroying mask ((v.setState .kDisconnecting).setCall thread .stored) := by
  cases destroying with
  | tested ahead todo carried opened empty => exact .tested ahead todo carried StateE.noConfusion empty
  | disabled todo closed events => exact .disabled todo StateE.noConfusion events
  | called todo closed events => exact .called todo StateE.noConfusion events

theorem destroying_ahead (v : View) (task : Task) (state : StateE) (mask : EventMask) (destroying : Destroying mask v)
    (carries : task.carries = true) (connected : v.conn.tcp.state = .kConnected) (opened : state ≠ .kDisconnected) :
    Destroying mask { v.setState state with todo := task :: v.todo } ∧
      (Closes { v.setState state with todo := task :: v.todo } ↔ Closes v) := by
  cases destroying with
  | tested ahead todo carried before empty =>
      have longer : task :: v.todo = (task :: ahead) ++ closingTasks := by rw [todo, List.cons_append]
      refine ⟨.tested (task :: ahead) longer ?_ opened empty, ?_⟩
      · rintro other (_ | ⟨_, member⟩)
        · exact carries
        · exact carried other member
      · exact iff_of_true (closes_ahead _ (task :: ahead) longer) (closes_ahead v ahead todo)
  | disabled todo closed => exact absurd connected closed
  | called todo closed => exact absurd connected closed

theorem destroying_elsewhere (v w : View) (mask : EventMask) (destroying : Destroying mask v) (todo : w.todo = v.todo)
    (tcp : w.conn.tcp = v.conn.tcp) : Destroying mask w ∧ (Closes w ↔ Closes v) := by
  refine ⟨?_, by rw [Closes, Closes, todo, tcp]⟩
  cases destroying with
  | tested ahead parts carried opened empty => exact .tested ahead (todo.trans parts) carried (tcp ▸ opened) empty
  | disabled left closed events => exact .disabled (todo.trans left) (tcp ▸ closed) (tcp ▸ events)
  | called left closed events => exact .called (todo.trans left) (tcp ▸ closed) (tcp ▸ events)

theorem destroying_moves (mask : EventMask) (v w : View) (life : LifeLabel) (destroying : Destroying mask v)
    (mirrors : Mirrors () v.conn.tcp.channel v.conn.tcp.slot) (more : ¬v.Runs .channelRemove life)
    (moves : Moves v life w) : Destroying mask w ∧ (StoresInTime v life → (Closes w ↔ Closes v)) := by
  have busy := destroying_busy mask v destroying
  cases moves with
  | poll revents drained idle => exact absurd idle busy
  | dispatch revents active idle => exact absurd idle busy
  | functor read answer task queue effect idle => exact absurd idle busy
  | destroyHere effect mapped shared idle => exact absurd idle busy
  | exec read answer task rest effect next performs =>
      have ahead : task ≠ .channelRemove := by
        rintro rfl
        exact more (by simp [Runs, next])
      obtain ⟨after, closes⟩ := destroying_exec mask v destroying mirrors next ahead performs
      exact ⟨after, fun _ => closes⟩
  | userSend data published connected =>
      obtain ⟨after, closes⟩ := destroying_ahead v (.sendInLoop (.direct data)) v.conn.tcp.state mask destroying rfl
        connected (by simp [connected])
      exact ⟨after, fun _ => closes⟩
  | userShutdown published connected =>
      obtain ⟨after, closes⟩ := destroying_ahead v .shutdownInLoop .kDisconnecting mask destroying rfl connected
        StateE.noConfusion
      exact ⟨after, fun _ => closes⟩
  | storeDisconnecting thread =>
      exact ⟨destroying_stored v thread mask destroying, fun inTime =>
        (closes_stored v thread mask destroying).trans (and_iff_right inTime)⟩
  | _ =>
      refine (destroying_elsewhere v _ mask destroying ?_ ?_).imp_right fun closes _ => closes
      · rfl
      · rfl

-- A store that comes when the connection is closed cannot be made good again.
theorem closes_in_time (mask : EventMask) (v w : View) (life : LifeLabel) (destroying : Destroying mask v)
    (taken : v.step life = some w) (closes : Closes w) : StoresInTime v life := by
  cases life with
  | storeDisconnecting thread =>
      simp only [step] at taken
      split at taken
      · cases taken
        exact ((closes_stored v thread mask destroying).mp closes).1
      · cases taken
  | _ => trivial

theorem destroying_step (mask : EventMask) (v w : View) (life : LifeLabel) (destroying : Destroying mask v)
    (mirrors : Mirrors () v.conn.tcp.channel v.conn.tcp.slot) (more : ¬v.Runs .channelRemove life)
    (taken : v.step life = some w) : Destroying mask w ∧ (Closes w ↔ Closes v ∧ StoresInTime v life) := by
  obtain ⟨after, closes⟩ := destroying_moves mask v w life destroying mirrors more (step_moves v w life taken)
  refine ⟨after, fun last => ?_, fun first => (closes first.2).mpr first.1⟩
  have inTime := closes_in_time mask v w life destroying taken last
  exact ⟨(closes inTime).mp last, inTime⟩

theorem runs_performs (v w : View) (task : Task) (life : LifeLabel) (runs : v.Runs task life)
    (taken : v.step life = some w) :
    ∃ (base : View) (rest : List Task) (read : Captured → Option CppString) (answer : Answer) (effect : Effect),
      Connection.Performs read v.conn task answer effect ∧ w = base.apply rest effect ∧
        (v.todo = task :: rest ∨ v.todo = [] ∧ rest = []) := by
  cases life with
  | functor read answer =>
      simp only [step] at taken
      split at taken
      · next other queue idle drained next =>
          obtain rfl : other = task := by simpa [Runs, next] using runs
          obtain ⟨effect, performs, same⟩ := call_performs _ w other [] read answer taken
          exact ⟨_, [], read, answer, effect, performs, same, .inr ⟨idle, rfl⟩⟩
      · cases taken
  | exec read answer =>
      simp only [step] at taken
      split at taken
      · next other rest next =>
          obtain rfl : other = task := by simpa [Runs, next] using runs
          obtain ⟨effect, performs, same⟩ := call_performs v w other rest read answer taken
          exact ⟨v, rest, read, answer, effect, performs, same, .inl next⟩
      · cases taken
  | destroy =>
      obtain ⟨shared, rfl⟩ := runs
      simp only [step, shared, if_true, Option.ite_none_right_eq_some] at taken
      obtain ⟨-, ⟨idle, -⟩, called⟩ := taken
      obtain ⟨effect, performs, same⟩ := call_performs _ w _ _ _ _ called
      exact ⟨_, [], _, _, effect, performs, same, .inr ⟨idle, rfl⟩⟩
  | _ => exact runs.elim

theorem destroying_begins (v w : View) (life : LifeLabel) (telling : Telling v) (runs : v.Runs .connectDestroyed life)
    (taken : v.step life = some w) :
    Destroying (if v.conn.tcp.state = .kConnected then KNoneEvent else v.conn.tcp.channel.events) w ∧
      (Closes w ↔ v.conn.tcp.state = .kConnected ∨ v.conn.tcp.state = .kDisconnected) := by
  obtain ⟨base, rest, read, answer, effect, performs, rfl, place⟩ := runs_performs v w _ life runs taken
  rcases place with waiting | ⟨-, rfl⟩
  · exact absurd (waiting ▸ List.mem_cons_self) telling.waits
  · cases performs
    by_cases connected : v.conn.tcp.state = .kConnected
    · rw [if_pos connected, if_pos connected]
      refine ⟨.tested [] rfl (by simp) (by simp [apply, Connection.plain, connected]) rfl, ?_⟩
      exact iff_of_true (closes_ahead _ [] rfl) (.inl connected)
    · rw [if_neg connected, if_neg connected, or_iff_right connected]
      exact ⟨.called rfl connected rfl, closes_behind _ (by simp [apply, Connection.plain])⟩

theorem destroying_removes (mask : EventMask) (v : View) (rest : List Task) (destroying : Destroying mask v)
    (next : v.todo = .channelRemove :: rest) : v.todo = [.channelRemove] ∧ v.conn.tcp.channel.events = mask := by
  cases destroying with
  | tested ahead todo carried =>
      cases ahead with
      | nil => cases next.symm.trans todo
      | cons head ahead =>
          obtain ⟨rfl, -⟩ := List.cons.inj (next.symm.trans todo)
          cases carried .channelRemove (by simp)
  | disabled todo => cases next.symm.trans todo
  | called todo closed events => exact ⟨todo, events⟩

theorem destroying_ends (mask : EventMask) (v w : View) (life : LifeLabel) (telling : Telling v)
    (destroying : Destroying mask v) (runs : v.Runs .channelRemove life) (taken : v.step life = some w) :
    w.conn.TornDown ↔ Closes v ∧ mask = KNoneEvent := by
  obtain ⟨base, rest, read, answer, effect, performs, rfl, place⟩ := runs_performs v w _ life runs taken
  have next := place.resolve_right fun idle => destroying_busy mask v destroying idle.1
  obtain ⟨todo, events⟩ := destroying_removes mask v rest destroying next
  have told := telling.tells.told
  rw [todo] at told
  rw [closes_behind v (by simp [todo]), ← events]
  cases performs with
  | channelRemove answer tcp removed =>
      simp only [TcpConnection.channelRemove, remove_unregistered () _ _ telling.tells.mirrors, TcpConnection.withChannel,
        Except.ok.injEq] at removed
      subst removed
      constructor
      · intro down
        exact ⟨down.state, down.events⟩
      · rintro ⟨closed, empty⟩
        exact ⟨closed, (told closed).resolve_right (by simp), empty, rfl⟩

end View

namespace System

-- The step runs this task on the connection: as a functor, as what its loop has
-- next to do, or in the destructor of the server.
def Runs (s : System) (id : ConnId) (task : Task) : Label → Prop
  | .functor l _ => (s.loops l).queue.batch.head? = some (.task id task)
  | .exec l _ => (s.loops l).todo.head? = some (.task id task)
  | .destroyConnection other => other = id ∧ s.loopOf id = some mainLoop ∧ task = .connectDestroyed
  | _ => False

instance (s : System) (id : ConnId) (task : Task) : (label : Label) → Decidable (s.Runs id task label)
  | .functor l _ => inferInstanceAs (Decidable ((s.loops l).queue.batch.head? = some (.task id task)))
  | .exec l _ => inferInstanceAs (Decidable ((s.loops l).todo.head? = some (.task id task)))
  | .destroyConnection other =>
      inferInstanceAs (Decidable (other = id ∧ s.loopOf id = some mainLoop ∧ task = .connectDestroyed))
  | .poll .. | .dispatch _ | .otherChannel _ | .accept .. | .swap _ | .userReturns _ | .iterate _ | .userSend ..
  | .userShutdown .. | .queueUser _ | .send .. | .queueSend _ | .shutdown .. | .storeDisconnecting _ | .queueShutdown _
  | .overwrite .. | .release .. | .destroy => .isFalse fun runs => runs

section
variable (s : System) (l : LoopId) (answer : Answer) (id : ConnId) (conn : Connection) (task : Task)

theorem functor_runs (home : Home s) (here : s.loopOf id = some conn.loop) (other : task ≠ .removeConnectionInLoop) :
    s.Runs id task (.functor l answer) ↔
      ∃ life, s.lifeLabel id (.functor l answer) = some life ∧ (s.see id conn).Runs task life := by
  cases next : (s.loops l).queue.batch with
  | nil => simp [Runs, lifeLabel, target, next]
  | cons job rest =>
      cases job with
      | user => simp [Runs, lifeLabel, target, next]
      | task named first =>
          have contents : (s.loops l).queue.contents = .task named first :: (rest ++ (s.loops l).queue.pending) := by
            simp [BatchQueue.contents, next]
          by_cases same : named = id
          · subst same
            by_cases own : conn.loop = l
            · subst own
              simp [Runs, lifeLabel, target, next, here, View.Runs, see, contents]
            · -- what another loop has queued on the connection is its removal
              have away : first ≠ task := by
                rintro rfl
                have placed := (home.loops l).queue named first (by simp [contents])
                rw [here] at placed
                rcases placed with there | ⟨-, removal, -⟩
                · exact own (Option.some.inj there)
                · exact other removal
              simp [Runs, lifeLabel, target, next, here, own, View.Runs, away]
          · simp [Runs, lifeLabel, target, next, same]

theorem exec_runs (home : Home s) (here : s.loopOf id = some conn.loop) :
    s.Runs id task (.exec l answer) ↔
      ∃ life, s.lifeLabel id (.exec l answer) = some life ∧ (s.see id conn).Runs task life := by
  cases next : (s.loops l).todo with
  | nil => simp [Runs, lifeLabel, target, next]
  | cons job rest =>
      cases job with
      | user => simp [Runs, lifeLabel, target, next]
      | task named first =>
          by_cases same : named = id
          · subst same
            have placed := (home.loops l).todo named first (by simp [next])
            rw [here] at placed
            obtain rfl := Option.some.inj placed
            simp [Runs, lifeLabel, target, next, View.Runs, see]
          · simp [Runs, lifeLabel, target, next, same]

end

-- Which task a step runs on a connection is seen from the connection.
theorem runs_life (s : System) (label : Label) (id : ConnId) (conn : Connection) (task : Task) (home : Home s)
    (found : s.conns id = some conn) (other : task ≠ .removeConnectionInLoop) :
    s.Runs id task label ↔ ∃ life, s.lifeLabel id label = some life ∧ (s.see id conn).Runs task life := by
  have here := loop_of_found s id conn found
  cases label with
  | functor l answer => exact functor_runs s l answer id conn task home here other
  | exec l answer => exact exec_runs s l answer id conn task home here
  | destroyConnection named =>
      by_cases same : named = id
      · simp [Runs, lifeLabel, target, here, same, View.Runs, see]
      · simp [Runs, lifeLabel, target, same]
  | poll l active =>
      refine iff_of_false (fun runs => runs) ?_
      rintro ⟨life, about, runs⟩
      simp only [lifeLabel, Option.ite_none_right_eq_some] at about
      obtain ⟨revents, -, rfl⟩ := Option.map_eq_some_iff.mp about.2
      exact runs
  | send thread named cell =>
      cases held : s.cells thread cell with
      | none => simp [Runs, lifeLabel, target, held]
      | some text => simp [Runs, lifeLabel, target, held, View.Runs]
  | _ => grind [Runs, lifeLabel, target, View.Runs]

theorem guards_one (allowed : View → LifeLabel → Prop) (s : System) (label : Label) (id : ConnId) (v : View)
    (polls : ∀ v revents, allowed v (.poll revents)) (seen : s.view id = some v) :
    s.Guards (fun other v life => other = id → allowed v life) label ↔
      ∀ life, s.lifeLabel id label = some life → allowed v life := by
  constructor
  · intro guarded life about
    exact guards_life _ s label id v life (fun _ v revents _ => polls v revents) guarded seen about rfl
  · intro every
    cases targeted : s.target label with
    | none => simp [Guards, targeted]
    | some pair =>
        obtain ⟨other, life⟩ := pair
        cases there : s.view other with
        | none => simp [Guards, targeted, there]
        | some w =>
            simp only [Guards, targeted, there]
            rintro rfl
            obtain rfl := Option.some.inj (there.symm.trans seen)
            exact every life (target_life s label other life targeted)

-- No store of kDisconnecting is made on the connection while it is closed.
def StoresInTimeOn (id : ConnId) (s : System) (label : Label) : Prop :=
  s.Guards (fun other v life => other = id → v.StoresInTime life) label

instance (id : ConnId) (s : System) (label : Label) : Decidable (StoresInTimeOn id s label) :=
  inferInstanceAs (Decidable (s.Guards _ label))

-- One call of connectDestroyed on the connection: test leads from s to t, this
-- and other threads go on to u, and channel_->remove() makes it w.
structure DestroyCall (id : ConnId) (test : Label) (between : List Label) (removal : Label) (s t u w : System) :
    Prop where
  begins : s.Runs id .connectDestroyed test
  tested : s.step test = some t
  meanwhile : run step t between = some u
  inside : Guarded step (fun s label => ¬s.Runs id .channelRemove label) t between
  ends : u.Runs id .channelRemove removal
  removed : u.step removal = some w

theorem destroy_call_taken (id : ConnId) (test removal : Label) (before between : List Label) (start w : System)
    (ran : run step start (before ++ test :: (between ++ [removal])) = some w)
    (parts : ∀ s ∈ run step start before, s.Runs id .connectDestroyed test ∧ ∀ t ∈ s.step test,
      Guarded step (fun s label => ¬s.Runs id .channelRemove label) t between ∧
        ∀ u ∈ run step t between, u.Runs id .channelRemove removal) :
    ∃ s t u, run step start before = some s ∧ DestroyCall id test between removal s t u w := by
  obtain ⟨s, first, rest⟩ := (run_append _ _ _ _ _).mp ran
  obtain ⟨t, tested, rest⟩ := (run_cons _ _ _ _ _).mp rest
  obtain ⟨u, meanwhile, last⟩ := (run_append _ _ _ _ _).mp rest
  obtain ⟨final, removed, stop⟩ := (run_cons _ _ _ _ _).mp last
  cases stop
  obtain ⟨begins, between⟩ := parts s first
  obtain ⟨inside, ends⟩ := between t tested
  exact ⟨s, t, u, first, begins, tested, meanwhile, inside, ends u meanwhile, removed⟩

theorem step_telling (s t : System) (label : Label) (inv : EveryView (fun _ => View.Telling) s)
    (taken : s.step label = some t) : EveryView (fun _ => View.Telling) t :=
  ⟨step_home s t label inv.1 taken, step_every_view (fun _ _ _ => True) (fun _ => View.Telling) (fun _ _ _ => trivial)
    (fun _ => View.fresh_telling) (fun _ v w life held _ moves => View.telling_moves v w life held moves)
    s t label inv.1 inv.2 (guards_target (fun _ => True) s label fun _ _ _ => trivial) taken⟩

theorem step_destroying (id : ConnId) (mask : EventMask) (s t : System) (label : Label) (v : View) (home : Home s)
    (seen : s.view id = some v) (mirrors : Mirrors () v.conn.tcp.channel v.conn.tcp.slot)
    (destroying : View.Destroying mask v) (more : ¬s.Runs id .channelRemove label) (taken : s.step label = some t) :
    ∃ w, t.view id = some w ∧ View.Destroying mask w ∧ (w.Closes ↔ v.Closes ∧ StoresInTimeOn id s label) := by
  obtain ⟨conn, found, rfl⟩ := Option.map_eq_some_iff.mp seen
  have follows := step_follows s t label id conn home found taken
  rw [runs_life s label id conn .channelRemove home found Task.noConfusion] at more
  rw [StoresInTimeOn, guards_one View.StoresInTime s label id _ (fun _ _ => trivial) seen]
  cases about : s.lifeLabel id label with
  | none =>
      rw [about] at follows
      exact ⟨_, follows.trans seen, destroying, by simp⟩
  | some life =>
      rw [about] at follows
      obtain ⟨w, moved, after⟩ := follows
      obtain ⟨next, closes⟩ := View.destroying_step mask _ w life destroying mirrors
        (fun runs => more ⟨life, about, runs⟩) moved
      exact ⟨w, after, next, by simpa using closes⟩

theorem run_destroying (id : ConnId) (mask : EventMask) (t u : System) (between : List Label) (v : View)
    (inv : EveryView (fun _ => View.Telling) t) (seen : t.view id = some v) (destroying : View.Destroying mask v)
    (inside : Guarded step (fun s label => ¬s.Runs id .channelRemove label) t between)
    (ran : run step t between = some u) :
    EveryView (fun _ => View.Telling) u ∧ ∃ w, u.view id = some w ∧ View.Destroying mask w ∧
      (w.Closes ↔ v.Closes ∧ Guarded step (StoresInTimeOn id) t between) := by
  have reached := good_iff_guarded step (fun s label => ¬s.Runs id .channelRemove label) (StoresInTimeOn id)
    (fun s => EveryView (fun _ => View.Telling) s ∧ ∃ v, s.view id = some v ∧ View.Destroying mask v)
    (fun s => ∀ v, s.view id = some v → v.Closes) (fun s l t before more taken => ?_)
    t u between ⟨inv, v, seen, destroying⟩ inside ran
  · obtain ⟨⟨last, w, there, destroyingLast⟩, exactly⟩ := reached
    simp only [seen, there, Option.some.injEq, forall_eq'] at exactly
    exact ⟨last, w, there, destroyingLast, exactly⟩
  · obtain ⟨held, v, seen, destroying⟩ := before
    obtain ⟨w, there, next, exactly⟩ := step_destroying id mask s t l v held.1 seen (held.2 id v seen).tells.mirrors
      destroying more taken
    refine ⟨⟨step_telling s t l held taken, w, there, next⟩, ?_⟩
    simpa only [seen, there, Option.some.injEq, forall_eq'] using exactly

theorem call_begins (id : ConnId) (conn : Connection) (s t : System) (test : Label)
    (inv : EveryView (fun _ => View.Telling) s) (found : s.conns id = some conn)
    (begins : s.Runs id .connectDestroyed test) (tested : s.step test = some t) :
    ∃ v, t.view id = some v ∧
      View.Destroying (if conn.tcp.state = .kConnected then KNoneEvent else conn.tcp.channel.events) v ∧
      (v.Closes ↔ conn.tcp.state = .kConnected ∨ conn.tcp.state = .kDisconnected) := by
  obtain ⟨life, about, runs⟩ := (runs_life s test id conn _ inv.1 found Task.noConfusion).mp begins
  have follows := step_follows s t test id conn inv.1 found tested
  rw [about] at follows
  obtain ⟨v, moved, after⟩ := follows
  exact ⟨v, after, View.destroying_begins _ v life (inv.2 id _ (view_found s id conn found)) runs moved⟩

theorem call_ends (id : ConnId) (mask : EventMask) (v : View) (u w : System) (removal : Label)
    (inv : EveryView (fun _ => View.Telling) u) (seen : u.view id = some v) (destroying : View.Destroying mask v)
    (ends : u.Runs id .channelRemove removal) (removed : u.step removal = some w) :
    ∃ closed, w.conns id = some closed ∧ (closed.TornDown ↔ v.Closes ∧ mask = KNoneEvent) := by
  obtain ⟨conn, found, rfl⟩ := Option.map_eq_some_iff.mp seen
  obtain ⟨life, about, runs⟩ := (runs_life u removal id conn _ inv.1 found Task.noConfusion).mp ends
  have follows := step_follows u w removal id conn inv.1 found removed
  rw [about] at follows
  obtain ⟨last, moved, after⟩ := follows
  exact ⟨last.conn, view_conn w id last after,
    View.destroying_ends mask _ last life (inv.2 id _ seen) destroying runs moved⟩

end System

theorem every_telling (name : List Char) (listen : InetAddress) (labels : List Label) (s : System)
    (ran : run System.step (.new name listen) labels = some s) : System.EveryView (fun _ => View.Telling) s :=
  invariant System.step _ (fun s l t held taken => System.step_telling s t l held taken) _ s labels
    (System.new_every_view _ name listen) ran

-- The poller refuses no part of connectDestroyed, so every call of it returns.
theorem connect_destroyed_goes_on (name : List Char) (listen : InetAddress) (labels : List Label) (s : System)
    (id : ConnId) (conn : Connection) (read : Captured → Option CppString) (answer : Answer) (task : Task)
    (ran : run System.step (.new name listen) labels = some s) (found : s.conns id = some conn)
    (part : task ∈ .connectDestroyed :: closingTasks) : (conn.perform read task answer).isSome = true := by
  have mirrors : Mirrors () conn.tcp.channel conn.tcp.slot :=
    ((every_telling name listen labels s ran).2 id _ (System.view_found s id conn found)).tells.mirrors
  simp only [closingTasks, List.mem_cons, List.not_mem_nil, or_false] at part
  rcases part with rfl | rfl | rfl | rfl
  · rfl
  · obtain ⟨channel, slot, update, -⟩ := update_mirrors () conn.tcp.channel conn.tcp.slot KNoneEvent mirrors
    simp [Connection.perform, TcpConnection.setState, TcpConnection.disableAll, Channel.disableAll, update,
      TcpConnection.withChannel]
  · rfl
  · simp [Connection.perform, TcpConnection.channelRemove, remove_unregistered () _ _ mirrors, TcpConnection.withChannel]

theorem torn_down_when_foreseen (name : List Char) (listen : InetAddress) (before between : List Label)
    (test removal : Label) (s t u w : System) (id : ConnId) (conn : Connection)
    (ran : run System.step (.new name listen) before = some s) (found : s.conns id = some conn)
    (call : System.DestroyCall id test between removal s t u w) :
    ∃ closed, w.conns id = some closed ∧
      (closed.TornDown ↔ conn.Foreseen ∧ Guarded System.step (System.StoresInTimeOn id) t between) := by
  have first := every_telling name listen before s ran
  obtain ⟨v, seen, destroying, opens⟩ := System.call_begins id conn s t test first found call.begins call.tested
  obtain ⟨last, w, there, destroyingLast, closes⟩ := System.run_destroying id _ t u between v
    (System.step_telling s t test first call.tested) seen destroying call.inside call.meanwhile
  obtain ⟨closed, kept, exactly⟩ := System.call_ends id _ w u _ removal last there destroyingLast call.ends call.removed
  refine ⟨closed, kept, ?_⟩
  rw [exactly, closes, opens, Connection.Foreseen]
  by_cases connected : conn.tcp.state = .kConnected
  · simp [connected]
  · simp only [connected, false_or, if_false]
    exact and_right_comm

-- The destructor of the server takes down connection 1, which is up.
def destroysUp : List Label :=
  comesUp ++ [.swap 0, .iterate 0, .destroy, .destroyConnection 1, .poll 1 [], .swap 1]

-- Or which thread 7 has shut down.
def destroysHalfClosed : List Label :=
  comesUp ++ [.swap 0, .iterate 0, .shutdown 7 1, .storeDisconnecting 7, .queueShutdown 7, .destroy, .destroyConnection 1,
    .poll 1 [], .swap 1, .functor 1 .none]

theorem torn_down_when_foreseen_up :
    ∃ s t u w closed, run System.step listening destroysUp = some s ∧
      System.DestroyCall 1 (.functor 1 .none) [.exec 1 .none, .exec 1 .none, .userReturns 1] (.exec 1 .none) s t u w ∧
      w.conns 1 = some closed ∧ closed.TornDown := by
  have through : (run System.step listening (destroysUp ++ .functor 1 .none ::
      ([.exec 1 .none, .exec 1 .none, .userReturns 1] ++ [.exec 1 .none]))).isSome := by decide +kernel
  obtain ⟨w, ran⟩ := Option.isSome_iff_exists.mp through
  obtain ⟨s, t, u, reached, call⟩ := System.destroy_call_taken 1 _ _ destroysUp _ listening w ran (by decide +kernel)
  have foreseen : ∀ s ∈ run System.step listening destroysUp, ∃ conn ∈ s.conns 1, conn.Foreseen ∧
      ∀ t ∈ s.step (.functor 1 .none), Guarded System.step (System.StoresInTimeOn 1) t
        [.exec 1 .none, .exec 1 .none, .userReturns 1] := by decide +kernel
  obtain ⟨conn, found, up, inTime⟩ := foreseen s reached
  obtain ⟨closed, kept, exactly⟩ := torn_down_when_foreseen _ _ destroysUp _ _ _ s t u w 1 conn reached found call
  exact ⟨s, t, u, w, closed, reached, call, kept, exactly.mpr ⟨up, inTime t call.tested⟩⟩

-- A half-closed connection is only removed from the poller.
theorem half_closed_never_told :
    ∃ s t u w closed, run System.step listening destroysHalfClosed = some s ∧
      System.DestroyCall 1 (.functor 1 .none) [] (.exec 1 .none) s t u w ∧ w.conns 1 = some closed ∧
      closed.events = [.connectionCallback false true, .connectDestroyed] ∧ closed.tcp.state = .kDisconnecting ∧
      closed.tcp.channel.events = KReadEvent ∧ ¬closed.TornDown := by
  obtain ⟨w, closed, ran, kept, facts⟩ := outcome_found (destroysHalfClosed ++ [.functor 1 .none, .exec 1 .none])
    (fun _ conn => (conn.events, conn.tcp.state, conn.tcp.channel.events))
    ([.connectionCallback false true, .connectDestroyed], .kDisconnecting, KReadEvent) (by decide +kernel)
  obtain ⟨events, rest⟩ := Prod.mk.inj facts
  obtain ⟨state, mask⟩ := Prod.mk.inj rest
  obtain ⟨s, t, u, reached, call⟩ := System.destroy_call_taken 1 (.functor 1 .none) (.exec 1 .none) destroysHalfClosed []
    listening w ran (by decide +kernel)
  refine ⟨s, t, u, w, closed, reached, call, kept, events, state, mask, fun down => ?_⟩
  cases state.symm.trans down.state

-- A closed connection that a late send has registered again keeps its mask.
example : outcome (closesBeforeSend ++ [.functor 1 (.write (.room 1)), .iterate 1, .swap 0, .functor 0 .none, .poll 1 [],
    .swap 1, .functor 1 .none, .exec 1 .none]) (fun _ conn => (conn.tcp.state, conn.tcp.channel.events)) =
      some (.kDisconnected, EPOLLOUT) := by decide +kernel

end Cmuduo.Net
