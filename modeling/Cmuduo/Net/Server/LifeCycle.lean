import Cmuduo.Net.Server.Accepted
import Cmuduo.Net.Server.Calls

set_option autoImplicit false

namespace Cmuduo.Net

open Machine

-- The calls that the life cycle of a connection consists of, or is driven by.
def Task.lives : Task → Bool
  | .handleClose | .connectionCallback _ | .closeCallback | .removeConnectionInLoop | .connectEstablished
  | .connectDestroyed | .setDisconnected => true
  | _ => false

def trail (tasks : List Task) : List Task := tasks.filter Task.lives

@[simp] theorem trail_nil : trail [] = [] := rfl

@[simp] theorem trail_append (tasks more : List Task) : trail (tasks ++ more) = trail tasks ++ trail more :=
  List.filter_append tasks more

theorem trail_living (task : Task) (rest : List Task) (alive : task.lives = true) :
    trail (task :: rest) = task :: trail rest := List.filter_cons_of_pos alive

theorem trail_unliving (task : Task) (rest : List Task) (other : task.lives = false) :
    trail (task :: rest) = trail rest := List.filter_cons_of_neg (by simp [other])

def lifeCycle : List LifeEvent :=
  [.connectionCallback false true, .connectionCallback true false, .closeCallback, .connectDestroyed]

-- How far a connection has come, with the life cycle calls that are on their way
-- in any loop.
inductive Stage : List LifeEvent → Bool → List Task → Prop where
  | established : Stage [] false [.connectionCallback false]
  | up : Stage (lifeCycle.take 1) false []
  | closing : Stage (lifeCycle.take 1) false [.handleClose]
  | closed : Stage (lifeCycle.take 1) true [.connectionCallback true, .closeCallback]
  | called : Stage (lifeCycle.take 2) true [.closeCallback]
  | removing : Stage (lifeCycle.take 3) true [.removeConnectionInLoop]
  | destroying : Stage (lifeCycle.take 3) true [.connectDestroyed]
  | destroyed : Stage lifeCycle true []

theorem stage_orderly (events : List LifeEvent) (gone : Bool) (tasks : List Task) (stage : Stage events gone tasks) :
    events <+: lifeCycle := by
  cases stage with
  | established => exact List.nil_prefix
  | destroyed => exact List.prefix_rfl
  | _ => exact List.take_prefix _ _

section
variable {events : List LifeEvent} {gone : Bool} {rest : List Task}

theorem stage_handle_close (stage : Stage events gone (.handleClose :: rest)) :
    events = lifeCycle.take 1 ∧ rest = [] := by
  cases stage
  exact ⟨rfl, rfl⟩

theorem stage_callback (closing : Bool) (stage : Stage events gone (.connectionCallback closing :: rest)) :
    closing = false ∧ events = [] ∧ gone = false ∧ rest = [] ∨
      closing = true ∧ events = lifeCycle.take 1 ∧ gone = true ∧ rest = [.closeCallback] := by
  cases stage with
  | established => exact .inl ⟨rfl, rfl, rfl, rfl⟩
  | closed => exact .inr ⟨rfl, rfl, rfl, rfl⟩

theorem stage_close_callback (stage : Stage events gone (.closeCallback :: rest)) :
    events = lifeCycle.take 2 ∧ gone = true ∧ rest = [] := by
  cases stage
  exact ⟨rfl, rfl, rfl⟩

theorem stage_remove (stage : Stage events gone (.removeConnectionInLoop :: rest)) :
    events = lifeCycle.take 3 ∧ gone = true ∧ rest = [] := by
  cases stage
  exact ⟨rfl, rfl, rfl⟩

theorem stage_destroy (stage : Stage events gone (.connectDestroyed :: rest)) :
    events = lifeCycle.take 3 ∧ gone = true ∧ rest = [] := by
  cases stage
  exact ⟨rfl, rfl, rfl⟩

theorem stage_alone (task : Task) (before after : List Task)
    (leaving : task = .removeConnectionInLoop ∨ task = .connectDestroyed)
    (stage : Stage events gone (before ++ task :: after)) : before = [] ∧ after = [] := by
  have member : task ∈ before ++ task :: after := by simp
  generalize waiting : before ++ task :: after = tasks at stage member
  have alone : ∀ other, before ++ task :: after = [other] → before = [] ∧ after = [] := by
    intro other same
    rcases List.append_eq_singleton_iff.mp same with ⟨none, last⟩ | ⟨-, none⟩
    · exact ⟨none, (List.cons.inj last).2⟩
    · cases none
  cases stage with
  | removing => exact alone _ waiting
  | destroying => exact alone _ waiting
  | _ => rcases leaving with rfl | rfl <;> simp at member

theorem stage_excludes (task : Task) (stage : Stage events gone (task :: rest)) :
    task ≠ .connectEstablished ∧ task ≠ .setDisconnected := by
  cases stage <;> exact ⟨Task.noConfusion, Task.noConfusion⟩

end

-- What runs in the queue of a connection's own loop once it is up.
def Task.queues : Task → Bool
  | .connectDestroyed | .sendInLoop _ | .shutdownInLoop | .notice _ => true
  | _ => false

def Task.reads : Task → Bool
  | .handleClose | .handleRead => true
  | _ => false

theorem queues_spec (task : Task) (may : task.queues = true) :
    (task = .connectDestroyed ∨ task.lives = false) ∧ task.reads = false ∧ task ≠ .channelRemove := by
  cases task with
  | connectDestroyed => exact ⟨.inl rfl, rfl, Task.noConfusion⟩
  | sendInLoop payload => exact ⟨.inr rfl, rfl, Task.noConfusion⟩
  | shutdownInLoop => exact ⟨.inr rfl, rfl, Task.noConfusion⟩
  | notice notice => exact ⟨.inr rfl, rfl, Task.noConfusion⟩
  | _ => cases may

namespace View

def tasks (v : View) : List Task := trail v.todo ++ trail v.main ++ trail v.queue

structure Living (v : View) : Prop where
  stage : Stage v.conn.events v.conn.deregistered v.tasks
  state : v.conn.deregistered = true → v.conn.tcp.state ≠ .kConnected
  unpublished : v.conn.events = [] →
    v.todo = [.connectionCallback false] ∧ v.conn.tcp.state = .kConnected ∧ ∀ thread, v.calls thread = .none
  order : (v.todo.filter Task.reads).Sublist [.handleClose, .handleRead]
  removing : Task.channelRemove ∈ v.todo → v.conn.deregistered = true
  queue : ∀ task ∈ v.queue, task.queues = true
  main : ∀ task ∈ v.main, task = .removeConnectionInLoop

theorem established_living (v : View) (established : Established v) (mapped : v.mapped = true) : Living v := by
  obtain ⟨sockfd, writeComplete, highWater, mark, same⟩ := established.tcp
  have empty : v.queue = [] := by rw [established.queue, destruction, if_pos mapped]
  refine ⟨?_, ?_, ?_, ?_, ?_, ?_, ?_⟩
  · rw [tasks, established.events, established.deregistered, established.todo, established.main, empty]
    exact .established
  · intro gone
    cases gone.symm.trans established.deregistered
  · exact fun _ => ⟨established.todo, by rw [same]; rfl, established.calls⟩
  · simp [established.todo, Task.reads]
  · simp [established.todo]
  · simp [empty]
  · simp [established.main]

-- The tasks that wait behind the one a loop is about to run.
def behind (v : View) (rest : List Task) : List Task := trail rest ++ trail v.main ++ trail v.queue

section
variable {read : Captured → Option CppString} {task : Task} {rest : List Task} {answer : Answer} {effect : Effect}

theorem tasks_living (v : View) (next : v.todo = task :: rest) (alive : task.lives = true) :
    v.tasks = task :: v.behind rest := by
  rw [tasks, next, trail_living task rest alive]
  rfl

theorem tasks_unliving (v : View) (next : v.todo = task :: rest) (other : task.lives = false) :
    v.tasks = v.behind rest := by
  rw [tasks, next, trail_unliving task rest other]
  rfl

theorem tasks_apply (v : View) (plain : effect.remove = false) :
    (v.apply rest effect).tasks = trail effect.front ++ v.behind rest ++ trail effect.queue := by
  simp [tasks, apply, behind, plain]

theorem tasks_apply_removal (v : View) (silent : v.behind rest = []) (removal : effect.remove = true)
    (front : effect.front = []) (queue : effect.queue = []) : (v.apply rest effect).tasks = [.removeConnectionInLoop] := by
  obtain ⟨here, main, queued⟩ : trail rest = [] ∧ trail v.main = [] ∧ trail v.queue = [] := by
    simpa [behind] using silent
  have before : trail (.removeConnectionInLoop :: rest) = [.removeConnectionInLoop] := by rw [trail_living _ _ rfl, here]
  have alone : trail [.removeConnectionInLoop] = [.removeConnectionInLoop] := rfl
  cases shared : v.shared with
  | true => simp [tasks, apply, removal, front, queue, shared, before, main, queued]
  | false => simp [tasks, apply, removal, front, queue, shared, alone, here, main, queued]

theorem performs_queues {conn : Connection} (performs : Connection.Performs read conn task answer effect) :
    ∀ queued ∈ effect.queue, queued.queues = true := by
  have queues : ∀ (notices : List Notice), ∀ queued ∈ notices.map Task.notice, queued.queues = true := by
    intro notices queued member
    obtain ⟨notice, -, rfl⟩ := List.mem_map.mp member
    rfl
  cases performs with
  | handleWrite result tcp notices => exact queues notices
  | sendDirect data result tcp notices => exact queues notices
  | sendCaptured data bytes result tcp notices => exact queues notices
  | sendStray data memory result tcp notices => exact queues notices
  | removeConnectionInLoop =>
      intro queued member
      rw [List.mem_singleton.mp member]
      rfl
  | _ => exact fun queued member => nomatch member

theorem living_apply (v : View) (living : Living v) (performs : Connection.Performs read v.conn task answer effect)
    (stage : Stage effect.conn.events effect.conn.deregistered (v.apply rest effect).tasks)
    (state : effect.conn.deregistered = true → effect.conn.tcp.state ≠ .kConnected)
    (published : effect.conn.events ≠ [])
    (order : (effect.front.filter Task.reads ++ rest.filter Task.reads).Sublist [.handleClose, .handleRead])
    (removing : Task.channelRemove ∈ effect.front ++ rest → effect.conn.deregistered = true) :
    Living (v.apply rest effect) := by
  refine ⟨stage, state, fun none => absurd none published, ?_, ?_, ?_, ?_⟩
  · have silent : (if (effect.remove && v.shared) = true then [Task.removeConnectionInLoop] else []).filter Task.reads = [] := by
      split <;> rfl
    simpa only [apply, List.filter_append, silent, List.append_nil] using order
  · intro member
    apply removing
    simp only [apply, List.mem_append] at member ⊢
    rcases member with (front | removal) | rest
    · exact .inl front
    · split at removal
      · cases List.mem_singleton.mp removal
      · cases removal
    · exact .inr rest
  · intro queued member
    rcases List.mem_append.mp member with old | new
    · exact living.queue queued old
    · exact performs_queues performs queued new
  · intro queued member
    rcases List.mem_append.mp member with old | new
    · exact living.main queued old
    · split at new
      · exact List.mem_singleton.mp new
      · cases new

theorem performs_unliving {conn : Connection} (performs : Connection.Performs read conn task answer effect)
    (other : task.lives = false) :
    effect.conn.events = conn.events ∧ effect.remove = false ∧ trail effect.queue = [] ∧
      (effect.conn.deregistered = conn.deregistered ∨ task = .channelRemove) ∧
      (effect.front = [] ∨ effect.front = [.messageCallback] ∨ effect.front = [.handleError] ∨
        effect.front = [.handleClose] ∧ task = .handleRead ∧ answer = .read (.arrived [])) := by
  have silent : ∀ (notices : List Notice), trail (notices.map .notice) = [] := by
    intro notices
    refine List.filter_eq_nil_iff.mpr fun task member => ?_
    obtain ⟨notice, -, rfl⟩ := List.mem_map.mp member
    exact Bool.false_ne_true
  cases performs with
  | handleRead result outcome tcp received =>
      refine ⟨rfl, rfl, rfl, .inl rfl, ?_⟩
      cases outcome with
      | message => exact .inr (.inl rfl)
      | error => exact .inr (.inr (.inl rfl))
      | close =>
          have zero := (conn.tcp.handle_read_input tcp result .close received).2 rfl
          exact .inr (.inr (.inr ⟨rfl, rfl, by rw [zero]⟩))
  | handleWrite result tcp notices => exact ⟨rfl, rfl, silent notices, .inl rfl, .inl rfl⟩
  | sendDirect data result tcp notices => exact ⟨rfl, rfl, silent notices, .inl rfl, .inl rfl⟩
  | sendCaptured data bytes result tcp notices => exact ⟨rfl, rfl, silent notices, .inl rfl, .inl rfl⟩
  | channelRemove => exact ⟨rfl, rfl, rfl, .inr rfl, .inl rfl⟩
  | handleError => exact ⟨rfl, rfl, rfl, .inl rfl, .inl rfl⟩
  | messageCallback => exact ⟨rfl, rfl, rfl, .inl rfl, .inl rfl⟩
  | sendStray data memory result tcp notices => exact ⟨rfl, rfl, silent notices, .inl rfl, .inl rfl⟩
  | shutdownInLoop => exact ⟨rfl, rfl, rfl, .inl rfl, .inl rfl⟩
  | notice => exact ⟨rfl, rfl, rfl, .inl rfl, .inl rfl⟩
  | _ => cases other

theorem published_before (v : View) (living : Living v) (next : v.todo = task :: rest)
    (notFirst : task ≠ .connectionCallback false) : v.conn.events ≠ [] := by
  intro none
  exact notFirst (List.cons.inj (next.symm.trans (living.unpublished none).1)).1

theorem close_behind (v : View) (living : Living v) (close : Task.handleClose ∈ v.behind rest) :
    Task.handleClose ∈ rest := by
  simp only [behind, trail, List.mem_append, List.mem_filter] at close
  rcases close with (⟨here, -⟩ | ⟨main, -⟩) | ⟨queued, -⟩
  · exact here
  · cases living.main _ main
  · cases living.queue _ queued

theorem exec_quiet (v : View) (living : Living v) (next : v.todo = task :: rest) (other : task.lives = false)
    (performs : Connection.Performs read v.conn task answer effect) (quiet : trail effect.front = [])
    (reads : effect.front.filter Task.reads = []) (removes : Task.channelRemove ∉ effect.front) :
    Living (v.apply rest effect) := by
  obtain ⟨events, plain, queued, gone, -⟩ := performs_unliving performs other
  have dereg : effect.conn.deregistered = v.conn.deregistered := by
    rcases gone with same | rfl
    · exact same
    · have before := living.removing (by simp [next])
      cases performs
      exact before.symm
  have state : effect.conn.tcp.state = v.conn.tcp.state :=
    Connection.performs_state performs (by rintro rfl; cases other) (by rintro rfl; cases other) (by rintro rfl; cases other)
  apply living_apply v living performs
  · rw [tasks_apply v plain, events, dereg, quiet, queued, List.nil_append, List.append_nil,
      ← tasks_unliving v next other]
    exact living.stage
  · rw [dereg, state]
    exact living.state
  · rw [events]
    exact published_before v living next (by rintro rfl; cases other)
  · rw [reads, List.nil_append]
    exact ((List.sublist_cons_self task rest).filter _).trans (next ▸ living.order)
  · rw [dereg]
    intro member
    rcases List.mem_append.mp member with new | old
    · exact absurd new removes
    · exact living.removing (next ▸ .tail task old)

theorem stage_before_close (events : List LifeEvent) (tasks : List Task) (stage : Stage events false tasks)
    (published : events ≠ []) : events = lifeCycle.take 1 ∧ (tasks = [] ∨ tasks = [.handleClose]) := by
  cases stage with
  | established => exact absurd rfl published
  | up => exact ⟨rfl, .inl rfl⟩
  | closing => exact ⟨rfl, .inr rfl⟩

theorem exec_read_zero (v : View) (living : Living v) (next : v.todo = .handleRead :: rest)
    (up : v.conn.deregistered = false) (performs : Connection.Performs read v.conn .handleRead answer effect)
    (close : effect.front = [.handleClose]) : Living (v.apply rest effect) := by
  obtain ⟨events, plain, queued, gone, -⟩ := performs_unliving performs rfl
  have dereg : effect.conn.deregistered = false := (gone.resolve_right Task.noConfusion).trans up
  have published := published_before v living next Task.noConfusion
  have order : rest.filter Task.reads = [] := by
    have before := living.order
    rw [next, List.filter_cons_of_pos rfl] at before
    simpa [List.sublist_cons_iff] using before
  have first : Task.handleClose ∉ rest := fun member => List.filter_eq_nil_iff.mp order _ member rfl
  have stage := living.stage
  rw [up, tasks_unliving v next rfl] at stage
  obtain ⟨reached, waiting⟩ := stage_before_close _ _ stage published
  have nothing : v.behind rest = [] := waiting.resolve_right fun closing =>
    first (close_behind v living (closing ▸ List.mem_singleton_self _))
  apply living_apply v living performs
  · rw [tasks_apply v plain, events, dereg, close, nothing, queued, reached]
    exact .closing
  · intro closed
    cases dereg.symm.trans closed
  · rwa [events]
  · rw [close, order]
    exact (List.Sublist.refl _).append (List.nil_sublist _)
  · intro member
    rw [close] at member
    have old : Task.channelRemove ∈ rest := by simpa using member
    cases up.symm.trans (living.removing (next ▸ .tail _ old))

theorem exec_unliving (v : View) (living : Living v) (next : v.todo = task :: rest) (other : task.lives = false)
    (closesOnce : v.conn.deregistered = true → task = .handleRead → answer ≠ .read (.arrived []))
    (performs : Connection.Performs read v.conn task answer effect) : Living (v.apply rest effect) := by
  rcases (performs_unliving performs other).2.2.2.2 with none | message | error | ⟨close, rfl, rfl⟩
  · exact exec_quiet v living next other performs (by rw [none]; rfl) (by rw [none]; rfl) (by simp [none])
  · exact exec_quiet v living next other performs (by rw [message]; rfl) (by rw [message]; rfl) (by simp [message])
  · exact exec_quiet v living next other performs (by rw [error]; rfl) (by rw [error]; rfl) (by simp [error])
  · cases up : v.conn.deregistered with
    | true => exact absurd rfl (closesOnce up rfl)
    | false => exact exec_read_zero v living next up performs close

theorem left_order (v : View) (living : Living v) (next : v.todo = task :: rest) :
    (rest.filter Task.reads).Sublist [.handleClose, .handleRead] :=
  ((List.sublist_cons_self task rest).filter _).trans (next ▸ living.order)

theorem left_removing (v : View) (living : Living v) (next : v.todo = task :: rest)
    (removes : Task.channelRemove ∈ rest) : v.conn.deregistered = true :=
  living.removing (next ▸ .tail task removes)

theorem exec_living (v : View) (living : Living v) (next : v.todo = task :: rest) (alive : task.lives = true)
    (performs : Connection.Performs read v.conn task answer effect) : Living (v.apply rest effect) := by
  have stage := living.stage
  rw [tasks_living v next alive] at stage
  have order := left_order v living next
  have conclude := @living_apply read task rest answer effect v living performs
  cases performs with
  | handleClose answer tcp disabled =>
      obtain ⟨events, nothing⟩ := stage_handle_close stage
      have state := (TcpConnection.disable_all_mirrored _ tcp disabled).state
      apply conclude
      · rw [tasks_apply v rfl, nothing]
        change Stage v.conn.events true _
        rw [events]
        exact .closed
      · intro _ connected
        cases state.symm.trans connected
      · change v.conn.events ≠ []
        rw [events]
        exact List.cons_ne_nil _ _
      · exact order
      · exact fun _ => rfl
  | connectionCallback closing answer =>
      have published : v.conn.events ++ [.connectionCallback closing v.conn.tcp.connected] ≠ [] :=
        List.append_ne_nil_of_right_ne_nil _ (List.cons_ne_nil _ _)
      rcases stage_callback closing stage with ⟨rfl, events, gone, nothing⟩ | ⟨rfl, events, gone, nothing⟩
      · obtain ⟨todo, connected, -⟩ := living.unpublished events
        apply conclude
        · rw [tasks_apply v rfl, nothing]
          change Stage (v.conn.events ++ [.connectionCallback false v.conn.tcp.connected]) v.conn.deregistered _
          rw [events, gone, TcpConnection.connected, connected]
          exact .up
        · exact living.state
        · exact published
        · exact order
        · exact left_removing v living next
      · have off : v.conn.tcp.connected = false := by simpa [TcpConnection.connected] using living.state gone
        apply conclude
        · rw [tasks_apply v rfl, nothing]
          change Stage (v.conn.events ++ [.connectionCallback true v.conn.tcp.connected]) v.conn.deregistered _
          rw [events, gone, off]
          exact .called
        · exact living.state
        · exact published
        · exact order
        · exact left_removing v living next
  | closeCallback answer =>
      obtain ⟨events, gone, nothing⟩ := stage_close_callback stage
      apply conclude
      · rw [tasks_apply_removal v nothing rfl rfl rfl]
        change Stage (v.conn.events ++ [.closeCallback]) v.conn.deregistered _
        rw [events, gone]
        exact .removing
      · exact living.state
      · exact List.append_ne_nil_of_right_ne_nil _ (List.cons_ne_nil _ _)
      · exact order
      · exact left_removing v living next
  | removeConnectionInLoop answer =>
      obtain ⟨events, gone, nothing⟩ := stage_remove stage
      apply conclude
      · rw [tasks_apply v rfl, nothing]
        change Stage v.conn.events v.conn.deregistered _
        rw [events, gone]
        exact .destroying
      · exact living.state
      · change v.conn.events ≠ []
        rw [events]
        exact List.cons_ne_nil _ _
      · exact order
      · exact left_removing v living next
  | connectDestroyed answer =>
      obtain ⟨events, gone, nothing⟩ := stage_destroy stage
      have refused := living.state gone
      apply conclude
      · rw [tasks_apply v rfl, nothing, if_neg refused]
        change Stage (v.conn.events ++ [.connectDestroyed]) v.conn.deregistered _
        rw [events, gone]
        exact .destroyed
      · exact living.state
      · exact List.append_ne_nil_of_right_ne_nil _ (List.cons_ne_nil _ _)
      · rw [if_neg refused]
        exact order
      · exact fun _ => gone
  | connectEstablished => exact absurd rfl (stage_excludes _ stage).1
  | setDisconnected => exact absurd rfl (stage_excludes _ stage).2
  | _ => cases alive

end

theorem living_fetch (v : View) (task : Task) (queue : List Task) (living : Living v) (idle : v.todo = [])
    (next : v.queue = task :: queue) : Living (v.fetch task queue) := by
  obtain ⟨kind, reads, stays⟩ := queues_spec task (living.queue task (by simp [next]))
  have stage := living.stage
  refine ⟨?_, living.state, fun none => ?_, ?_, ?_, fun other member => living.queue other (next ▸ .tail task member),
    living.main⟩
  · rcases kind with rfl | other
    · rw [tasks, idle, next, trail_living .connectDestroyed queue rfl, trail_nil, List.nil_append] at stage
      obtain ⟨main, queued⟩ := stage_alone _ _ _ (.inr rfl) stage
      rw [main, queued] at stage
      rwa [tasks, fetch, trail_living .connectDestroyed [] rfl, main, queued]
    · rw [tasks, idle, next, trail_unliving task queue other] at stage
      rwa [tasks, fetch, trail_unliving task [] other]
  · cases idle.symm.trans (living.unpublished none).1
  · rw [fetch, List.filter_cons_of_neg (by simp [reads])]
    exact List.nil_sublist _
  · intro member
    exact absurd (List.mem_singleton.mp member).symm stays

-- Once handleClose has run, no event is dispatched that calls it again, and no
-- handleRead reads 0.
def ClosesOnce (v : View) : LifeLabel → Prop
  | .dispatch =>
      v.conn.deregistered = true → ∀ revents ∈ v.active.head?, Task.handleClose ∉ handleEventWithGuard revents
  | .exec _ answer =>
      v.conn.deregistered = true → v.todo.head? = some .handleRead → answer ≠ .read (.arrived [])
  | _ => True

instance (v : View) (life : LifeLabel) : Decidable (v.ClosesOnce life) := by
  unfold ClosesOnce
  split <;> infer_instance

theorem calling_published (v : View) (living : Living v) (thread : ThreadId) (calling : v.calls thread ≠ .none) :
    v.conn.events ≠ [] := fun none => calling ((living.unpublished none).2.2 thread)

theorem published_events (v : View) (published : v.conn.published = true) : v.conn.events ≠ [] := by
  simpa [Connection.published] using published

theorem living_push (v : View) (task : Task) (living : Living v) (published : v.conn.events ≠ [])
    (other : task.lives = false) (reads : task.reads = false) (stays : task ≠ .channelRemove) :
    Living { v with todo := task :: v.todo } := by
  refine ⟨?_, living.state, fun none => absurd none published, ?_, fun member => ?_, living.queue, living.main⟩
  · have same : tasks { v with todo := task :: v.todo } = v.tasks := by rw [tasks, trail_unliving task _ other]; rfl
    rw [same]
    exact living.stage
  · rw [List.filter_cons_of_neg (by simp [reads])]
    exact living.order
  · exact living.removing ((List.mem_cons.mp member).resolve_left fun same => stays same.symm)

theorem living_queue (v : View) (task : Task) (living : Living v) (may : task.queues = true) (other : task.lives = false) :
    Living { v with queue := v.queue ++ [task] } := by
  refine ⟨?_, living.state, living.unpublished, living.order, living.removing, fun queued member => ?_, living.main⟩
  · have same : tasks { v with queue := v.queue ++ [task] } = v.tasks := by
      simp [tasks, trail_unliving task [] other]
    rw [same]
    exact living.stage
  · rcases List.mem_append.mp member with old | new
    · exact living.queue queued old
    · rwa [List.mem_singleton.mp new]

theorem living_store (v : View) (living : Living v) (published : v.conn.events ≠ []) :
    Living (v.setState .kDisconnecting) :=
  ⟨living.stage, fun _ => StateE.noConfusion, fun none => absurd none published, living.order, living.removing,
    living.queue, living.main⟩

theorem living_set_call (v : View) (thread : ThreadId) (call : Call) (living : Living v)
    (published : v.conn.events ≠ []) : Living (v.setCall thread call) :=
  ⟨living.stage, living.state, fun none => absurd none published, living.order, living.removing, living.queue,
    living.main⟩

theorem living_dispatch (v : View) (revents : EventMask) (active : List EventMask) (living : Living v)
    (idle : v.todo = []) (closesOnce : v.conn.deregistered = true → Task.handleClose ∉ handleEventWithGuard revents) :
    Living { v with active := active, todo := handleEventWithGuard revents } := by
  have order := dispatch_order revents
  have published : v.conn.events ≠ [] := fun none => by cases idle.symm.trans (living.unpublished none).1
  have before : v.tasks = v.behind [] := by rw [tasks, idle]; rfl
  have after : tasks { v with active := active, todo := handleEventWithGuard revents } =
      trail (handleEventWithGuard revents) ++ v.behind [] := List.append_assoc _ _ _
  refine ⟨?_, living.state, fun none => absurd none published, order.filter _, fun member => ?_, living.queue, living.main⟩
  · rw [after]
    have closes : (trail (handleEventWithGuard revents)).Sublist [.handleClose] := order.filter Task.lives
    rcases List.sublist_singleton.mp closes with none | close
    · rw [none, List.nil_append, ← before]
      exact living.stage
    · have member : Task.handleClose ∈ handleEventWithGuard revents :=
        List.mem_of_mem_filter (close ▸ List.mem_singleton_self _ : Task.handleClose ∈ trail (handleEventWithGuard revents))
      have up : v.conn.deregistered = false := by
        by_contra closed
        exact closesOnce (by simpa using closed) member
      have stage := living.stage
      rw [up, before] at stage
      obtain ⟨events, waiting⟩ := stage_before_close _ _ stage published
      have nothing : v.behind [] = [] := waiting.resolve_right fun closing => by
        cases close_behind v living (closing ▸ List.mem_singleton_self _ : Task.handleClose ∈ v.behind [])
      rw [close, nothing]
      change Stage v.conn.events v.conn.deregistered _
      rw [events, up]
      exact .closing
  · have removes := order.subset member
    simp at removes

theorem living_main_functor (v : View) (main : List Task) (living : Living v)
    (next : v.main = .removeConnectionInLoop :: main) :
    Living { v with mapped := false, queue := v.queue ++ [.connectDestroyed], main := main } := by
  have stage := living.stage
  rw [tasks, next, trail_living _ main rfl, List.append_assoc, List.cons_append] at stage
  obtain ⟨todo, nothing⟩ := stage_alone _ _ _ (.inl rfl) stage
  obtain ⟨rest, queued⟩ := List.append_eq_nil_iff.mp nothing
  rw [todo, nothing] at stage
  obtain ⟨events, gone, -⟩ := stage_remove stage
  refine ⟨?_, living.state, ?_, living.order, living.removing, fun task member => ?_,
    fun task member => living.main task (next ▸ .tail _ member)⟩
  · have waits : tasks { v with mapped := false, queue := v.queue ++ [.connectDestroyed], main := main } =
        [.connectDestroyed] := by
      simp [tasks, todo, rest, queued, trail_living .connectDestroyed [] rfl]
    rw [waits]
    change Stage v.conn.events v.conn.deregistered _
    rw [events, gone]
    exact .destroying
  · intro none
    change v.conn.events = [] at none
    rw [events] at none
    cases none
  · rcases List.mem_append.mp member with old | new
    · exact living.queue task old
    · rw [List.mem_singleton.mp new]
      rfl

theorem living_moves (v w : View) (life : LifeLabel) (living : Living v) (serving : life ≠ .destroy)
    (closesOnce : ClosesOnce v life) (moves : Moves v life w) : Living w := by
  cases moves with
  | poll revents drained idle registered =>
      exact ⟨living.stage, living.state, living.unpublished, living.order, living.removing, living.queue, living.main⟩
  | dispatch revents active idle next =>
      exact living_dispatch v revents active living idle fun gone => closesOnce gone revents (by simp [next])
  | functor read answer task queue effect idle drained next performs =>
      have fetched := living_fetch v task queue living idle next
      -- handleRead is never queued, so no zero read comes out of the queue
      have may := living.queue task (by simp [next])
      cases alive : task.lives with
      | true => exact exec_living _ fetched rfl alive performs
      | false => exact exec_unliving _ fetched rfl alive (fun _ same => by subst same; cases may) performs
  | exec read answer task rest effect next performs =>
      cases alive : task.lives with
      | true => exact exec_living v living next alive performs
      | false => exact exec_unliving v living next alive (fun gone same => closesOnce gone (by rw [next, same]; rfl)) performs
  | mainFunctor main next => exact living_main_functor v main living next
  | ignored life published refused => exact living
  | userSend data published connected =>
      exact living_push v _ living (published_events v published) rfl rfl Task.noConfusion
  | userShutdown published connected =>
      have events := published_events v published
      exact living_push _ _ (living_store v living events) events rfl rfl Task.noConfusion
  | send thread data calling published connected =>
      have events := published_events v published
      exact living_set_call _ thread _ ⟨living.stage, living.state, living.unpublished, living.order, living.removing,
        living.queue, living.main⟩ events
  | queueSend thread data calling =>
      have events := calling_published v living thread (by simp [calling])
      exact living_set_call _ thread _ (living_queue v _ living rfl rfl) events
  | shutdown thread calling published connected => exact living_set_call v thread _ living (published_events v published)
  | storeDisconnecting thread calling =>
      have events := calling_published v living thread (by simp [calling])
      exact living_set_call _ thread _ (living_store v living events) events
  | queueShutdown thread calling =>
      have events := calling_published v living thread (by simp [calling])
      exact living_set_call _ thread _ (living_queue v _ living rfl rfl) events
  | destroyHere effect mapped shared idle drained performs => exact absurd rfl serving
  | destroyThere mapped away => exact absurd rfl serving

def Lives (v : View) : Prop := Accepted v ∧ v.mapped = true ∨ Living v

theorem fresh_lives (v : View) (fresh : System.Fresh v) : Lives v :=
  .inl ⟨fresh_accepted v fresh, fresh_mapped v fresh⟩

theorem lives_moves (v w : View) (life : LifeLabel) (lives : Lives v) (allowed : life ≠ .destroy ∧ ClosesOnce v life)
    (moves : Moves v life w) : Lives w := by
  rcases lives with ⟨accepted, mapped⟩ | living
  · obtain ⟨further, same⟩ := accepted_moves v w life accepted moves
    have still : w.mapped = true := (same allowed.1).trans mapped
    rcases further with waiting | established
    · exact .inl ⟨waiting, still⟩
    · exact .inr (established_living w established still)
  · exact .inr (living_moves v w life living allowed.1 allowed.2 moves)

theorem lives_orderly (v : View) (lives : Lives v) : v.conn.events <+: lifeCycle := by
  rcases lives with ⟨accepted, -⟩ | living
  · rw [accepted.events]
    exact List.nil_prefix
  · exact stage_orderly _ _ _ living.stage

end View

namespace System

def ClosesOnce (s : System) (label : Label) : Prop := s.Guards (fun _ => View.ClosesOnce) label

instance (s : System) (label : Label) : Decidable (s.ClosesOnce label) := inferInstanceAs (Decidable (s.Guards _ label))

end System

theorem life_cycle_in_order (name : List Char) (listen : Base.InetAddress) (labels : List Label) (s : System)
    (id : ConnId) (conn : Connection) (serving : ∀ label ∈ labels, label.Serving)
    (closesOnce : Guarded System.step System.ClosesOnce (.new name listen) labels)
    (ran : run System.step (.new name listen) labels = some s) (found : s.conns id = some conn) :
    conn.events <+: lifeCycle := by
  have allowed := guarded_inside System.step System.ClosesOnce
    (System.Guards fun _ v life => life ≠ .destroy ∧ View.ClosesOnce v life) Label.Serving
    (fun s l served closes => System.guards_and _ _ s l closes
      (System.guards_target (· ≠ .destroy) s l fun id life => s.serving_target l id life served))
    _ labels serving closesOnce
  have lives := System.every_view _ (fun _ => View.Lives) (fun _ _ _ => ⟨LifeLabel.noConfusion, trivial⟩)
    (fun _ => View.fresh_lives) (fun _ => View.lives_moves) name listen labels s allowed ran
  exact View.lives_orderly _ (lives.2 id _ (System.view_found s id conn found))

-- The peer closes, the server removes the connection, and it is destroyed.
def closesDown : List Label :=
  comesUp ++ [.poll 1 [(1, EPOLLIN)], .dispatch 1, .exec 1 (.read (.arrived [])), .exec 1 .none, .exec 1 .none,
    .userReturns 1, .exec 1 .none, .swap 1, .iterate 1, .swap 0, .functor 0 .none, .poll 1 [], .swap 1, .functor 1 .none,
    .exec 1 .none]

theorem life_cycle_in_order_completed :
    ∃ s conn, run System.step listening closesDown = some s ∧ s.conns 1 = some conn ∧ conn.events = lifeCycle ∧
      conn.events <+: lifeCycle := by
  obtain ⟨s, conn, ran, found, events⟩ :=
    outcome_found closesDown (fun _ conn => conn.events) lifeCycle (by decide +kernel)
  exact ⟨s, conn, ran, found, events,
    life_cycle_in_order _ _ closesDown s 1 conn (by decide) (by decide +kernel) ran found⟩

-- A send that was queued before the close registers the channel for writing
-- again, and the hang-up that is reported then calls handleClose once more.
def closesTwice : List Label :=
  closesBeforeSend ++ [.functor 1 (.write (.error .EWOULDBLOCK)), .iterate 1, .poll 1 [(1, EPOLLHUP)], .dispatch 1,
    .exec 1 .none, .exec 1 .none]

theorem life_cycle_repeated :
    (∀ label ∈ closesTwice, label.Serving) ∧
    ∃ s conn, run System.step listening closesTwice = some s ∧ s.conns 1 = some conn ∧
      conn.events = lifeCycle.take 3 ++ [.connectionCallback true false] ∧ ¬conn.events <+: lifeCycle := by
  obtain ⟨s, conn, ran, found, events⟩ :=
    outcome_found closesTwice (fun _ conn => conn.events) (lifeCycle.take 3 ++ [.connectionCallback true false])
      (by decide +kernel)
  refine ⟨by decide, s, conn, ran, found, events, ?_⟩
  rw [events]
  decide

end Cmuduo.Net
