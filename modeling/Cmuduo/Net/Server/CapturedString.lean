import Cmuduo.Net.Server.Accepted
import Cmuduo.Net.Server.Calls

set_option autoImplicit false

namespace Cmuduo.Net

open Machine

def Task.captured : Task → Option Captured
  | .sendInLoop (.captured data) => some data
  | _ => none

namespace View

def captured (v : View) : List Captured := (v.todo ++ v.queue).filterMap Task.captured

-- Every send of another thread that is not over, and every one that is, finds
-- the string of the call.
structure Intact (read : Captured → Option CppString) (v : View) : Prop where
  queued : ∀ data ∈ v.captured, read data = some data.sent
  calls : ∀ thread data, v.calls thread = .sending data → data.owner = thread ∧ read data = some data.sent
  processed : ∀ pair ∈ v.conn.processed, pair.2 = some pair.1

-- The owner may put text in the cell: what is queued finds its bytes there.
def Spares (v : View) (thread : ThreadId) (cell : Nat) (text : Option CppString) : Prop :=
  ∀ data ∈ v.captured, data.owner = thread ∧ data.cell = cell →
    ∃ found ∈ text, data.len ≤ found.bytes.length ∧ found.take data.len = data.sent

instance (v : View) (thread : ThreadId) (cell : Nat) (text : Option CppString) : Decidable (v.Spares thread cell text) :=
  List.decidableBAll _ _

def Reads (read : Captured → Option CppString) : LifeLabel → Prop
  | .functor found _ | .exec found _ => found = read
  | .send thread data => data.owner = thread ∧ read data = some data.sent
  | _ => True

theorem fresh_intact (read : Captured → Option CppString) (v : View) (fresh : System.Fresh v) : Intact read v := by
  have accepted := fresh_accepted v fresh
  refine ⟨fun data member => ?_, fun thread data calling => ?_, ?_⟩
  · have nothing : v.captured = [] := by
      rcases accepted.waits with ⟨-, todo, queue, -⟩ | ⟨-, todo, queue⟩
      · rw [captured, todo, queue]
        rfl
      · rw [captured, todo, queue, destruction]
        split <;> rfl
    simp [nothing] at member
  · cases (accepted.calls thread).symm.trans calling
  · simp [accepted.processed]

theorem captured_carries (tasks : List Task) (light : tasks.filter Task.carries = []) :
    tasks.filterMap Task.captured = [] := by
  refine List.filterMap_eq_nil_iff.mpr fun task member => ?_
  cases task with
  | sendInLoop payload => exact absurd rfl (List.filter_eq_nil_iff.mp light _ member)
  | _ => rfl

section
variable {read : Captured → Option CppString} {task : Task} {rest : List Task} {answer : Answer} {effect : Effect}

theorem captured_apply (v : View) (performs : Connection.Performs read v.conn task answer effect) :
    (v.apply rest effect).captured = (rest ++ v.queue).filterMap Task.captured := by
  obtain ⟨front, queue⟩ := Connection.performs_carries performs
  have silent : (if (effect.remove && v.shared) = true then [Task.removeConnectionInLoop] else []).filterMap Task.captured =
      [] := by
    split <;> rfl
  simp only [captured, apply, List.filterMap_append, captured_carries _ front, captured_carries _ queue, silent,
    List.nil_append, List.append_nil]

theorem captured_left (v : View) (next : v.todo = task :: rest) (data : Captured)
    (member : data ∈ (rest ++ v.queue).filterMap Task.captured) : data ∈ v.captured := by
  obtain ⟨other, inside, same⟩ := List.mem_filterMap.mp member
  refine List.mem_filterMap.mpr ⟨other, ?_, same⟩
  rw [next]
  exact List.mem_cons_of_mem _ inside

theorem performs_processed {conn : Connection} (performs : Connection.Performs read conn task answer effect) :
    effect.conn.processed = conn.processed ∨
      ∃ data, task = .sendInLoop (.captured data) ∧
        effect.conn.processed = conn.processed ++ [(data.sent, read data)] := by
  cases performs with
  | sendCaptured data bytes result tcp notices found => exact .inr ⟨data, rfl, by rw [found]; rfl⟩
  | sendStray data memory result tcp notices missing => exact .inr ⟨data, rfl, by rw [missing]; rfl⟩
  | _ => exact .inl rfl

theorem exec_intact (v : View) (intact : Intact read v) (next : v.todo = task :: rest)
    (performs : Connection.Performs read v.conn task answer effect) : Intact read (v.apply rest effect) := by
  refine ⟨fun data member => ?_, intact.calls, fun pair member => ?_⟩
  · rw [captured_apply v performs] at member
    exact intact.queued data (captured_left v next data member)
  · rcases performs_processed performs with same | ⟨data, rfl, more⟩
    · exact intact.processed pair (same ▸ member)
    · have found := intact.queued data (by simp [captured, next, Task.captured])
      rcases List.mem_append.mp (more ▸ member) with old | new
      · exact intact.processed pair old
      · rw [List.mem_singleton.mp new]
        exact found

end

theorem intact_fetch (read : Captured → Option CppString) (v : View) (task : Task) (queue : List Task)
    (intact : Intact read v) (idle : v.todo = []) (next : v.queue = task :: queue) : Intact read (v.fetch task queue) := by
  have same : (v.fetch task queue).captured = v.captured := by simp [captured, fetch, idle, next]
  exact ⟨fun data member => intact.queued data (same ▸ member), intact.calls, intact.processed⟩

theorem captured_queued (v : View) (task : Task) :
    captured { v with queue := v.queue ++ [task] } = v.captured ++ [task].filterMap Task.captured := by
  rw [captured, captured, ← List.append_assoc, List.filterMap_append]

theorem captured_pushed (v : View) (task : Task) (light : task.captured = none) :
    ((task :: v.todo) ++ v.queue).filterMap Task.captured = v.captured := List.filterMap_cons_none light

theorem set_call_intact (read : Captured → Option CppString) (v : View) (thread : ThreadId) (call : Call)
    (intact : Intact read v) (fits : ∀ data, call = .sending data → data.owner = thread ∧ read data = some data.sent) :
    Intact read (v.setCall thread call) := by
  refine ⟨intact.queued, fun other data calling => ?_, intact.processed⟩
  by_cases same : other = thread
  · subst same
    simp only [setCall, Function.update_self] at calling
    exact fits data calling
  · simp only [setCall, Function.update_of_ne same] at calling
    exact intact.calls other data calling

theorem intact_moves (read : Captured → Option CppString) (v w : View) (life : LifeLabel) (intact : Intact read v)
    (reads : Reads read life) (moves : Moves v life w) : Intact read w := by
  cases moves with
  | poll revents drained idle registered => exact ⟨intact.queued, intact.calls, intact.processed⟩
  | dispatch revents active idle next =>
      refine ⟨fun data member => intact.queued data ?_, intact.calls, intact.processed⟩
      have light : (handleEventWithGuard revents).filter Task.carries = [] :=
        List.sublist_nil.mp ((dispatch_order revents).filter Task.carries)
      simpa [captured, idle, captured_carries _ light] using member
  | functor found answer task queue effect idle drained next performs =>
      obtain rfl : found = read := reads
      exact exec_intact _ (intact_fetch found v task queue intact idle next) rfl performs
  | exec found answer task rest effect next performs =>
      obtain rfl : found = read := reads
      exact exec_intact v intact next performs
  | mainFunctor main next =>
      refine ⟨fun data member => intact.queued data ?_, intact.calls, intact.processed⟩
      simpa [captured, Task.captured] using member
  | ignored life published refused => exact intact
  | userSend data published connected =>
      refine ⟨fun other member => intact.queued other ?_, intact.calls, intact.processed⟩
      rw [← captured_pushed v (.sendInLoop (.direct data)) rfl]
      exact member
  | userShutdown published connected =>
      refine ⟨fun other member => intact.queued other ?_, intact.calls, intact.processed⟩
      rw [← captured_pushed v .shutdownInLoop rfl]
      exact member
  | send thread data calling published connected =>
      refine set_call_intact read _ thread (.sending data) ⟨intact.queued, intact.calls, intact.processed⟩ ?_
      rintro other ⟨⟩
      exact reads
  | queueSend thread data calling =>
      refine set_call_intact read _ thread .none ⟨fun other member => ?_, intact.calls, intact.processed⟩ nofun
      rw [captured_queued] at member
      rcases List.mem_append.mp member with old | new
      · exact intact.queued other old
      · rw [List.mem_singleton.mp new]
        exact (intact.calls thread data calling).2
  | shutdown thread calling published connected => exact set_call_intact read v thread .shuttingDown intact nofun
  | storeDisconnecting thread calling =>
      exact set_call_intact read _ thread .stored ⟨intact.queued, intact.calls, intact.processed⟩ nofun
  | queueShutdown thread calling =>
      refine set_call_intact read _ thread .none ⟨fun other member => intact.queued other ?_, intact.calls,
        intact.processed⟩ nofun
      simpa [captured, Task.captured] using member
  | destroyHere effect mapped shared idle drained performs =>
      have fetched : Intact read ({ v with mapped := false }.fetch .connectDestroyed v.queue) :=
        ⟨fun data member => intact.queued data (by simpa [captured, fetch, idle, Task.captured] using member),
          intact.calls, intact.processed⟩
      cases performs
      exact exec_intact _ fetched rfl (.connectDestroyed .none)
  | destroyThere mapped away =>
      refine ⟨fun data member => intact.queued data ?_, intact.calls, intact.processed⟩
      simpa [captured, Task.captured] using member

end View

namespace System

theorem apply_cells (s : System) (l : LoopId) (id : ConnId) (rest : List Job) (effect : Effect) :
    (s.apply l id rest effect).cells = s.cells := by
  simp only [apply]
  split <;> split <;> rfl

theorem call_cells (s t : System) (l : LoopId) (id : ConnId) (task : Task) (rest : List Job) (answer : Answer)
    (taken : s.call l id task rest answer = some t) : t.cells = s.cells := by
  obtain ⟨conn, effect, -, -, rfl⟩ := call_outcome s t l id task rest answer taken
  exact apply_cells s l id rest effect

theorem user_call_cells (s t : System) (l : LoopId) (id : ConnId) (task : Task) (store : Connection → Connection)
    (taken : s.userCall l id task store = some t) : t.cells = s.cells := by
  cases user_call_outcome s t l id task store taken with
  | passes => rfl
  | ignored => rfl

theorem thread_call_cells (s t : System) (thread : ThreadId) (id : ConnId) (pc : ThreadPc)
    (store : Connection → Connection) (taken : s.threadCall thread id pc store = some t) : t.cells = s.cells := by
  cases thread_call_outcome s t thread id pc store taken with
  | passes => rfl
  | ignored => rfl

theorem step_cells (s t : System) (label : Label) (taken : s.step label = some t) :
    t.cells = s.cells ∨ (∃ thread cell text, label = .overwrite thread cell text) ∨
      ∃ thread cell, label = .release thread cell := by
  cases step_takes s t label taken with
  | overwrite thread cell text idle => exact .inr (.inl ⟨thread, cell, text, rfl⟩)
  | release thread cell idle => exact .inr (.inr ⟨thread, cell, rfl⟩)
  | functor l answer id task rest t phase todo next called =>
      exact .inl (call_cells (s.takeFunctor l) t l id task _ answer called)
  | exec l answer id task rest t todo called => exact .inl (call_cells s t l id task rest answer called)
  | userSend l id data t called => exact .inl (user_call_cells s t l id _ _ called)
  | userShutdown l id t called => exact .inl (user_call_cells s t l id _ _ called)
  | send thread id cell text t held called => exact .inl (thread_call_cells s t thread id _ _ called)
  | shutdown thread id t called => exact .inl (thread_call_cells s t thread id _ _ called)
  | destroyHere id conn t found destroying todo mapped main called =>
      exact .inl (call_cells (s.setMap conn.name none) t mainLoop id _ _ _ called)
  | accept sockfd ioLoop writeComplete highWater mark phase todo room =>
      simp only [newConnection]
      split <;> exact .inl rfl
  | _ => exact .inl rfl

theorem same_reads (s t : System) (same : t.cells = s.cells) : t.read = s.read := by
  funext data
  rw [read, read, same]

theorem target_reads (s : System) (label : Label) (id : ConnId) (life : LifeLabel)
    (about : s.target label = some (id, life)) : View.Reads s.read life := by
  cases label with
  | send thread other cell =>
      obtain ⟨text, found, same⟩ := Option.map_eq_some_iff.mp about
      cases same
      refine ⟨rfl, ?_⟩
      rw [read, found]
      simp [CppString.take]
  | functor l answer =>
      simp only [target] at about
      split at about
      · simp only [Option.some.injEq, Prod.mk.injEq] at about
        obtain ⟨-, rfl⟩ := about
        split
        · rfl
        · trivial
      · cases about
  | exec l answer =>
      simp only [target] at about
      split at about
      · cases about
        rfl
      · cases about
  | _ => grind [target, View.Reads]

-- As long as a sendInLoop that another thread has queued has not run, the owner
-- of its string neither releases it nor changes the bytes that it will read.
def KeepsStrings (s : System) : Label → Prop
  | .overwrite thread cell text => ∀ id < s.nextConnId, ∀ v ∈ s.view id, v.Spares thread cell (some text)
  | .release thread cell => ∀ id < s.nextConnId, ∀ v ∈ s.view id, v.Spares thread cell none
  | _ => True

instance (s : System) (label : Label) : Decidable (s.KeepsStrings label) := by
  unfold KeepsStrings
  split <;> infer_instance

structure Strings (s : System) : Prop where
  home : Home s
  intact : ∀ id v, s.view id = some v → v.Intact s.read

def setCell (s : System) (thread : ThreadId) (cell : Nat) (text : Option CppString) : System :=
  { s with cells := Function.update s.cells thread (Function.update (s.cells thread) cell text) }

theorem set_cell_other (s : System) (thread : ThreadId) (cell : Nat) (text : Option CppString) (data : Captured)
    (apart : data.owner = thread → data.cell ≠ cell) : (s.setCell thread cell text).read data = s.read data := by
  have same : (s.setCell thread cell text).cells data.owner data.cell = s.cells data.owner data.cell := by
    by_cases owner : data.owner = thread
    · simp only [setCell, owner, Function.update_self]
      rw [Function.update_of_ne (apart owner)]
    · simp only [setCell]
      rw [Function.update_of_ne owner]
  rw [read, read, same]

theorem set_cell_read (s : System) (thread : ThreadId) (cell : Nat) (text : CppString) (data : Captured)
    (here : data.owner = thread ∧ data.cell = cell) (fits : data.len ≤ text.bytes.length) :
    (s.setCell thread cell (some text)).read data = some (text.take data.len) := by
  simp only [read, setCell, here.1, here.2, Function.update_self, if_pos fits]

-- A thread that changes one of its strings is not in the middle of a send.
theorem set_cell_intact (s : System) (thread : ThreadId) (cell : Nat) (text : Option CppString) (v : View) (id : ConnId)
    (idle : s.threads thread = .idle) (seen : s.view id = some v) (intact : v.Intact s.read)
    (spares : v.Spares thread cell text) : v.Intact (s.setCell thread cell text).read := by
  refine ⟨fun data member => ?_, fun other data calling => ?_, intact.processed⟩
  · by_cases here : data.owner = thread ∧ data.cell = cell
    · obtain ⟨found, rfl, fits, same⟩ := spares data member here
      rw [set_cell_read s thread cell found data here fits, same]
    · rw [set_cell_other s thread cell text data fun owner same => here ⟨owner, same⟩]
      exact intact.queued data member
  · obtain ⟨owner, found⟩ := intact.calls other data calling
    refine ⟨owner, ?_⟩
    rw [set_cell_other s thread cell text data fun same => ?_]
    · exact found
    · obtain ⟨conn, -, rfl⟩ := Option.map_eq_some_iff.mp seen
      have busy : (s.threads other).on id = .sending data := calling
      rw [← owner, same, idle] at busy
      cases busy

theorem view_bound (s : System) (id : ConnId) (v : View) (home : Home s) (seen : s.view id = some v) :
    id < s.nextConnId := by
  obtain ⟨conn, found, -⟩ := Option.map_eq_some_iff.mp seen
  exact (home.named id conn found).1

theorem step_strings (s t : System) (label : Label) (strings : Strings s) (keeps : s.KeepsStrings label)
    (taken : s.step label = some t) : Strings t := by
  have home := step_home s t label strings.home taken
  refine ⟨home, fun id w after => ?_⟩
  rcases step_cells s t label taken with same | ⟨thread, cell, text, rfl⟩ | ⟨thread, cell, rfl⟩
  · rw [same_reads s t same]
    have allowed : s.Guards (fun _ _ life => View.Reads s.read life) label :=
      guards_target (View.Reads s.read) s label (s.target_reads label)
    exact step_every_view _ (fun _ v => v.Intact s.read) (fun _ _ _ => trivial) (fun _ v fresh => View.fresh_intact _ v fresh)
      (fun _ v w life held reads moves => View.intact_moves s.read v w life held reads moves) s t label strings.home
      strings.intact allowed taken id w after
  · cases step_takes s t _ taken with
    | overwrite _ _ _ idle =>
        have seen : s.view id = some w := after
        exact set_cell_intact s thread cell (some text) w id idle seen (strings.intact id w seen)
          (keeps id (s.view_bound id w strings.home seen) w seen)
  · cases step_takes s t _ taken with
    | release _ _ idle =>
        have seen : s.view id = some w := after
        exact set_cell_intact s thread cell none w id idle seen (strings.intact id w seen)
          (keeps id (s.view_bound id w strings.home seen) w seen)

end System

theorem send_delivers_call_content (name : List Char) (listen : Base.InetAddress) (labels : List Label) (s : System)
    (id : ConnId) (conn : Connection) (sent : CppString) (found : Option CppString)
    (keeps : Guarded System.step System.KeepsStrings (.new name listen) labels)
    (ran : run System.step (.new name listen) labels = some s) (there : s.conns id = some conn)
    (processed : (sent, found) ∈ conn.processed) : found = some sent := by
  have strings := guarded_invariant System.step System.KeepsStrings System.Strings
    (fun s l t => System.step_strings s t l) _ s labels ⟨System.new_home name listen, fun _ _ seen => by cases seen⟩
    keeps ran
  exact (strings.intact id _ (System.view_found s id conn there)).processed _ processed

-- Thread 7 sends "A", and touches its string once the functor has run, or
-- while it is still queued.
def queuesSend : List Label :=
  comesUp ++ [.overwrite 7 0 (.ofBytes [65]), .send 7 1 0, .queueSend 7]

def runsFunctor : List Label := [.poll 1 [], .swap 1, .functor 1 (.write (.room 1))]

def overwritesLater : List Label := queuesSend ++ runsFunctor ++ [.overwrite 7 0 (.ofBytes [66])]

def overwritesAtOnce : List Label := queuesSend ++ .overwrite 7 0 (.ofBytes [66]) :: runsFunctor

-- What is left of the released string on the wire is up to the memory, here 0.
def releasesAtOnce : List Label :=
  queuesSend ++ [.release 7 0, .poll 1 [], .swap 1, .functor 1 (.stray (.ofBytes [0]) (.room 1))]

theorem send_delivers_call_content_overwritten_later :
    ∃ s conn found, run System.step listening overwritesLater = some s ∧ s.conns 1 = some conn ∧
      conn.processed = [(.ofBytes [65], found)] ∧ found = some (.ofBytes [65]) := by
  obtain ⟨s, conn, ran, there, processed⟩ :=
    outcome_found overwritesLater (fun _ conn => conn.processed) [(.ofBytes [65], some (.ofBytes [65]))]
      (by decide +kernel)
  exact ⟨s, conn, _, ran, there, processed, send_delivers_call_content _ _ overwritesLater s 1 conn _ _
    (by decide +kernel) ran there (processed ▸ List.mem_singleton_self _)⟩

theorem queued_send_reads_later_content :
    outcome overwritesAtOnce (fun _ conn => (conn.processed, conn.tcp.taken)) =
      some ([(.ofBytes [65], some (.ofBytes [66]))], [66]) ∧
    outcome releasesAtOnce (fun _ conn => (conn.processed, conn.tcp.taken)) = some ([(.ofBytes [65], none)], [0]) :=
  ⟨by decide +kernel, by decide +kernel⟩

end Cmuduo.Net
