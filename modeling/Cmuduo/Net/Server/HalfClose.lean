import Cmuduo.Net.InLoopCalls
import Cmuduo.Net.Server.Settled
import Cmuduo.Net.WriteInterest

set_option autoImplicit false

namespace Cmuduo.Net

open Machine

namespace TcpConnection

-- How a connection is left by ::shutdown(SHUT_WR).
structure HalfClosed (c : TcpConnection) : Prop where
  state : c.state = .kDisconnecting ∨ c.state = .kDisconnected
  quiet : c.channel.isWriting = false
  drained : c.outputBuffer.readable = []

theorem HalfClosed.not_connected {c : TcpConnection} (half : HalfClosed c) : c.state ≠ .kConnected := by
  rcases half.state with closing | closed
  · simp [closing]
  · simp [closed]

-- Neither the backlog nor the socket is touched.
structure SameOutput (c next : TcpConnection) : Prop where
  outputBuffer : next.outputBuffer = c.outputBuffer
  wire : next.wire = c.wire
  shutWr : next.shutWr = c.shutWr

theorem with_channel_output (c next : TcpConnection) (result : Except Stop (Channel × Slot Unit))
    (done : c.withChannel result = .ok next) : SameOutput c next := by
  obtain ⟨channel, slot, rfl⟩ := with_channel_inversion c next result done
  exact ⟨rfl, rfl, rfl⟩

theorem close_output (c next : TcpConnection) (done : (c.setState .kDisconnected).disableAll = .ok next) :
    SameOutput c next ∧ next.state = .kDisconnected := by
  obtain ⟨outputBuffer, wire, shutWr⟩ := with_channel_output (c.setState .kDisconnected) next _ done
  exact ⟨⟨outputBuffer, wire, shutWr⟩, ((c.setState .kDisconnected).disable_all_mirrored next done).state⟩

-- What a call makes of the output: it issues no SHUT_WR but on a connection that
-- is half-closed then, and after that it writes nothing.
structure EndsOutput (c next : TcpConnection) : Prop where
  ends : next.shutWr = true → HalfClosed next
  final : c.shutWr = true → next.shutWr = true ∧ next.wire = c.wire

theorem ends_unchanged (c next : TcpConnection) (ended : c.shutWr = true → HalfClosed c) (same : SameOutput c next)
    (state : next.state = c.state ∨ next.state = .kDisconnected)
    (quiet : next.channel.isWriting = c.channel.isWriting ∨ next.channel.isWriting = false) : EndsOutput c next := by
  refine ⟨fun issued => ?_, fun issued => ⟨same.shutWr.trans issued, same.wire⟩⟩
  have half := ended (same.shutWr.symm.trans issued)
  refine ⟨?_, ?_, by rw [same.outputBuffer]; exact half.drained⟩
  · rcases state with same | closed
    · rw [same]
      exact half.state
    · exact .inr closed
  · rcases quiet with same | off
    · exact same.trans half.quiet
    · exact off

theorem send_ends (c next : TcpConnection) (data : CppString) (result : WriteResult) (queued : List Notice)
    (ended : c.shutWr = true → HalfClosed c) (isOpen : Open c) (up : c.state ≠ .kDisconnected)
    (done : c.sendInLoop data result = .ok (next, queued)) : EndsOutput c next := by
  by_cases closing : c.state = .kDisconnecting
  · rw [c.send_in_loop_refused next data result queued closing done]
    exact c.ends_unchanged c ended ⟨rfl, rfl, rfl⟩ (.inl rfl) (.inl rfl)
  · have same := (c.send_in_loop_effects next data result queued isOpen done).shutWr
    have never : c.shutWr ≠ true := fun issued => (ended issued).state.elim closing up
    exact ⟨fun issued => absurd (same.symm.trans issued) never, fun issued => absurd issued never⟩

-- The flush that takes the last of the backlog carries out a shutdown that has
-- waited for it.
theorem flush_ends (c next : TcpConnection) (result : WriteResult) (queued : List Notice)
    (ended : c.shutWr = true → HalfClosed c) (isOpen : c.state ≠ .kDisconnected → Open c)
    (off : c.state = .kDisconnected → c.channel.isWriting = false)
    (done : c.handleWrite result = .ok (next, queued)) : EndsOutput c next := by
  cases writing : c.channel.isWriting with
  | false =>
      rw [c.handle_write_quiet next result queued writing done]
      exact c.ends_unchanged c ended ⟨rfl, rfl, rfl⟩ (.inl rfl) (.inl rfl)
  | true =>
      have opened : Open c := isOpen fun closed => by simp [off closed] at writing
      have never : c.shutWr ≠ true := fun issued => by simp [(ended issued).quiet] at writing
      obtain ⟨nextOpen, flushes⟩ := c.handle_write_open next result queued opened done
      refine ⟨fun issued => ?_, fun issued => absurd issued never⟩
      obtain ⟨closing, drained⟩ := (flushes.shutWr issued).resolve_left never
      exact ⟨.inl (flushes.state.trans closing), (next.open_not_writing nextOpen).mpr drained, drained⟩

theorem shutdown_ends (c : TcpConnection) (ended : c.shutWr = true → HalfClosed c) (isOpen : Open c)
    (closing : c.state = .kDisconnecting) : EndsOutput c c.shutdownInLoop := by
  cases writing : c.channel.isWriting with
  | true =>
      rw [show c.shutdownInLoop = c by simp [shutdownInLoop, writing]]
      exact c.ends_unchanged c ended ⟨rfl, rfl, rfl⟩ (.inl rfl) (.inl rfl)
  | false =>
      rw [show c.shutdownInLoop = { c with shutWr := true } by simp [shutdownInLoop, writing]]
      exact ⟨fun _ => ⟨.inl closing, writing, (c.open_not_writing isOpen).mp writing⟩, fun _ => ⟨rfl, rfl⟩⟩

end TcpConnection

namespace Connection

variable {read : Captured → Option CppString} {conn : Connection} {task : Task} {answer : Answer} {effect : Effect}

theorem performs_ends (performs : Performs read conn task answer effect) (mirrors : Mirrors () conn.tcp.channel conn.tcp.slot)
    (ended : conn.tcp.shutWr = true → conn.tcp.HalfClosed)
    (isOpen : conn.tcp.state ≠ .kDisconnected → conn.tcp.Open)
    (masked : conn.tcp.state = .kDisconnected → conn.tcp.channel.events = KNoneEvent ∧ task.carries = false)
    (asked : task = .shutdownInLoop → conn.tcp.state = .kDisconnecting)
    (notUp : task ≠ .connectEstablished) (notSet : task ≠ .setDisconnected) :
    conn.tcp.EndsOutput effect.conn.tcp := by
  have stays : conn.tcp.EndsOutput conn.tcp := conn.tcp.ends_unchanged _ ended ⟨rfl, rfl, rfl⟩ (.inl rfl) (.inl rfl)
  have sends : task.carries = true → conn.tcp.state ≠ .kDisconnected := fun carries closed => by
    rw [(masked closed).2] at carries
    cases carries
  cases performs with
  | handleClose answer tcp disabled =>
      obtain ⟨same, state⟩ := conn.tcp.close_output tcp disabled
      have events := (conn.tcp.setState .kDisconnected).disable_all_events tcp mirrors disabled
      exact conn.tcp.ends_unchanged tcp ended same (.inr state)
        (.inr (TcpConnection.no_events_quiet tcp.channel events))
  | handleRead result outcome tcp received =>
      obtain ⟨⟨buffer, rfl⟩, -⟩ := conn.tcp.handle_read_input tcp result outcome received
      exact conn.tcp.ends_unchanged _ ended ⟨rfl, rfl, rfl⟩ (.inl rfl) (.inl rfl)
  | handleWrite result tcp notices flushed =>
      exact conn.tcp.flush_ends tcp result notices ended isOpen
        (fun closed => TcpConnection.no_events_quiet _ (masked closed).1) flushed
  | connectEstablished => exact absurd rfl notUp
  | setDisconnected => exact absurd rfl notSet
  | channelRemove answer tcp removed =>
      obtain ⟨-, events, state, -⟩ := conn.tcp.channel_remove_unregistered tcp mirrors removed
      refine conn.tcp.ends_unchanged tcp ended (conn.tcp.with_channel_output tcp _ removed) (.inl state) (.inl ?_)
      rw [Channel.isWriting, Channel.isWriting, events]
  | sendDirect data result tcp notices sent =>
      have up := sends rfl
      exact conn.tcp.send_ends tcp data result notices ended (isOpen up) up sent
  | sendCaptured data bytes result tcp notices found sent =>
      have up := sends rfl
      exact conn.tcp.send_ends tcp bytes result notices ended (isOpen up) up sent
  | sendStray data memory result tcp notices missing long sent =>
      have up := sends rfl
      exact conn.tcp.send_ends tcp memory result notices ended (isOpen up) up sent
  | shutdownInLoop => exact conn.tcp.shutdown_ends ended (isOpen (sends rfl)) (asked rfl)
  | _ => exact stays

end Connection

namespace View

-- A pending shutdownInLoop has its store of kDisconnecting behind it.
structure Ending (v : View) : Prop where
  asked : .shutdownInLoop ∈ v.todo → v.conn.tcp.state ≠ .kConnected
  ended : v.conn.tcp.shutWr = true → v.conn.tcp.HalfClosed

theorem ending_exec (v : View) (task : Task) (rest : List Task) (read : Captured → Option CppString) (answer : Answer)
    (effect : Effect) (settling : Settling v) (ending : Ending v) (next : v.todo = task :: rest)
    (performs : Connection.Performs read v.conn task answer effect) :
    Ending (v.apply rest effect) ∧ v.conn.tcp.EndsOutput effect.conn.tcp := by
  obtain ⟨notUp, notSet⟩ := settling.todo task (by simp [next])
  have ends := Connection.performs_ends performs settling.mirrors ending.ended settling.isOpen
    (fun closed => ⟨(settling.masked closed).1, (settling.masked closed).2 task (by simp [next])⟩)
    (fun shuts => ?_) notUp notSet
  · refine ⟨⟨fun member => ?_, ends.ends⟩, ends⟩
    have waiting : .shutdownInLoop ∈ v.todo := by
      rcases apply_todo v _ member with front | same | old
      · have none := List.filter_eq_nil_iff.mp (Connection.performs_carries performs).1 _ front
        exact absurd rfl none
      · cases same
      · rw [next]
        exact List.mem_cons_of_mem task old
    have before := ending.asked waiting
    rcases performs_disconnects performs notUp with closed | ⟨same, -⟩
    · exact fun connected => StateE.noConfusion (closed.symm.trans connected)
    · exact fun connected => before (same.symm.trans connected)
  · have pending : .shutdownInLoop ∈ v.todo := by simp [next, shuts]
    cases state : v.conn.tcp.state with
    | kConnected => exact absurd state (ending.asked pending)
    | kConnecting => exact absurd state settling.begun
    | kDisconnected => cases (settling.masked state).2 _ pending
    | kDisconnecting => rfl

theorem accepted_ending (v : View) (accepted : Accepted v) : Ending v := by
  obtain ⟨sockfd, writeComplete, highWater, mark, same⟩ := accepted.tcp
  refine ⟨fun _ => by rw [same]; exact StateE.noConfusion, fun issued => ?_⟩
  rw [same] at issued
  cases issued

theorem established_ending (v : View) (established : Established v) : Ending v := by
  obtain ⟨sockfd, writeComplete, highWater, mark, same⟩ := established.tcp
  refine ⟨fun member => ?_, fun issued => ?_⟩
  · rw [established.todo, List.mem_singleton] at member
    cases member
  · rw [same] at issued
    cases issued

-- The output of a connection over a step of its own.
def Keeps (v w : View) : Prop :=
  v.conn.tcp.shutWr = true → w.conn.tcp.shutWr = true ∧ w.conn.tcp.wire = v.conn.tcp.wire

theorem accepted_keeps (v w : View) (accepted : Accepted v) : Keeps v w := by
  obtain ⟨sockfd, writeComplete, highWater, mark, same⟩ := accepted.tcp
  intro issued
  rw [same] at issued
  cases issued

theorem ending_moves (v w : View) (life : LifeLabel) (settling : Settling v) (ending : Ending v) (onLoop : OnLoop life)
    (moves : Moves v life w) : Ending w ∧ Keeps v w := by
  have stays : v.conn.tcp.shutWr = true → v.conn.tcp.shutWr = true ∧ v.conn.tcp.wire = v.conn.tcp.wire :=
    fun issued => ⟨issued, rfl⟩
  cases moves with
  | poll revents drained idle registered => exact ⟨⟨ending.asked, ending.ended⟩, stays⟩
  | dispatch revents active idle next =>
      refine ⟨⟨fun member => ?_, ending.ended⟩, stays⟩
      have among := (dispatch_order revents).subset member
      simp at among
  | functor read answer task queue effect idle drained next performs =>
      have fetched : Ending (v.fetch task queue) := by
        refine ⟨fun member => ?_, ending.ended⟩
        have same := List.mem_singleton.mp member
        rcases settling.queue task (by simp [next]) with rfl | ⟨notice, rfl⟩ <;> cases same
      obtain ⟨after, ends⟩ := ending_exec _ task [] read answer effect
        (settling_fetch v task queue settling idle drained next) fetched rfl performs
      exact ⟨after, ends.final⟩
  | exec read answer task rest effect next performs =>
      obtain ⟨after, ends⟩ := ending_exec v task rest read answer effect settling ending next performs
      exact ⟨after, ends.final⟩
  | mainFunctor main next => exact ⟨⟨ending.asked, ending.ended⟩, stays⟩
  | ignored life published refused => exact ⟨ending, stays⟩
  | userSend data published connected =>
      refine ⟨⟨fun member => ?_, ending.ended⟩, stays⟩
      exact ending.asked ((List.mem_cons.mp member).resolve_left Task.noConfusion)
  | userShutdown published connected =>
      have never : v.conn.tcp.shutWr ≠ true := fun issued => (ending.ended issued).not_connected connected
      exact ⟨⟨fun _ => StateE.noConfusion, fun issued => absurd issued never⟩, fun issued => absurd issued never⟩
  | send => exact onLoop.elim
  | shutdown => exact onLoop.elim
  | queueSend thread data calling => cases (settling.calls thread).symm.trans calling
  | storeDisconnecting thread calling => cases (settling.calls thread).symm.trans calling
  | queueShutdown thread calling => cases (settling.calls thread).symm.trans calling
  | destroyHere => exact onLoop.elim
  | destroyThere => exact onLoop.elim

def Ends (v : View) : Prop := Settles v ∧ Ending v

theorem ends_moves (v w : View) (life : LifeLabel) (ends : Ends v) (onLoop : OnLoop life) (moves : Moves v life w) :
    Ends w ∧ Keeps v w := by
  obtain ⟨settles, ending⟩ := ends
  have after := settles_moves v w life settles onLoop moves
  rcases settles with ⟨accepted, -⟩ | settling
  · have further := (accepted_moves v w life accepted moves).1
    exact ⟨⟨after, further.elim (accepted_ending w) (established_ending w)⟩, accepted_keeps v w accepted⟩
  · obtain ⟨next, keeps⟩ := ending_moves v w life settling ending onLoop moves
    exact ⟨⟨after, next⟩, keeps⟩

theorem fresh_ends (v : View) (fresh : System.Fresh v) : Ends v :=
  ⟨fresh_settles v fresh, accepted_ending v (fresh_accepted v fresh)⟩

end View

namespace System

def Shut (id : ConnId) (wire : List UInt8) (s : System) : Prop :=
  EveryView (fun _ => View.Ends) s ∧
    ∃ v, s.view id = some v ∧ v.conn.tcp.shutWr = true ∧ v.conn.tcp.wire = wire

theorem step_ends (s t : System) (label : Label) (ends : EveryView (fun _ => View.Ends) s) (onLoop : label.OnLoop)
    (taken : s.step label = some t) : EveryView (fun _ => View.Ends) t :=
  step_on_loop View.Ends View.fresh_ends (fun v w life held may moves => (View.ends_moves v w life held may moves).1) s t
    label ends onLoop taken

theorem step_shut (id : ConnId) (wire : List UInt8) (s t : System) (label : Label) (shut : Shut id wire s)
    (onLoop : label.OnLoop) (taken : s.step label = some t) : Shut id wire t := by
  obtain ⟨ends, v, seen, issued, written⟩ := shut
  obtain ⟨w, after, moved⟩ := step_view (fun _ _ => View.OnLoop) s t label id v (fun _ _ _ => trivial) ends.1
    (s.on_loop_guards label onLoop) taken seen
  refine ⟨step_ends s t label ends onLoop taken, w, after, ?_⟩
  rcases moved with rfl | ⟨life, may, moves⟩
  · exact ⟨issued, written⟩
  · obtain ⟨still, same⟩ := (View.ends_moves v w life (ends.2 id v seen) may moves).2 issued
    exact ⟨still, same.trans written⟩

end System

-- Nothing is left behind a SHUT_WR, and nothing is written after it, however the
-- connection goes on: in its handlers, in calls of the user, until it is removed.
theorem shut_down_is_final (name : List Char) (listen : Base.InetAddress) (labels later : List Label) (s t : System)
    (id : ConnId) (conn : Connection) (onLoop : ∀ label ∈ labels ++ later, label.OnLoop)
    (ran : run System.step (.new name listen) labels = some s) (found : s.conns id = some conn)
    (issued : conn.tcp.shutWr = true) (continued : run System.step s later = some t) :
    conn.tcp.HalfClosed ∧ ∃ last, t.conns id = some last ∧ last.tcp.HalfClosed ∧ last.tcp.shutWr = true ∧
      last.tcp.wire = conn.tcp.wire := by
  have early := fun label member => onLoop label (List.mem_append_left later member)
  have late := fun label member => onLoop label (List.mem_append_right labels member)
  have begins := guarded_invariant System.step (fun _ label => label.OnLoop) (System.EveryView fun _ => View.Ends)
    (fun s l t ends here taken => System.step_ends s t l ends here taken) _ s labels
    (System.new_every_view _ name listen) (guarded_labels _ _ Label.OnLoop (fun _ _ here => here) _ labels early) ran
  have shut : System.Shut id conn.tcp.wire s := ⟨begins, _, System.view_found s id conn found, issued, rfl⟩
  obtain ⟨ends, v, seen, still, written⟩ := guarded_invariant System.step (fun _ label => label.OnLoop)
    (System.Shut id conn.tcp.wire) (fun s l t shut here taken => System.step_shut id _ s t l shut here taken) s t later
    shut (guarded_labels _ _ Label.OnLoop (fun _ _ here => here) _ later late) continued
  obtain ⟨last, there, rfl⟩ := Option.map_eq_some_iff.mp seen
  exact ⟨(begins.2 id _ (System.view_found s id conn found)).2.ended issued, last, there,
    (ends.2 id _ seen).2.ended still, still, written⟩

-- In its message callback the user sends two bytes, of which one has to wait, and
-- shuts the connection down; the flush carries that out. Then the peer closes.
def repliesAndShuts : List Label :=
  comesUp ++ [.poll 1 [(1, EPOLLIN)], .dispatch 1, .exec 1 (.read (.arrived [65])), .exec 1 .none,
    .userSend 1 1 (.ofBytes [66, 67]), .exec 1 (.write (.room 1)), .userShutdown 1 1, .exec 1 .none, .userReturns 1,
    .swap 1, .iterate 1, .poll 1 [(1, EPOLLOUT)], .dispatch 1, .exec 1 (.write (.room 1))]

def clientCloses : List Label :=
  [.swap 1, .iterate 1, .poll 1 [(1, EPOLLIN)], .dispatch 1, .exec 1 (.read (.arrived [])), .exec 1 .none, .exec 1 .none,
    .userReturns 1, .exec 1 .none, .swap 0, .functor 0 .none, .swap 1, .functor 1 .none, .exec 1 .none]

theorem shut_down_is_final_replied :
    ∃ s conn t last, run System.step listening repliesAndShuts = some s ∧ s.conns 1 = some conn ∧
      conn.tcp.wire = [66, 67] ∧ run System.step s clientCloses = some t ∧ t.conns 1 = some last ∧
      last.tcp.wire = [66, 67] := by
  obtain ⟨s, conn, ran, found, facts⟩ := outcome_found repliesAndShuts
    (fun s conn => (conn.tcp.shutWr, conn.tcp.wire, (run System.step s clientCloses).isSome)) (true, [66, 67], true)
    (by decide +kernel)
  simp only [Prod.mk.injEq] at facts
  obtain ⟨issued, wire, continues⟩ := facts
  obtain ⟨t, continued⟩ := Option.isSome_iff_exists.mp continues
  obtain ⟨-, last, there, -, -, same⟩ := shut_down_is_final _ _ repliesAndShuts clientCloses s t 1 conn (by decide) ran found
    issued continued
  exact ⟨s, conn, t, last, ran, found, wire, continued, there, same.trans wire⟩

end Cmuduo.Net
