import Cmuduo.Lib.Refinement
import Cmuduo.Net.LoneStream
import Cmuduo.Net.Server.HalfClose

set_option autoImplicit false

namespace Cmuduo.Net

open Machine

-- What a task calls of the connection's output.
def Task.streamCalls (read : Captured → Option CppString) : Task → Answer → List StreamLabel
  | .sendInLoop payload, answer => (payload.offered read answer).toList.map fun (data, result) => .sendInLoop data result
  | .handleWrite, .write result => [.handleWrite result]
  | .shutdownInLoop, _ => [.shutdownInLoop]
  | _, _ => []

namespace Connection

def streamCalls (conn : Connection) (read : Captured → Option CppString) (task : Task) (answer : Answer) :
    List StreamLabel :=
  if conn.tcp.state = .kDisconnected then [] else task.streamCalls read answer

section
variable {read : Captured → Option CppString} {conn : Connection} {task : Task} {answer : Answer} {effect : Effect}

theorem closed_output (performs : Performs read conn task answer effect) (mirrors : Mirrors () conn.tcp.channel conn.tcp.slot)
    (closed : conn.tcp.state = .kDisconnected) (masked : conn.tcp.channel.events = KNoneEvent)
    (silent : task.carries = false) (notUp : task ≠ .connectEstablished) :
    conn.tcp.SameOutput effect.conn.tcp ∧ effect.conn.tcp.state = .kDisconnected := by
  have stays : conn.tcp.SameOutput conn.tcp ∧ conn.tcp.state = .kDisconnected := ⟨⟨rfl, rfl, rfl⟩, closed⟩
  cases performs with
  | handleClose answer tcp disabled => exact conn.tcp.close_output tcp disabled
  | setDisconnected answer tcp disabled => exact conn.tcp.close_output tcp disabled
  | handleRead result outcome tcp received =>
      obtain ⟨⟨buffer, rfl⟩, -⟩ := conn.tcp.handle_read_input tcp result outcome received
      exact ⟨⟨rfl, rfl, rfl⟩, closed⟩
  | handleWrite result tcp notices flushed =>
      rw [conn.tcp.handle_write_quiet tcp result notices (TcpConnection.no_events_quiet _ masked) flushed]
      exact stays
  | connectEstablished => exact absurd rfl notUp
  | channelRemove answer tcp removed =>
      obtain ⟨-, -, state, -⟩ := conn.tcp.channel_remove_unregistered tcp mirrors removed
      exact ⟨conn.tcp.with_channel_output tcp _ removed, state.trans closed⟩
  | sendDirect => cases silent
  | sendCaptured => cases silent
  | sendStray => cases silent
  | shutdownInLoop => cases silent
  | _ => exact stays

theorem performs_streams (performs : Performs read conn task answer effect) (stream : OutputStream)
    (streams : conn.tcp.Streams stream) (mirrors : Mirrors () conn.tcp.channel conn.tcp.slot)
    (masked : conn.tcp.state = .kDisconnected → conn.tcp.channel.events = KNoneEvent ∧ task.carries = false)
    (leaving : task.leaves = true → conn.tcp.state = .kDisconnected)
    (notUp : task ≠ .connectEstablished) (notSet : task ≠ .setDisconnected) :
    ∃ next, run OutputStream.step stream (conn.streamCalls read task answer) = some next ∧ effect.conn.tcp.Streams next := by
  rw [streamCalls]
  by_cases closed : conn.tcp.state = .kDisconnected
  · obtain ⟨events, silent⟩ := masked closed
    obtain ⟨same, state⟩ := closed_output performs mirrors closed events silent notUp
    rw [if_pos closed]
    exact ⟨stream, rfl, same.wire.trans streams.wire, same.outputBuffer.trans streams.outputBuffer, fun up => absurd state up⟩
  · have alike := streams.alike closed
    have stays : ∃ next, run OutputStream.step stream [] = some next ∧ conn.tcp.Streams next := ⟨stream, rfl, streams⟩
    rw [if_neg closed]
    cases performs with
    | handleClose answer tcp disabled =>
        obtain ⟨same, state⟩ := conn.tcp.close_output tcp disabled
        exact ⟨stream, rfl, same.wire.trans streams.wire, same.outputBuffer.trans streams.outputBuffer,
          fun up => absurd state up⟩
    | handleRead result outcome tcp received =>
        obtain ⟨⟨buffer, rfl⟩, -⟩ := conn.tcp.handle_read_input tcp result outcome received
        exact ⟨stream, rfl, streams.wire, streams.outputBuffer, fun _ => alike⟩
    | handleWrite result tcp notices flushed =>
        have done := conn.tcp.handle_write_with_input tcp stream.conn.inputBuffer result notices flushed
        rw [alike] at done
        refine TcpConnection.step_streams _ stream _ stream.conn.inputBuffer stream.sent ?_
        rw [OutputStream.step, done]
        rfl
    | connectEstablished => exact absurd rfl notUp
    | setDisconnected => exact absurd rfl notSet
    | channelRemove => exact absurd (leaving rfl) closed
    | sendDirect data result tcp notices sent => exact conn.tcp.send_streams _ stream data result notices alike sent
    | sendCaptured data bytes result tcp notices found sent =>
        simp only [Task.streamCalls, Payload.offered, Captured.found, found]
        exact conn.tcp.send_streams _ stream bytes result notices alike sent
    | sendStray data memory result tcp notices missing long sent =>
        simp only [Task.streamCalls, Payload.offered, Captured.found, missing, if_pos long]
        exact conn.tcp.send_streams _ stream memory result notices alike sent
    | shutdownInLoop answer =>
        refine TcpConnection.step_streams _ stream _ stream.conn.inputBuffer stream.sent ?_
        rw [OutputStream.step, ← alike, TcpConnection.shutdown_in_loop_with_input]
        rfl
    | _ => exact stays

end

end Connection

namespace View

def streamCalls (v : View) : LifeLabel → List StreamLabel
  | .functor read answer =>
      match v.queue with
      | task :: _ => v.conn.streamCalls read task answer
      | [] => []
  | .exec read answer =>
      match v.todo with
      | task :: _ => v.conn.streamCalls read task answer
      | [] => []
  | .userShutdown => if v.conn.tcp.state = .kDisconnected then [] else [.shutdown]
  | _ => []

theorem exec_streams (v : View) (stream : OutputStream) (task : Task) (rest : List Task) (read : Captured → Option CppString)
    (answer : Answer) (effect : Effect) (settling : Settling v) (streams : v.conn.tcp.Streams stream)
    (next : v.todo = task :: rest) (performs : Connection.Performs read v.conn task answer effect) :
    ∃ after, run OutputStream.step stream (v.conn.streamCalls read task answer) = some after ∧
      effect.conn.tcp.Streams after := by
  have member : task ∈ v.todo := by simp [next]
  obtain ⟨notUp, notSet⟩ := settling.todo task member
  exact Connection.performs_streams performs stream streams settling.mirrors
    (fun closed => ⟨(settling.masked closed).1, (settling.masked closed).2 task member⟩)
    (settling.leaving task (next_everywhere v next)) notUp notSet

theorem step_streams (v w : View) (life : LifeLabel) (stream : OutputStream) (settling : Settling v)
    (streams : v.conn.tcp.Streams stream) (onLoop : OnLoop life) (taken : v.step life = some w) :
    ∃ after, run OutputStream.step stream (v.streamCalls life) = some after ∧ w.conn.tcp.Streams after := by
  cases life with
  | poll revents =>
      simp only [step, Option.ite_none_right_eq_some, Option.some.injEq] at taken
      obtain ⟨-, rfl⟩ := taken
      exact ⟨stream, rfl, streams⟩
  | dispatch =>
      simp only [step] at taken
      split at taken
      · cases taken
        exact ⟨stream, rfl, streams⟩
      · cases taken
  | functor read answer =>
      simp only [step] at taken
      split at taken
      · next task queue idle drained next =>
          obtain ⟨effect, performs, rfl⟩ := call_performs _ w task [] read answer taken
          have fetched := settling_fetch v task queue settling idle drained next
          obtain ⟨after, ran, shown⟩ := exec_streams _ stream task [] read answer effect fetched streams rfl performs
          refine ⟨after, ?_, shown⟩
          rw [streamCalls, next]
          exact ran
      · cases taken
  | exec read answer =>
      simp only [step] at taken
      split at taken
      · next task rest next =>
          obtain ⟨effect, performs, rfl⟩ := call_performs v w task rest read answer taken
          obtain ⟨after, ran, shown⟩ := exec_streams v stream task rest read answer effect settling streams next performs
          refine ⟨after, ?_, shown⟩
          rw [streamCalls, next]
          exact ran
      · cases taken
  | mainFunctor =>
      simp only [step] at taken
      split at taken
      · cases taken
        exact ⟨stream, rfl, streams⟩
      · cases taken
  | userSend data =>
      simp only [step, Option.ite_none_right_eq_some, Option.some.injEq] at taken
      obtain ⟨-, rfl⟩ := taken
      refine ⟨stream, rfl, ?_⟩
      split <;> exact streams
  | userShutdown =>
      simp only [step, Option.ite_none_right_eq_some, Option.some.injEq] at taken
      obtain ⟨-, rfl⟩ := taken
      rw [streamCalls]
      by_cases closed : v.conn.tcp.state = .kDisconnected
      · rw [if_pos closed, if_neg (by rw [closed]; exact StateE.noConfusion)]
        exact ⟨stream, rfl, streams⟩
      · have alike := streams.alike closed
        rw [if_neg closed]
        refine TcpConnection.step_streams _ stream _ stream.conn.inputBuffer stream.sent ?_
        rw [OutputStream.step, ← alike]
        by_cases connected : v.conn.tcp.state = .kConnected
        · rw [if_pos connected]
          exact congrArg some (congrArg (OutputStream.mk · _) (if_pos connected))
        · rw [if_neg connected]
          exact congrArg some (congrArg (OutputStream.mk · _) (if_neg connected))
  | send => exact onLoop.elim
  | shutdown => exact onLoop.elim
  | destroy => exact onLoop.elim
  | queueSend thread => simp [step, settling.calls thread] at taken
  | storeDisconnecting thread => simp [step, settling.calls thread] at taken
  | queueShutdown thread => simp [step, settling.calls thread] at taken

-- Before connectEstablished there is nothing to put out.
theorem accepted_silent (v w : View) (life : LifeLabel) (accepted : Accepted v) (taken : v.step life = some w) :
    v.streamCalls life = [] := by
  have first : ∀ read answer, v.conn.streamCalls read .connectEstablished answer = [] := fun _ _ => ite_self _
  cases life with
  | functor read answer =>
      rw [streamCalls]
      rcases accepted.waits with ⟨-, -, empty, -⟩ | ⟨-, -, waiting⟩
      · rw [empty]
      · rw [waiting]
        exact first read answer
  | exec read answer =>
      rw [streamCalls]
      rcases accepted.waits with ⟨-, waiting, -⟩ | ⟨-, idle, -⟩
      · rw [waiting]
        exact first read answer
      · rw [idle]
  | userShutdown =>
      have hidden := unpublished_not_published v accepted.toUnpublished
      simp [step, hidden] at taken
  | _ => rfl

theorem established_settled (v : View) (settles : Settles v) (established : Established v) : Settling v := by
  rcases settles with ⟨waiting, -⟩ | settling
  · obtain ⟨_, _, _, _, up⟩ := established.tcp
    obtain ⟨_, _, _, _, new⟩ := waiting.tcp
    cases (congrArg TcpConnection.state up).symm.trans (congrArg TcpConnection.state new)
  · exact settling

end View

namespace System

-- What a step of the server calls of the output of one connection.
def streamCalls (id : ConnId) (s : System) (label : Label) (_ : System) : List StreamLabel :=
  match s.view id, s.lifeLabel id label with
  | some v, some life => v.streamCalls life
  | _, _ => []

-- The lone connection beside a connection that has been established.
def Lone (id : ConnId) (s : System) (stream : OutputStream) : Prop :=
  ∃ v, s.view id = some v ∧ v.Settling ∧ v.conn.tcp.Streams stream

theorem step_of_view (s t : System) (label : Label) (id : ConnId) (v : View) (home : Home s) (onLoop : label.OnLoop)
    (taken : s.step label = some t) (seen : s.view id = some v) :
    s.lifeLabel id label = none ∧ t.view id = some v ∨
      ∃ life w, s.lifeLabel id label = some life ∧ View.OnLoop life ∧ v.step life = some w ∧ t.view id = some w := by
  have found := view_conn s id v seen
  have same := Option.some.inj ((view_found s id v.conn found).symm.trans seen)
  have follows := step_follows s t label id v.conn home found taken
  cases about : s.lifeLabel id label with
  | none =>
      rw [about] at follows
      exact .inl ⟨rfl, follows.trans seen⟩
  | some life =>
      rw [about] at follows
      obtain ⟨w, moved, after⟩ := follows
      rw [same] at moved
      exact .inr ⟨life, w, rfl, guards_life (fun _ _ => View.OnLoop) s label id v life (fun _ _ _ => trivial)
        (s.on_loop_guards label onLoop) seen about, moved, after⟩

theorem refines_stream (id : ConnId) : Refines step OutputStream.step (streamCalls id) (fun _ label => label.OnLoop)
    (EveryView fun _ => View.Settles) (Lone id) := by
  refine ⟨fun s label t settles onLoop taken => step_settles s t label settles onLoop taken, ?_⟩
  rintro s label t stream settles onLoop ⟨v, seen, settling, streams⟩ taken
  rw [streamCalls, seen]
  rcases step_of_view s t label id v settles.1 onLoop taken seen with
    ⟨about, after⟩ | ⟨life, w, about, here, moved, after⟩
  · rw [about]
    exact ⟨stream, rfl, v, after, settling, streams⟩
  · obtain ⟨next, ran, shown⟩ := v.step_streams w life stream settling streams here moved
    rw [about]
    exact ⟨next, ran, w, after, v.settling_moves w life settling here (View.step_moves v w life moved), shown⟩

def Unestablished (id : ConnId) (s : System) : Prop := ∀ v, s.view id = some v → v.Accepted

theorem makes_stream (id : ConnId) (s t : System) (label : Label) (settles : EveryView (fun _ => View.Settles) s)
    (onLoop : label.OnLoop) (before : Unestablished id s) (taken : s.step label = some t) :
    streamCalls id s label t = [] ∧ (Unestablished id t ∨
      ∃ stream, (∃ sockfd writeComplete highWater mark,
        stream = ⟨.established sockfd writeComplete highWater mark, []⟩) ∧ Lone id t stream) := by
  rw [streamCalls]
  cases seen : s.view id with
  | none =>
      refine ⟨rfl, .inl fun w after => ?_⟩
      have unseen : s.conns id = none := by simpa [view] using seen
      exact View.fresh_accepted w (step_creates s t label id w settles.1 unseen taken after)
  | some v =>
      have accepted := before v seen
      rcases step_of_view s t label id v settles.1 onLoop taken seen with
        ⟨about, after⟩ | ⟨life, w, about, here, moved, after⟩
      · rw [about]
        refine ⟨rfl, .inl fun w there => ?_⟩
        rw [Option.some.inj (there.symm.trans after)]
        exact accepted
      · rw [about]
        refine ⟨v.accepted_silent w life accepted moved, ?_⟩
        have further := (View.accepted_moves v w life accepted (View.step_moves v w life moved)).1
        rcases further with waiting | established
        · refine .inl fun other there => ?_
          rw [Option.some.inj (there.symm.trans after)]
          exact waiting
        · obtain ⟨sockfd, writeComplete, highWater, mark, same⟩ := established.tcp
          refine .inr ⟨_, ⟨sockfd, writeComplete, highWater, mark, rfl⟩, w, after, ?_, ?_⟩
          · exact w.established_settled ((step_settles s t label settles onLoop taken).2 id w after) established
          · rw [same]
            exact ⟨rfl, rfl, fun _ => rfl⟩

end System

-- Whatever the loops do for other connections in between, the output of each
-- connection is that of a lone one under the calls made on it.
theorem connections_stream_alone (name : List Char) (listen : Base.InetAddress) (labels : List Label) (s : System)
    (id : ConnId) (conn : Connection) (onLoop : ∀ label ∈ labels, label.OnLoop)
    (ran : run System.step (.new name listen) labels = some s) (found : s.conns id = some conn) :
    let calls := outputs System.step (System.streamCalls id) (.new name listen) labels
    (∃ sockfd writeComplete highWater mark, conn.tcp = .new sockfd writeComplete highWater mark) ∨
      ∃ sockfd writeComplete highWater mark stream,
        run OutputStream.step ⟨.established sockfd writeComplete highWater mark, []⟩ calls = some stream ∧
          conn.tcp.Streams stream ∧
          (Guarded OutputStream.step OutputStream.Delivers ⟨.established sockfd writeComplete highWater mark, []⟩ calls →
            conn.tcp.wire ++ conn.tcp.outputBuffer.readable = stream.sent) := by
  have seen := System.view_found s id conn found
  have made := (System.refines_stream id).run_made (System.Unestablished id)
    (fun stream => ∃ sockfd writeComplete highWater mark,
      stream = ⟨.established sockfd writeComplete highWater mark, []⟩)
    (fun s label t settles onLoop before taken => System.makes_stream id s t label settles onLoop before taken)
    (.new name listen) s labels (System.new_every_view _ name listen) (fun v there => by cases there)
    (guarded_labels _ _ Label.OnLoop (fun _ _ here => here) _ labels onLoop) ran
  rcases made with unmade | ⟨first, stream, ⟨sockfd, writeComplete, highWater, mark, rfl⟩, played, v, there, -, streams⟩
  · exact .inl (unmade _ seen).tcp
  · obtain rfl := Option.some.inj (there.symm.trans seen)
    refine .inr ⟨sockfd, writeComplete, highWater, mark, stream, played, streams, fun delivers => ?_⟩
    have start := TcpConnection.established_open sockfd writeComplete highWater mark
    have whole := guarded_invariant OutputStream.step OutputStream.Delivers (fun s => s.conn.Open ∧ s.Intact)
      (fun s label t inv allowed taken => (s.step_delivers t label inv.1 inv.2 taken).imp_right fun same => same.mpr allowed)
      ⟨.established sockfd writeComplete highWater mark, []⟩ stream _ ⟨start, Buffer.new_readable kInitiaSize⟩ delivers played
    exact (congrArg₂ _ streams.wire (congrArg Buffer.readable streams.outputBuffer)).trans whole.2

-- Two connections on one loop, which writes to both of them in the first callback of
-- the second.
def writesToBoth : List Label :=
  comesUp ++ [.accept 6 1 false false 0, .poll 1 [], .swap 1, .functor 1 .none, .exec 1 .none,
    .userSend 1 1 (.ofBytes [65, 66]), .exec 1 (.write (.room 1)), .userSend 1 2 (.ofBytes [67]),
    .exec 1 (.write (.room 1)), .userShutdown 1 2, .exec 1 .none, .userReturns 1, .iterate 1]

theorem connections_stream_alone_both :
    ∃ s conn stream, run System.step listening writesToBoth = some s ∧ s.conns 1 = some conn ∧
      outputs System.step (System.streamCalls 1) listening writesToBoth = [.sendInLoop (.ofBytes [65, 66]) (.room 1)] ∧
      conn.tcp.Streams stream ∧ conn.tcp.wire ++ conn.tcp.outputBuffer.readable = stream.sent := by
  obtain ⟨s, conn, ran, found, connected⟩ := outcome_found writesToBoth (fun _ conn => conn.tcp.state) .kConnected
    (by decide +kernel)
  have calls : outputs System.step (System.streamCalls 1) listening writesToBoth =
      [.sendInLoop (.ofBytes [65, 66]) (.room 1)] := by decide +kernel
  rcases connections_stream_alone _ _ writesToBoth s 1 conn (by decide) ran found with
    ⟨_, _, _, _, new⟩ | ⟨sockfd, writeComplete, highWater, mark, stream, -, streams, whole⟩
  · rw [new] at connected
    cases connected
  · refine ⟨s, conn, stream, ran, found, calls, streams, whole ?_⟩
    rw [show outputs System.step (System.streamCalls 1) (.new _ _) writesToBoth = _ from calls]
    exact ⟨fun breaks => by simpa using breaks.2.2.2, fun _ _ => trivial⟩

end Cmuduo.Net

