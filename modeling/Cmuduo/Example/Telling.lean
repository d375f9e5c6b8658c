import Cmuduo.Example.Delivery
import Cmuduo.Net.Server.Callbacks

set_option autoImplicit false

namespace Cmuduo.Example

open Net Machine

theorem carried_shut (c : TcpConnection) (said : List String) (carried : Carried c said true) :
    Carried c.shutdownInLoop said true := by
  obtain ⟨isOpen, stream, state, final⟩ := carried
  cases writing : c.channel.isWriting with
  | true =>
      rw [show c.shutdownInLoop = c from if_pos writing]
      exact ⟨isOpen, stream, state, final⟩
  | false =>
      rw [show c.shutdownInLoop = { c with shutWr := true } from if_neg (by simp [writing])]
      exact ⟨⟨isOpen.valid, isOpen.registered, isOpen.events⟩, stream, state, fun _ =>
        ⟨rfl, (c.open_not_writing isOpen).mp writing⟩⟩

theorem carried_sent (c next : TcpConnection) (said : List String) (text : String) (result : WriteResult)
    (queued : List Notice) (carried : Carried c said false)
    (fine : OutputStream.Delivers ⟨c, []⟩ (.sendInLoop (content text) result))
    (done : c.sendInLoop (content text) result = .ok (next, queued)) : Carried next (said ++ [text]) false := by
  obtain ⟨isOpen, stream, state, final⟩ := carried
  have connected : c.state = .kConnected := state
  have accepted : c.state ≠ .kDisconnecting := by simp [connected]
  obtain ⟨nextOpen, same, exactly⟩ := c.send_in_loop_exact next _ result queued isOpen accepted done
  have shutWr := (c.send_in_loop_effects next _ result queued isOpen done).shutWr
  refine ⟨nextOpen, ?_, same.trans connected, fun issued =>
    absurd (final (shutWr.symm.trans issued)).1 Bool.false_ne_true⟩
  rw [exactly.mpr fun broken => fine ⟨accepted, broken⟩, stream]
  simp [bytes]

theorem Carried.with_input {c : TcpConnection} {said : List String} {ended : Bool} (carried : Carried c said ended)
    (buffer : Buffer) : Carried (c.withInput buffer) said ended :=
  ⟨carried.isOpen.with_input buffer, carried.stream, carried.state, carried.final⟩

-- What has been said on an open connection, with the call that is being made.
inductive Telling (c : TcpConnection) : List String → Bool → List Task → Prop where
  | quiet (said : List String) (ended : Bool) (carried : Carried c said ended) : Telling c said ended []
  | sending (said : List String) (text : String) (carried : Carried c said false) :
      Telling c (said ++ [text]) false [.sendInLoop (.direct (content text))]
  | shutting (said : List String) (carried : Carried c said true) : Telling c said true [.shutdownInLoop]

-- The steps that are not calls of the user.
def Uncalled : LifeLabel → Prop
  | .userSend _ | .userShutdown => False
  | _ => True

def Told (v : View) (said : List String) (ended : Bool) : Prop :=
  v.conn.tcp.state ≠ .kDisconnected → Telling v.conn.tcp said ended (v.todo.filter Task.carries)

theorem established_told (v : View) (established : View.Established v) : Told v [] false := by
  intro _
  obtain ⟨sockfd, writeComplete, highWater, mark, same⟩ := established.tcp
  rw [established.todo, same]
  exact .quiet [] false ⟨TcpConnection.established_open _ _ _ _, Buffer.new_readable kInitiaSize, rfl, fun issued => by
    cases issued⟩

theorem told_with_input (v : View) (buffer : Buffer) {said : List String} {ended : Bool} (told : Told v said ended) :
    Told (v.withInput buffer) said ended := by
  intro up
  have telling := told up
  rw [show (v.withInput buffer).todo = v.todo from rfl]
  generalize v.todo.filter Task.carries = tasks at telling ⊢
  cases telling with
  | quiet said ended carried => exact .quiet said ended (carried.with_input buffer)
  | sending said text carried => exact .sending said text (carried.with_input buffer)
  | shutting said carried => exact .shutting said (carried.with_input buffer)

section
variable {read : Captured → Option CppString} {answer : Answer} {effect : Effect} {task : Task} {rest : List Task}
  {said : List String} {ended : Bool}

-- Between two calls all that was said is carried.
theorem told_quiet (v : View) (told : Told v said ended) (nothing : v.todo.filter Task.carries = [])
    (up : v.conn.tcp.state ≠ .kDisconnected) : Carried v.conn.tcp said ended := by
  have telling := told up
  rw [nothing] at telling
  cases telling with
  | quiet _ _ carried => exact carried

theorem told_idle (v : View) (told : Told v said ended) (idle : v.todo = []) (up : v.conn.tcp.state ≠ .kDisconnected) :
    Carried v.conn.tcp said ended :=
  told_quiet v told (by rw [idle]; rfl) up

-- The call that the user has made.
theorem told_call (v : View) (told : Told v said ended) (next : v.todo = task :: rest) (carries : task.carries = true)
    (performs : Connection.Performs read v.conn task answer effect) (up : v.conn.tcp.state ≠ .kDisconnected)
    (delivers : ∀ call ∈ v.conn.streamCalls read task answer, OutputStream.Delivers ⟨v.conn.tcp, []⟩ call) :
    Carried effect.conn.tcp said ended ∧ rest.filter Task.carries = [] := by
  have telling := told up
  rw [next, List.filter_cons_of_pos carries] at telling
  generalize behind : rest.filter Task.carries = tasks at telling
  rw [Connection.streamCalls, if_neg up] at delivers
  cases telling with
  | sending said text carried =>
      cases performs with
      | sendDirect data result tcp notices sent =>
          exact ⟨carried_sent _ tcp said text result notices carried (delivers _ (List.mem_singleton_self _)) sent, rfl⟩
  | shutting said carried =>
      cases performs with
      | shutdownInLoop => exact ⟨carried_shut _ said carried, rfl⟩

-- What the connection does itself.
theorem told_own (v : View) (settling : View.Settling v) (next : v.todo = task :: rest) (silent : task.carries = false)
    (performs : Connection.Performs read v.conn task answer effect) (carried : Carried v.conn.tcp said ended)
    (up : effect.conn.tcp.state ≠ .kDisconnected) (before : v.conn.tcp.state ≠ .kDisconnected)
    (delivers : ∀ call ∈ v.conn.streamCalls read task answer, OutputStream.Delivers ⟨v.conn.tcp, []⟩ call) :
    Carried effect.conn.tcp said ended := by
  have member : task ∈ v.todo := by simp [next]
  obtain ⟨notUp, notSet⟩ := settling.todo task member
  rw [Connection.streamCalls, if_neg before] at delivers
  cases performs with
  | handleClose answer tcp disabled => exact absurd (TcpConnection.disable_all_mirrored _ tcp disabled).state up
  | handleRead result outcome tcp received =>
      obtain ⟨⟨buffer, rfl⟩, -⟩ := v.conn.tcp.handle_read_input tcp result outcome received
      exact carried.with_input buffer
  | handleWrite result tcp notices flushed =>
      exact flush_carried _ tcp said ended result notices carried (delivers _ (List.mem_singleton_self _)) flushed
  | connectEstablished => exact absurd rfl notUp
  | setDisconnected => exact absurd rfl notSet
  | channelRemove => exact absurd (settling.leaving _ (View.next_everywhere v next) rfl) before
  | sendDirect => cases silent
  | sendCaptured => cases silent
  | sendStray => cases silent
  | shutdownInLoop => cases silent
  | _ => exact carried

theorem told_exec (v : View) (settling : View.Settling v) (told : Told v said ended) (next : v.todo = task :: rest)
    (performs : Connection.Performs read v.conn task answer effect)
    (delivers : ∀ call ∈ v.conn.streamCalls read task answer, OutputStream.Delivers ⟨v.conn.tcp, []⟩ call) :
    Told (v.apply rest effect) said ended := by
  intro up
  have notUp := (settling.todo task (by simp [next])).1
  have before : v.conn.tcp.state ≠ .kDisconnected := fun closed =>
    up ((View.performs_disconnects performs notUp).elim id fun same => same.1.trans closed)
  cases carries : task.carries with
  | true =>
      obtain ⟨carried, nothing⟩ := told_call v told next carries performs before delivers
      rw [View.carries_todo v performs carries, nothing]
      exact .quiet _ _ carried
  | false =>
      have nothing : (v.apply rest effect).todo.filter Task.carries = [] :=
        List.filter_eq_nil_iff.mpr fun other member => by simp [(View.exec_pushed v settling next performs).2 carries other member]
      have behind : rest.filter Task.carries = [] :=
        List.filter_eq_nil_iff.mpr fun other member => by simp [v.behind_silent task rest settling next carries other member]
      have carried := told_quiet v told (by rw [next, List.filter_cons_of_neg (by simp [carries]), behind]) before
      rw [nothing]
      exact .quiet _ _ (told_own v settling next carries performs carried up before delivers)

theorem told_moves (v w : View) (life : LifeLabel) (settling : View.Settling v) (told : Told v said ended)
    (onLoop : View.OnLoop life) (uncalled : Uncalled life)
    (delivers : ∀ call ∈ v.streamCalls life, OutputStream.Delivers ⟨v.conn.tcp, []⟩ call) (moves : View.Moves v life w) :
    Told w said ended := by
  cases moves with
  | poll revents drained idle registered => exact told
  | dispatch revents active idle next =>
      intro up
      have light : (handleEventWithGuard revents).filter Task.carries = [] :=
        List.sublist_nil.mp ((dispatch_order revents).filter Task.carries)
      rw [light]
      exact .quiet _ _ (told_idle v told idle up)
  | functor read answer task queue effect idle drained next performs =>
      have queued := settling.queue task (by simp [next])
      have fetched : Told (v.fetch task queue) said ended := by
        intro up
        have light : (v.fetch task queue).todo.filter Task.carries = [] := by
          rcases queued with rfl | ⟨notice, rfl⟩ <;> rfl
        rw [light]
        exact .quiet _ _ (told_idle v told idle up)
      rw [View.streamCalls, next] at delivers
      exact told_exec _ (View.settling_fetch v task queue settling idle drained next) fetched rfl performs delivers
  | exec read answer task rest effect next performs =>
      rw [View.streamCalls, next] at delivers
      exact told_exec v settling told next performs delivers
  | mainFunctor main next => exact told
  | ignored life published refused => exact told
  | userSend data => exact uncalled.elim
  | userShutdown => exact uncalled.elim
  | send => exact onLoop.elim
  | shutdown => exact onLoop.elim
  | queueSend thread data calling => cases (settling.calls thread).symm.trans calling
  | storeDisconnecting thread calling => cases (settling.calls thread).symm.trans calling
  | queueShutdown thread calling => cases (settling.calls thread).symm.trans calling
  | destroyHere => exact onLoop.elim
  | destroyThere => exact onLoop.elim

theorem told_send (v w : View) (text : String) (told : Told v said ended) (nothing : v.todo.filter Task.carries = [])
    (moves : View.Moves v (.userSend (content text)) w) : Told w (if ended then said else said ++ [text]) ended := by
  cases moves with
  | userSend data published connected =>
      intro up
      have carried := told_quiet v told nothing up
      rw [List.filter_cons_of_pos rfl, nothing]
      cases ended with
      | true => cases connected.symm.trans carried.state
      | false => exact .sending said text carried
  | ignored life published refused =>
      intro up
      have carried := told_quiet v told nothing up
      rw [nothing]
      cases ended with
      | true => exact .quiet said true carried
      | false => exact absurd carried.state refused

theorem told_shutdown (v w : View) (told : Told v said ended) (nothing : v.todo.filter Task.carries = [])
    (moves : View.Moves v .userShutdown w) : Told w said true := by
  cases moves with
  | userShutdown published connected =>
      intro _
      have carried := told_quiet v told nothing (by simp [connected])
      rw [List.filter_cons_of_pos rfl, nothing]
      cases ended with
      | true => cases connected.symm.trans carried.state
      | false =>
          exact .shutting said ⟨carried.isOpen.set_state _, carried.stream, rfl, fun issued =>
            absurd (carried.final issued).1 Bool.false_ne_true⟩
  | ignored life published refused =>
      intro up
      have carried := told_quiet v told nothing up
      rw [nothing]
      cases ended with
      | true => exact .quiet said true carried
      | false => exact absurd carried.state refused

end

end Cmuduo.Example
