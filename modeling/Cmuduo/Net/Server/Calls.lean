import Cmuduo.Net.ClosedConnection
import Cmuduo.Net.Server.Moves

set_option autoImplicit false

namespace Cmuduo.Net

-- The calls that register or deregister a channel, or lead to one that does.
def Task.touches : Task → Bool
  | .handleClose | .handleRead | .handleWrite | .connectEstablished | .connectDestroyed | .setDisconnected
  | .channelRemove => true
  | _ => false

-- The tasks that other threads queue on a connection.
def Task.carries : Task → Bool
  | .sendInLoop _ | .shutdownInLoop => true
  | _ => false

def core (tasks : List Task) : List Task := tasks.filter Task.touches

@[simp] theorem core_nil : core [] = [] := rfl

@[simp] theorem core_append (tasks more : List Task) : core (tasks ++ more) = core tasks ++ core more :=
  List.filter_append tasks more

theorem core_touching (task : Task) (rest : List Task) (touching : task.touches = true) :
    core (task :: rest) = task :: core rest := List.filter_cons_of_pos touching

theorem core_aside (task : Task) (rest : List Task) (aside : task.touches = false) : core (task :: rest) = core rest :=
  List.filter_cons_of_neg (by simp [aside])

theorem dispatch_order (revents : EventMask) :
    (handleEventWithGuard revents).Sublist [.handleClose, .handleError, .handleRead, .handleWrite] := by
  have keeps : ∀ (condition : Prop) [Decidable condition] (task : Task),
      (if condition then [task] else []).Sublist [task] := by
    intro condition _ task
    by_cases holds : condition
    · rw [if_pos holds]
    · rw [if_neg holds]
      exact List.nil_sublist _
  exact (((keeps _ _).append (keeps _ _)).append (keeps _ _)).append (keeps _ _)

def OnlyDestroys (queue : List Task) : Prop := ∀ task ∈ queue, task.touches = true → task = .connectDestroyed

theorem only_destroys_nil : OnlyDestroys [] := fun _ member => nomatch member

theorem only_destroys_append (queue more : List Task) (before : OnlyDestroys queue) (added : OnlyDestroys more) :
    OnlyDestroys (queue ++ more) := by
  intro task member
  rcases List.mem_append.mp member with old | new
  · exact before task old
  · exact added task new

theorem only_destroys_single (task : Task) (added : task.touches = true → task = .connectDestroyed) :
    OnlyDestroys [task] := by
  intro other member
  rw [List.mem_singleton.mp member]
  exact added

theorem only_destroys_notices (notices : List Notice) : OnlyDestroys (notices.map .notice) := by
  intro task member touching
  obtain ⟨notice, -, rfl⟩ := List.mem_map.mp member
  cases touching

-- The arguments of a sendInLoop, and what ::write answers.
def Payload.offered (read : Captured → Option CppString) : Payload → Answer → Option (CppString × WriteResult)
  | .direct data, .write result => some (data, result)
  | .captured data, answer => data.found (read data) answer
  | .direct _, _ => none

-- What is asked of a call on a closed connection: it reads something or fails,
-- and it sends nothing, wherever its data points.
def Connection.Quiets (read : Captured → Option CppString) (conn : Connection) : Task → Answer → Prop
  | .handleRead, .read result => result ≠ .arrived []
  | .sendInLoop payload, answer => ∀ sent ∈ payload.offered read answer, conn.tcp.SendsNothing sent.1 sent.2
  | _, _ => True

instance (read : Captured → Option CppString) (conn : Connection) (task : Task) (answer : Answer) :
    Decidable (conn.Quiets read task answer) := by
  unfold Connection.Quiets
  split <;> infer_instance

section
variable {read : Captured → Option CppString} {conn : Connection} {task : Task} {answer : Answer} {effect : Effect}

namespace Connection

-- The other calls leave nothing of the kind behind, but for connectDestroyed.
theorem performs_aside (performs : Performs read conn task answer effect) (aside : task.touches = false) :
    effect.front = [] ∧ effect.conn.deregistered = conn.deregistered ∧ OnlyDestroys effect.queue := by
  cases performs with
  | removeConnectionInLoop => exact ⟨rfl, rfl, only_destroys_single .connectDestroyed fun _ => rfl⟩
  | sendDirect data result tcp notices sent => exact ⟨rfl, rfl, only_destroys_notices notices⟩
  | sendCaptured data bytes result tcp notices found sent => exact ⟨rfl, rfl, only_destroys_notices notices⟩
  | handleError => exact ⟨rfl, rfl, only_destroys_nil⟩
  | connectionCallback => exact ⟨rfl, rfl, only_destroys_nil⟩
  | messageCallback => exact ⟨rfl, rfl, only_destroys_nil⟩
  | closeCallback => exact ⟨rfl, rfl, only_destroys_nil⟩
  | sendStray data memory result tcp notices missing long sent => exact ⟨rfl, rfl, only_destroys_notices notices⟩
  | shutdownInLoop => exact ⟨rfl, rfl, only_destroys_nil⟩
  | notice => exact ⟨rfl, rfl, only_destroys_nil⟩
  | _ => cases aside

theorem performs_carries (performs : Performs read conn task answer effect) :
    effect.front.filter Task.carries = [] ∧ effect.queue.filter Task.carries = [] := by
  have silent : ∀ (notices : List Notice), (notices.map Task.notice).filter Task.carries = [] := by
    intro notices
    refine List.filter_eq_nil_iff.mpr fun task member => ?_
    obtain ⟨notice, -, rfl⟩ := List.mem_map.mp member
    exact Bool.false_ne_true
  cases performs with
  | handleRead result outcome => cases outcome <;> exact ⟨rfl, rfl⟩
  | handleWrite result tcp notices => exact ⟨rfl, silent notices⟩
  | sendDirect data result tcp notices => exact ⟨rfl, silent notices⟩
  | sendCaptured data bytes result tcp notices => exact ⟨rfl, silent notices⟩
  | sendStray data memory result tcp notices => exact ⟨rfl, silent notices⟩
  | connectDestroyed =>
      refine ⟨?_, rfl⟩
      dsimp only [plain]
      split <;> rfl
  | _ => exact ⟨rfl, rfl⟩

theorem aside_tcp (performs : Performs read conn task answer effect) (aside : task.touches = false) :
    effect.conn.tcp = conn.tcp ∨ effect.conn.tcp = conn.tcp.shutdownInLoop ∨
      ∃ payload bytes result notices, task = .sendInLoop payload ∧
        payload.offered read answer = some (bytes, result) ∧ conn.tcp.sendInLoop bytes result = .ok (effect.conn.tcp, notices) := by
  cases performs with
  | sendDirect data result tcp notices sent =>
      exact .inr (.inr ⟨.direct data, data, result, notices, rfl, rfl, sent⟩)
  | sendCaptured data bytes result tcp notices found sent =>
      exact .inr (.inr ⟨.captured data, bytes, result, notices, rfl, by rw [Payload.offered, found]; rfl, sent⟩)
  | sendStray data memory result tcp notices missing long sent =>
      exact .inr (.inr ⟨.captured data, memory, result, notices, rfl,
        by rw [Payload.offered, missing]; exact if_pos long, sent⟩)
  | shutdownInLoop => exact .inr (.inl rfl)
  | handleError => exact .inl rfl
  | connectionCallback => exact .inl rfl
  | messageCallback => exact .inl rfl
  | closeCallback => exact .inl rfl
  | removeConnectionInLoop => exact .inl rfl
  | notice => exact .inl rfl
  | _ => cases aside

theorem aside_mirrored (performs : Performs read conn task answer effect) (aside : task.touches = false) :
    conn.tcp.Mirrored effect.conn.tcp := by
  rcases aside_tcp performs aside with same | same | ⟨payload, bytes, result, notices, -, -, sent⟩
  · rw [same]
    exact conn.tcp.mirrored_refl
  · rw [same]
    exact conn.tcp.same_channel_mirrored _ conn.tcp.shutdown_in_loop_same.1
  · exact conn.tcp.send_in_loop_mirrored _ bytes result notices sent

theorem performs_mirrors (performs : Performs read conn task answer effect)
    (mirrors : Mirrors () conn.tcp.channel conn.tcp.slot) :
    Mirrors () effect.conn.tcp.channel effect.conn.tcp.slot := by
  cases touching : task.touches with
  | false => exact (aside_mirrored performs touching).mirrors mirrors
  | true =>
      cases performs with
      | handleClose answer tcp disabled => exact (TcpConnection.disable_all_mirrored _ tcp disabled).mirrors mirrors
      | handleRead result outcome tcp received =>
          obtain ⟨⟨buffer, rfl⟩, -⟩ := conn.tcp.handle_read_input tcp result outcome received
          exact mirrors
      | handleWrite result tcp notices flushed => exact (conn.tcp.handle_write_mirrored tcp result notices flushed).mirrors mirrors
      | connectEstablished answer tcp up =>
          exact (TcpConnection.update_mirrored { conn.tcp.setState .kConnected with
            channel := { conn.tcp.channel with tied := true } } tcp _ up).mirrors mirrors
      | connectDestroyed => exact mirrors
      | setDisconnected answer tcp disabled => exact (TcpConnection.disable_all_mirrored _ tcp disabled).mirrors mirrors
      | channelRemove answer tcp removed =>
          exact .inr (conn.tcp.channel_remove_unregistered tcp mirrors removed).1
      | _ => cases touching

-- Only connectEstablished, handleClose and connectDestroyed set state_.
theorem performs_state (performs : Performs read conn task answer effect) (notUp : task ≠ .connectEstablished)
    (notClosed : task ≠ .handleClose) (notDestroyed : task ≠ .setDisconnected) :
    effect.conn.tcp.state = conn.tcp.state := by
  cases touching : task.touches with
  | false => exact (aside_mirrored performs touching).state
  | true =>
      cases performs with
      | handleRead result outcome tcp received =>
          obtain ⟨⟨buffer, rfl⟩, -⟩ := conn.tcp.handle_read_input tcp result outcome received
          rfl
      | handleWrite result tcp notices flushed => exact (conn.tcp.handle_write_mirrored tcp result notices flushed).state
      | connectDestroyed => rfl
      | channelRemove answer tcp removed => exact conn.tcp.with_channel_state tcp _ removed
      | handleClose => exact absurd rfl notClosed
      | setDisconnected => exact absurd rfl notDestroyed
      | connectEstablished => exact absurd rfl notUp
      | _ => cases touching

theorem aside_open (performs : Performs read conn task answer effect) (aside : task.touches = false)
    (isOpen : conn.tcp.Open) : effect.conn.tcp.Open ∧ effect.conn.tcp.state = conn.tcp.state := by
  rcases aside_tcp performs aside with same | same | ⟨payload, bytes, result, notices, -, -, sent⟩
  · rw [same]
    exact ⟨isOpen, rfl⟩
  · obtain ⟨channel, buffer, -⟩ := conn.tcp.shutdown_in_loop_same
    rw [same]
    refine ⟨⟨?_, ?_, ?_⟩, channel.state⟩
    · rw [buffer]
      exact isOpen.valid
    · rw [channel.channel, channel.slot]
      exact isOpen.registered
    · rw [channel.channel, buffer]
      exact isOpen.events
  · exact conn.tcp.send_in_loop_keeps_open _ bytes result notices isOpen sent

theorem aside_closed (performs : Performs read conn task answer effect) (aside : task.touches = false)
    (quiet : conn.Quiets read task answer) :
    conn.tcp.SameChannel effect.conn.tcp ∧ effect.conn.tcp.wire = conn.tcp.wire := by
  rcases aside_tcp performs aside with same | same | ⟨payload, bytes, result, notices, rfl, offered, sent⟩
  · rw [same]
    exact ⟨conn.tcp.same_channel_refl, rfl⟩
  · obtain ⟨channel, -, wire, -⟩ := conn.tcp.shutdown_in_loop_same
    rw [same]
    exact ⟨channel, wire⟩
  · have silent : conn.tcp.SendsNothing bytes result := quiet (bytes, result) offered
    exact ⟨conn.tcp.send_leaving_nothing _ bytes result notices
      (conn.tcp.sends_nothing_leaves_nothing bytes result silent) sent,
      conn.tcp.send_sending_nothing _ bytes result notices silent sent⟩

end Connection

end

@[simp] theorem core_apply (v : View) (rest : List Task) (effect : Effect) :
    core (v.apply rest effect).todo = core effect.front ++ core rest := by
  have silent : core (if (effect.remove && v.shared) = true then [Task.removeConnectionInLoop] else []) = [] := by
    split <;> rfl
  rw [View.apply, core_append, core_append, silent, List.append_nil]

end Cmuduo.Net
