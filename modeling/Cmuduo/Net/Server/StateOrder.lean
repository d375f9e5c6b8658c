import Cmuduo.Net.Server.Ownership

set_option autoImplicit false

namespace Cmuduo.Net

open Machine

-- The order in which a connection is to go through its states.
def StateE.rank : StateE → Nat
  | .kConnecting => 0
  | .kConnected => 1
  | .kDisconnecting => 2
  | .kDisconnected => 3

theorem StateE.rank_last (state : StateE) : state.rank ≤ StateE.kDisconnected.rank := by
  cases state <;> decide

theorem StateE.rank_disconnecting (state : StateE) :
    state.rank ≤ StateE.kDisconnecting.rank ↔ state ≠ .kDisconnected := by
  cases state <;> decide

theorem StateE.rank_disconnected (state : StateE) (last : StateE.kDisconnected.rank ≤ state.rank) :
    state = .kDisconnected := by
  cases state with
  | kDisconnected => rfl
  | _ => exact absurd last (by decide)

namespace View

-- connectEstablished is behind the connection, and no loop will call it again.
structure Begun (v : View) : Prop where
  todo : Task.connectEstablished ∉ v.todo
  queue : Task.connectEstablished ∉ v.queue

def Advances (v w : View) : Prop := v.conn.tcp.state.rank ≤ w.conn.tcp.state.rank

-- shutdown makes its store before the connection is closed behind its test.
def StoresInTime (v : View) : LifeLabel → Prop
  | .storeDisconnecting _ => v.conn.tcp.state ≠ .kDisconnected
  | _ => True

instance (v : View) (life : LifeLabel) : Decidable (v.StoresInTime life) := by
  unfold StoresInTime
  split <;> infer_instance

theorem established_begun (v : View) (established : Established v) : Begun v := by
  refine ⟨by simp [established.todo], fun member => ?_⟩
  rw [established.queue, destruction] at member
  cases mapped : v.mapped with
  | true => simp [mapped] at member
  | false => simp [mapped] at member

section
variable {read : Captured → Option CppString} {task : Task} {rest : List Task} {answer : Answer} {effect : Effect}

theorem performs_establishes_nothing {conn : Connection} (performs : Connection.Performs read conn task answer effect) :
    Task.connectEstablished ∉ effect.front ∧ Task.connectEstablished ∉ effect.queue := by
  constructor
  · cases performs with
    | handleClose => simp
    | handleRead result outcome => cases outcome <;> simp [TcpConnection.ReadOutcome.next]
    | connectEstablished => simp
    | connectDestroyed =>
        by_cases connected : conn.tcp.state = .kConnected
        · simp [connected]
        · simp [connected]
    | _ => exact List.not_mem_nil
  · intro queued
    rcases performs_queue performs _ queued with ⟨destroyed, -⟩ | ⟨notice, noticed⟩
    · cases destroyed
    · cases noticed

theorem begun_exec (v : View) (begun : Begun v) (next : v.todo = task :: rest)
    (performs : Connection.Performs read v.conn task answer effect) :
    Begun (v.apply rest effect) ∧ Advances v (v.apply rest effect) := by
  obtain ⟨front, queued⟩ := performs_establishes_nothing performs
  obtain ⟨notUp, left⟩ : Task.connectEstablished ≠ task ∧ Task.connectEstablished ∉ rest := by
    simpa [next] using begun.todo
  refine ⟨⟨fun member => ?_, fun member => ?_⟩, ?_⟩
  · rcases apply_todo v _ member with ahead | removal | behind
    · exact front ahead
    · cases removal
    · exact left behind
  · rcases List.mem_append.mp member with old | new
    · exact begun.queue old
    · exact queued new
  · change v.conn.tcp.state.rank ≤ effect.conn.tcp.state.rank
    rcases performs_disconnects performs notUp.symm with closed | ⟨same, -⟩
    · rw [closed]
      exact v.conn.tcp.state.rank_last
    · rw [same]

theorem begun_fetch (v : View) (queue : List Task) (begun : Begun v) (next : v.queue = task :: queue) :
    Begun (v.fetch task queue) := by
  obtain ⟨notUp, left⟩ : Task.connectEstablished ≠ task ∧ Task.connectEstablished ∉ queue := by
    simpa [next] using begun.queue
  exact ⟨by simpa [fetch] using notUp, left⟩

end

theorem begun_moves (v w : View) (life : LifeLabel) (begun : Begun v) (moves : Moves v life w) :
    Begun w ∧ (StoresInTime v life → Advances v w) := by
  cases moves with
  | poll => exact ⟨⟨begun.todo, begun.queue⟩, fun _ => le_rfl⟩
  | dispatch revents =>
      refine ⟨⟨fun member => ?_, begun.queue⟩, fun _ => le_rfl⟩
      have handler := (dispatch_order revents).subset member
      simp at handler
  | functor read answer task queue effect idle drained next performs =>
      obtain ⟨after, advances⟩ := begun_exec _ (begun_fetch v queue begun next) rfl performs
      exact ⟨after, fun _ => advances⟩
  | exec read answer task rest effect next performs =>
      obtain ⟨after, advances⟩ := begun_exec v begun next performs
      exact ⟨after, fun _ => advances⟩
  | mainFunctor => exact ⟨⟨begun.todo, by simpa using begun.queue⟩, fun _ => le_rfl⟩
  | ignored => exact ⟨begun, fun _ => le_rfl⟩
  | userSend => exact ⟨⟨by simpa using begun.todo, begun.queue⟩, fun _ => le_rfl⟩
  | userShutdown published connected =>
      refine ⟨⟨by simpa using begun.todo, begun.queue⟩, fun _ => ?_⟩
      exact v.conn.tcp.state.rank_disconnecting.mpr (by simp [connected])
  | send => exact ⟨⟨begun.todo, begun.queue⟩, fun _ => le_rfl⟩
  | queueSend => exact ⟨⟨begun.todo, by simpa [setCall] using begun.queue⟩, fun _ => le_rfl⟩
  | shutdown => exact ⟨⟨begun.todo, begun.queue⟩, fun _ => le_rfl⟩
  | storeDisconnecting =>
      exact ⟨⟨begun.todo, begun.queue⟩, fun inTime => v.conn.tcp.state.rank_disconnecting.mpr inTime⟩
  | queueShutdown => exact ⟨⟨begun.todo, by simpa [setCall] using begun.queue⟩, fun _ => le_rfl⟩
  | destroyHere effect mapped shared idle drained performs =>
      have fetched : Begun ({ v with mapped := false }.fetch .connectDestroyed v.queue) :=
        ⟨by simp [fetch], begun.queue⟩
      obtain ⟨after, advances⟩ := begun_exec _ fetched rfl performs
      exact ⟨after, fun _ => advances⟩
  | destroyThere => exact ⟨⟨begun.todo, by simpa using begun.queue⟩, fun _ => le_rfl⟩

-- Only a connection that is still kConnecting has connectEstablished ahead.
def Ordered (v : View) : Prop := Accepted v ∨ Begun v

theorem fresh_ordered (v : View) (fresh : System.Fresh v) : Ordered v := .inl (fresh_accepted v fresh)

theorem ordered_moves (v w : View) (life : LifeLabel) (ordered : Ordered v) (moves : Moves v life w) :
    Ordered w ∧ (StoresInTime v life → Advances v w) := by
  rcases ordered with accepted | begun
  · obtain ⟨sockfd, writeComplete, highWater, mark, isNew⟩ := accepted.tcp
    have first : Advances v w := by
      rw [Advances, isNew]
      exact Nat.zero_le _
    refine ⟨?_, fun _ => first⟩
    rcases (accepted_moves v w life accepted moves).1 with waiting | established
    · exact .inl waiting
    · exact .inr (established_begun w established)
  · obtain ⟨after, advances⟩ := begun_moves v w life begun moves
    exact ⟨.inr after, advances⟩

-- A store that comes too late is the one step that moves the state back.
theorem advances_in_time (v w : View) (life : LifeLabel) (taken : v.step life = some w) (advances : Advances v w) :
    StoresInTime v life := by
  cases life with
  | storeDisconnecting thread =>
      simp only [step] at taken
      split at taken
      · cases taken
        exact v.conn.tcp.state.rank_disconnecting.mp advances
      · cases taken
  | _ => trivial

end View

namespace System

-- Every connection is still there, in the state it had or in a later one.
def Forward (s t : System) : Prop :=
  ∀ id conn, s.conns id = some conn → ∃ next, t.conns id = some next ∧ conn.tcp.state.rank ≤ next.tcp.state.rank

-- shutdown's test of state_ and its store are two steps; on the connection's
-- own loop thread, which alone closes it, they are one.
def StoresInTime (s : System) (label : Label) : Prop := s.Guards (fun _ => View.StoresInTime) label

instance (s : System) (label : Label) : Decidable (s.StoresInTime label) :=
  inferInstanceAs (Decidable (s.Guards _ label))

theorem forward_refl (s : System) : Forward s s := fun _ conn found => ⟨conn, found, le_rfl⟩

theorem forward_trans (s t u : System) (first : Forward s t) (second : Forward t u) : Forward s u := by
  intro id conn found
  obtain ⟨next, there, early⟩ := first id conn found
  obtain ⟨last, after, late⟩ := second id next there
  exact ⟨last, after, early.trans late⟩

theorem forward_iff_views (s t : System) :
    Forward s t ↔ ∀ id v, s.view id = some v → ∃ w, t.view id = some w ∧ v.Advances w := by
  constructor
  · intro forward id v seen
    obtain ⟨next, there, advances⟩ := forward id v.conn (view_conn s id v seen)
    exact ⟨_, view_found t id next there, advances⟩
  · intro advances id conn found
    obtain ⟨w, there, further⟩ := advances id _ (view_found s id conn found)
    exact ⟨w.conn, view_conn t id w there, further⟩

theorem step_ordered (s t : System) (label : Label) (inv : EveryView (fun _ => View.Ordered) s)
    (taken : s.step label = some t) :
    EveryView (fun _ => View.Ordered) t ∧ (Forward s t ↔ s.StoresInTime label) := by
  have after := step_every_view (fun _ _ _ => True) (fun _ => View.Ordered) (fun _ _ _ => trivial)
    (fun _ => View.fresh_ordered) (fun _ v w life held _ moves => (View.ordered_moves v w life held moves).1)
    s t label inv.1 inv.2 (guards_target (fun _ => True) s label fun _ _ _ => trivial) taken
  refine ⟨⟨step_home s t label inv.1 taken, after⟩, (forward_iff_views s t).trans ?_⟩
  exact step_relates_iff (fun _ => View.StoresInTime) (fun _ => View.Ordered) View.Advances (fun _ => le_rfl)
    (fun _ v w life held inTime moves => (View.ordered_moves v w life held moves).2 inTime)
    (fun _ v w life _ moved => View.advances_in_time v w life moved)
    (fun _ _ _ => trivial) s t label inv.1 inv.2 taken

end System

theorem state_never_backwards (name : List Char) (listen : Base.InetAddress) (labels : List Label) (s : System)
    (ran : run System.step (.new name listen) labels = some s) :
    (Across System.step System.Forward (.new name listen) labels ↔
      Guarded System.step System.StoresInTime (.new name listen) labels) ∧
    (Guarded System.step System.StoresInTime (.new name listen) labels →
      ∀ front back middle id conn, labels = front ++ back → run System.step (.new name listen) front = some middle →
        middle.conns id = some conn → conn.tcp.state = .kDisconnected →
        ∃ next, s.conns id = some next ∧ next.tcp.state = .kDisconnected) := by
  have exactly : Across System.step System.Forward (.new name listen) labels ↔
      Guarded System.step System.StoresInTime (.new name listen) labels := by
    refine across_iff_guarded System.step System.StoresInTime (fun _ => True)
      (System.EveryView fun _ => View.Ordered) System.Forward (fun s l t inv _ taken => ?_)
      _ s labels (System.new_every_view _ name listen) (fun _ _ => trivial) ran
    obtain ⟨after, forward⟩ := System.step_ordered s t l inv taken
    exact ⟨forward, fun _ => after⟩
  refine ⟨exactly, fun guarded front back middle id conn parts reached found closed => ?_⟩
  subst parts
  obtain ⟨between, before, tail⟩ := (run_append _ _ _ _ _).mp ran
  obtain rfl := Option.some.inj (reached.symm.trans before)
  have across := across_append System.step System.Forward _ middle front back (exactly.mpr guarded) reached
  obtain ⟨next, there, last⟩ :=
    across_run System.step System.Forward System.forward_refl System.forward_trans middle s back across tail id conn
      found
  rw [closed] at last
  exact ⟨next, there, next.tcp.state.rank_disconnected last⟩

-- Thread 7 tests state_, and the peer closes before or after its store.
def testsState : List Label := comesUp ++ [.shutdown 7 1]

def peerCloses : List Label := [.poll 1 [(1, EPOLLIN)], .dispatch 1, .exec 1 (.read (.arrived [])), .exec 1 .none]

theorem state_never_backwards_in_time :
    ∃ s conn, run System.step listening (testsState ++ .storeDisconnecting 7 :: peerCloses) = some s ∧
      s.conns 1 = some conn ∧ conn.tcp.state = .kDisconnected ∧
      Across System.step System.Forward listening (testsState ++ .storeDisconnecting 7 :: peerCloses) := by
  obtain ⟨s, conn, ran, found, state⟩ := outcome_found (testsState ++ .storeDisconnecting 7 :: peerCloses)
    (fun _ conn => conn.tcp.state) .kDisconnected (by decide +kernel)
  exact ⟨s, conn, ran, found, state, (state_never_backwards _ _ _ s ran).1.mpr (by decide +kernel)⟩

theorem disconnected_left_again :
    outcome (testsState ++ peerCloses) (fun _ conn => conn.tcp.state) = some .kDisconnected ∧
    outcome (testsState ++ peerCloses ++ [.storeDisconnecting 7]) (fun _ conn => conn.tcp.state) = some .kDisconnecting ∧
    ¬Across System.step System.Forward listening (testsState ++ peerCloses ++ [.storeDisconnecting 7]) := by
  have closed : outcome (testsState ++ peerCloses) (fun _ conn => conn.tcp.state) = some .kDisconnected := by
    decide +kernel
  have stored : outcome (testsState ++ peerCloses ++ [.storeDisconnecting 7]) (fun _ conn => conn.tcp.state) =
      some .kDisconnecting := by decide +kernel
  refine ⟨closed, stored, fun across => ?_⟩
  obtain ⟨s, conn, ran, found, before⟩ := outcome_found _ _ _ closed
  obtain ⟨t, other, through, there, after⟩ := outcome_found _ _ _ stored
  obtain ⟨middle, front, last⟩ := (run_append _ _ _ _ _).mp through
  obtain rfl := Option.some.inj (ran.symm.trans front)
  obtain ⟨next, taken, stop⟩ := (run_cons _ _ _ _ _).mp last
  cases stop
  obtain ⟨seen, same, kept⟩ := across_step _ _ _ s t _ [] _ across front taken 1 conn found
  obtain rfl := Option.some.inj (there.symm.trans same)
  rw [before, after] at kept
  exact absurd kept (by decide)

end Cmuduo.Net
