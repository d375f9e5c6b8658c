import Cmuduo.Example.GameRules
import Cmuduo.Example.GameServer

set_option autoImplicit false

namespace Cmuduo.Example

open Cmuduo.Net Machine

section
variable {κ : Type}

inductive Phase where
  | before
  | up
  | down
deriving DecidableEq, Repr

-- A GameServer with, as a ghost, the notifications each connection has sent.
structure Lobby (κ : Type) where
  server : GameServer κ
  phase : κ → Phase

-- message is a handleRead: what ::readv gives, and then the message callback.
inductive LobbyLabel (κ : Type) where
  | up (conn : κ)
  | down (conn : κ)
  | message (conn : κ) (result : ReadResult) (randomNum : RandomNum)

namespace Lobby

def new (player : PlayerId → Player κ) (room : RoomId → GameRoom) : Lobby κ := ⟨.new player room, fun _ => .before⟩

-- A waiting player is up and sits nowhere, nobody sits in two rooms, and
-- nothing is left of a connection that has gone down.
structure Good (s : Lobby κ) : Prop where
  waiting : ∀ p, s.server.waitingPlayer = some p →
    s.phase (s.server.player p).conn = .up ∧ ∀ r ∈ s.server.rooms, ¬Game.Seated (s.server.room r) p
  oneRoom : s.server.rooms.Nodup ∧ ∀ r ∈ s.server.rooms, ∀ r' ∈ s.server.rooms, r ≠ r' →
    ∀ p, Game.Seated (s.server.room r) p → ¬Game.Seated (s.server.room r') p
  released : ∀ conn, s.phase conn = .down →
    (∀ name p, s.server.players name = some p → (s.server.player p).conn ≠ conn) ∧
    (∀ p, s.server.waitingPlayer = some p → (s.server.player p).conn ≠ conn) ∧
    ∀ r ∈ s.server.rooms, ∀ p, Game.Seated (s.server.room r) p → (s.server.player p).conn ≠ conn

-- A room that a step adds is for two distinct players that are both up.
def Creates (s t : Lobby κ) : Prop :=
  ∀ r ∈ t.server.rooms, r ∉ s.server.rooms →
    (t.server.room r).p1 ≠ (t.server.room r).p2 ∧
    t.phase (t.server.player (t.server.room r).p1).conn = .up ∧
    t.phase (t.server.player (t.server.room r).p2).conn = .up

def Free (s : GameServer κ) (p : PlayerId) : Prop :=
  p < s.nextPlayer ∧ ∀ r, r < s.nextRoom → ¬Game.Seated (s.room r) p

-- What holds in every run, whoever goes down: nothing is ever taken out of
-- players_, and a player sits in the one room made for him.
structure Inv (s : Lobby κ) : Prop where
  conns : ∀ p, p < s.server.nextPlayer → s.phase (s.server.player p).conn ≠ .before
  mapped : ∀ name p, s.server.players name = some p → p < s.server.nextPlayer ∧ (s.server.player p).conn = name
  known : ∀ conn, s.phase conn ≠ .before → ∃ p, s.server.players conn = some p
  waiting : ∀ p, s.server.waitingPlayer = some p → Free s.server p
  seated : ∀ r, r < s.server.nextRoom → (s.server.room r).p1 ≠ (s.server.room r).p2 ∧
    ∀ p, Game.Seated (s.server.room r) p → p < s.server.nextPlayer
  apart : ∀ r r', r < s.server.nextRoom → r' < s.server.nextRoom → r ≠ r' →
    ∀ p, Game.Seated (s.server.room r) p → ¬Game.Seated (s.server.room r') p
  rooms : s.server.rooms.Nodup ∧ ∀ r ∈ s.server.rooms, r < s.server.nextRoom

theorem new_inv (player : PlayerId → Player κ) (room : RoomId → GameRoom) : Inv (new player room) :=
  { conns := fun p below => absurd below (Nat.not_lt_zero p)
    mapped := fun name p found => by cases found
    known := fun conn after => absurd rfl after
    waiting := fun p waits => by cases waits
    seated := fun r below => absurd below (Nat.not_lt_zero r)
    apart := fun r r' below => absurd below (Nat.not_lt_zero r)
    rooms := ⟨List.nodup_nil, fun r member => by cases member⟩ }

-- Until a connection goes down the invariant is all that is asked for.
theorem inv_good (s : Lobby κ) (inv : Inv s) (nobody : ∀ conn, s.phase conn ≠ .down) : Good s := by
  refine ⟨fun p waits => ?_, ⟨inv.rooms.1, fun r member r' member' different => ?_⟩, fun conn gone => absurd gone (nobody conn)⟩
  · obtain ⟨below, free⟩ := inv.waiting p waits
    refine ⟨?_, fun r member => free r (inv.rooms.2 r member)⟩
    cases phase : s.phase (s.server.player p).conn with
    | before => exact absurd phase (inv.conns p below)
    | up => rfl
    | down => exact absurd phase (nobody _)
  · exact inv.apart r r' (inv.rooms.2 r member) (inv.rooms.2 r' member') different

-- And once one has gone down, players_ still holds its player.
theorem good_nobody (s : Lobby κ) (inv : Inv s) (good : Good s) (conn : κ) : s.phase conn ≠ .down := by
  intro gone
  obtain ⟨p, found⟩ := inv.known conn (by rw [gone]; exact Phase.noConfusion)
  exact (good.released conn gone).1 conn p found (inv.mapped conn p found).2

-- While nobody is down every room is between players that are up.
theorem inv_creates (s t : Lobby κ) (inv : Inv t) (nobody : ∀ conn, t.phase conn ≠ .down) : Creates s t := by
  intro r member _
  obtain ⟨distinct, inside⟩ := inv.seated r (inv.rooms.2 r member)
  have up : ∀ p, Game.Seated (t.server.room r) p → t.phase (t.server.player p).conn = .up := by
    intro p seated
    cases phase : t.phase (t.server.player p).conn with
    | before => exact absurd phase (inv.conns p (inside p seated))
    | up => rfl
    | down => exact absurd phase (nobody _)
  exact ⟨distinct, up _ (.inl rfl), up _ (.inr rfl)⟩

-- Nothing but the players' fortunes has changed, and rooms may have been erased.
structure SameShape (s t : GameServer κ) : Prop where
  players : t.players = s.players
  waitingPlayer : t.waitingPlayer = s.waitingPlayer
  nextPlayer : t.nextPlayer = s.nextPlayer
  nextRoom : t.nextRoom = s.nextRoom
  conn : ∀ p, (t.player p).conn = (s.player p).conn
  p1 : ∀ r, (t.room r).p1 = (s.room r).p1
  p2 : ∀ r, (t.room r).p2 = (s.room r).p2
  rooms : t.rooms.Sublist s.rooms

theorem same_shape_inv (s t : GameServer κ) (phase : κ → Phase) (inv : Inv ⟨s, phase⟩) (same : SameShape s t) :
    Inv ⟨t, phase⟩ := by
  have seats : ∀ r p, Game.Seated (t.room r) p ↔ Game.Seated (s.room r) p := by
    intro r p
    rw [Game.Seated, same.p1, same.p2, Game.Seated]
  refine ⟨fun p below => ?_, fun name p found => ?_, fun conn after => ?_, fun p waits => ?_, fun r below => ?_,
    fun r r' below below' different p seated => ?_, inv.rooms.1.sublist same.rooms, fun r member => ?_⟩
  · rw [same.conn]
    exact inv.conns p (same.nextPlayer ▸ below)
  · rw [same.conn, same.nextPlayer]
    exact inv.mapped name p (same.players ▸ found)
  · rw [same.players]
    exact inv.known conn after
  · obtain ⟨below, free⟩ := inv.waiting p (same.waitingPlayer ▸ waits)
    exact ⟨same.nextPlayer ▸ below, fun r small seated => free r (same.nextRoom ▸ small) ((seats r p).mp seated)⟩
  · obtain ⟨distinct, inside⟩ := inv.seated r (same.nextRoom ▸ below)
    exact ⟨by rw [same.p1, same.p2]; exact distinct, fun p seated => same.nextPlayer ▸ inside p ((seats r p).mp seated)⟩
  · intro seated'
    exact inv.apart r r' (same.nextRoom ▸ below) (same.nextRoom ▸ below') different p ((seats r p).mp seated)
      ((seats r' p).mp seated')
  · exact same.nextRoom ▸ inv.rooms.2 r (same.rooms.subset member)

theorem put_back_shape (s : GameServer κ) (room : RoomId) (g : Game κ) (seats : Game.SameSeats (s.game room) g) :
    SameShape s (s.putBack room g) := by
  refine ⟨rfl, rfl, rfl, rfl, seats.conn, fun r => ?_, fun r => ?_, List.Sublist.refl _⟩
  all_goals
    by_cases here : r = room
    · simp [GameServer.putBack, here, seats.p1, seats.p2, GameServer.game]
    · simp [GameServer.putBack, here]

theorem set_room_shape (s : GameServer κ) (player : PlayerId) (room : RoomId) : SameShape s (s.setRoom player room) := by
  refine ⟨rfl, rfl, rfl, rfl, fun p => ?_, fun _ => rfl, fun _ => rfl, List.Sublist.refl _⟩
  by_cases here : p = player
  · simp [GameServer.setRoom, here]
  · simp [GameServer.setRoom, here]

theorem send_shape (s : GameServer κ) (conn : κ) (text : String) : SameShape s (s.send conn text) :=
  ⟨rfl, rfl, rfl, rfl, fun _ => rfl, fun _ => rfl, fun _ => rfl, List.Sublist.refl _⟩

theorem start_seats (g : Game κ) : Game.SameSeats g g.start := ⟨rfl, rfl, fun _ => rfl⟩

theorem wait_inv (s : GameServer κ) (phase : κ → Phase) (p : PlayerId) (inv : Inv ⟨s, phase⟩) (free : Free s p) :
    Inv ⟨{ s with waitingPlayer := some p }, phase⟩ :=
  { conns := inv.conns
    mapped := inv.mapped
    known := inv.known
    waiting := fun _ waits => Option.some.inj waits ▸ free
    seated := inv.seated
    apart := inv.apart
    rooms := inv.rooms }

theorem add_room_inv (s : GameServer κ) (phase : κ → Phase) (waiting player : PlayerId) (inv : Inv ⟨s, phase⟩)
    (freeWaiting : Free s waiting) (freePlayer : Free s player) (different : waiting ≠ player) :
    Inv ⟨{ s.addRoom waiting player with waitingPlayer := none }, phase⟩ := by
  have here : (s.addRoom waiting player).room s.nextRoom = .new waiting player := Function.update_self _ _ _
  have elsewhere : ∀ r, r < s.nextRoom → (s.addRoom waiting player).room r = s.room r := fun r below =>
    Function.update_of_ne (Nat.ne_of_lt below) _ _
  have free : ∀ p, Game.Seated (.new waiting player) p → Free s p := by
    rintro p (rfl | rfl)
    · exact freeWaiting
    · exact freePlayer
  refine ⟨inv.conns, inv.mapped, inv.known, fun p waits => ?_, fun r below => ?_,
    fun r r' below below' apart p => ?_, ?_, fun r member => ?_⟩
  · cases waits
  · rcases Nat.lt_succ_iff_lt_or_eq.mp below with old | rfl
    · simp only [elsewhere r old]
      exact inv.seated r old
    · simp only [here]
      exact ⟨different, fun p seated => (free p seated).1⟩
  · rcases Nat.lt_succ_iff_lt_or_eq.mp below with old | rfl <;>
      rcases Nat.lt_succ_iff_lt_or_eq.mp below' with old' | rfl
    · simpa only [elsewhere r old, elsewhere r' old'] using inv.apart r r' old old' apart p
    · simpa only [elsewhere r old, here] using fun seated fresh => (free p fresh).2 r old seated
    · simpa only [elsewhere r' old', here] using fun fresh seated => (free p fresh).2 r' old' seated
    · exact absurd rfl apart
  · refine List.nodup_append.mpr ⟨inv.rooms.1, by simp, fun r member r' last => ?_⟩
    rw [List.mem_singleton.mp last]
    exact Nat.ne_of_lt (inv.rooms.2 r member)
  · rcases List.mem_append.mp member with old | last
    · exact Nat.lt_succ_of_lt (inv.rooms.2 r old)
    · rw [List.mem_singleton.mp last]
      exact Nat.lt_succ_self _

variable [DecidableEq κ]

theorem add_player_inv (s : GameServer κ) (phase : κ → Phase) (conn : κ) (inv : Inv ⟨s, phase⟩)
    (first : phase conn = .before) :
    Inv ⟨s.addPlayer conn, Function.update phase conn .up⟩ ∧ Free (s.addPlayer conn) s.nextPlayer := by
  have here : (s.addPlayer conn).player s.nextPlayer = Player.new conn conn := Function.update_self _ _ _
  have elsewhere : ∀ p, p < s.nextPlayer → (s.addPlayer conn).player p = s.player p := fun p below =>
    Function.update_of_ne (Nat.ne_of_lt below) _ _
  have after : ∀ c, phase c ≠ .before ∨ c = conn → Function.update phase conn .up c ≠ .before := by
    intro c reached
    by_cases same : c = conn
    · rw [same, Function.update_self]
      exact Phase.noConfusion
    · rw [Function.update_of_ne same]
      exact reached.resolve_right same
  have outside : ∀ r, r < s.nextRoom → ¬Game.Seated (s.room r) s.nextPlayer := fun r below seated =>
    Nat.lt_irrefl _ ((inv.seated r below).2 _ seated)
  refine ⟨⟨fun p below => ?_, fun name p found => ?_, fun c reached => ?_, fun p waits => ?_, fun r below => ?_, inv.apart,
    inv.rooms⟩, Nat.lt_succ_self _, outside⟩
  · change Function.update phase conn .up ((s.addPlayer conn).player p).conn ≠ .before
    rcases Nat.lt_succ_iff_lt_or_eq.mp below with old | rfl
    · rw [elsewhere p old]
      exact after _ (.inl (inv.conns p old))
    · rw [here]
      exact after conn (.inr rfl)
  · change p < s.nextPlayer + 1 ∧ ((s.addPlayer conn).player p).conn = name
    by_cases same : name = conn
    · subst same
      simp only [GameServer.addPlayer, Function.update_self, Option.some.injEq] at found
      subst found
      rw [here]
      exact ⟨Nat.lt_succ_self _, rfl⟩
    · simp only [GameServer.addPlayer, Function.update_of_ne same] at found
      obtain ⟨below, conn⟩ := inv.mapped name p found
      rw [elsewhere p below]
      exact ⟨Nat.lt_succ_of_lt below, conn⟩
  · by_cases same : c = conn
    · exact ⟨s.nextPlayer, by rw [same]; exact Function.update_self _ _ _⟩
    · obtain ⟨p, found⟩ := inv.known c (by simpa only [Function.update_of_ne same] using reached)
      exact ⟨p, by rw [← found]; exact Function.update_of_ne same _ _⟩
  · obtain ⟨below, free⟩ := inv.waiting p waits
    exact ⟨Nat.lt_succ_of_lt below, free⟩
  · obtain ⟨distinct, inside⟩ := inv.seated r below
    exact ⟨distinct, fun p seated => Nat.lt_succ_of_lt (inside p seated)⟩

theorem on_connection_up_inv (s : GameServer κ) (phase : κ → Phase) (conn : κ) (inv : Inv ⟨s, phase⟩)
    (first : phase conn = .before) : Inv ⟨s.onConnection conn true, Function.update phase conn .up⟩ := by
  obtain ⟨added, free⟩ := add_player_inv s phase conn inv first
  cases waits : s.waitingPlayer with
  | none =>
      simp only [GameServer.onConnection, if_true, show (s.addPlayer conn).waitingPlayer = none from waits]
      exact same_shape_inv _ _ _ (wait_inv _ _ _ added free) (send_shape _ _ _)
  | some waiting =>
      simp only [GameServer.onConnection, if_true, show (s.addPlayer conn).waitingPlayer = some waiting from waits]
      have freeWaiting := added.waiting waiting waits
      have different : waiting ≠ s.nextPlayer := Nat.ne_of_lt (inv.waiting waiting waits).1
      have roomed := add_room_inv _ _ waiting s.nextPlayer added freeWaiting free different
      have first := same_shape_inv _ _ _ roomed (set_room_shape _ s.nextPlayer s.nextRoom)
      have second := same_shape_inv _ _ _ first (set_room_shape _ waiting s.nextRoom)
      exact same_shape_inv _ _ _ second (put_back_shape _ s.nextRoom _ (start_seats _))

theorem on_message_shape (s t : GameServer κ) (conn : κ) (randomNum : RandomNum)
    (distinct : ∀ r ∈ s.rooms, (s.room r).p1 ≠ (s.room r).p2) (done : s.onMessage conn randomNum = .ok t) :
    SameShape s t := by
  have unchanged : SameShape s s := ⟨rfl, rfl, rfl, rfl, fun _ => rfl, fun _ => rfl, fun _ => rfl, List.Sublist.refl _⟩
  cases found : s.players conn with
  | none =>
      simp only [GameServer.onMessage, found] at done
      cases done
      exact unchanged
  | some player =>
      cases locked : s.lock (s.player player).room with
      | none =>
          simp only [GameServer.onMessage, found, locked] at done
          cases done
          exact { unchanged with }
      | some room =>
          have member : room ∈ s.rooms := by
            simp only [GameServer.lock, Option.filter_eq_some_iff, decide_eq_true_eq] at locked
            exact locked.2
          cases taken : (s.inputBuffer conn).retrieveAllAsString with
          | error stop => simp [GameServer.onMessage, found, locked, taken] at done
          | ok pair =>
              obtain ⟨msg, buffer⟩ := pair
              simp only [GameServer.onMessage, found, locked, taken, Except.ok.injEq] at done
              have seats := Game.handle_command_seats (s.game room) player (msg.headD 0) randomNum (distinct room member)
              have shape := put_back_shape { s with inputBuffer := Function.update s.inputBuffer conn buffer } room _ seats
              subst done
              split
              · exact ⟨rfl, rfl, rfl, rfl, shape.conn, shape.p1, shape.p2, List.filter_sublist⟩
              · exact ⟨rfl, rfl, rfl, rfl, shape.conn, shape.p1, shape.p2, List.Sublist.refl _⟩

def step (s : Lobby κ) : LobbyLabel κ → Option (Lobby κ)
  | .up conn =>
      if s.phase conn = .before then
        some ⟨s.server.onConnection conn true, Function.update s.phase conn .up⟩
      else none
  | .down conn =>
      if s.phase conn = .up then some ⟨s.server.onConnection conn false, Function.update s.phase conn .down⟩ else none
  | .message conn result randomNum =>
      match (s.server.inputBuffer conn).readFd result with
      | .ok (.ok n, buffer) =>
          if n > 0 then
            match { s.server with inputBuffer := Function.update s.server.inputBuffer conn buffer }.onMessage conn randomNum with
            | .ok server => some ⟨server, s.phase⟩
            | .error _ => none
          else none
      | _ => none

theorem step_phase (s t : Lobby κ) (label : LobbyLabel κ) (taken : s.step label = some t) :
    t.phase = match label with
      | .up conn => Function.update s.phase conn .up
      | .down conn => Function.update s.phase conn .down
      | .message _ _ _ => s.phase := by
  cases label with
  | up conn =>
      simp only [step, Option.ite_none_right_eq_some, Option.some.injEq] at taken
      obtain ⟨-, rfl⟩ := taken
      rfl
  | down conn =>
      simp only [step, Option.ite_none_right_eq_some, Option.some.injEq] at taken
      obtain ⟨-, rfl⟩ := taken
      rfl
  | message conn result randomNum =>
      simp only [step] at taken
      split at taken
      · obtain ⟨-, taken⟩ := Option.ite_none_right_eq_some.mp taken
        split at taken
        · cases taken
          rfl
        · cases taken
      · cases taken

theorem step_inv (s t : Lobby κ) (label : LobbyLabel κ) (inv : Inv s) (taken : s.step label = some t) : Inv t := by
  cases label with
  | up conn =>
      simp only [step, Option.ite_none_right_eq_some, Option.some.injEq] at taken
      obtain ⟨first, rfl⟩ := taken
      exact on_connection_up_inv s.server s.phase conn inv first
  | down conn =>
      simp only [step, Option.ite_none_right_eq_some, Option.some.injEq] at taken
      obtain ⟨up, rfl⟩ := taken
      have reached : ∀ c, Function.update s.phase conn .down c ≠ .before ↔ s.phase c ≠ .before := by
        intro c
        by_cases same : c = conn <;> simp [same, up]
      exact
        { conns := fun p below => (reached _).mpr (inv.conns p below)
          mapped := inv.mapped
          known := fun c after => inv.known c ((reached c).mp after)
          waiting := inv.waiting
          seated := inv.seated
          apart := inv.apart
          rooms := inv.rooms }
  | message conn result randomNum =>
      simp only [step] at taken
      split at taken
      · next n buffer received =>
          have unread : Inv ⟨{ s.server with inputBuffer := Function.update s.server.inputBuffer conn buffer }, s.phase⟩ :=
            ⟨inv.conns, inv.mapped, inv.known, inv.waiting, inv.seated, inv.apart, inv.rooms⟩
          obtain ⟨-, taken⟩ := Option.ite_none_right_eq_some.mp taken
          split at taken
          · next server done =>
              cases taken
              exact same_shape_inv _ server s.phase unread
                (on_message_shape _ server conn randomNum (fun r member => (inv.seated r (inv.rooms.2 r member)).1) done)
          · cases taken
      · cases taken

def Stays (_ : Lobby κ) (label : LobbyLabel κ) : Prop := ∀ conn, label ≠ .down conn

theorem step_nobody (s t : Lobby κ) (label : LobbyLabel κ) (taken : s.step label = some t)
    (nobody : ∀ conn, s.phase conn ≠ .down) : (∀ conn, t.phase conn ≠ .down) ↔ Stays s label := by
  rw [step_phase s t label taken]
  cases label with
  | up conn =>
      refine iff_of_true (fun c => ?_) fun c => by simp
      by_cases same : c = conn <;> simp [same, nobody]
  | down conn => exact iff_of_false (fun still => still conn (by simp)) fun stays => stays conn rfl
  | message conn result randomNum => exact iff_of_true nobody fun c => by simp

end Lobby

variable [DecidableEq κ]

theorem matchmaking_keeps_live_players (player : PlayerId → Player κ) (room : RoomId → GameRoom)
    (labels : List (LobbyLabel κ)) (final : Lobby κ) (ran : run Lobby.step (.new player room) labels = some final) :
    (Always Lobby.step Lobby.Good (.new player room) labels ∧ Across Lobby.step Lobby.Creates (.new player room) labels) ↔
      ∀ conn, LobbyLabel.down conn ∉ labels := by
  have start := Lobby.new_inv player room
  have startNobody : ∀ conn, (Lobby.new player room).phase conn ≠ .down := fun conn => Phase.noConfusion
  have staying : Guarded Lobby.step Lobby.Stays (.new player room) labels ↔ ∀ conn, LobbyLabel.down conn ∉ labels := by
    rw [show Lobby.Stays = fun _ label => ∀ conn, label ≠ LobbyLabel.down conn from rfl,
      guarded_by_label Lobby.step _ _ final labels ran]
    exact ⟨fun stays conn member => stays _ member conn rfl, fun absent label member conn same => absent conn (same ▸ member)⟩
  have always := always_iff_guarded Lobby.step Lobby.Stays (fun _ => True) Lobby.Inv Lobby.Good ?_ _ final labels start
    (Lobby.inv_good _ start startNobody) (fun _ _ => trivial) ran
  · rw [← staying]
    refine ⟨fun both => always.mp both.1, fun guarded => ⟨always.mpr guarded, ?_⟩⟩
    refine guarded_across Lobby.step Lobby.Stays (fun s => Lobby.Inv s ∧ ∀ conn, s.phase conn ≠ .down) Lobby.Creates ?_ _
      labels ⟨start, startNobody⟩ guarded
    rintro s label t ⟨inv, nobody⟩ stays taken
    have nextInv := Lobby.step_inv s t label inv taken
    have nextNobody := (Lobby.step_nobody s t label taken nobody).mpr stays
    exact ⟨⟨nextInv, nextNobody⟩, Lobby.inv_creates s t nextInv nextNobody⟩
  · intro s label t inv good _ taken
    have nextInv := Lobby.step_inv s t label inv taken
    refine ⟨nextInv, ?_⟩
    rw [← Lobby.step_nobody s t label taken (Lobby.good_nobody s inv good)]
    exact ⟨Lobby.good_nobody t nextInv, Lobby.inv_good t nextInv⟩

end

-- Two players meet, and the first one plays a plain attack.
def firstMove : List (LobbyLabel Nat) := [.up 7, .up 8, .message 7 (.arrived [97]) fixedDamage]

theorem matchmaking_keeps_live_players_first_move :
    Always Lobby.step Lobby.Good (.new (fun _ => .new 0 0) fun _ => .new 0 0) firstMove := by
  have finished : (run Lobby.step (.new (fun _ => .new 0 0) fun _ => .new 0 0) firstMove).isSome := by decide +kernel
  obtain ⟨final, ran⟩ := Option.isSome_iff_exists.mp finished
  exact ((matchmaking_keeps_live_players _ _ firstMove final ran).mpr (by simp [firstMove])).1

-- A player who leaves while waiting: players_ and waitingPlayer_ keep him, and
-- the next arrival gets a room with him.
def leavesWhileWaiting : List (LobbyLabel Nat) := [.up 7, .down 7, .up 8]

theorem departed_player_matched :
    (run Lobby.step (.new (fun _ => .new 0 0) fun _ => .new 0 0) leavesWhileWaiting).map (fun s =>
      (s.phase 7, s.server.players 7, s.server.rooms, s.server.room 0)) = some (.down, some 0, [0], ⟨0, 1, 0, false⟩) ∧
    ¬(Always Lobby.step Lobby.Good (.new (fun _ => .new 0 0) fun _ => .new 0 0) leavesWhileWaiting ∧
      Across Lobby.step Lobby.Creates (.new (fun _ => .new 0 0) fun _ => .new 0 0) leavesWhileWaiting) := by
  have shown : (run Lobby.step (.new (fun _ => .new 0 0) fun _ => .new 0 0) leavesWhileWaiting).map (fun s =>
      (s.phase 7, s.server.players 7, s.server.rooms, s.server.room 0)) =
        some (.down, some 0, [0], ⟨0, 1, 0, false⟩) := by decide +kernel
  refine ⟨shown, fun holds => ?_⟩
  obtain ⟨final, ran, -⟩ := Option.map_eq_some_iff.mp shown
  exact (matchmaking_keeps_live_players _ _ leavesWhileWaiting final ran).mp holds 7 (by simp [leavesWhileWaiting])

end Cmuduo.Example
