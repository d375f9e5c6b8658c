import Cmuduo.Example.GameEnd
import Cmuduo.Example.Rooms

set_option autoImplicit false

namespace Cmuduo.Example

open Cmuduo.Net Machine

namespace Game

variable {κ : Type}

structure Turned (g : Game κ) : Prop where
  inv : Inv g
  turn : g.room.currentTurn = 0 ∨ g.room.currentTurn = 1

theorem turn_passes (room : GameRoom) (turn : room.currentTurn = 0 ∨ room.currentTurn = 1) :
    { room with currentTurn := 1 - room.currentTurn }.currentPlayer = room.opponentPlayer := by
  rcases turn with first | second
  · simp [GameRoom.currentPlayer, GameRoom.opponentPlayer, first]
  · simp [GameRoom.currentPlayer, GameRoom.opponentPlayer, second]

theorem step_turned (g next : Game κ) (command : Command) (turned : Turned g) (taken : g.step command = some next) :
    Turned next := by
  cases taken
  refine ⟨handle_command_inv g _ _ _ turned.inv, ?_⟩
  have turn := turned.turn
  rcases handle_command_cases g command.player command.cmd command.randomNum turned.inv.distinct with
    rejected | ⟨self, enemy, accepted⟩
  · rwa [rejected.room]
  · rw [accepted.room]
    split
    · exact turn
    · dsimp only
      omega

-- How many more commands can be accepted without this player.
def movesWithout (g : Game κ) (absent : PlayerId) : Nat :=
  if g.room.finished = true ∨ g.room.currentPlayer = absent then 0 else 1

-- The other one can move once at most, and then it is the absent player's turn.
theorem step_without (g next : Game κ) (command : Command) (absent : PlayerId) (turned : Turned g)
    (seated : Seated g.room absent) (other : command.player ≠ absent) (taken : g.step command = some next) :
    (accepts g command next).length + next.movesWithout absent ≤ g.movesWithout absent := by
  cases taken
  rcases handle_command_cases g command.player command.cmd command.randomNum turned.inv.distinct with
    rejected | ⟨self, enemy, accepted⟩
  · rw [accepts, if_pos rejected.why, movesWithout, rejected.room, ← movesWithout]
    exact Nat.le_of_eq (Nat.zero_add _)
  · have present : g.room.currentPlayer ≠ absent := fun same => other (accepted.turn.trans same)
    have opponent : g.room.opponentPlayer = absent := (((seated_by_turn _ _).mp seated).resolve_left (Ne.symm present)).symm
    have before : g.movesWithout absent = 1 := by simp [movesWithout, accepted.running, present]
    have after : (g.handleCommand command.player command.cmd command.randomNum).2.movesWithout absent = 0 := by
      rw [movesWithout, accepted.room]
      by_cases ended : self.hp ≤ 0 ∨ enemy.hp ≤ 0
      · simp [ended]
      · simp only [if_neg ended, turn_passes g.room turned.turn, opponent, or_true, if_true]
    rw [accepts, if_neg (accepted_not_rejects g command.player command.cmd _ self enemy accepted), before, after]
    exact Nat.le_refl 1

theorem run_without (absent : PlayerId) (commands : List Command) (g last : Game κ) (turned : Turned g)
    (seated : Seated g.room absent) (others : ∀ c ∈ commands, c.player ≠ absent) (ran : run step g commands = some last) :
    (accepted g commands).length + last.movesWithout absent ≤ g.movesWithout absent := by
  induction commands generalizing g with
  | nil =>
      cases ran
      exact Nat.le_of_eq (Nat.zero_add _)
  | cons command rest ih =>
      obtain ⟨next, taken, tail⟩ := (run_cons _ _ _ _ _).mp ran
      have paid := g.step_without next command absent turned seated (others command List.mem_cons_self) taken
      have still : Seated next.room absent := by
        cases taken
        have seats := handle_command_seats g command.player command.cmd command.randomNum turned.inv.distinct
        rwa [Seated, seats.p1, seats.p2]
      have later := ih next (g.step_turned next command turned taken) still
        (fun c member => others c (List.mem_cons_of_mem _ member)) tail
      rw [accepted, outputs_cons step accepts g next command rest taken, List.length_append]
      change (outputs step accepts next rest).length + _ ≤ _ at later
      omega

-- Commands of which none is accepted change nothing.
theorem run_rejected (commands : List Command) (g last : Game κ) (inv : Inv g) (none : accepted g commands = [])
    (ran : run step g commands = some last) : last.room = g.room ∧ last.player = g.player := by
  induction commands generalizing g with
  | nil =>
      cases ran
      exact ⟨rfl, rfl⟩
  | cons command rest ih =>
      obtain ⟨next, taken, tail⟩ := (run_cons _ _ _ _ _).mp ran
      rw [accepted, outputs_cons step accepts g next command rest taken, List.append_eq_nil_iff] at none
      have rejects : g.Rejects command.player command.cmd := by
        by_contra plays
        rw [accepts, if_neg plays] at none
        cases none.1
      cases taken
      obtain ⟨players, room⟩ := (g.handle_command_result command.player command.cmd command.randomNum inv).1 rejects
      obtain ⟨sameRoom, samePlayers⟩ := ih _ (handle_command_inv g _ _ _ inv) none.2 tail
      exact ⟨sameRoom.trans room, samePlayers.trans players⟩

theorem run_turned (commands : List Command) (g last : Game κ) (turned : Turned g) (ran : run step g commands = some last) :
    Turned last :=
  invariant step Turned (fun s c t turned taken => s.step_turned t c turned taken) g last commands turned ran

end Game

namespace Lobby

variable {κ : Type} [DecidableEq κ]

-- The commands of a player are the messages of his connection.
theorem step_commands_without (s t : Lobby κ) (label : LobbyLabel κ) (arrived : List κ) (hosting : Hosting s arrived)
    (r : RoomId) (p : Nat) (conn : κ) (there : arrived[p]? = some conn)
    (silent : ∀ result randomNum, label ≠ .message conn result randomNum) (taken : s.step label = some t) :
    ∀ c ∈ commands r s label t, c.player ≠ p := by
  intro c member same
  rw [commands] at member
  have does := step_does s t label hosting.inv hosting.readable taken
  generalize s.handed label = handed at does member
  cases does with
  | plays other result randomNum player room cmd mapped assigned inRooms plays =>
      rw [issued] at member
      split at member
      · obtain rfl : player = p := by
          rw [List.mem_singleton.mp member] at same
          exact same
        obtain ⟨-, named⟩ := hosting.hosts.named player conn there
        rw [(hosting.inv.mapped other player mapped).2] at named
        exact silent result randomNum (by rw [named])
      · cases member
  | _ => cases member

theorem commands_without (labels : List (LobbyLabel κ)) (s : Lobby κ) (arrived : List κ) (hosting : Hosting s arrived)
    (r : RoomId) (p : Nat) (conn : κ) (there : arrived[p]? = some conn)
    (silent : ∀ result randomNum, .message conn result randomNum ∉ labels) :
    ∀ c ∈ outputs step (commands r) s labels, c.player ≠ p := by
  induction labels generalizing s arrived with
  | nil => simp [outputs]
  | cons label rest ih =>
      cases taken : s.step label with
      | none => simp [outputs, taken]
      | some next =>
          rw [outputs_cons step (commands r) s next label rest taken, List.forall_mem_append]
          have before : p < arrived.length := (List.getElem?_eq_some_iff.mp there).1
          refine ⟨step_commands_without s next label arrived hosting r p conn there
            (fun result randomNum same => silent result randomNum (same ▸ List.mem_cons_self)) taken, ?_⟩
          exact ih next _ (step_hosting s next label arrived hosting taken).1
            ((List.getElem?_append_left before).trans there)
            fun result randomNum member => silent result randomNum (List.mem_cons_of_mem _ member)

theorem room_turned (player : PlayerId → Player κ) (room : RoomId → GameRoom) (labels : List (LobbyLabel κ)) (s : Lobby κ)
    (r : Nat) (below : r < s.server.nextRoom) (ran : run step (new player room) labels = some s) :
    Game.Turned (s.server.game r) := by
  have made := (refines_game r).run_made (fun s => s.server.nextRoom ≤ r) (GameServer.Begins r)
    (fun s label t hosting _ unmade taken => makes_game r s t label hosting unmade taken) (new player room) s labels
    ⟨[], new_hosting player room⟩ (Nat.zero_le r) (guarded_trivial _ _ _ _ fun _ _ => trivial) ran
  rcases made with unmade | ⟨first, last, begins, played, -, agrees⟩
  · exact absurd below (Nat.not_lt.mpr unmade)
  · have start : Game.Turned first := by
      refine ⟨GameServer.begins_inv r first begins, ?_⟩
      obtain ⟨player, -, -, rfl⟩ := begins
      exact .inl rfl
    have turned := Game.run_turned _ first last start played
    exact ⟨agrees.inv turned.inv, by rw [agrees.room]; exact turned.turn⟩

end Lobby

-- When a player has gone, his opponent can move once more at most; on the turn
-- of the absent player the game stands still and its room is kept for good. silent
-- leaves out the message that a poll with EPOLLHUP and EPOLLPRI but not EPOLLIN can
-- bring: its handlers close the connection first and read after that.
theorem departed_player_stalls {κ : Type} [DecidableEq κ] (player : PlayerId → Player κ) (room : RoomId → GameRoom)
    (front back : List (LobbyLabel κ)) (conn : κ) (p : Nat) (middle final : Lobby κ)
    (came : (front.filterMap Lobby.arrival)[p]? = some conn)
    (playing : p / 2 < (front.filterMap Lobby.arrival).length / 2)
    (left : run Lobby.step (.new player room) (front ++ [.down conn]) = some middle)
    (silent : ∀ result randomNum, .message conn result randomNum ∉ back)
    (ran : run Lobby.step middle back = some final) :
    (Game.accepted (middle.server.game (p / 2)) (outputs Lobby.step (Lobby.commands (p / 2)) middle back)).length ≤ 1 ∧
    ((middle.server.room (p / 2)).finished = false → (middle.server.room (p / 2)).currentPlayer = p →
      final.server.room (p / 2) = middle.server.room (p / 2) ∧ p / 2 ∈ final.server.rooms ∧
      ∀ id, Game.Seated (middle.server.room (p / 2)) id → final.server.player id = middle.server.player id) := by
  have hosting := Lobby.run_hosting _ _ middle [] (Lobby.new_hosting player room) left
  rw [List.nil_append, List.filterMap_append, show [LobbyLabel.down conn].filterMap Lobby.arrival = [] from rfl,
    List.append_nil] at hosting
  have below : p / 2 < middle.server.nextRoom := by
    rw [hosting.hosts.nextRoom]
    exact playing
  have turned := Lobby.room_turned player room _ middle (p / 2) below left
  have seated := (hosting.hosts.seated_iff middle.server _ (p / 2) p playing).mpr rfl
  obtain ⟨last, played, made, agrees⟩ := (Lobby.refines_game (p / 2)).run_related middle final back _ ⟨_, hosting⟩
    ⟨below, rfl, fun _ _ => rfl⟩ (guarded_trivial _ _ _ _ fun _ _ => trivial) ran
  have others := Lobby.commands_without back middle _ hosting (p / 2) p conn came silent
  have bound := Game.run_without p _ _ last turned seated others played
  refine ⟨?_, fun running turn => ?_⟩
  · refine Nat.le_trans (Nat.le_of_add_right_le bound) ?_
    rw [Game.movesWithout]
    split <;> decide
  · have none : (middle.server.game (p / 2)).movesWithout p = 0 := if_pos (.inr turn)
    have nothing : Game.accepted (middle.server.game (p / 2)) (outputs Lobby.step (Lobby.commands (p / 2)) middle back) = [] :=
      List.length_eq_zero_iff.mp (by omega)
    obtain ⟨sameRoom, samePlayers⟩ := Game.run_rejected _ _ last turned.inv nothing played
    have sameFinal : final.server.room (p / 2) = middle.server.room (p / 2) := agrees.room.trans sameRoom
    refine ⟨sameFinal, ?_, fun id there => ?_⟩
    · have after := Lobby.run_hosting back middle final _ hosting ran
      rw [after.hosts.rooms, List.mem_filter, List.mem_range, ← after.hosts.nextRoom, sameFinal, running]
      exact ⟨made, rfl⟩
    · refine (agrees.players id ?_).trans (congrFun samePlayers id)
      rwa [sameRoom]

-- The first player leaves on his own turn, and the second one goes on typing.
theorem departed_player_stalls_first :
    ∃ middle final, run Lobby.step (.new (fun _ => .new 0 0) fun _ => .new 0 0) ([.up 7, .up 8] ++ [.down 7]) = some middle ∧
      run Lobby.step middle [.message 8 (.arrived [97]) fixedDamage, .up 9, .message 8 (.arrived [97]) fixedDamage] =
        some final ∧
      final.server.room 0 = middle.server.room 0 ∧ 0 ∈ final.server.rooms := by
  have facts : (run Lobby.step (.new (fun _ => .new 0 0) fun _ => .new 0 0) ([.up 7, .up 8] ++ [.down 7])).map (fun s =>
      (s.server.room 0, (run Lobby.step s [.message 8 (.arrived [97]) fixedDamage, .up 9,
        .message 8 (.arrived [97]) fixedDamage]).isSome)) = some (⟨0, 1, 0, false⟩, true) := by decide +kernel
  obtain ⟨middle, left, both⟩ := Option.map_eq_some_iff.mp facts
  obtain ⟨room, finished⟩ := Prod.mk.inj both
  obtain ⟨final, ran⟩ := Option.isSome_iff_exists.mp finished
  obtain ⟨-, stalled⟩ := departed_player_stalls _ _ [.up 7, .up 8] _ 7 0 middle final rfl (by decide) left (by simp) ran
  obtain ⟨same, kept, -⟩ := stalled (by simp [room]) (by simp [room, GameRoom.currentPlayer])
  exact ⟨middle, final, left, ran, same, kept⟩

end Cmuduo.Example
