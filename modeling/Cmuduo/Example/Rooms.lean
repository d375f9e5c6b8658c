import Cmuduo.Example.StaleInput
import Cmuduo.Lib.Refinement

set_option autoImplicit false

namespace Cmuduo.Example

open Cmuduo.Net Machine

namespace Game

variable {κ : Type}

-- Two games with the same room and the same two players in it.
structure Agrees (g h : Game κ) : Prop where
  room : h.room = g.room
  players : ∀ id, Seated g.room id → h.player id = g.player id

theorem Agrees.trans {g h i : Game κ} (first : Agrees g h) (second : Agrees h i) : Agrees g i := by
  refine ⟨second.room.trans first.room, fun id seated => ?_⟩
  exact (second.players id (by rwa [first.room])).trans (first.players id seated)

theorem Agrees.send {g h : Game κ} (agrees : Agrees g h) (player other : PlayerId) (text more : String) :
    Agrees (g.send player text) (h.send other more) := ⟨agrees.room, agrees.players⟩

theorem Agrees.modify {g h : Game κ} (agrees : Agrees g h) (player : PlayerId) (change : Player κ → Player κ) :
    Agrees (g.modify player change) (h.modify player change) := by
  refine ⟨agrees.room, fun id seated => ?_⟩
  have same := agrees.players id seated
  by_cases here : id = player
  · subst here
    simp [Game.modify, same]
  · simpa [Game.modify, here] using same

theorem Agrees.end_command {g h : Game κ} (agrees : Agrees g h) (self enemy : PlayerId) :
    (h.endCommand self enemy).1 = (g.endCommand self enemy).1 ∧
      Agrees (g.endCommand self enemy).2 (h.endCommand self enemy).2 := by
  obtain ⟨returned, players, room⟩ := g.end_command self enemy
  obtain ⟨otherReturned, otherPlayers, otherRoom⟩ := h.end_command self enemy
  rw [agrees.room, agrees.players _ (.inl rfl), agrees.players _ (.inr rfl)] at otherReturned otherRoom
  have seats : (g.endCommand self enemy).2.room.p1 = g.room.p1 ∧ (g.endCommand self enemy).2.room.p2 = g.room.p2 := by
    rw [room]
    split <;> exact ⟨rfl, rfl⟩
  refine ⟨otherReturned.trans returned.symm, otherRoom.trans room.symm, fun id seated => ?_⟩
  rw [Seated, seats.1, seats.2] at seated
  rw [players, otherPlayers]
  exact agrees.players id seated

-- What a command does depends on the room and on its two players alone.
theorem handle_command_agrees (g h : Game κ) (player : PlayerId) (cmd : UInt8) (randomNum : RandomNum)
    (agrees : Agrees g h) :
    (h.handleCommand player cmd randomNum).1 = (g.handleCommand player cmd randomNum).1 ∧
      Agrees (g.handleCommand player cmd randomNum).2 (h.handleCommand player cmd randomNum).2 := by
  have self : h.player g.room.currentPlayer = g.player g.room.currentPlayer :=
    agrees.players _ ((seated_by_turn _ _).mpr (.inl rfl))
  simp only [handleCommand, agrees.room, self]
  split_ifs with finished turn normal magic short hp none mp empty
  · exact ⟨rfl, agrees.send _ _ _ _⟩
  · exact ⟨rfl, agrees.send _ _ _ _⟩
  · exact (((agrees.modify _ _).send _ _ _ _).send _ _ _ _).end_command _ _
  · exact ⟨rfl, agrees.send _ _ _ _⟩
  · exact ((((agrees.modify _ _).modify _ _).send _ _ _ _).send _ _ _ _).end_command _ _
  · exact ⟨rfl, agrees.send _ _ _ _⟩
  · exact (((agrees.modify _ _).send _ _ _ _).send _ _ _ _).end_command _ _
  · exact ⟨rfl, agrees.send _ _ _ _⟩
  · exact (((agrees.modify _ _).send _ _ _ _).send _ _ _ _).end_command _ _
  · exact ⟨rfl, agrees.send _ _ _ _⟩

theorem run_agrees (commands : List Command) (g h last : Game κ) (agrees : Agrees g h)
    (ran : run step h commands = some last) : ∃ after, run step g commands = some after ∧ Agrees after last := by
  induction commands generalizing g h with
  | nil =>
      cases ran
      exact ⟨g, rfl, agrees⟩
  | cons command rest ih =>
      exact ih _ _ (handle_command_agrees g h command.player command.cmd command.randomNum agrees).2 ran

theorem Agrees.inv {g h : Game κ} (agrees : Agrees g h) (inv : Inv g) : Inv h := by
  obtain ⟨distinct, bounds, finished, alive⟩ := inv
  have hp : ∀ id, Seated g.room id → (h.player id).hp = (g.player id).hp := fun id seated => by
    rw [agrees.players id seated]
  refine ⟨by rwa [agrees.room], fun id seated => ?_, ?_, ?_⟩
  · rw [agrees.room] at seated
    rw [agrees.players id seated]
    exact bounds id seated
  · rw [agrees.room, finished]
    exact exists_congr fun id => and_congr_right fun seated => by rw [hp id seated]
  · obtain ⟨id, seated, standing⟩ := alive
    exact ⟨id, by rwa [agrees.room], by rwa [hp id seated]⟩

theorem effect_room (cmd : UInt8) (self enemy nextSelf nextEnemy : Player κ)
    (effect : Effect cmd self enemy nextSelf nextEnemy) : nextSelf.room = self.room ∧ nextEnemy.room = enemy.room := by
  cases effect <;> exact ⟨rfl, rfl⟩

-- And it does nothing to anybody else; nobody's weak pointer is ever reset.
theorem handle_command_elsewhere (g : Game κ) (player : PlayerId) (cmd : UInt8) (randomNum : RandomNum)
    (distinct : g.room.p1 ≠ g.room.p2) :
    (∀ id, ¬Seated g.room id → (g.handleCommand player cmd randomNum).2.player id = g.player id) ∧
      ∀ id, ((g.handleCommand player cmd randomNum).2.player id).room = (g.player id).room := by
  rcases handle_command_cases g player cmd randomNum distinct with rejected | ⟨self, enemy, accepted⟩
  · simp [rejected.players]
  · rw [accepted.players]
    obtain ⟨selfRoom, enemyRoom⟩ := effect_room cmd _ _ self enemy accepted.effect
    refine ⟨fun id away => ?_, fun id => ?_⟩
    · rw [seated_by_turn, not_or] at away
      rw [Function.update_of_ne away.2, Function.update_of_ne away.1]
    · by_cases opponent : id = g.room.opponentPlayer
      · rw [opponent, Function.update_self, enemyRoom]
      · rw [Function.update_of_ne opponent]
        by_cases current : id = g.room.currentPlayer
        · rw [current, Function.update_self, selfRoom]
        · rw [Function.update_of_ne current]

end Game

namespace GameServer

variable {κ : Type}

-- A message of a player who sits in a room: a command for that room.
structure Plays (s t : GameServer κ) (room : RoomId) (result : Bool × Game κ) : Prop where
  players : t.players = s.players
  waitingPlayer : t.waitingPlayer = s.waitingPlayer
  nextPlayer : t.nextPlayer = s.nextPlayer
  nextRoom : t.nextRoom = s.nextRoom
  rooms : t.rooms = if result.1 then s.rooms.filter (· ≠ room) else s.rooms
  room : t.room = Function.update s.room room result.2.room
  player : t.player = result.2.player
  output : t.output = result.2.output

-- The connections in arrived have come, in this order. They are seated two by
-- two, and one without a partner waits.
structure Hosts (s : GameServer κ) (arrived : List κ) : Prop where
  nextPlayer : s.nextPlayer = arrived.length
  nextRoom : s.nextRoom = arrived.length / 2
  named : ∀ (p : Nat) (conn : κ), arrived[p]? = some conn → s.players conn = some p ∧ (s.player p).conn = conn
  waiting : s.waitingPlayer = if arrived.length % 2 = 1 then some (arrived.length - 1) else none
  rooms : s.rooms = (List.range (arrived.length / 2)).filter fun r => !(s.room r).finished
  seats : ∀ r : Nat, r < arrived.length / 2 → (s.room r).p1 = 2 * r ∧ (s.room r).p2 = 2 * r + 1
  assigned : ∀ p : Nat, p < arrived.length → (s.player p).room = if p / 2 < arrived.length / 2 then some (p / 2) else none
  fresh : ∀ p, s.waitingPlayer = some p → Game.Fresh (s.player p)
  games : ∀ r : Nat, r < arrived.length / 2 → Game.Inv (s.game r)

theorem Hosts.seated_iff (s : GameServer κ) (arrived : List κ) (hosts : s.Hosts arrived) (r p : Nat)
    (below : r < arrived.length / 2) : Game.Seated (s.room r) p ↔ p / 2 = r := by
  obtain ⟨first, second⟩ := hosts.seats r below
  rw [Game.Seated, first, second]
  exact (show p = 2 * r ∨ p = 2 * r + 1 ↔ p / 2 = r by omega)

theorem Hosts.seated_came (s : GameServer κ) (arrived : List κ) (hosts : s.Hosts arrived) (r p : Nat)
    (below : r < arrived.length / 2) (seated : Game.Seated (s.room r) p) : p < arrived.length := by
  have place := (hosts.seated_iff s arrived r p below).mp seated
  omega

theorem Hosts.seated_early (s : GameServer κ) (arrived : List κ) (hosts : s.Hosts arrived) (r p : Nat)
    (below : r < arrived.length / 2) (odd : arrived.length % 2 = 1) (seated : Game.Seated (s.room r) p) :
    p < arrived.length - 1 := by
  have place := (hosts.seated_iff s arrived r p below).mp seated
  omega

theorem Hosts.names_apart (s : GameServer κ) (arrived : List κ) (hosts : s.Hosts arrived) (p q : Nat) (conn : κ)
    (there : arrived[p]? = some conn) (below : q < arrived.length) (different : q ≠ p) : (s.player q).conn ≠ conn := by
  intro same
  obtain ⟨mapped, named⟩ := hosts.named q arrived[q] (List.getElem?_eq_getElem below)
  rw [← named, same, (hosts.named p conn there).1] at mapped
  exact different (Option.some.inj mapped).symm

theorem Hosts.alone (s : GameServer κ) (arrived : List κ) (hosts : s.Hosts arrived) (p : Nat)
    (waits : s.waitingPlayer = some p) : arrived.length % 2 = 1 ∧ p = arrived.length - 1 := by
  rw [hosts.waiting, Option.ite_none_right_eq_some] at waits
  exact ⟨waits.1, (Option.some.inj waits.2).symm⟩

theorem Hosts.paired_off (s : GameServer κ) (arrived : List κ) (hosts : s.Hosts arrived)
    (nobody : s.waitingPlayer = none) : arrived.length % 2 = 0 := by
  rw [hosts.waiting, ite_eq_right_iff] at nobody
  have even : ¬arrived.length % 2 = 1 := fun odd => Option.some_ne_none _ (nobody odd)
  omega

-- A game between the two players who came at that place, before any command.
def Begins (r : Nat) (g : Game κ) : Prop :=
  ∃ player : PlayerId → Player κ, Game.Fresh (player (2 * r)) ∧ Game.Fresh (player (2 * r + 1)) ∧
    g = Game.started (2 * r) (2 * r + 1) player

theorem begins_inv (r : Nat) (g : Game κ) (begins : Begins r g) : Game.Inv g := by
  obtain ⟨player, first, second, rfl⟩ := begins
  exact Game.started_inv _ _ player (Nat.ne_of_lt (Nat.lt_succ_self _)) first second

-- A command leaves all games but its own alone.
theorem Hosts.elsewhere (s t : GameServer κ) (arrived : List κ) (room : Nat) (player : PlayerId) (cmd : UInt8)
    (randomNum : RandomNum) (hosts : s.Hosts arrived) (below : room < arrived.length / 2)
    (plays : s.Plays t room ((s.game room).handleCommand player cmd randomNum)) (r : Nat) (other : r ≠ room)
    (there : r < arrived.length / 2) : Game.Agrees (s.game r) (t.game r) := by
  refine ⟨(congrFun plays.room r).trans (Function.update_of_ne other _ _), fun p seated => ?_⟩
  have away : ¬Game.Seated (s.room room) p := fun both =>
    other (((hosts.seated_iff s arrived r p there).mp seated).symm.trans ((hosts.seated_iff s arrived room p below).mp both))
  exact (congrFun plays.player p).trans
    ((Game.handle_command_elsewhere (s.game room) player cmd randomNum (hosts.games room below).distinct).1 p away)

theorem Hosts.plays (s t : GameServer κ) (arrived : List κ) (room : Nat) (player : PlayerId) (cmd : UInt8)
    (randomNum : RandomNum) (hosts : s.Hosts arrived) (member : room ∈ s.rooms)
    (plays : s.Plays t room ((s.game room).handleCommand player cmd randomNum)) :
    t.Hosts arrived ∧ room < arrived.length / 2 ∧ Game.Agrees ((s.game room).handleCommand player cmd randomNum).2 (t.game room) := by
  rw [hosts.rooms, List.mem_filter, List.mem_range] at member
  obtain ⟨below, running⟩ := member
  rw [Bool.not_eq_true'] at running
  have inv := hosts.games room below
  have after := Game.handle_command_inv (s.game room) player cmd randomNum inv
  obtain ⟨-, -, stops⟩ := Game.handle_command_result (s.game room) player cmd randomNum inv
  have seats := Game.handle_command_seats (s.game room) player cmd randomNum inv.distinct
  obtain ⟨away, assigned⟩ := Game.handle_command_elsewhere (s.game room) player cmd randomNum inv.distinct
  have elsewhere := hosts.elsewhere s t arrived room player cmd randomNum below plays
  generalize (s.game room).handleCommand player cmd randomNum = result at plays stops seats away assigned after ⊢
  have here : Game.Agrees result.2 (t.game room) :=
    ⟨by rw [game, plays.room, Function.update_self], fun p _ => by rw [game, plays.player]⟩
  have roomHere : t.room room = result.2.room := here.room
  have finished : ∀ r, r ≠ room → t.room r = s.room r := fun r other => by rw [plays.room, Function.update_of_ne other]
  refine ⟨⟨?_, ?_, ?_, ?_, ?_, ?_, ?_, ?_, ?_⟩, below, here⟩
  · rw [plays.nextPlayer, hosts.nextPlayer]
  · rw [plays.nextRoom, hosts.nextRoom]
  · intro p conn there
    rw [plays.players, plays.player, seats.conn]
    exact hosts.named p conn there
  · rw [plays.waitingPlayer, hosts.waiting]
  · rw [plays.rooms, hosts.rooms, List.filter_filter]
    cases ended : result.1 with
    | true =>
        rw [if_pos rfl]
        refine List.filter_congr fun r _ => ?_
        by_cases same : r = room
        · simp [same, roomHere, stops.mp ended]
        · simp [same, finished r same]
    | false =>
        rw [if_neg Bool.false_ne_true]
        refine List.filter_congr fun r _ => ?_
        by_cases same : r = room
        · have going : result.2.room.finished = false := by
            rw [Bool.eq_false_iff, Ne, ← stops, ended]
            exact Bool.false_ne_true
          simp [same, roomHere, going, running]
        · rw [finished r same]
  · intro r there
    by_cases same : r = room
    · rw [same, roomHere, seats.p1, seats.p2]
      exact hosts.seats room below
    · rw [finished r same]
      exact hosts.seats r there
  · intro p there
    rw [plays.player, assigned]
    exact hosts.assigned p there
  · intro p waits
    rw [plays.waitingPlayer] at waits
    obtain ⟨odd, rfl⟩ := hosts.alone s arrived p waits
    rw [plays.player, away]
    · exact hosts.fresh _ waits
    · exact fun seated => Nat.lt_irrefl _ (hosts.seated_early s arrived room _ below odd seated)
  · intro r there
    by_cases same : r = room
    · rw [same]
      exact here.inv after
    · exact (elsewhere r same there).inv (hosts.games r there)

variable [DecidableEq κ]

-- An arrival that finds somebody waiting: a room for the two of them.
structure Paired (s t : GameServer κ) (conn : κ) (waiting : PlayerId) : Prop where
  players : t.players = Function.update s.players conn (some s.nextPlayer)
  waitingPlayer : t.waitingPlayer = none
  nextPlayer : t.nextPlayer = s.nextPlayer + 1
  nextRoom : t.nextRoom = s.nextRoom + 1
  rooms : t.rooms = s.rooms ++ [s.nextRoom]
  room : t.room = Function.update s.room s.nextRoom (.new waiting s.nextPlayer)
  newcomer : t.player s.nextPlayer = { Player.new conn conn with room := some s.nextRoom }
  partner : t.player waiting = { s.player waiting with room := some s.nextRoom }
  others : ∀ p, p ≠ waiting → p ≠ s.nextPlayer → t.player p = s.player p
  output : t.output = (Game.start ⟨.new waiting s.nextPlayer, t.player, s.output⟩).output

theorem on_connection_waits (s : GameServer κ) (conn : κ) (alone : s.waitingPlayer = none) :
    s.onConnection conn true =
      { s.addPlayer conn with waitingPlayer := some s.nextPlayer }.send conn "waiting player comming...... \n" := by
  simp only [onConnection, if_true, show (s.addPlayer conn).waitingPlayer = none from alone]

theorem on_connection_pairs (s : GameServer κ) (conn : κ) (waiting : PlayerId) (waits : s.waitingPlayer = some waiting)
    (different : waiting ≠ s.nextPlayer) : s.Paired (s.onConnection conn true) conn waiting := by
  simp only [onConnection, if_true, show (s.addPlayer conn).waitingPlayer = some waiting from waits]
  refine ⟨rfl, rfl, rfl, rfl, rfl, ?_, ?_, ?_, fun p notWaiting notNew => ?_, ?_⟩
  · simp [putBack, setRoom, addRoom, addPlayer, game, Game.start, Game.send]
  · simp [putBack, setRoom, addRoom, addPlayer, game, Game.start, Game.send, different.symm]
  · simp [putBack, setRoom, addRoom, addPlayer, game, Game.start, Game.send, different]
  · simp [putBack, setRoom, addRoom, addPlayer, game, Game.start, Game.send, notWaiting, notNew]
  · simp [putBack, setRoom, addRoom, addPlayer, game, Game.start, Game.send]

theorem on_message_nowhere (s : GameServer κ) (conn : κ) (randomNum : RandomNum) (nowhere : s.seat conn = none) :
    s.onMessage conn randomNum = .ok s ∨
      s.players conn ≠ none ∧ s.onMessage conn randomNum = .ok (s.send conn "you are not in a room!\n") := by
  simp only [seat] at nowhere
  split at nowhere
  · next found => exact .inl (by simp only [onMessage, found])
  · next player found =>
      split at nowhere
      · next locked => exact .inr ⟨by simp [found], by simp only [onMessage, found, locked]⟩
      · cases nowhere

theorem played_plays (s : GameServer κ) (conn : κ) (buffer : Buffer) (room : RoomId) (result : Bool × Game κ) :
    s.Plays (s.played conn buffer room result) room result := by
  rw [played]
  split
  · next stops => exact ⟨rfl, rfl, rfl, rfl, (if_pos stops).symm, rfl, rfl, rfl⟩
  · next going => exact ⟨rfl, rfl, rfl, rfl, (if_neg going).symm, rfl, rfl, rfl⟩

theorem named_snoc (s t : GameServer κ) (arrived : List κ) (conn : κ) (hosts : s.Hosts arrived) (new : conn ∉ arrived)
    (players : t.players = Function.update s.players conn (some s.nextPlayer))
    (kept : ∀ p : Nat, p < arrived.length → (t.player p).conn = (s.player p).conn)
    (newcomer : (t.player s.nextPlayer).conn = conn) (p : Nat) (c : κ) (there : (arrived ++ [conn])[p]? = some c) :
    t.players c = some p ∧ (t.player p).conn = c := by
  rcases Nat.lt_trichotomy p arrived.length with old | rfl | beyond
  · rw [List.getElem?_append_left old] at there
    obtain ⟨mapped, named⟩ := hosts.named p c there
    have other : c ≠ conn := fun same => new (same ▸ List.mem_of_getElem? there)
    rw [players, Function.update_of_ne other, kept p old]
    exact ⟨mapped, named⟩
  · obtain rfl : conn = c := by simpa using there
    rw [players, Function.update_self, hosts.nextPlayer]
    rw [hosts.nextPlayer] at newcomer
    exact ⟨rfl, newcomer⟩
  · rw [List.getElem?_eq_none (by simp; omega)] at there
    cases there

theorem Hosts.waits (s : GameServer κ) (arrived : List κ) (conn : κ) (hosts : s.Hosts arrived) (new : conn ∉ arrived)
    (nobody : s.waitingPlayer = none) :
    (s.onConnection conn true).Hosts (arrived ++ [conn]) ∧
      ∀ r : Nat, r < arrived.length / 2 → Game.Agrees (s.game r) ((s.onConnection conn true).game r) := by
  have even := hosts.paired_off s arrived nobody
  rw [s.on_connection_waits conn nobody]
  have here : (s.addPlayer conn).player s.nextPlayer = Player.new conn conn := Function.update_self _ _ _
  have elsewhere : ∀ p : Nat, p < arrived.length → (s.addPlayer conn).player p = s.player p := fun p below =>
    Function.update_of_ne (by rw [hosts.nextPlayer]; exact Nat.ne_of_lt below) _ _
  have half : (arrived ++ [conn]).length / 2 = arrived.length / 2 := by
    rw [List.length_append, List.length_singleton]
    omega
  have kept : ∀ r : Nat, r < arrived.length / 2 → Game.Agrees (s.game r) ((s.addPlayer conn).game r) := fun r below =>
    ⟨rfl, fun id seated => elsewhere id (hosts.seated_came s arrived r id below seated)⟩
  refine ⟨⟨?_, ?_, ?_, ?_, ?_, ?_, ?_, ?_, ?_⟩, fun r below => ⟨rfl, (kept r below).players⟩⟩
  · rw [List.length_append, ← hosts.nextPlayer]
    rfl
  · rw [half, ← hosts.nextRoom]
    rfl
  · exact named_snoc s _ arrived conn hosts new rfl (fun p below => congrArg Player.conn (elsewhere p below))
      (congrArg Player.conn here)
  · rw [List.length_append, List.length_singleton, if_pos (by omega), Nat.add_sub_cancel, ← hosts.nextPlayer]
    rfl
  · rw [half]
    exact hosts.rooms
  · rw [half]
    exact hosts.seats
  · intro p below
    change ((s.addPlayer conn).player p).room = _
    rw [half]
    rw [List.length_append, List.length_singleton] at below
    rcases Nat.lt_succ_iff_lt_or_eq.mp below with old | rfl
    · rw [elsewhere p old]
      exact hosts.assigned p old
    · rw [← hosts.nextPlayer, here, if_neg (by rw [hosts.nextPlayer]; omega)]
      rfl
  · intro p waits
    change some s.nextPlayer = some p at waits
    change Game.Fresh ((s.addPlayer conn).player p)
    rw [← Option.some.inj waits, here]
    exact ⟨rfl, rfl, rfl⟩
  · rw [half]
    intro r below
    exact Game.Agrees.inv (g := s.game r) ⟨rfl, (kept r below).players⟩ (hosts.games r below)

-- Two arrivals that have just been paired begin a game of their own, and the
-- others go on.
theorem Hosts.pairs (s t : GameServer κ) (arrived : List κ) (conn : κ) (p : PlayerId) (hosts : s.Hosts arrived)
    (new : conn ∉ arrived) (waits : s.waitingPlayer = some p) (paired : s.Paired t conn p) :
    t.Hosts (arrived ++ [conn]) ∧ (∀ r : Nat, r < arrived.length / 2 → Game.Agrees (s.game r) (t.game r)) ∧
      ∃ g, Begins (arrived.length / 2) g ∧ Game.Agrees g (t.game (arrived.length / 2)) := by
  obtain ⟨odd, last⟩ := hosts.alone s arrived p waits
  have first : p = 2 * (arrived.length / 2) :=
    last.trans (show arrived.length - 1 = 2 * (arrived.length / 2) by omega)
  have second : s.nextPlayer = 2 * (arrived.length / 2) + 1 :=
    hosts.nextPlayer.trans (show arrived.length = 2 * (arrived.length / 2) + 1 by omega)
  have begins : Begins (arrived.length / 2) (Game.started (2 * (arrived.length / 2)) (2 * (arrived.length / 2) + 1) t.player) := by
    refine ⟨t.player, ?_, ?_, rfl⟩
    · rw [← first, paired.partner]
      exact hosts.fresh p waits
    · rw [← second, paired.newcomer]
      exact ⟨rfl, rfl, rfl⟩
  have half : (arrived ++ [conn]).length / 2 = arrived.length / 2 + 1 := by
    rw [List.length_append, List.length_singleton]
    omega
  have elsewhere : ∀ q : Nat, q < arrived.length - 1 → t.player q = s.player q := fun q below =>
    paired.others q (by rw [last]; exact Nat.ne_of_lt below)
      (by rw [hosts.nextPlayer]; exact Nat.ne_of_lt (Nat.lt_of_lt_of_le below (Nat.sub_le _ _)))
  have roomHere : t.room (arrived.length / 2) = .new (2 * (arrived.length / 2)) (2 * (arrived.length / 2) + 1) := by
    rw [paired.room, ← hosts.nextRoom, Function.update_self, hosts.nextRoom, first, second]
  have roomElsewhere : ∀ r : Nat, r < arrived.length / 2 → t.room r = s.room r := fun r below => by
    rw [paired.room, hosts.nextRoom, Function.update_of_ne (Nat.ne_of_lt below)]
  have kept : ∀ r : Nat, r < arrived.length / 2 → Game.Agrees (s.game r) (t.game r) := fun r below =>
    ⟨roomElsewhere r below, fun q seated => elsewhere q (hosts.seated_early s arrived r q below odd seated)⟩
  have begun : Game.Agrees (Game.started (2 * (arrived.length / 2)) (2 * (arrived.length / 2) + 1) t.player)
      (t.game (arrived.length / 2)) := ⟨roomHere, fun _ _ => rfl⟩
  refine ⟨⟨?_, ?_, ?_, ?_, ?_, ?_, ?_, ?_, ?_⟩, kept, _, begins, begun⟩
  · rw [paired.nextPlayer, hosts.nextPlayer, List.length_append, List.length_singleton]
  · rw [paired.nextRoom, hosts.nextRoom, half]
  · refine named_snoc s t arrived conn hosts new paired.players (fun q below => ?_) (by rw [paired.newcomer]; rfl)
    by_cases partner : q = p
    · rw [partner, paired.partner]
    · rw [paired.others q partner (by rw [hosts.nextPlayer]; exact Nat.ne_of_lt below)]
  · rw [paired.waitingPlayer, List.length_append, List.length_singleton, if_neg (by omega)]
  · rw [paired.rooms, hosts.rooms, half, List.range_succ, List.filter_append, hosts.nextRoom]
    congr 1
    · refine List.filter_congr fun r member => ?_
      rw [roomElsewhere r (List.mem_range.mp member)]
    · simp [roomHere, GameRoom.new]
  · intro r below
    rw [half] at below
    rcases Nat.lt_succ_iff_lt_or_eq.mp below with old | rfl
    · rw [roomElsewhere r old]
      exact hosts.seats r old
    · rw [roomHere]
      exact ⟨rfl, rfl⟩
  · intro q below
    rw [List.length_append, List.length_singleton] at below
    rw [half]
    rcases Nat.lt_trichotomy q (arrived.length - 1) with early | rfl | newest
    · rw [elsewhere q early, hosts.assigned q (by omega), if_pos (by omega), if_pos (by omega)]
    · rw [← last, paired.partner, hosts.nextRoom, last, if_pos (by omega)]
      exact congrArg some (show arrived.length / 2 = (arrived.length - 1) / 2 by omega)
    · obtain rfl : q = arrived.length := by omega
      rw [← hosts.nextPlayer, paired.newcomer, hosts.nextRoom, hosts.nextPlayer, if_pos (by omega)]
  · intro q waits
    rw [paired.waitingPlayer] at waits
    cases waits
  · intro r below
    rw [half] at below
    rcases Nat.lt_succ_iff_lt_or_eq.mp below with old | rfl
    · exact (kept r old).inv (hosts.games r old)
    · exact begun.inv (begins_inv _ _ begins)

end GameServer

namespace Lobby

variable {κ : Type}

theorem seat_some (s : GameServer κ) (conn : κ) (player : PlayerId) (room : RoomId) (seated : s.seat conn = some (player, room)) :
    s.players conn = some player ∧ (s.player player).room = some room ∧ room ∈ s.rooms := by
  simp only [GameServer.seat] at seated
  split at seated
  · cases seated
  · next found =>
      split at seated
      · cases seated
      · next locked =>
          simp only [Option.some.injEq, Prod.mk.injEq] at seated
          obtain ⟨rfl, rfl⟩ := seated
          simp only [GameServer.lock, Option.filter_eq_some_iff, decide_eq_true_eq] at locked
          exact ⟨found, locked⟩

structure Hosting (s : Lobby κ) (arrived : List κ) : Prop where
  inv : Inv s
  readable : s.Readable
  hosts : s.server.Hosts arrived

theorem new_hosting (player : PlayerId → Player κ) (room : RoomId → GameRoom) : Hosting (new player room) [] := by
  refine ⟨new_inv player room, fun _ => Buffer.new_valid kInitiaSize, ?_⟩
  exact
    { nextPlayer := rfl
      nextRoom := (Nat.zero_div 2).symm
      named := fun p conn there => by cases there
      waiting := rfl
      rooms := by simp [new, GameServer.new]
      seats := fun r below => by simp at below
      assigned := fun p below => absurd below (Nat.not_lt_zero p)
      fresh := fun p waits => by cases waits
      games := fun r below => by simp at below }

theorem known_arrived (s : Lobby κ) (arrived : List κ) (hosting : Hosting s arrived) (conn : κ) (p : PlayerId)
    (mapped : s.server.players conn = some p) : conn ∈ arrived := by
  obtain ⟨below, named⟩ := hosting.inv.mapped conn p mapped
  rw [hosting.hosts.nextPlayer] at below
  obtain ⟨-, same⟩ := hosting.hosts.named p arrived[p] (List.getElem?_eq_getElem below)
  rw [← named, same]
  exact List.getElem_mem below

theorem phase_arrived (s : Lobby κ) (arrived : List κ) (hosting : Hosting s arrived) (conn : κ)
    (after : s.phase conn ≠ .before) : conn ∈ arrived := by
  obtain ⟨p, mapped⟩ := hosting.inv.known conn after
  exact known_arrived s arrived hosting conn p mapped

variable [DecidableEq κ]

-- What is handed to handleCommand in a step, and to which room.
def handed (s : Lobby κ) : LobbyLabel κ → Option (RoomId × Command)
  | .message conn result randomNum =>
      match (s.received conn result).bind fun server => server.command conn with
      | some (player, room, cmd) => some (room, ⟨player, cmd, randomNum⟩)
      | none => none
  | _ => none

def issued (r : RoomId) : Option (RoomId × Command) → List Command
  | some (room, command) => if room = r then [command] else []
  | none => []

def commands (r : RoomId) (s : Lobby κ) (label : LobbyLabel κ) (_ : Lobby κ) : List Command := issued r (s.handed label)

def arrival : LobbyLabel κ → Option κ
  | .up conn => some conn
  | _ => none

-- All that a step can do to the server, and the command it hands to a room.
inductive Does (s t : GameServer κ) : LobbyLabel κ → Option (RoomId × Command) → Prop where
  | waits (conn : κ) (nobody : s.waitingPlayer = none) (same : t = s.onConnection conn true) : Does s t (.up conn) none
  | pairs (conn : κ) (p : PlayerId) (waits : s.waitingPlayer = some p) (paired : s.Paired t conn p) : Does s t (.up conn) none
  | leaves (conn : κ) (same : t = s) : Does s t (.down conn) none
  | unheard (conn : κ) (result : ReadResult) (randomNum : RandomNum) (said : List (Output κ))
      (answer : said = [] ∨ s.players conn ≠ none ∧ said = [.send conn "you are not in a room!\n"])
      (same : t = { s with inputBuffer := t.inputBuffer, output := s.output ++ said }) :
      Does s t (.message conn result randomNum) none
  | plays (conn : κ) (result : ReadResult) (randomNum : RandomNum) (player : PlayerId) (room : RoomId) (cmd : UInt8)
      (mapped : s.players conn = some player) (assigned : (s.player player).room = some room) (member : room ∈ s.rooms)
      (plays : s.Plays t room ((s.game room).handleCommand player cmd randomNum)) :
      Does s t (.message conn result randomNum) (some (room, ⟨player, cmd, randomNum⟩))

theorem step_does (s t : Lobby κ) (label : LobbyLabel κ) (inv : Inv s) (readable : s.Readable)
    (taken : s.step label = some t) : Does s.server t.server label (s.handed label) := by
  cases label with
  | up conn =>
      simp only [step, Option.ite_none_right_eq_some, Option.some.injEq] at taken
      obtain ⟨-, rfl⟩ := taken
      cases waits : s.server.waitingPlayer with
      | none => exact .waits conn waits rfl
      | some p =>
          have different : p ≠ s.server.nextPlayer := Nat.ne_of_lt (inv.waiting p waits).1
          exact .pairs conn p waits (s.server.on_connection_pairs conn p waits different)
  | down conn =>
      simp only [step, Option.ite_none_right_eq_some, Option.some.injEq] at taken
      obtain ⟨-, rfl⟩ := taken
      exact .leaves conn rfl
  | message conn result randomNum =>
      obtain ⟨server, got, done⟩ := step_message s t conn result randomNum taken
      obtain ⟨-, next, valid, -, received⟩ := s.received_readable conn result server readable got
      have seat : server.seat conn = s.server.seat conn := by rw [received]; rfl
      cases seated : server.seat conn with
      | none =>
          have silent : s.handed (.message conn result randomNum) = none := by
            simp only [handed, got, Option.bind_some, (server.on_message_unseated conn randomNum seated).1]
          rw [silent]
          rcases server.on_message_nowhere conn randomNum seated with answered | ⟨mapped, answered⟩
          · obtain same := Except.ok.inj (answered.symm.trans done)
            exact .unheard conn result randomNum [] (.inl rfl) (by rw [← same, received, List.append_nil])
          · obtain same := Except.ok.inj (answered.symm.trans done)
            exact .unheard conn result randomNum _ (.inr ⟨by rwa [received] at mapped, rfl⟩) (by rw [← same, received]; rfl)
      | some place =>
          obtain ⟨player, room⟩ := place
          have here : (server.inputBuffer conn).Valid := by rw [received]; simpa using valid
          obtain ⟨command, answered⟩ := server.on_message_seated conn randomNum player room seated here
          have handedOver : s.handed (.message conn result randomNum) =
              some (room, ⟨player, (server.inputBuffer conn).readable.headD 0, randomNum⟩) := by
            simp only [handed, got, Option.bind_some, command]
          rw [handedOver]
          obtain ⟨mapped, assigned, member⟩ := seat_some s.server conn player room (seat.symm.trans seated)
          refine .plays conn result randomNum player room _ mapped assigned member ?_
          generalize (server.inputBuffer conn).readable.headD 0 = cmd at answered ⊢
          have played := server.played_plays conn ((server.inputBuffer conn).retrieve (server.inputBuffer conn).readableBytes)
            room ((server.game room).handleCommand player cmd randomNum)
          rw [← Except.ok.inj (done.symm.trans answered)] at played
          subst received
          exact ⟨played.players, played.waitingPlayer, played.nextPlayer, played.nextRoom, played.rooms, played.room,
            played.player, played.output⟩

-- A command reaches the game of its room and no other, and a game begins with
-- the second of its players.
theorem does_plays (s t : GameServer κ) (label : LobbyLabel κ) (handed : Option (RoomId × Command)) (arrived : List κ)
    (hosts : s.Hosts arrived) (new : ∀ conn, label = .up conn → conn ∉ arrived) (does : Does s t label handed) :
    t.Hosts (arrived ++ (arrival label).toList) ∧
    (∀ r : Nat, r < arrived.length / 2 →
      ∃ g, run Game.step (s.game r) (issued r handed) = some g ∧ Game.Agrees g (t.game r)) ∧
    ∀ r : Nat, arrived.length / 2 ≤ r → issued r handed = [] ∧
      ((arrived ++ (arrival label).toList).length / 2 ≤ r ∨ ∃ g, GameServer.Begins r g ∧ Game.Agrees g (t.game r)) := by
  have quiet : ∀ (t : GameServer κ) r, Game.Agrees (s.game r) (t.game r) →
      ∃ g, run Game.step (s.game r) (issued r none) = some g ∧ Game.Agrees g (t.game r) := fun t r same => ⟨_, rfl, same⟩
  cases does with
  | waits conn nobody same =>
      subst same
      obtain ⟨after, kept⟩ := hosts.waits s arrived conn (new conn rfl) nobody
      have even := hosts.paired_off s arrived nobody
      refine ⟨after, fun r below => quiet _ r (kept r below), fun r beyond => ⟨rfl, .inl ?_⟩⟩
      simp only [arrival, Option.toList, List.length_append, List.length_singleton]
      omega
  | pairs conn p waits paired =>
      obtain ⟨after, kept, begun⟩ := hosts.pairs s t arrived conn p (new conn rfl) waits paired
      obtain ⟨odd, -⟩ := hosts.alone s arrived p waits
      refine ⟨after, fun r below => quiet _ r (kept r below), fun r beyond => ⟨rfl, ?_⟩⟩
      rcases Nat.eq_or_lt_of_le beyond with rfl | later
      · exact .inr begun
      · left
        simp only [arrival, Option.toList, List.length_append, List.length_singleton]
        omega
  | leaves conn same =>
      subst same
      simp only [arrival, Option.toList, List.append_nil]
      exact ⟨hosts, fun r _ => quiet _ r ⟨rfl, fun _ _ => rfl⟩, fun r beyond => ⟨rfl, .inl beyond⟩⟩
  | unheard conn result randomNum said answer same =>
      have kept : ∀ r, Game.Agrees (s.game r) (t.game r) := fun r => by
        rw [same]
        exact ⟨rfl, fun _ _ => rfl⟩
      simp only [arrival, Option.toList, List.append_nil]
      refine ⟨?_, fun r _ => quiet _ r (kept r), fun r beyond => ⟨rfl, .inl beyond⟩⟩
      rw [same]
      exact ⟨hosts.nextPlayer, hosts.nextRoom, hosts.named, hosts.waiting, hosts.rooms, hosts.seats, hosts.assigned,
        hosts.fresh, fun r below => Game.Agrees.inv (g := s.game r) ⟨rfl, fun _ _ => rfl⟩ (hosts.games r below)⟩
  | plays conn result randomNum player room cmd mapped assigned member plays =>
      obtain ⟨after, inside, here⟩ := hosts.plays s t arrived room player cmd randomNum member plays
      simp only [arrival, Option.toList, List.append_nil]
      refine ⟨after, fun r below => ?_, fun r beyond => ⟨if_neg fun same => ?_, .inl beyond⟩⟩
      · by_cases same : room = r
        · subst same
          exact ⟨_, by rw [issued, if_pos rfl]; rfl, here⟩
        · exact ⟨_, by rw [issued, if_neg same]; rfl,
            hosts.elsewhere s t arrived room player cmd randomNum inside plays r (Ne.symm same) below⟩
      · subst same
        exact Nat.not_lt.mpr beyond inside

theorem arrival_new (s t : Lobby κ) (label : LobbyLabel κ) (arrived : List κ) (hosting : Hosting s arrived)
    (taken : s.step label = some t) : ∀ conn, label = .up conn → conn ∉ arrived := by
  rintro conn rfl known
  simp only [step, Option.ite_none_right_eq_some] at taken
  obtain ⟨p, there⟩ := List.mem_iff_getElem?.mp known
  obtain ⟨mapped, named⟩ := hosting.hosts.named p conn there
  exact hosting.inv.conns p (hosting.inv.mapped conn p mapped).1 (by rw [named]; exact taken.1)

theorem step_hosting (s t : Lobby κ) (label : LobbyLabel κ) (arrived : List κ) (hosting : Hosting s arrived)
    (taken : s.step label = some t) :
    Hosting t (arrived ++ (arrival label).toList) ∧
    (∀ r : Nat, r < arrived.length / 2 →
      ∃ g, run Game.step (s.server.game r) (commands r s label t) = some g ∧ Game.Agrees g (t.server.game r)) ∧
    ∀ r : Nat, arrived.length / 2 ≤ r → commands r s label t = [] ∧
      ((arrived ++ (arrival label).toList).length / 2 ≤ r ∨
        ∃ g, GameServer.Begins r g ∧ Game.Agrees g (t.server.game r)) := by
  obtain ⟨inv, readable, hosts⟩ := hosting
  have new := arrival_new s t label arrived ⟨inv, readable, hosts⟩ taken
  obtain ⟨after, plays, begins⟩ :=
    does_plays s.server t.server label _ arrived hosts new (step_does s t label inv readable taken)
  exact ⟨⟨step_inv s t label inv taken, fun c => (step_readable s t label c readable taken).1, after⟩, plays, begins⟩

theorem run_hosting (labels : List (LobbyLabel κ)) (s final : Lobby κ) (arrived : List κ) (hosting : Hosting s arrived)
    (ran : run step s labels = some final) : Hosting final (arrived ++ labels.filterMap arrival) :=
  guarded_history step (fun _ _ => True) arrival Hosting
    (fun s label t arrived hosting _ taken => (step_hosting s t label arrived hosting taken).1) s final labels arrived
    hosting (guarded_trivial _ _ _ _ fun _ _ => trivial) ran

-- A room's game is all that its own commands make of it.
theorem refines_game (r : Nat) : Refines step Game.step (commands r) (fun _ _ => True)
    (fun s : Lobby κ => ∃ arrived, Hosting s arrived)
    fun s g => r < s.server.nextRoom ∧ Game.Agrees g (s.server.game r) := by
  constructor
  · rintro s label t ⟨arrived, hosting⟩ - taken
    exact ⟨_, (step_hosting s t label arrived hosting taken).1⟩
  · rintro s label t g ⟨arrived, hosting⟩ - ⟨below, agrees⟩ taken
    obtain ⟨after, plays, -⟩ := step_hosting s t label arrived hosting taken
    rw [hosting.hosts.nextRoom] at below
    obtain ⟨h, ran, same⟩ := plays r below
    have grown : r < t.server.nextRoom := by
      rw [after.hosts.nextRoom, List.length_append]
      exact Nat.lt_of_lt_of_le below (Nat.div_le_div_right (Nat.le_add_right _ _))
    obtain ⟨last, played, there⟩ := Game.run_agrees (commands r s label t) g _ h agrees ran
    exact ⟨last, played, grown, there.trans same⟩

theorem makes_game (r : Nat) (s t : Lobby κ) (label : LobbyLabel κ) (hosting : ∃ arrived, Hosting s arrived)
    (unmade : s.server.nextRoom ≤ r) (taken : s.step label = some t) : commands r s label t = [] ∧
      (t.server.nextRoom ≤ r ∨
        ∃ g, GameServer.Begins r g ∧ r < t.server.nextRoom ∧ Game.Agrees g (t.server.game r)) := by
  obtain ⟨arrived, hosting⟩ := hosting
  obtain ⟨after, -, later⟩ := step_hosting s t label arrived hosting taken
  rw [hosting.hosts.nextRoom] at unmade
  obtain ⟨silent, begins⟩ := later r unmade
  rw [after.hosts.nextRoom]
  refine ⟨silent, ?_⟩
  rcases begins with still | ⟨g, begins, agrees⟩
  · exact .inl still
  · rcases Nat.lt_or_ge r ((arrived ++ (arrival label).toList).length / 2) with made | still
    · exact .inr ⟨g, begins, made, agrees⟩
    · exact .inl still

end Lobby

-- The arrivals are paired in the order in which they come, and whatever else the
-- server does meanwhile, every pair plays a game of its own to its end.
theorem rooms_play_their_games {κ : Type} [DecidableEq κ] (player : PlayerId → Player κ) (room : RoomId → GameRoom)
    (labels : List (LobbyLabel κ)) (final : Lobby κ) (ran : run Lobby.step (.new player room) labels = some final) :
    let arrived := labels.filterMap Lobby.arrival
    (∀ (p : Nat) (conn : κ), arrived[p]? = some conn →
      final.server.players conn = some p ∧ (final.server.player p).conn = conn ∧
        (final.server.player p).room = if p / 2 < arrived.length / 2 then some (p / 2) else none) ∧
    final.server.waitingPlayer = (if arrived.length % 2 = 1 then some (arrived.length - 1) else none) ∧
    final.server.rooms = (List.range (arrived.length / 2)).filter (fun r => !(final.server.room r).finished) ∧
    ∀ r : Nat, r < arrived.length / 2 → ∃ first last, GameServer.Begins r first ∧
      run Game.step first (outputs Lobby.step (Lobby.commands r) (.new player room) labels) = some last ∧
      Game.Agrees last (final.server.game r) := by
  dsimp only
  have hosting := Lobby.run_hosting labels _ final [] (Lobby.new_hosting player room) ran
  rw [List.nil_append] at hosting
  refine ⟨fun p conn there => ?_, hosting.hosts.waiting, hosting.hosts.rooms, fun r below => ?_⟩
  · obtain ⟨mapped, named⟩ := hosting.hosts.named p conn there
    exact ⟨mapped, named, hosting.hosts.assigned p (List.getElem?_eq_some_iff.mp there).1⟩
  · have made := (Lobby.refines_game r).run_made (fun s => s.server.nextRoom ≤ r) (GameServer.Begins r)
      (fun s label t hosting _ unmade taken => Lobby.makes_game r s t label hosting unmade taken) (.new player room) final
      labels ⟨[], Lobby.new_hosting player room⟩ (Nat.zero_le r) (guarded_trivial _ _ _ _ fun _ _ => trivial) ran
    rcases made with unmade | ⟨first, last, begins, played, -, agrees⟩
    · rw [hosting.hosts.nextRoom] at unmade
      exact absurd unmade (Nat.not_le.mpr below)
    · exact ⟨first, last, begins, played, agrees⟩

-- Two games at a time, in the first of which a player speaks out of turn.
def fourMeet : List (LobbyLabel Nat) :=
  [.up 7, .up 8, .up 9, .message 8 (.arrived [97]) fixedDamage, .message 7 (.arrived [97]) fixedDamage, .up 5,
    .message 9 (.arrived [98]) fixedDamage, .message 8 (.arrived [104]) fixedDamage]

theorem rooms_play_their_games_four :
    ∃ final first last, run Lobby.step (.new (fun _ => .new 0 0) fun _ => .new 0 0) fourMeet = some final ∧
      final.server.waitingPlayer = none ∧ GameServer.Begins 1 first ∧
      run Game.step first (outputs Lobby.step (Lobby.commands 1) (.new (fun _ => .new 0 0) fun _ => .new 0 0) fourMeet) =
        some last ∧ Game.Agrees last (final.server.game 1) := by
  have finished : (run Lobby.step (.new (fun _ => .new 0 0) fun _ => .new 0 0) fourMeet).isSome := by decide +kernel
  obtain ⟨final, ran⟩ := Option.isSome_iff_exists.mp finished
  obtain ⟨-, nobody, -, games⟩ := rooms_play_their_games _ _ fourMeet final ran
  obtain ⟨first, last, begins, played, agrees⟩ := games 1 (by decide)
  exact ⟨final, first, last, ran, nobody, begins, played, agrees⟩

end Cmuduo.Example
