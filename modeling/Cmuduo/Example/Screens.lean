import Cmuduo.Example.GameRules

set_option autoImplicit false

namespace Cmuduo.Example

open Machine

-- What a player can tell from the texts he has been sent until his connection
-- was shut down: the last of his status lines, whether the last notice gave him
-- the turn, and whether he has won.
structure Screen where
  status : Option String
  turn : Option Bool
  verdict : Option Bool
  closed : Bool
deriving DecidableEq, Repr

namespace Screen

def blank : Screen := ⟨none, none, none, false⟩

def display (screen : Screen) (text : String) : Screen :=
  if text = "You win!\n" then { screen with verdict := some true }
  else if text = "You lose!\n" then { screen with verdict := some false }
  else if text = "Your turn. Input a/b/h/m.\n" then { screen with turn := some true }
  else if text = "Waiting for opponent...\n" then { screen with turn := some false }
  else if text.toList.take 4 = "HP: ".toList then { screen with status := some text }
  else screen

variable {κ : Type} [DecidableEq κ]

def hear (conn : κ) (screen : Screen) : Output κ → Screen
  | .send other text => if other = conn ∧ screen.closed = false then screen.display text else screen
  | .shutdown other => if other = conn then { screen with closed := true } else screen

def after (conn : κ) (output : List (Output κ)) : Screen := output.foldl (hear conn) blank

-- A text that tells nothing of the kind.
def Neutral (text : String) : Prop := ∀ screen : Screen, screen.display text = screen

-- The beginnings of the other texts.
def loud : List (List Char) := ["You wi".toList, "You lo".toList, "Your t".toList, "Waitin".toList]

def Quiet (text : String) : Prop :=
  6 ≤ text.toList.length ∧ text.toList.take 6 ∉ loud ∧ text.toList.take 4 ≠ "HP: ".toList

instance (text : String) : Decidable (Quiet text) := inferInstanceAs (Decidable (_ ∧ _))

theorem Quiet.append {text : String} (quiet : Quiet text) (rest : String) : Quiet (text ++ rest) := by
  obtain ⟨long, plain, status⟩ := quiet
  rw [Quiet, String.toList_append, List.take_append_of_le_length long, List.take_append_of_le_length (by omega),
    List.length_append]
  exact ⟨Nat.le_trans long (Nat.le_add_right _ _), plain, status⟩

theorem Quiet.neutral {text : String} (quiet : Quiet text) : Neutral text := by
  intro screen
  have differs : ∀ other : String, other.toList.take 6 ∈ loud → text ≠ other := by
    rintro other heard rfl
    exact quiet.2.1 heard
  rw [display, if_neg (differs _ (by decide)), if_neg (differs _ (by decide)), if_neg (differs _ (by decide)),
    if_neg (differs _ (by decide)), if_neg quiet.2.2]

theorem display_closed (screen : Screen) (text : String) : (screen.display text).closed = screen.closed := by
  simp only [display]
  split_ifs <;> rfl

theorem display_status {κ : Type} (screen : Screen) (player : Player κ) :
    screen.display (Game.status player) = ⟨some (Game.status player), screen.turn, screen.verdict, screen.closed⟩ := by
  have differs : ∀ text : String, text.toList.take 4 ≠ "HP: ".toList → Game.status player ≠ text := by
    rintro text other rfl
    exact other (by simp [Game.status])
  rw [display, if_neg (differs _ (by decide)), if_neg (differs _ (by decide)), if_neg (differs _ (by decide)),
    if_neg (differs _ (by decide)), if_pos (by simp [Game.status])]

theorem hear_here (conn : κ) (screen : Screen) (text : String) (isOpen : screen.closed = false) :
    hear conn screen (.send conn text) = screen.display text := if_pos ⟨rfl, isOpen⟩

theorem hear_elsewhere (conn other : κ) (screen : Screen) (text : String) (different : other ≠ conn) :
    hear conn screen (.send other text) = screen := if_neg fun both => different both.1

theorem hear_neutral (conn other : κ) (screen : Screen) (text : String) (neutral : Neutral text) :
    hear conn screen (.send other text) = screen := by
  rw [hear, neutral screen, ite_self]

theorem hear_neutrals (first second conn : κ) (mine theirs : String) (screen : Screen) (heard : Neutral mine ∧ Neutral theirs) :
    [Output.send first mine, .send second theirs].foldl (hear conn) screen = screen := by
  rw [List.foldl_cons, List.foldl_cons, List.foldl_nil, hear_neutral _ _ _ _ heard.1, hear_neutral _ _ _ _ heard.2]

-- Two texts for the two players of a room: each of them hears his own.
theorem hear_own (conn : PlayerId → κ) (first second id : PlayerId) (text : PlayerId → String) (screen : Screen)
    (different : conn first ≠ conn second) (isOpen : screen.closed = false) (among : id = first ∨ id = second) :
    [Output.send (conn first) (text first), .send (conn second) (text second)].foldl (hear (conn id)) screen =
      screen.display (text id) := by
  rcases among with rfl | rfl
  · rw [List.foldl_cons, List.foldl_cons, List.foldl_nil, hear_here _ _ _ isOpen, hear_elsewhere _ _ _ _ different.symm]
  · rw [List.foldl_cons, List.foldl_cons, List.foldl_nil, hear_elsewhere _ _ _ _ different, hear_here _ _ _ isOpen]

theorem hear_shutdowns (first second conn : κ) (screen : Screen) (among : conn = first ∨ conn = second) :
    [Output.shutdown first, .shutdown second].foldl (hear conn) screen = { screen with closed := true } := by
  rcases among with rfl | rfl
  · simp only [List.foldl_cons, List.foldl_nil, hear, if_true, ite_self]
  · simp only [List.foldl_cons, List.foldl_nil, hear, if_true]
    split <;> rfl

theorem after_append (conn : κ) (output more : List (Output κ)) :
    after conn (output ++ more) = more.foldl (hear conn) (after conn output) := List.foldl_append

end Screen

namespace Game

variable {κ : Type}

open Screen

-- The players an accepted command works on, before the status lines: nobody has
-- heard more than what has been done to him.
structure Struck (g h : Game κ) (mine theirs : String) : Prop where
  heard : Neutral mine ∧ Neutral theirs
  output : h.output = g.output ++ [.send (g.player g.room.currentPlayer).conn mine,
    .send (g.player g.room.opponentPlayer).conn theirs]
  room : h.room = g.room
  conn : ∀ id, (h.player id).conn = (g.player id).conn

def Strikes (g : Game κ) (result : Bool × Game κ) : Prop :=
  g.room.finished = false ∧ ∃ h mine theirs, Struck g h mine theirs ∧
    result = h.endCommand g.room.currentPlayer g.room.opponentPlayer

theorem strikes (g h : Game κ) (mine theirs : String) (running : ¬g.room.finished = true) (first : Neutral mine)
    (second : Neutral theirs) (room : h.room = g.room) (output : h.output = g.output)
    (conn : ∀ id, (h.player id).conn = (g.player id).conn) :
    Strikes g (((h.send g.room.currentPlayer mine).send g.room.opponentPlayer theirs).endCommand g.room.currentPlayer
      g.room.opponentPlayer) := by
  refine ⟨by simpa using running, (h.send g.room.currentPlayer mine).send g.room.opponentPlayer theirs, mine, theirs,
    ⟨⟨first, second⟩, ?_, room, conn⟩, rfl⟩
  simp [send, output, conn]

theorem modify_conn (g : Game κ) (player id : PlayerId) (change : Player κ → Player κ)
    (same : (change (g.player player)).conn = (g.player player).conn) :
    ((g.modify player change).player id).conn = (g.player id).conn := by
  by_cases here : id = player
  · simp [here, modify, same]
  · simp [modify, here]

-- What handleCommand says: one text that tells nothing, or two of them and then
-- what endCommand says.
theorem handle_command_output (g : Game κ) (player : PlayerId) (cmd : UInt8) (randomNum : RandomNum) :
    (∃ text, Neutral text ∧ (g.handleCommand player cmd randomNum).2 = g.send player text) ∨
      Strikes g (g.handleCommand player cmd randomNum) := by
  have quiet : ∀ pre rest : String, Quiet pre → Neutral (pre ++ rest ++ "\n") := fun pre rest quiet =>
    ((quiet.append rest).append "\n").neutral
  rw [handleCommand]
  split
  · exact .inl ⟨_, Quiet.neutral (by decide), rfl⟩
  · next running =>
    dsimp only
    split
    · exact .inl ⟨_, Quiet.neutral (by decide), rfl⟩
    · next turn =>
      obtain rfl : player = g.room.currentPlayer := not_not.mp turn
      split
      · exact .inr (strikes g _ _ _ running (quiet _ _ (by decide))
          (quiet _ _ (by decide)) rfl rfl fun id => g.modify_conn _ id _ rfl)
      split
      · split
        · exact .inl ⟨_, Quiet.neutral (by decide), rfl⟩
        · exact .inr (strikes g _ _ _ running (quiet _ _ (by decide))
            (quiet _ _ (by decide)) rfl rfl fun id =>
              (modify_conn _ _ id _ rfl).trans (g.modify_conn _ id _ rfl))
      split
      · split
        · exact .inl ⟨_, Quiet.neutral (by decide), rfl⟩
        · exact .inr (strikes g _ _ _ running (Quiet.neutral (by decide))
            (Quiet.neutral (by decide)) rfl rfl fun id => g.modify_conn _ id _ rfl)
      split
      · split
        · exact .inl ⟨_, Quiet.neutral (by decide), rfl⟩
        · exact .inr (strikes g _ _ _ running (Quiet.neutral (by decide))
            (Quiet.neutral (by decide)) rfl rfl fun id => g.modify_conn _ id _ rfl)
      · exact .inl ⟨_, Quiet.neutral (by decide), rfl⟩

def winner (g : Game κ) : PlayerId := if (g.player g.room.p1).hp > 0 then g.room.p1 else g.room.p2
def loser (g : Game κ) : PlayerId := if (g.player g.room.p1).hp > 0 then g.room.p2 else g.room.p1

def turnNotice (room : GameRoom) (id : PlayerId) : String :=
  if id = room.currentPlayer then "Your turn. Input a/b/h/m.\n" else "Waiting for opponent...\n"

def verdict (g : Game κ) (id : PlayerId) : String := if id = g.winner then "You win!\n" else "You lose!\n"

-- What endCommand says after the two status lines.
def closing (g : Game κ) : List (Output κ) :=
  if (g.player g.room.p1).hp ≤ 0 ∨ (g.player g.room.p2).hp ≤ 0 then
    [.send (g.player g.winner).conn (g.verdict g.winner), .send (g.player g.loser).conn (g.verdict g.loser)] ++
      [.shutdown (g.player g.winner).conn, .shutdown (g.player g.loser).conn]
  else
    let room := { g.room with currentTurn := 1 - g.room.currentTurn }
    [.send (g.player room.currentPlayer).conn (turnNotice room room.currentPlayer),
      .send (g.player room.opponentPlayer).conn (turnNotice room room.opponentPlayer)]

theorem end_command_output (g : Game κ) (self enemy : PlayerId) (distinct : g.room.p1 ≠ g.room.p2) :
    (g.endCommand self enemy).2.output = g.output ++ [.send (g.player self).conn (status (g.player self)),
      .send (g.player enemy).conn (status (g.player enemy))] ++ g.closing := by
  have turns := opponent_different { g.room with currentTurn := 1 - g.room.currentTurn } distinct
  have apart : g.loser ≠ g.winner := by
    rw [winner, loser]
    split
    · exact distinct.symm
    · exact distinct
  by_cases ended : (g.player g.room.p1).hp ≤ 0 ∨ (g.player g.room.p2).hp ≤ 0
  · simp [endCommand, checkGameOver, send, shutdown, closing, ended, verdict, apart]
    simp [winner, loser]
  · simp [endCommand, checkGameOver, switchTurn, send, closing, ended, turnNotice, turns]

theorem winner_and_loser (g : Game κ) (id : PlayerId) (seated : Seated g.room id) : id = g.winner ∨ id = g.loser := by
  rw [winner, loser]
  split
  · exact seated
  · exact seated.symm

theorem winner_standing (g : Game κ) (id : PlayerId) (inv : Inv g) (ended : g.room.finished = true)
    (seated : Seated g.room id) : id = g.winner ↔ 0 < (g.player id).hp := by
  obtain ⟨dead, among, zero⟩ := inv.finished.mp ended
  obtain ⟨alive, there, standing⟩ := inv.alive
  rw [winner]
  by_cases first : (g.player g.room.p1).hp > 0
  · have fallen : (g.player g.room.p2).hp = 0 := by
      rcases among with rfl | rfl
      · omega
      · exact zero
    rw [if_pos first]
    rcases seated with rfl | rfl
    · exact iff_of_true rfl first
    · exact iff_of_false inv.distinct.symm (by omega)
  · have stands : 0 < (g.player g.room.p2).hp := by
      rcases there with rfl | rfl
      · exact absurd standing first
      · exact standing
    rw [if_neg first]
    rcases seated with rfl | rfl
    · exact iff_of_false inv.distinct first
    · exact iff_of_true rfl stands

-- What a player of the room knows from his screen.
structure Follows (g : Game κ) (id : PlayerId) (screen : Screen) : Prop where
  status : screen.status = some (status (g.player id)) ∨ screen.status = none ∧ Fresh (g.player id)
  turn : screen.turn = some (decide (id = g.room.currentPlayer)) ∨ screen.turn = none ∧ g.room.currentTurn = 0
  verdict : screen.verdict = if g.room.finished then some (decide (0 < (g.player id).hp)) else none
  closed : screen.closed = g.room.finished

variable [DecidableEq κ]

theorem closing_heard (g : Game κ) (id : PlayerId) (screen : Screen) (isOpen : screen.closed = false)
    (distinct : (g.player g.room.p1).conn ≠ (g.player g.room.p2).conn) (seated : Seated g.room id) :
    g.closing.foldl (hear (g.player id).conn) screen =
      if (g.player g.room.p1).hp ≤ 0 ∨ (g.player g.room.p2).hp ≤ 0 then
        { screen with verdict := some (decide (id = g.winner)), closed := true }
      else
        { screen with
          turn := some (decide (id = { g.room with currentTurn := 1 - g.room.currentTurn }.currentPlayer)) } := by
  by_cases ended : (g.player g.room.p1).hp ≤ 0 ∨ (g.player g.room.p2).hp ≤ 0
  · have apart : (g.player g.winner).conn ≠ (g.player g.loser).conn := by
      rw [winner, loser]
      split
      · exact distinct
      · exact distinct.symm
    have heard := hear_own (fun id => (g.player id).conn) g.winner g.loser id g.verdict screen apart isOpen
      (g.winner_and_loser id seated)
    have told : screen.display (g.verdict id) = { screen with verdict := some (decide (id = g.winner)) } := by
      by_cases won : id = g.winner <;> simp [verdict, won, display]
    have mine := (g.winner_and_loser id seated).imp (congrArg fun id => (g.player id).conn)
      (congrArg fun id => (g.player id).conn)
    rw [closing, if_pos ended, if_pos ended, List.foldl_append, heard, told, hear_shutdowns _ _ _ _ mine]
  · have turns := current_and_opponent { g.room with currentTurn := 1 - g.room.currentTurn }
    generalize next : { g.room with currentTurn := 1 - g.room.currentTurn } = room at turns
    have seats : room.p1 = g.room.p1 ∧ room.p2 = g.room.p2 := by rw [← next]; exact ⟨rfl, rfl⟩
    have apart : (g.player room.currentPlayer).conn ≠ (g.player room.opponentPlayer).conn := by
      rcases turns with ⟨current, opponent⟩ | ⟨current, opponent⟩
      · rwa [current, opponent, seats.1, seats.2]
      · rw [current, opponent, seats.1, seats.2]
        exact distinct.symm
    have among : id = room.currentPlayer ∨ id = room.opponentPlayer := by
      rw [← seated_by_turn, Seated, seats.1, seats.2]
      exact seated
    have heard := hear_own (fun id => (g.player id).conn) _ _ id (turnNotice room) screen apart isOpen among
    have told : screen.display (turnNotice room id) = { screen with turn := some (decide (id = room.currentPlayer)) } := by
      by_cases mine : id = room.currentPlayer <;> simp [turnNotice, mine, display]
    rw [closing, if_neg ended, if_neg ended, next, heard, told]

-- Up to the last two texts of an accepted command each player has just been
-- shown his status.
theorem strikes_heard (g h : Game κ) (mine theirs : String) (id : PlayerId) (struck : Struck g h mine theirs)
    (isOpen : (after (g.player id).conn g.output).closed = false) (seats : g.room.p1 ≠ g.room.p2)
    (distinct : (g.player g.room.p1).conn ≠ (g.player g.room.p2).conn) (seated : Seated g.room id) :
    after (g.player id).conn (h.endCommand g.room.currentPlayer g.room.opponentPlayer).2.output =
      h.closing.foldl (hear (h.player id).conn)
        ⟨some (status (h.player id)), (after (g.player id).conn g.output).turn,
          (after (g.player id).conn g.output).verdict, (after (g.player id).conn g.output).closed⟩ := by
  have apart : (h.player g.room.currentPlayer).conn ≠ (h.player g.room.opponentPlayer).conn := by
    rw [struck.conn, struck.conn]
    rcases current_and_opponent g.room with ⟨current, opponent⟩ | ⟨current, opponent⟩
    · rwa [current, opponent]
    · rw [current, opponent]
      exact distinct.symm
  have shown := hear_own (fun id => (h.player id).conn) _ _ id (fun id => status (h.player id))
    (after (g.player id).conn g.output) apart isOpen ((seated_by_turn _ _).mp seated)
  rw [struck.conn id] at shown
  rw [end_command_output h _ _ (by rwa [struck.room]), after_append, after_append, struck.output, after_append,
    hear_neutrals _ _ _ _ _ _ struck.heard, shown, display_status, struck.conn id]

theorem command_followed (g : Game κ) (player id : PlayerId) (cmd : UInt8) (randomNum : RandomNum) (inv : Inv g)
    (distinct : (g.player g.room.p1).conn ≠ (g.player g.room.p2).conn) (seated : Seated g.room id)
    (follows : Follows g id (after (g.player id).conn g.output)) :
    Follows (g.handleCommand player cmd randomNum).2 id
      (after (g.player id).conn (g.handleCommand player cmd randomNum).2.output) := by
  have nextInv := handle_command_inv g player cmd randomNum inv
  have seats := handle_command_seats g player cmd randomNum inv.distinct
  rcases handle_command_output g player cmd randomNum with ⟨text, neutral, same⟩ | ⟨running, h, mine, theirs, struck, same⟩
  · rw [same, send, after_append, List.foldl_cons, List.foldl_nil, hear_neutral _ _ _ _ neutral]
    exact ⟨follows.status, follows.turn, follows.verdict, follows.closed⟩
  · obtain ⟨-, players, room⟩ := h.end_command g.room.currentPlayer g.room.opponentPlayer
    have isOpen := follows.closed.trans running
    have seatedThere : Seated h.room id := by rwa [struck.room]
    have heard := closing_heard h id ⟨some (status (h.player id)), (after (g.player id).conn g.output).turn,
      (after (g.player id).conn g.output).verdict, (after (g.player id).conn g.output).closed⟩ isOpen
      (by rwa [struck.room, struck.conn, struck.conn]) seatedThere
    rw [same] at nextInv ⊢
    rw [strikes_heard g h mine theirs id struck isOpen inv.distinct distinct seated, heard]
    by_cases ended : (h.player h.room.p1).hp ≤ 0 ∨ (h.player h.room.p2).hp ≤ 0
    · rw [if_pos ended] at room ⊢
      have finished : (h.endCommand g.room.currentPlayer g.room.opponentPlayer).2.room.finished = true := by rw [room]
      have won := winner_standing _ id nextInv finished (by rw [room]; exact seatedThere)
      rw [show (h.endCommand g.room.currentPlayer g.room.opponentPlayer).2.winner = h.winner by
        simp only [winner, players, room], players] at won
      refine ⟨.inl (by rw [players]), ?_, ?_, finished.symm⟩
      · rw [room, struck.room]
        exact follows.turn
      · rw [finished, players]
        simp [won]
    · rw [if_neg ended] at room ⊢
      have going : (h.endCommand g.room.currentPlayer g.room.opponentPlayer).2.room.finished = false := by
        rw [room, struck.room]
        exact running
      refine ⟨.inl (by rw [players]), .inl (by rw [room]), ?_, isOpen.trans going.symm⟩
      have silent := follows.verdict
      rw [running] at silent
      rwa [going]

theorem rule_neutral : Neutral rule := by
  have title : Quiet " \t 平台规则如下 \n" := by decide
  exact (((((title.append _).append _).append _).append _).append _).neutral

theorem started_follows (p1 p2 id : PlayerId) (player : PlayerId → Player κ) (fresh : Fresh (player id)) :
    Follows (started p1 p2 player) id (after (player id).conn (started p1 p2 player).output) := by
  have begun : Neutral "Game start\n" := Quiet.neutral (by decide)
  have quiet : after (player id).conn (started p1 p2 player).output = blank := by
    rw [started, start]
    generalize same : rule = text
    have rules : Neutral text := same ▸ rule_neutral
    generalize "Game start\n" = first at begun ⊢
    simp only [send, after, List.nil_append, List.cons_append, List.foldl_cons, List.foldl_nil,
      hear_neutral _ _ _ _ begun, hear_neutral _ _ _ _ rules]
  rw [quiet]
  exact ⟨.inr ⟨rfl, fresh⟩, .inr ⟨rfl, rfl⟩, rfl, rfl⟩

-- Whatever the players type, and whoever types it.
structure Followed (p1 p2 : PlayerId) (player : PlayerId → Player κ) (g : Game κ) : Prop where
  inv : Inv g
  seats : g.room.p1 = p1 ∧ g.room.p2 = p2
  conn : ∀ id, (g.player id).conn = (player id).conn
  follows : ∀ id, id = p1 ∨ id = p2 → Follows g id (after (player id).conn g.output)

theorem step_followed (p1 p2 : PlayerId) (player : PlayerId → Player κ) (g t : Game κ) (command : Command)
    (distinct : (player p1).conn ≠ (player p2).conn) (followed : Followed p1 p2 player g)
    (taken : g.step command = some t) : Followed p1 p2 player t := by
  cases taken
  obtain ⟨inv, ⟨rfl, rfl⟩, conn, follows⟩ := followed
  have same := handle_command_seats g command.player command.cmd command.randomNum inv.distinct
  refine ⟨handle_command_inv g _ _ _ inv, ⟨same.p1, same.p2⟩, fun id => (same.conn id).trans (conn id), fun id seated => ?_⟩
  have before := follows id seated
  rw [← conn id] at before ⊢
  exact command_followed g command.player id command.cmd command.randomNum inv (by rwa [conn, conn]) seated before

end Game

-- At any time of a game, a player's last status line is what he has, the last
-- notice says whose turn it is, and the verdict is there when the game is over;
-- only then is the connection shut down.
theorem screens_follow_game {κ : Type} [DecidableEq κ] (p1 p2 : PlayerId) (player : PlayerId → Player κ)
    (commands : List Command) (g : Game κ) (different : p1 ≠ p2) (distinct : (player p1).conn ≠ (player p2).conn)
    (fresh1 : Game.Fresh (player p1)) (fresh2 : Game.Fresh (player p2))
    (ran : run Game.step (Game.started p1 p2 player) commands = some g) :
    ∀ id, id = p1 ∨ id = p2 → Game.Follows g id (Screen.after (player id).conn g.output) := by
  refine (invariant Game.step (Game.Followed p1 p2 player) (fun g command t followed taken =>
    Game.step_followed p1 p2 player g t command distinct followed taken) _ g commands ?_ ran).follows
  refine ⟨Game.started_inv p1 p2 player different fresh1 fresh2, ⟨rfl, rfl⟩, fun _ => rfl, fun id seated => ?_⟩
  refine Game.started_follows p1 p2 id player ?_
  rcases seated with rfl | rfl
  · exact fresh1
  · exact fresh2

theorem screens_follow_game_duel :
    ∃ g, run Game.step (Game.started 0 1 fun id => Player.new id id) duel = some g ∧
      (Screen.after 0 g.output).verdict = some true ∧ (Screen.after 1 g.output).verdict = some false := by
  have ended : (run Game.step (Game.started 0 1 fun id => Player.new id id) duel).map (fun g =>
      (g.room.finished, (g.player 0).hp, (g.player 1).hp)) = some (true, 50, 0) := by decide +kernel
  obtain ⟨g, ran, facts⟩ := Option.map_eq_some_iff.mp ended
  simp only [Prod.mk.injEq] at facts
  obtain ⟨finished, first, second⟩ := facts
  have follows := screens_follow_game 0 1 _ duel g (by decide) (by decide) ⟨rfl, rfl, rfl⟩ ⟨rfl, rfl, rfl⟩ ran
  have won := (follows 0 (.inl rfl)).verdict
  have lost := (follows 1 (.inr rfl)).verdict
  rw [finished, first] at won
  rw [finished, second] at lost
  exact ⟨g, ran, won, lost⟩

end Cmuduo.Example
