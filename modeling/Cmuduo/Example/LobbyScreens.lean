import Cmuduo.Example.Rooms
import Cmuduo.Example.Screens

set_option autoImplicit false

namespace Cmuduo.Example

open Cmuduo.Net Machine Screen

variable {κ : Type}

def Output.conn : Output κ → κ
  | .send conn _ => conn
  | .shutdown conn => conn

theorem Screen.hear_others [DecidableEq κ] (conn : κ) (more : List (Output κ)) (screen : Screen) (others : ∀ o ∈ more, o.conn ≠ conn) :
    more.foldl (hear conn) screen = screen := by
  induction more generalizing screen with
  | nil => rfl
  | cons o rest ih =>
      rw [List.foldl_cons, ih _ fun other member => others other (List.mem_cons_of_mem _ member)]
      have away := others o List.mem_cons_self
      cases o with
      | send other text => exact hear_elsewhere conn other screen text away
      | shutdown other => exact if_neg away

namespace Game

theorem Follows.agrees {g h : Game κ} {id : PlayerId} {screen : Screen} (agrees : Agrees g h) (seated : Seated g.room id)
    (follows : Follows g id screen) : Follows h id screen := by
  obtain ⟨status, turn, verdict, closed⟩ := follows
  have same := agrees.players id seated
  exact ⟨by rwa [same], by rwa [agrees.room], by rwa [agrees.room, same], by rwa [agrees.room]⟩

theorem blank_follows (r : Nat) (g : Game κ) (id : PlayerId) (begins : GameServer.Begins r g) (seated : Seated g.room id) :
    Follows g id blank := by
  obtain ⟨player, first, second, rfl⟩ := begins
  refine ⟨.inr ⟨rfl, ?_⟩, .inr ⟨rfl, rfl⟩, rfl, rfl⟩
  rcases seated with rfl | rfl
  · exact first
  · exact second

theorem closing_conns (g : Game κ) : ∀ o ∈ g.closing, o.conn = (g.player g.room.p1).conn ∨ o.conn = (g.player g.room.p2).conn := by
  have among : ∀ id, Seated g.room id →
      (g.player id).conn = (g.player g.room.p1).conn ∨ (g.player id).conn = (g.player g.room.p2).conn := by
    rintro id (rfl | rfl)
    · exact .inl rfl
    · exact .inr rfl
  have verdicts : Seated g.room g.winner ∧ Seated g.room g.loser := by
    rw [winner, loser]
    split
    · exact ⟨.inl rfl, .inr rfl⟩
    · exact ⟨.inr rfl, .inl rfl⟩
  rw [closing]
  split
  · intro o member
    simp only [List.cons_append, List.nil_append, List.mem_cons, List.not_mem_nil, or_false] at member
    rcases member with rfl | rfl | rfl | rfl
    · exact among _ verdicts.1
    · exact among _ verdicts.2
    · exact among _ verdicts.1
    · exact among _ verdicts.2
  · intro o member
    have turns : ∀ id, Seated { g.room with currentTurn := 1 - g.room.currentTurn } id → Seated g.room id := fun _ => id
    simp only [List.mem_cons, List.not_mem_nil, or_false] at member
    rcases member with rfl | rfl
    · exact among _ (turns _ ((seated_by_turn _ _).mpr (.inl rfl)))
    · exact among _ (turns _ ((seated_by_turn _ _).mpr (.inr rfl)))

-- Who is sent something by a command.
theorem command_tells (g : Game κ) (player : PlayerId) (cmd : UInt8) (randomNum : RandomNum)
    (distinct : g.room.p1 ≠ g.room.p2) :
    ∃ more, (g.handleCommand player cmd randomNum).2.output = g.output ++ more ∧
      ∀ o ∈ more, ∃ id, (id = player ∨ Seated g.room id) ∧ o.conn = (g.player id).conn := by
  rcases g.handle_command_output player cmd randomNum with ⟨text, -, same⟩ | ⟨-, h, mine, theirs, struck, same⟩
  · exact ⟨_, by rw [same]; rfl, fun o member => ⟨player, .inl rfl, by rw [List.mem_singleton.mp member]; rfl⟩⟩
  · have current := (seated_by_turn g.room _).mpr (.inl rfl)
    have opponent := (seated_by_turn g.room _).mpr (.inr rfl)
    refine ⟨_, by rw [same, h.end_command_output _ _ (by rwa [struck.room]), struck.output, List.append_assoc,
      List.append_assoc], fun o member => ?_⟩
    simp only [List.mem_append, List.mem_cons, List.not_mem_nil, or_false] at member
    rcases member with (rfl | rfl) | (rfl | rfl) | closing
    · exact ⟨_, .inr current, rfl⟩
    · exact ⟨_, .inr opponent, rfl⟩
    · exact ⟨_, .inr current, struck.conn _⟩
    · exact ⟨_, .inr opponent, struck.conn _⟩
    · rcases h.closing_conns o closing with there | there
      · exact ⟨_, .inr (.inl rfl), by rw [there, struck.room, struck.conn]⟩
      · exact ⟨_, .inr (.inr rfl), by rw [there, struck.room, struck.conn]⟩

variable [DecidableEq κ]

-- Who does not sit in the room hears nothing of a command, if not an answer that
-- tells him nothing.
theorem command_unheard (g : Game κ) (player : PlayerId) (cmd : UInt8) (randomNum : RandomNum) (conn : κ)
    (distinct : g.room.p1 ≠ g.room.p2) (first : (g.player g.room.p1).conn ≠ conn)
    (second : (g.player g.room.p2).conn ≠ conn) :
    after conn (g.handleCommand player cmd randomNum).2.output = after conn g.output := by
  rcases handle_command_output g player cmd randomNum with ⟨text, neutral, same⟩ | ⟨-, h, mine, theirs, struck, same⟩
  · rw [same, send, after_append, List.foldl_cons, List.foldl_nil, hear_neutral _ _ _ _ neutral]
  · have turns : (h.player g.room.currentPlayer).conn ≠ conn ∧ (h.player g.room.opponentPlayer).conn ≠ conn := by
      rw [struck.conn, struck.conn]
      rcases current_and_opponent g.room with ⟨current, opponent⟩ | ⟨current, opponent⟩
      · rw [current, opponent]
        exact ⟨first, second⟩
      · rw [current, opponent]
        exact ⟨second, first⟩
    have closed : ∀ o ∈ h.closing, o.conn ≠ conn := by
      intro o member
      rcases h.closing_conns o member with there | there
      · rwa [there, struck.room, struck.conn]
      · rwa [there, struck.room, struck.conn]
    rw [same, end_command_output h _ _ (by rwa [struck.room]), after_append, after_append, struck.output, after_append,
      hear_neutrals _ _ _ _ _ _ struck.heard, List.foldl_cons, List.foldl_cons, List.foldl_nil,
      hear_elsewhere _ _ _ _ turns.1, hear_elsewhere _ _ _ _ turns.2, hear_others conn _ _ closed]

end Game

namespace Lobby

variable [DecidableEq κ]

-- What has been heard by those who have not come, by one who waits, and by those
-- who play.
structure Shown (s : GameServer κ) (arrived : List κ) : Prop where
  unused : ∀ conn, conn ∉ arrived → after conn s.output = blank
  waiting : ∀ (p : Nat) conn, arrived[p]? = some conn → arrived.length / 2 ≤ p / 2 → after conn s.output = blank
  playing : ∀ (p : Nat) conn, arrived[p]? = some conn → p / 2 < arrived.length / 2 →
    Game.Follows (s.game (p / 2)) p (after conn s.output)

-- A step that tells nobody anything.
theorem shown_silent (s t : GameServer κ) (arrived : List κ) (shown : Shown s arrived)
    (silent : ∀ conn, after conn t.output = after conn s.output) (hosts : s.Hosts arrived)
    (kept : ∀ r : Nat, r < arrived.length / 2 → Game.Agrees (s.game r) (t.game r)) : Shown t arrived := by
  obtain ⟨unused, waiting, playing⟩ := shown
  refine ⟨fun conn new => ?_, fun p conn there alone => ?_, fun p conn there below => ?_⟩
  · rw [silent]
    exact unused conn new
  · rw [silent]
    exact waiting p conn there alone
  · rw [silent]
    exact (playing p conn there below).agrees (kept _ below) ((hosts.seated_iff s arrived _ p below).mpr rfl)

theorem waits_silent (s : GameServer κ) (conn other : κ) (nobody : s.waitingPlayer = none) :
    after other (s.onConnection conn true).output = after other s.output := by
  rw [s.on_connection_waits conn nobody]
  exact (after_append other _ _).trans (hear_neutral _ _ _ _ (Quiet.neutral (by decide)))

theorem pairs_silent (s t : GameServer κ) (conn other : κ) (p : PlayerId) (paired : s.Paired t conn p) :
    after other t.output = after other s.output := by
  have begun : Neutral "Game start\n" := Quiet.neutral (by decide)
  rw [paired.output, Game.start]
  generalize same : rule = text
  have rules : Neutral text := same ▸ Game.rule_neutral
  generalize "Game start\n" = first at begun ⊢
  simp only [Game.send, after_append, List.foldl_cons, List.foldl_nil, hear_neutral _ _ _ _ begun,
    hear_neutral _ _ _ _ rules]

-- An arrival: he has heard nothing yet, nor has the one he is paired with.
theorem shown_arrival (s t : GameServer κ) (arrived : List κ) (conn : κ) (shown : Shown s arrived) (hosts : s.Hosts arrived)
    (grownHosts : t.Hosts (arrived ++ [conn])) (new : conn ∉ arrived)
    (silent : ∀ other, after other t.output = after other s.output)
    (kept : ∀ r : Nat, r < arrived.length / 2 → Game.Agrees (s.game r) (t.game r))
    (begins : ∀ r : Nat, arrived.length / 2 ≤ r → (arrived ++ [conn]).length / 2 ≤ r ∨
      ∃ g, GameServer.Begins r g ∧ Game.Agrees g (t.game r)) : Shown t (arrived ++ [conn]) := by
  have heard : ∀ (p : Nat) c, (arrived ++ [conn])[p]? = some c → arrived.length / 2 ≤ p / 2 → after c t.output = blank := by
    intro p c there early
    rw [silent]
    rcases Nat.lt_or_ge p arrived.length with old | late
    · rw [List.getElem?_append_left old] at there
      exact shown.waiting p c there early
    · rw [List.getElem?_append_right late, List.getElem?_singleton, Option.ite_none_right_eq_some] at there
      rw [← Option.some.inj there.2]
      exact shown.unused conn new
  have grown : arrived.length / 2 ≤ (arrived ++ [conn]).length / 2 := by
    rw [List.length_append]
    exact Nat.div_le_div_right (Nat.le_add_right _ _)
  refine ⟨fun c stranger => ?_, fun p c there alone => heard p c there (Nat.le_trans grown alone), fun p c there below => ?_⟩
  · rw [silent]
    exact shown.unused c fun known => stranger (List.mem_append_left _ known)
  · rcases Nat.lt_or_ge (p / 2) (arrived.length / 2) with old | late
    · have came : p < arrived.length := by omega
      rw [List.getElem?_append_left came] at there
      rw [silent]
      exact (shown.playing p c there old).agrees (kept _ old) ((hosts.seated_iff s arrived _ p old).mpr rfl)
    · rw [heard p c there late]
      rcases begins _ late with still | ⟨g, begins, agrees⟩
      · exact absurd below (Nat.not_lt.mpr still)
      · have seated : Game.Seated g.room p := by
          rw [← agrees.room]
          exact (grownHosts.seated_iff t _ (p / 2) p below).mpr rfl
        exact (Game.blank_follows _ g p begins seated).agrees agrees seated

-- A command is heard in its own room, where the screens follow it.
theorem shown_command (s t : GameServer κ) (arrived : List κ) (room : Nat) (player : PlayerId) (cmd : UInt8)
    (randomNum : RandomNum) (shown : Shown s arrived) (hosts : s.Hosts arrived) (below : room < arrived.length / 2)
    (here : Game.Agrees ((s.game room).handleCommand player cmd randomNum).2 (t.game room))
    (elsewhere : ∀ r : Nat, r ≠ room → r < arrived.length / 2 → Game.Agrees (s.game r) (t.game r))
    (output : t.output = ((s.game room).handleCommand player cmd randomNum).2.output) : Shown t arrived := by
  have inv := hosts.games room below
  obtain ⟨first, second⟩ := hosts.seats room below
  have firstCame : (s.room room).p1 < arrived.length := hosts.seated_came s arrived room _ below (.inl rfl)
  have secondCame : (s.room room).p2 < arrived.length := hosts.seated_came s arrived room _ below (.inr rfl)
  have unheard : ∀ conn, (s.player (s.room room).p1).conn ≠ conn → (s.player (s.room room).p2).conn ≠ conn →
      after conn t.output = after conn s.output := fun conn notFirst notSecond => by
    rw [output]
    exact Game.command_unheard (s.game room) player cmd randomNum conn inv.distinct notFirst notSecond
  have outside : ∀ (p : Nat) conn, arrived[p]? = some conn → p / 2 ≠ room → after conn t.output = after conn s.output := by
    intro p conn there other
    refine unheard conn (hosts.names_apart s arrived p _ conn there firstCame ?_)
      (hosts.names_apart s arrived p _ conn there secondCame ?_)
    · rw [first]
      rintro rfl
      exact other (by omega)
    · rw [second]
      rintro rfl
      exact other (by omega)
  refine ⟨fun conn new => ?_, fun p conn there alone => ?_, fun p conn there playing => ?_⟩
  · have stranger : ∀ q : Nat, q < arrived.length → (s.player q).conn ≠ conn := by
      rintro q came rfl
      rw [(hosts.named q arrived[q] (List.getElem?_eq_getElem came)).2] at new
      exact new (List.getElem_mem came)
    rw [unheard conn (stranger _ firstCame) (stranger _ secondCame)]
    exact shown.unused conn new
  · rw [outside p conn there (Nat.ne_of_gt (Nat.lt_of_lt_of_le below alone))]
    exact shown.waiting p conn there alone
  · have follows := shown.playing p conn there playing
    by_cases same : p / 2 = room
    · subst same
      have seated := (hosts.seated_iff s arrived (p / 2) p below).mpr rfl
      have distinct : (s.player (s.room (p / 2)).p1).conn ≠ (s.player (s.room (p / 2)).p2).conn := by
        have named := (hosts.named _ arrived[(s.room (p / 2)).p2] (List.getElem?_eq_getElem secondCame)).2
        rw [named]
        exact hosts.names_apart s arrived _ _ _ (List.getElem?_eq_getElem secondCame) firstCame inv.distinct
      obtain ⟨-, named⟩ := hosts.named p conn there
      rw [← named] at follows ⊢
      have followed := Game.command_followed (s.game (p / 2)) player p cmd randomNum inv distinct seated follows
      have seats := Game.handle_command_seats (s.game (p / 2)) player cmd randomNum inv.distinct
      rw [output]
      refine followed.agrees here ?_
      rwa [Game.Seated, seats.p1, seats.p2]
    · rw [outside p conn there same]
      exact follows.agrees (elsewhere _ same playing) ((hosts.seated_iff s arrived (p / 2) p playing).mpr rfl)

theorem does_shown (s t : GameServer κ) (label : LobbyLabel κ) (handed : Option (RoomId × Command)) (arrived : List κ)
    (hosts : s.Hosts arrived) (new : ∀ conn, label = .up conn → conn ∉ arrived) (shown : Shown s arrived)
    (does : Does s t label handed) : Shown t (arrived ++ (arrival label).toList) := by
  obtain ⟨nextHosts, -, begins⟩ := does_plays s t label handed arrived hosts new does
  cases does with
  | waits conn nobody same =>
      subst same
      obtain ⟨-, kept⟩ := hosts.waits s arrived conn (new conn rfl) nobody
      exact shown_arrival s _ arrived conn shown hosts nextHosts (new conn rfl)
        (fun other => waits_silent s conn other nobody) kept fun r beyond => (begins r beyond).2
  | pairs conn p waits paired =>
      obtain ⟨-, kept, -⟩ := hosts.pairs s t arrived conn p (new conn rfl) waits paired
      exact shown_arrival s t arrived conn shown hosts nextHosts (new conn rfl)
        (fun other => pairs_silent s t conn other p paired) kept fun r beyond => (begins r beyond).2
  | leaves conn same =>
      subst same
      simpa only [arrival, Option.toList, List.append_nil] using shown
  | unheard conn result randomNum said answer same =>
      simp only [arrival, Option.toList, List.append_nil]
      refine shown_silent s t arrived shown (fun other => ?_) hosts fun r _ => ?_
      · rw [same]
        rcases answer with rfl | ⟨-, rfl⟩
        · exact congrArg (after other) (List.append_nil _)
        · exact (after_append other _ _).trans (hear_neutral _ _ _ _ (Quiet.neutral (by decide)))
      · rw [same]
        exact ⟨rfl, fun _ _ => rfl⟩
  | plays conn result randomNum player room cmd mapped assigned member plays =>
      obtain ⟨-, below, here⟩ := hosts.plays s t arrived room player cmd randomNum member plays
      simp only [arrival, Option.toList, List.append_nil]
      exact shown_command s t arrived room player cmd randomNum shown hosts below here
        (fun r other there => hosts.elsewhere s t arrived room player cmd randomNum below plays r other there) plays.output

structure Showing (s : Lobby κ) (arrived : List κ) : Prop where
  hosting : Hosting s arrived
  shown : Shown s.server arrived

theorem step_showing (s t : Lobby κ) (label : LobbyLabel κ) (arrived : List κ) (showing : Showing s arrived)
    (taken : s.step label = some t) : Showing t (arrived ++ (arrival label).toList) := by
  obtain ⟨hosting, shown⟩ := showing
  have does := step_does s t label hosting.inv hosting.readable taken
  have new := arrival_new s t label arrived hosting taken
  exact ⟨(step_hosting s t label arrived hosting taken).1,
    does_shown s.server t.server label _ arrived hosting.hosts new shown does⟩

theorem new_showing (player : PlayerId → Player κ) (room : RoomId → GameRoom) : Showing (new player room) [] :=
  ⟨new_hosting player room, fun _ _ => rfl, fun p conn there => (by cases there), fun p conn there => (by cases there)⟩

theorem run_showing (labels : List (LobbyLabel κ)) (s final : Lobby κ) (arrived : List κ) (showing : Showing s arrived)
    (ran : run step s labels = some final) : Showing final (arrived ++ labels.filterMap arrival) :=
  guarded_history step (fun _ _ => True) arrival Showing
    (fun s label t arrived showing _ taken => step_showing s t label arrived showing taken) s final labels arrived
    showing (guarded_trivial _ _ _ _ fun _ _ => trivial) ran

end Lobby

-- However many games are played at once, each player's screen follows his own, and
-- that of whoever does not play shows no status, no turn and no verdict.
theorem lobby_screens [DecidableEq κ] (player : PlayerId → Player κ) (room : RoomId → GameRoom)
    (labels : List (LobbyLabel κ)) (final : Lobby κ) (ran : run Lobby.step (.new player room) labels = some final) :
    let arrived := labels.filterMap Lobby.arrival
    (∀ (p : Nat) conn, arrived[p]? = some conn → p / 2 < arrived.length / 2 →
      Game.Follows (final.server.game (p / 2)) p (Screen.after conn final.server.output)) ∧
    (∀ (p : Nat) conn, arrived[p]? = some conn → ¬p / 2 < arrived.length / 2 →
      Screen.after conn final.server.output = .blank) ∧
    ∀ conn, conn ∉ arrived → Screen.after conn final.server.output = .blank := by
  have showing := Lobby.run_showing labels _ final [] (Lobby.new_showing player room) ran
  rw [List.nil_append] at showing
  exact ⟨showing.shown.playing, fun p conn there alone => showing.shown.waiting p conn there (Nat.not_lt.mp alone),
    showing.shown.unused⟩

-- In the second of two games his opponent has just hit him with magic.
theorem lobby_screens_four :
    ∃ final, run Lobby.step (.new (fun _ => .new 0 0) fun _ => .new 0 0) fourMeet = some final ∧
      (final.server.player 3).hp = 130 ∧ (final.server.room 1).currentTurn = 1 ∧
      Game.Follows (final.server.game 1) 3 (Screen.after 5 final.server.output) := by
  have facts : (run Lobby.step (.new (fun _ => .new 0 0) fun _ => .new 0 0) fourMeet).map (fun s =>
      ((s.server.player 3).hp, (s.server.room 1).currentTurn)) = some (130, 1) := by decide +kernel
  obtain ⟨final, ran, both⟩ := Option.map_eq_some_iff.mp facts
  obtain ⟨hp, turn⟩ := Prod.mk.inj both
  exact ⟨final, ran, hp, turn, (lobby_screens _ _ fourMeet final ran).1 3 5 rfl (by decide)⟩

end Cmuduo.Example
