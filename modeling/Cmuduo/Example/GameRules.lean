import Cmuduo.Example.GameRoom
import Cmuduo.Lib.Machine

set_option autoImplicit false

namespace Cmuduo.Example

open Machine

structure Command where
  player : PlayerId
  cmd : UInt8
  randomNum : RandomNum

namespace Game

variable {κ : Type}

-- What an accepted command does to the player whose turn it is and to the
-- other one.
inductive Effect : UInt8 → Player κ → Player κ → Player κ → Player κ → Prop where
  | normalAttack (self enemy : Player κ) (damage : Int) (low : 20 ≤ damage) (high : damage ≤ 50) :
      Effect 'a'.toUInt8 self enemy self (hit enemy damage)
  | magicAttack (self enemy : Player κ) (damage : Int) (enough : 50 ≤ self.mp) (low : 40 ≤ damage) (high : damage ≤ 70) :
      Effect 'b'.toUInt8 self enemy { self with mp := self.mp - 50 } (hit enemy damage)
  | hpPotion (self enemy : Player κ) (left : 0 < self.potion.hpPotion) :
      Effect 'h'.toUInt8 self enemy
        { self with
          potion := { self.potion with hpPotion := self.potion.hpPotion - 1 }
          hp := min 200 (self.hp + hpPotionEffect) } enemy
  | mpPotion (self enemy : Player κ) (left : 0 < self.potion.mpPotion) :
      Effect 'm'.toUInt8 self enemy
        { self with
          potion := { self.potion with mpPotion := self.potion.mpPotion - 1 }
          mp := min 100 (self.mp + mpPotionEffect) } enemy

def Rejects (g : Game κ) (player : PlayerId) (cmd : UInt8) : Prop :=
  g.room.finished = true ∨ player ≠ g.room.currentPlayer ∨
    (cmd ≠ 'a'.toUInt8 ∧ cmd ≠ 'b'.toUInt8 ∧ cmd ≠ 'h'.toUInt8 ∧ cmd ≠ 'm'.toUInt8) ∨
    (cmd = 'b'.toUInt8 ∧ (g.player g.room.currentPlayer).mp < 50) ∨
    (cmd = 'h'.toUInt8 ∧ (g.player g.room.currentPlayer).potion.hpPotion ≤ 0) ∨
    (cmd = 'm'.toUInt8 ∧ (g.player g.room.currentPlayer).potion.mpPotion ≤ 0)

-- A command is turned away with no more than a message.
structure Rejected (g : Game κ) (player : PlayerId) (cmd : UInt8) (result : Bool × Game κ) : Prop where
  why : g.Rejects player cmd
  returned : result.1 = g.room.finished
  room : result.2.room = g.room
  players : result.2.player = g.player

-- It takes effect, and then either ends the game or passes the turn on.
structure Accepted (g : Game κ) (player : PlayerId) (cmd : UInt8) (result : Bool × Game κ)
    (nextSelf nextEnemy : Player κ) : Prop where
  effect : Effect cmd (g.player g.room.currentPlayer) (g.player g.room.opponentPlayer) nextSelf nextEnemy
  running : g.room.finished = false
  turn : player = g.room.currentPlayer
  returned : result.1 = decide (nextSelf.hp ≤ 0 ∨ nextEnemy.hp ≤ 0)
  room : result.2.room =
    if nextSelf.hp ≤ 0 ∨ nextEnemy.hp ≤ 0 then { g.room with finished := true }
    else { g.room with currentTurn := 1 - g.room.currentTurn }
  players : result.2.player =
    Function.update (Function.update g.player g.room.currentPlayer nextSelf) g.room.opponentPlayer nextEnemy

theorem current_and_opponent (room : GameRoom) :
    (room.currentPlayer = room.p1 ∧ room.opponentPlayer = room.p2) ∨
      (room.currentPlayer = room.p2 ∧ room.opponentPlayer = room.p1) := by
  by_cases first : room.currentTurn = 0 <;> simp [GameRoom.currentPlayer, GameRoom.opponentPlayer, first]

theorem opponent_different (room : GameRoom) (distinct : room.p1 ≠ room.p2) :
    room.opponentPlayer ≠ room.currentPlayer := by
  rcases current_and_opponent room with ⟨current, opponent⟩ | ⟨current, opponent⟩
  · rw [current, opponent]
    exact distinct.symm
  · rw [current, opponent]
    exact distinct

theorem end_command (g : Game κ) (self enemy : PlayerId) :
    (g.endCommand self enemy).1 = decide ((g.player g.room.p1).hp ≤ 0 ∨ (g.player g.room.p2).hp ≤ 0) ∧
    (g.endCommand self enemy).2.player = g.player ∧
    (g.endCommand self enemy).2.room =
      if (g.player g.room.p1).hp ≤ 0 ∨ (g.player g.room.p2).hp ≤ 0 then { g.room with finished := true }
      else { g.room with currentTurn := 1 - g.room.currentTurn } := by
  by_cases ended : (g.player g.room.p1).hp ≤ 0 ∨ (g.player g.room.p2).hp ≤ 0 <;>
    simp [endCommand, checkGameOver, send, shutdown, switchTurn, ended]

-- However the two players sit, the test of checkGameOver is about the one
-- whose turn it is and the other one.
theorem hp_of_both (g : Game κ) :
    (g.player g.room.p1).hp ≤ 0 ∨ (g.player g.room.p2).hp ≤ 0 ↔
      (g.player g.room.currentPlayer).hp ≤ 0 ∨ (g.player g.room.opponentPlayer).hp ≤ 0 := by
  rcases current_and_opponent g.room with ⟨current, opponent⟩ | ⟨current, opponent⟩
  · rw [current, opponent]
  · rw [current, opponent, or_comm]

theorem accepted_end (g h : Game κ) (player : PlayerId) (cmd : UInt8) (self enemy : Player κ)
    (distinct : g.room.p1 ≠ g.room.p2) (running : g.room.finished = false) (turn : player = g.room.currentPlayer)
    (effect : Effect cmd (g.player g.room.currentPlayer) (g.player g.room.opponentPlayer) self enemy)
    (room : h.room = g.room)
    (players : h.player =
      Function.update (Function.update g.player g.room.currentPlayer self) g.room.opponentPlayer enemy) :
    Accepted g player cmd (h.endCommand g.room.currentPlayer g.room.opponentPlayer) self enemy := by
  have different := opponent_different g.room distinct
  have ended : (h.player h.room.p1).hp ≤ 0 ∨ (h.player h.room.p2).hp ≤ 0 ↔ self.hp ≤ 0 ∨ enemy.hp ≤ 0 := by
    rw [hp_of_both, room, players, Function.update_self, Function.update_of_ne different.symm, Function.update_self]
  obtain ⟨returned, kept, after⟩ := end_command h g.room.currentPlayer g.room.opponentPlayer
  exact
    { effect := effect
      running := running
      turn := turn
      returned := by simp only [returned, ended]
      room := by rw [after, if_congr ended rfl rfl, room]
      players := kept.trans players }

theorem only_opponent (f : PlayerId → Player κ) (self opponent : PlayerId) (enemy : Player κ) :
    Function.update f opponent enemy = Function.update (Function.update f self (f self)) opponent enemy := by
  rw [Function.update_eq_self]

theorem only_current (f : PlayerId → Player κ) (current opponent : PlayerId) (self : Player κ)
    (different : opponent ≠ current) :
    Function.update f current self = Function.update (Function.update f current self) opponent (f opponent) := by
  rw [← Function.update_of_ne different self f, Function.update_eq_self]

theorem handle_command_cases (g : Game κ) (player : PlayerId) (cmd : UInt8) (randomNum : RandomNum)
    (distinct : g.room.p1 ≠ g.room.p2) :
    Rejected g player cmd (g.handleCommand player cmd randomNum) ∨
      ∃ self enemy, Accepted g player cmd (g.handleCommand player cmd randomNum) self enemy := by
  have different := opponent_different g.room distinct
  cases finished : g.room.finished with
  | true =>
      left
      rw [handleCommand, if_pos finished]
      exact ⟨.inl finished, finished.symm, rfl, rfl⟩
  | false =>
      have going : ¬g.room.finished = true := by rw [finished]; exact Bool.false_ne_true
      rw [handleCommand, if_neg going]
      by_cases turn : player = g.room.currentPlayer
      · rw [if_neg (not_not.mpr turn)]
        by_cases normal : cmd = 'a'.toUInt8
        · rw [if_pos normal, normal]
          obtain ⟨low, high⟩ := randomNum.inside 20 50 (by decide)
          exact .inr ⟨_, _, accepted_end g _ player _ _ _ distinct finished turn (.normalAttack _ _ _ low high) rfl
            (only_opponent _ _ _ _)⟩
        rw [if_neg normal]
        by_cases magic : cmd = 'b'.toUInt8
        · rw [if_pos magic, magic]
          by_cases short : (g.player g.room.currentPlayer).mp < 50
          · rw [if_pos short]
            exact .inl ⟨.inr (.inr (.inr (.inl ⟨rfl, short⟩))), finished.symm, rfl, rfl⟩
          · rw [if_neg short]
            obtain ⟨low, high⟩ := randomNum.inside 40 70 (by decide)
            refine .inr ⟨_, _, accepted_end g _ player _ _ _ distinct finished turn
              (.magicAttack _ _ _ (Int.not_lt.mp short) low high) rfl ?_⟩
            simp [modify, send, Function.update_of_ne different]
        rw [if_neg magic]
        by_cases hp : cmd = 'h'.toUInt8
        · rw [if_pos hp, hp]
          by_cases none : (g.player g.room.currentPlayer).potion.hpPotion ≤ 0
          · rw [if_pos none]
            exact .inl ⟨.inr (.inr (.inr (.inr (.inl ⟨rfl, none⟩)))), finished.symm, rfl, rfl⟩
          · rw [if_neg none]
            exact .inr ⟨_, _, accepted_end g _ player _ _ _ distinct finished turn (.hpPotion _ _ (Int.not_le.mp none)) rfl
              (only_current _ _ _ _ different)⟩
        rw [if_neg hp]
        by_cases mp : cmd = 'm'.toUInt8
        · rw [if_pos mp, mp]
          by_cases none : (g.player g.room.currentPlayer).potion.mpPotion ≤ 0
          · rw [if_pos none]
            exact .inl ⟨.inr (.inr (.inr (.inr (.inr ⟨rfl, none⟩)))), finished.symm, rfl, rfl⟩
          · rw [if_neg none]
            exact .inr ⟨_, _, accepted_end g _ player _ _ _ distinct finished turn (.mpPotion _ _ (Int.not_le.mp none)) rfl
              (only_current _ _ _ _ different)⟩
        rw [if_neg mp]
        exact .inl ⟨.inr (.inr (.inl ⟨normal, magic, hp, mp⟩)), finished.symm, rfl, rfl⟩
      · rw [if_pos turn]
        exact .inl ⟨.inr (.inl turn), finished.symm, rfl, rfl⟩

structure InBounds (p : Player κ) : Prop where
  hpLow : 0 ≤ p.hp
  hpHigh : p.hp ≤ 200
  mpLow : 0 ≤ p.mp
  mpHigh : p.mp ≤ 100
  hpPotion : p.potion.hpPotion = 0 ∨ p.potion.hpPotion = 1
  mpPotion : p.potion.mpPotion = 0 ∨ p.potion.mpPotion = 1

theorem effect_in_bounds (cmd : UInt8) (self enemy nextSelf nextEnemy : Player κ)
    (effect : Effect cmd self enemy nextSelf nextEnemy) (selfIn : InBounds self) (enemyIn : InBounds enemy)
    (alive : 0 < self.hp) : InBounds nextSelf ∧ InBounds nextEnemy ∧ 0 < nextSelf.hp := by
  obtain ⟨hpLow, hpHigh, mpLow, mpHigh, hpPotion, mpPotion⟩ := selfIn
  have hurt : ∀ damage, 20 ≤ damage → InBounds (hit enemy damage) := by
    intro damage low
    have hp := enemyIn.hpHigh
    exact ⟨Int.le_max_left _ _, by dsimp only [hit]; omega, enemyIn.mpLow, enemyIn.mpHigh, enemyIn.hpPotion, enemyIn.mpPotion⟩
  cases effect with
  | normalAttack _ _ damage low high => exact ⟨⟨hpLow, hpHigh, mpLow, mpHigh, hpPotion, mpPotion⟩, hurt damage low, alive⟩
  | magicAttack _ _ damage enough low high =>
      refine ⟨⟨hpLow, hpHigh, ?_, ?_, hpPotion, mpPotion⟩, hurt damage (Int.le_trans (by decide) low), alive⟩
      · dsimp only
        omega
      · dsimp only
        omega
  | hpPotion _ _ left =>
      unfold hpPotionEffect
      refine ⟨⟨?_, Int.min_le_left _ _, mpLow, mpHigh, ?_, mpPotion⟩, enemyIn, ?_⟩ <;> dsimp only <;> omega
  | mpPotion _ _ left =>
      unfold mpPotionEffect
      refine ⟨⟨hpLow, hpHigh, ?_, Int.min_le_left _ _, hpPotion, ?_⟩, enemyIn, alive⟩ <;> dsimp only <;> omega

def Seated (room : GameRoom) (id : PlayerId) : Prop := id = room.p1 ∨ id = room.p2

theorem seated_by_turn (room : GameRoom) (id : PlayerId) :
    Seated room id ↔ id = room.currentPlayer ∨ id = room.opponentPlayer := by
  rcases current_and_opponent room with ⟨current, opponent⟩ | ⟨current, opponent⟩
  · rw [current, opponent, Seated]
  · rw [current, opponent, Seated, or_comm]

structure Inv (g : Game κ) : Prop where
  distinct : g.room.p1 ≠ g.room.p2
  bounds : ∀ id, Seated g.room id → InBounds (g.player id)
  finished : g.room.finished = true ↔ ∃ id, Seated g.room id ∧ (g.player id).hp = 0
  alive : ∃ id, Seated g.room id ∧ 0 < (g.player id).hp

theorem rejected_inv (g : Game κ) (player : PlayerId) (cmd : UInt8) (result : Bool × Game κ) (inv : Inv g)
    (rejected : Rejected g player cmd result) : Inv result.2 := by
  obtain ⟨distinct, bounds, finished, alive⟩ := inv
  exact ⟨by rwa [rejected.room], by rwa [rejected.room, rejected.players], by rwa [rejected.room, rejected.players],
    by rwa [rejected.room, rejected.players]⟩

theorem accepted_seats (g : Game κ) (player : PlayerId) (cmd : UInt8) (result : Bool × Game κ) (self enemy : Player κ)
    (accepted : Accepted g player cmd result self enemy) :
    result.2.room.p1 = g.room.p1 ∧ result.2.room.p2 = g.room.p2 := by
  rw [accepted.room]
  by_cases ended : self.hp ≤ 0 ∨ enemy.hp ≤ 0 <;> simp [ended]

theorem accepted_inv (g : Game κ) (player : PlayerId) (cmd : UInt8) (result : Bool × Game κ) (self enemy : Player κ)
    (inv : Inv g) (accepted : Accepted g player cmd result self enemy) : Inv result.2 := by
  have different := opponent_different g.room inv.distinct
  have before : ∀ id, Seated g.room id → 0 < (g.player id).hp := by
    intro id seated
    have bounds := (inv.bounds id seated).hpLow
    have running : ¬∃ id, Seated g.room id ∧ (g.player id).hp = 0 := by
      rw [← inv.finished, accepted.running]
      exact Bool.false_ne_true
    have standing : (g.player id).hp ≠ 0 := fun zero => running ⟨id, seated, zero⟩
    omega
  have current : Seated g.room g.room.currentPlayer := (seated_by_turn _ _).mpr (.inl rfl)
  have opponent : Seated g.room g.room.opponentPlayer := (seated_by_turn _ _).mpr (.inr rfl)
  obtain ⟨selfIn, enemyIn, selfAlive⟩ := effect_in_bounds cmd _ _ self enemy accepted.effect (inv.bounds _ current)
    (inv.bounds _ opponent) (before _ current)
  obtain ⟨first, second⟩ := accepted_seats g player cmd result self enemy accepted
  have seats : ∀ id, Seated result.2.room id ↔ Seated g.room id := by
    intro id
    rw [Seated, first, second, Seated]
  have selfAfter : result.2.player g.room.currentPlayer = self := by
    rw [accepted.players, Function.update_of_ne different.symm, Function.update_self]
  have enemyAfter : result.2.player g.room.opponentPlayer = enemy := by
    rw [accepted.players, Function.update_self]
  refine ⟨by rw [first, second]; exact inv.distinct, ?_, ?_, ?_⟩
  · intro id seated
    rcases (seated_by_turn _ _).mp ((seats id).mp seated) with rfl | rfl
    · rw [selfAfter]
      exact selfIn
    · rw [enemyAfter]
      exact enemyIn
  · have ended : result.2.room.finished = true ↔ self.hp ≤ 0 ∨ enemy.hp ≤ 0 := by
      rw [accepted.room]
      by_cases ended : self.hp ≤ 0 ∨ enemy.hp ≤ 0 <;> simp [ended, accepted.running]
    rw [ended]
    constructor
    · rintro (low | low)
      · omega
      · have high := enemyIn.hpLow
        exact ⟨_, (seats _).mpr opponent, by rw [enemyAfter]; omega⟩
    · rintro ⟨id, seated, zero⟩
      rcases (seated_by_turn _ _).mp ((seats id).mp seated) with rfl | rfl
      · rw [selfAfter] at zero
        omega
      · rw [enemyAfter] at zero
        exact .inr (by omega)
  · exact ⟨_, (seats _).mpr current, by rw [selfAfter]; exact selfAlive⟩

theorem handle_command_inv (g : Game κ) (player : PlayerId) (cmd : UInt8) (randomNum : RandomNum) (inv : Inv g) :
    Inv (g.handleCommand player cmd randomNum).2 := by
  rcases handle_command_cases g player cmd randomNum inv.distinct with rejected | ⟨self, enemy, accepted⟩
  · exact rejected_inv g player cmd _ inv rejected
  · exact accepted_inv g player cmd _ self enemy inv accepted

-- What no command changes: who sits in the room, and whose connection each
-- player has.
structure SameSeats (g next : Game κ) : Prop where
  p1 : next.room.p1 = g.room.p1
  p2 : next.room.p2 = g.room.p2
  conn : ∀ id, (next.player id).conn = (g.player id).conn

theorem effect_conn (cmd : UInt8) (self enemy nextSelf nextEnemy : Player κ)
    (effect : Effect cmd self enemy nextSelf nextEnemy) : nextSelf.conn = self.conn ∧ nextEnemy.conn = enemy.conn := by
  cases effect <;> exact ⟨rfl, rfl⟩

theorem handle_command_seats (g : Game κ) (player : PlayerId) (cmd : UInt8) (randomNum : RandomNum)
    (distinct : g.room.p1 ≠ g.room.p2) : SameSeats g (g.handleCommand player cmd randomNum).2 := by
  rcases handle_command_cases g player cmd randomNum distinct with rejected | ⟨self, enemy, accepted⟩
  · exact ⟨by rw [rejected.room], by rw [rejected.room], by simp [rejected.players]⟩
  · obtain ⟨first, second⟩ := accepted_seats g player cmd _ self enemy accepted
    obtain ⟨selfConn, enemyConn⟩ := effect_conn cmd _ _ self enemy accepted.effect
    refine ⟨first, second, fun id => ?_⟩
    rw [accepted.players]
    by_cases opponent : id = g.room.opponentPlayer
    · rw [opponent, Function.update_self, enemyConn]
    · rw [Function.update_of_ne opponent]
      by_cases current : id = g.room.currentPlayer
      · rw [current, Function.update_self, selfConn]
      · rw [Function.update_of_ne current]

def Fresh (p : Player κ) : Prop := p.hp = 200 ∧ p.mp = 100 ∧ p.potion = ⟨1, 1⟩

def started (p1 p2 : PlayerId) (player : PlayerId → Player κ) : Game κ := start ⟨.new p1 p2, player, []⟩

theorem fresh_in_bounds (p : Player κ) (fresh : Fresh p) : InBounds p ∧ 0 < p.hp := by
  obtain ⟨hp, mp, potion⟩ := fresh
  refine ⟨⟨?_, ?_, ?_, ?_, ?_, ?_⟩, ?_⟩ <;> simp [hp, mp, potion]

theorem started_inv (p1 p2 : PlayerId) (player : PlayerId → Player κ) (distinct : p1 ≠ p2) (fresh1 : Fresh (player p1))
    (fresh2 : Fresh (player p2)) : Inv (started p1 p2 player) := by
  have fresh : ∀ id, Seated (started p1 p2 player).room id → Fresh (player id) := by
    rintro id (rfl | rfl)
    · exact fresh1
    · exact fresh2
  refine ⟨distinct, fun id seated => (fresh_in_bounds _ (fresh id seated)).1, ?_, p1, .inl rfl, (fresh_in_bounds _ fresh1).2⟩
  refine iff_of_false Bool.false_ne_true ?_
  rintro ⟨id, seated, zero⟩
  have standing := (fresh_in_bounds _ (fresh id seated)).2
  change (player id).hp = 0 at zero
  omega

def step (g : Game κ) (command : Command) : Option (Game κ) :=
  some (g.handleCommand command.player command.cmd command.randomNum).2

theorem run_seats (p1 p2 : PlayerId) (commands : List Command) (s g : Game κ) (inv : Inv s)
    (seats : s.room.p1 = p1 ∧ s.room.p2 = p2) (ran : run step s commands = some g) :
    Inv g ∧ g.room.p1 = p1 ∧ g.room.p2 = p2 := by
  refine invariant step (fun g => Inv g ∧ g.room.p1 = p1 ∧ g.room.p2 = p2) ?_ s g commands ⟨inv, seats⟩ ran
  rintro g command t ⟨inv, first, second⟩ taken
  cases taken
  have same := handle_command_seats g command.player command.cmd command.randomNum inv.distinct
  exact ⟨handle_command_inv g _ _ _ inv, same.p1.trans first, same.p2.trans second⟩

theorem effect_allowed (cmd : UInt8) (self enemy nextSelf nextEnemy : Player κ)
    (effect : Effect cmd self enemy nextSelf nextEnemy) :
    (cmd = 'a'.toUInt8 ∨ cmd = 'b'.toUInt8 ∨ cmd = 'h'.toUInt8 ∨ cmd = 'm'.toUInt8) ∧
      (cmd = 'b'.toUInt8 → 50 ≤ self.mp) ∧ (cmd = 'h'.toUInt8 → 0 < self.potion.hpPotion) ∧
      (cmd = 'm'.toUInt8 → 0 < self.potion.mpPotion) := by
  cases effect with
  | normalAttack _ _ damage low high =>
      exact ⟨.inl rfl, fun b => absurd b (by decide), fun h => absurd h (by decide), fun m => absurd m (by decide)⟩
  | magicAttack _ _ damage enough low high =>
      exact ⟨.inr (.inl rfl), fun _ => enough, fun h => absurd h (by decide), fun m => absurd m (by decide)⟩
  | hpPotion _ _ left =>
      exact ⟨.inr (.inr (.inl rfl)), fun b => absurd b (by decide), fun _ => left, fun m => absurd m (by decide)⟩
  | mpPotion _ _ left =>
      exact ⟨.inr (.inr (.inr rfl)), fun b => absurd b (by decide), fun h => absurd h (by decide), fun _ => left⟩

theorem accepted_not_rejects (g : Game κ) (player : PlayerId) (cmd : UInt8) (result : Bool × Game κ)
    (self enemy : Player κ) (accepted : Accepted g player cmd result self enemy) : ¬g.Rejects player cmd := by
  obtain ⟨known, magic, hp, mp⟩ := effect_allowed cmd _ _ self enemy accepted.effect
  rintro (finished | other | ⟨normal, notMagic, notHp, notMp⟩ | ⟨b, short⟩ | ⟨h, none⟩ | ⟨m, none⟩)
  · rw [accepted.running] at finished
    cases finished
  · exact other accepted.turn
  · rcases known with same | same | same | same
    · exact normal same
    · exact notMagic same
    · exact notHp same
    · exact notMp same
  · exact absurd (magic b) (Int.not_le.mpr short)
  · exact absurd (hp h) (Int.not_lt.mpr none)
  · exact absurd (mp m) (Int.not_lt.mpr none)

theorem handle_command_result (g : Game κ) (player : PlayerId) (cmd : UInt8) (randomNum : RandomNum) (inv : Inv g) :
    let result := g.handleCommand player cmd randomNum
    (g.Rejects player cmd → result.2.player = g.player ∧ result.2.room = g.room) ∧
    (¬g.Rejects player cmd →
      result.2.room.currentTurn =
        if result.2.room.finished = true then g.room.currentTurn else 1 - g.room.currentTurn) ∧
    (result.1 = true ↔ result.2.room.finished = true) := by
  dsimp only
  rcases handle_command_cases g player cmd randomNum inv.distinct with rejected | ⟨self, enemy, accepted⟩
  · exact ⟨fun _ => ⟨rejected.players, rejected.room⟩, fun allowed => absurd rejected.why allowed,
      by rw [rejected.returned, rejected.room]⟩
  · refine ⟨fun rejects => absurd rejects (accepted_not_rejects g player cmd _ self enemy accepted), fun _ => ?_, ?_⟩
    · rw [accepted.room]
      by_cases ended : self.hp ≤ 0 ∨ enemy.hp ≤ 0 <;> simp [ended, accepted.running]
    · rw [accepted.returned, accepted.room]
      by_cases ended : self.hp ≤ 0 ∨ enemy.hp ≤ 0 <;> simp [ended, accepted.running]

end Game

theorem game_rules_invariant {κ : Type} (p1 p2 : PlayerId) (player : PlayerId → Player κ) (commands : List Command)
    (g : Game κ) (distinct : p1 ≠ p2) (fresh1 : Game.Fresh (player p1)) (fresh2 : Game.Fresh (player p2))
    (ran : run Game.step (Game.started p1 p2 player) commands = some g) :
    (∀ id, id = p1 ∨ id = p2 → Game.InBounds (g.player id)) ∧
    (g.room.finished = true ↔ (g.player p1).hp = 0 ∨ (g.player p2).hp = 0) ∧
    ¬((g.player p1).hp = 0 ∧ (g.player p2).hp = 0) ∧
    ∀ id cmd randomNum,
      let result := g.handleCommand id cmd randomNum
      (g.Rejects id cmd → result.2.player = g.player ∧ result.2.room = g.room) ∧
      (¬g.Rejects id cmd →
        result.2.room.currentTurn =
          if result.2.room.finished = true then g.room.currentTurn else 1 - g.room.currentTurn) ∧
      (result.1 = true ↔ result.2.room.finished = true) := by
  obtain ⟨inv, rfl, rfl⟩ := Game.run_seats p1 p2 commands _ g
    (Game.started_inv p1 p2 player distinct fresh1 fresh2) ⟨rfl, rfl⟩ ran
  refine ⟨inv.bounds, ?_, ?_, fun id cmd randomNum => g.handle_command_result id cmd randomNum inv⟩
  · rw [inv.finished]
    simp [Game.Seated]
  · rintro ⟨first, second⟩
    obtain ⟨id, rfl | rfl, standing⟩ := inv.alive
    · omega
    · omega

-- A duel that the first player wins, with potions drunk on both sides and two
-- commands turned away.
def fixedDamage : RandomNum := ⟨fun _ high => high, fun _ _ ordered => ⟨ordered, Int.le_refl _⟩⟩

def duel : List Command :=
  [⟨0, 98, fixedDamage⟩, ⟨1, 104, fixedDamage⟩, ⟨0, 98, fixedDamage⟩, ⟨1, 97, fixedDamage⟩, ⟨0, 98, fixedDamage⟩,
    ⟨0, 109, fixedDamage⟩, ⟨1, 120, fixedDamage⟩, ⟨1, 97, fixedDamage⟩, ⟨0, 98, fixedDamage⟩, ⟨1, 97, fixedDamage⟩,
    ⟨0, 97, fixedDamage⟩, ⟨1, 109, fixedDamage⟩, ⟨0, 97, fixedDamage⟩]

theorem game_rules_invariant_duel :
    ∃ g, run Game.step (Game.started 0 1 fun id => Player.new id id) duel = some g ∧
      ((g.player 0).hp = 0 ∨ (g.player 1).hp = 0) := by
  have ended : (run Game.step (Game.started 0 1 fun id => Player.new id id) duel).map (fun g => g.room.finished) =
      some true := by decide +kernel
  obtain ⟨g, ran, finished⟩ := Option.map_eq_some_iff.mp ended
  exact ⟨g, ran, (game_rules_invariant 0 1 _ duel g (by decide) ⟨rfl, rfl, rfl⟩ ⟨rfl, rfl, rfl⟩ ran).2.1.mp finished⟩

end Cmuduo.Example
