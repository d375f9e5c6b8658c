import Cmuduo.Example.GameRules

set_option autoImplicit false

namespace Cmuduo.Example

open Machine

namespace Game

variable {κ : Type}

instance (g : Game κ) (player : PlayerId) (cmd : UInt8) : Decidable (g.Rejects player cmd) := by
  unfold Rejects
  infer_instance

def accepts (g : Game κ) (command : Command) (_ : Game κ) : List Command :=
  if g.Rejects command.player command.cmd then [] else [command]

-- The commands of a run that are accepted.
def accepted (g : Game κ) (commands : List Command) : List Command := outputs step accepts g commands

-- How many commands a player can still lead to: the hits of 20 points that he
-- can take, potion included, and his own potions. Drinking pays with a potion,
-- and the clamp at 200 points never gives more than the 100 it is counted for.
def budget (p : Player κ) : Int := (p.hp + 100 * p.potion.hpPotion + 19) / 20 + p.potion.hpPotion + p.potion.mpPotion

-- The last command has its own place in the sum of both budgets, which is at
-- least 2 while both players stand.
def movesLeft (g : Game κ) : Nat :=
  if g.room.finished then 0 else (budget (g.player g.room.p1) + budget (g.player g.room.p2) - 1).toNat

theorem fresh_budget (p : Player κ) (fresh : Fresh p) : budget p = 17 := by
  obtain ⟨hp, mp, potion⟩ := fresh
  rw [budget, hp, potion]
  rfl

theorem budget_standing (p : Player κ) (bounds : InBounds p) (standing : 0 < p.hp) : 1 ≤ budget p := by
  have hpPotion := bounds.hpPotion
  have mpPotion := bounds.mpPotion
  unfold budget
  omega

theorem budget_hit (p : Player κ) (damage : Int) (standing : 0 < p.hp) (low : 20 ≤ damage) :
    budget (hit p damage) + 1 ≤ budget p := by
  unfold budget hit
  dsimp only
  omega

-- Each of the four kinds of command is paid for by one of the players.
theorem effect_pays (cmd : UInt8) (self enemy nextSelf nextEnemy : Player κ)
    (effect : Effect cmd self enemy nextSelf nextEnemy) (standing : 0 < enemy.hp) :
    budget nextSelf + budget nextEnemy + 1 ≤ budget self + budget enemy := by
  cases effect with
  | normalAttack _ _ damage low high =>
      have hurt := budget_hit enemy damage standing low
      omega
  | magicAttack _ _ damage enough low high =>
      have hurt := budget_hit enemy damage standing (Int.le_trans (by decide) low)
      have same : budget { self with mp := self.mp - 50 } = budget self := rfl
      omega
  | hpPotion _ _ left =>
      unfold budget hpPotionEffect
      dsimp only
      omega
  | mpPotion _ _ left =>
      unfold budget
      dsimp only
      omega

theorem budgets_by_turn (g : Game κ) (f : PlayerId → Player κ) :
    budget (f g.room.p1) + budget (f g.room.p2) =
      budget (f g.room.currentPlayer) + budget (f g.room.opponentPlayer) := by
  rcases current_and_opponent g.room with ⟨current, opponent⟩ | ⟨current, opponent⟩
  · rw [current, opponent]
  · rw [current, opponent, Int.add_comm]

theorem both_standing (g : Game κ) (inv : Inv g) (running : g.room.finished = false) (id : PlayerId)
    (seated : Seated g.room id) : 0 < (g.player id).hp := by
  have low := (inv.bounds id seated).hpLow
  have standing : (g.player id).hp ≠ 0 := by
    intro zero
    rw [inv.finished.mpr ⟨id, seated, zero⟩] at running
    cases running
  omega

theorem moves_left_running (g : Game κ) (inv : Inv g) (running : g.room.finished = false) :
    (g.movesLeft : Int) = budget (g.player g.room.p1) + budget (g.player g.room.p2) - 1 ∧ 1 ≤ g.movesLeft := by
  have first := budget_standing _ (inv.bounds _ (.inl rfl)) (both_standing g inv running _ (.inl rfl))
  have second := budget_standing _ (inv.bounds _ (.inr rfl)) (both_standing g inv running _ (.inr rfl))
  have left : g.movesLeft = (budget (g.player g.room.p1) + budget (g.player g.room.p2) - 1).toNat := by
    rw [movesLeft, running]
    rfl
  omega

theorem accepted_pays (g : Game κ) (player : PlayerId) (cmd : UInt8) (result : Bool × Game κ) (self enemy : Player κ)
    (inv : Inv g) (accepted : Accepted g player cmd result self enemy) : result.2.movesLeft + 1 ≤ g.movesLeft := by
  have after := accepted_inv g player cmd result self enemy inv accepted
  obtain ⟨before, some⟩ := moves_left_running g inv accepted.running
  cases ended : result.2.room.finished with
  | true =>
      rw [show result.2.movesLeft = 0 by rw [movesLeft, ended]; rfl]
      omega
  | false =>
      have different := opponent_different g.room inv.distinct
      have opponent := both_standing g inv accepted.running _ ((seated_by_turn _ _).mpr (.inr rfl))
      have paid := effect_pays cmd _ _ self enemy accepted.effect opponent
      have sum := budgets_by_turn g g.player
      have nextSum := budgets_by_turn g result.2.player
      rw [accepted.players, Function.update_of_ne different.symm, Function.update_self, Function.update_self,
        ← accepted.players] at nextSum
      obtain ⟨first, second⟩ := accepted_seats g player cmd result self enemy accepted
      have left := (moves_left_running result.2 after ended).1
      rw [first, second] at left
      omega

theorem step_pays (g next : Game κ) (command : Command) (inv : Inv g) (taken : g.step command = some next) :
    Inv next ∧ (accepts g command next).length + next.movesLeft ≤ g.movesLeft := by
  cases taken
  refine ⟨handle_command_inv g command.player command.cmd command.randomNum inv, ?_⟩
  rcases handle_command_cases g command.player command.cmd command.randomNum inv.distinct with
    rejected | ⟨self, enemy, accepted⟩
  · rw [accepts, if_pos rejected.why, movesLeft, rejected.room, rejected.players, ← movesLeft]
    exact Nat.le_of_eq (Nat.zero_add _)
  · have paid := accepted_pays g command.player command.cmd _ self enemy inv accepted
    rw [accepts, if_neg (accepted_not_rejects g command.player command.cmd _ self enemy accepted), List.length_singleton,
      Nat.add_comm]
    exact paid

theorem finished_stays (g next : Game κ) (command : Command) (ended : g.room.finished = true)
    (taken : g.step command = some next) : next.room.finished = true ∧ accepts g command next = [] := by
  cases taken
  rw [handleCommand, if_pos ended]
  exact ⟨ended, if_pos (.inl ended)⟩

theorem normal_attack_accepted (g : Game κ) (running : g.room.finished = false) :
    ¬g.Rejects g.room.currentPlayer 'a'.toUInt8 := by
  rintro (finished | other | ⟨unknown, -⟩ | ⟨magic, -⟩ | ⟨hp, -⟩ | ⟨mp, -⟩)
  · cases running.symm.trans finished
  · exact other rfl
  · exact unknown rfl
  · exact absurd magic (by decide)
  · exact absurd hp (by decide)
  · exact absurd mp (by decide)

theorem started_moves_left (p1 p2 : PlayerId) (player : PlayerId → Player κ) (fresh1 : Fresh (player p1))
    (fresh2 : Fresh (player p2)) : (started p1 p2 player).movesLeft = 33 := by
  change (if false = true then 0 else (budget (player p1) + budget (player p2) - 1).toNat) = 33
  rw [fresh_budget _ fresh1, fresh_budget _ fresh2]
  rfl

end Game

theorem every_game_ends {κ : Type} (p1 p2 : PlayerId) (player : PlayerId → Player κ) (commands : List Command)
    (g : Game κ) (distinct : p1 ≠ p2) (fresh1 : Game.Fresh (player p1)) (fresh2 : Game.Fresh (player p2))
    (ran : run Game.step (Game.started p1 p2 player) commands = some g) :
    ((Game.started p1 p2 player).accepted commands).length ≤ 33 ∧
    (((Game.started p1 p2 player).accepted commands).length = 33 → g.room.finished = true) ∧
    (g.room.finished = true → ∃ front last back middle next, commands = front ++ last :: back ∧
      run Game.step (Game.started p1 p2 player) front = some middle ∧ middle.step last = some next ∧
      (Game.started p1 p2 player).accepted commands = (Game.started p1 p2 player).accepted front ++ [last] ∧
      middle.room.finished = false ∧ next.room.finished = true) ∧
    (g.room.finished = false → ∃ cmd, ¬g.Rejects g.room.currentPlayer cmd) := by
  have start := Game.started_inv p1 p2 player distinct fresh1 fresh2
  have bound := outputs_bounded Game.step Game.accepts Game.Inv Game.movesLeft (fun g c t => g.step_pays t c) _ g commands
    start ran
  rw [Game.started_moves_left p1 p2 player fresh1 fresh2] at bound
  refine ⟨Nat.le_trans (Nat.le_add_right _ _) bound, fun all => ?_, fun ended => ?_, fun running =>
    ⟨_, g.normal_attack_accepted running⟩⟩
  · by_contra running
    have inv := (Game.run_seats p1 p2 commands _ g start ⟨rfl, rfl⟩ ran).1
    have left := (g.moves_left_running inv (by simpa using running)).2
    change ((Game.started p1 p2 player).accepted commands).length + g.movesLeft ≤ 33 at bound
    omega
  · obtain ⟨front, last, back, middle, next, rfl, reached, going, taken, closed, -⟩ :=
      run_reaches Game.step (fun g => g.room.finished = true) _ g commands Bool.false_ne_true ended ran
    have running : middle.room.finished = false := by simpa using going
    refine ⟨front, last, back, middle, next, rfl, reached, taken, ?_, running, closed⟩
    have silent := outputs_silent Game.step Game.accepts (fun g => g.room.finished = true)
      (fun g c t ended taken => g.finished_stays t c ended taken) next back closed
    have plays : ¬middle.Rejects last.player last.cmd := by
      intro rejects
      cases taken
      have inv := (Game.run_seats p1 p2 front _ middle start ⟨rfl, rfl⟩ reached).1
      have kept := ((middle.handle_command_result last.player last.cmd last.randomNum inv).1 rejects).2
      rw [kept, running] at closed
      cases closed
    rw [Game.accepted, outputs_append _ _ _ middle front _ reached, outputs_cons _ _ middle next last back taken, silent,
      Game.accepts, if_neg plays, List.append_nil, Game.accepted]

-- The longest game: every hit is of 20 points, both drink everything, and each
-- drinks the healing potion when 100 points are gone.
def leastDamage : RandomNum := ⟨fun low _ => low, fun _ _ ordered => ⟨Int.le_refl _, ordered⟩⟩

def bothPlay (cmd : UInt8) : List Command := [⟨0, cmd, leastDamage⟩, ⟨1, cmd, leastDamage⟩]

def longestGame : List Command :=
  ([97, 97, 97, 97, 97, 104, 109, 97, 97, 97, 97, 97, 97, 97, 97, 97] : List UInt8).flatMap bothPlay ++
    [⟨0, 97, leastDamage⟩]

theorem every_game_ends_longest :
    ∃ g, run Game.step (Game.started 0 1 fun id => Player.new id id) longestGame = some g ∧
      ((Game.started 0 1 fun id => Player.new id id).accepted longestGame).length = 33 ∧ g.room.finished = true := by
  have all : ((Game.started 0 1 fun id => Player.new id id).accepted longestGame).length = 33 := by decide +kernel
  have finished : (run Game.step (Game.started 0 1 fun id => Player.new id id) longestGame).isSome := by decide +kernel
  obtain ⟨g, ran⟩ := Option.isSome_iff_exists.mp finished
  exact ⟨g, ran, all,
    (every_game_ends 0 1 _ longestGame g (by decide) ⟨rfl, rfl, rfl⟩ ⟨rfl, rfl, rfl⟩ ran).2.1 all⟩

end Cmuduo.Example
