import Mathlib.Data.Int.Order.Basic
import Mathlib.Logic.Function.Basic

set_option autoImplicit false

namespace Cmuduo.Example

-- std::shared_ptr<Player> and std::shared_ptr<GameRoom> by the order in which
-- the objects were made.
abbrev PlayerId := Nat
abbrev RoomId := Nat

-- randomNum(begin, end), whatever the generator draws.
structure RandomNum where
  draw : Int → Int → Int
  inside : ∀ low high, low ≤ high → low ≤ draw low high ∧ draw low high ≤ high

def hpPotionEffect : Int := 100
def mpPotionEffect : Int := 100

def rule : String :=
  " \t 平台规则如下 \n" ++
  "玩家初始有200点生命值以及100点魔法值，当生命值为0时游戏结束，当魔法值为0时无法使用魔法攻击。\n" ++
  "玩家有两种攻击状态，一种是普通攻击(按下键盘的a)造成20到50点不等的伤害 \n" ++
  "另一种是魔法攻击(b)造成40到70点不等的伤害。同时要扣除50点魔法值。\n" ++
  "玩家初始会有1瓶血药和1瓶魔法药水。血药可以增加人物100点生命值，请注意增加的生命值不会突破人物的200点生命上限。\n" ++
  "魔法药水可以增加100点魔法值，同时魔法值也无法突破100点上限\n"

structure Potion where
  hpPotion : Int
  mpPotion : Int
deriving DecidableEq, Repr

-- κ are the connections; room is the weak pointer, whether or not the room is
-- still alive.
structure Player (κ : Type) where
  hp : Int
  mp : Int
  potion : Potion
  name : κ
  room : Option RoomId
  conn : κ
deriving DecidableEq, Repr

structure GameRoom where
  p1 : PlayerId
  p2 : PlayerId
  currentTurn : Int
  finished : Bool
deriving DecidableEq, Repr

inductive Output (κ : Type) where
  | send (conn : κ) (text : String)
  | shutdown (conn : κ)
deriving DecidableEq, Repr

def Player.new {κ : Type} (name conn : κ) : Player κ :=
  { hp := 200
    mp := 100
    potion := ⟨1, 1⟩
    name := name
    room := none
    conn := conn }

namespace GameRoom

def new (player1 player2 : PlayerId) : GameRoom := ⟨player1, player2, 0, false⟩

def currentPlayer (room : GameRoom) : PlayerId := if room.currentTurn = 0 then room.p1 else room.p2

def opponentPlayer (room : GameRoom) : PlayerId := if room.currentTurn = 0 then room.p2 else room.p1

end GameRoom

-- One room with the player objects it works on and the calls it has made on
-- their connections.
structure Game (κ : Type) where
  room : GameRoom
  player : PlayerId → Player κ
  output : List (Output κ)

namespace Game

variable {κ : Type}

def send (g : Game κ) (player : PlayerId) (text : String) : Game κ :=
  { g with output := g.output ++ [.send (g.player player).conn text] }

def shutdown (g : Game κ) (player : PlayerId) : Game κ :=
  { g with output := g.output ++ [.shutdown (g.player player).conn] }

def modify (g : Game κ) (player : PlayerId) (change : Player κ → Player κ) : Game κ :=
  { g with player := Function.update g.player player (change (g.player player)) }

def status (player : Player κ) : String :=
  "HP: " ++ toString player.hp ++ " MP: " ++ toString player.mp ++ " HP Potion: " ++ toString player.potion.hpPotion ++
    " MP Potion: " ++ toString player.potion.mpPotion ++ "\n"

def checkGameOver (g : Game κ) : Bool × Game κ :=
  let p1 := g.room.p1
  let p2 := g.room.p2
  if (g.player p1).hp ≤ 0 ∨ (g.player p2).hp ≤ 0 then
    let g := { g with room := { g.room with finished := true } }
    let winner := if (g.player p1).hp > 0 then p1 else p2
    let loser := if (g.player p1).hp > 0 then p2 else p1
    (true, (((g.send winner "You win!\n").send loser "You lose!\n").shutdown winner).shutdown loser)
  else (false, g)

def switchTurn (g : Game κ) : Game κ :=
  let g := { g with room := { g.room with currentTurn := 1 - g.room.currentTurn } }
  (g.send g.room.currentPlayer "Your turn. Input a/b/h/m.\n").send g.room.opponentPlayer "Waiting for opponent...\n"

def start (g : Game κ) : Game κ :=
  (((g.send g.room.p1 "Game start\n").send g.room.p2 "Game start\n").send g.room.p1 rule).send g.room.p2 rule

-- The end of handleCommand, which every accepted command reaches.
def endCommand (g : Game κ) (self enemy : PlayerId) : Bool × Game κ :=
  let g := (g.send self (status (g.player self))).send enemy (status (g.player enemy))
  let result := g.checkGameOver
  if result.1 then (true, result.2) else (false, result.2.switchTurn)

def hit (enemy : Player κ) (damage : Int) : Player κ := { enemy with hp := max 0 (enemy.hp - damage) }

def handleCommand (g : Game κ) (player : PlayerId) (cmd : UInt8) (randomNum : RandomNum) : Bool × Game κ :=
  if g.room.finished then (true, g.send player "Game already finished.\n")
  else
    let self := g.room.currentPlayer
    let enemy := g.room.opponentPlayer
    if player ≠ self then (false, g.send player "Not your turn.\n")
    else if cmd = 'a'.toUInt8 then
      let damage := randomNum.draw 20 50
      let g := g.modify enemy (hit · damage)
      ((g.send self ("You used normal attack, damage: " ++ toString damage ++ "\n")).send enemy
        ("You were hit by normal attack, damage: " ++ toString damage ++ "\n")).endCommand self enemy
    else if cmd = 'b'.toUInt8 then
      if (g.player self).mp < 50 then (false, g.send self "Not enough MP.\n")
      else
        let damage := randomNum.draw 40 70
        let g := (g.modify self fun p => { p with mp := p.mp - 50 }).modify enemy (hit · damage)
        ((g.send self ("You used magic attack, damage: " ++ toString damage ++ "\n")).send enemy
          ("You were hit by magic attack, damage: " ++ toString damage ++ "\n")).endCommand self enemy
    else if cmd = 'h'.toUInt8 then
      if (g.player self).potion.hpPotion ≤ 0 then (false, g.send self "No HP potion left.\n")
      else
        let g := g.modify self fun p =>
          { p with
            potion := { p.potion with hpPotion := p.potion.hpPotion - 1 }
            hp := min 200 (p.hp + hpPotionEffect) }
        ((g.send self "You used HP potion.\n").send enemy "Opponent used HP potion.\n").endCommand self enemy
    else if cmd = 'm'.toUInt8 then
      if (g.player self).potion.mpPotion ≤ 0 then (false, g.send self "No MP potion left.\n")
      else
        let g := g.modify self fun p =>
          { p with
            potion := { p.potion with mpPotion := p.potion.mpPotion - 1 }
            mp := min 100 (p.mp + mpPotionEffect) }
        ((g.send self "You used MP potion.\n").send enemy "Opponent used MP potion.\n").endCommand self enemy
    else (false, g.send self "Invalid command. Input a/b/h/m.\n")

end Game

end Cmuduo.Example
