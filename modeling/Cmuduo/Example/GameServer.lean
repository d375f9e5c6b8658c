import Cmuduo.Example.GameRoom
import Cmuduo.Lib.Machine
import Cmuduo.Net.Buffer

set_option autoImplicit false

namespace Cmuduo.Example

open Cmuduo.Net

-- A connection is known by its name, which TcpServer makes unique. player and
-- room hold the objects made so far, by number; inputBuffer is the connections'
-- own, and output the calls made on them.
structure GameServer (κ : Type) where
  players : κ → Option PlayerId
  waitingPlayer : Option PlayerId
  rooms : List RoomId
  player : PlayerId → Player κ
  nextPlayer : PlayerId
  room : RoomId → GameRoom
  nextRoom : RoomId
  inputBuffer : κ → Buffer
  output : List (Output κ)

namespace GameServer

variable {κ : Type}

-- The memory that no object has been made in yet holds anything.
def new (player : PlayerId → Player κ) (room : RoomId → GameRoom) : GameServer κ :=
  { players := fun _ => none
    waitingPlayer := none
    rooms := []
    player := player
    nextPlayer := 0
    room := room
    nextRoom := 0
    inputBuffer := fun _ => Buffer.new kInitiaSize
    output := [] }

def send (s : GameServer κ) (conn : κ) (text : String) : GameServer κ := { s with output := s.output ++ [.send conn text] }

def game (s : GameServer κ) (room : RoomId) : Game κ := ⟨s.room room, s.player, s.output⟩

def putBack (s : GameServer κ) (room : RoomId) (g : Game κ) : GameServer κ :=
  { s with room := Function.update s.room room g.room, player := g.player, output := g.output }

-- weak_ptr::lock: between two calls only rooms_ owns rooms.
def lock (s : GameServer κ) (room : Option RoomId) : Option RoomId := room.filter (· ∈ s.rooms)

variable [DecidableEq κ]

def onMessage (s : GameServer κ) (conn : κ) (randomNum : RandomNum) : Except Stop (GameServer κ) :=
  match s.players conn with
  | none => .ok s
  | some player =>
      match s.lock (s.player player).room with
      | none => .ok (s.send conn "you are not in a room!\n")
      | some room =>
          match (s.inputBuffer conn).retrieveAllAsString with
          | .error stop => .error stop
          | .ok (msg, buffer) =>
              let cmd := msg.headD 0
              let result := (s.game room).handleCommand player cmd randomNum
              let s := { s with inputBuffer := Function.update s.inputBuffer conn buffer }.putBack room result.2
              .ok (if result.1 then { s with rooms := s.rooms.filter (· ≠ room) } else s)

-- make_shared<Player> and the entry in players_.
def addPlayer (s : GameServer κ) (conn : κ) : GameServer κ :=
  { s with
    player := Function.update s.player s.nextPlayer (Player.new conn conn)
    nextPlayer := s.nextPlayer + 1
    players := Function.update s.players conn (some s.nextPlayer) }

-- make_shared<GameRoom> and the entry in rooms_.
def addRoom (s : GameServer κ) (waiting player : PlayerId) : GameServer κ :=
  { s with
    room := Function.update s.room s.nextRoom (.new waiting player)
    nextRoom := s.nextRoom + 1
    rooms := s.rooms ++ [s.nextRoom] }

def setRoom (s : GameServer κ) (player : PlayerId) (room : RoomId) : GameServer κ :=
  { s with player := Function.update s.player player { s.player player with room := some room } }

def onConnection (s : GameServer κ) (conn : κ) (connected : Bool) : GameServer κ :=
  if connected then
    let player := s.nextPlayer
    let s := s.addPlayer conn
    match s.waitingPlayer with
    | none => { s with waitingPlayer := some player }.send conn "waiting player comming...... \n"
    | some waiting =>
        let gameRoom := s.nextRoom
        let s := { ((s.addRoom waiting player).setRoom player gameRoom).setRoom waiting gameRoom with waitingPlayer := none }
        s.putBack gameRoom (s.game gameRoom).start
  else
    -- the branch logs the peer's address and does nothing else
    s

end GameServer

end Cmuduo.Example
