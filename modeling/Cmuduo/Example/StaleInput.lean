import Cmuduo.Example.Matchmaking
import Cmuduo.Net.ScatterRead

set_option autoImplicit false

namespace Cmuduo.Example

open Cmuduo.Net Machine

section
variable {κ : Type}

namespace GameServer

-- The player of a connection and the room he sits in, if it is still there.
def seat (s : GameServer κ) (conn : κ) : Option (PlayerId × RoomId) :=
  match s.players conn with
  | none => none
  | some player =>
      match s.lock (s.player player).room with
      | none => none
      | some room => some (player, room)

-- The player and the character that onMessage hands to the handleCommand of a
-- room.
def command (s : GameServer κ) (conn : κ) : Option (PlayerId × RoomId × UInt8) :=
  match s.seat conn with
  | none => none
  | some (player, room) =>
      match (s.inputBuffer conn).retrieveAllAsString with
      | .error _ => none
      | .ok (msg, _) => some (player, room, msg.headD 0)

variable [DecidableEq κ]

def played (s : GameServer κ) (conn : κ) (buffer : Buffer) (room : RoomId) (result : Bool × Game κ) : GameServer κ :=
  let s := { s with inputBuffer := Function.update s.inputBuffer conn buffer }.putBack room result.2
  if result.1 then { s with rooms := s.rooms.filter (· ≠ room) } else s

theorem on_message_seated (s : GameServer κ) (conn : κ) (randomNum : RandomNum) (player : PlayerId) (room : RoomId)
    (seated : s.seat conn = some (player, room)) (valid : (s.inputBuffer conn).Valid) :
    s.command conn = some (player, room, (s.inputBuffer conn).readable.headD 0) ∧
    s.onMessage conn randomNum =
      .ok (s.played conn ((s.inputBuffer conn).retrieve (s.inputBuffer conn).readableBytes) room
        ((s.game room).handleCommand player ((s.inputBuffer conn).readable.headD 0) randomNum)) := by
  have taken := (s.inputBuffer conn).retrieve_as_string_ok _ valid (Nat.le_refl _)
  rw [← Buffer.readable_length _ valid, List.take_length, Buffer.readable_length _ valid] at taken
  have all : (s.inputBuffer conn).retrieveAllAsString = _ := taken
  constructor
  · simp only [command, seated, all]
  · simp only [seat] at seated
    split at seated
    · cases seated
    · next found =>
        split at seated
        · cases seated
        · next locked =>
            simp only [Option.some.injEq, Prod.mk.injEq] at seated
            obtain ⟨rfl, rfl⟩ := seated
            simp only [onMessage, found, locked, all, played]

theorem on_message_unseated (s : GameServer κ) (conn : κ) (randomNum : RandomNum) (nowhere : s.seat conn = none) :
    s.command conn = none ∧ ∃ t, s.onMessage conn randomNum = .ok t ∧ t.inputBuffer = s.inputBuffer := by
  refine ⟨by rw [command, nowhere], ?_⟩
  simp only [seat] at nowhere
  split at nowhere
  · next found => exact ⟨s, by simp only [onMessage, found], rfl⟩
  · next player found =>
      split at nowhere
      · next locked => exact ⟨s.send conn "you are not in a room!\n", by simp only [onMessage, found, locked], rfl⟩
      · cases nowhere

theorem played_input (s : GameServer κ) (conn : κ) (buffer : Buffer) (room : RoomId) (result : Bool × Game κ) :
    (s.played conn buffer room result).inputBuffer = Function.update s.inputBuffer conn buffer := by
  rw [played]
  split <;> rfl

theorem on_connection_input (s : GameServer κ) (conn : κ) (connected : Bool) :
    (s.onConnection conn connected).inputBuffer = s.inputBuffer := by
  cases connected with
  | false => rfl
  | true =>
      cases waits : s.waitingPlayer with
      | none => simp only [onConnection, if_true, show (s.addPlayer conn).waitingPlayer = none from waits]; rfl
      | some waiting =>
          simp only [onConnection, if_true, show (s.addPlayer conn).waitingPlayer = some waiting from waits]
          rfl

end GameServer

namespace Lobby

-- The bytes that arrive with a delivery.
def chunk (s : Lobby κ) (conn : κ) : ReadResult → List UInt8
  | .arrived bytes => bytes.take (s.server.inputBuffer conn).offeredBytes
  | .error _ => []

variable [DecidableEq κ]

-- The server as the message callback finds it.
def received (s : Lobby κ) (conn : κ) (result : ReadResult) : Option (GameServer κ) :=
  match (s.server.inputBuffer conn).readFd result with
  | .ok (.ok n, buffer) =>
      if n > 0 then some { s.server with inputBuffer := Function.update s.server.inputBuffer conn buffer } else none
  | _ => none

-- The character handed to handleCommand is the first byte of the chunk that has
-- just arrived.
def PlaysChunk (s : Lobby κ) : LobbyLabel κ → Prop
  | .message conn result _ => ∀ server, s.received conn result = some server → ∀ player room cmd,
      server.command conn = some (player, room, cmd) → (s.chunk conn result).head? = some cmd
  | _ => True

-- Nothing that would be read instead of the chunk is left in the input buffer of
-- a player who sits in a room.
def NothingStale (s : Lobby κ) : LobbyLabel κ → Prop
  | .message conn result _ => (s.received conn result).isSome = true → (s.server.seat conn).isSome = true →
      (s.server.inputBuffer conn).readable = [] ∨
        (s.server.inputBuffer conn).readable.head? = (s.chunk conn result).head?
  | _ => True

def Readable (s : Lobby κ) : Prop := ∀ conn, (s.server.inputBuffer conn).Valid

theorem received_readable (s : Lobby κ) (conn : κ) (result : ReadResult) (server : GameServer κ) (readable : s.Readable)
    (got : s.received conn result = some server) :
    s.chunk conn result ≠ [] ∧ ∃ next : Buffer, next.Valid ∧
      next.readable = (s.server.inputBuffer conn).readable ++ s.chunk conn result ∧
      server = { s.server with inputBuffer := Function.update s.server.inputBuffer conn next } := by
  cases result with
  | error errno => cases got
  | arrived bytes =>
      rcases (s.server.inputBuffer conn).read_fd_arrived bytes (readable conn) with ⟨next, read, valid, all⟩ | ⟨thrown, -⟩
      · simp only [received, read, Option.ite_none_right_eq_some, Option.some.injEq] at got
        obtain ⟨some, rfl⟩ := got
        exact ⟨List.length_pos_iff.mp some, next, valid, all, rfl⟩
      · simp only [received, thrown] at got
        cases got

theorem step_message (s t : Lobby κ) (conn : κ) (result : ReadResult) (randomNum : RandomNum)
    (taken : s.step (.message conn result randomNum) = some t) :
    ∃ server, s.received conn result = some server ∧ server.onMessage conn randomNum = .ok t.server := by
  simp only [step] at taken
  split at taken
  · next n buffer read =>
      obtain ⟨some, taken⟩ := Option.ite_none_right_eq_some.mp taken
      split at taken
      · next server done =>
          cases taken
          exact ⟨_, by rw [received, read]; exact if_pos some, done⟩
      · cases taken
  · cases taken

-- A delivery on one connection: the chunk, and whether it found the player in a
-- room.
def deliveries (conn : κ) (s : Lobby κ) (label : LobbyLabel κ) (_ : Lobby κ) : List (List UInt8 × Bool) :=
  match label with
  | .message c result _ => if c = conn then [(s.chunk conn result, (s.server.seat conn).isSome)] else []
  | _ => []

-- What is left unread: a played delivery takes all there is.
def unplayed (left : List UInt8) (delivery : List UInt8 × Bool) : List UInt8 :=
  if delivery.2 then [] else left ++ delivery.1

-- A delivery is appended to the input buffer of its connection, and if it finds
-- the player in a room, all of the buffer is taken.
theorem message_input (s t : Lobby κ) (conn : κ) (result : ReadResult) (randomNum : RandomNum) (readable : s.Readable)
    (taken : s.step (.message conn result randomNum) = some t) :
    ∃ next : Buffer, next.Valid ∧
      next.readable = unplayed (s.server.inputBuffer conn).readable (s.chunk conn result, (s.server.seat conn).isSome) ∧
      t.server.inputBuffer = Function.update s.server.inputBuffer conn next := by
  obtain ⟨server, got, done⟩ := step_message s t conn result randomNum taken
  obtain ⟨some, next, valid, all, rfl⟩ := s.received_readable conn result server readable got
  set server : GameServer κ := { s.server with inputBuffer := Function.update s.server.inputBuffer conn next }
  have here : server.inputBuffer conn = next := Function.update_self _ _ _
  have seat : server.seat conn = s.server.seat conn := rfl
  cases seated : s.server.seat conn with
  | none =>
      obtain ⟨-, after, answered, input⟩ := server.on_message_unseated conn randomNum (seat.trans seated)
      obtain rfl := Except.ok.inj (answered.symm.trans done)
      exact ⟨next, valid, by simp [unplayed, all], input⟩
  | some place =>
      obtain ⟨player, room⟩ := place
      obtain ⟨-, answered⟩ :=
        server.on_message_seated conn randomNum player room (seat.trans seated) (by rw [here]; exact valid)
      rw [here, done] at answered
      refine ⟨next.retrieve next.readableBytes, next.retrieve_valid _ valid, ?_, ?_⟩
      · rw [next.retrieve_readable _ valid, ← next.readable_length valid, List.drop_length]
        simp [unplayed]
      · rw [Except.ok.inj answered, server.played_input, Function.update_idem]

theorem step_readable (s t : Lobby κ) (label : LobbyLabel κ) (conn : κ) (readable : s.Readable)
    (taken : s.step label = some t) :
    (t.server.inputBuffer conn).Valid ∧
      (t.server.inputBuffer conn).readable =
        (deliveries conn s label t).foldl unplayed (s.server.inputBuffer conn).readable := by
  cases label with
  | up c =>
      simp only [step, Option.ite_none_right_eq_some, Option.some.injEq] at taken
      obtain ⟨-, rfl⟩ := taken
      rw [s.server.on_connection_input c true]
      exact ⟨readable conn, rfl⟩
  | down c =>
      simp only [step, Option.ite_none_right_eq_some, Option.some.injEq] at taken
      obtain ⟨-, rfl⟩ := taken
      rw [s.server.on_connection_input c false]
      exact ⟨readable conn, rfl⟩
  | message c result randomNum =>
      obtain ⟨next, valid, bytes, input⟩ := message_input s t c result randomNum readable taken
      rw [input]
      by_cases mine : c = conn
      · subst mine
        rw [Function.update_self]
        exact ⟨valid, by simp [deliveries, bytes]⟩
      · rw [Function.update_of_ne (Ne.symm mine)]
        exact ⟨readable conn, by simp [deliveries, mine]⟩

theorem plays_chunk_iff (s : Lobby κ) (label : LobbyLabel κ) (readable : s.Readable) :
    s.PlaysChunk label ↔ s.NothingStale label := by
  cases label with
  | up c => exact Iff.rfl
  | down c => exact Iff.rfl
  | message c result randomNum =>
      cases got : s.received c result with
      | none => simp [PlaysChunk, NothingStale, got]
      | some server =>
          obtain ⟨some, next, valid, all, same⟩ := s.received_readable c result server readable got
          have here : server.inputBuffer c = next := by
            rw [same]
            exact Function.update_self _ _ _
          have seat : server.seat c = s.server.seat c := by
            rw [same]
            rfl
          obtain ⟨byte, rest, arrived⟩ := List.exists_cons_of_ne_nil some
          simp only [PlaysChunk, NothingStale, got, Option.some.injEq, forall_eq', arrived, Option.isSome_some, forall_const]
          cases seated : s.server.seat c with
          | none => simp [(server.on_message_unseated c randomNum (seat.trans seated)).1]
          | some place =>
              obtain ⟨player, room⟩ := place
              obtain ⟨command, -⟩ :=
                server.on_message_seated c randomNum player room (seat.trans seated) (by rw [here]; exact valid)
              rw [here, all, arrived] at command
              simp only [command, Option.some.injEq, Prod.mk.injEq, Option.isSome_some, forall_const]
              cases stale : (s.server.inputBuffer c).readable with
              | nil => simp
              | cons first more => simp [eq_comm]

theorem run_unplayed (labels : List (LobbyLabel κ)) (s final : Lobby κ) (conn : κ) (readable : s.Readable)
    (ran : run step s labels = some final) :
    (final.server.inputBuffer conn).readable =
      (outputs step (deliveries conn) s labels).foldl unplayed (s.server.inputBuffer conn).readable := by
  induction labels generalizing s with
  | nil =>
      cases ran
      rfl
  | cons label rest ih =>
      obtain ⟨next, taken, tail⟩ := (run_cons _ _ _ _ _).mp ran
      have nextReadable : next.Readable := fun c => (step_readable s next label c readable taken).1
      rw [outputs_cons step (deliveries conn) s next label rest taken, List.foldl_append,
        ← (step_readable s next label conn readable taken).2]
      exact ih next nextReadable tail

end Lobby

theorem input_buffer_holds_unplayed [DecidableEq κ] (player : PlayerId → Player κ) (room : RoomId → GameRoom)
    (labels : List (LobbyLabel κ)) (final : Lobby κ) (conn : κ)
    (ran : run Lobby.step (.new player room) labels = some final) :
    (final.server.inputBuffer conn).readable =
      (outputs Lobby.step (Lobby.deliveries conn) (.new player room) labels).foldl Lobby.unplayed [] := by
  have fresh := Buffer.new_readable kInitiaSize
  have all := Lobby.run_unplayed labels (.new player room) final conn (fun _ => Buffer.new_valid kInitiaSize) ran
  rwa [show ((Lobby.new player room).server.inputBuffer conn).readable = [] from fresh] at all

theorem command_is_first_byte [DecidableEq κ] (player : PlayerId → Player κ) (room : RoomId → GameRoom)
    (labels : List (LobbyLabel κ)) :
    Guarded Lobby.step Lobby.PlaysChunk (.new player room) labels ↔
      Guarded Lobby.step Lobby.NothingStale (.new player room) labels :=
  guarded_iff_guarded Lobby.step Lobby.PlaysChunk Lobby.NothingStale Lobby.Readable
    (fun s label readable => s.plays_chunk_iff label readable)
    (fun s label t readable _ taken c => (s.step_readable t label c readable taken).1)
    _ labels (fun _ => Buffer.new_valid kInitiaSize)

end

-- The first player types b while he waits for another.
def typesWhileWaiting : List (LobbyLabel Nat) := [.up 7, .message 7 (.arrived [98]) fixedDamage, .up 8]

-- Once the game has begun he types a, but it is the magic attack that is played,
-- which takes 50 of his magic points.
theorem waiting_input_played :
    (run Lobby.step (.new (fun _ => .new 0 0) fun _ => .new 0 0)
      (typesWhileWaiting ++ [.message 7 (.arrived [97]) fixedDamage])).map (fun s => (s.server.player 0).mp) = some 50 ∧
    ¬Guarded Lobby.step Lobby.PlaysChunk (.new (fun _ => .new 0 0) fun _ => .new 0 0)
      (typesWhileWaiting ++ [.message 7 (.arrived [97]) fixedDamage]) := by
  refine ⟨by decide +kernel, fun plays => ?_⟩
  have handed : (run Lobby.step (.new (fun _ => .new 0 0) fun _ => .new 0 0) typesWhileWaiting).map (fun s =>
      ((s.received 7 (.arrived [97])).bind fun server => server.command 7, s.chunk 7 (.arrived [97]))) =
        some (some (0, 0, 98), [97]) := by decide +kernel
  obtain ⟨s, ran, both⟩ := Option.map_eq_some_iff.mp handed
  obtain ⟨command, chunk⟩ := Prod.mk.inj both
  obtain ⟨server, got, played⟩ := Option.bind_eq_some_iff.mp command
  have first := (((guarded_append _ _ _ _ _).mp plays).2 s ran).1 server got 0 0 98 played
  rw [chunk] at first
  cases first

end Cmuduo.Example
