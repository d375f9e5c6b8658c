import Cmuduo.Example.LobbyScreens
import Cmuduo.Net.InLoopCalls
import Cmuduo.Net.OutputStream

set_option autoImplicit false

namespace Cmuduo.Example

open Cmuduo.Net Machine Screen

-- The std::string of a text of the source, which is UTF-8.
def content (text : String) : CppString := .ofBytes text.toUTF8.data.toList

-- The calls made on a connection, in its loop thread; send is given what ::write
-- answers.
def Output.perform {κ : Type} (c : TcpConnection) (result : WriteResult) : Output κ → Except Stop TcpConnection
  | .send _ text => (c.send (content text) result).map Prod.fst
  | .shutdown _ => .ok c.shutdown

-- The GameServer with the sockets of its connections. The input buffers are
-- the lobby's.
structure Host (κ : Type) where
  lobby : Lobby κ
  tcp : κ → TcpConnection

inductive HostLabel (κ : Type) where
  | lobby (label : LobbyLabel κ) (written : List WriteResult)
  | handleWrite (conn : κ) (result : WriteResult)

section
variable {κ : Type}

-- The texts that are said to a connection. They end at its first shutdown, which
-- stores kDisconnecting: send refuses all that comes after it.
def texts [DecidableEq κ] (conn : κ) : List (Output κ) → List String
  | [] => []
  | .send other text :: rest => if other = conn then text :: texts conn rest else texts conn rest
  | .shutdown other :: rest => if other = conn then [] else texts conn rest

def shut [DecidableEq κ] (conn : κ) (output : List (Output κ)) : Bool := output.any (· = .shutdown conn)

def bytes (said : List String) : List UInt8 := said.flatMap fun text => (content text).bytes

variable [DecidableEq κ]

theorem texts_append (conn : κ) (output more : List (Output κ)) :
    texts conn (output ++ more) = texts conn output ++ if shut conn output then [] else texts conn more := by
  induction output with
  | nil => rfl
  | cons o rest ih =>
      cases o with
      | send other text =>
          by_cases mine : other = conn <;> simp [texts, shut, mine, ih]
      | shutdown other =>
          by_cases mine : other = conn
          · simp [texts, shut, mine]
          · have away : Output.shutdown other ≠ .shutdown conn := fun same => mine (Output.shutdown.inj same)
            simp [texts, shut, mine, ih]

theorem shut_append (conn : κ) (output more : List (Output κ)) :
    shut conn (output ++ more) = (shut conn output || shut conn more) := List.any_append

theorem nothing_said (conn : κ) (output : List (Output κ)) (others : ∀ o ∈ output, o.conn ≠ conn) :
    texts conn output = [] ∧ shut conn output = false := by
  induction output with
  | nil => exact ⟨rfl, rfl⟩
  | cons o rest ih =>
      obtain ⟨silent, still⟩ := ih fun other member => others other (List.mem_cons_of_mem _ member)
      have away := others o List.mem_cons_self
      cases o with
      | send other text => exact ⟨(if_neg away).trans silent, still⟩
      | shutdown other =>
          change other ≠ conn at away
          refine ⟨(if_neg away).trans silent, ?_⟩
          rw [shut, List.any_cons, decide_eq_false fun same => away (Output.shutdown.inj same)]
          exact still

theorem hear_closed (conn : κ) (output : List (Output κ)) (screen : Screen) (closed : screen.closed = true) :
    output.foldl (hear conn) screen = screen := by
  induction output with
  | nil => rfl
  | cons o rest ih =>
      have silent : hear conn screen o = screen := by
        obtain ⟨status, turn, verdict, _⟩ := screen
        cases closed
        cases o <;> simp [hear]
      rw [List.foldl_cons, silent, ih]

theorem hear_texts (conn : κ) (output : List (Output κ)) (screen : Screen) (isOpen : screen.closed = false) :
    output.foldl (hear conn) screen = { (texts conn output).foldl display screen with closed := shut conn output } := by
  induction output generalizing screen with
  | nil =>
      obtain ⟨status, turn, verdict, _⟩ := screen
      cases isOpen
      rfl
  | cons o rest ih =>
      cases o with
      | send other text =>
          have still : shut conn (.send other text :: rest) = shut conn rest := by simp [shut]
          rw [List.foldl_cons, still]
          by_cases mine : other = conn
          · subst mine
            rw [hear_here other screen text isOpen, ih _ ((screen.display_closed text).trans isOpen), texts, if_pos rfl,
              List.foldl_cons]
          · rw [hear_elsewhere conn other screen text mine, ih screen isOpen, texts, if_neg mine]
      | shutdown other =>
          by_cases mine : other = conn
          · subst mine
            rw [List.foldl_cons, show hear other screen (.shutdown other) = { screen with closed := true } from if_pos rfl,
              hear_closed other rest _ rfl]
            simp [texts, shut]
          · have still : shut conn (.shutdown other :: rest) = shut conn rest := by simp [shut, mine]
            rw [List.foldl_cons, still, show hear conn screen (.shutdown other) = screen from if_neg mine, ih screen isOpen,
              texts, if_neg mine]

-- A screen shows what has been sent up to the shutdown.
theorem after_texts (conn : κ) (output : List (Output κ)) :
    after conn output = { (texts conn output).foldl display blank with closed := shut conn output } :=
  hear_texts conn output blank rfl

namespace Host

def new (player : PlayerId → Player κ) (room : RoomId → GameRoom) (sockfd : κ → Nat) (mark : Nat) : Host κ :=
  ⟨.new player room, fun conn => .new (sockfd conn) false false mark⟩

def carryOut (tcp : κ → TcpConnection) : List (Output κ) → List WriteResult → Except Stop (κ → TcpConnection)
  | [], _ => .ok tcp
  | call :: rest, written =>
      match call.perform (tcp call.conn) (written.headD (.room 0)) with
      | .error stop => .error stop
      | .ok next => carryOut (Function.update tcp call.conn next) rest written.tail

-- What the connection does before it makes its callback.
def before (s : Host κ) : LobbyLabel κ → Except Stop (κ → TcpConnection)
  | .up conn => (s.tcp conn).connectEstablished.map (Function.update s.tcp conn)
  | .down conn => (s.tcp conn).handleClose.map (Function.update s.tcp conn)
  | .message _ _ _ => .ok s.tcp

def step (s : Host κ) : HostLabel κ → Option (Host κ)
  | .lobby label written =>
      match s.lobby.step label, s.before label with
      | some lobby, .ok tcp =>
          match carryOut tcp (lobby.server.output.drop s.lobby.server.output.length) written with
          | .ok tcp => some ⟨lobby, tcp⟩
          | .error _ => none
      | _, _ => none
  | .handleWrite conn result =>
      match (s.tcp conn).handleWrite result with
      | .ok (next, _) => some { s with tcp := Function.update s.tcp conn next }
      | .error _ => none

-- No write fails because the peer is gone, and no flush takes more than there is.
def Delivers (s : Host κ) : HostLabel κ → Prop
  | .lobby _ written => .error .EPIPE ∉ written ∧ .error .ECONNRESET ∉ written
  | .handleWrite conn result => s.lobby.phase conn = .up → (s.tcp conn).WithinBacklog result

instance (s : Host κ) : (label : HostLabel κ) → Decidable (s.Delivers label)
  | .lobby _ written => inferInstanceAs (Decidable (.error .EPIPE ∉ written ∧ .error .ECONNRESET ∉ written))
  | .handleWrite conn result => inferInstanceAs (Decidable (s.lobby.phase conn = .up → (s.tcp conn).WithinBacklog result))

end Host

-- An open connection on which these texts have been sent, and that has been shut
-- down or not.
structure Carried (c : TcpConnection) (said : List String) (ended : Bool) : Prop where
  isOpen : c.Open
  stream : c.wire ++ c.outputBuffer.readable = bytes said
  state : c.state = if ended then .kDisconnecting else .kConnected
  final : c.shutWr = true → ended = true ∧ c.outputBuffer.readable = []

theorem sent_carried (c next : TcpConnection) (said : List String) (ended : Bool) (text : String) (result : WriteResult)
    (queued : List Notice) (carried : Carried c said ended) (unbroken : result ≠ .error .EPIPE ∧ result ≠ .error .ECONNRESET)
    (done : c.send (content text) result = .ok (next, queued)) :
    Carried next (if ended then said else said ++ [text]) ended := by
  obtain ⟨isOpen, stream, state, final⟩ := carried
  cases ended with
  | true =>
      rw [c.send_ignored _ _ (by simp [state])] at done
      cases done
      exact ⟨isOpen, stream, state, final⟩
  | false =>
      have connected : c.state = .kConnected := state
      rw [c.send_connected _ _ connected] at done
      obtain ⟨nextOpen, out, extends_, whole⟩ := c.send_in_loop_open next _ result queued isOpen (by simp [connected])
        unbroken done
      refine ⟨nextOpen, ?_, extends_.state.trans connected, fun issued => ?_⟩
      · rw [extends_.wire, List.append_assoc, whole, ← List.append_assoc, stream]
        simp [bytes]
      · exact absurd (final (extends_.shutWr.symm.trans issued)).1 Bool.false_ne_true

theorem shut_carried (c : TcpConnection) (said : List String) (ended : Bool) (carried : Carried c said ended) :
    Carried c.shutdown said true := by
  obtain ⟨isOpen, stream, state, final⟩ := carried
  cases ended with
  | true =>
      rw [show c.shutdown = c from if_neg (by simp [state])]
      exact ⟨isOpen, stream, state, final⟩
  | false =>
      have connected : c.state = .kConnected := state
      rw [TcpConnection.shutdown, if_pos connected]
      have kept : (c.setState .kDisconnecting).Open := ⟨isOpen.valid, isOpen.registered, isOpen.events⟩
      cases writing : c.channel.isWriting with
      | true =>
          rw [show (c.setState .kDisconnecting).shutdownInLoop = c.setState .kDisconnecting from if_pos writing]
          exact ⟨kept, stream, rfl, fun issued => absurd (final issued).1 Bool.false_ne_true⟩
      | false =>
          rw [show (c.setState .kDisconnecting).shutdownInLoop = { c.setState .kDisconnecting with shutWr := true } from
            if_neg (by simp [TcpConnection.setState, writing])]
          exact ⟨⟨kept.valid, kept.registered, kept.events⟩, stream, rfl, fun _ =>
            ⟨rfl, (c.open_not_writing isOpen).mp writing⟩⟩

theorem flush_carried (c next : TcpConnection) (said : List String) (ended : Bool) (result : WriteResult)
    (queued : List Notice) (carried : Carried c said ended) (within : c.WithinBacklog result)
    (done : c.handleWrite result = .ok (next, queued)) : Carried next said ended := by
  obtain ⟨isOpen, stream, state, final⟩ := carried
  obtain ⟨nextOpen, flushes⟩ := c.handle_write_open next result queued isOpen done
  have whole : c.flushOut result ++ c.outputBuffer.readable.drop (c.flushOut result).length = c.outputBuffer.readable :=
    (congrArg (· ++ _) ((c.flush_exact isOpen result).mpr within)).trans (List.take_append_drop _ _)
  refine ⟨nextOpen, ?_, flushes.state.trans state, fun issued => ?_⟩
  · rw [flushes.wire, flushes.left, List.append_assoc, whole, stream]
  · rcases flushes.shutWr issued with already | ⟨closing, drained⟩
    · obtain ⟨shutDown, empty⟩ := final already
      exact ⟨shutDown, by rw [flushes.left, empty, List.drop_nil]⟩
    · refine ⟨?_, drained⟩
      cases ended with
      | true => rfl
      | false => cases closing.symm.trans state

theorem perform_carried (c next : TcpConnection) (said : List String) (ended : Bool) (call : Output κ)
    (result : WriteResult) (carried : Carried c said ended)
    (unbroken : result ≠ .error .EPIPE ∧ result ≠ .error .ECONNRESET) (done : call.perform c result = .ok next) :
    Carried next (said ++ if ended then [] else texts call.conn [call]) (ended || shut call.conn [call]) := by
  cases call with
  | send conn text =>
      cases sent : c.send (content text) result with
      | error stop => simp [Output.perform, sent, Except.map] at done
      | ok pair =>
          simp only [Output.perform, sent, Except.map, Except.ok.injEq] at done
          subst done
          have after := sent_carried c pair.1 said ended text result pair.2 carried unbroken sent
          cases ended with
          | true => simpa [texts, shut, Output.conn] using after
          | false => simpa [texts, shut, Output.conn] using after
  | shutdown conn =>
      cases done
      have after := shut_carried c said ended carried
      cases ended with
      | true => simpa [texts, shut, Output.conn] using after
      | false => simpa [texts, shut, Output.conn] using after

theorem carry_out_carried (calls output : List (Output κ)) (tcp next : κ → TcpConnection) (written : List WriteResult)
    (conn : κ) (carried : Carried (tcp conn) (texts conn output) (shut conn output))
    (unbroken : .error .EPIPE ∉ written ∧ .error .ECONNRESET ∉ written)
    (done : Host.carryOut tcp calls written = .ok next) :
    Carried (next conn) (texts conn (output ++ calls)) (shut conn (output ++ calls)) := by
  induction calls generalizing tcp written output with
  | nil =>
      cases done
      rwa [List.append_nil]
  | cons call rest ih =>
      cases performed : call.perform (tcp call.conn) (written.headD (.room 0)) with
      | error stop =>
          simp only [Host.carryOut, performed] at done
          cases done
      | ok middle =>
          simp only [Host.carryOut, performed] at done
          have fine : written.headD (.room 0) ≠ .error .EPIPE ∧ written.headD (.room 0) ≠ .error .ECONNRESET ∧
              .error .EPIPE ∉ written.tail ∧ .error .ECONNRESET ∉ written.tail := by
            cases written with
            | nil => simp
            | cons first more =>
                simp only [List.mem_cons, not_or] at unbroken
                exact ⟨Ne.symm unbroken.1.1, Ne.symm unbroken.2.1, unbroken.1.2, unbroken.2.2⟩
          rw [List.append_cons]
          refine ih (output ++ [call]) _ written.tail ?_ fine.2.2 done
          by_cases mine : call.conn = conn
          · subst mine
            rw [Function.update_self, texts_append, shut_append]
            exact perform_carried _ middle _ _ call _ carried ⟨fine.1, fine.2.1⟩ performed
          · obtain ⟨silent, still⟩ := nothing_said conn [call] (by simpa using mine)
            rw [Function.update_of_ne (Ne.symm mine), texts_append, shut_append, silent, still, ite_self, List.append_nil,
              Bool.or_false]
            exact carried

namespace Lobby

-- The server only ever speaks to connections that have come.
theorem step_tells (s t : Lobby κ) (label : LobbyLabel κ) (arrived : List κ) (hosting : Hosting s arrived)
    (taken : s.step label = some t) :
    ∃ more, t.server.output = s.server.output ++ more ∧ ∀ o ∈ more, o.conn ∈ arrived ++ (arrival label).toList := by
  have player : ∀ p : Nat, p < arrived.length → (s.server.player p).conn ∈ arrived := fun p below => by
    rw [(hosting.hosts.named p arrived[p] (List.getElem?_eq_getElem below)).2]
    exact List.getElem_mem below
  have does := step_does s t label hosting.inv hosting.readable taken
  generalize s.handed label = handed at does
  cases does with
  | waits conn nobody same =>
      refine ⟨_, by rw [same, s.server.on_connection_waits conn nobody]; rfl, fun o member => ?_⟩
      rw [List.mem_singleton.mp member]
      exact List.mem_append_right _ (List.mem_singleton.mpr rfl)
  | pairs conn p waits paired =>
      have first : (t.server.player p).conn ∈ arrived := by
        rw [paired.partner]
        refine player p ?_
        have below := (hosting.inv.waiting p waits).1
        rwa [hosting.hosts.nextPlayer] at below
      have second : (t.server.player s.server.nextPlayer).conn = conn := by
        rw [paired.newcomer]
        rfl
      refine ⟨[.send (t.server.player p).conn "Game start\n", .send (t.server.player s.server.nextPlayer).conn "Game start\n",
        .send (t.server.player p).conn rule, .send (t.server.player s.server.nextPlayer).conn rule], ?_, fun o member => ?_⟩
      · rw [paired.output]
        simp [Game.start, Game.send, GameRoom.new]
      · simp only [List.mem_cons, List.not_mem_nil, or_false] at member
        rcases member with rfl | rfl | rfl | rfl
        · exact List.mem_append_left _ first
        · exact List.mem_append_right _ (List.mem_singleton.mpr second)
        · exact List.mem_append_left _ first
        · exact List.mem_append_right _ (List.mem_singleton.mpr second)
  | leaves conn same =>
      exact ⟨[], by rw [same, List.append_nil], fun o member => absurd member List.not_mem_nil⟩
  | unheard conn result randomNum said answer same =>
      refine ⟨said, by rw [same], fun o member => ?_⟩
      rcases answer with rfl | ⟨mapped, rfl⟩
      · cases member
      · obtain ⟨p, found⟩ := Option.ne_none_iff_exists'.mp mapped
        rw [List.mem_singleton.mp member]
        exact List.mem_append_left _ (known_arrived s arrived hosting conn p found)
  | plays conn result randomNum id room cmd mapped assigned member plays =>
      obtain ⟨-, below, -⟩ := hosting.hosts.plays s.server t.server arrived room id cmd randomNum member plays
      obtain ⟨more, output, among⟩ := Game.command_tells (s.server.game room) id cmd randomNum
        (hosting.hosts.games room below).distinct
      refine ⟨more, plays.output.trans output, fun o spoken => List.mem_append_left _ ?_⟩
      obtain ⟨other, rfl | seated, named⟩ := among o spoken
      · rw [named]
        exact (hosting.inv.mapped conn other mapped).2 ▸ known_arrived s arrived hosting conn other mapped
      · rw [named]
        exact player other (hosting.hosts.seated_came s.server arrived room other below seated)

end Lobby

namespace Host

def arrival : HostLabel κ → Option κ
  | .lobby label _ => Lobby.arrival label
  | .handleWrite _ _ => none

-- A connection is new until it comes, and from then on until it goes down it
-- carries what has been said to it.
structure Inv (sockfd : κ → Nat) (mark : Nat) (s : Host κ) (arrived : List κ) : Prop where
  showing : Lobby.Showing s.lobby arrived
  strangers : ∀ conn, conn ∉ arrived → ∀ o ∈ s.lobby.server.output, o.conn ≠ conn
  untouched : ∀ conn, conn ∉ arrived → s.tcp conn = .new (sockfd conn) false false mark
  carried : ∀ conn, s.lobby.phase conn = .up →
    Carried (s.tcp conn) (texts conn s.lobby.server.output) (shut conn s.lobby.server.output)

theorem carry_out_elsewhere (calls : List (Output κ)) (tcp next : κ → TcpConnection) (written : List WriteResult) (conn : κ)
    (others : ∀ o ∈ calls, o.conn ≠ conn) (done : carryOut tcp calls written = .ok next) : next conn = tcp conn := by
  induction calls generalizing tcp written with
  | nil =>
      cases done
      rfl
  | cons call rest ih =>
      cases performed : call.perform (tcp call.conn) (written.headD (.room 0)) with
      | error stop =>
          simp only [carryOut, performed] at done
          cases done
      | ok middle =>
          simp only [carryOut, performed] at done
          rw [ih _ written.tail (fun o member => others o (List.mem_cons_of_mem _ member)) done,
            Function.update_of_ne (Ne.symm (others call List.mem_cons_self))]

-- What the lobby step finds of the connections when it starts to speak.
theorem before_carried (s : Host κ) (lobby : Lobby κ) (label : LobbyLabel κ) (tcp : κ → TcpConnection) (sockfd : κ → Nat)
    (mark : Nat) (arrived : List κ) (inv : Inv sockfd mark s arrived) (taken : s.lobby.step label = some lobby)
    (handled : s.before label = .ok tcp) :
    (∀ conn, conn ∉ arrived ++ (Lobby.arrival label).toList → tcp conn = s.tcp conn) ∧
    ∀ conn, lobby.phase conn = .up →
      Carried (tcp conn) (texts conn s.lobby.server.output) (shut conn s.lobby.server.output) := by
  have phase := s.lobby.step_phase lobby label taken
  cases label with
  | up c =>
      have new := Lobby.arrival_new s.lobby lobby _ arrived inv.showing.hosting taken c rfl
      simp only [before, inv.untouched c new, TcpConnection.new_connect_established, Except.map, Except.ok.injEq] at handled
      subst handled
      refine ⟨fun conn stranger => Function.update_of_ne (fun same => stranger (by simp [same, Lobby.arrival])) _ _,
        fun conn up => ?_⟩
      by_cases mine : conn = c
      · subst mine
        obtain ⟨silent, still⟩ := nothing_said conn _ (inv.strangers conn new)
        rw [Function.update_self, silent, still]
        exact ⟨TcpConnection.established_open _ _ _ _, Buffer.new_readable kInitiaSize, rfl, fun issued => by cases issued⟩
      · rw [Function.update_of_ne mine]
        exact inv.carried conn (by simpa [phase, mine] using up)
  | down c =>
      cases closed : (s.tcp c).handleClose with
      | error stop =>
          simp only [before, closed, Except.map] at handled
          cases handled
      | ok next =>
          simp only [before, closed, Except.map, Except.ok.injEq] at handled
          subst handled
          refine ⟨fun conn stranger => ?_, fun conn up => ?_⟩
          · have here := Lobby.phase_arrived s.lobby arrived inv.showing.hosting c (by
              simp only [Lobby.step, Option.ite_none_right_eq_some] at taken
              simp [taken.1])
            have other : conn ≠ c := by
              rintro rfl
              exact stranger (List.mem_append_left _ here)
            exact Function.update_of_ne other _ _
          · have other : conn ≠ c := by
              rintro rfl
              simp [phase] at up
            rw [Function.update_of_ne other]
            exact inv.carried conn (by simpa [phase, other] using up)
  | message c result randomNum =>
      cases handled
      exact ⟨fun _ _ => rfl, fun conn up => inv.carried conn (by rwa [phase] at up)⟩

theorem lobby_inv (s : Host κ) (lobby : Lobby κ) (label : LobbyLabel κ) (tcp next : κ → TcpConnection)
    (written : List WriteResult) (sockfd : κ → Nat) (mark : Nat) (arrived : List κ) (inv : Inv sockfd mark s arrived)
    (unbroken : .error .EPIPE ∉ written ∧ .error .ECONNRESET ∉ written) (taken : s.lobby.step label = some lobby)
    (handled : s.before label = .ok tcp)
    (done : carryOut tcp (lobby.server.output.drop s.lobby.server.output.length) written = .ok next) :
    Inv sockfd mark ⟨lobby, next⟩ (arrived ++ (Lobby.arrival label).toList) := by
  obtain ⟨more, output, told⟩ := Lobby.step_tells s.lobby lobby label arrived inv.showing.hosting taken
  obtain ⟨kept, carried⟩ := s.before_carried lobby label tcp sockfd mark arrived inv taken handled
  rw [output, List.drop_left] at done
  refine ⟨Lobby.step_showing s.lobby lobby label arrived inv.showing taken, fun conn stranger o spoken => ?_,
    fun conn stranger => ?_, fun conn up => ?_⟩
  · rw [output] at spoken
    rcases List.mem_append.mp spoken with old | new
    · exact inv.strangers conn (fun known => stranger (List.mem_append_left _ known)) o old
    · rintro rfl
      exact stranger (told o new)
  · change next conn = _
    rw [carry_out_elsewhere more tcp next written conn (fun o spoken same => stranger (same ▸ told o spoken)) done,
      kept conn stranger]
    exact inv.untouched conn fun known => stranger (List.mem_append_left _ known)
  · change Carried (next conn) (texts conn lobby.server.output) (shut conn lobby.server.output)
    rw [output]
    exact carry_out_carried more s.lobby.server.output tcp next written conn (carried conn up) unbroken done

theorem write_inv (s : Host κ) (conn : κ) (result : WriteResult) (next : TcpConnection) (queued : List Notice)
    (sockfd : κ → Nat) (mark : Nat) (arrived : List κ) (inv : Inv sockfd mark s arrived)
    (within : s.lobby.phase conn = .up → (s.tcp conn).WithinBacklog result)
    (done : (s.tcp conn).handleWrite result = .ok (next, queued)) :
    Inv sockfd mark ⟨s.lobby, Function.update s.tcp conn next⟩ arrived := by
  refine ⟨inv.showing, inv.strangers, fun other stranger => ?_, fun other up => ?_⟩
  · change Function.update s.tcp conn next other = _
    by_cases same : other = conn
    · subst same
      have quiet : (s.tcp other).channel.isWriting = false := by
        rw [inv.untouched other stranger]
        exact TcpConnection.no_events_quiet _ rfl
      rw [Function.update_self, (s.tcp other).handle_write_quiet next result queued quiet done]
      exact inv.untouched other stranger
    · rw [Function.update_of_ne same]
      exact inv.untouched other stranger
  · change Carried (Function.update s.tcp conn next other) _ _
    by_cases same : other = conn
    · subst same
      rw [Function.update_self]
      exact flush_carried (s.tcp other) next _ _ result queued (inv.carried other up) (within up) done
    · rw [Function.update_of_ne same]
      exact inv.carried other up

theorem step_inv (s t : Host κ) (label : HostLabel κ) (sockfd : κ → Nat) (mark : Nat) (arrived : List κ)
    (inv : Inv sockfd mark s arrived) (delivers : s.Delivers label) (taken : s.step label = some t) :
    Inv sockfd mark t (arrived ++ (arrival label).toList) := by
  cases label with
  | lobby label written =>
      simp only [step] at taken
      split at taken
      · next lobby tcp stepped handled =>
          split at taken
          · next next done =>
              cases taken
              exact s.lobby_inv lobby label tcp next written sockfd mark arrived inv delivers stepped handled done
          · cases taken
      · cases taken
  | handleWrite conn result =>
      simp only [step] at taken
      split at taken
      · next next queued done =>
          cases taken
          rw [show (arrival (.handleWrite conn result)).toList = [] from rfl, List.append_nil]
          exact s.write_inv conn result next queued sockfd mark arrived inv delivers done
      · cases taken

end Host

end

-- What a player's socket is given is what the server has said to him up to the
-- end of his game, in full and in order, and it shows him his own game. Nothing
-- is left to send once the socket has been shut down.
theorem texts_delivered {κ : Type} [DecidableEq κ] (player : PlayerId → Player κ) (room : RoomId → GameRoom)
    (sockfd : κ → Nat) (mark : Nat) (labels : List (HostLabel κ)) (final : Host κ)
    (delivers : Guarded Host.step Host.Delivers (.new player room sockfd mark) labels)
    (ran : run Host.step (.new player room sockfd mark) labels = some final) :
    let arrived := labels.filterMap Host.arrival
    ∀ (p : Nat) conn, arrived[p]? = some conn → final.lobby.phase conn = .up →
      let said := texts conn final.lobby.server.output
      (final.tcp conn).wire ++ (final.tcp conn).outputBuffer.readable = bytes said ∧
        (p / 2 < arrived.length / 2 → Game.Follows (final.lobby.server.game (p / 2)) p
          { said.foldl display blank with closed := (final.tcp conn).state == .kDisconnecting }) ∧
        ((final.tcp conn).shutWr = true → (final.tcp conn).outputBuffer.readable = [] ∧ p / 2 < arrived.length / 2 ∧
          (final.lobby.server.room (p / 2)).finished = true) := by
  intro arrived p conn there up said
  have start : Host.Inv sockfd mark (.new player room sockfd mark) [] :=
    ⟨Lobby.new_showing player room, fun _ _ o spoken => absurd spoken List.not_mem_nil, fun _ _ => rfl,
      fun conn up => by cases up⟩
  have inv := guarded_history Host.step Host.Delivers Host.arrival (Host.Inv sockfd mark)
    (fun s label t past inv delivers taken => Host.step_inv s t label sockfd mark past inv delivers taken) _ final labels []
    start delivers ran
  rw [List.nil_append] at inv
  have carried := inv.carried conn up
  have closed : ((final.tcp conn).state == .kDisconnecting) = shut conn final.lobby.server.output := by
    rw [carried.state]
    cases shut conn final.lobby.server.output <;> rfl
  have screen := after_texts conn final.lobby.server.output
  refine ⟨carried.stream, fun playing => ?_, fun issued => ?_⟩
  · rw [closed, ← screen]
    exact inv.showing.shown.playing p conn there playing
  · obtain ⟨ended, drained⟩ := carried.final issued
    refine ⟨drained, ?_⟩
    by_cases playing : p / 2 < arrived.length / 2
    · have follows := (inv.showing.shown.playing p conn there playing).closed
      rw [screen] at follows
      exact ⟨playing, follows.symm.trans ended⟩
    · rw [inv.showing.shown.waiting p conn there (Nat.not_lt.mp playing)] at screen
      cases (congrArg Screen.closed screen).trans ended

-- The second player's socket takes five bytes at first; his opponent hits him
-- before the rest is flushed.
def meetAndFlush : List (HostLabel Nat) :=
  [.lobby (.up 7) [.room 1000], .lobby (.up 8) [.room 1000, .room 5, .room 1000],
    .lobby (.message 7 (.arrived [97]) fixedDamage) [.room 1000], .handleWrite 8 (.room 100)]

theorem texts_delivered_flushed :
    ∃ final, run Host.step (.new (fun _ => .new 0 0) (fun _ => .new 0 0) (fun conn => conn) 0) meetAndFlush = some final ∧
      let said := texts 8 final.lobby.server.output
      (final.tcp 8).wire ++ (final.tcp 8).outputBuffer.readable = bytes said ∧ (final.tcp 8).wire.length = 105 ∧
      Game.Follows (final.lobby.server.game 0) 1
        { said.foldl display blank with closed := (final.tcp 8).state == .kDisconnecting } := by
  have facts : (run Host.step (.new (fun _ => .new 0 0) (fun _ => .new 0 0) (fun conn => conn) 0) meetAndFlush).map
      (fun s => (s.lobby.phase 8, (s.tcp 8).wire.length)) = some (.up, 105) := by decide +kernel
  obtain ⟨final, ran, both⟩ := Option.map_eq_some_iff.mp facts
  obtain ⟨up, length⟩ := Prod.mk.inj both
  obtain ⟨stream, follows, -⟩ := texts_delivered _ _ _ 0 meetAndFlush final (by decide +kernel) ran 1 8 rfl up
  exact ⟨final, ran, stream, length, follows (by decide)⟩

end Cmuduo.Example
