import Cmuduo.Lib.Refinement
import Cmuduo.Net.Server.Descriptors

set_option autoImplicit false

namespace Cmuduo.Net

open Machine

-- One EpollPoller for each loop, and a call of a connection on it, with what the
-- connection's channel is afterwards. The channels of wakeupFd_ and of the acceptor,
-- which are in these pollers too, are left out: their descriptors are their own.
abbrev Pollers := LoopId → Poller ConnId

structure PollerCommand where
  loop : LoopId
  conn : ConnId
  call : ChannelCall
  left : Channel
deriving DecidableEq, Repr

namespace Pollers

def new : Pollers := fun _ => .new

def step (pollers : Pollers) (command : PollerCommand) : Option Pollers :=
  let result := command.call.onPoller command.conn (pollers command.loop)
  if (pollers command.loop).exited = none ∧ result.1 = command.left then
    some (Function.update pollers command.loop result.2)
  else none

end Pollers

namespace System

def pollerCommands (s : System) (label : Label) (t : System) : List PollerCommand :=
  match s.running label with
  | none => []
  | some (id, task) =>
      match s.conns id, t.conns id with
      | some conn, some next =>
          ((conn.pollerCall next task).map fun call => ⟨conn.loop, id, call, next.tcp.channel⟩).toList
      | _, _ => []

-- The pollers have of each connection what its own slot says, and nothing
-- besides.
structure Backs (s : System) (pollers : Pollers) : Prop where
  running : ∀ l, (pollers l).exited = none
  entered : ∀ id conn, s.conns id = some conn → conn.tcp.slot ≠ Slot.empty →
    (pollers conn.loop).slot conn.tcp.channel.fd = conn.tcp.slot.named id
  unused : ∀ l fd, (∀ id conn, s.conns id = some conn → conn.loop = l → conn.tcp.channel.fd = fd →
    conn.tcp.slot = Slot.empty) → (pollers l).slot fd = Slot.empty

theorem backs_undisturbed (s t : System) (label : Label) (pollers : Pollers) (backs : Backs s pollers)
    (undisturbing : Undisturbing s t label) : Backs t pollers := by
  refine ⟨backs.running, fun id next there some => ?_, fun l fd absent => backs.unused l fd fun id conn found here same => ?_⟩
  · cases before : s.conns id with
    | none => exact absurd (undisturbing.created id next before there).2.2 some
    | some conn =>
        obtain ⟨after, still, entry⟩ := undisturbing.kept id conn before
        obtain rfl := Option.some.inj (there.symm.trans still)
        rw [entry.slot] at some
        rw [entry.loop, entry.channel, entry.slot]
        exact backs.entered id conn before some
  · obtain ⟨next, there, entry⟩ := undisturbing.kept id conn found
    rw [← entry.slot]
    exact absent id next there (entry.loop.trans here) (by rw [entry.channel]; exact same)

theorem backs_here (s : System) (pollers : Pollers) (id : ConnId) (conn : Connection) (backs : Backs s pollers)
    (found : s.conns id = some conn) (alone : Alone s id conn) :
    (pollers conn.loop).slot conn.tcp.channel.fd = conn.tcp.slot.named id := by
  by_cases empty : conn.tcp.slot = Slot.empty
  · rw [empty, backs.unused conn.loop conn.tcp.channel.fd fun other next there here same => ?_]
    · rfl
    · by_cases own : other = id
      · subst own
        obtain rfl := Option.some.inj (there.symm.trans found)
        exact empty
      · exact alone other next there own here same
  · exact backs.entered id conn found empty

theorem backs_performed (s t : System) (pollers : Pollers) (id : ConnId) (conn next : Connection) (poller : Poller ConnId)
    (backs : Backs s pollers) (found : s.conns id = some conn) (alone : Alone s id conn)
    (conns : t.conns = Function.update s.conns id (some next)) (loop : next.loop = conn.loop)
    (fd : next.tcp.channel.fd = conn.tcp.channel.fd)
    (serves : Serves (pollers conn.loop) poller conn.tcp.channel.fd (next.tcp.slot.named id)) :
    Backs t (Function.update pollers conn.loop poller) := by
  have elsewhere : ∀ l place, ¬(l = conn.loop ∧ place = conn.tcp.channel.fd) →
      (Function.update pollers conn.loop poller l).slot place = (pollers l).slot place := by
    intro l place other
    by_cases here : l = conn.loop
    · subst here
      rw [Function.update_self]
      exact serves.elsewhere place fun same => other ⟨rfl, same⟩
    · rw [Function.update_of_ne here]
  refine ⟨fun l => ?_, fun other after there some => ?_, fun l place absent => ?_⟩
  · by_cases here : l = conn.loop
    · rw [here, Function.update_self]
      exact serves.running
    · rw [Function.update_of_ne here]
      exact backs.running l
  · rw [conns, Function.update_apply] at there
    by_cases own : other = id
    · rw [if_pos own, Option.some.injEq] at there
      rw [← there, own, loop, fd, Function.update_self]
      exact serves.here
    · rw [if_neg own] at there
      rw [elsewhere _ _ fun place => some (alone other after there own place.1 place.2)]
      exact backs.entered other after there some
  · by_cases place' : l = conn.loop ∧ place = conn.tcp.channel.fd
    · obtain ⟨rfl, rfl⟩ := place'
      have empty := absent id next (by rw [conns, Function.update_self]) loop fd
      rw [Function.update_self, serves.here, empty]
      rfl
    · rw [elsewhere l place place']
      refine backs.unused l place fun other old there here same => ?_
      by_cases own : other = id
      · subst own
        obtain rfl := Option.some.inj (there.symm.trans found)
        exact absurd ⟨here.symm, same.symm⟩ place'
      · exact absent other old (by rw [conns, Function.update_of_ne own, there]) here same

theorem performs_backs (s t : System) (pollers : Pollers) (id : ConnId) (conn next : Connection)
    (call : ChannelCall) (backs : Backs s pollers) (found : s.conns id = some conn) (alone : Alone s id conn)
    (conns : t.conns = Function.update s.conns id (some next)) (loop : next.loop = conn.loop)
    (fd : call.channel.fd = conn.tcp.channel.fd)
    (done : call.onSlot () conn.tcp.slot = .ok (next.tcp.channel, next.tcp.slot)) :
    ∃ after, pollers.step ⟨conn.loop, id, call, next.tcp.channel⟩ = some after ∧ Backs t after := by
  have named := on_slot_named call id conn.tcp.slot next.tcp.slot next.tcp.channel done
  rw [← backs_here s pollers id conn backs found alone, ← fd] at named
  obtain ⟨left, serves⟩ := on_poller_serves call id (pollers conn.loop) next.tcp.channel _ (backs.running conn.loop) named
  refine ⟨_, if_pos ⟨backs.running conn.loop, left⟩, ?_⟩
  rw [fd] at serves
  obtain ⟨index, same⟩ := on_slot_left call conn.tcp.slot next.tcp.slot next.tcp.channel done
  exact backs_performed s t pollers id conn next _ backs found alone conns loop (by rw [same]; exact fd) serves

theorem refines_pollers : Refines step Pollers.step pollerCommands (fun s label => label.OnLoop ∧ FreshDescriptor s label)
    Sharing Backs := by
  constructor
  · rintro s label t sharing ⟨onLoop, fresh⟩ taken
    exact step_sharing s t label sharing onLoop fresh taken
  · rintro s label t pollers sharing ⟨onLoop, -⟩ backs taken
    have acts := step_acts s t label sharing.settles.1 onLoop taken
    rw [pollerCommands]
    cases runs : s.running label with
    | none =>
        rw [runs] at acts
        cases acts with
        | nothing undisturbing => exact ⟨pollers, rfl, backs_undisturbed s t label pollers backs undisturbing⟩
    | some pair =>
        rw [runs] at acts
        cases acts with
        | performs id conn task answer effect found performs conns =>
            have there : t.conns id = some effect.conn := by rw [conns, Function.update_self]
            have loop : effect.conn.loop = conn.loop := by cases performs <;> rfl
            have polls := Connection.performs_polls performs
            simp only [found, there]
            cases call : conn.pollerCall effect.conn task with
            | none =>
                rw [call] at polls
                cases polls with
                | leaves channel slot =>
                    refine ⟨pollers, rfl, backs_undisturbed s t label pollers backs ?_⟩
                    exact undisturbing_set s t label id conn effect.conn found ⟨loop, channel, slot⟩ conns
            | some made =>
                have owned := running_owned s label id conn effect.conn task sharing runs found (by rw [call]; simp)
                rw [call] at polls
                cases polls with
                | makes made fd done =>
                    obtain ⟨after, ran, there⟩ := performs_backs s t pollers id conn effect.conn made backs found
                      (sharing_alone s id conn sharing found owned) conns loop fd done
                    exact ⟨after, (run_cons _ _ _ _ _).mpr ⟨after, ran, rfl⟩, there⟩

-- Nothing has ended the process, the tables of each poller and the interest sets
-- of the kernel are those that the connections' own slots make up, and whatever
-- they point to is a connection that something of the server still holds.
structure Tabled (s : System) (pollers : Pollers) : Prop where
  running : ∀ l, (pollers l).exited = none
  channels : ∀ l fd id, (pollers l).channels fd = some id ↔
    ∃ conn, s.conns id = some conn ∧ conn.loop = l ∧ conn.tcp.channel.fd = fd ∧ conn.tcp.slot.channels = some ()
  interest : ∀ l fd id events, (pollers l).interest fd = some (events, id) ↔
    ∃ conn, s.conns id = some conn ∧ conn.loop = l ∧ conn.tcp.channel.fd = fd ∧ conn.tcp.slot.interest = some (events, ())
  held : ∀ l fd id, (pollers l).channels fd = some id ∨ (∃ events, (pollers l).interest fd = some (events, id)) →
    ∃ conn, s.conns id = some conn ∧ s.Owned id conn

-- An entry of a poller is that of one connection.
theorem backs_entry (s : System) (pollers : Pollers) (backs : Backs s pollers) (l : LoopId) (fd : Nat)
    (entry : (pollers l).slot fd ≠ Slot.empty) :
    ∃ id conn, s.conns id = some conn ∧ conn.loop = l ∧ conn.tcp.channel.fd = fd ∧ conn.tcp.slot ≠ Slot.empty ∧
      (pollers l).slot fd = conn.tcp.slot.named id := by
  by_contra nobody
  refine entry (backs.unused l fd fun id conn found here same => ?_)
  by_contra some
  have entered := backs.entered id conn found some
  rw [here, same] at entered
  exact nobody ⟨id, conn, found, here, same, some, entered⟩

theorem backs_tabled (s : System) (pollers : Pollers) (sharing : Sharing s) (backs : Backs s pollers) : Tabled s pollers := by
  have entered : ∀ l fd id, (pollers l).channels fd = some id ∨ (∃ events, (pollers l).interest fd = some (events, id)) →
      ∃ conn, s.conns id = some conn ∧ conn.loop = l ∧ conn.tcp.channel.fd = fd ∧ conn.tcp.slot ≠ Slot.empty ∧
        (pollers l).slot fd = conn.tcp.slot.named id := by
    intro l fd id some
    have entry : (pollers l).slot fd ≠ Slot.empty := by
      intro empty
      obtain ⟨none, absent⟩ := Slot.mk.inj empty
      rcases some with mapped | ⟨events, watched⟩
      · cases none.symm.trans mapped
      · cases absent.symm.trans watched
    obtain ⟨owner, conn, found, here, same, kept, slot⟩ := backs_entry s pollers backs l fd entry
    obtain ⟨channels, interest⟩ := Slot.mk.inj slot
    have own : owner = id := by
      rcases some with mapped | ⟨events, watched⟩
      · rw [mapped] at channels
        obtain ⟨_, -, named⟩ := Option.map_eq_some_iff.mp channels.symm
        exact named
      · rw [watched] at interest
        obtain ⟨_, -, named⟩ := Option.map_eq_some_iff.mp interest.symm
        exact (Prod.mk.inj named).2
    subst own
    exact ⟨conn, found, here, same, kept, slot⟩
  refine ⟨backs.running, fun l fd id => ⟨fun mapped => ?_, ?_⟩, fun l fd id events => ⟨fun watched => ?_, ?_⟩,
    fun l fd id some => ?_⟩
  · obtain ⟨conn, found, here, same, -, slot⟩ := entered l fd id (.inl mapped)
    obtain ⟨channels, -⟩ := Slot.mk.inj slot
    rw [mapped] at channels
    obtain ⟨_, present, -⟩ := Option.map_eq_some_iff.mp channels.symm
    exact ⟨conn, found, here, same, present⟩
  · rintro ⟨conn, found, rfl, rfl, present⟩
    have slot := backs.entered id conn found fun empty => by rw [empty] at present; cases present
    exact (congrArg Slot.channels slot).trans (by rw [Slot.named, present]; rfl)
  · obtain ⟨conn, found, here, same, -, slot⟩ := entered l fd id (.inr ⟨events, watched⟩)
    obtain ⟨-, interest⟩ := Slot.mk.inj slot
    rw [watched] at interest
    obtain ⟨entry, present, named⟩ := Option.map_eq_some_iff.mp interest.symm
    exact ⟨conn, found, here, same, present.trans (congrArg some (Prod.ext (Prod.mk.inj named).1 rfl))⟩
  · rintro ⟨conn, found, rfl, rfl, present⟩
    have slot := backs.entered id conn found fun empty => by rw [empty] at present; cases present
    exact (congrArg Slot.interest slot).trans (by rw [Slot.named, present]; rfl)
  · obtain ⟨conn, found, -, -, kept, -⟩ := entered l fd id some
    exact ⟨conn, found, s.see_owned id conn ((s.see id conn).entry_owned
      (sharing.settles.2 id _ (view_found s id conn found)) kept)⟩

end System

-- The connections of a loop share its poller, by descriptor, and descriptors are
-- used again: what one connection does to its own slot is what the poller of all
-- of them does.
theorem pollers_shared (name : List Char) (listen : Base.InetAddress) (labels : List Label) (s : System)
    (onLoop : ∀ label ∈ labels, label.OnLoop) (fresh : Guarded System.step System.FreshDescriptor (.new name listen) labels)
    (ran : run System.step (.new name listen) labels = some s) :
    ∃ pollers, run Pollers.step .new (outputs System.step System.pollerCommands (.new name listen) labels) = some pollers ∧
      s.Tabled pollers := by
  have allowed := guarded_both System.step (fun _ label => label.OnLoop) System.FreshDescriptor
    (fun s label => label.OnLoop ∧ System.FreshDescriptor s label) (fun _ _ here new => ⟨here, new⟩) _ labels
    (guarded_labels System.step _ Label.OnLoop (fun _ _ here => here) _ labels onLoop) fresh
  have start : System.Sharing (.new name listen) :=
    ⟨System.new_every_view _ name listen, fun _ _ _ _ seen => by cases seen⟩
  obtain ⟨pollers, done, backs⟩ := System.refines_pollers.run_related (.new name listen) s labels .new start
    ⟨fun _ => rfl, fun _ _ found => (by cases found), fun _ _ _ => rfl⟩ allowed ran
  have sharing := guarded_invariant System.step _ System.Sharing
    (fun s label t sharing allowed taken => System.step_sharing s t label sharing allowed.1 allowed.2 taken) _ s labels start
    allowed ran
  exact ⟨pollers, done, System.backs_tabled s pollers sharing backs⟩

-- Connection 2 is accepted with the descriptor of connection 1, which has been
-- torn down, and comes up on the same loop.
def reusesDescriptor : List Label :=
  closesFromPeer ++ [.iterate 0, .poll 0 [], .accept 5 1 false false 0, .iterate 1, .poll 1 [], .swap 1, .functor 1 .none,
    .exec 1 .none, .userReturns 1]

theorem pollers_shared_reused :
    ∃ s pollers, run System.step listening reusesDescriptor = some s ∧
      run Pollers.step .new (outputs System.step System.pollerCommands listening reusesDescriptor) = some pollers ∧
      (pollers 1).channels 5 = some 2 := by
  have facts : (run System.step listening reusesDescriptor).bind (fun s => (s.conns 2).map fun conn =>
      (conn.loop, conn.tcp.channel.fd, conn.tcp.slot.channels)) = some (1, 5, some ()) := by decide +kernel
  obtain ⟨s, ran, seen⟩ := Option.bind_eq_some_iff.mp facts
  obtain ⟨conn, found, same⟩ := Option.map_eq_some_iff.mp seen
  obtain ⟨loop, fd, entry⟩ := by simpa only [Prod.mk.injEq] using same
  obtain ⟨pollers, done, tabled⟩ :=
    pollers_shared _ _ reusesDescriptor s (by decide) (by decide +kernel) ran
  exact ⟨s, pollers, ran, done, (tabled.channels 1 5 2).mpr ⟨conn, found, loop, fd, entry⟩⟩

end Cmuduo.Net
