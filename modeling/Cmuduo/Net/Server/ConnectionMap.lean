import Cmuduo.Lib.Directory
import Cmuduo.Net.Server.Simulation
import Mathlib.Data.List.Induction

set_option autoImplicit false

namespace Cmuduo.Net

open Base Machine

-- The calls that change connectionMap_, in any order, each made on the server's
-- loop with nothing else to do there.
inductive MapLabel where
  | newConnection (sockfd : Nat) (ioLoop : LoopId) (writeComplete highWater : Bool) (mark : Nat)
  | removeConnectionInLoop (id : ConnId)
deriving DecidableEq

def MapLabel.accepts : MapLabel → Bool
  | .newConnection .. => true
  | .removeConnectionInLoop _ => false

namespace System

def nameOf (s : System) (id : ConnId) : Option (List Char) := (s.conns id).map (·.name)

def mapStep (s : System) : MapLabel → Option System
  | .newConnection sockfd ioLoop writeComplete highWater mark =>
      -- nextConnId_++ on the largest int is undefined
      if s.nextConnId + 1 < 2 ^ 31 then some (s.newConnection ioLoop (.new sockfd writeComplete highWater mark))
      else none
  | .removeConnectionInLoop id => s.call mainLoop id .removeConnectionInLoop [] .none

def RemovesAccepted (s : System) : MapLabel → Prop
  | .newConnection .. => True
  | .removeConnectionInLoop id => s.nameOf id ≠ none

instance (s : System) : (label : MapLabel) → Decidable (s.RemovesAccepted label)
  | .newConnection .. => .isTrue trivial
  | .removeConnectionInLoop id => inferInstanceAs (Decidable (s.nameOf id ≠ none))

-- After the calls in labels: the connections accepted, in the order of their
-- ids, with names that snprintf's buffer held whole, and no entry is in the way
-- of the next one.
structure MapsExactly (name : List Char) (listen : InetAddress) (labels : List MapLabel) (s : System) : Prop where
  next : s.nextConnId = labels.countP MapLabel.accepts + 1
  accepted : ∀ id, s.nameOf id ≠ none ↔ 1 ≤ id ∧ id < s.nextConnId
  whole : ∀ id key, s.nameOf id = some key →
    key = name ++ ('-' :: listen.toIpPort ++ '#' :: decimal id) ∧
      ('-' :: listen.toIpPort ++ '#' :: decimal id).length < 64
  distinct : Directory.Distinct s.nameOf
  free : s.connectionMap (connName name listen s.nextConnId) = none
  exact : Directory.Exact s.connectionMap s.nameOf (fun id => .removeConnectionInLoop id ∈ labels)

structure MapInv (name : List Char) (listen : InetAddress) (labels : List MapLabel) (s : System) : Prop where
  server : s.name = name ∧ s.listen = listen
  next : s.nextConnId = labels.countP MapLabel.accepts + 1
  accepted : ∀ id, s.nameOf id ≠ none ↔ 1 ≤ id ∧ id < s.nextConnId
  named : ∀ id key, s.nameOf id = some key → key = connName name listen id
  removed : ∀ id, .removeConnectionInLoop id ∈ labels → s.nameOf id ≠ none
  exact : Directory.Exact s.connectionMap s.nameOf (fun id => .removeConnectionInLoop id ∈ labels)

section
variable {name : List Char} {listen : InetAddress} {labels : List MapLabel} {s : System}

theorem new_map_inv (name : List Char) (listen : InetAddress) : MapInv name listen [] (.new name listen) := by
  refine ⟨⟨rfl, rfl⟩, rfl, fun id => ?_, fun id key found => ?_, fun id removed => ?_,
    Directory.exact_empty _⟩
  · constructor
    · intro named
      exact absurd rfl named
    · rintro ⟨low, high⟩
      exact absurd high (Nat.not_lt.mpr low)
  · cases found
  · cases removed

theorem map_inv_distinct (inv : MapInv name listen labels s) (bound : s.nextConnId < 2 ^ 31) :
    Directory.Distinct s.nameOf := by
  intro id other key here there
  have first := (inv.accepted id).mp (by simp [here])
  have second := (inv.accepted other).mp (by simp [there])
  exact conn_name_injective name listen id other (first.2.trans bound) (second.2.trans bound)
    ((inv.named id key here).symm.trans (inv.named other key there))

theorem map_inv_unused (inv : MapInv name listen labels s) (bound : s.nextConnId < 2 ^ 31) (id : ConnId) :
    s.nameOf id ≠ some (connName name listen s.nextConnId) := by
  intro taken
  have earlier := ((inv.accepted id).mp (by simp [taken])).2
  have same := conn_name_injective name listen s.nextConnId id bound (earlier.trans bound) (inv.named id _ taken)
  exact absurd same.symm earlier.ne

theorem map_inv_fresh (inv : MapInv name listen labels s) : s.nameOf s.nextConnId = none := by
  by_contra named
  exact Nat.lt_irrefl _ ((inv.accepted s.nextConnId).mp named).2

theorem map_inv_exactly (inv : MapInv name listen labels s) (bound : s.nextConnId < 2 ^ 31) :
    MapsExactly name listen labels s := by
  refine ⟨inv.next, inv.accepted, fun id key found => ?_, map_inv_distinct inv bound,
    Directory.exact_unused _ _ _ _ inv.exact (map_inv_unused inv bound), inv.exact⟩
  have small : id < 2 ^ 31 := ((inv.accepted id).mp (by simp [found])).2.trans bound
  have fits := conn_suffix_fits listen id small
  exact ⟨(inv.named id key found).trans (conn_name_whole name listen id small), by omega⟩

theorem new_connection_names (ioLoop : LoopId) (tcp : TcpConnection) :
    (s.newConnection ioLoop tcp).nameOf =
      Function.update s.nameOf s.nextConnId (some (connName s.name s.listen s.nextConnId)) := by
  have conns : (s.newConnection ioLoop tcp).conns =
      Function.update s.conns s.nextConnId (some (.new (connName s.name s.listen s.nextConnId) ioLoop tcp)) := by
    rw [newConnection]
    split <;> rfl
  funext id
  rw [nameOf, conns, Function.update_apply, Function.update_apply]
  by_cases here : id = s.nextConnId
  · simp [here, Connection.new]
  · simp [here, nameOf]

theorem new_connection_map (ioLoop : LoopId) (tcp : TcpConnection) :
    (s.newConnection ioLoop tcp).connectionMap =
      Function.update s.connectionMap (connName s.name s.listen s.nextConnId) (some s.nextConnId) := by
  rw [newConnection]
  split <;> rfl

theorem new_connection_server (ioLoop : LoopId) (tcp : TcpConnection) :
    ((s.newConnection ioLoop tcp).name = s.name ∧ (s.newConnection ioLoop tcp).listen = s.listen) ∧
      (s.newConnection ioLoop tcp).nextConnId = s.nextConnId + 1 := by
  rw [newConnection]
  split <;> exact ⟨⟨rfl, rfl⟩, rfl⟩

theorem map_inv_accepts (inv : MapInv name listen labels s) (sockfd : Nat) (ioLoop : LoopId)
    (writeComplete highWater : Bool) (mark : Nat) (tcp : TcpConnection) (bound : s.nextConnId < 2 ^ 31) :
    MapInv name listen (labels ++ [.newConnection sockfd ioLoop writeComplete highWater mark])
      (s.newConnection ioLoop tcp) := by
  obtain ⟨server, next⟩ := new_connection_server (s := s) ioLoop tcp
  have fresh := map_inv_fresh inv
  refine ⟨?_, ?_, fun id => ?_, fun id key found => ?_, fun id removed => ?_, ?_⟩
  · rw [server.1, server.2]
    exact inv.server
  · rw [next, inv.next, List.countP_append]
    rfl
  · rw [new_connection_names, next, Function.update_apply]
    by_cases here : id = s.nextConnId
    · simp [here, inv.next]
    · rw [if_neg here, inv.accepted id, Nat.lt_succ_iff_lt_or_eq, or_iff_left here]
  · rw [new_connection_names, Function.update_apply] at found
    by_cases here : id = s.nextConnId
    · rw [if_pos here, Option.some.injEq, inv.server.1, inv.server.2] at found
      rw [← found, here]
    · rw [if_neg here] at found
      exact inv.named id key found
  · have named := inv.removed id (by simpa using removed)
    have older : id ≠ s.nextConnId := fun same => named (same ▸ fresh)
    rwa [new_connection_names, Function.update_of_ne older]
  · rw [new_connection_names, new_connection_map, inv.server.1, inv.server.2]
    -- no removal so far was of the connection that is accepted now
    exact Directory.exact_congr _ _ _ _ (Directory.exact_insert _ _ _ _ _ inv.exact fresh (map_inv_unused inv bound)
      (fun removed => inv.removed _ removed fresh)) (fun id => by simp)

theorem map_inv_removes (inv : MapInv name listen labels s) (id : ConnId) (bound : s.nextConnId < 2 ^ 31)
    (accepted : s.nameOf id ≠ none) :
    ∃ t, s.mapStep (.removeConnectionInLoop id) = some t ∧
      MapInv name listen (labels ++ [.removeConnectionInLoop id]) t := by
  obtain ⟨key, named⟩ := Option.ne_none_iff_exists'.mp accepted
  obtain ⟨conn, found, rfl⟩ := Option.map_eq_some_iff.mp named
  let effect : Effect := { conn.plain with queue := [.connectDestroyed], erase := true }
  have taken : s.mapStep (.removeConnectionInLoop id) = some (s.apply mainLoop id [] effect) := by
    rw [mapStep, call, found]
    rfl
  have names : (s.apply mainLoop id [] effect).nameOf = s.nameOf := by
    funext other
    rw [nameOf, apply_conns, nameOf]
    by_cases here : other = id
    · simp [here, found, effect, Connection.plain]
    · rw [Function.update_of_ne here]
  have entries : (s.apply mainLoop id [] effect).connectionMap = Function.update s.connectionMap conn.name none :=
    apply_map s mainLoop id [] effect
  refine ⟨_, taken, inv.server, ?_, ?_, ?_, fun other removed => ?_, ?_⟩
  · exact inv.next.trans (by simp [MapLabel.accepts])
  · rw [names]
    exact inv.accepted
  · rw [names]
    exact inv.named
  · rw [names]
    by_cases here : other = id
    · rwa [here]
    · exact inv.removed other (by simpa [here] using removed)
  · rw [names, entries]
    exact Directory.exact_congr _ _ _ _
      (Directory.exact_erase _ _ _ id _ inv.exact (map_inv_distinct inv bound) named) (fun other => by simp)

-- The induction is on the calls in the order they are made, so that the
-- invariant can speak of all calls so far.
theorem map_run (name : List Char) (listen : InetAddress) (labels : List MapLabel)
    (few : labels.countP MapLabel.accepts < 2 ^ 31 - 1)
    (known : Guarded mapStep RemovesAccepted (.new name listen) labels) :
    ∃ s, run mapStep (.new name listen) labels = some s ∧ MapInv name listen labels s ∧ s.nextConnId < 2 ^ 31 := by
  induction labels using List.reverseRecOn with
  | nil => exact ⟨_, rfl, new_map_inv name listen, (by decide : 1 < 2 ^ 31)⟩
  | append_singleton labels label ih =>
      obtain ⟨before, allowed⟩ := (guarded_append _ _ _ _ _).mp known
      rw [List.countP_append] at few
      obtain ⟨s, ran, inv, bound⟩ := ih (by omega) before
      have next := inv.next
      cases label with
      | newConnection sockfd ioLoop writeComplete highWater mark =>
          rw [List.countP_singleton, MapLabel.accepts, if_pos rfl] at few
          have count : labels.countP MapLabel.accepts + 1 + 1 < 2 ^ 31 := by omega
          have room : s.nextConnId + 1 < 2 ^ 31 := by rwa [next]
          refine ⟨_, (run_append _ _ _ _ _).mpr ⟨s, ran, (run_cons _ _ _ _ _).mpr ⟨_, if_pos room, rfl⟩⟩,
            map_inv_accepts inv sockfd ioLoop writeComplete highWater mark _ bound, ?_⟩
          rw [(new_connection_server ioLoop _).2]
          exact room
      | removeConnectionInLoop id =>
          obtain ⟨t, taken, after⟩ := map_inv_removes inv id bound (allowed s ran).1
          refine ⟨t, (run_append _ _ _ _ _).mpr ⟨s, ran, (run_cons _ _ _ _ _).mpr ⟨t, taken, rfl⟩⟩, after, ?_⟩
          have same : t.nextConnId = s.nextConnId := by
            rw [after.next, next, List.countP_append]
            rfl
          exact same ▸ bound

end

end System

theorem connection_map_exact (name : List Char) (listen : InetAddress) (labels front : List MapLabel)
    (few : labels.countP MapLabel.accepts < 2 ^ 31 - 1)
    (known : Guarded System.mapStep System.RemovesAccepted (.new name listen) labels) (earlier : front <+: labels) :
    ∃ s, run System.mapStep (.new name listen) front = some s ∧ s.MapsExactly name listen front := by
  obtain ⟨back, rfl⟩ := earlier
  rw [List.countP_append] at few
  obtain ⟨s, ran, inv, bound⟩ := System.map_run name listen front (by omega) ((guarded_append _ _ _ _ _).mp known).1
  exact ⟨s, ran, System.map_inv_exactly inv bound⟩

def removesTwice : List MapLabel :=
  [.newConnection 5 1 false false 0, .newConnection 6 0 false false 0, .removeConnectionInLoop 1,
    .newConnection 5 2 false false 0, .removeConnectionInLoop 1]

theorem connection_map_exact_removed_twice :
    ∃ s, run System.mapStep (.new "echo".toList ⟨127, 0, 0, 1, 8000⟩) removesTwice = some s ∧
      s.MapsExactly "echo".toList ⟨127, 0, 0, 1, 8000⟩ removesTwice :=
  connection_map_exact _ _ removesTwice removesTwice (by decide) (by decide +kernel) List.prefix_rfl

example : (run System.mapStep (.new "echo".toList ⟨127, 0, 0, 1, 8000⟩) removesTwice).map
    (fun s => [1, 2, 3].map fun id => s.connectionMap (connName s.name s.listen id)) = some [none, some 2, some 3] := by
  decide +kernel

end Cmuduo.Net
