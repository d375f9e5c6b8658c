import Cmuduo.Lib.Region
import Cmuduo.Net.Registry

set_option autoImplicit false

namespace Cmuduo.Net

open Machine

section
variable {κ : Type}

-- struct epoll_event; no data is the null pointer of a fresh entry.
structure EpollEvent (κ : Type) where
  events : EventMask
  data : Option κ
deriving DecidableEq, Repr

def kInitEventListSize : Nat := 16

-- The answer of ::epoll_wait: the channels whose descriptors are ready, in the
-- order in which the kernel reports them, or -1.
inductive WaitResult (κ : Type) where
  | ready (channels : List (κ × EventMask))
  | error (errno : Errno)

-- An EpollPoller with its event list, and what it does to channels: revents_ and
-- the list that EventLoop::loop hands to poll. size is the count that
-- unordered_map keeps of channels_.
structure Polling (κ : Type) where
  registry : Registry κ
  size : Nat
  events : List (EpollEvent κ)
  revents : κ → EventMask
  activeChannels : List κ

inductive PollingLabel (κ : Type) where
  | channel (label : RegistryLabel κ)
  | poll (wait : WaitResult κ)

namespace Polling

def new (fd : κ → Nat) : Polling κ :=
  { registry := .new fd
    size := 0
    events := List.replicate kInitEventListSize ⟨0, none⟩
    revents := fun _ => 0
    activeChannels := [] }

-- The kernel puts the registered data pointer into the entry of a descriptor.
def event (registry : Registry κ) (ready : κ × EventMask) : EpollEvent κ :=
  ⟨ready.2, (registry.poller.interest (registry.channel ready.1).fd).map Prod.snd⟩

def epollWait (s : Polling κ) (ready : List (κ × EventMask)) : Nat × List (EpollEvent κ) :=
  let reported := (ready.map (event s.registry)).take s.events.length
  (reported.length, Region.overwrite s.events 0 reported)

-- reserve makes room for more entries of channels_ and changes none.
def reserve (s : Polling κ) (_count : Nat) : Polling κ := s

variable [DecidableEq κ]

-- The loop of fillActiveChannel from i on.
def fillActiveChannel (events : List (EpollEvent κ)) :
    Nat → Nat → (κ → EventMask) → List κ → Except Stop ((κ → EventMask) × List κ)
  | 0, _, revents, activeChannels => .ok (revents, activeChannels)
  | count + 1, i, revents, activeChannels =>
      match events[i]? with
      | none => .error .badAccess
      | some event =>
          match event.data with
          | none => .error .badAccess
          | some channel =>
              fillActiveChannel events count (i + 1) (Function.update revents channel event.events) (activeChannels ++ [channel])

def poll (s : Polling κ) (wait : WaitResult κ) (activeChannels : List κ) : Except Stop (Polling κ × List κ) :=
  let csize := s.size
  -- *events_.begin()
  if s.events = [] then .error .badAccess
  else
    match wait with
    | .error _ => .ok (s, activeChannels)
    | .ready ready =>
        let (numEvents, events) := s.epollWait ready
        let s := { s with events := events }
        if numEvents > 0 then
          match fillActiveChannel events numEvents 0 s.revents activeChannels with
          | .error stop => .error stop
          | .ok (revents, activeChannels) =>
              let s := { s with revents := revents }
              .ok (if numEvents = csize then s.reserve (csize + csize / 2) else s, activeChannels)
        else .ok (s, activeChannels)

-- The kernel reports descriptors of its interest set, each one once.
def MayReport (s : Polling κ) : WaitResult κ → Prop
  | .ready ready => (ready.map Prod.fst).Nodup ∧
      ∀ entry ∈ ready, (s.registry.poller.interest (s.registry.channel entry.1).fd).isSome = true
  | .error _ => True

instance (s : Polling κ) (wait : WaitResult κ) : Decidable (s.MayReport wait) := by
  unfold MayReport
  split <;> infer_instance

def sizeAfter (before after : Option κ) (size : Nat) : Nat :=
  match before, after with
  | none, some _ => size + 1
  | some _, none => size - 1
  | _, _ => size

def step (s : Polling κ) : PollingLabel κ → Option (Polling κ)
  | .channel label =>
      match s.registry.step label with
      | none => none
      | some registry =>
          let fd := (s.registry.channel label.channel).fd
          some { s with
            registry := registry
            size := sizeAfter (s.registry.poller.channels fd) (registry.poller.channels fd) s.size }
  | .poll wait =>
      if s.registry.poller.exited = none ∧ s.MayReport wait then
        match s.poll wait [] with
        | .error _ => none
        | .ok (next, activeChannels) => some { next with activeChannels := activeChannels }
      else none

end Polling

-- One poll: the entries it offered, how many channels were ready, and how many of
-- them it reported.
structure PollRecord where
  offered : Nat
  ready : Nat
  reported : Nat
deriving DecidableEq, Repr

namespace Polling

def records (s : Polling κ) : PollingLabel κ → Polling κ → List PollRecord
  | .channel _, _ => []
  | .poll (.ready ready), t => [⟨s.events.length, ready.length, t.activeChannels.length⟩]
  | .poll (.error _), t => [⟨s.events.length, 0, t.activeChannels.length⟩]

theorem event_registered (fd : κ → Nat) (s : Registry κ) (entry : κ × EventMask) (tracking : Registry.Tracking fd s)
    (present : (s.poller.interest (s.channel entry.1).fd).isSome = true) : event s entry = ⟨entry.2, some entry.1⟩ := by
  rw [(tracking entry.1).fd] at present
  rcases (tracking entry.1).mirrors with ⟨-, interest⟩ | ⟨-, interest⟩
  · rw [event, (tracking entry.1).fd, show s.poller.interest (fd entry.1) = _ from interest]
    rfl
  · rw [show s.poller.interest (fd entry.1) = none from interest] at present
    cases present

variable [DecidableEq κ]

structure Inv (fd : κ → Nat) (s : Polling κ) : Prop where
  registry : Registry.Inv fd s.registry
  events : s.events.length = kInitEventListSize

def setRevents (revents : κ → EventMask) (entry : κ × EventMask) : κ → EventMask :=
  Function.update revents entry.1 entry.2

-- By induction on the entries still to be read: i has come past the others.
theorem fill_active_channel (events : List (EpollEvent κ)) (reported : List (κ × EventMask))
    (rest : List (EpollEvent κ)) (i : Nat) (revents : κ → EventMask) (activeChannels : List κ)
    (there : events.drop i = reported.map (fun entry => ⟨entry.2, some entry.1⟩) ++ rest) :
    fillActiveChannel events reported.length i revents activeChannels =
      .ok (reported.foldl setRevents revents, activeChannels ++ reported.map Prod.fst) := by
  induction reported generalizing i revents activeChannels with
  | nil => rw [List.map_nil, List.append_nil]; rfl
  | cons entry reported ih =>
      have here : events[i]? = some ⟨entry.2, some entry.1⟩ := by
        have first := congrArg (fun l : List (EpollEvent κ) => l[0]?) there
        simpa using first
      have next : events.drop (i + 1) = reported.map (fun entry => ⟨entry.2, some entry.1⟩) ++ rest := by
        rw [← List.drop_drop, there]
        rfl
      rw [List.length_cons, fillActiveChannel, here]
      simp only
      rw [ih (i + 1) _ _ next]
      simp [setRevents]

theorem set_revents_once (reported : List (κ × EventMask)) (revents : κ → EventMask)
    (once : (reported.map Prod.fst).Nodup) :
    (∀ entry ∈ reported, reported.foldl setRevents revents entry.1 = entry.2) ∧
    ∀ c, c ∉ reported.map Prod.fst → reported.foldl setRevents revents c = revents c := by
  induction reported generalizing revents with
  | nil => simp
  | cons first rest ih =>
      rw [List.map_cons, List.nodup_cons] at once
      obtain ⟨set, kept⟩ := ih (setRevents revents first) once.2
      refine ⟨fun entry member => ?_, fun c absent => ?_⟩
      · rcases List.mem_cons.mp member with rfl | later
        · rw [List.foldl_cons, kept _ once.1]
          exact Function.update_self _ _ _
        · exact set entry later
      · rw [List.map_cons, List.mem_cons, not_or] at absent
        rw [List.foldl_cons, kept c absent.2]
        exact Function.update_of_ne absent.1 _ _

-- What a poll may change besides revents_ and the active list: what the entries
-- of the event list hold, but not how many there are.
structure Polls (s next : Polling κ) : Prop where
  registry : next.registry = s.registry
  events : next.events.length = s.events.length

theorem poll_ready (fd : κ → Nat) (s : Polling κ) (ready : List (κ × EventMask)) (activeChannels : List κ) (inv : Inv fd s)
    (running : s.registry.poller.exited = none) (may : s.MayReport (.ready ready)) :
    ∃ next, s.poll (.ready ready) activeChannels =
        .ok (next, activeChannels ++ (ready.take s.events.length).map Prod.fst) ∧ Polls s next ∧
      next.revents = (ready.take s.events.length).foldl setRevents s.revents := by
  have tracking := inv.registry.running running
  have registered : ready.map (event s.registry) = ready.map fun entry => ⟨entry.2, some entry.1⟩ :=
    List.map_congr_left fun entry member => event_registered fd s.registry entry tracking (may.2 entry member)
  have nonempty : s.events ≠ [] := by
    intro empty
    have size := inv.events
    rw [empty] at size
    cases size
  have few : (ready.take s.events.length).length ≤ s.events.length := List.length_take_le _ _
  simp only [poll, if_neg nonempty, epollWait, registered, ← List.map_take, List.length_map]
  generalize ready.take s.events.length = reported at few ⊢
  have kept : (Region.overwrite s.events 0 (reported.map fun entry => ⟨entry.2, some entry.1⟩)).length = s.events.length :=
    Region.overwrite_length _ _ _ (by rw [List.length_map]; omega)
  by_cases any : reported.length > 0
  · have there : (Region.overwrite s.events 0 (reported.map fun entry => ⟨entry.2, some entry.1⟩)).drop 0 =
        (reported.map fun entry => ⟨entry.2, some entry.1⟩) ++ s.events.drop (0 + reported.length) := by
      simp [Region.overwrite]
    rw [if_pos any, fill_active_channel _ reported _ 0 s.revents activeChannels there]
    simp only [reserve, ite_self]
    exact ⟨_, rfl, ⟨rfl, kept⟩, rfl⟩
  · have nothing : reported = [] := List.length_eq_zero_iff.mp (by omega)
    rw [if_neg any]
    rw [nothing] at kept ⊢
    refine ⟨{ s with events := Region.overwrite s.events 0 [] }, ?_, ⟨rfl, kept⟩, rfl⟩
    simp only [List.map_nil, List.append_nil]

theorem poll_error (fd : κ → Nat) (s : Polling κ) (errno : Errno) (activeChannels : List κ) (inv : Inv fd s) :
    s.poll (.error errno) activeChannels = .ok (s, activeChannels) := by
  rw [poll, if_neg]
  intro empty
  have size := inv.events
  rw [empty] at size
  cases size

-- What every poll does, in the order in which the kernel reports.
def Reports (s : Polling κ) (ready : List (κ × EventMask)) (activeChannels : List κ) : Prop :=
  ∃ next, s.poll (.ready ready) activeChannels =
      .ok (next, activeChannels ++ (ready.take s.events.length).map Prod.fst) ∧
    (∀ entry ∈ ready.take s.events.length, next.revents entry.1 = entry.2) ∧
    ∀ c, c ∉ (ready.take s.events.length).map Prod.fst → next.revents c = s.revents c

-- The record of a poll of an event list that never grows.
def Fixed (p : PollRecord) : Prop := p.offered = kInitEventListSize ∧ p.reported = min p.ready kInitEventListSize

theorem step_records (fd : κ → Nat) (distinct : Function.Injective fd) (s t : Polling κ) (label : PollingLabel κ)
    (inv : Inv fd s) (taken : s.step label = some t) : Inv fd t ∧ ∀ p ∈ records s label t, Fixed p := by
  cases label with
  | channel label =>
      simp only [step] at taken
      cases moved : s.registry.step label with
      | none => simp [moved] at taken
      | some registry =>
          simp only [moved, Option.some.injEq] at taken
          subst taken
          exact ⟨⟨Registry.step_inv fd distinct _ registry label inv.registry moved, inv.events⟩, by simp [records]⟩
  | poll wait =>
      obtain ⟨⟨running, may⟩, taken⟩ := Option.ite_none_right_eq_some.mp taken
      cases wait with
      | error errno =>
          simp only [poll_error fd s errno [] inv, Option.some.injEq] at taken
          subst taken
          exact ⟨⟨inv.registry, inv.events⟩, by simp [records, Fixed, inv.events]⟩
      | ready ready =>
          obtain ⟨next, polled, polls, -⟩ := poll_ready fd s ready [] inv running may
          simp only [polled, Option.some.injEq] at taken
          subst taken
          refine ⟨⟨by rw [polls.registry]; exact inv.registry, polls.events.trans inv.events⟩, ?_⟩
          simp [records, Fixed, inv.events, Nat.min_comm]

theorem poll_reports (fd : κ → Nat) (s : Polling κ) (ready : List (κ × EventMask)) (activeChannels : List κ)
    (inv : Inv fd s) (running : s.registry.poller.exited = none) (may : s.MayReport (.ready ready)) :
    Reports s ready activeChannels := by
  obtain ⟨next, polled, -, revents⟩ := poll_ready fd s ready activeChannels inv running may
  have once : ((ready.take s.events.length).map Prod.fst).Nodup := by
    rw [List.map_take]
    exact may.1.sublist (List.take_sublist _ _)
  obtain ⟨set, kept⟩ := set_revents_once (ready.take s.events.length) s.revents once
  rw [← revents] at set kept
  exact ⟨next, polled, set, kept⟩

-- A poll that fills the event list is followed by one that offers more entries.
def Grows (polls : List PollRecord) : Prop :=
  ∀ front p q back, polls = front ++ p :: q :: back → p.reported = p.offered → p.offered < q.offered

-- As long as another poll follows, fewer channels are ready than the list has
-- entries at first.
def NeverFilled (polls : List PollRecord) : Prop :=
  ∀ front p q back, polls = front ++ p :: q :: back → p.ready < kInitEventListSize

theorem grows_iff (polls : List PollRecord) (fixed : ∀ p ∈ polls, Fixed p) : Grows polls ↔ NeverFilled polls := by
  refine forall_congr' fun front => forall_congr' fun p => forall_congr' fun q => forall_congr' fun back =>
    forall_congr' fun split => ?_
  obtain ⟨offered, reported⟩ := fixed p (by rw [split]; simp)
  obtain ⟨next, -⟩ := fixed q (by rw [split]; simp)
  rw [offered, reported, next]
  omega

theorem reported_iff (polls : List PollRecord) (m : Nat) (fixed : ∀ p ∈ polls, Fixed p)
    (load : ∀ p ∈ polls, m ≤ p.ready) (polled : polls ≠ []) :
    (∃ p ∈ polls, m ≤ p.reported) ↔ m ≤ kInitEventListSize := by
  constructor
  · rintro ⟨p, member, all⟩
    have reported := (fixed p member).2
    omega
  · intro small
    obtain ⟨p, rest, rfl⟩ := List.exists_cons_of_ne_nil polled
    have reported := (fixed p (by simp)).2
    have ready := load p (by simp)
    exact ⟨p, by simp, by omega⟩

end Polling

theorem event_list_grows [DecidableEq κ] (fd : κ → Nat) (distinct : Function.Injective fd)
    (labels : List (PollingLabel κ)) (s : Polling κ) (ran : run Polling.step (Polling.new fd) labels = some s) :
    (∀ ready activeChannels, s.registry.poller.exited = none → s.MayReport (.ready ready) →
      s.Reports ready activeChannels) ∧
    (Polling.Grows (outputs Polling.step Polling.records (Polling.new fd) labels) ↔
      Polling.NeverFilled (outputs Polling.step Polling.records (Polling.new fd) labels)) ∧
    ∀ m, (∀ p ∈ outputs Polling.step Polling.records (Polling.new fd) labels, m ≤ p.ready) →
      outputs Polling.step Polling.records (Polling.new fd) labels ≠ [] →
      ((∃ p ∈ outputs Polling.step Polling.records (Polling.new fd) labels, m ≤ p.reported) ↔ m ≤ kInitEventListSize) := by
  have start : Polling.Inv fd (Polling.new fd) := ⟨Registry.new_inv fd, List.length_replicate⟩
  have inv := invariant Polling.step (Polling.Inv fd) (fun s l t inv taken =>
    (Polling.step_records fd distinct s t l inv taken).1) _ s labels start ran
  have fixed := outputs_forall Polling.step Polling.records (Polling.Inv fd) Polling.Fixed
    (fun s l t inv taken => Polling.step_records fd distinct s t l inv taken) _ labels start
  exact ⟨fun ready activeChannels running may => Polling.poll_reports fd s ready activeChannels inv running may,
    Polling.grows_iff _ fixed, fun m load polled => Polling.reported_iff _ m fixed load polled⟩

end

-- The first n channels are read from, and all of them stay ready for some polls.
def busy (n polls : Nat) : List (PollingLabel Nat) :=
  (List.range n).map (fun c => .channel ⟨c, .enableReading, none⟩) ++
    List.replicate polls (.poll (.ready ((List.range n).map fun c => (c, EPOLLIN))))

theorem event_list_grows_three :
    ∃ s, run Polling.step (Polling.new (· + 5)) (busy 3 2) = some s ∧
      ∃ p ∈ outputs Polling.step Polling.records (Polling.new (· + 5)) (busy 3 2), 3 ≤ p.reported := by
  have finished : (run Polling.step (Polling.new (· + 5)) (busy 3 2)).isSome := by decide +kernel
  have polls : outputs Polling.step Polling.records (Polling.new (· + 5)) (busy 3 2) = [⟨16, 3, 3⟩, ⟨16, 3, 3⟩] := by
    decide +kernel
  obtain ⟨s, ran⟩ := Option.isSome_iff_exists.mp finished
  exact ⟨s, ran, ((event_list_grows (· + 5) (add_left_injective 5) (busy 3 2) s ran).2.2 3 (by rw [polls]; decide)
    (by rw [polls]; decide)).mpr (by decide)⟩

-- 17 channels stay ready: the second poll offers no more than the first, and
-- neither reports them all.
theorem seventeen_never_reported :
    outputs Polling.step Polling.records (Polling.new (· + 5)) (busy 17 2) = [⟨16, 17, 16⟩, ⟨16, 17, 16⟩] ∧
    ¬Polling.Grows (outputs Polling.step Polling.records (Polling.new (· + 5)) (busy 17 2)) ∧
    ¬∃ p ∈ outputs Polling.step Polling.records (Polling.new (· + 5)) (busy 17 2), 17 ≤ p.reported := by
  have polls : outputs Polling.step Polling.records (Polling.new (· + 5)) (busy 17 2) =
      [⟨16, 17, 16⟩, ⟨16, 17, 16⟩] := by decide +kernel
  rw [polls]
  refine ⟨rfl, fun grows => ?_, by decide⟩
  exact absurd (grows [] _ _ [] rfl rfl) (by decide)

end Cmuduo.Net
