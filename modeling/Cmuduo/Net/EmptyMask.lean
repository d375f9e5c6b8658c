import Cmuduo.Net.Registry

set_option autoImplicit false

namespace Cmuduo.Net

open Machine

section
variable {κ : Type}

namespace Poller

theorem update_channel_running (this : κ) (channel : Channel) (refusal : Option Nat) (p : Poller κ)
    (placed : p.Placed channel) (running : p.exited = none)
    (accepted : refusal = none ∨ channel.index = kAdded ∧ channel.isNoneEvent = true) :
    (p.updateChannel this channel refusal).2.exited = none := by
  rcases placed with ⟨added, present⟩ | ⟨fresh, absent⟩
  · obtain ⟨entry, registered⟩ := Option.isSome_iff_exists.mp present
    have known : ¬(channel.index = kNew ∨ channel.index = kDeleted) := by rw [added]; decide
    rw [updateChannel, if_neg known]
    by_cases quiet : channel.isNoneEvent = true
    · simp [quiet, update, epollCtl, registered, running]
    · have granted := accepted.resolve_right fun both => quiet both.2
      simp [quiet, update, epollCtl, registered, granted, running]
  · have granted := accepted.resolve_right fun both => by
      rw [fresh] at both
      cases both.1
    have none : p.interest channel.fd = none := by simpa using absent
    simp [updateChannel, fresh, update, epollCtl, none, granted, running]

end Poller

namespace Registry

-- What the comments at kNew, kAdded and kDeleted say of a channel and its slot.
structure Means (c : κ) (channel : Channel) (slot : Slot κ) : Prop where
  absent : channel.index = kNew ↔ slot.channels = none
  emptied : slot.channels = some c → slot.interest = none → channel.index = kDeleted
  isNew : channel.index = kNew → slot.channels = none ∧ slot.interest = none
  isAdded : channel.index = kAdded → slot.channels = some c ∧ slot.interest.isSome = true
  isDeleted : channel.index = kDeleted → slot.channels = some c ∧ slot.interest = none

theorem updates_interest (c : κ) (channel result : Channel) (events : EventMask) (next : Slot κ)
    (updates : Updates c channel events result next) :
    result.events = events ∧ (next.interest = none ↔ events = KNoneEvent ∧ channel.index = kAdded) := by
  cases updates with
  | registers fresh => exact ⟨rfl, iff_of_false (Option.some_ne_none _) fun both => by cases fresh.symm.trans both.2⟩
  | modifies added wanted => exact ⟨rfl, iff_of_false (Option.some_ne_none _) fun both => wanted both.1⟩
  | empties added unwanted => exact ⟨rfl, iff_of_true rfl ⟨unwanted, added⟩⟩

theorem updates_means (c : κ) (channel result : Channel) (events : EventMask) (next : Slot κ)
    (updates : Updates c channel events result next) :
    Means c result next ↔ (events = KNoneEvent → channel.index ≠ kAdded) := by
  have registered : ∀ channel : Channel, channel.index = kAdded → Means c channel ⟨some c, some (events, c)⟩ := by
    intro channel added
    refine ⟨?_, fun _ absent => (Option.some_ne_none _ absent).elim, ?_, fun _ => ⟨rfl, rfl⟩, ?_⟩
    · exact iff_of_false (by rw [added]; decide) (Option.some_ne_none c)
    · intro fresh
      cases added.symm.trans fresh
    · intro deleted
      cases added.symm.trans deleted
  cases updates with
  | registers fresh => exact iff_of_true (registered _ rfl) fun _ added => by cases fresh.symm.trans added
  | modifies added wanted => exact iff_of_true (registered _ added) fun unwanted => absurd unwanted wanted
  | empties added unwanted =>
      refine iff_of_false (fun means => ?_) fun kept => kept unwanted added
      exact Option.some_ne_none c (means.absent.mp rfl)

theorem removed_means (c : κ) (channel : Channel) : Means c { channel with index := kNew } Slot.empty := by
  refine ⟨iff_of_true rfl rfl, ?_, fun _ => ⟨rfl, rfl⟩, ?_, ?_⟩
  · intro mapped
    cases mapped
  · intro added
    cases added
  · intro deleted
    cases deleted

variable [DecidableEq κ]

-- A descriptor that is in the interest set belongs to a channel that has some
-- interest.
def Unwatched (fd : κ → Nat) (s : Registry κ) : Prop :=
  s.poller.exited = none → ∀ c, (s.channel c).events = KNoneEvent → s.poller.interest (fd c) = none

-- An update with an empty mask is for a channel that is registered, unless the
-- kernel refuses the add.
def EmptiesRegistered (s : Registry κ) : PollerCall κ → Prop
  | .updateChannel c events refusal => events = KNoneEvent → (s.channel c).index = kAdded ∨ refusal ≠ none
  | .removeChannel _ => True

instance (s : Registry κ) (call : PollerCall κ) : Decidable (s.EmptiesRegistered call) := by
  unfold EmptiesRegistered
  split <;> infer_instance

def IndexMeans (fd : κ → Nat) (s : Registry κ) : Prop :=
  s.poller.exited = none → ∀ c, Means c (s.channel c) (s.poller.slot (fd c))

-- No update takes a registered channel out of the interest set.
def KeepsRegistered (s : Registry κ) : PollerCall κ → Prop
  | .updateChannel c events _ => events = KNoneEvent → (s.channel c).index ≠ kAdded
  | .removeChannel _ => True

instance (s : Registry κ) (call : PollerCall κ) : Decidable (s.KeepsRegistered call) := by
  unfold KeepsRegistered
  split <;> infer_instance

theorem set_events_running (fd : κ → Nat) (s : Registry κ) (c : κ) (events : EventMask) (refusal : Option Nat)
    (tracking : Tracking fd s) (running : s.poller.exited = none)
    (granted : refusal = none ∨ (s.channel c).index = kAdded ∧ events = KNoneEvent) :
    (s.setEvents c events refusal).poller.exited = none :=
  s.poller.update_channel_running c _ refusal (tracking_placed fd s c events tracking) running
    (granted.imp_right fun both => ⟨both.1, by simp [Channel.isNoneEvent, both.2]⟩)

theorem set_events_refused (fd : κ → Nat) (s : Registry κ) (c : κ) (events : EventMask) (refusal : Option Nat)
    (tracking : Tracking fd s) (fresh : (s.channel c).index = kNew) (refused : refusal ≠ none) :
    (s.setEvents c events refusal).poller.exited ≠ none := by
  obtain ⟨code, rfl⟩ := Option.ne_none_iff_exists'.mp refused
  rcases (tracking c).mirrors with ⟨added, -⟩ | ⟨-, absent⟩
  · rw [added] at fresh
    cases fresh
  · have none : s.poller.interest (s.channel c).fd = none := by
      rw [(tracking c).fd]
      exact absent
    simp [setEvents, Poller.updateChannel, fresh, Poller.update, Poller.epollCtl, none]

theorem call_unwatched (fd : κ → Nat) (distinct : Function.Injective fd) (s : Registry κ) (call : PollerCall κ)
    (inv : Inv fd s) (running : s.poller.exited = none) (unwatched : Unwatched fd s) :
    Unwatched fd (s.call call) ↔ s.EmptiesRegistered call := by
  have tracking := inv.running running
  have frame : ∀ t c d, d ≠ c → Elsewhere fd s t c → (t.channel d).events = KNoneEvent →
      t.poller.interest (fd d) = none := by
    intro t c d different others quiet
    obtain ⟨channel, slot⟩ := others d different
    rw [channel] at quiet
    exact (congrArg Slot.interest slot).trans (unwatched running d quiet)
  cases call with
  | removeChannel c =>
      refine iff_of_true (fun after d quiet => ?_) trivial
      obtain ⟨-, empty, others⟩ := remove_removes fd distinct s c tracking after
      by_cases same : d = c
      · rw [same]
        exact congrArg Slot.interest empty
      · exact frame _ c d same others quiet
  | updateChannel c events refusal =>
      constructor
      · intro good unwanted
        by_contra unregistered
        obtain ⟨absent, granted⟩ := not_or.mp unregistered
        have after := set_events_running fd s c events refusal tracking running (.inl (not_not.mp granted))
        obtain ⟨updates, -⟩ := set_events_updates fd distinct s c events refusal tracking after
        obtain ⟨mask, interest⟩ := updates_interest c _ _ events _ updates
        exact absent (interest.mp (good after c (mask.trans unwanted))).2
      · intro guard after d quiet
        obtain ⟨updates, others⟩ := set_events_updates fd distinct s c events refusal tracking after
        by_cases same : d = c
        · rw [same] at quiet ⊢
          obtain ⟨mask, interest⟩ := updates_interest c _ _ events _ updates
          have unwanted := mask.symm.trans quiet
          rcases (tracking c).mirrors with ⟨added, -⟩ | ⟨fresh, -⟩
          · exact interest.mpr ⟨unwanted, added⟩
          · rcases guard unwanted with added | refused
            · cases fresh.symm.trans added
            · exact absurd after (set_events_refused fd s c events refusal tracking fresh refused)
        · exact frame _ c d same others quiet

theorem call_index_means (fd : κ → Nat) (distinct : Function.Injective fd) (s : Registry κ) (call : PollerCall κ)
    (inv : Inv fd s) (running : s.poller.exited = none) (means : IndexMeans fd s) :
    IndexMeans fd (s.call call) ↔ s.KeepsRegistered call := by
  have tracking := inv.running running
  have frame : ∀ t c d, d ≠ c → Elsewhere fd s t c → Means d (t.channel d) (t.poller.slot (fd d)) := by
    intro t c d different others
    obtain ⟨channel, slot⟩ := others d different
    rw [channel, slot]
    exact means running d
  cases call with
  | removeChannel c =>
      refine iff_of_true (fun after d => ?_) trivial
      obtain ⟨removed, empty, others⟩ := remove_removes fd distinct s c tracking after
      by_cases same : d = c
      · rw [same]
        change Means c ((s.remove c).channel c) ((s.remove c).poller.slot (fd c))
        rw [removed, empty]
        exact removed_means c _
      · exact frame _ c d same others
  | updateChannel c events refusal =>
      constructor
      · intro good unwanted added
        have after := set_events_running fd s c events refusal tracking running (.inr ⟨added, unwanted⟩)
        obtain ⟨updates, -⟩ := set_events_updates fd distinct s c events refusal tracking after
        exact (updates_means c _ _ events _ updates).mp (good after c) unwanted added
      · intro guard after d
        obtain ⟨updates, others⟩ := set_events_updates fd distinct s c events refusal tracking after
        by_cases same : d = c
        · rw [same]
          exact (updates_means c _ _ events _ updates).mpr guard
        · exact frame _ c d same others

-- One disableAll after the other puts the descriptor into the interest set or
-- takes it out again.
theorem disable_all_twice (fd : κ → Nat) (distinct : Function.Injective fd) (s : Registry κ) (c : κ)
    (tracking : Tracking fd s) (running : s.poller.exited = none) :
    ((s.disableAll c none).disableAll c none).poller.interest (fd c) ≠ (s.disableAll c none).poller.interest (fd c) := by
  have first := set_events_running fd s c KNoneEvent none tracking running (.inl rfl)
  have between := (set_events_tracking fd distinct s c KNoneEvent none tracking first).1
  have second := set_events_running fd (s.disableAll c none) c KNoneEvent none between first (.inl rfl)
  obtain ⟨twice, -⟩ := set_events_updates fd distinct (s.disableAll c none) c KNoneEvent none between second
  have after := (updates_interest c _ _ KNoneEvent _ twice).2
  intro same
  rcases (between c).mirrors with ⟨added, interest⟩ | ⟨fresh, interest⟩
  · have taken : ((s.disableAll c none).disableAll c none).poller.interest (fd c) = none := after.mpr ⟨rfl, added⟩
    rw [same, show (s.disableAll c none).poller.interest (fd c) = _ from interest] at taken
    cases taken
  · have left := after.mp (same.trans interest)
    cases fresh.symm.trans left.2

end Registry

end

theorem unwatched_without_interest {κ : Type} [DecidableEq κ] (fd : κ → Nat) (distinct : Function.Injective fd)
    (labels : List (RegistryLabel κ)) (s : Registry κ) (ran : run Registry.step (Registry.new fd) labels = some s) :
    (Always Registry.step (Registry.Unwatched fd) (Registry.new fd) labels ↔
      Guarded Registry.step (fun s label => s.EmptiesRegistered (s.toCall label)) (Registry.new fd) labels) ∧
    (s.poller.exited = none → ∀ c,
      ((s.disableAll c none).disableAll c none).poller.interest (fd c) ≠
        (s.disableAll c none).poller.interest (fd c)) := by
  have start := Registry.new_inv fd
  refine ⟨?_, fun running c => ?_⟩
  · refine always_iff_guarded Registry.step _ (fun _ => True) (Registry.Inv fd) (Registry.Unwatched fd)
      (fun s label t inv good _ taken => ?_) _ s labels start (fun _ _ _ => rfl) (fun _ _ => trivial) ran
    refine ⟨Registry.step_inv fd distinct s t label inv taken, ?_⟩
    simp only [Registry.step, Option.ite_none_right_eq_some, Option.some.injEq] at taken
    obtain ⟨running, rfl⟩ := taken
    rw [Registry.perform_calls]
    exact Registry.call_unwatched fd distinct s (s.toCall label) inv running good
  · have inv := Registry.run_inv fd distinct labels _ s start ran
    exact Registry.disable_all_twice fd distinct s c (inv.running running) running

-- A channel that loses its interest while it is registered.
def disabledOnce : List (RegistryLabel Nat) :=
  [⟨0, .enableReading, none⟩, ⟨0, .enableWriting, none⟩, ⟨0, .disableAll, none⟩, ⟨0, .remove, none⟩]

theorem unwatched_without_interest_disabled_once :
    ∃ s, run Registry.step (Registry.new (· + 5)) disabledOnce = some s ∧
      Always Registry.step (Registry.Unwatched (· + 5)) (Registry.new (· + 5)) disabledOnce := by
  have finished : (run Registry.step (Registry.new (· + 5)) disabledOnce).isSome := by decide +kernel
  obtain ⟨s, ran⟩ := Option.isSome_iff_exists.mp finished
  exact ⟨s, ran, (unwatched_without_interest (· + 5) (add_left_injective 5) disabledOnce s ran).1.mpr (by decide +kernel)⟩

theorem disabled_channel_watched :
    (run Registry.step (Registry.new (· + 5)) [⟨0, .disableAll, none⟩]).map (fun s =>
      (s.poller.exited, (s.channel 0).events, s.poller.interest 5)) = some (none, KNoneEvent, some (KNoneEvent, 0)) ∧
    ¬Always Registry.step (Registry.Unwatched (· + 5)) (Registry.new (· + 5)) [⟨0, .disableAll, none⟩] := by
  have shown : (run Registry.step (Registry.new (· + 5)) [⟨0, .disableAll, none⟩]).map (fun s =>
      (s.poller.exited, (s.channel 0).events, s.poller.interest 5)) = some (none, KNoneEvent, some (KNoneEvent, 0)) := by
    decide +kernel
  refine ⟨shown, fun always => ?_⟩
  obtain ⟨s, ran, facts⟩ := Option.map_eq_some_iff.mp shown
  obtain ⟨next, taken, stop⟩ := (run_cons _ _ _ _ _).mp ran
  cases stop
  simp only [Prod.mk.injEq] at facts
  have absent := always.2 s taken facts.1 0 facts.2.1
  rw [facts.2.2] at absent
  cases absent

theorem index_means_membership {κ : Type} [DecidableEq κ] (fd : κ → Nat) (distinct : Function.Injective fd)
    (calls : List (PollerCall κ)) (s : Registry κ) (ran : run Registry.callStep (Registry.new fd) calls = some s) :
    Always Registry.callStep (Registry.IndexMeans fd) (Registry.new fd) calls ↔
      Guarded Registry.callStep Registry.KeepsRegistered (Registry.new fd) calls := by
  refine always_iff_guarded Registry.callStep _ (fun _ => True) (Registry.Inv fd) (Registry.IndexMeans fd)
    (fun s call t inv good _ taken => ?_) _ s calls (Registry.new_inv fd)
    (fun _ c => Registry.removed_means c (Channel.new (fd c))) (fun _ _ => trivial) ran
  simp only [Registry.callStep, Option.ite_none_right_eq_some, Option.some.injEq] at taken
  obtain ⟨running, rfl⟩ := taken
  exact ⟨Registry.call_inv fd distinct s call inv running, Registry.call_index_means fd distinct s call inv running good⟩

def removedWithInterest : List (PollerCall Nat) :=
  [.updateChannel 0 KReadEvent none, .updateChannel 1 KNoneEvent none, .removeChannel 0, .removeChannel 0]

theorem index_means_membership_removed :
    ∃ s, run Registry.callStep (Registry.new (· + 5)) removedWithInterest = some s ∧
      Always Registry.callStep (Registry.IndexMeans (· + 5)) (Registry.new (· + 5)) removedWithInterest := by
  have finished : (run Registry.callStep (Registry.new (· + 5)) removedWithInterest).isSome := by decide +kernel
  obtain ⟨s, ran⟩ := Option.isSome_iff_exists.mp finished
  exact ⟨s, ran, (index_means_membership (· + 5) (add_left_injective 5) removedWithInterest s ran).mpr (by decide +kernel)⟩

-- Registered, and then taken out for lack of interest: the index says that the
-- channel was never added.
def registeredAndEmptied : List (PollerCall Nat) := [.updateChannel 0 KReadEvent none, .updateChannel 0 KNoneEvent none]

theorem emptied_channel_index_new :
    (run Registry.callStep (Registry.new (· + 5)) registeredAndEmptied).map (fun s =>
      (s.poller.exited, (s.channel 0).index, s.poller.channels 5, s.poller.interest 5)) =
        some (none, kNew, some 0, none) ∧
    ¬Always Registry.callStep (Registry.IndexMeans (· + 5)) (Registry.new (· + 5)) registeredAndEmptied := by
  have shown : (run Registry.callStep (Registry.new (· + 5)) registeredAndEmptied).map (fun s =>
      (s.poller.exited, (s.channel 0).index, s.poller.channels 5, s.poller.interest 5)) =
        some (none, kNew, some 0, none) := by decide +kernel
  refine ⟨shown, fun always => ?_⟩
  obtain ⟨s, ran, facts⟩ := Option.map_eq_some_iff.mp shown
  obtain ⟨middle, first, rest⟩ := (run_cons _ _ _ _ _).mp ran
  obtain ⟨next, second, stop⟩ := (run_cons _ _ _ _ _).mp rest
  cases stop
  simp only [Prod.mk.injEq] at facts
  obtain ⟨running, index, mapped, -⟩ := facts
  have absent : s.poller.channels 5 = none := ((always.2 middle first).2 s second running 0).absent.mp index
  rw [mapped] at absent
  cases absent

end Cmuduo.Net
