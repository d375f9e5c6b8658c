import Cmuduo.Lib.Machine
import Cmuduo.Net.Poller

set_option autoImplicit false

namespace Cmuduo.Net

open Machine

section
variable {κ : Type}

structure Registry (κ : Type) where
  channel : κ → Channel
  poller : Poller κ

inductive ChannelOp where
  | enableReading
  | disableReading
  | enableWriting
  | disableWriting
  | disableAll
  | remove
deriving DecidableEq, Repr

-- An operation on one channel, with the kernel's refusal of its epoll_ctl for
-- another reason than EEXIST or ENOENT, if it refuses.
structure RegistryLabel (κ : Type) where
  channel : κ
  op : ChannelOp
  refusal : Option Nat

-- The two calls that reach the poller. An update comes with the mask that the
-- channel has by then.
inductive PollerCall (κ : Type) where
  | updateChannel (channel : κ) (events : EventMask) (refusal : Option Nat)
  | removeChannel (channel : κ)

def ChannelOp.mask (events : EventMask) : ChannelOp → EventMask
  | .enableReading => events ||| KReadEvent
  | .disableReading => events &&& ~~~KReadEvent
  | .enableWriting => events ||| KWriteEvent
  | .disableWriting => events &&& ~~~KWriteEvent
  | .disableAll => KNoneEvent
  | .remove => events

namespace Registry

def new (fd : κ → Nat) : Registry κ := ⟨fun c => Channel.new (fd c), .new⟩

-- What the poller knows about a channel between any two operations.
structure Tracked (c : κ) (channel : Channel) (fd : Nat) (slot : Slot κ) : Prop where
  fd : channel.fd = fd
  mirrors : Mirrors c channel slot
  mapped : channel.index = kAdded → slot.channels = some c

-- What an update with a new mask makes of such a channel and of its slot.
inductive Updates (c : κ) (channel : Channel) (events : EventMask) : Channel → Slot κ → Prop where
  | registers (fresh : channel.index = kNew) :
      Updates c channel events { channel with events := events, index := kAdded } ⟨some c, some (events, c)⟩
  | modifies (added : channel.index = kAdded) (wanted : events ≠ KNoneEvent) :
      Updates c channel events { channel with events := events } ⟨some c, some (events, c)⟩
  | empties (added : channel.index = kAdded) (unwanted : events = KNoneEvent) :
      Updates c channel events { channel with events := events, index := kNew } ⟨some c, none⟩

theorem update_updates (c : κ) (channel : Channel) (fd : Nat) (slot : Slot κ) (events : EventMask)
    (tracked : Tracked c channel fd slot) :
    ∃ (result : Channel) (next : Slot κ),
      EpollPoller.updateChannel c { channel with events := events } slot = .ok (result, next) ∧
      Updates c channel events result next := by
  rcases tracked.mirrors with ⟨index, interest⟩ | ⟨index, interest⟩
  · have present : slot.interest.isSome := by rw [interest]; rfl
    have mapped := tracked.mapped index
    by_cases unwanted : events = KNoneEvent
    · refine ⟨_, _, update_emptied c { channel with events := events } slot index present unwanted, ?_⟩
      rw [mapped]
      exact .empties index unwanted
    · refine ⟨_, _, update_registered c { channel with events := events } slot index present unwanted, ?_⟩
      rw [mapped]
      exact .modifies index unwanted
  · exact ⟨_, _, update_unregistered c { channel with events := events } slot ⟨index, interest⟩, .registers index⟩

theorem updates_tracked (c : κ) (channel result : Channel) (fd : Nat) (next : Slot κ) (events : EventMask)
    {slot : Slot κ} (tracked : Tracked c channel fd slot) (updates : Updates c channel events result next) :
    Tracked c result fd next ∧ next.channels = some c := by
  cases updates with
  | registers fresh => exact ⟨⟨tracked.fd, .inl ⟨rfl, rfl⟩, fun _ => rfl⟩, rfl⟩
  | modifies added wanted => exact ⟨⟨tracked.fd, .inl ⟨added, rfl⟩, fun _ => rfl⟩, rfl⟩
  | empties added unwanted => exact ⟨⟨tracked.fd, .inr ⟨rfl, rfl⟩, fun _ => rfl⟩, rfl⟩

def Tracking (fd : κ → Nat) (s : Registry κ) : Prop := ∀ c, Tracked c (s.channel c) (fd c) (s.poller.slot (fd c))

structure Inv (fd : κ → Nat) (s : Registry κ) : Prop where
  running : s.poller.exited = none → Tracking fd s
  calls : ∀ call ∈ s.poller.calls, call.Fits
  exited : s.poller.exited = none ∨ ∃ code, s.poller.exited = some (.other code)

theorem new_inv (fd : κ → Nat) : Inv fd (new fd) :=
  { running := fun _ c => ⟨rfl, .inr ⟨rfl, rfl⟩, fun added => by cases added⟩
    calls := fun call member => by cases member
    exited := .inl rfl }

theorem tracking_placed (fd : κ → Nat) (s : Registry κ) (c : κ) (events : EventMask) (tracking : Tracking fd s) :
    s.poller.Placed { s.channel c with events := events } := by
  have fds := (tracking c).fd
  rcases (tracking c).mirrors with ⟨index, interest⟩ | ⟨index, interest⟩
  · exact .inl ⟨index, by simp [fds, show s.poller.interest (fd c) = _ from interest]⟩
  · exact .inr ⟨index, by simp [fds, show s.poller.interest (fd c) = _ from interest]⟩

variable [DecidableEq κ]

-- The assignment of events_ and update() of the five enable and disable calls.
def setEvents (c : κ) (events : EventMask) (refusal : Option Nat) (s : Registry κ) : Registry κ :=
  let result := s.poller.updateChannel c { s.channel c with events := events } refusal
  ⟨Function.update s.channel c result.1, result.2⟩

def enableReading (c : κ) (refusal : Option Nat) (s : Registry κ) : Registry κ :=
  s.setEvents c ((s.channel c).events ||| KReadEvent) refusal

def disableReading (c : κ) (refusal : Option Nat) (s : Registry κ) : Registry κ :=
  s.setEvents c ((s.channel c).events &&& ~~~KReadEvent) refusal

def enableWriting (c : κ) (refusal : Option Nat) (s : Registry κ) : Registry κ :=
  s.setEvents c ((s.channel c).events ||| KWriteEvent) refusal

def disableWriting (c : κ) (refusal : Option Nat) (s : Registry κ) : Registry κ :=
  s.setEvents c ((s.channel c).events &&& ~~~KWriteEvent) refusal

def disableAll (c : κ) (refusal : Option Nat) (s : Registry κ) : Registry κ := s.setEvents c KNoneEvent refusal

def remove (c : κ) (s : Registry κ) : Registry κ :=
  let result := s.poller.removeChannel c (s.channel c)
  ⟨Function.update s.channel c result.1, result.2⟩

def hasChannel (c : κ) (s : Registry κ) : Bool := s.poller.hasChannel c (s.channel c)

def perform (s : Registry κ) (label : RegistryLabel κ) : Registry κ :=
  match label.op with
  | .enableReading => s.enableReading label.channel label.refusal
  | .disableReading => s.disableReading label.channel label.refusal
  | .enableWriting => s.enableWriting label.channel label.refusal
  | .disableWriting => s.disableWriting label.channel label.refusal
  | .disableAll => s.disableAll label.channel label.refusal
  | .remove => s.remove label.channel

def step (s : Registry κ) (label : RegistryLabel κ) : Option (Registry κ) :=
  if s.poller.exited = none then some (s.perform label) else none

-- The other channels and their slots are as they were, because their
-- descriptors are different ones.
def Elsewhere (fd : κ → Nat) (s t : Registry κ) (c : κ) : Prop :=
  ∀ d, d ≠ c → t.channel d = s.channel d ∧ t.poller.slot (fd d) = s.poller.slot (fd d)

theorem tracking_moved (fd : κ → Nat) (s t : Registry κ) (c : κ) (tracking : Tracking fd s) (others : Elsewhere fd s t c)
    (here : Tracked c (t.channel c) (fd c) (t.poller.slot (fd c))) : Tracking fd t := by
  intro d
  by_cases same : d = c
  · rwa [same]
  · obtain ⟨channel, slot⟩ := others d same
    rw [channel, slot]
    exact tracking d

theorem has_channel_tracking (fd : κ → Nat) (s : Registry κ) (c : κ) (tracking : Tracking fd s) :
    s.hasChannel c = true ↔ s.poller.channels (fd c) = some c := by
  rw [hasChannel, Poller.hasChannel, (tracking c).fd, beq_iff_eq]

def Maps (fd : κ → Nat) (s t : Registry κ) (c : κ) (entry : Option κ) : Prop :=
  t.poller.channels (fd c) = entry ∧ ∀ d, d ≠ c → t.poller.channels (fd d) = s.poller.channels (fd d)

theorem set_events_updates (fd : κ → Nat) (distinct : Function.Injective fd) (s : Registry κ) (c : κ)
    (events : EventMask) (refusal : Option Nat) (tracking : Tracking fd s)
    (running : (s.setEvents c events refusal).poller.exited = none) :
    Updates c (s.channel c) events ((s.setEvents c events refusal).channel c)
      ((s.setEvents c events refusal).poller.slot (fd c)) ∧ Elsewhere fd s (s.setEvents c events refusal) c := by
  have fds := (tracking c).fd
  obtain ⟨result, slot, done, updates⟩ := update_updates c (s.channel c) (fd c) (s.poller.slot (fd c)) events (tracking c)
  cases moved : s.poller.updateChannel c { s.channel c with events := events } refusal with
  | mk after next =>
      rw [setEvents, moved] at running ⊢
      obtain ⟨here, elsewhere⟩ := s.poller.update_channel_acts c _ after refusal next moved
      have acted := here running
      rw [fds, done] at acted
      cases acted
      refine ⟨by simpa only [Function.update_self] using updates, fun d different => ⟨Function.update_of_ne different _ _, elsewhere _ fun same => ?_⟩⟩
      exact distinct.ne different (same.trans fds)

theorem remove_removes (fd : κ → Nat) (distinct : Function.Injective fd) (s : Registry κ) (c : κ)
    (tracking : Tracking fd s) (running : (s.remove c).poller.exited = none) :
    (s.remove c).channel c = { s.channel c with index := kNew } ∧ (s.remove c).poller.slot (fd c) = Slot.empty ∧
      Elsewhere fd s (s.remove c) c := by
  have fds := (tracking c).fd
  cases moved : s.poller.removeChannel c (s.channel c) with
  | mk after next =>
      rw [remove, moved] at running ⊢
      obtain ⟨here, elsewhere⟩ := s.poller.remove_channel_acts c _ after next moved
      have acted := here running
      rw [fds, remove_unregistered c _ _ (tracking c).mirrors] at acted
      obtain ⟨rfl, empty⟩ := Prod.mk.inj (Except.ok.inj acted)
      refine ⟨Function.update_self _ _ _, empty.symm, fun d different =>
        ⟨Function.update_of_ne different _ _, elsewhere _ fun same => ?_⟩⟩
      exact distinct.ne different (same.trans fds)

theorem set_events_tracking (fd : κ → Nat) (distinct : Function.Injective fd) (s : Registry κ) (c : κ)
    (events : EventMask) (refusal : Option Nat) (tracking : Tracking fd s)
    (running : (s.setEvents c events refusal).poller.exited = none) :
    Tracking fd (s.setEvents c events refusal) ∧ Maps fd s (s.setEvents c events refusal) c (some c) := by
  obtain ⟨updates, others⟩ := set_events_updates fd distinct s c events refusal tracking running
  obtain ⟨here, mapped⟩ := updates_tracked c _ _ (fd c) _ events (tracking c) updates
  exact ⟨tracking_moved fd s _ c tracking others here, mapped, fun d different => congrArg Slot.channels (others d different).2⟩

theorem remove_tracking (fd : κ → Nat) (distinct : Function.Injective fd) (s : Registry κ) (c : κ)
    (tracking : Tracking fd s) (running : (s.remove c).poller.exited = none) :
    Tracking fd (s.remove c) ∧ Maps fd s (s.remove c) c none := by
  obtain ⟨removed, empty, others⟩ := remove_removes fd distinct s c tracking running
  have here : Tracked c ((s.remove c).channel c) (fd c) ((s.remove c).poller.slot (fd c)) := by
    rw [removed, empty]
    exact ⟨(tracking c).fd, .inr ⟨rfl, rfl⟩, fun added => by cases added⟩
  exact ⟨tracking_moved fd s _ c tracking others here, congrArg Slot.channels empty,
    fun d different => congrArg Slot.channels (others d different).2⟩

def call (s : Registry κ) : PollerCall κ → Registry κ
  | .updateChannel c events refusal => s.setEvents c events refusal
  | .removeChannel c => s.remove c

def callStep (s : Registry κ) (call : PollerCall κ) : Option (Registry κ) :=
  if s.poller.exited = none then some (s.call call) else none

-- The six operations of a channel are such calls.
def toCall (s : Registry κ) (label : RegistryLabel κ) : PollerCall κ :=
  if label.op = .remove then .removeChannel label.channel
  else .updateChannel label.channel (label.op.mask (s.channel label.channel).events) label.refusal

theorem perform_calls (s : Registry κ) (label : RegistryLabel κ) : s.perform label = s.call (s.toCall label) := by
  obtain ⟨c, op, refusal⟩ := label
  cases op <;> rfl

theorem perform_tracking (fd : κ → Nat) (distinct : Function.Injective fd) (s : Registry κ) (label : RegistryLabel κ)
    (tracking : Tracking fd s) (running : (s.perform label).poller.exited = none) :
    Tracking fd (s.perform label) ∧
      Maps fd s (s.perform label) label.channel (if label.op = .remove then none else some label.channel) := by
  rw [perform_calls, toCall] at running ⊢
  by_cases removes : label.op = .remove
  · simp only [if_pos removes] at running ⊢
    exact remove_tracking fd distinct s label.channel tracking running
  · simp only [if_neg removes] at running ⊢
    exact set_events_tracking fd distinct s label.channel _ label.refusal tracking running

theorem call_accepted (fd : κ → Nat) (s : Registry κ) (call : PollerCall κ) (tracking : Tracking fd s) :
    s.poller.Accepted (s.call call).poller := by
  cases call with
  | updateChannel c events refusal =>
      exact s.poller.update_channel_accepted c _ refusal (tracking_placed fd s c events tracking)
  | removeChannel c => exact s.poller.remove_channel_accepted c _ (tracking_placed fd s c _ tracking)

theorem call_inv (fd : κ → Nat) (distinct : Function.Injective fd) (s : Registry κ) (call : PollerCall κ) (inv : Inv fd s)
    (running : s.poller.exited = none) : Inv fd (s.call call) := by
  have tracking := inv.running running
  have accepted := call_accepted fd s call tracking
  refine
    { running := fun after => ?_
      calls := fun call member => (accepted.calls call member).elim (inv.calls call) id
      exited := accepted.exited.imp_left fun same => same.trans running }
  cases call with
  | updateChannel c events refusal => exact (set_events_tracking fd distinct s c events refusal tracking after).1
  | removeChannel c => exact (remove_tracking fd distinct s c tracking after).1

theorem step_inv (fd : κ → Nat) (distinct : Function.Injective fd) (s t : Registry κ) (label : RegistryLabel κ)
    (inv : Inv fd s) (taken : s.step label = some t) : Inv fd t := by
  simp only [step, Option.ite_none_right_eq_some, Option.some.injEq] at taken
  obtain ⟨running, rfl⟩ := taken
  rw [perform_calls]
  exact call_inv fd distinct s (s.toCall label) inv running

theorem run_inv (fd : κ → Nat) (distinct : Function.Injective fd) (labels : List (RegistryLabel κ)) (s t : Registry κ)
    (inv : Inv fd s) (ran : run step s labels = some t) : Inv fd t :=
  invariant step (Inv fd) (fun s l t inv taken => step_inv fd distinct s t l inv taken) s t labels inv ran

end Registry

-- c has been updated since its last remove, or since its creation.
def Updated (labels : List (RegistryLabel κ)) (c : κ) : Prop :=
  ∃ front label back, labels = front ++ label :: back ∧ label.channel = c ∧ label.op ≠ .remove ∧
    ∀ later ∈ back, later.channel = c → later.op ≠ .remove

theorem updated_cons (label : RegistryLabel κ) (rest : List (RegistryLabel κ)) (c : κ) :
    Updated (label :: rest) c ↔ Updated rest c ∨
      label.channel = c ∧ label.op ≠ .remove ∧ ∀ later ∈ rest, later.channel = c → later.op ≠ .remove := by
  constructor
  · rintro ⟨front, last, back, split, here⟩
    cases front with
    | nil =>
        cases split
        exact .inr here
    | cons first front =>
        cases split
        exact .inl ⟨front, last, back, rfl, here⟩
  · rintro (⟨front, last, back, split, here⟩ | here)
    · exact ⟨label :: front, last, back, by rw [split]; rfl, here⟩
    · exact ⟨[], label, rest, rfl, here⟩

variable [DecidableEq κ]

namespace Registry

theorem run_running (labels : List (RegistryLabel κ)) (s t : Registry κ) (ran : run step s labels = some t)
    (running : t.poller.exited = none) : s.poller.exited = none := by
  cases labels with
  | nil =>
      cases ran
      exact running
  | cons label rest =>
      obtain ⟨next, taken, -⟩ := (run_cons _ _ _ _ _).mp ran
      simp only [step, Option.ite_none_right_eq_some] at taken
      exact taken.1

theorem run_mapped (fd : κ → Nat) (distinct : Function.Injective fd) (labels : List (RegistryLabel κ))
    (s t : Registry κ) (c : κ) (tracking : Tracking fd s) (ran : run step s labels = some t)
    (running : t.poller.exited = none) :
    t.poller.channels (fd c) = some c ↔ Updated labels c ∨
      s.poller.channels (fd c) = some c ∧ ∀ label ∈ labels, label.channel = c → label.op ≠ .remove := by
  induction labels generalizing s with
  | nil =>
      cases ran
      refine ⟨fun mapped => .inr ⟨mapped, by simp⟩, ?_⟩
      rintro (⟨front, label, back, split, -⟩ | ⟨mapped, -⟩)
      · simp at split
      · exact mapped
  | cons label rest ih =>
      obtain ⟨next, taken, tail⟩ := (run_cons _ _ _ _ _).mp ran
      simp only [step, Option.ite_none_right_eq_some, Option.some.injEq] at taken
      obtain ⟨-, rfl⟩ := taken
      obtain ⟨after, here, others⟩ := perform_tracking fd distinct s label tracking (run_running rest _ t tail running)
      rw [ih _ after tail, updated_cons, List.forall_mem_cons]
      by_cases same : label.channel = c
      · rw [same] at here
        rw [here]
        by_cases removes : label.op = .remove
        · simp [removes, same]
        · simpa [removes, same] using fun _ kept => .inr kept
      · rw [others c (Ne.symm same)]
        simp [same]

end Registry

theorem poller_mirrors_kernel (fd : κ → Nat) (distinct : Function.Injective fd) (labels : List (RegistryLabel κ))
    (s : Registry κ) (ran : run Registry.step (Registry.new fd) labels = some s) :
    (s.poller.exited = none → ∀ c,
      ((s.poller.interest (fd c)).isSome = true ↔ (s.channel c).index = kAdded) ∧
      ((s.channel c).index = kAdded → s.poller.interest (fd c) = some ((s.channel c).events, c)) ∧
      (s.hasChannel c = true ↔ Updated labels c)) ∧
    (∀ call ∈ s.poller.calls, call.registered = true ↔ call.operation ≠ .add) ∧
    s.poller.exited ≠ some .EEXIST ∧ s.poller.exited ≠ some .ENOENT := by
  have start := Registry.new_inv fd
  have inv := Registry.run_inv fd distinct labels _ s start ran
  refine ⟨fun running c => ?_, inv.calls, ?_⟩
  · have tracking := inv.running running
    refine ⟨?_, ?_, ?_⟩
    · rcases (tracking c).mirrors with ⟨index, interest⟩ | ⟨index, interest⟩
      · exact iff_of_true (by rw [show s.poller.interest (fd c) = _ from interest]; rfl) index
      · refine iff_of_false ?_ (by rw [index]; decide)
        rw [show s.poller.interest (fd c) = _ from interest]
        exact Bool.false_ne_true
    · intro added
      rcases (tracking c).mirrors with ⟨-, interest⟩ | ⟨index, -⟩
      · exact interest
      · rw [index] at added
        cases added
    · rw [Registry.has_channel_tracking fd s c tracking,
        Registry.run_mapped fd distinct labels _ s c (start.running rfl) ran running]
      exact or_iff_left fun kept => by cases kept.1
  · rcases inv.exited with none | ⟨code, other⟩
    · rw [none]
      exact ⟨by simp, by simp⟩
    · rw [other]
      exact ⟨by simp, by simp⟩

end

-- Two channels in turn: the second is disabled before it was ever enabled, and
-- the first removed twice.
def enabledAndRemoved : List (RegistryLabel Nat) :=
  [⟨0, .enableReading, none⟩, ⟨1, .disableAll, none⟩, ⟨0, .enableWriting, none⟩, ⟨0, .disableAll, none⟩,
    ⟨1, .enableReading, none⟩, ⟨0, .remove, none⟩, ⟨0, .remove, none⟩]

theorem poller_mirrors_kernel_removed :
    ∃ s, run Registry.step (Registry.new (· + 5)) enabledAndRemoved = some s ∧
      s.poller.interest 6 = some (KReadEvent, 1) ∧ ¬(s.poller.interest 5).isSome = true := by
  have indices : (run Registry.step (Registry.new (· + 5)) enabledAndRemoved).map (fun s =>
      (s.poller.exited, s.channel 0, s.channel 1)) =
        some (none, ⟨5, KNoneEvent, kNew, false⟩, ⟨6, KReadEvent, kAdded, false⟩) := by decide +kernel
  obtain ⟨s, ran, shown⟩ := Option.map_eq_some_iff.mp indices
  simp only [Prod.mk.injEq] at shown
  obtain ⟨running, first, second⟩ := shown
  have mirrors := (poller_mirrors_kernel (· + 5) (add_left_injective 5) enabledAndRemoved s ran).1 running
  refine ⟨s, ran, ?_, ?_⟩
  · rw [(mirrors 1).2.1 (by rw [second]), second]
  · rw [(mirrors 0).1, first]
    decide

end Cmuduo.Net
