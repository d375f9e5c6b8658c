import Mathlib.Data.List.Basic

set_option autoImplicit false

namespace Machine

-- A machine is its partial step function: none means that the label is not
-- enabled in that state. Scheduling and outside answers are carried by labels.
abbrev Step (State Label : Type) := State → Label → Option State

variable {State Label : Type}

def run (step : Step State Label) : State → List Label → Option State
  | state, [] => some state
  | state, label :: rest =>
      match step state label with
      | none => none
      | some next => run step next rest

-- Every step of the trace is taken from a state in which the guard allows it.
def Guarded (step : Step State Label) (guard : State → Label → Prop) : State → List Label → Prop
  | _, [] => True
  | state, label :: rest =>
      guard state label ∧ ∀ next, step state label = some next → Guarded step guard next rest

-- The property holds in the first state and after every step of the trace.
def Always (step : Step State Label) (good : State → Prop) : State → List Label → Prop
  | state, [] => good state
  | state, label :: rest =>
      good state ∧ ∀ next, step state label = some next → Always step good next rest

-- The relation holds across every step of the trace.
def Across (step : Step State Label) (moves : State → State → Prop) : State → List Label → Prop
  | _, [] => True
  | state, label :: rest =>
      ∀ next, step state label = some next → moves state next ∧ Across step moves next rest

-- What the steps of the trace put out, in order.
def outputs {Out : Type} (step : Step State Label) (out : State → Label → State → List Out) :
    State → List Label → List Out
  | _, [] => []
  | state, label :: rest =>
      match step state label with
      | none => []
      | some next => out state label next ++ outputs step out next rest

instance decidableGuarded (step : Step State Label) (guard : State → Label → Prop)
    [∀ s l, Decidable (guard s l)] : ∀ state labels, Decidable (Guarded step guard state labels)
  | _, [] => .isTrue trivial
  | state, label :: rest =>
      match taken : step state label with
      | none => decidable_of_iff (guard state label) (by simp [Guarded, taken])
      | some next =>
          have := decidableGuarded step guard next rest
          decidable_of_iff (guard state label ∧ Guarded step guard next rest) (by simp [Guarded, taken])

instance decidableAlways (step : Step State Label) (good : State → Prop) [∀ s, Decidable (good s)] :
    ∀ state labels, Decidable (Always step good state labels)
  | state, [] => inferInstanceAs (Decidable (good state))
  | state, label :: rest =>
      match taken : step state label with
      | none => decidable_of_iff (good state) (by simp [Always, taken])
      | some next =>
          have := decidableAlways step good next rest
          decidable_of_iff (good state ∧ Always step good next rest) (by simp [Always, taken])

theorem run_cons (step : Step State Label) (state final : State) (label : Label) (rest : List Label) :
    run step state (label :: rest) = some final ↔
      ∃ next, step state label = some next ∧ run step next rest = some final := by
  rw [run]
  cases taken : step state label with
  | none => simp
  | some next => simp

theorem run_append (step : Step State Label) (state final : State) (first last : List Label) :
    run step state (first ++ last) = some final ↔
      ∃ middle, run step state first = some middle ∧ run step middle last = some final := by
  induction first generalizing state with
  | nil => simp [run]
  | cons label rest ih =>
      rw [List.cons_append, run_cons]
      constructor
      · rintro ⟨next, taken, tail⟩
        obtain ⟨middle, front, back⟩ := (ih next).mp tail
        exact ⟨middle, (run_cons _ _ _ _ _).mpr ⟨next, taken, front⟩, back⟩
      · rintro ⟨middle, front, back⟩
        obtain ⟨next, taken, tail⟩ := (run_cons _ _ _ _ _).mp front
        exact ⟨next, taken, (ih next).mpr ⟨middle, tail, back⟩⟩

theorem guarded_inside (step : Step State Label) (strong weak : State → Label → Prop) (domain : Label → Prop)
    (implies : ∀ s l, domain l → strong s l → weak s l) (state : State) (labels : List Label)
    (inside : ∀ l ∈ labels, domain l) (allowed : Guarded step strong state labels) : Guarded step weak state labels := by
  induction labels generalizing state with
  | nil => trivial
  | cons label rest ih =>
      exact ⟨implies _ _ (inside label (by simp)) allowed.1, fun next taken =>
        ih next (fun l member => inside l (by simp [member])) (allowed.2 next taken)⟩

-- Two guards that allow the same steps, as long as the run has been allowed.
theorem guarded_iff_guarded (step : Step State Label) (first second : State → Label → Prop) (inv : State → Prop)
    (same : ∀ s l, inv s → (first s l ↔ second s l))
    (preserved : ∀ s l t, inv s → second s l → step s l = some t → inv t)
    (state : State) (labels : List Label) (start : inv state) :
    Guarded step first state labels ↔ Guarded step second state labels := by
  induction labels generalizing state with
  | nil => exact Iff.rfl
  | cons label rest ih =>
      simp only [Guarded, same state label start]
      refine and_congr_right fun allowed => forall_congr' fun next => forall_congr' fun taken => ?_
      exact ih next (preserved state label next start allowed taken)

theorem guarded_trivial (step : Step State Label) (guard : State → Label → Prop) (state : State)
    (labels : List Label) (holds : ∀ s l, guard s l) : Guarded step guard state labels := by
  induction labels generalizing state with
  | nil => trivial
  | cons label rest ih => exact ⟨holds _ _, fun next _ => ih next⟩

theorem guarded_labels (step : Step State Label) (guard : State → Label → Prop) (domain : Label → Prop)
    (implies : ∀ s l, domain l → guard s l) (state : State) (labels : List Label)
    (inside : ∀ l ∈ labels, domain l) : Guarded step guard state labels :=
  guarded_inside step (fun _ _ => True) guard domain (fun s l known _ => implies s l known) state labels inside
    (guarded_trivial step _ state labels fun _ _ => trivial)

theorem guarded_by_label (step : Step State Label) (allowed : Label → Prop) (state final : State) (labels : List Label)
    (ran : run step state labels = some final) :
    Guarded step (fun _ l => allowed l) state labels ↔ ∀ l ∈ labels, allowed l := by
  induction labels generalizing state with
  | nil => simp [Guarded]
  | cons label rest ih =>
      obtain ⟨next, taken, tail⟩ := (run_cons _ _ _ _ _).mp ran
      simp [Guarded, taken, ih next tail]

theorem guarded_both (step : Step State Label) (first second both : State → Label → Prop)
    (implies : ∀ s l, first s l → second s l → both s l) (state : State) (labels : List Label)
    (allowed : Guarded step first state labels) (more : Guarded step second state labels) :
    Guarded step both state labels := by
  induction labels generalizing state with
  | nil => trivial
  | cons label rest ih =>
      exact ⟨implies _ _ allowed.1 more.1, fun next taken => ih next (allowed.2 next taken) (more.2 next taken)⟩

theorem guarded_append (step : Step State Label) (guard : State → Label → Prop) (state : State)
    (front back : List Label) :
    Guarded step guard state (front ++ back) ↔
      Guarded step guard state front ∧ ∀ middle, run step state front = some middle → Guarded step guard middle back := by
  induction front generalizing state with
  | nil => simp [Guarded, run]
  | cons label rest ih =>
      simp only [List.cons_append, Guarded, run_cons, ih]
      constructor
      · rintro ⟨allowed, later⟩
        exact ⟨⟨allowed, fun next taken => (later next taken).1⟩, fun middle ⟨next, taken, tail⟩ =>
          (later next taken).2 middle tail⟩
      · rintro ⟨⟨allowed, later⟩, beyond⟩
        exact ⟨allowed, fun next taken => ⟨later next taken, fun middle tail => beyond middle ⟨next, taken, tail⟩⟩⟩

theorem run_relates (step : Step State Label) (allowed : Label → Prop) (relates : State → List Label → State → Prop)
    (stay : ∀ s, relates s [] s)
    (move : ∀ s l next labels t, allowed l → step s l = some next → relates next labels t → relates s (l :: labels) t)
    (state final : State) (labels : List Label) (inside : ∀ l ∈ labels, allowed l)
    (ran : run step state labels = some final) : relates state labels final := by
  induction labels generalizing state with
  | nil =>
      cases ran
      exact stay _
  | cons label rest ih =>
      obtain ⟨next, taken, tail⟩ := (run_cons _ _ _ _ _).mp ran
      exact move state label next rest final (inside label (by simp)) taken
        (ih next (fun l member => inside l (by simp [member])) tail)

-- The induction over runs, packaged once: what one allowed step preserves, an
-- allowed run preserves.
theorem guarded_invariant (step : Step State Label) (guard : State → Label → Prop) (inv : State → Prop)
    (preserved : ∀ s l t, inv s → guard s l → step s l = some t → inv t)
    (state final : State) (labels : List Label) (start : inv state)
    (allowed : Guarded step guard state labels) (ran : run step state labels = some final) : inv final := by
  induction labels generalizing state with
  | nil =>
      cases ran
      exact start
  | cons label rest ih =>
      obtain ⟨next, taken, tail⟩ := (run_cons _ _ _ _ _).mp ran
      exact ih next (preserved state label next start allowed.1 taken) (allowed.2 next taken) tail

theorem invariant (step : Step State Label) (inv : State → Prop)
    (preserved : ∀ s l t, inv s → step s l = some t → inv t)
    (state final : State) (labels : List Label) (start : inv state)
    (ran : run step state labels = some final) : inv final :=
  guarded_invariant step (fun _ _ => True) inv (fun s l t good _ taken => preserved s l t good taken)
    state final labels start (guarded_trivial _ _ _ _ (fun _ _ => trivial)) ran

theorem guarded_across (step : Step State Label) (guard : State → Label → Prop) (inv : State → Prop)
    (moves : State → State → Prop)
    (preserved : ∀ s l t, inv s → guard s l → step s l = some t → inv t ∧ moves s t)
    (state : State) (labels : List Label) (start : inv state)
    (allowed : Guarded step guard state labels) : Across step moves state labels := by
  induction labels generalizing state with
  | nil => trivial
  | cons label rest ih =>
      intro next taken
      have result := preserved state label next start allowed.1 taken
      exact ⟨result.2, ih next result.1 (allowed.2 next taken)⟩

theorem across_append (step : Step State Label) (moves : State → State → Prop) (state middle : State)
    (front back : List Label) (across : Across step moves state (front ++ back))
    (ran : run step state front = some middle) : Across step moves middle back := by
  induction front generalizing state with
  | nil =>
      cases ran
      exact across
  | cons label rest ih =>
      obtain ⟨next, taken, tail⟩ := (run_cons _ _ _ _ _).mp ran
      exact ih next (across next taken).2 tail

theorem across_step (step : Step State Label) (moves : State → State → Prop) (state s t : State)
    (front back : List Label) (label : Label) (across : Across step moves state (front ++ label :: back))
    (ran : run step state front = some s) (taken : step s label = some t) : moves s t :=
  (across_append step moves state s front (label :: back) across ran t taken).1

theorem across_run (step : Step State Label) (moves : State → State → Prop) (stay : ∀ s, moves s s)
    (chain : ∀ s t u, moves s t → moves t u → moves s u) (state final : State) (labels : List Label)
    (across : Across step moves state labels) (ran : run step state labels = some final) : moves state final := by
  induction labels generalizing state with
  | nil =>
      cases ran
      exact stay _
  | cons label rest ih =>
      obtain ⟨next, taken, tail⟩ := (run_cons _ _ _ _ _).mp ran
      exact chain _ _ _ (across next taken).1 (ih next (across next taken).2 tail)

theorem always_iff_across (step : Step State Label) (good : State → Prop) (state : State) (labels : List Label) :
    Always step good state labels ↔ good state ∧ Across step (fun _ t => good t) state labels := by
  induction labels generalizing state with
  | nil => simp [Always, Across]
  | cons label rest ih => simp only [Always, Across, ih]

-- Exactness: when a step moves as it should exactly if the guard allows it, all
-- steps of a run do exactly if the run is guarded. All labels of the run are
-- enabled: a label not taken would satisfy any property.
theorem across_iff_guarded (step : Step State Label) (guard : State → Label → Prop) (domain : Label → Prop)
    (inv : State → Prop) (moves : State → State → Prop)
    (preserved : ∀ s l t, inv s → domain l → step s l = some t → (moves s t ↔ guard s l) ∧ (moves s t → inv t))
    (state final : State) (labels : List Label) (start : inv state)
    (inside : ∀ l ∈ labels, domain l) (ran : run step state labels = some final) :
    Across step moves state labels ↔ Guarded step guard state labels := by
  induction labels generalizing state with
  | nil => exact ⟨fun _ => trivial, fun _ => trivial⟩
  | cons label rest ih =>
      obtain ⟨next, taken, tail⟩ := (run_cons _ _ _ _ _).mp ran
      obtain ⟨exactly, kept⟩ := preserved state label next start (inside label (by simp)) taken
      have later : moves state next → (Across step moves next rest ↔ Guarded step guard next rest) := fun moved =>
        ih next (kept moved) (fun l member => inside l (by simp [member])) tail
      simp only [Across, Guarded, taken, Option.some.injEq, forall_eq']
      rw [← exactly]
      exact and_congr_right later

theorem always_iff_guarded (step : Step State Label) (guard : State → Label → Prop) (domain : Label → Prop)
    (inv good : State → Prop)
    (preserved : ∀ s l t, inv s → good s → domain l → step s l = some t → inv t ∧ (good t ↔ guard s l))
    (state final : State) (labels : List Label) (start : inv state) (fine : good state)
    (inside : ∀ l ∈ labels, domain l) (ran : run step state labels = some final) :
    Always step good state labels ↔ Guarded step guard state labels := by
  rw [always_iff_across, and_iff_right fine]
  refine across_iff_guarded step guard domain (fun s => inv s ∧ good s) _ (fun s l t before known taken => ?_)
    state final labels ⟨start, fine⟩ inside ran
  obtain ⟨after, exactly⟩ := preserved s l t before.1 before.2 known taken
  exact ⟨exactly, fun good => ⟨after, good⟩⟩

-- When a step leads to a good state exactly if it is allowed and comes from one,
-- so does a run.
theorem good_iff_guarded (step : Step State Label) (inside allowed : State → Label → Prop) (inv good : State → Prop)
    (preserved : ∀ s l t, inv s → inside s l → step s l = some t → inv t ∧ (good t ↔ good s ∧ allowed s l))
    (state final : State) (labels : List Label) (start : inv state) (within : Guarded step inside state labels)
    (ran : run step state labels = some final) :
    inv final ∧ (good final ↔ good state ∧ Guarded step allowed state labels) := by
  induction labels generalizing state with
  | nil =>
      cases ran
      exact ⟨start, by simp [Guarded]⟩
  | cons label rest ih =>
      obtain ⟨next, taken, tail⟩ := (run_cons _ _ _ _ _).mp ran
      obtain ⟨after, first⟩ := preserved state label next start within.1 taken
      obtain ⟨last, later⟩ := ih next after (within.2 next taken) tail
      refine ⟨last, later.trans ?_⟩
      rw [first, and_assoc]
      simp [Guarded, taken]

section
variable {Out : Type} (step : Step State Label) (out : State → Label → State → List Out)

theorem outputs_cons (state next : State) (label : Label) (rest : List Label) (taken : step state label = some next) :
    outputs step out state (label :: rest) = out state label next ++ outputs step out next rest := by
  rw [outputs, taken]

theorem outputs_append (state middle : State) (front back : List Label) (ran : run step state front = some middle) :
    outputs step out state (front ++ back) = outputs step out state front ++ outputs step out middle back := by
  induction front generalizing state with
  | nil =>
      cases ran
      rfl
  | cons label rest ih =>
      obtain ⟨next, taken, tail⟩ := (run_cons _ _ _ _ _).mp ran
      rw [List.cons_append, outputs_cons step out state next label _ taken, outputs_cons step out state next label _ taken,
        ih next tail, List.append_assoc]

-- The potential argument: what each step puts out it pays for with the measure.
theorem outputs_bounded (inv : State → Prop) (measure : State → Nat)
    (pays : ∀ s l t, inv s → step s l = some t → inv t ∧ (out s l t).length + measure t ≤ measure s)
    (state final : State) (labels : List Label) (start : inv state) (ran : run step state labels = some final) :
    (outputs step out state labels).length + measure final ≤ measure state := by
  induction labels generalizing state with
  | nil =>
      cases ran
      exact Nat.le_of_eq (Nat.zero_add _)
  | cons label rest ih =>
      obtain ⟨next, taken, tail⟩ := (run_cons _ _ _ _ _).mp ran
      obtain ⟨after, paid⟩ := pays state label next start taken
      have later := ih next after tail
      rw [outputs_cons step out state next label rest taken, List.length_append]
      omega

-- What the steps put out settles what they bring due, apart from what is owed
-- before and after.
theorem outputs_balance {Due : Type} (due : State → Label → State → List Due) (inv : State → Prop) (owed : State → Nat)
    (balances : ∀ s l t, inv s → step s l = some t →
      inv t ∧ (out s l t).length + owed t = owed s + (due s l t).length)
    (state final : State) (labels : List Label) (start : inv state) (ran : run step state labels = some final) :
    (outputs step out state labels).length + owed final = owed state + (outputs step due state labels).length := by
  induction labels generalizing state with
  | nil =>
      cases ran
      exact Nat.add_comm _ _
  | cons label rest ih =>
      obtain ⟨next, taken, tail⟩ := (run_cons _ _ _ _ _).mp ran
      obtain ⟨after, here⟩ := balances state label next start taken
      have later := ih next after tail
      rw [outputs_cons step out state next label rest taken, outputs_cons step due state next label rest taken,
        List.length_append, List.length_append]
      omega

theorem outputs_forall (inv : State → Prop) (kind : Out → Prop)
    (each : ∀ s l t, inv s → step s l = some t → inv t ∧ ∀ o ∈ out s l t, kind o)
    (state : State) (labels : List Label) (start : inv state) : ∀ o ∈ outputs step out state labels, kind o := by
  induction labels generalizing state with
  | nil => simp [outputs]
  | cons label rest ih =>
      cases taken : step state label with
      | none => simp [outputs, taken]
      | some next =>
          obtain ⟨after, here⟩ := each state label next start taken
          rw [outputs_cons step out state next label rest taken, List.forall_mem_append]
          exact ⟨here, ih next after⟩

theorem outputs_silent (inv : State → Prop) (silent : ∀ s l t, inv s → step s l = some t → inv t ∧ out s l t = [])
    (state : State) (labels : List Label) (start : inv state) : outputs step out state labels = [] := by
  refine List.eq_nil_iff_forall_not_mem.mpr (outputs_forall step out inv (fun _ => False) (fun s l t before taken => ?_)
    state labels start)
  obtain ⟨after, nothing⟩ := silent s l t before taken
  exact ⟨after, by rw [nothing]; simp⟩

end

-- What holds of a state and of all that its past has put out is kept by a run if
-- the steps keep it.
theorem guarded_outputs {Out : Type} (step : Step State Label) (guard : State → Label → Prop)
    (out : State → Label → State → List Out) (holds : State → List Out → Prop)
    (kept : ∀ s l t past, holds s past → guard s l → step s l = some t → holds t (past ++ out s l t))
    (state final : State) (labels : List Label) (past : List Out) (start : holds state past)
    (allowed : Guarded step guard state labels) (ran : run step state labels = some final) :
    holds final (past ++ outputs step out state labels) := by
  induction labels generalizing state past with
  | nil =>
      cases ran
      rwa [outputs, List.append_nil]
  | cons label rest ih =>
      obtain ⟨next, taken, tail⟩ := (run_cons _ _ _ _ _).mp ran
      have later := ih next _ (kept state label next past start allowed.1 taken) (allowed.2 next taken) tail
      rwa [List.append_assoc, ← outputs_cons step out state next label rest taken] at later

theorem outputs_of_labels {Out : Type} (step : Step State Label) (item : Label → Option Out) (state final : State)
    (labels : List Label) (ran : run step state labels = some final) :
    outputs step (fun _ l _ => (item l).toList) state labels = labels.filterMap item := by
  induction labels generalizing state with
  | nil => rfl
  | cons label rest ih =>
      obtain ⟨next, taken, tail⟩ := (run_cons _ _ _ _ _).mp ran
      rw [outputs_cons step _ state next label rest taken, ih next tail]
      cases same : item label with
      | none => simp [same]
      | some brought => simp [same]

-- The same for items that the labels carry.
theorem guarded_history {Item : Type} (step : Step State Label) (guard : State → Label → Prop) (item : Label → Option Item)
    (holds : State → List Item → Prop)
    (kept : ∀ s l t past, holds s past → guard s l → step s l = some t → holds t (past ++ (item l).toList))
    (state final : State) (labels : List Label) (past : List Item) (start : holds state past)
    (allowed : Guarded step guard state labels) (ran : run step state labels = some final) :
    holds final (past ++ labels.filterMap item) := by
  rw [← outputs_of_labels step item state final labels ran]
  exact guarded_outputs step guard _ holds kept state final labels past start allowed ran

-- A run that ends in a state of some kind, but does not start in one, has a step
-- that reaches the kind first.
theorem run_reaches (step : Step State Label) (kind : State → Prop) (state final : State) (labels : List Label)
    (before : ¬kind state) (after : kind final) (ran : run step state labels = some final) :
    ∃ front label back middle next, labels = front ++ label :: back ∧ run step state front = some middle ∧
      ¬kind middle ∧ step middle label = some next ∧ kind next ∧ run step next back = some final := by
  induction labels generalizing state with
  | nil =>
      cases ran
      exact absurd after before
  | cons label rest ih =>
      obtain ⟨next, taken, tail⟩ := (run_cons _ _ _ _ _).mp ran
      by_cases reached : kind next
      · exact ⟨[], label, rest, state, next, rfl, rfl, before, taken, reached, tail⟩
      · obtain ⟨front, first, back, middle, there, rfl, ran, notYet, moved, kindNext, left⟩ := ih next reached tail
        exact ⟨label :: front, first, back, middle, there, rfl, (run_cons _ _ _ _ _).mpr ⟨next, taken, ran⟩, notYet, moved,
          kindNext, left⟩

end Machine
