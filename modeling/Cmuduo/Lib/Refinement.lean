import Cmuduo.Lib.Machine

set_option autoImplicit false

namespace Machine

variable {State Label Small Command : Type}

-- Each allowed step of a machine stands for the commands it issues to a small
-- one, of which there may be none.
structure Refines (step : Step State Label) (small : Step Small Command) (issues : State → Label → State → List Command)
    (guard : State → Label → Prop) (inv : State → Prop) (relates : State → Small → Prop) : Prop where
  preserved : ∀ s l t, inv s → guard s l → step s l = some t → inv t
  simulated : ∀ s l t a, inv s → guard s l → relates s a → step s l = some t →
    ∃ b, run small a (issues s l t) = some b ∧ relates t b

variable {step : Step State Label} {small : Step Small Command} {issues : State → Label → State → List Command}
  {guard : State → Label → Prop} {inv : State → Prop} {relates : State → Small → Prop}

theorem Refines.run_related (refines : Refines step small issues guard inv relates) (state final : State)
    (labels : List Label) (a : Small) (start : inv state) (related : relates state a)
    (allowed : Guarded step guard state labels) (ran : run step state labels = some final) :
    ∃ b, run small a (outputs step issues state labels) = some b ∧ relates final b := by
  induction labels generalizing state a with
  | nil =>
      cases ran
      exact ⟨a, rfl, related⟩
  | cons label rest ih =>
      obtain ⟨next, taken, tail⟩ := (run_cons _ _ _ _ _).mp ran
      obtain ⟨middle, front, there⟩ := refines.simulated state label next a start allowed.1 related taken
      obtain ⟨last, back, after⟩ :=
        ih next middle (refines.preserved state label next start allowed.1 taken) there (allowed.2 next taken) tail
      rw [outputs_cons step issues state next label rest taken]
      exact ⟨last, (run_append _ _ _ _ _).mpr ⟨middle, front, back⟩, after⟩

-- The small machine may also be made in the middle of a run, before which no
-- commands are issued to it.
theorem Refines.run_made (refines : Refines step small issues guard inv relates) (unmade : State → Prop)
    (fresh : Small → Prop)
    (makes : ∀ s l t, inv s → guard s l → unmade s → step s l = some t →
      issues s l t = [] ∧ (unmade t ∨ ∃ a, fresh a ∧ relates t a))
    (state final : State) (labels : List Label) (start : inv state) (before : unmade state)
    (allowed : Guarded step guard state labels) (ran : run step state labels = some final) :
    unmade final ∨
      ∃ a b, fresh a ∧ run small a (outputs step issues state labels) = some b ∧ relates final b := by
  induction labels generalizing state with
  | nil =>
      cases ran
      exact .inl before
  | cons label rest ih =>
      obtain ⟨next, taken, tail⟩ := (run_cons _ _ _ _ _).mp ran
      have after := refines.preserved state label next start allowed.1 taken
      obtain ⟨silent, still | ⟨a, new, related⟩⟩ := makes state label next start allowed.1 before taken
      · rw [outputs_cons step issues state next label rest taken, silent]
        exact ih next after still (allowed.2 next taken) tail
      · obtain ⟨b, played, there⟩ := refines.run_related next final rest a after related (allowed.2 next taken) tail
        rw [outputs_cons step issues state next label rest taken, silent]
        exact .inr ⟨a, b, new, played, there⟩

end Machine
