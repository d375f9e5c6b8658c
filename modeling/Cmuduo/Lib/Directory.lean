import Mathlib.Logic.Function.Basic

set_option autoImplicit false

namespace Directory

variable {Key Id : Type}

-- names gives the objects made so far their keys, and entries is a map from
-- keys to objects, from which some of them have been taken out again.
def Distinct (names : Id → Option Key) : Prop :=
  ∀ id other key, names id = some key → names other = some key → id = other

def Exact (entries : Key → Option Id) (names : Id → Option Key) (removed : Id → Prop) : Prop :=
  ∀ key id, entries key = some id ↔ names id = some key ∧ ¬removed id

theorem exact_empty (removed : Id → Prop) : Exact (fun _ : Key => none) (fun _ => none) removed := by
  intro key id
  simp

-- No object has the key, so an insertion under it replaces nothing.
theorem exact_unused (entries : Key → Option Id) (names : Id → Option Key) (removed : Id → Prop) (key : Key)
    (exact : Exact entries names removed) (unused : ∀ id, names id ≠ some key) : entries key = none := by
  cases found : entries key with
  | none => rfl
  | some id => exact absurd ((exact key id).mp found).1 (unused id)

theorem exact_congr (entries : Key → Option Id) (names : Id → Option Key) (removed gone : Id → Prop)
    (exact : Exact entries names removed) (same : ∀ id, gone id ↔ removed id) : Exact entries names gone := by
  intro key id
  rw [same id]
  exact exact key id

theorem exact_insert [DecidableEq Key] [DecidableEq Id] (entries : Key → Option Id) (names : Id → Option Key)
    (removed : Id → Prop) (id : Id) (key : Key) (exact : Exact entries names removed) (fresh : names id = none)
    (unused : ∀ other, names other ≠ some key) (kept : ¬removed id) :
    Exact (Function.update entries key (some id)) (Function.update names id (some key)) removed := by
  intro other object
  rw [Function.update_apply, Function.update_apply]
  by_cases here : other = key
  · rw [if_pos here, here]
    by_cases same : object = id
    · simp [same, kept]
    · simp [same, Ne.symm same, unused object]
  · rw [if_neg here]
    by_cases same : object = id
    · have absent : entries other ≠ some id := fun found => by
        cases fresh.symm.trans ((exact other id).mp found).1
      simp [same, absent, Ne.symm here]
    · rw [if_neg same]
      exact exact other object

-- The object may have been taken out before.
theorem exact_erase [DecidableEq Key] (entries : Key → Option Id) (names : Id → Option Key)
    (removed : Id → Prop) (id : Id) (key : Key) (exact : Exact entries names removed) (distinct : Distinct names)
    (named : names id = some key) :
    Exact (Function.update entries key none) names (fun other => removed other ∨ other = id) := by
  intro other object
  rw [Function.update_apply]
  by_cases here : other = key
  · rw [if_pos here, here]
    have only : names object = some key → object = id := fun same => distinct object id key same named
    simp only [reduceCtorEq, false_iff, not_and, not_not]
    exact fun same => .inr (only same)
  · rw [if_neg here]
    have different : names object = some other → object ≠ id := by
      rintro same rfl
      exact here (Option.some.inj (same.symm.trans named))
    rw [exact other object]
    constructor
    · exact fun ⟨same, kept⟩ => ⟨same, fun gone => gone.elim kept (different same)⟩
    · exact fun ⟨same, kept⟩ => ⟨same, fun gone => kept (.inl gone)⟩

end Directory
