import Mathlib.Data.List.Basic

set_option autoImplicit false

namespace Throwing

-- A call on an object, statement by statement: when an exception ends it, the
-- object holds what the statements before have left.
abbrev Call (Stop Object Result : Type) := EStateM Stop Object Result

variable {Stop Object Result Next : Type}

def perform (result : Except Stop Result) : Call Stop Object Result := fun object =>
  match result with
  | .ok value => .ok value object
  | .error stop => .error stop object

-- The call as seen by a caller that gives the object up after an exception.
def outcome : EStateM.Result Stop Object Result → Except Stop (Result × Object)
  | .ok value object => .ok (value, object)
  | .error stop _ => .error stop

theorem bind_ok (first : Call Stop Object Result) (rest : Result → Call Stop Object Next) (object after : Object)
    (value : Result) (done : first object = .ok value after) : (first >>= rest) object = rest value after := by
  change EStateM.bind first rest object = _
  rw [EStateM.bind, done]

theorem bind_error (first : Call Stop Object Result) (rest : Result → Call Stop Object Next) (object after : Object)
    (stop : Stop) (thrown : first object = .error stop after) : (first >>= rest) object = .error stop after := by
  change EStateM.bind first rest object = _
  rw [EStateM.bind, thrown]

theorem perform_bind (result : Except Stop Result) (rest : Result → Call Stop Object Next) (object : Object) :
    (perform result >>= rest) object =
      match result with
      | .ok value => rest value object
      | .error stop => .error stop object := by
  cases result with
  | ok value => rfl
  | error stop => rfl

theorem get_bind (rest : Object → Call Stop Object Next) (object : Object) :
    ((get : Call Stop Object Object) >>= rest) object = rest object object := rfl

theorem modify_bind (change : Object → Object) (rest : Unit → Call Stop Object Next) (object : Object) :
    ((modify change : Call Stop Object Unit) >>= rest) object = rest () (change object) := rfl

theorem outcome_ok (result : EStateM.Result Stop Object Result) (value : Result) (object : Object) :
    outcome result = .ok (value, object) ↔ result = .ok value object := by
  cases result with
  | ok here after =>
      constructor
      · intro same
        cases same
        rfl
      · intro same
        cases same
        rfl
  | error stop after =>
      constructor
      · intro same
        cases same
      · intro same
        cases same

theorem outcome_error (result : EStateM.Result Stop Object Result) (stop : Stop) :
    outcome result = .error stop ↔ ∃ left, result = .error stop left := by
  cases result with
  | ok value object =>
      constructor
      · intro same
        cases same
      · rintro ⟨left, same⟩
        cases same
  | error here object =>
      constructor
      · intro same
        cases same
        exact ⟨object, rfl⟩
      · rintro ⟨left, same⟩
        cases same
        rfl

end Throwing
