import IndustrySet.Error

set_option autoImplicit false

/-! # Updates

An update changes a state in place, or is refused with an error. What it had done to the state
before it was refused stays done; it leaves the state alone only if it checks first. -/

namespace IndustrySet

/-- Changes of a state that may be refused. -/
abbrev Update (σ : Type) : Type → Type := EStateM Error σ

namespace Update

variable {σ τ : Type}

/-- The state after an update of it, which must not be refused. -/
def applyTo (update : Update σ Unit) (state : σ) : Except Error σ :=
  match update.run state with
  | .ok () changed => .ok changed
  | .error e _ => .error e

/-- The state that an update leaves behind, also where it is refused, and what came of it. -/
def outcome {α : Type} (update : Update σ α) (state : σ) : σ × Except Error α :=
  match update.run state with
  | .ok a after => (after, .ok a)
  | .error e after => (after, .error e)

/-- The update of a whole that an update of one of its parts is. -/
def onPart (get : τ → σ) (put : τ → σ → τ) (update : Update σ Unit) :
    Update τ Unit := fun whole =>
  match update.run (get whole) with
  | .ok () part => .ok () (put whole part)
  | .error e part => .error e (put whole part)

end Update

end IndustrySet
