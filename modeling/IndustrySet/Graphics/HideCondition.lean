set_option autoImplicit false

/-! # Conditions that hide a sprite

A sprite of a spritelayout can be hidden in some years, or in some frames of the animation. The year
that counts is the current one with a random offset added, so that industries of one type do not all
change on the same day. -/

namespace IndustrySet

/-- When a sprite is hidden. -/
inductive HideCondition
  | never
  /-- From this year on. -/
  | sinceYear (year : Int64)
  /-- Before this year. -/
  | beforeYear (year : Int64)
  /-- Before the first year, and from the second year on. -/
  | outsideYears (first second : Int64)
  /-- In the frames after this one. -/
  | afterFrame (frame : Nat)
  deriving DecidableEq, Repr

namespace HideCondition

/-- The NML expression for the year that counts. -/
def yearExpression : String :=
  "(current_year + 5 * LOAD_TEMP(0) / 0x10000)"

/-- The NML of a condition. -/
def text : HideCondition → String
  | .never => "0"
  | .sinceYear year => yearExpression ++ " >= " ++ toString year.toInt
  | .beforeYear year => yearExpression ++ " < " ++ toString year.toInt
  | .outsideYears first second =>
    yearExpression ++ " < " ++ toString first.toInt ++ " || " ++ yearExpression ++ " >= " ++
      toString second.toInt
  | .afterFrame frame => "animation_frame > " ++ toString frame

/-- Is the sprite hidden when the year that counts and the frame of the animation are these? -/
def holds (year : Int) (frame : Nat) : HideCondition → Bool
  | .never => false
  | .sinceYear y => y.toInt ≤ year
  | .beforeYear y => year < y.toInt
  | .outsideYears first second => year < first.toInt || second.toInt ≤ year
  | .afterFrame f => f < frame

end HideCondition

end IndustrySet
