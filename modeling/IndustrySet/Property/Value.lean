import IndustrySet.Nml.Value

set_option autoImplicit false

/-! # Property values -/

namespace IndustrySet

/-- The declared value of a property. -/
inductive PropertyValue
  /-- An NML expression, as it is to be written. -/
  | text (expression : String)
  /-- A year or another plain number. -/
  | int (n : Int64)
  /-- A flag, which is no NML property. -/
  | bool (b : Bool)
  /-- Cargo labels. -/
  | textList (labels : List String)
  /-- Accepted cargo labels, each with its output ratio in eighths. -/
  | cargoRatios (ratios : List (String × UInt32))
  deriving DecidableEq, Repr

namespace PropertyValue

/-- The text of a text value. -/
def asText? : PropertyValue → Option String
  | .text expression => some expression
  | _ => none

/-- The number of a number value. -/
def asInt? : PropertyValue → Option Int64
  | .int n => some n
  | _ => none

/-- The flag of a flag value. -/
def asBool? : PropertyValue → Option Bool
  | .bool b => some b
  | _ => none

/-- The labels of a label list. -/
def asTextList? : PropertyValue → Option (List String)
  | .textList labels => some labels
  | _ => none

/-- The labels and ratios of a list of ratios. -/
def asCargoRatios? : PropertyValue → Option (List (String × UInt32))
  | .cargoRatios ratios => some ratios
  | _ => none

/-- The value in NML. Flags, cargo ratios and the empty text have none. -/
def toNml? : PropertyValue → Option Nml.Value
  | .text expression => if expression = "" then none else some (.raw expression)
  | .int n => some (.raw (toString n.toInt))
  | .textList labels => some (.cargos labels)
  | .bool _ => none
  | .cargoRatios _ => none

end PropertyValue

end IndustrySet
