set_option autoImplicit false

/-! # NML property values

What stands to the right of a property's name in an item. Lists of cargos are kept as labels, so
that what is written can be compared without reading text back. -/

namespace IndustrySet.Nml

/-- The NML expression for the cargo with a label. -/
def cargoType (label : String) : String :=
  "cargotype(\"" ++ label ++ "\")"

/-- A list of NML expressions. -/
def bracketed (parts : List String) : String :=
  "[" ++ ",".intercalate parts ++ "]"

/-- The acceptance of a cargo, in eighths. -/
def acceptanceEntry (label : String) (amount : Nat) : String :=
  "[" ++ cargoType label ++ ", " ++ toString amount ++ "]"

/-- The value of a property. -/
inductive Value
  /-- An NML expression as it was declared. -/
  | raw (text : String)
  /-- Cargos, by label. -/
  | cargos (labels : List String)
  /-- Accepted cargos, each with the amount of acceptance in eighths. -/
  | acceptance (amounts : List (String × Nat))
  /-- Identifiers of other NML items. -/
  | identifiers (names : List String)
  deriving DecidableEq, Repr

/-- The NML of a value. -/
def Value.text : Value → String
  | .raw text => text
  | .cargos labels => bracketed (labels.map cargoType)
  | .acceptance amounts =>
    bracketed (amounts.map fun (label, amount) => acceptanceEntry label amount)
  | .identifiers names => bracketed names

/-- A property with its value. -/
structure Assignment where
  name : String
  value : Value
  deriving DecidableEq, Repr

/-- The NML of an assignment. -/
def Assignment.text (a : Assignment) : String :=
  a.name ++ ": " ++ a.value.text ++ ";"

end IndustrySet.Nml
