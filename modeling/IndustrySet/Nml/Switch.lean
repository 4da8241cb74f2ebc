set_option autoImplicit false

/-! # NML switches

A switch looks at the value of an expression and goes on at the first branch for that value, or at
its default. The parts are kept apart so that one can follow where a switch leads without reading
text back. -/

namespace IndustrySet.Nml

/-- The features that items and switches belong to. -/
def featIndustries : String := "FEAT_INDUSTRIES"

@[inherit_doc featIndustries]
def featIndustryTiles : String := "FEAT_INDUSTRYTILES"

@[inherit_doc featIndustries]
def featCargos : String := "FEAT_CARGOS"

/-- The parameter by which the player picks an economy. -/
def economyParameter : String := "param_economy"

/-- Where a branch or a callback leads. -/
inductive Target
  /-- The switch, spritelayout or other item of this name. -/
  | named (name : String)
  /-- A callback result. -/
  | returned (result : String)
  /-- NML as it was declared. -/
  | raw (text : String)
  deriving DecidableEq, Repr

/-- The NML of a target. -/
def Target.text : Target → String
  | .named name => name
  | .returned result => "return " ++ result
  | .raw text => text

/-- The value that a branch is for. -/
inductive Case
  | number (n : Nat)
  /-- The position of a tile in its industry. -/
  | position (x y : Int8)
  /-- An NML expression. -/
  | word (text : String)
  deriving DecidableEq, Repr

/-- The NML of a case. -/
def Case.text : Case → String
  | .number n => toString n
  | .position x y => "relative_coord(" ++ toString x.toInt ++ ", " ++ toString y.toInt ++ ")"
  | .word text => text

/-- The expression that puts the state of delivery of the `n`-th processed cargo on the text stack.
-/
def deliveryStore (label : String) (n : Nat) : String :=
  "STORE_TEMP(" ++ label ++ " | (current_date - LOAD_PERM(var_date_received_" ++ toString n ++
    ") > 90 ? string(STR_EXTRA_TEXT_SECONDARY_CARGO_REQUIRED) : " ++
    "string(STR_EXTRA_TEXT_SECONDARY_CARGO_DELIVERED)) << 16, " ++ toString (255 + n) ++ ")"

/-- The expressions for the state of delivery of some cargos, the first of which has number `n`. -/
def deliveryStoresFrom : Nat → List String → List String
  | _, [] => []
  | n, label :: rest => deliveryStore label n :: deliveryStoresFrom (n + 1) rest

/-- The expressions for the state of delivery of all processed cargos. -/
def deliveryStores (labels : List String) : String :=
  ", ".intercalate (deliveryStoresFrom 1 labels)

/-- The expression a switch looks at. -/
inductive Expression
  /-- A variable or another NML expression. -/
  | term (text : String)
  /-- The states of delivery of some cargos, put on the text stack. -/
  | deliveries (labels : List String)
  deriving DecidableEq, Repr

/-- The NML of an expression. -/
def Expression.text : Expression → String
  | .term text => text
  | .deliveries labels => "[" ++ deliveryStores labels ++ "]"

/-- A switch. -/
structure Switch where
  feature : String
  /-- Whose variables the expression reads. -/
  scope : String
  name : String
  expression : Expression
  branches : List (Case × Target)
  /-- Where the switch leads when no branch is for the value. -/
  default : Target
  deriving DecidableEq, Repr

namespace Switch

/-- The NML of a switch. -/
def text (s : Switch) : String :=
  "switch (" ++ s.feature ++ ", " ++ s.scope ++ ", " ++ s.name ++ ", " ++ s.expression.text ++
    ") \x7b\n" ++
    String.join (s.branches.map fun (case, target) =>
      "    " ++ case.text ++ ": " ++ target.text ++ ";\n") ++
    "    " ++ s.default.text ++ ";\n\x7d\n"

/-- Where a switch leads for a value: to the first branch for it, else to the default. -/
def select (s : Switch) (value : Case) : Target :=
  match s.branches.find? fun branch => branch.1 = value with
  | some branch => branch.2
  | none => s.default

/-- The switch on the economy that the player picked, and the target that stands for it. Without
branches there is no switch, and the default is the target. -/
def onEconomy (feature name : String) (branches : List (UInt8 × Target)) (default : Target) :
    List Switch × Target :=
  if branches.isEmpty then ([], default)
  else
    ([{ feature, scope := "SELF", name, expression := .term economyParameter,
        branches := branches.map fun (n, target) => (.number n.toNat, target), default }],
      .named name)

end Switch

end IndustrySet.Nml
