import IndustrySet.Nml.Switch
import IndustrySet.Nml.Value
import IndustrySet.Text.Lines

set_option autoImplicit false

/-! # NML items

An item defines a cargo, a tile or an industry. It has a block of properties and may have a block of
callbacks. Inside a block for one economy an item sets some of its properties again. -/

namespace IndustrySet.Nml

/-- A line of the graphics block. -/
inductive Callback
  /-- A callback by name. -/
  | named (name : String) (target : Target)
  /-- What is used when no callback applies. -/
  | default (target : Target)
  deriving DecidableEq, Repr

/-- The NML of a callback. -/
def Callback.text : Callback → String
  | .named name target => name ++ ": " ++ target.text ++ ";"
  | .default target => target.text ++ ";"

/-- An item. -/
structure Item where
  feature : String
  id : String
  numericId : Option Nat
  properties : List Assignment
  /-- The callbacks, for an item that has a block of them. -/
  callbacks : Option (List Callback)
  deriving DecidableEq, Repr

/-- A block of the given name with the given lines. -/
def innerBlock (name : String) (lines : List String) : String :=
  "    " ++ name ++ " \x7b\n" ++ String.join (lines.map fun line => "        " ++ line ++ "\n") ++
    "    \x7d\n"

/-- The property block with these lines. -/
def propertyBlock (declarations : List String) : String :=
  innerBlock "property" declarations

namespace Item

/-- The line an item begins with. -/
def header (item : Item) : String :=
  "item(" ++ item.feature ++ ", " ++ item.id ++
    (match item.numericId with
      | some n => ", " ++ toString n
      | none => "") ++ ") \x7b\n"

/-- The NML of an item. -/
def text (item : Item) : String :=
  item.header ++ propertyBlock (item.properties.map Assignment.text) ++
    (match item.callbacks with
      | some callbacks => innerBlock "graphics" (callbacks.map Callback.text)
      | none => "") ++ "\x7d\n"

end Item

/-- A line inside a block: indented, unless it is empty. -/
def indent (line : String) : String :=
  if line = "" then "" else "    " ++ line

/-- Some NML that applies in one economy only. -/
def economyBlock (numericId : UInt8) (body : String) : String :=
  "if (" ++ economyParameter ++ " == " ++ toString numericId.toNat ++ ") \x7b\n" ++
    Text.unlines ((Text.lines body).map indent) ++ "\x7d\n"

end IndustrySet.Nml
