import IndustrySet.Update

set_option autoImplicit false

/-! # Cargos

A cargo is a set of NML cargo properties together with the label by which industries refer to it.
The values are NML expressions, kept as they were written. -/

namespace IndustrySet

/-- Identifies a cargo declaration, as in `food`. Industries name cargos by their label instead. -/
abbrev CargoId := String

/-- A cargo declaration. -/
structure Cargo where
  id : CargoId
  numericId : UInt8
  /-- The four-letter label, as in `FISH`. -/
  label : String
  typeName : String
  unitName : String
  typeAbbreviation : String
  sprite : String
  weight : String
  paymentListColour : String
  isFreight : String
  classes : String
  townGrowthEffect : String
  townGrowthMultiplier : String
  unitsOfCargo : String
  itemsOfCargo : String
  penaltyLowerbound : String
  singlePenaltyLength : String
  priceFactor : String
  capacityMultiplier : String
  /-- Column and row of the icon in the icon sheet. -/
  iconIndices : UInt8 × UInt8
  deriving DecidableEq, Repr

/-- Names and values of the NML properties of a cargo, in output order. -/
def Cargo.properties (cargo : Cargo) : List (String × String) :=
  [("type_name", cargo.typeName),
   ("unit_name", cargo.unitName),
   ("type_abbreviation", cargo.typeAbbreviation),
   ("sprite", cargo.sprite),
   ("weight", cargo.weight),
   ("cargo_payment_list_colour", cargo.paymentListColour),
   ("is_freight", cargo.isFreight),
   ("cargo_classes", cargo.classes),
   ("cargo_label", "\"" ++ cargo.label ++ "\""),
   ("town_growth_effect", cargo.townGrowthEffect),
   ("town_growth_multiplier", cargo.townGrowthMultiplier),
   ("units_of_cargo", cargo.unitsOfCargo),
   ("items_of_cargo", cargo.itemsOfCargo),
   ("penalty_lowerbound", cargo.penaltyLowerbound),
   ("single_penalty_length", cargo.singlePenaltyLength),
   ("price_factor", cargo.priceFactor),
   ("capacity_multiplier", cargo.capacityMultiplier)]

/-- The cargos of a run, in the order they were registered. -/
structure Cargos where
  toList : List Cargo
  deriving DecidableEq, Repr

namespace Cargos

/-- No cargos. -/
def empty : Cargos := ⟨[]⟩

/-- The number of cargos. -/
def size (cargos : Cargos) : Nat :=
  cargos.toList.length

/-- The cargo with an id. -/
def get? (cargos : Cargos) (id : CargoId) : Option Cargo :=
  cargos.toList.find? (·.id = id)

/-- The cargo with an id, which must be registered. -/
def lookup (cargos : Cargos) (id : CargoId) : Except Error Cargo :=
  match cargos.get? id with
  | some cargo => .ok cargo
  | none => .error (.unknownCargo id)

/-- The cargo with a label. -/
def byLabel? (cargos : Cargos) (label : String) : Option Cargo :=
  cargos.toList.find? (·.label = label)

/-- Registers a cargo. Neither its id nor its label nor its numeric id may be taken. -/
def enter (cargo : Cargo) : Update Cargos Unit := do
  let cargos ← get
  if cargos.toList.any (·.id = cargo.id) then
    throw (.duplicate .cargo cargo.id)
  if cargos.toList.any (·.label = cargo.label) then
    throw (.duplicate .cargoLabel cargo.label)
  if cargos.toList.any (·.numericId = cargo.numericId) then
    throw (.duplicate .cargoNumericId (toString cargo.numericId.toNat))
  set (Cargos.mk (cargos.toList ++ [cargo]))

/-- The cargos with one more. -/
def register (cargos : Cargos) (cargo : Cargo) : Except Error Cargos :=
  Update.applyTo (enter cargo) cargos

end Cargos

end IndustrySet
