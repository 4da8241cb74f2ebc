import IndustrySet.Cargo
import IndustrySet.Nml.Block

set_option autoImplicit false

/-! # NML of a cargo

A cargo is written as the spriteset of its icon and its item. -/

namespace IndustrySet.Cargo

/-- The sheet that holds the icons of all cargos. -/
def iconSheet : String := "\"src/graphics/other/cargoicons.png\""

/-- Where an icon lies in the sheet, given its column or row. -/
def iconOffset (n : UInt8) : Int16 :=
  Int16.ofNat (10 + 20 * n.toNat)

/-- The name of the icon. -/
def iconName (cargo : Cargo) : String :=
  cargo.id ++ "_icon"

/-- The item of a cargo. -/
def item (cargo : Cargo) : Nml.Item where
  feature := Nml.featCargos
  id := cargo.id
  numericId := some cargo.numericId.toNat
  properties := cargo.properties.map fun (name, value) => ⟨name, .raw value⟩
  callbacks := some [.default (.named cargo.iconName)]

/-- What is written for a cargo. -/
def blocks (cargo : Cargo) : List Nml.Block :=
  [.comment ("cargo " ++ cargo.label),
   .spriteset cargo.iconName iconSheet
     [⟨iconOffset cargo.iconIndices.1, iconOffset cargo.iconIndices.2, 10, 10, 0, 0⟩],
   .item cargo.item]

end IndustrySet.Cargo
