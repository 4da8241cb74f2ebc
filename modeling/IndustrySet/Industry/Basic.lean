import IndustrySet.Dictionary
import IndustrySet.Economy
import IndustrySet.Graphics
import IndustrySet.Industry.Kind
import IndustrySet.Location.Industry
import IndustrySet.Tile

set_option autoImplicit false

/-! # Industries

An industry has base properties and, for every economy, a variation that may override them. Whatever
is asked of it can be asked for the base or for one economy; an economy without a variation is an
error. -/

namespace IndustrySet

/-- How an industry differs in one economy. -/
structure EconomyVariation where
  enabled : Bool := false
  properties : Properties := .empty
  deriving DecidableEq, Inhabited

/-- An industry type. -/
structure Industry where
  id : IndustryId
  numericId : UInt16
  kind : Kind
  /-- The base properties, with the values that the kind forces. -/
  properties : Properties
  variations : Dictionary EconomyVariation
  requirements : SiteRequirements
  /-- The years in which the graphics change, in order. There is one graphics sheet more than years.
  -/
  graphicsChangeDates : List Int64
  tiles : List Tile
  graphics : Graphics
  deriving DecidableEq

namespace Industry

/-- An industry with nothing but properties: what every industry starts from, under what is
declared, under what the kind forces. -/
def create (id : IndustryId) (numericId : UInt16) (kind : Kind) (declared : Properties) :
    Industry where
  id := id
  numericId := numericId
  kind := kind
  properties := (Properties.base.merge declared).setAll kind.forcedProperties
  variations := .empty
  requirements := {}
  graphicsChangeDates := []
  tiles := []
  graphics := {}

/-! ## Variations -/

/-- The industry with the variation of an economy set. -/
def setVariation (industry : Industry) (economy : EconomyId) (variation : EconomyVariation) :
    Industry :=
  { industry with variations := industry.variations.insert economy variation }

/-- The industry, enabled in an economy with some overrides. -/
def enableIn (industry : Industry) (economy : EconomyId) (overrides : Properties) : Industry :=
  industry.setVariation economy { enabled := true, properties := overrides }

/-- Variations for some economies; those that are there stay. -/
def fillVariations (variations : Dictionary EconomyVariation) (ids : List EconomyId) :
    Dictionary EconomyVariation :=
  ids.foldl (fun filled id => if filled.contains id then filled else filled.insert id {}) variations

/-- Gives the industry a variation for every registered economy. It must not have one for any other
economy; the error names the least of those. -/
def fill (economies : Economies) : Update Industry Unit := do
  let industry ← get
  if let some unknown := economies.leastUnknown? industry.variations.keys then
    throw (.unknownEconomy unknown)
  set { industry with variations := fillVariations industry.variations economies.ids }

/-- The industry with a variation for every registered economy. -/
def fillEconomies (industry : Industry) (economies : Economies) : Except Error Industry :=
  Update.applyTo (fill economies) industry

/-- The variation for an economy; none for the base. -/
def variation (industry : Industry) : Option EconomyId → Except Error (Option EconomyVariation)
  | none => .ok none
  | some economy =>
    match industry.variations.get? economy with
    | some variation => .ok (some variation)
    | none => .error (.unknownEconomy economy)

/-- Is the industry enabled in an economy? -/
def isEnabledIn (industry : Industry) (economy : EconomyId) : Bool :=
  match industry.variations.get? economy with
  | some variation => variation.enabled
  | none => false

/-- The economies the industry is enabled in, ascending. -/
def enabledEconomies (industry : Industry) : List EconomyId :=
  (industry.variations.entries.filter fun entry => entry.2.enabled).map (·.1)

/-! ## Properties -/

/-- The value of a property for an economy. -/
def property (industry : Industry) (key : PropertyKey) (economy : Option EconomyId) :
    Except Error (Option PropertyValue) := do
  let variation ← industry.variation economy
  return Properties.resolve industry.properties (variation.map (·.properties)) key

/-- Does an economy override a property? -/
def overrides (industry : Industry) (key : PropertyKey) (economy : EconomyId) :
    Except Error Bool := do
  let variation ← industry.variation (some economy)
  return variation.any (·.properties.contains key)

/-- The NML line for a property, unless its value is missing or empty. -/
def declaration? (industry : Industry) (key : PropertyKey) (economy : Option EconomyId) :
    Except Error (Option Nml.Assignment) := do
  let value ← industry.property key economy
  return (value.bind PropertyValue.toNml?).map (Nml.Assignment.mk key.nmlName)

/-! ## Years -/

/-- The expiry year of an industry that never expires. -/
def neverExpires : Int64 := 5000000

/-- The year in which the industry appears; 0 if none is set. -/
def introYear (industry : Industry) (economy : Option EconomyId) : Except Error Int64 := do
  let value ← industry.property .introYear economy
  return (value.bind PropertyValue.asInt?).getD 0

/-- The year in which the industry disappears. -/
def expiryYear (industry : Industry) (economy : Option EconomyId) : Except Error Int64 := do
  let value ← industry.property .expiryYear economy
  return (value.bind PropertyValue.asInt?).getD neverExpires

end Industry

end IndustrySet
