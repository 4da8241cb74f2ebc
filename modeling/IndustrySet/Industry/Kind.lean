import IndustrySet.Property.Basic

set_option autoImplicit false

/-! # Industry kinds

The kind of an industry decides which family of templates it belongs to, which properties it has
whatever it declares, and how supplies raise its production. -/

namespace IndustrySet

/-- What supplies a primary industry requires. -/
structure SupplyRequirements where
  /-- The least delivered amount that raises production. -/
  threshold : UInt32
  /-- The part of the string names that tells which supplies are meant. -/
  stringStem : String
  /-- The factor on the requirement parameters. -/
  multiplier : UInt32
  deriving DecidableEq, Repr

/-- What sort of industry this is. -/
inductive Kind
  /-- Mines and the like, helped by engineering supplies. -/
  | primaryExtractive
  /-- Farms and the like, helped by farm supplies. -/
  | primaryOrganic
  /-- Ports, helped by any cargo. -/
  | primaryPort
  /-- Takes no supplies and never changes its production. -/
  | primaryNoSupplies
  /-- Stands near towns and produces by their population. -/
  | primaryTownProducer
  /-- Turns cargos into other cargos. -/
  | secondary (combinedCargosBoostProd mnspBoostsProduction : Bool)
  /-- Consumes cargos. -/
  | tertiary
  deriving DecidableEq, Repr

namespace Kind

/-- The family of templates of the kind. -/
def template : Kind → String
  | .primaryExtractive | .primaryOrganic | .primaryPort => "industry_primary"
  | .primaryNoSupplies => "industry_primary_no_supplies"
  | .primaryTownProducer => "industry_primary_town_producer"
  | .secondary _ _ => "industry_secondary"
  | .tertiary => "industry_tertiary"

/-- The supplies that raise production, for kinds where they do. -/
def supplyRequirements? : Kind → Option SupplyRequirements
  | .primaryExtractive | .primaryOrganic => some ⟨0, "PRIMARY", 1⟩
  | .primaryPort => some ⟨0, "PORT", 8⟩
  | _ => none

/-- The properties of the kind that no declaration changes. The text of a window comes from a
callback where the kind says that there is one. -/
def forcedProperties : Kind → List (PropertyKey × PropertyValue)
  | .primaryExtractive =>
    [(.acceptCargoTypes, .textList ["ENSP"]), (.lifeType, .text "IND_LIFE_TYPE_EXTRACTIVE"),
     (.extraTextIndustry, .bool true)]
  | .primaryOrganic =>
    [(.acceptCargoTypes, .textList ["FMSP"]), (.lifeType, .text "IND_LIFE_TYPE_ORGANIC"),
     (.extraTextIndustry, .bool true)]
  | .primaryPort =>
    [(.lifeType, .text "IND_LIFE_TYPE_BLACK_HOLE"), (.extraTextIndustry, .bool true)]
  | .secondary _ _ => [(.lifeType, .text "IND_LIFE_TYPE_PROCESSING")]
  | .primaryNoSupplies | .primaryTownProducer | .tertiary => []

/-- Does the industry process cargos? -/
def isSecondary : Kind → Bool
  | .secondary _ _ => true
  | _ => false

/-- Do the cargos of the industry raise each other's production? -/
def combinesCargos : Kind → Bool
  | .secondary combined _ => combined
  | _ => false

end Kind

end IndustrySet
