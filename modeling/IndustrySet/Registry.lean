import IndustrySet.Cargo
import IndustrySet.Industry.Consistency

set_option autoImplicit false

/-! # Registries

Everything that takes part in a run: its economies, cargos and industries. The economies are there
first, since an industry gets a variation for each of them when it is registered. -/

namespace IndustrySet

/-! ## Industries -/

/-- The industries of a run, in the order they were registered. -/
structure Industries where
  toList : List Industry
  /-- The place of each id in the list. -/
  index : Dictionary Nat
  /-- What was noticed when industries were registered. -/
  warnings : List Warning

namespace Industries

/-- No industries. -/
def empty : Industries := ⟨[], .empty, []⟩

/-- The number of industries. -/
def size (industries : Industries) : Nat :=
  industries.toList.length

/-- The industry with an id. -/
def get? (industries : Industries) (id : IndustryId) : Option Industry :=
  (industries.index.get? id).bind fun place => industries.toList[place]?

/-- Is an industry with this id registered? -/
def contains (industries : Industries) (id : IndustryId) : Bool :=
  industries.index.contains id

/-- The industry with an id, which must be registered. -/
def lookup (industries : Industries) (id : IndustryId) : Except Error Industry :=
  match industries.get? id with
  | some industry => .ok industry
  | none => .error (.unknownIndustry id)

/-- The numeric ids of the registered industries. -/
def numbers (industries : Industries) : NumberTable :=
  fun id => (industries.get? id).map (·.numericId)

/-- The industries that are enabled in an economy. -/
def enabledIn (industries : Industries) (economy : EconomyId) : List Industry :=
  industries.toList.filter fun industry => industry.isEnabledIn economy

/-- Registers an industry, which gets a variation for every economy. Neither its id nor its numeric
id may be taken, and it must not have a variation for an economy that is not registered. That it is
enabled in no economy is noticed, but accepted. -/
def enter (industry : Industry) (economies : Economies) : Update Industries Unit := do
  let industries ← get
  if industries.contains industry.id then
    throw (.duplicate .industry industry.id)
  if let some other := industries.toList.find? (·.numericId = industry.numericId) then
    throw (.duplicate .industryNumericId
      (toString industry.numericId.toNat ++ " (used by " ++ other.id ++ ")"))
  let filled ← liftExcept (industry.fillEconomies economies)
  if filled.enabledEconomies.isEmpty then
    modify fun industries =>
      { industries with warnings := industries.warnings ++ [.inNoEconomy filled.id] }
  modify fun industries =>
    { industries with index := industries.index.insert filled.id industries.toList.length }
  modify fun industries => { industries with toList := industries.toList ++ [filled] }

/-- The industries with one more. -/
def register (industries : Industries) (industry : Industry) (economies : Economies) :
    Except Error Industries :=
  Update.applyTo (enter industry economies) industries

end Industries

/-! ## Everything together -/

/-- The cargos, economies and industries of a run. -/
structure Registry where
  cargos : Cargos
  economies : Economies
  industries : Industries

namespace Registry

/-- A registry over some economies, still without cargos and industries. -/
def create (economies : Economies) : Registry := ⟨.empty, economies, .empty⟩

/-- Registers a cargo. -/
def enterCargo (cargo : Cargo) : Update Registry Unit :=
  Update.onPart (·.cargos) (fun registry cargos => { registry with cargos }) (Cargos.enter cargo)

/-- Registers an economy. -/
def enterEconomy (economy : Economy) : Update Registry Unit :=
  Update.onPart (·.economies) (fun registry economies => { registry with economies })
    (Economies.enter economy)

/-- Registers an industry. -/
def enterIndustry (industry : Industry) : Update Registry Unit := do
  let economies := (← get).economies
  Update.onPart (·.industries) (fun registry industries => { registry with industries })
    (Industries.enter industry economies)

/-- The registry with one more cargo. -/
def registerCargo (registry : Registry) (cargo : Cargo) : Except Error Registry :=
  Update.applyTo (enterCargo cargo) registry

/-- The registry with one more economy. -/
def registerEconomy (registry : Registry) (economy : Economy) : Except Error Registry :=
  Update.applyTo (enterEconomy economy) registry

/-- The registry with one more industry. -/
def registerIndustry (registry : Registry) (industry : Industry) : Except Error Registry :=
  Update.applyTo (enterIndustry industry) registry

/-! ## Cargo labels -/

/-- The labels of the cargos an industry accepts or produces, in the base or in one economy. -/
def labelsOf (industry : Industry) (economy : Option EconomyId) : Except Error (List String) := do
  let accepted ← industry.acceptedCargos economy
  let produced ← industry.producedCargos economy
  return accepted ++ produced

/-- The labels an industry uses in the base and in the economies it is enabled in. -/
def usedLabels (industry : Industry) : Except Error (List String) := do
  let labels ← (none :: industry.enabledEconomies.map some).mapM (labelsOf industry)
  return labels.flatten

/-- Some texts in ascending order, each once. -/
def ascendingDistinct (texts : List String) : List String :=
  (Dictionary.ofList (texts.map fun text => (text, ()))).keys

/-- The labels of an industry that no registered cargo has. -/
def unknownLabels (registry : Registry) (labels : List String) : List String :=
  (ascendingDistinct labels).filter fun label => (registry.cargos.byLabel? label).isNone

/-- All warnings about an industry. -/
def validateIndustry (registry : Registry) (industry : Industry) : Except Error (List Warning) := do
  let warnings ← industry.validate registry.industries.numbers
  let labels ← usedLabels industry
  return warnings ++ (registry.unknownLabels labels).map (.unknownLabel industry.id)

/-- What was noticed when registering, and all warnings about each industry. -/
def validate (registry : Registry) : Except Error (List Warning) := do
  let warnings ← registry.industries.toList.mapM registry.validateIndustry
  return registry.industries.warnings ++ warnings.flatten

end Registry

end IndustrySet
