import IndustrySet.Industry.Basic

set_option autoImplicit false

/-! # The cargos of an industry

What an industry accepts, produces and processes, and how its inputs raise its output. -/

namespace IndustrySet.Industry

/-- The processed cargos with their output ratios, of an industry that processes. -/
def processedCargos (industry : Industry) (economy : Option EconomyId) :
    Except Error (List (String × UInt32)) := do
  let value ← industry.property .processedCargosAndOutputRatios economy
  return (value.bind PropertyValue.asCargoRatios?).getD []

/-- The labels in a property that is a list of labels. -/
def labels (industry : Industry) (key : PropertyKey) (economy : Option EconomyId) :
    Except Error (List String) := do
  let value ← industry.property key economy
  return (value.bind PropertyValue.asTextList?).getD []

/-- The labels of the accepted cargos. An industry that processes cargos accepts these. -/
def acceptedCargos (industry : Industry) (economy : Option EconomyId) :
    Except Error (List String) :=
  if industry.kind.isSecondary then do
    let processed ← industry.processedCargos economy
    return processed.map (·.1)
  else industry.labels .acceptCargoTypes economy

/-- The labels of the produced cargos. -/
def producedCargos (industry : Industry) (economy : Option EconomyId) :
    Except Error (List String) :=
  industry.labels .prodCargoTypes economy

/-- The NML line for the accepted cargos. -/
def acceptDeclaration (industry : Industry) (economy : Option EconomyId) :
    Except Error Nml.Assignment := do
  let labels ← industry.acceptedCargos economy
  return ⟨PropertyKey.acceptCargoTypes.nmlName, .cargos labels⟩

/-- The NML line for the produced cargos. -/
def prodDeclaration (industry : Industry) (economy : Option EconomyId) :
    Except Error Nml.Assignment := do
  let labels ← industry.producedCargos economy
  return ⟨PropertyKey.prodCargoTypes.nmlName, .cargos labels⟩

/-- The share of the production, in eighths, that each produced cargo gets: two cargos share it, any
other number of cargos gets it whole. -/
def outputRatio (industry : Industry) (economy : Option EconomyId) : Except Error UInt32 := do
  let labels ← industry.producedCargos economy
  return if labels.length = 2 then 4 else 8

/-- The output ratio of the `n`-th processed cargo, counted from 1; 0 where there is none. -/
def prodRatio (industry : Industry) (n : Nat) (economy : Option EconomyId) :
    Except Error UInt32 := do
  let processed ← industry.processedCargos economy
  match n with
  | 0 => return 0
  | k + 1 => return (processed[k]?.map (·.2)).getD 0

/-- How much delivering one processed cargo raises the production from another one. Only kinds that
combine their cargos have such a boost. -/
def boost (industry : Industry) (supplied boosted : Nat) (economy : Option EconomyId) :
    Except Error UInt32 :=
  if industry.kind.combinesCargos then do
    let processed ← industry.processedCargos economy
    if processed.length < boosted then return 0 else industry.prodRatio supplied economy
  else .ok 0

end IndustrySet.Industry
