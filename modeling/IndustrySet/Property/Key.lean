set_option autoImplicit false

/-! # Property keys

The properties an industry may declare. There is no key for conflicting industry types; location
checks express them. -/

namespace IndustrySet

/-- A property of an industry. -/
inductive PropertyKey
  | substitute
  | override
  | name
  | nearbyStationName
  | introYear
  | expiryYear
  | layouts
  | acceptCargoTypes
  | prodCargoTypes
  | prodMultiplier
  | minCargoDistr
  | inputMultiplier1
  | inputMultiplier2
  | inputMultiplier3
  | prodIncreaseMsg
  | prodDecreaseMsg
  | newIndMsg
  | closureMsg
  | probInGame
  | probRandom
  | prospectChance
  | mapColour
  | lifeType
  | specFlags
  | fundCostMultiplier
  | removeCostMultiplier
  | processedCargosAndOutputRatios
  | overrideDefaultConstructionStates
  | extraTextIndustry
  | extraTextFund
  deriving DecidableEq, Repr

namespace PropertyKey

/-- All keys, in their order. -/
def all : List PropertyKey :=
  [.substitute, .override, .name, .nearbyStationName, .introYear, .expiryYear, .layouts,
   .acceptCargoTypes, .prodCargoTypes, .prodMultiplier, .minCargoDistr, .inputMultiplier1,
   .inputMultiplier2, .inputMultiplier3, .prodIncreaseMsg, .prodDecreaseMsg, .newIndMsg,
   .closureMsg, .probInGame, .probRandom, .prospectChance, .mapColour, .lifeType, .specFlags,
   .fundCostMultiplier, .removeCostMultiplier, .processedCargosAndOutputRatios,
   .overrideDefaultConstructionStates,
   .extraTextIndustry, .extraTextFund]

theorem mem_all (key : PropertyKey) : key ∈ all := by
  cases key <;> decide

/-- The keys that are written as plain lines in the property block of an item, in output order. -/
def nmlScalars : List PropertyKey :=
  [.substitute, .override, .name, .nearbyStationName, .prodMultiplier, .minCargoDistr,
   .inputMultiplier1, .inputMultiplier2, .inputMultiplier3, .prodIncreaseMsg, .prodDecreaseMsg,
   .newIndMsg, .closureMsg, .probInGame, .probRandom, .prospectChance, .mapColour, .lifeType,
   .specFlags, .fundCostMultiplier, .removeCostMultiplier]

/-- The name of the property in NML. -/
def nmlName : PropertyKey → String
  | .substitute => "substitute"
  | .override => "override"
  | .name => "name"
  | .nearbyStationName => "nearby_station_name"
  | .introYear => "intro_year"
  | .expiryYear => "expiry_year"
  | .layouts => "layouts"
  | .acceptCargoTypes => "accept_cargo_types"
  | .prodCargoTypes => "prod_cargo_types"
  | .prodMultiplier => "prod_multiplier"
  | .minCargoDistr => "min_cargo_distr"
  | .inputMultiplier1 => "input_multiplier_1"
  | .inputMultiplier2 => "input_multiplier_2"
  | .inputMultiplier3 => "input_multiplier_3"
  | .prodIncreaseMsg => "prod_increase_msg"
  | .prodDecreaseMsg => "prod_decrease_msg"
  | .newIndMsg => "new_ind_msg"
  | .closureMsg => "closure_msg"
  | .probInGame => "prob_in_game"
  | .probRandom => "prob_random"
  | .prospectChance => "prospect_chance"
  | .mapColour => "map_colour"
  | .lifeType => "life_type"
  | .specFlags => "spec_flags"
  | .fundCostMultiplier => "fund_cost_multiplier"
  | .removeCostMultiplier => "remove_cost_multiplier"
  | .processedCargosAndOutputRatios => "processed_cargos_and_output_ratios"
  | .overrideDefaultConstructionStates => "override_default_construction_states"
  | .extraTextIndustry => "extra_text_industry"
  | .extraTextFund => "extra_text_fund"

/-- The name of the property in declarations. It differs from the one in NML where a number follows
a word. -/
def declaredName : PropertyKey → String
  | .inputMultiplier1 => "input_multiplier1"
  | .inputMultiplier2 => "input_multiplier2"
  | .inputMultiplier3 => "input_multiplier3"
  | key => key.nmlName

end PropertyKey

end IndustrySet
