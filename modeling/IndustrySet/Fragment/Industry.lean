import IndustrySet.Fragment.Tile
import IndustrySet.Industry.Texts
import IndustrySet.Industry.Consistency
import IndustrySet.Text.Lowercase

set_option autoImplicit false

/-! # NML of an industry

In order: the graphics, the tiles, the tilelayouts, the location chain, the callback switches that
depend on the economy, the item, and a block for each economy that sets properties otherwise than
the base.

An industry is never generated in an economy in which it is not enabled: there its probabilities are
0. -/

namespace IndustrySet.Industry

/-- An item of the industry. -/
def item (industry : Industry) (properties : List Nml.Assignment)
    (callbacks : Option (List Nml.Callback)) : Nml.Item where
  feature := Nml.featIndustries
  id := industry.id
  numericId := some industry.numericId.toNat
  properties := properties
  callbacks := callbacks

/-! ## Properties -/

/-- The lines for some properties, as far as these have a value. -/
def scalarLines (industry : Industry) (keys : List PropertyKey) (economy : Option EconomyId) :
    Except Error (List Nml.Assignment) := do
  let lines ← keys.mapM fun key => industry.declaration? key economy
  return lines.reduceOption

/-- The properties of the item. -/
def baseProperties (industry : Industry) : Except Error (List Nml.Assignment) := do
  let scalars ← industry.scalarLines PropertyKey.nmlScalars none
  let accepted ← industry.acceptDeclaration none
  let produced ← industry.prodDeclaration none
  return scalars ++ [accepted, produced] ++ industry.layoutsDeclaration?.toList

/-- The line for a property that an economy overrides; none if it does not override it, or overrides
it with nothing. -/
def overrideLine (industry : Industry) (economy : EconomyId) (key : PropertyKey) :
    Except Error (Option Nml.Assignment) := do
  let overridden ← industry.overrides key economy
  if overridden then industry.declaration? key (some economy) else return none

/-- The properties that an economy sets otherwise than the base. -/
def economyProperties (industry : Industry) (economy : EconomyId) :
    Except Error (List Nml.Assignment) := do
  let scalars ← PropertyKey.nmlScalars.mapM (industry.overrideLine economy)
  let accepted ← industry.acceptDeclaration (some economy)
  let baseAccepted ← industry.acceptDeclaration none
  let produced ← industry.prodDeclaration (some economy)
  let baseProduced ← industry.prodDeclaration none
  return scalars.reduceOption ++ (if accepted = baseAccepted then [] else [accepted]) ++
    (if produced = baseProduced then [] else [produced])

/-- The properties that keep an industry from being generated. -/
def neverGenerated : List Nml.Assignment :=
  [⟨PropertyKey.probInGame.nmlName, .raw "0"⟩, ⟨PropertyKey.probRandom.nmlName, .raw "0"⟩]

/-- The properties that are set again for an economy. -/
def propertiesAgain (industry : Industry) (economy : Economy) :
    Except Error (List Nml.Assignment) :=
  if industry.isEnabledIn economy.id then industry.economyProperties economy.id
  else .ok neverGenerated

/-- The block for an economy, if there is anything to set. -/
def economyBlocks (industry : Industry) (economy : Economy) : Except Error (List Nml.Block) := do
  let properties ← industry.propertiesAgain economy
  return if properties.isEmpty then []
    else [.inEconomy economy.numericId (industry.item properties none)]

/-! ## Texts -/

/-- The economies an industry is enabled in, of those registered. -/
def enabledOf (industry : Industry) (economies : Economies) : List Economy :=
  economies.toList.filter fun economy => industry.isEnabledIn economy.id

/-- The branch for an economy in which the text about funding differs from the given one. -/
def fundBranch (industry : Industry) (default : String) (economy : Economy) :
    Except Error (Option (UInt8 × Nml.Target)) := do
  let text ← industry.extraTextFund (some economy.id)
  return if text = default then none else some (economy.numericId, .returned text)

/-- The switch for the text about funding. -/
def fundSwitchName (industry : Industry) : String :=
  industry.id ++ "_switch_extra_text_fund"

/-- The switch for the text about funding, and the result of the callback. -/
def fundSwitch (industry : Industry) (economies : Economies) :
    Except Error (List Nml.Switch × Nml.Target) := do
  let default ← industry.extraTextFund none
  let branches ← (industry.enabledOf economies).mapM (industry.fundBranch default)
  return Nml.Switch.onEconomy Nml.featIndustries industry.fundSwitchName branches.reduceOption
    (.returned default)

/-- The switch for the text in the window. -/
def windowSwitchName (industry : Industry) : String :=
  industry.id ++ "_switch_extra_text_industry"

/-- The switch for the text in the window in one economy. -/
def windowSwitchNameIn (industry : Industry) (economy : EconomyId) : String :=
  industry.windowSwitchName ++ "_" ++ Text.lowercase economy

/-- The switch for the text in the window in one economy, if there is such a text. -/
def windowSwitchIn (industry : Industry) (economy : Economy) :
    Except Error (Option (UInt8 × Nml.Switch)) := do
  let text ← industry.extraTextString? (some economy.id)
  let labels ← industry.deliveryLabels (some economy.id)
  return text.map fun text =>
    (economy.numericId,
      { feature := Nml.featIndustries, scope := "SELF",
        name := industry.windowSwitchNameIn economy.id,
        expression := .deliveries labels, branches := [], default := .returned text })

/-- The switches for the text in the window of an industry that processes cargos, and the result of
the callback. -/
def processingSwitches (industry : Industry) (economies : Economies) :
    Except Error (List Nml.Switch × Nml.Target) := do
  let perEconomy ← (industry.enabledOf economies).mapM industry.windowSwitchIn
  let numbered := perEconomy.reduceOption
  let (dispatch, result) := Nml.Switch.onEconomy Nml.featIndustries industry.windowSwitchName
    (numbered.map fun (n, s) => (n, .named s.name)) (.returned noText)
  return (numbered.map (·.2) ++ dispatch, result)

/-- The text that says which supplies an industry requires. -/
def supplyText (supplies : SupplyRequirements) : String :=
  "string(STR_EXTRA_TEXT_" ++ supplies.stringStem ++ "_SUPPLY_REQUIREMENTS, " ++
    toString supplies.threshold.toNat ++ ", " ++ toString supplies.multiplier.toNat ++ ")"

/-- The switches for the text in the window and the result of the callback, for kinds that have a
text there. -/
def windowSwitches (industry : Industry) (economies : Economies) :
    Except Error (Option (List Nml.Switch × Nml.Target)) :=
  match industry.kind.supplyRequirements? with
  | some supplies => .ok (some ([], .returned (supplyText supplies)))
  | none =>
    if industry.kind.isSecondary then do
      let switches ← industry.processingSwitches economies
      return some switches
    else .ok none

/-! ## The whole industry -/

/-- The tilelayout of a layout. -/
def tilelayout (layout : Layout) : Nml.Block :=
  .tilelayout layout.tilelayoutName
    (layout.positions.map fun position => (position.x, position.y, position.tile))

/-- The callbacks of the item. -/
def callbacks (chain : Chain SiteCheck) (fund : Nml.Target) (window : Option Nml.Target) :
    List Nml.Callback :=
  [.named "location_check" (.ofOutcome chain.start), .named "extra_text_fund" fund] ++
    match window with
    | some target => [.named "extra_text_industry" target]
    | none => []

/-- What is written for an industry. It fails if the graphics refer to a missing sprite or the
location checks to an industry that is not in the table. -/
def blocks (industry : Industry) (economies : Economies) (table : NumberTable) :
    Except Error (List Nml.Block) := do
  let graphics ← industry.graphicsBlocks
  let tiles ← industry.tiles.mapM fun tile => tile.blocks industry economies
  let chain ← industry.chain table
  let (fundSwitches, fund) ← industry.fundSwitch economies
  let window ← industry.windowSwitches economies
  let properties ← industry.baseProperties
  let perEconomy ← economies.toList.mapM industry.economyBlocks
  let windowSwitches := (window.map (·.1)).getD []
  return .comment ("industry " ++ industry.id ++ " (" ++ industry.kind.template ++ ")") ::
    graphics ++ tiles.flatten ++ industry.graphics.layouts.map tilelayout ++
    chain.switches.map .locationSwitch ++ (fundSwitches ++ windowSwitches).map .switch ++
    .item (industry.item properties (some (callbacks chain fund (window.map (·.2))))) ::
    perEconomy.flatten

end IndustrySet.Industry
