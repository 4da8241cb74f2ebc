import IndustrySet.Industry.Texts
import IndustrySet.Industry.Sprites

set_option autoImplicit false

/-! # Consistency of an industry

Mistakes in a declaration that still give usable output are reported as warnings. -/

namespace IndustrySet

/-- A mistake that does not stop a run. -/
inductive Warning
  | tooManyAccepted (industry : IndustryId) (economy : EconomyId)
  | tooManyProduced (industry : IndustryId) (economy : EconomyId)
  /-- Several texts about funding apply, but only one can be shown. -/
  | severalFundTexts (industry : IndustryId) (economy : EconomyId) (texts : List String)
  | siteConflict (industry : IndustryId) (conflict : SiteConflict)
  /-- The location checks of the industry end in one that only ever rejects. -/
  | openEndedSite (industry : IndustryId)
  | tileConflict (tile : TileId) (first second : String)
  /-- The location checks of a tile end in one that only ever rejects. -/
  | openEndedTile (tile : TileId) (check : String)
  | unknownTile (layout tile : String)
  | unknownSpritelayout (layout target : String)
  | inNoEconomy (industry : IndustryId)
  | unknownLabel (industry : IndustryId) (label : String)
  deriving DecidableEq, Repr

/-- The text of a warning. -/
def Warning.message : Warning → String
  | .tooManyAccepted industry economy =>
    "Too many accepted cargos defined for " ++ industry ++ " in economy " ++ economy
  | .tooManyProduced industry economy =>
    "Too many produced cargos defined for " ++ industry ++ " in economy " ++ economy
  | .severalFundTexts industry economy texts =>
    "Industry " ++ industry ++ " wants more than one string for extra_text_fund in economy " ++
      economy ++ ", only one is supported: " ++ ", ".intercalate texts
  | .siteConflict industry conflict => "Industry " ++ industry ++ ": " ++ conflict.message
  | .openEndedSite industry =>
    "Industry " ++ industry ++ ": location checks end in a pass-through check"
  | .tileConflict tile first second =>
    "Tile " ++ tile ++ ": " ++ first ++ " conflicts with " ++ second
  | .openEndedTile tile check =>
    "Tile " ++ tile ++ ": location checks end with pass-through check " ++ check ++
      ", locations passing it are allowed"
  | .unknownTile layout tile => "Layout " ++ layout ++ " places unknown tile " ++ tile
  | .unknownSpritelayout layout target =>
    "Layout " ++ layout ++ " uses unknown spritelayout " ++ target
  | .inNoEconomy industry => industry ++ " is not used in any economy"
  | .unknownLabel industry label =>
    "Industry " ++ industry ++ " uses cargo label " ++ label ++ ", which no registered cargo has"

/-- The greatest number of cargos an industry can accept. -/
def maxAcceptedCargos : Nat := 3

/-- The greatest number of cargos an industry can produce. -/
def maxProducedCargos : Nat := 2

namespace Industry

/-- Warnings about one economy. -/
def economyWarnings (industry : Industry) (economy : EconomyId) : Except Error (List Warning) := do
  let accepted ← industry.acceptedCargos (some economy)
  let produced ← industry.producedCargos (some economy)
  let texts ← industry.fundTexts (some economy)
  return (if maxAcceptedCargos < accepted.length then [.tooManyAccepted industry.id economy]
      else []) ++
    (if maxProducedCargos < produced.length then [.tooManyProduced industry.id economy]
      else []) ++
    (if 1 < texts.length then [.severalFundTexts industry.id economy texts] else [])

/-- The location chain of the industry. -/
def chain (industry : Industry) (table : NumberTable) : Except Error (Chain SiteCheck) :=
  industry.requirements.chain industry.id table

/-- The location chains of the tiles. -/
def tileChains (industry : Industry) : List (Tile × Chain TileCheck) :=
  industry.tiles.map fun tile => (tile, tile.chain industry.id)

/-- Warnings about the location checks of the industry. -/
def siteWarnings (industry : Industry) (table : NumberTable) : Except Error (List Warning) := do
  let chain ← industry.chain table
  return (industry.requirements.conflicts industry.id).map (.siteConflict industry.id) ++
    if chain.isOpenEnded then [.openEndedSite industry.id] else []

/-- Warnings about the location checks of a tile. -/
def tileWarnings (tile : Tile) (chain : Chain TileCheck) : List Warning :=
  tile.requirements.conflicts.map (fun (first, second) => .tileConflict tile.id first second) ++
    match chain.rules.getLast? with
    | some last => if chain.isOpenEnded then [.openEndedTile tile.id last.check.name] else []
    | none => []

/-- Warnings about a position of a layout. -/
def positionWarnings (industry : Industry) (layout : Layout) (position : LayoutPosition) :
    List Warning :=
  (if industry.tiles.any (·.id = position.tile) then []
    else [.unknownTile layout.id position.tile]) ++
  (if industry.graphics.hasTarget position.target then []
    else [.unknownSpritelayout layout.id position.target])

/-- Warnings about the layouts. -/
def layoutWarnings (industry : Industry) : List Warning :=
  industry.graphics.layouts.flatMap fun layout =>
    layout.occupied.flatMap (industry.positionWarnings layout)

/-- All warnings about an industry. It fails if the location checks refer to an industry that is not
in the table. -/
def validate (industry : Industry) (table : NumberTable) : Except Error (List Warning) := do
  let economies ← industry.enabledEconomies.mapM industry.economyWarnings
  let site ← industry.siteWarnings table
  return economies.flatten ++ site ++
    industry.tileChains.flatMap (fun (tile, chain) => tileWarnings tile chain) ++
    industry.layoutWarnings

end Industry

end IndustrySet
