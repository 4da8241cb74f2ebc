import IndustrySet.Location.Chain

set_option autoImplicit false

/-! # Location checks of a tile

A tile says which checks it wants with its `TileRequirements`; these make the checks of its chain.
-/

namespace IndustrySet

/-- When a tile check is evaluated, earliest first. Checks of the landscape that hold for everybody
come before the founder check, behind which everything is skipped when a player founds the industry.
-/
inductive TilePriority
  | disallowCoast
  | disallowDesert
  | disallowAboveSnowline
  | requireEffectivelyFlat
  | disallowSteepSlopes
  | disallowSlopes
  | founder
  | disallowIndustryAdjacent
  | requireSea
  | requireCoastSlope
  | requireHousesNearby
  | requireRoadAdjacent
  deriving DecidableEq, Repr

/-- The place of a priority in the order of evaluation. -/
def TilePriority.rank (priority : TilePriority) : Nat :=
  priority.ctorIdx

/-- A check of a single tile. -/
inductive TileCheck
  | disallowCoast
  | disallowDesert
  | disallowAboveSnowline
  /-- The highest corner of every tile is at the height of the northern tile. Foundations are
  possible. -/
  | requireEffectivelyFlat
  | disallowSteepSlopes
  | disallowSlopes
  /-- The rest is skipped when a player founds the industry. -/
  | founder
  | disallowIndustryAdjacent
  | requireSea
  /-- Tiles at the coast are sloped. -/
  | requireCoastSlope
  /-- There is a house at this offset. -/
  | requireHousesNearby (x y : Int8)
  | requireRoadAdjacent
  deriving DecidableEq, Repr

namespace TileCheck

/-- When the check is evaluated. -/
def priority : TileCheck → TilePriority
  | .disallowCoast => .disallowCoast
  | .disallowDesert => .disallowDesert
  | .disallowAboveSnowline => .disallowAboveSnowline
  | .requireEffectivelyFlat => .requireEffectivelyFlat
  | .disallowSteepSlopes => .disallowSteepSlopes
  | .disallowSlopes => .disallowSlopes
  | .founder => .founder
  | .disallowIndustryAdjacent => .disallowIndustryAdjacent
  | .requireSea => .requireSea
  | .requireCoastSlope => .requireCoastSlope
  | .requireHousesNearby _ _ => .requireHousesNearby
  | .requireRoadAdjacent => .requireRoadAdjacent

/-- The verdict of the check at the end of a chain; none for checks that only ever reject. -/
def verdict? : TileCheck → Option Verdict
  | .disallowCoast | .disallowDesert | .disallowAboveSnowline | .requireEffectivelyFlat
  | .disallowSteepSlopes | .disallowSlopes => none
  | .requireHousesNearby _ _ => some .disallow
  | .founder | .disallowIndustryAdjacent | .requireSea | .requireCoastSlope
  | .requireRoadAdjacent => some .allow

/-- The name of the check in listings. -/
def name : TileCheck → String
  | .disallowCoast => "disallow_coast"
  | .disallowDesert => "disallow_desert"
  | .disallowAboveSnowline => "disallow_above_snowline"
  | .requireEffectivelyFlat => "require_effectively_flat"
  | .disallowSteepSlopes => "disallow_steep_slopes"
  | .disallowSlopes => "disallow_slopes"
  | .founder => "founder"
  | .disallowIndustryAdjacent => "disallow_industry_adjacent"
  | .requireSea => "require_sea"
  | .requireCoastSlope => "require_coast_slope"
  | .requireHousesNearby _ _ => "require_houses_nearby"
  | .requireRoadAdjacent => "require_road_adjacent"

/-- The switch of the check. -/
def locationSwitch (check : TileCheck) (entry : String) (outcome : Outcome) : LocationSwitch :=
  let disallow := Verdict.disallow.callbackResult
  match check with
  | .disallowCoast => ⟨"TILE_DISALLOW_COAST", entry, [disallow], outcome, []⟩
  | .disallowDesert => ⟨"TILE_DISALLOW_TERRAIN", entry, ["TILETYPE_DESERT", disallow], outcome, []⟩
  | .disallowAboveSnowline =>
    ⟨"TILE_CHECK_HEIGHT", entry, ["0", "snowline_height"], outcome,
      ["return string(STR_ERR_LOCATION_NOT_ABOVE_SNOWLINE)"]⟩
  | .requireEffectivelyFlat => ⟨"TILE_REQUIRE_EFFECTIVELY_FLAT", entry, [disallow], outcome, []⟩
  | .disallowSteepSlopes =>
    ⟨"TILE_DISALLOW_STEEP_SLOPE", entry, ["string(STR_ERR_LOCATION_NOT_ON_STEEP_SLOPE)"], outcome,
      []⟩
  | .disallowSlopes => ⟨"TILE_DISALLOW_SLOPES", entry, [disallow], outcome, []⟩
  | .founder => ⟨"TILE_ALLOW_PLAYER", entry, [], outcome, []⟩
  | .disallowIndustryAdjacent =>
    ⟨"TILE_DISALLOW_NEARBY_CLASS", entry, ["TILE_CLASS_INDUSTRY", disallow], outcome, []⟩
  | .requireSea => ⟨"TILE_REQUIRE_SEA", entry, [], outcome, []⟩
  | .requireCoastSlope => ⟨"TILE_CHECK_FLAT", entry, [Verdict.disallow.statement], outcome, []⟩
  | .requireHousesNearby x y =>
    ⟨"CHECK_HOUSES_NEARBY", entry, [toString x.toInt, toString y.toInt], outcome, []⟩
  | .requireRoadAdjacent => ⟨"CHECK_ROAD_ADJACENT", entry, [], outcome, []⟩

end TileCheck

instance : LocationCheck TileCheck where
  rank check := check.priority.rank
  verdict? := TileCheck.verdict?
  name := TileCheck.name
  locationSwitch := TileCheck.locationSwitch

/-! ## What a tile requires -/

/-- The offsets that are searched for houses, in order. The last one is searched twice. -/
def houseOffsets : List (Int8 × Int8) :=
  [(0, 3), (3, 0), (0, -3), (-3, 0), (2, 2), (2, -2), (-2, 2), (3, 3), (3, -3), (-3, 3), (-3, -3),
   (4, 4), (4, -4), (-4, 4), (-4, 4)]

/-- Which checks a tile wants. The founder check is wanted unless a tile needs a particular shape of
land even under a player's industry. -/
structure TileRequirements where
  alwaysAllowFounder : Bool := true
  disallowSlopes : Bool := false
  disallowSteepSlopes : Bool := false
  disallowIndustryAdjacent : Bool := false
  requireEffectivelyFlat : Bool := false
  requireHousesNearby : Bool := false
  requireRoadAdjacent : Bool := false
  requireCoast : Bool := false
  disallowAboveSnowline : Bool := false
  disallowDesert : Bool := false
  disallowCoast : Bool := false
  deriving DecidableEq, Repr, Inhabited

namespace TileRequirements

/-- No checks, not even the founder check. -/
def none : TileRequirements := { alwaysAllowFounder := false }

/-- Checks that are there if they are wanted. -/
def onlyIf (wanted : Bool) (checks : List TileCheck) : List TileCheck :=
  if wanted then checks else []

/-- The wanted checks, in the order of their declaration. -/
def checks (r : TileRequirements) : List TileCheck :=
  onlyIf r.alwaysAllowFounder [.founder] ++
  onlyIf r.disallowSlopes [.disallowSlopes] ++
  onlyIf r.disallowSteepSlopes [.disallowSteepSlopes] ++
  onlyIf r.disallowIndustryAdjacent [.disallowIndustryAdjacent] ++
  onlyIf r.requireEffectivelyFlat [.requireEffectivelyFlat] ++
  onlyIf r.requireCoast [.requireSea, .requireCoastSlope] ++
  onlyIf r.requireHousesNearby (houseOffsets.map fun (x, y) => .requireHousesNearby x y) ++
  onlyIf r.requireRoadAdjacent [.requireRoadAdjacent] ++
  onlyIf r.disallowAboveSnowline [.disallowAboveSnowline] ++
  onlyIf r.disallowDesert [.disallowDesert] ++
  onlyIf r.disallowCoast [.disallowCoast]

/-- What the switch names of a tile's chain start with. -/
def stem (industry tile : String) : String :=
  industry ++ "_" ++ tile ++ "_lc_"

/-- The chain of a tile of an industry. -/
def chain (r : TileRequirements) (industry tile : String) : Chain TileCheck :=
  Chain.build (stem industry tile) r.checks

/-- Pairs of wanted checks that contradict or hide each other. The order of evaluation decides which
of them the game meets first. -/
def conflicts (r : TileRequirements) : List (String × String) :=
  (if r.disallowSlopes && r.requireEffectivelyFlat then
    [("disallow_slopes", "require_effectively_flat")] else []) ++
  (if r.disallowSlopes && r.disallowSteepSlopes then
    [("disallow_slopes", "disallow_steep_slopes")] else []) ++
  (if r.disallowCoast && r.requireCoast then [("disallow_coast", "require_coast")] else []) ++
  (if r.disallowSlopes && r.requireCoast then [("disallow_slopes", "require_coast")] else [])

end TileRequirements

end IndustrySet
