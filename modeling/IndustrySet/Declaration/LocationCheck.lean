import IndustrySet.Declaration.Codec
import IndustrySet.Location.Industry
import IndustrySet.Location.Tile

set_option autoImplicit false

/-! # The schema of location checks

How single checks, and the outcomes that rules have, are declared. An industry says which checks it
wants with its requirements; single checks are for those who put a chain together themselves. -/

namespace IndustrySet

/-! ## Outcomes -/

/-- The name of a verdict in declarations. -/
def Verdict.declaredName : Verdict → String
  | .allow => "Allow"
  | .disallow => "Disallow"

/-- How verdicts are declared. -/
def Verdict.codec : Codec Verdict :=
  .enumeration [.allow, .disallow] Verdict.declaredName

/-- How outcomes are declared. -/
def Outcome.codec : Codec Outcome where
  read source := do
    let (name, payload) ← source.asVariant
    match name with
    | "Return" => .stop <$> (Source.single payload >>= Verdict.codec.readEnclosed)
    | "Next" => .next <$> (Source.single payload >>= Codec.text.readEnclosed)
    | _ => .error (.unknownVariant name)
  write
    | .stop verdict => .object [("Return", Verdict.codec.write verdict)]
    | .next entry => .object [("Next", Codec.text.write entry)]

/-! ## Checks of a tile -/

namespace TileCheck

/-- The name of a check in declarations. -/
def declaredName : TileCheck → String
  | .disallowCoast => "DisallowCoast"
  | .disallowDesert => "DisallowDesert"
  | .disallowAboveSnowline => "DisallowAboveSnowline"
  | .requireEffectivelyFlat => "RequireEffectivelyFlat"
  | .disallowSteepSlopes => "DisallowSteepSlopes"
  | .disallowSlopes => "DisallowSlopes"
  | .founder => "Founder"
  | .disallowIndustryAdjacent => "DisallowIndustryAdjacent"
  | .requireSea => "RequireSea"
  | .requireCoastSlope => "RequireCoastSlope"
  | .requireHousesNearby _ _ => "RequireHousesNearby"
  | .requireRoadAdjacent => "RequireRoadAdjacent"

/-- The checks that have no values. -/
def plain : List TileCheck :=
  [.disallowCoast, .disallowDesert, .disallowAboveSnowline, .requireEffectivelyFlat,
   .disallowSteepSlopes, .disallowSlopes, .founder, .disallowIndustryAdjacent, .requireSea,
   .requireCoastSlope, .requireRoadAdjacent]

/-- The values of the check for a house. -/
def housesCodec : Codec (Int8 × Int8) :=
  .recordWith "" false <| Fields.start Prod.mk
    |>.required "x" (·.1) .int8
    |>.required "y" (·.2) .int8

/-- How the checks of a tile are declared. -/
def codec : Codec TileCheck where
  read source := do
    let (name, payload) ← source.asVariant
    match name with
    | "RequireHousesNearby" => do
      let (x, y) ← Source.named payload >>= housesCodec.read
      return .requireHousesNearby x y
    | _ => (Codec.enumeration plain declaredName).read source
  write
    | .requireHousesNearby x y => .object [("RequireHousesNearby", housesCodec.write (x, y))]
    | check => .text check.declaredName

end TileCheck

/-! ## Checks of an industry -/

namespace SiteCheck

/-- The name of a check in declarations. -/
def declaredName : SiteCheck → String
  | .layoutAvailableFrom _ _ => "LayoutAvailableFrom"
  | .founder => "Founder"
  | .requireCluster _ _ _ _ _ => "RequireCluster"
  | .townDistance _ _ => "TownDistance"
  | .coastDistance => "CoastDistance"
  | .incompatible _ _ => "Incompatible"

/-- The values of the check for the year of a layout. -/
def layoutCodec : Codec (UInt8 × Int64) :=
  .recordWith "" false <| Fields.start Prod.mk
    |>.required "layout_num" (·.1) .uint8
    |>.required "year" (·.2) .int64

/-- The values of the check for a cluster. -/
def clusterCodec : Codec (UInt16 × UInt32 × UInt32 × UInt32 × UInt32) :=
  .recordWith "" false <|
    Fields.start (fun number least greatest div mult => (number, least, greatest, div, mult))
      |>.required "industry_numeric_id" (·.1) .uint16
      |>.required "min_distance" (·.2.1) .uint32
      |>.required "max_distance" (·.2.2.1) .uint32
      |>.required "div" (·.2.2.2.1) .uint32
      |>.required "mult" (·.2.2.2.2) .uint32

/-- The values of the check for the distance to a town. -/
def townCodec : Codec (UInt32 × UInt32) :=
  .recordWith "" false <| Fields.start Prod.mk
    |>.required "min" (·.1) .uint32
    |>.required "max" (·.2) .uint32

/-- The values of the check for the distance to another industry. -/
def incompatibleCodec : Codec (UInt16 × UInt32) :=
  .recordWith "" false <| Fields.start Prod.mk
    |>.required "industry_numeric_id" (·.1) .uint16
    |>.required "distance" (·.2) .uint32

/-- How the checks of an industry are declared. -/
def codec : Codec SiteCheck where
  read source := do
    let (name, payload) ← source.asVariant
    match name with
    | "LayoutAvailableFrom" => do
      let (layout, year) ← Source.named payload >>= layoutCodec.read
      return .layoutAvailableFrom layout year
    | "RequireCluster" => do
      let (number, least, greatest, div, mult) ← Source.named payload >>= clusterCodec.read
      return .requireCluster number least greatest div mult
    | "TownDistance" => do
      let (least, greatest) ← Source.named payload >>= townCodec.read
      return .townDistance least greatest
    | "Incompatible" => do
      let (number, distance) ← Source.named payload >>= incompatibleCodec.read
      return .incompatible number distance
    | _ => (Codec.enumeration [founder, coastDistance] declaredName).read source
  write
    | .layoutAvailableFrom layout year =>
      .object [("LayoutAvailableFrom", layoutCodec.write (layout, year))]
    | .requireCluster number least greatest div mult =>
      .object [("RequireCluster", clusterCodec.write (number, least, greatest, div, mult))]
    | .townDistance least greatest => .object [("TownDistance", townCodec.write (least, greatest))]
    | .incompatible number distance =>
      .object [("Incompatible", incompatibleCodec.write (number, distance))]
    | check => .text check.declaredName

end SiteCheck

/-! ## Priorities -/

/-- The name of a priority in listings. -/
def TilePriority.declaredName : TilePriority → String
  | .disallowCoast => "DisallowCoast"
  | .disallowDesert => "DisallowDesert"
  | .disallowAboveSnowline => "DisallowAboveSnowline"
  | .requireEffectivelyFlat => "RequireEffectivelyFlat"
  | .disallowSteepSlopes => "DisallowSteepSlopes"
  | .disallowSlopes => "DisallowSlopes"
  | .founder => "Founder"
  | .disallowIndustryAdjacent => "DisallowIndustryAdjacent"
  | .requireSea => "RequireSea"
  | .requireCoastSlope => "RequireCoastSlope"
  | .requireHousesNearby => "RequireHousesNearby"
  | .requireRoadAdjacent => "RequireRoadAdjacent"

@[inherit_doc TilePriority.declaredName]
def SitePriority.declaredName : SitePriority → String
  | .layoutDate => "LayoutDate"
  | .founder => "Founder"
  | .requireCluster => "RequireCluster"
  | .townDistance => "TownDistance"
  | .coastDistance => "CoastDistance"
  | .incompatible => "Incompatible"

end IndustrySet
