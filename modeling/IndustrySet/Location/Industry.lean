import IndustrySet.Error
import IndustrySet.Location.Chain

set_option autoImplicit false

/-! # Location checks of an industry

These run once for a candidate location, after the checks of the tiles. A check that refers to
another industry names it by its numeric id, so that the output for a single industry still
compiles. -/

namespace IndustrySet

/-- Identifies an industry, as in `arable_farm`. -/
abbrev IndustryId := String

/-- The numeric ids of the known industries. -/
abbrev NumberTable := IndustryId → Option UInt16

/-- The numeric id of an industry, which must be known. -/
def NumberTable.number (table : NumberTable) (id : IndustryId) : Except Error UInt16 :=
  match table id with
  | some number => .ok number
  | none => .error (.unknownIndustry id)

/-- When an industry check is evaluated, earliest first. -/
inductive SitePriority
  | layoutDate
  | founder
  | requireCluster
  | townDistance
  | coastDistance
  | incompatible
  deriving DecidableEq, Repr

/-- The place of a priority in the order of evaluation. -/
def SitePriority.rank (priority : SitePriority) : Nat :=
  priority.ctorIdx

/-- A check of the location of a whole industry. -/
inductive SiteCheck
  /-- A layout may only be built from a year on. -/
  | layoutAvailableFrom (layout : UInt8) (year : Int64)
  /-- The remaining checks are skipped when a player founds the industry. -/
  | founder
  /-- The industry stands in a cluster of industries of a type. -/
  | requireCluster (number : UInt16) (minDistance maxDistance div mult : UInt32)
  /-- The distance to the nearest town lies in a range. -/
  | townDistance (min max : UInt32)
  /-- The coast is within the distance that the player set with a parameter. -/
  | coastDistance
  /-- Industries of a type are at least this far away. -/
  | incompatible (number : UInt16) (distance : UInt32)
  deriving DecidableEq, Repr

namespace SiteCheck

/-- When the check is evaluated. -/
def priority : SiteCheck → SitePriority
  | .layoutAvailableFrom _ _ => .layoutDate
  | .founder => .founder
  | .requireCluster _ _ _ _ _ => .requireCluster
  | .townDistance _ _ => .townDistance
  | .coastDistance => .coastDistance
  | .incompatible _ _ => .incompatible

/-- The name of the check in listings. -/
def name : SiteCheck → String
  | .layoutAvailableFrom _ _ => "layout_available_from"
  | .founder => "founder"
  | .requireCluster _ _ _ _ _ => "require_cluster"
  | .townDistance _ _ => "town_distance"
  | .coastDistance => "coast_distance"
  | .incompatible _ _ => "incompatible"

/-- The switch of the check. -/
def locationSwitch (check : SiteCheck) (entry : String) (outcome : Outcome) : LocationSwitch :=
  let disallow := Verdict.disallow.callbackResult
  match check with
  | .layoutAvailableFrom layout year =>
    ⟨"CHECK_LAYOUT_AVAILABLE_FROM", entry,
      [toString layout.toNat, toString year.toInt, disallow], outcome, []⟩
  | .founder => ⟨"CHECK_FOUNDER", entry, [], outcome, []⟩
  | .requireCluster number minDistance maxDistance div mult =>
    ⟨"CHECK_NEARBY_CLUSTER", entry,
      [toString number.toNat, toString minDistance.toNat, toString maxDistance.toNat,
        toString div.toNat, toString mult.toNat, Verdict.disallow.statement], outcome, []⟩
  | .townDistance min max =>
    ⟨"CHECK_TOWN_DISTANCE", entry, [toString min.toNat, toString max.toNat], outcome, []⟩
  | .coastDistance =>
    ⟨"CHECK_COAST_DISTANCE", entry, ["0", "param_max_coastal_distance", disallow], outcome, []⟩
  | .incompatible number distance =>
    ⟨"CHECK_INCOMPATIBLE", entry,
      [toString number.toNat, toString distance.toNat, disallow], outcome, []⟩

end SiteCheck

instance : LocationCheck SiteCheck where
  rank check := check.priority.rank
  verdict? _ := some .allow
  name := SiteCheck.name
  locationSwitch := SiteCheck.locationSwitch

/-! ## What an industry requires -/

/-- The industry locates in clusters of another one. -/
structure ClusterRequirement where
  industry : IndustryId
  minDistance : UInt32
  maxDistance : UInt32
  div : UInt32
  mult : UInt32
  deriving DecidableEq, Repr

/-- Which checks an industry wants. -/
structure SiteRequirements where
  alwaysAllowFounder : Bool := true
  requireCluster : Option ClusterRequirement := none
  /-- Least and greatest distance to the nearest town. -/
  townDistance : Option (UInt32 × UInt32) := none
  coastDistance : Bool := false
  /-- Least distance to another industry of the same type. -/
  sameTypeDistance : Option UInt32 := none
  /-- Least distances to other industry types. -/
  incompatible : List (IndustryId × UInt32) := []
  /-- Layouts that are only available from a year on. -/
  layoutsAvailableFrom : List (UInt8 × Int64) := []
  deriving DecidableEq, Repr, Inhabited

/-- Settings that contradict or repeat each other. -/
inductive SiteConflict
  /-- The least distance to a town exceeds the greatest. -/
  | townDistance (min max : UInt32)
  /-- The least distance in a cluster exceeds the greatest. -/
  | clusterDistance (min max : UInt32)
  /-- The distance to the industry's own type is set in two ways. -/
  | ownTypeTwice (id : IndustryId)
  /-- An industry is listed as incompatible once more. -/
  | repeatedIncompatible (id : IndustryId)
  deriving DecidableEq, Repr

/-- The text of a conflict. -/
def SiteConflict.message : SiteConflict → String
  | .townDistance min max =>
    "town_distance minimum " ++ toString min.toNat ++ " exceeds maximum " ++ toString max.toNat
  | .clusterDistance min max =>
    "require_cluster minimum distance " ++ toString min.toNat ++ " exceeds maximum " ++
      toString max.toNat
  | .ownTypeTwice id =>
    "same_type_distance and incompatible both restrict distance to `" ++ id ++ "`"
  | .repeatedIncompatible id => "`" ++ id ++ "` is listed as incompatible more than once"

namespace SiteRequirements

/-- The check for the cluster an industry wants. -/
def clusterChecks (table : NumberTable) : Option ClusterRequirement → Except Error (List SiteCheck)
  | none => .ok []
  | some c => do
    let number ← table.number c.industry
    return [.requireCluster number c.minDistance c.maxDistance c.div c.mult]

/-- The check for the distance to the industry's own type. -/
def sameTypeChecks (table : NumberTable) (industry : IndustryId) :
    Option UInt32 → Except Error (List SiteCheck)
  | none => .ok []
  | some distance => do
    let number ← table.number industry
    return [.incompatible number distance]

/-- The check for the distance to another type. -/
def incompatibleCheck (table : NumberTable) (entry : IndustryId × UInt32) :
    Except Error SiteCheck := do
  let number ← table.number entry.1
  return .incompatible number entry.2

/-- The wanted checks, in the order of their declaration. Every industry that a check refers to must
be known. -/
def checks (r : SiteRequirements) (industry : IndustryId) (table : NumberTable) :
    Except Error (List SiteCheck) := do
  let cluster ← clusterChecks table r.requireCluster
  let sameType ← sameTypeChecks table industry r.sameTypeDistance
  let others ← r.incompatible.mapM (incompatibleCheck table)
  return (if r.alwaysAllowFounder then [SiteCheck.founder] else []) ++ cluster ++
    (match r.townDistance with
      | some (min, max) => [.townDistance min max]
      | none => []) ++
    (if r.coastDistance then [.coastDistance] else []) ++
    r.layoutsAvailableFrom.map (fun (layout, year) => .layoutAvailableFrom layout year) ++
    sameType ++ others

/-- What the switch names of an industry's chain start with. -/
def stem (industry : IndustryId) : String :=
  industry ++ "_lc_"

/-- The chain of an industry. -/
def chain (r : SiteRequirements) (industry : IndustryId) (table : NumberTable) :
    Except Error (Chain SiteCheck) := do
  let checks ← r.checks industry table
  return Chain.build (stem industry) checks

/-- Conflicts for the ids that already occur in `seen` or earlier in the list. -/
def repeatedIds (seen : List IndustryId) : List IndustryId → List SiteConflict
  | [] => []
  | id :: rest =>
    (if seen.contains id then [.repeatedIncompatible id] else []) ++ repeatedIds (id :: seen) rest

/-- Settings that contradict or repeat each other. -/
def conflicts (r : SiteRequirements) (industry : IndustryId) : List SiteConflict :=
  (match r.townDistance with
    | some (min, max) => if max < min then [.townDistance min max] else []
    | none => []) ++
  (match r.requireCluster with
    | some c =>
      if c.maxDistance < c.minDistance then [.clusterDistance c.minDistance c.maxDistance] else []
    | none => []) ++
  (if r.sameTypeDistance.isSome && r.incompatible.any (·.1 = industry) then
    [.ownTypeTwice industry] else []) ++
  repeatedIds [] (r.incompatible.map (·.1))

end SiteRequirements

end IndustrySet
