import IndustrySet.Industry.Sprites
import IndustrySet.Nml.Block

set_option autoImplicit false

/-! # NML of the graphics of an industry

In order: the spritesets, the spritelayouts, the slope switches, one switch on the position for each
layout, the switch on the layout, and the switch on the construction state that the tiles use.

A spritelayout with ground that looks different under snow has a twin for snow and a switch on the
terrain. If the industry draws construction states of its own, each spritelayout has three more
twins and a switch on the construction state. Whoever refers to a spritelayout goes through
`Industry.graphicsTarget`, which names the outermost of these. -/

namespace IndustrySet

/-! ## Names -/

namespace Spritelayout

/-- The twin for snow. -/
def snowName (layout : Spritelayout) : String :=
  layout.id ++ "_snow"

/-- The twin for a construction state. -/
def constructionName (layout : Spritelayout) (state : Nat) : String :=
  layout.id ++ "_construction_state_" ++ toString state

/-- The switch on the terrain. -/
def terrainSwitchName (layout : Spritelayout) : String :=
  layout.id ++ "_switch_terrain"

/-- The switch on the construction state. -/
def constructionSwitchName (layout : Spritelayout) : String :=
  layout.id ++ "_switch_construction_state"

/-- What draws the finished industry. -/
def finishedTarget (layout : Spritelayout) : String :=
  if layout.terrainAwareGround then layout.terrainSwitchName else layout.id

end Spritelayout

/-- The switch on the position, of a layout. -/
def Layout.switchName (layout : Layout) : String :=
  layout.id ++ "_switch"

namespace Industry

/-- The name by which a spritelayout or slope switch is referred to. -/
def graphicsTarget (industry : Industry) (id : String) : String :=
  match industry.graphics.spritelayout? id with
  | some layout =>
    if industry.drawsConstruction then layout.constructionSwitchName else layout.finishedTarget
  | none => id

/-! ## Spritesets -/

/-- The sheet with the ground tiles that all industries share. -/
def groundSheet : String := "\"src/graphics/other/ground_tiles.png\""

/-- A spriteset for one variation, and its twin for snow where one is needed. -/
def variationBlocks (industry : Industry) (set : Spriteset) (variation : Nat) : List Nml.Block :=
  let snowName := set.terrainName variation "snow"
  match set.ground with
  | some ground =>
    .spriteset (set.variationName variation) groundSheet (set.rects (some ground)) ::
      if industry.graphics.needsSnow then
        [.spriteset snowName groundSheet (set.rects (some ground.underSnow))]
      else []
  | none =>
    .spriteset (set.variationName variation) (industry.graphicsSheet variation "")
        (set.rects none) ::
      if industry.graphics.needsSnow then
        [.spriteset snowName (industry.graphicsSheet variation "_snow") (set.rects none)]
      else []

/-- A spriteset for one construction state. -/
def constructionBlock (industry : Industry) (set : Spriteset) (state : Nat) : Nml.Block :=
  match set.ground with
  | some ground =>
    .spriteset (set.constructionName state) groundSheet (set.rects (some ground))
  | none =>
    .spriteset (set.constructionName state) (industry.constructionSheet state) (set.rects none)

/-- What is written for a spriteset. -/
def spritesetBlocks (industry : Industry) (set : Spriteset) : List Nml.Block :=
  (List.range industry.dateVariations).flatMap (industry.variationBlocks set) ++
    if industry.drawsConstruction then
      constructionStates.map (industry.constructionBlock set)
    else []

/-- What is written for all spritesets. -/
def spritesetsBlocks (industry : Industry) : List Nml.Block :=
  industry.graphics.spritesets.flatMap industry.spritesetBlocks

/-! ## Spritelayouts -/

/-- Where something is drawn on a tile. -/
structure Placement where
  offsets : Int16 × Int16 × Int16
  extents : UInt8 × UInt8 × UInt8
  alwaysDraw : Bool

/-- Where a sprite or spriteset is drawn. -/
def placement (industry : Industry) : SpriteRef → Except Error Placement
  | .sprite index => do
    let s ← industry.sprite index
    return ⟨(s.xoffset, s.yoffset, s.zoffset), (s.xextent, s.yextent, s.zextent), s.alwaysDraw⟩
  | .spriteset id => do
    let s ← industry.spriteset id
    return ⟨(s.xoffset, s.yoffset, s.zoffset), (s.xextent, s.yextent, s.zextent), s.alwaysDraw⟩

/-- The building for something placed on a tile. -/
def Placement.building (p : Placement) (sprite : Nml.SpriteExpr)
    (hideSprite : Option HideCondition) : Nml.Building where
  sprite := sprite
  xoffset := p.offsets.1
  yoffset := p.offsets.2.1
  zoffset := toString p.offsets.2.2.toInt
  extents := p.extents
  alwaysDraw := p.alwaysDraw
  hideSprite := hideSprite

/-- Does the reference look different in the variations of an industry? -/
def isDateVaried (industry : Industry) : SpriteRef → Bool
  | .spriteset _ => 1 < industry.dateVariations
  | .sprite _ => false

/-- The buildings for one reference: one for each variation, hidden outside its years, or a single
one. -/
def buildings (industry : Industry) (state : Nat) (ref : SpriteRef) :
    Except Error (List Nml.Building) := do
  let place ← industry.placement ref
  if industry.isDateVaried ref then
    (List.range industry.dateVariations).mapM fun variation => do
      let sprite ← industry.spriteExpr ref state "" variation
      return place.building sprite (some (industry.hideCondition variation))
  else do
    let sprite ← industry.spriteExpr ref state "" 0
    return [place.building sprite none]

/-- The building for a fence. -/
def fenceBuilding (side : FenceSide) : Nml.Building :=
  Placement.building ⟨(side.offsets.1, side.offsets.2, 0), side.extents, false⟩
    (.number (toString side.sprite)) none

/-- The building for smoke. -/
def smokeBuilding (industry : Industry) (index : UInt64) : Except Error Nml.Building :=
  match industry.graphics.smokeSprites[index.toNat]? with
  | some smoke =>
    .ok { sprite := .number smoke.number, xoffset := smoke.xoffset, yoffset := smoke.yoffset,
          zoffset := smoke.height, extents := smoke.extents, alwaysDraw := false,
          hideSprite := some smoke.hideCondition }
  | none => .error (.unknownSprite industry.id index)

/-- The buildings for the smoke of a spritelayout. There is none before the industry is finished. -/
def smokeBuildings (industry : Industry) (layout : Spritelayout) (state : Nat) :
    Except Error (List Nml.Building) :=
  if state = finished then layout.smokeSprites.mapM industry.smokeBuilding else .ok []

/-- A spritelayout under a name, for a construction state and a terrain. -/
def spriteStack (industry : Industry) (layout : Spritelayout) (name : String) (state : Nat)
    (terrain : String) : Except Error Nml.SpriteStack := do
  let ground ← industry.spriteExpr layout.groundSprite state terrain 0
  let overlay ← industry.spriteExpr layout.groundOverlay state terrain 0
  let buildings ← layout.buildingSprites.mapM (industry.buildings state)
  let smoke ← industry.smokeBuildings layout state
  return { name, ground, overlay,
           buildings := buildings.flatten ++ layout.fences.map fenceBuilding ++ smoke }

/-- The switch on the terrain, of a spritelayout. -/
def terrainSwitch (layout : Spritelayout) : Nml.Switch where
  feature := Nml.featIndustryTiles
  scope := "SELF"
  name := layout.terrainSwitchName
  expression := .term "terrain_type"
  branches := [(.word "TILETYPE_SNOW", .named layout.snowName)]
  default := .named layout.id

/-- The switch on the construction state, of a spritelayout. -/
def constructionSwitch (layout : Spritelayout) : Nml.Switch where
  feature := Nml.featIndustryTiles
  scope := "SELF"
  name := layout.constructionSwitchName
  expression := .term "construction_state"
  branches := constructionStates.map fun state =>
    (.number state, .named (layout.constructionName state))
  default := .named layout.finishedTarget

/-- The twin for snow and the switch to it, of a spritelayout that has them. -/
def snowBlocks (industry : Industry) (layout : Spritelayout) : Except Error (List Nml.Block) :=
  if layout.terrainAwareGround then do
    let stack ← industry.spriteStack layout layout.snowName finished "snow"
    return [.spritelayout stack, .switch (terrainSwitch layout)]
  else .ok []

/-- The twins for the construction states and the switch to them, of a spritelayout, if the industry
draws construction states of its own. -/
def constructionBlocks (industry : Industry) (layout : Spritelayout) :
    Except Error (List Nml.Block) :=
  if industry.drawsConstruction then do
    let twins ← constructionStates.mapM fun state =>
      industry.spriteStack layout (layout.constructionName state) state ""
    return twins.map .spritelayout ++ [.switch (constructionSwitch layout)]
  else .ok []

/-- What is written for a spritelayout. -/
def spritelayoutBlocks (industry : Industry) (layout : Spritelayout) :
    Except Error (List Nml.Block) := do
  let stack ← industry.spriteStack layout layout.id finished ""
  let snow ← industry.snowBlocks layout
  let construction ← industry.constructionBlocks layout
  return .spritelayout stack :: snow ++ construction

/-- What is written for all spritelayouts. -/
def spritelayoutsBlocks (industry : Industry) : Except Error (List Nml.Block) := do
  let blocks ← industry.graphics.spritelayouts.mapM industry.spritelayoutBlocks
  return blocks.flatten

/-! ## Switches between spritelayouts -/

/-- The switch for a declared slope switch. -/
def slopeSwitch (industry : Industry) (slopes : SlopeSwitch) : Nml.Switch where
  feature := Nml.featIndustryTiles
  scope := "SELF"
  name := slopes.id
  expression := .term "tile_slope"
  branches := slopes.mapping.map fun (slope, target) =>
    (.word slope, .named (industry.graphicsTarget target))
  default := .named (industry.graphicsTarget slopes.defaultResult)

/-- What is written for all slope switches. -/
def slopeBlocks (industry : Industry) : List Nml.Block :=
  industry.graphics.slopeSwitches.map fun slopes => .switch (industry.slopeSwitch slopes)

/-- The branches of the switch on the position: one for each position that carries a tile. -/
def positionBranches (industry : Industry) (layout : Layout) : List (Nml.Case × Nml.Target) :=
  layout.occupied.map fun position =>
    (.position position.x position.y, .named (industry.graphicsTarget position.target))

/-- The switch on the position, of a layout on which there is a tile. -/
def positionSwitch? (industry : Industry) (layout : Layout) : Option Nml.Switch :=
  match industry.positionBranches layout with
  | [] => none
  | branch :: rest =>
    some { feature := Nml.featIndustryTiles, scope := "SELF", name := layout.switchName,
           expression := .term "relative_pos", branches := branch :: rest, default := branch.2 }

/-- The layouts, each with its number, counted from `n`, and its switch, as far as they have one. -/
def numberedSwitches (industry : Industry) : Nat → List Layout → List (Nat × Nml.Switch)
  | _, [] => []
  | n, layout :: rest =>
    match industry.positionSwitch? layout with
    | some s => (n, s) :: industry.numberedSwitches (n + 1) rest
    | none => industry.numberedSwitches (n + 1) rest

/-- The switch on the layout, when these are the numbers and switches of the layouts. -/
def layoutsSwitch (industry : Industry) (numbered : List (Nat × Nml.Switch)) (first : Nml.Switch) :
    Nml.Switch where
  feature := Nml.featIndustryTiles
  scope := "PARENT"
  name := industry.layoutsSwitchName
  expression := .term "layout_num"
  branches := numbered.map fun (n, s) => (.number n, .named s.name)
  default := .named first.name

/-- The switch that the tiles use as their graphics. -/
def tileGraphicsSwitch (industry : Industry) : Nml.Switch where
  feature := Nml.featIndustryTiles
  scope := "SELF"
  name := industry.tileGraphicsSwitchName
  expression := .term "construction_state"
  branches := [(.number finished, .named industry.layoutsSwitchName)]
  default := .named industry.constructionTarget

/-- The switches for the layouts; none if no layout places a tile. -/
def layoutSwitches (industry : Industry) : List Nml.Switch :=
  match industry.numberedSwitches 1 industry.graphics.layouts with
  | [] => []
  | (n, first) :: rest =>
    ((n, first) :: rest).map (·.2) ++
      [industry.layoutsSwitch ((n, first) :: rest) first, industry.tileGraphicsSwitch]

/-- What is written for the layouts. -/
def layoutBlocks (industry : Industry) : List Nml.Block :=
  industry.layoutSwitches.map .switch

/-- What is written for all graphics. -/
def graphicsBlocks (industry : Industry) : Except Error (List Nml.Block) := do
  let spritelayouts ← industry.spritelayoutsBlocks
  return industry.spritesetsBlocks ++ spritelayouts ++ industry.slopeBlocks ++ industry.layoutBlocks

end Industry

end IndustrySet
