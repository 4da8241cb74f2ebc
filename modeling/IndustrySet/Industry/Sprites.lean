import IndustrySet.Industry.Basic
import IndustrySet.Nml.Spritelayout

set_option autoImplicit false

/-! # The sprites of an industry

Which graphics sheets an industry has, what its sprites and spritesets are called in NML, and in
which years a variation of its graphics is hidden. -/

namespace IndustrySet

namespace Industry

/-- The construction state of a finished industry. -/
def finished : Nat := 3

/-- The construction states before an industry is finished. -/
def constructionStates : List Nat := [0, 1, 2]

/-- The value of `layouts` for which the list is made of the industry's layouts. -/
def autoLayouts : String := "AUTO"

/-- The NML line for the layouts; none when the industry keeps those of the default industry it
replaces. -/
def layoutsDeclaration? (industry : Industry) : Option Nml.Assignment :=
  ((industry.properties.get? .layouts).bind PropertyValue.asText?).map fun layouts =>
    { name := PropertyKey.layouts.nmlName,
      value :=
        if layouts = autoLayouts then
          .identifiers (industry.graphics.layouts.map (·.tilelayoutName))
        else .raw layouts }

/-- How many variations the graphics have over time. -/
def dateVariations (industry : Industry) : Nat :=
  industry.graphicsChangeDates.length + 1

/-- The quoted path of a graphics sheet. -/
def sheetPath (name : String) : String :=
  "\"src/graphics/industries/" ++ name ++ ".png\""

/-- The sheet for a variation, counted from 0, and a terrain suffix. -/
def graphicsSheet (industry : Industry) (variation : Nat) (terrain : String) : String :=
  sheetPath (industry.id ++ "_" ++ toString (variation + 1) ++ terrain)

/-- The sheet for a construction state. -/
def constructionSheet (industry : Industry) (state : Nat) : String :=
  sheetPath (industry.id ++ "_construction_" ++ toString (state + 1))

/-- Does the industry draw construction states of its own? -/
def drawsConstruction (industry : Industry) : Bool :=
  let declared := industry.properties.get? .overrideDefaultConstructionStates
  (declared.bind PropertyValue.asBool?).getD false

/-- The switch that decides between the layouts. -/
def layoutsSwitchName (industry : Industry) : String :=
  industry.id ++ "_industry_graphics_switch_layouts"

/-- The switch that the tiles use as their graphics. -/
def tileGraphicsSwitchName (industry : Industry) : String :=
  industry.id ++ "_switch_graphics"

/-- The spritelayout of industries that do not draw construction states of their own. -/
def sharedConstruction : String := "spritelayout_default_construction_states"

/-- What draws the construction states. -/
def constructionTarget (industry : Industry) : String :=
  if industry.drawsConstruction then industry.layoutsSwitchName else sharedConstruction

/-- When the sprites of a variation are hidden, for the years in which the graphics change. -/
def hideConditionFor (dates : List Int64) : Nat → HideCondition
  | 0 =>
    match dates.head? with
    | some first => .sinceYear first
    | none => .never
  | n + 1 =>
    match dates[n]?, dates[n + 1]? with
    | some first, some second => .outsideYears first second
    | _, _ =>
      match dates.getLast? with
      | some last => .beforeYear last
      | none => .never

/-- When the sprites of a variation are hidden. -/
def hideCondition (industry : Industry) (variation : Nat) : HideCondition :=
  hideConditionFor industry.graphicsChangeDates variation

/-- The sprite at a place of the industry's list. -/
def sprite (industry : Industry) (index : UInt64) : Except Error Sprite :=
  match industry.graphics.sprites[index.toNat]? with
  | some sprite => .ok sprite
  | none => .error (.unknownSprite industry.id index)

/-- The spriteset of the industry with an id. -/
def spriteset (industry : Industry) (id : String) : Except Error Spriteset :=
  match industry.graphics.spriteset? id with
  | some set => .ok set
  | none => .error (.unknownSpriteset industry.id id)

end Industry

/-! ## Names of spritesets -/

namespace Spriteset

/-- The name of a spriteset for a variation. -/
def variationName (set : Spriteset) (variation : Nat) : String :=
  set.id ++ "_" ++ toString variation

/-- The name of a spriteset for a variation on a terrain. -/
def terrainName (set : Spriteset) (variation : Nat) (terrain : String) : String :=
  set.variationName variation ++ if terrain = "" then "" else "_" ++ terrain

/-- The name of a spriteset for a construction state. -/
def constructionName (set : Spriteset) (state : Nat) : String :=
  set.id ++ "_spriteset_default_construction_state_" ++ toString state

end Spriteset

/-- The NML for a sprite or spriteset in a construction state, on a terrain and in a variation. -/
def Industry.spriteExpr (industry : Industry) (ref : SpriteRef) (state : Nat) (terrain : String)
    (variation : Nat) : Except Error Nml.SpriteExpr :=
  match ref with
  | .sprite index => do
    let sprite ← industry.sprite index
    return .number (sprite.numberOn terrain)
  | .spriteset id => do
    let set ← industry.spriteset id
    if state = finished || !industry.drawsConstruction then
      return .pick (set.terrainName variation terrain) set.selector
    else return .pick (set.constructionName state) set.selector

end IndustrySet
