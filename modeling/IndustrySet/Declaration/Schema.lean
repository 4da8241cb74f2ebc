import IndustrySet.Cargo
import IndustrySet.Configuration
import IndustrySet.Declaration.Codec
import IndustrySet.Industry.Basic

set_option autoImplicit false

/-! # The schema of declarations

How each type is declared: the names of its fields, and what a field is when it is not given. -/

namespace IndustrySet

/-- A codec field for a value that may be missing; it is, unless it is given. -/
def Fields.maybe {α β σ : Type} (fields : Fields σ (Option β → α)) (name : String)
    (get : σ → Option β) (c : Codec β) : Fields σ α :=
  fields.optional name get c.option none

/-- A codec field for a list, which is empty unless it is given. -/
def Fields.many {α β σ : Type} (fields : Fields σ (List β → α)) (name : String)
    (get : σ → List β) (c : Codec β) : Fields σ α :=
  fields.optional name get c.list []

/-! ## Economies and cargos -/

/-- How economies are declared. -/
def Economy.codec : Codec Economy :=
  .record "Economy" <| Fields.start Economy.mk
    |>.required "id" (·.id) .text
    |>.required "numeric_id" (·.numericId) .uint8
    |>.required "name" (·.name) .text

/-- How cargos are declared. -/
def Cargo.codec : Codec Cargo :=
  .record "Cargo" <| Fields.start Cargo.mk
    |>.required "id" (·.id) .text
    |>.required "numeric_id" (·.numericId) .uint8
    |>.required "cargo_label" (·.label) .text
    |>.required "type_name" (·.typeName) .text
    |>.required "unit_name" (·.unitName) .text
    |>.required "type_abbreviation" (·.typeAbbreviation) .text
    |>.required "sprite" (·.sprite) .text
    |>.required "weight" (·.weight) .text
    |>.required "cargo_payment_list_colour" (·.paymentListColour) .text
    |>.required "is_freight" (·.isFreight) .text
    |>.required "cargo_classes" (·.classes) .text
    |>.required "town_growth_effect" (·.townGrowthEffect) .text
    |>.required "town_growth_multiplier" (·.townGrowthMultiplier) .text
    |>.required "units_of_cargo" (·.unitsOfCargo) .text
    |>.required "items_of_cargo" (·.itemsOfCargo) .text
    |>.required "penalty_lowerbound" (·.penaltyLowerbound) .text
    |>.required "single_penalty_length" (·.singlePenaltyLength) .text
    |>.required "price_factor" (·.priceFactor) .text
    |>.required "capacity_multiplier" (·.capacityMultiplier) .text
    |>.required "icon_indices" (·.iconIndices) (.pair .uint8 .uint8)

/-! ## Properties -/

/-- How property keys are declared. -/
def PropertyKey.codec : Codec PropertyKey :=
  .enumeration PropertyKey.all PropertyKey.declaredName

/-- How property values are declared. -/
def PropertyValue.codec : Codec PropertyValue where
  read source := do
    let (name, payload) ← source.asVariant
    match name with
    | "Text" => .text <$> (Source.single payload >>= Codec.text.readEnclosed)
    | "Int" => .int <$> (Source.single payload >>= Codec.int64.readEnclosed)
    | "Bool" => .bool <$> (Source.single payload >>= Codec.bool.readEnclosed)
    | "TextList" => .textList <$> (Source.single payload >>= Codec.text.list.readEnclosed)
    | "CargoRatios" =>
      .cargoRatios <$> (Source.single payload >>= (Codec.pair .text .uint32).list.readEnclosed)
    | _ => .error (.unknownVariant name)
  write
    | .text expression => .object [("Text", Codec.text.write expression)]
    | .int n => .object [("Int", Codec.int64.write n)]
    | .bool b => .object [("Bool", Codec.bool.write b)]
    | .textList labels => .object [("TextList", Codec.text.list.write labels)]
    | .cargoRatios ratios =>
      .object [("CargoRatios", (Codec.pair .text .uint32).list.write ratios)]

/-- How sets of properties are declared. -/
def Properties.codec : Codec Properties where
  read source := do
    let entries ← source.asMap
    let values ← entries.mapM fun (key, value) => do
      let key ← PropertyKey.codec.read key
      let value ← PropertyValue.codec.read value
      return (key, value)
    return .ofList values
  write p := .object (p.toList.map fun (key, value) =>
    (key.declaredName, PropertyValue.codec.write value))
  shape := .map PropertyValue.codec.shape

/-! ## Location checks -/

/-- How the checks a tile wants are declared. -/
def TileRequirements.codec : Codec TileRequirements :=
  .record "TileLocationChecks" <| Fields.start TileRequirements.mk
    |>.optional "always_allow_founder" (·.alwaysAllowFounder) .bool true
    |>.optional "disallow_slopes" (·.disallowSlopes) .bool false
    |>.optional "disallow_steep_slopes" (·.disallowSteepSlopes) .bool false
    |>.optional "disallow_industry_adjacent" (·.disallowIndustryAdjacent) .bool false
    |>.optional "require_effectively_flat" (·.requireEffectivelyFlat) .bool false
    |>.optional "require_houses_nearby" (·.requireHousesNearby) .bool false
    |>.optional "require_road_adjacent" (·.requireRoadAdjacent) .bool false
    |>.optional "require_coast" (·.requireCoast) .bool false
    |>.optional "disallow_above_snowline" (·.disallowAboveSnowline) .bool false
    |>.optional "disallow_desert" (·.disallowDesert) .bool false
    |>.optional "disallow_coast" (·.disallowCoast) .bool false

/-- How cluster requirements are declared. -/
def ClusterRequirement.codec : Codec ClusterRequirement :=
  .record "ClusterRequirement" <| Fields.start ClusterRequirement.mk
    |>.required "industry" (·.industry) .text
    |>.required "min_distance" (·.minDistance) .uint32
    |>.required "max_distance" (·.maxDistance) .uint32
    |>.required "div" (·.div) .uint32
    |>.required "mult" (·.mult) .uint32

/-- How the checks an industry wants are declared. -/
def SiteRequirements.codec : Codec SiteRequirements :=
  .record "IndustryLocationChecks" <| Fields.start SiteRequirements.mk
    |>.optional "always_allow_founder" (·.alwaysAllowFounder) .bool true
    |>.maybe "require_cluster" (·.requireCluster) ClusterRequirement.codec
    |>.maybe "town_distance" (·.townDistance) (.pair .uint32 .uint32)
    |>.optional "coast_distance" (·.coastDistance) .bool false
    |>.maybe "same_type_distance" (·.sameTypeDistance) .uint32
    |>.many "incompatible" (·.incompatible) (.pair .text .uint32)
    |>.many "layouts_available_from" (·.layoutsAvailableFrom) (.pair .uint8 .int64)

/-! ## Tiles -/

/-- How animation controls are declared. -/
def AnimationControl.codec : Codec AnimationControl :=
  .record "AnimationControl" <| Fields.start AnimationControl.mk
    |>.required "macro_name" (·.macroName) .text
    |>.required "triggers" (·.triggers) .text

/-- How animations are declared. -/
def Animation.codec : Codec Animation :=
  .record "Animation" <| Fields.start Animation.mk
    |>.optional "length" (·.length) .uint16 1
    |>.optional "looping" (·.looping) .bool false
    |>.optional "speed" (·.speed) .uint8 0
    |>.maybe "custom_next_frame" (·.customNextFrame) .text
    |>.maybe "custom_control" (·.customControl) AnimationControl.codec

/-- How tiles are written down, whether the game can use them or not. -/
def Tile.declarationCodec : Codec Tile :=
  .record "TileDeclaration" <| Fields.start Tile.mk
    |>.required "id" (·.id) .text
    |>.maybe "numeric_id" (·.numericId) .uint16
    |>.optional "land_shape_flags" (·.landShapeFlags) .text noLandShapeFlags
    |>.optional "location_checks" (·.requirements) TileRequirements.codec {}
    |>.maybe "foundations" (·.foundations) .text
    |>.maybe "autoslope" (·.autoslope) .text
    |>.optional "animation" (·.animation) Animation.codec {}

/-- How tiles are declared. Only tiles that the game can use are. -/
def Tile.codec : Codec Tile :=
  .checked Tile.declarationCodec Tile.validate

/-! ## Graphics -/

/-- How sprites are declared. -/
def Sprite.codec : Codec Sprite :=
  .record "Sprite" <| Fields.start Sprite.mk
    |>.required "number" (·.number) .text
    |>.maybe "number_snow" (·.numberSnow) .text
    |>.optional "xoffset" (·.xoffset) .int16 0
    |>.optional "yoffset" (·.yoffset) .int16 0
    |>.optional "zoffset" (·.zoffset) .int16 0
    |>.optional "xextent" (·.xextent) .uint8 16
    |>.optional "yextent" (·.yextent) .uint8 16
    |>.optional "zextent" (·.zextent) .uint8 16
    |>.optional "always_draw" (·.alwaysDraw) .bool false

/-- How smoke effects are declared. -/
def SmokeType.codec : Codec SmokeType :=
  .enumeration SmokeType.all SmokeType.name

/-- How smoke is declared. -/
def SmokeSprite.codec : Codec SmokeSprite :=
  .record "SmokeSprite" <| Fields.start SmokeSprite.mk
    |>.required "smoke_type" (·.smokeType) SmokeType.codec
    |>.optional "xoffset" (·.xoffset) .int16 0
    |>.optional "yoffset" (·.yoffset) .int16 0
    |>.optional "zoffset" (·.zoffset) .int16 0
    |>.optional "animation_frame_offset" (·.animationFrameOffset) .uint8 0

/-- How ground types are declared. -/
def GroundType.codec : Codec GroundType :=
  .enumeration GroundType.all GroundType.name

/-- How rectangles are declared. -/
def SpriteRect.codec : Codec SpriteRect where
  read source := do
    match ← source.asTuple (some "SpriteRect") with
    | [x, y, width, height, xoffset, yoffset] => do
      let x ← Codec.int16.read x
      let y ← Codec.int16.read y
      let width ← Codec.int16.read width
      let height ← Codec.int16.read height
      let xoffset ← Codec.int16.read xoffset
      let yoffset ← Codec.int16.read yoffset
      return { x, y, width, height, xoffset, yoffset }
    | _ => .error .malformed
  write r := .list ([r.x, r.y, r.width, r.height, r.xoffset, r.yoffset].map Codec.int16.write)

/-- How spritesets are declared. -/
def Spriteset.codec : Codec Spriteset :=
  .record "Spriteset" <| Fields.start Spriteset.mk
    |>.required "id" (·.id) .text
    |>.many "sprites" (·.sprites) SpriteRect.codec
    |>.maybe "ground" (·.ground) GroundType.codec
    |>.optional "xoffset" (·.xoffset) .int16 0
    |>.optional "yoffset" (·.yoffset) .int16 0
    |>.optional "zoffset" (·.zoffset) .int16 0
    |>.optional "xextent" (·.xextent) .uint8 16
    |>.optional "yextent" (·.yextent) .uint8 16
    |>.optional "zextent" (·.zextent) .uint8 16
    |>.optional "animation_rate" (·.animationRate) .uint8 0
    |>.maybe "custom_sprite_selector" (·.customSpriteSelector) .text
    |>.optional "always_draw" (·.alwaysDraw) .bool false
    |>.optional "num_sprites_to_autofill" (·.numSpritesToAutofill) .uint8 1

/-- How references to sprites are declared. -/
def SpriteRef.codec : Codec SpriteRef where
  read source := do
    let (name, payload) ← source.asVariant
    match name with
    | "Spriteset" => .spriteset <$> (Source.single payload >>= Codec.text.readEnclosed)
    | "Sprite" => .sprite <$> (Source.single payload >>= Codec.uint64.readEnclosed)
    | _ => .error (.unknownVariant name)
  write
    | .spriteset id => .object [("Spriteset", Codec.text.write id)]
    | .sprite index => .object [("Sprite", Codec.uint64.write index)]

/-- How the edges of tiles are declared. -/
def FenceSide.codec : Codec FenceSide where
  read source := do
    let name ← source.asText
    (FenceSide.ofName name).mapError .refused
  write side := .text side.name

/-- How spritelayouts are declared. -/
def Spritelayout.codec : Codec Spritelayout :=
  .record "SpriteLayout" <| Fields.start Spritelayout.mk
    |>.required "id" (·.id) .text
    |>.required "ground_sprite" (·.groundSprite) SpriteRef.codec
    |>.required "ground_overlay" (·.groundOverlay) SpriteRef.codec
    |>.many "building_sprites" (·.buildingSprites) SpriteRef.codec
    |>.many "smoke_sprites" (·.smokeSprites) .uint64
    |>.many "fences" (·.fences) FenceSide.codec
    |>.optional "terrain_aware_ground" (·.terrainAwareGround) .bool false

/-- How slope switches are declared. -/
def SlopeSwitch.codec : Codec SlopeSwitch :=
  .record "GraphicsSwitchSlopes" <| Fields.start SlopeSwitch.mk
    |>.required "id" (·.id) .text
    |>.required "slope_spritelayout_mapping" (·.mapping) (Codec.pair .text .text).list
    |>.required "default_result" (·.defaultResult) .text

/-- How the positions of a layout are declared. -/
def LayoutPosition.codec : Codec LayoutPosition where
  read source := do
    match ← source.asTuple (some "LayoutTile") with
    | [x, y, tile, target] => do
      let x ← Codec.int8.read x
      let y ← Codec.int8.read y
      let tile ← Codec.text.read tile
      let target ← Codec.text.read target
      return { x, y, tile, target }
    | _ => .error .malformed
  write p :=
    .list [Codec.int8.write p.x, Codec.int8.write p.y, Codec.text.write p.tile,
      Codec.text.write p.target]

/-- How layouts are declared. -/
def Layout.codec : Codec Layout :=
  .record "IndustryLayout" <| Fields.start Layout.mk
    |>.required "id" (·.id) .text
    |>.required "layout" (·.positions) LayoutPosition.codec.list

/-- How graphics are declared. -/
def Graphics.codec : Codec Graphics :=
  .record "IndustryGraphics" <| Fields.start Graphics.mk
    |>.many "sprites" (·.sprites) Sprite.codec
    |>.many "smoke_sprites" (·.smokeSprites) SmokeSprite.codec
    |>.many "spritesets" (·.spritesets) Spriteset.codec
    |>.many "spritelayouts" (·.spritelayouts) Spritelayout.codec
    |>.many "slope_switches" (·.slopeSwitches) SlopeSwitch.codec
    |>.many "layouts" (·.layouts) Layout.codec

/-! ## Industries -/

/-- The fields of a kind that processes cargos. -/
def Kind.secondaryCodec : Codec (Bool × Bool) :=
  .recordWith "" false <| Fields.start Prod.mk
    |>.optional "combined_cargos_boost_prod" (·.1) .bool false
    |>.optional "mnsp_boosts_production" (·.2) .bool false

/-- The kinds without fields, with their names in declarations. -/
def Kind.plainNames : List (String × Kind) :=
  [("PrimaryExtractive", .primaryExtractive), ("PrimaryOrganic", .primaryOrganic),
   ("PrimaryPort", .primaryPort), ("PrimaryNoSupplies", .primaryNoSupplies),
   ("PrimaryTownProducer", .primaryTownProducer), ("Tertiary", .tertiary)]

/-- How kinds are declared. -/
def Kind.codec : Codec Kind where
  read source := do
    let (name, payload) ← source.asVariant
    if name = "Secondary" then do
      let fields ← Source.named payload
      let (combined, mnsp) ← Kind.secondaryCodec.read fields
      return .secondary combined mnsp
    else
      match plainNames.find? (·.1 = name) with
      | some (_, kind) => do
        Source.nothing payload
        return kind
      | none => .error (.unknownVariant name)
  write
    | .primaryExtractive => .text "PrimaryExtractive"
    | .primaryOrganic => .text "PrimaryOrganic"
    | .primaryPort => .text "PrimaryPort"
    | .primaryNoSupplies => .text "PrimaryNoSupplies"
    | .primaryTownProducer => .text "PrimaryTownProducer"
    | .tertiary => .text "Tertiary"
    | .secondary combined mnsp =>
      .object [("Secondary", Kind.secondaryCodec.write (combined, mnsp))]
  shape := .record [("Secondary", Kind.secondaryCodec.shape, none)]

/-- How variations are declared. -/
def EconomyVariation.codec : Codec EconomyVariation :=
  .record "EconomyVariation" <| Fields.start EconomyVariation.mk
    |>.optional "enabled" (·.enabled) .bool false
    |>.optional "properties" (·.properties) Properties.codec .empty

/-- An industry as it is declared. -/
structure IndustryDeclaration where
  id : IndustryId
  numericId : UInt16
  kind : Kind
  properties : Properties
  economies : Dictionary EconomyVariation
  requirements : SiteRequirements
  graphicsChangeDates : List Int64
  tiles : List Tile
  graphics : Graphics

namespace IndustryDeclaration

/-- How industries are declared. -/
def codec : Codec IndustryDeclaration :=
  .record "IndustryDeclaration" <| Fields.start IndustryDeclaration.mk
    |>.required "id" (·.id) .text
    |>.required "numeric_id" (·.numericId) .uint16
    |>.required "kind" (·.kind) Kind.codec
    |>.optional "properties" (·.properties) Properties.codec .empty
    |>.optional "economies" (·.economies) (.dictionary EconomyVariation.codec) .empty
    |>.optional "location_checks" (·.requirements) SiteRequirements.codec {}
    |>.many "graphics_change_dates" (·.graphicsChangeDates) .int64
    |>.many "tiles" (·.tiles) Tile.codec
    |>.optional "graphics" (·.graphics) Graphics.codec {}

/-- The declared industry. Its variations are those declared. -/
def toIndustry (d : IndustryDeclaration) : Industry :=
  { Industry.create d.id d.numericId d.kind d.properties with
    variations := d.economies
    requirements := d.requirements
    graphicsChangeDates := d.graphicsChangeDates
    tiles := d.tiles
    graphics := d.graphics }

end IndustryDeclaration

/-- How configurations are declared. -/
def Configuration.codec : Codec Configuration :=
  .record "GenerateConfig" <| Fields.start Configuration.mk
    |>.optional "declarations_dir" (·.declarationsDir) .text "data"
    |>.optional "output_dir" (·.outputDir) .text "generated"
    |>.optional "repo_revision" (·.repoRevision) .text "0"
    |>.optional "repo_version" (·.repoVersion) .text "0"
    |>.maybe "test_industry" (·.testIndustry) .text

/-- How lists of economies are declared. -/
def Economies.listCodec : Codec (List Economy) :=
  Economy.codec.list

end IndustrySet
