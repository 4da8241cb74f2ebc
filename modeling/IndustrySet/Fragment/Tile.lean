import IndustrySet.Fragment.Graphics
import IndustrySet.Industry.Cargos

set_option autoImplicit false

/-! # NML of a tile

A tile is written as its location chain, its item, and a block for each economy in which its
industry accepts other cargos than in the base. -/

namespace IndustrySet.Tile

/-- The switch that controls the animation. -/
def animationSwitchName (tile : Tile) (industry : Industry) : String :=
  industry.id ++ "_" ++ tile.id ++ "_anim_control"

/-- The call of the macro that controls the animation, if there is one. -/
def animationBlocks (tile : Tile) (industry : Industry) : List Nml.Block :=
  match tile.animation.customControl with
  | some control => [.macroCall control.macroName (tile.animationSwitchName industry)]
  | none => []

/-- The line for the accepted cargos. -/
def acceptedCargos (labels : List String) : Nml.Assignment :=
  ⟨"accepted_cargos", .acceptance (acceptance labels)⟩

/-- The properties of a tile whose industry accepts these cargos. -/
def properties (tile : Tile) (labels : List String) : List Nml.Assignment :=
  [⟨"substitute", .raw "0"⟩,
   ⟨"land_shape_flags", .raw tile.landShapeFlags⟩,
   acceptedCargos labels,
   ⟨"animation_info", .raw ("[" ++
      (if tile.animation.looping then "ANIMATION_LOOPING" else "ANIMATION_NON_LOOPING") ++ ", " ++
      toString tile.animation.length.toNat ++ "]")⟩,
   ⟨"animation_speed", .raw (toString tile.animation.speed.toNat)⟩,
   ⟨"animation_triggers", .raw tile.animationTriggers⟩,
   ⟨"special_flags", .raw "bitmask(INDTILE_FLAG_ACCEPT_ALL)"⟩]

/-- A callback with a declared result, if there is one. -/
def optionalCallback (name : String) (declared : Option String) : List Nml.Callback :=
  match declared with
  | some result => [.named name (.raw result)]
  | none => []

/-- The callbacks of a tile. -/
def callbacks (tile : Tile) (industry : Industry) : List Nml.Callback :=
  .named "tile_check" (.ofOutcome (tile.chain industry.id).start) ::
    optionalCallback "foundations" tile.foundations ++
    optionalCallback "autoslope" tile.autoslope ++
    optionalCallback "anim_next_frame" tile.animation.customNextFrame ++
    (if tile.animation.customControl.isSome then
      [.named "anim_control" (.named (tile.animationSwitchName industry))] else []) ++
    (if industry.graphics.placesTiles then
      [.default (.named industry.tileGraphicsSwitchName)] else [])

/-- An item of a tile. -/
def item (tile : Tile) (properties : List Nml.Assignment) (callbacks : Option (List Nml.Callback)) :
    Nml.Item where
  feature := Nml.featIndustryTiles
  id := tile.id
  numericId := tile.numericId.map (·.toNat)
  properties := properties
  callbacks := callbacks

/-- The block for an economy, if the industry is enabled there and accepts other cargos than in the
base. -/
def economyBlocks (tile : Tile) (industry : Industry) (base : List String) (economy : Economy) :
    Except Error (List Nml.Block) :=
  if industry.isEnabledIn economy.id then do
    let labels ← industry.acceptedCargos (some economy.id)
    return if labels = base then []
      else [.inEconomy economy.numericId (tile.item [acceptedCargos labels] none)]
  else .ok []

/-- What is written for a tile of an industry. -/
def blocks (tile : Tile) (industry : Industry) (economies : Economies) :
    Except Error (List Nml.Block) := do
  let base ← industry.acceptedCargos none
  let perEconomy ← economies.toList.mapM (tile.economyBlocks industry base)
  return .comment ("tile " ++ tile.id) ::
    (tile.chain industry.id).switches.map .locationSwitch ++
    tile.animationBlocks industry ++
    .item (tile.item (tile.properties base) (some (tile.callbacks industry))) ::
    perEconomy.flatten

end IndustrySet.Tile
