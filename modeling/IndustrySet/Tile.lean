import IndustrySet.Error
import IndustrySet.Location.Tile

set_option autoImplicit false

/-! # Industry tiles

A tile restricts where it may lie with land shape flags or with location checks, but not with both:
the game ignores the flags once there are checks. -/

namespace IndustrySet

/-- Identifies a tile, as in `arable_farm_tile_1`. -/
abbrev TileId := String

/-- Control of an animation by a switch macro that several tiles share. -/
structure AnimationControl where
  /-- The macro with the switch. -/
  macroName : String
  /-- The bitmask of the triggers. -/
  triggers : String
  deriving DecidableEq, Repr

/-- How a tile is animated. The frames of its spritesets follow each other unless something else
says how. -/
structure Animation where
  length : UInt16 := 1
  looping : Bool := false
  speed : UInt8 := 0
  customNextFrame : Option String := none
  customControl : Option AnimationControl := none
  deriving DecidableEq, Repr, Inhabited

/-- The land shape flags that restrict nothing. -/
def noLandShapeFlags : String := "0"

/-- The greatest number of frames the game supports. -/
def maxAnimationLength : UInt16 := 253

/-- How much of a cargo that its industry accepts a tile accepts, in eighths. -/
def tileAcceptance : Nat := 8

/-- An industry tile. -/
structure Tile where
  id : TileId
  numericId : Option UInt16 := none
  landShapeFlags : String := noLandShapeFlags
  requirements : TileRequirements := {}
  /-- The result of the callback for foundations. -/
  foundations : Option String := none
  /-- The result of the callback for automatic slopes. -/
  autoslope : Option String := none
  animation : Animation := {}
  deriving DecidableEq, Repr

namespace Tile

/-- The tile, if it is one the game can use. Flags beside checks are refused before a wrong
animation length is. -/
def validate (tile : Tile) : Except Refusal Tile :=
  if tile.landShapeFlags ≠ noLandShapeFlags ∧ tile.requirements.checks ≠ [] then
    .error (.landShapeFlagsIgnored tile.id)
  else if tile.animation.length = 0 ∨ maxAnimationLength < tile.animation.length then
    .error (.animationLength tile.id tile.animation.length)
  else .ok tile

/-- A tile with land shape flags and checks. -/
def create (id : TileId) (landShapeFlags : String) (requirements : TileRequirements) :
    Except Refusal Tile :=
  Tile.validate { id, landShapeFlags, requirements }

/-- A tile that only location checks restrict. -/
def ofRequirements (id : TileId) (requirements : TileRequirements) : Tile :=
  { id, requirements }

/-- The tile with another animation. -/
def withAnimation (tile : Tile) (animation : Animation) : Except Refusal Tile :=
  Tile.validate { tile with animation }

/-- The location chain of the tile within an industry. -/
def chain (tile : Tile) (industry : String) : Chain TileCheck :=
  tile.requirements.chain industry tile.id

/-- The accepted cargos of the tile, when its industry accepts these. -/
def acceptance (labels : List String) : List (String × Nat) :=
  labels.map fun label => (label, tileAcceptance)

/-- The bitmask of the animation triggers. -/
def animationTriggers (tile : Tile) : String :=
  match tile.animation.customControl with
  | some control => control.triggers
  | none => "bitmask()"

/-- Has the tile more than one frame? -/
def isAnimated (tile : Tile) : Bool :=
  1 < tile.animation.length

end Tile

end IndustrySet
