set_option autoImplicit false

/-! # Sprites and spritesets

A sprite is taken from the base set by its number; a spriteset is cut from the graphics sheet of an
industry, or is a single ground tile from a sheet that all industries share. -/

namespace IndustrySet

/-- A sprite of the base set. Its number may be any NML expression. -/
structure Sprite where
  number : String
  /-- The number on snow, if it differs. -/
  numberSnow : Option String := none
  xoffset : Int16 := 0
  yoffset : Int16 := 0
  zoffset : Int16 := 0
  xextent : UInt8 := 16
  yextent : UInt8 := 16
  zextent : UInt8 := 16
  alwaysDraw : Bool := false
  deriving DecidableEq, Repr

/-- The number of a sprite on a terrain. -/
def Sprite.numberOn (sprite : Sprite) (terrain : String) : String :=
  if terrain = "snow" then sprite.numberSnow.getD sprite.number else sprite.number

/-! ## Ground -/

/-- A ground tile of the shared sheet. -/
inductive GroundType
  | mud
  | concrete
  | cobble
  | snow
  | slab
  | empty
  deriving DecidableEq, Repr

namespace GroundType

/-- All ground types. -/
def all : List GroundType := [.mud, .concrete, .cobble, .snow, .slab, .empty]

/-- The name of a ground type in declarations. -/
def name : GroundType → String
  | .mud => "mud"
  | .concrete => "concrete"
  | .cobble => "cobble"
  | .snow => "snow"
  | .slab => "slab"
  | .empty => "empty"

/-- Where the tile lies in the sheet. -/
def xStart : GroundType → Int16
  | .mud => 0
  | .concrete => 80
  | .cobble => 150
  | .snow => 220
  | .slab => 290
  | .empty => 360

/-- Does the ground look different under snow? -/
def hasSnowVariant : GroundType → Bool
  | .snow | .empty => false
  | _ => true

/-- What the ground is drawn as under snow. -/
def underSnow (ground : GroundType) : GroundType :=
  if ground.hasSnowVariant then .snow else ground

end GroundType

/-! ## Spritesets -/

/-- A rectangle of a sheet with the offsets at which it is drawn. -/
structure SpriteRect where
  x : Int16
  y : Int16
  width : Int16
  height : Int16
  xoffset : Int16
  yoffset : Int16
  deriving DecidableEq, Repr

/-- The NML of a rectangle. -/
def SpriteRect.text (r : SpriteRect) : String :=
  "[" ++ ", ".intercalate
    ([r.x, r.y, r.width, r.height, r.xoffset, r.yoffset].map fun n => toString n.toInt) ++ "]"

/-- The rectangle of a ground tile. -/
def GroundType.rect (ground : GroundType) : SpriteRect :=
  ⟨ground.xStart, 10, 64, 31, -31, 0⟩

/-- A set of sprites that a spritelayout can draw. -/
structure Spriteset where
  id : String
  sprites : List SpriteRect := []
  /-- The ground tile, for a set that is one. -/
  ground : Option GroundType := none
  xoffset : Int16 := 0
  yoffset : Int16 := 0
  zoffset : Int16 := 0
  xextent : UInt8 := 16
  yextent : UInt8 := 16
  zextent : UInt8 := 16
  /-- How many frames go by per sprite; 0 for a set that stands still. -/
  animationRate : UInt8 := 0
  customSpriteSelector : Option String := none
  alwaysDraw : Bool := false
  /-- How often each sprite is repeated, so that the sets of a layout have equal size. -/
  numSpritesToAutofill : UInt8 := 1
  deriving DecidableEq, Repr

namespace Spriteset

/-- The NML expression that picks a sprite of the set. -/
def selector (set : Spriteset) : String :=
  if set.animationRate = 0 then "0"
  else
    match set.customSpriteSelector with
    | some selector => toString set.animationRate.toNat ++ "*" ++ selector
    | none => toString set.animationRate.toNat ++ "* (animation_frame)"

/-- The sprites of a set, each repeated as often as the set asks for. -/
def filledSprites (set : Spriteset) : List SpriteRect :=
  set.sprites.flatMap fun rect => List.replicate set.numSpritesToAutofill.toNat rect

/-- The rectangles to write: that of a ground tile, or the sprites of the set. -/
def rects (set : Spriteset) : Option GroundType → List SpriteRect
  | some ground => [ground.rect]
  | none => set.filledSprites

end Spriteset

end IndustrySet
