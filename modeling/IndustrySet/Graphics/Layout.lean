import IndustrySet.Error

set_option autoImplicit false

/-! # Layouts

A spritelayout says what is drawn on a tile, a slope switch picks a spritelayout by the slope of the
tile, and an industry layout places tiles and says what is drawn on each. -/

namespace IndustrySet

/-- What a spritelayout draws, as a reference to another declaration of the same industry. -/
inductive SpriteRef
  /-- A spriteset, by id. -/
  | spriteset (id : String)
  /-- A sprite of the base set, by its place in the industry's list. -/
  | sprite (index : UInt64)
  deriving DecidableEq, Repr

/-! ## Fences -/

/-- The edge of a tile. -/
inductive FenceSide
  | northEast
  | southEast
  | southWest
  | northWest
  deriving DecidableEq, Repr

namespace FenceSide

/-- All edges. -/
def all : List FenceSide := [.northEast, .southEast, .southWest, .northWest]

/-- The name of an edge in declarations. -/
def name : FenceSide → String
  | .northEast => "ne"
  | .southEast => "se"
  | .southWest => "sw"
  | .northWest => "nw"

/-- The edge of a name. -/
def ofName (name : String) : Except Refusal FenceSide :=
  match all.find? (·.name = name) with
  | some side => .ok side
  | none => .error (.unknownFenceSide name)

/-- The sprite of a fence along the edge. -/
def sprite : FenceSide → Nat
  | .northWest | .southEast => 1301
  | .northEast | .southWest => 1302

/-- Where the fence stands within the tile. -/
def offsets : FenceSide → Int16 × Int16
  | .northEast | .northWest => (0, 0)
  | .southEast => (0, 15)
  | .southWest => (15, 0)

/-- The extents of the fence along the three axes. -/
def extents : FenceSide → UInt8 × UInt8 × UInt8
  | .northWest | .southEast => (16, 1, 4)
  | .northEast | .southWest => (1, 16, 4)

end FenceSide

/-! ## Spritelayouts and slope switches -/

/-- What is drawn on a tile. -/
structure Spritelayout where
  id : String
  groundSprite : SpriteRef
  groundOverlay : SpriteRef
  buildingSprites : List SpriteRef := []
  /-- Places in the industry's list of smoke. -/
  smokeSprites : List UInt64 := []
  /-- The edges with a fence. -/
  fences : List FenceSide := []
  /-- Is ground drawn that looks different under snow? -/
  terrainAwareGround : Bool := false
  deriving DecidableEq, Repr

/-- Picks a spritelayout by the slope of the tile. -/
structure SlopeSwitch where
  id : String
  /-- Slopes, each with the spritelayout for it. -/
  mapping : List (String × String)
  defaultResult : String
  deriving DecidableEq, Repr

/-! ## Industry layouts -/

/-- One position of an industry layout. -/
structure LayoutPosition where
  x : Int8
  y : Int8
  tile : String
  /-- The spritelayout or slope switch drawn there. -/
  target : String
  deriving DecidableEq, Repr

/-- The tile that marks a position that must be clear. -/
def vacantTile : String := "255"

/-- Must the position be clear? -/
def LayoutPosition.isVacant (position : LayoutPosition) : Bool :=
  position.tile = vacantTile

/-- A layout of an industry. -/
structure Layout where
  id : String
  positions : List LayoutPosition
  deriving DecidableEq, Repr

namespace Layout

/-- The name of the layout in NML. -/
def tilelayoutName (layout : Layout) : String :=
  layout.id ++ "_tilelayout"

/-- The positions that carry a tile. -/
def occupied (layout : Layout) : List LayoutPosition :=
  layout.positions.filter fun position => !position.isVacant

end Layout

end IndustrySet
