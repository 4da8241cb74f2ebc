import IndustrySet.Graphics.Layout
import IndustrySet.Graphics.Smoke
import IndustrySet.Graphics.Sprite

set_option autoImplicit false

/-! # The graphics of an industry

Everything here refers to other declarations of the same industry, by id or by place. -/

namespace IndustrySet

/-- All graphics an industry declares. -/
structure Graphics where
  sprites : List Sprite := []
  smokeSprites : List SmokeSprite := []
  spritesets : List Spriteset := []
  spritelayouts : List Spritelayout := []
  slopeSwitches : List SlopeSwitch := []
  layouts : List Layout := []
  deriving DecidableEq, Repr, Inhabited

namespace Graphics

/-- The spriteset with an id. -/
def spriteset? (graphics : Graphics) (id : String) : Option Spriteset :=
  graphics.spritesets.find? (·.id = id)

/-- The spritelayout with an id. -/
def spritelayout? (graphics : Graphics) (id : String) : Option Spritelayout :=
  graphics.spritelayouts.find? (·.id = id)

/-- Is this the id of a spritelayout or a slope switch? -/
def hasTarget (graphics : Graphics) (id : String) : Bool :=
  graphics.spritelayouts.any (·.id = id) || graphics.slopeSwitches.any (·.id = id)

/-- Does a spritelayout draw ground that looks different under snow? -/
def needsSnow (graphics : Graphics) : Bool :=
  graphics.spritelayouts.any (·.terrainAwareGround)

/-- Does a layout have a position that carries a tile? -/
def placesTiles (graphics : Graphics) : Bool :=
  graphics.layouts.any fun layout => layout.positions.any fun position => !position.isVacant

end Graphics

end IndustrySet
