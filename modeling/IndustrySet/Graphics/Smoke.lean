import IndustrySet.Graphics.HideCondition

set_option autoImplicit false

/-! # Smoke -/

namespace IndustrySet

/-- A smoke effect of the base set. -/
inductive SmokeType
  | darkSmokeSmall
  | whiteSmokeSmall
  | whiteSmokeBig
  deriving DecidableEq, Repr

namespace SmokeType

/-- All smoke effects. -/
def all : List SmokeType := [.darkSmokeSmall, .whiteSmokeSmall, .whiteSmokeBig]

/-- The name of a smoke effect in declarations. -/
def name : SmokeType → String
  | .darkSmokeSmall => "dark_smoke_small"
  | .whiteSmokeSmall => "white_smoke_small"
  | .whiteSmokeBig => "white_smoke_big"

/-- Is the smoke big? Big smoke stays at its height and is always there. -/
def isBig : SmokeType → Bool
  | .whiteSmokeBig => true
  | _ => false

end SmokeType

/-- Smoke over a tile. -/
structure SmokeSprite where
  smokeType : SmokeType
  xoffset : Int16 := 0
  yoffset : Int16 := 0
  zoffset : Int16 := 0
  /-- Shifts big smoke against the other animations on the tile. -/
  animationFrameOffset : UInt8 := 0
  deriving DecidableEq, Repr

namespace SmokeSprite

/-- The NML expression for the sprite number. -/
def number (smoke : SmokeSprite) : String :=
  match smoke.smokeType with
  | .darkSmokeSmall => "2040 + (animation_frame / 4)"
  | .whiteSmokeSmall => "3079 + (animation_frame / 4)"
  | .whiteSmokeBig =>
    "3701 + ((animation_frame + " ++ toString smoke.animationFrameOffset.toNat ++ ")%8)"

/-- The NML expression for the height. Small smoke rises with the frames. -/
def height (smoke : SmokeSprite) : String :=
  if smoke.smokeType.isBig then toString smoke.zoffset.toInt
  else toString smoke.zoffset.toInt ++ "+ animation_frame"

/-- The extents of the smoke along the three axes. -/
def extents (smoke : SmokeSprite) : UInt8 × UInt8 × UInt8 :=
  if smoke.smokeType.isBig then (15, 7, 7) else (11, 16, 7)

/-- When the smoke is hidden. -/
def hideCondition (smoke : SmokeSprite) : HideCondition :=
  if smoke.smokeType.isBig then .never else .afterFrame 19

end SmokeSprite

end IndustrySet
