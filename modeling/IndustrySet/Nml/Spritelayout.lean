import IndustrySet.Graphics.HideCondition

set_option autoImplicit false

/-! # NML spritelayouts

A spritelayout draws a ground sprite, one more sprite over it, and any number of buildings. -/

namespace IndustrySet.Nml

/-- The expression for a sprite. -/
inductive SpriteExpr
  /-- The number of a sprite. -/
  | number (text : String)
  /-- A sprite out of a spriteset. -/
  | pick (set selector : String)
  deriving DecidableEq, Repr

/-- The NML of a sprite. -/
def SpriteExpr.text : SpriteExpr → String
  | .number text => text
  | .pick set selector => set ++ "(" ++ selector ++ ")"

/-- A building of a spritelayout. -/
structure Building where
  sprite : SpriteExpr
  xoffset : Int16
  yoffset : Int16
  /-- The height, which may depend on the animation. -/
  zoffset : String
  extents : UInt8 × UInt8 × UInt8
  alwaysDraw : Bool
  hideSprite : Option HideCondition
  deriving DecidableEq, Repr

/-- The NML of a building. -/
def Building.text (b : Building) : String :=
  let line (name value : String) := "        " ++ name ++ ": " ++ value ++ ";\n"
  "    building \x7b\n" ++
    line "sprite" b.sprite.text ++
    line "xoffset" (toString b.xoffset.toInt) ++
    line "yoffset" (toString b.yoffset.toInt) ++
    line "zoffset" b.zoffset ++
    line "xextent" (toString b.extents.1.toNat) ++
    line "yextent" (toString b.extents.2.1.toNat) ++
    line "zextent" (toString b.extents.2.2.toNat) ++
    (if b.alwaysDraw then line "always_draw" "1" else "") ++
    (match b.hideSprite with
      | some condition => line "hide_sprite" condition.text
      | none => "") ++
    "    \x7d\n"

/-- A spritelayout as it is written. -/
structure SpriteStack where
  name : String
  ground : SpriteExpr
  overlay : SpriteExpr
  buildings : List Building
  deriving DecidableEq, Repr

/-- The NML of a spritelayout. -/
def SpriteStack.text (l : SpriteStack) : String :=
  "spritelayout " ++ l.name ++ " \x7b\n" ++
    "    ground \x7b\n        sprite: " ++ l.ground.text ++ ";\n    \x7d\n" ++
    "    childsprite \x7b\n        sprite: " ++ l.overlay.text ++
      ";\n        always_draw: 1;\n    \x7d\n" ++
    String.join (l.buildings.map Building.text) ++ "\x7d\n"

end IndustrySet.Nml
