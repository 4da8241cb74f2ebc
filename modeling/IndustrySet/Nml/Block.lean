import IndustrySet.Graphics.Sprite
import IndustrySet.Location.Rule
import IndustrySet.Nml.Item
import IndustrySet.Nml.Spritelayout

set_option autoImplicit false

/-! # NML blocks

What is generated is a list of blocks, in the order in which they are written; only at the very end
does it become text. Names are resolved in the order of the file, so a block stands before those
that refer to it. -/

namespace IndustrySet.Nml

/-- Where a callback leads that has the outcome of a location check. -/
def Target.ofOutcome : Outcome → Target
  | .stop verdict => .returned verdict.callbackResult
  | .next entry => .named entry

/-- A block of generated NML. -/
inductive Block
  | comment (remark : String)
  /-- A spriteset with the quoted path of its sheet. -/
  | spriteset (name sheet : String) (rects : List SpriteRect)
  | spritelayout (stack : SpriteStack)
  | switch (s : Switch)
  | locationSwitch (s : LocationSwitch)
  /-- The call of a macro that makes the switch of this name. -/
  | macroCall (macroName argument : String)
  /-- Positions with the tiles on them. -/
  | tilelayout (name : String) (positions : List (Int8 × Int8 × String))
  | item (i : Item)
  /-- Properties of an item that are set again for one economy. -/
  | inEconomy (numericId : UInt8) (i : Item)
  deriving DecidableEq, Repr

namespace Block

/-- The NML of a block. -/
def text : Block → String
  | .comment remark => "// " ++ remark ++ "\n"
  | .spriteset name sheet rects =>
    "spriteset (" ++ name ++ ", " ++ sheet ++ ") \x7b\n" ++
      String.join (rects.map fun rect => "    " ++ rect.text ++ "\n") ++ "\x7d\n"
  | .spritelayout stack => stack.text
  | .switch s => s.text
  | .locationSwitch s => s.text ++ "\n"
  | .macroCall macroName argument => macroName ++ "(" ++ argument ++ ")\n"
  | .tilelayout name positions =>
    "tilelayout " ++ name ++ " \x7b\n" ++
      String.join (positions.map fun (x, y, tile) =>
        "    " ++ toString x.toInt ++ ", " ++ toString y.toInt ++ ": " ++ tile ++ ";\n") ++ "\x7d\n"
  | .item i => i.text
  | .inEconomy numericId i => economyBlock numericId i.text

end Block

/-- The NML of blocks, one after the other. -/
def render (blocks : List Block) : String :=
  String.join (blocks.map Block.text)

end IndustrySet.Nml
