import IndustrySet.Nml.Block

set_option autoImplicit false

/-! # Blocks in the text

The text of some blocks is that of the first, followed by that of the rest. So each block stands in
it as it is written on its own (`exists_render_of_mem`). -/

namespace IndustrySet.Nml

@[simp]
theorem Block.text_switch (s : Switch) : (Block.switch s).text = s.text := rfl

@[simp]
theorem Block.text_locationSwitch (s : LocationSwitch) :
    (Block.locationSwitch s).text = s.text ++ "\n" := rfl

@[simp]
theorem Block.text_item (i : Item) : (Block.item i).text = i.text := rfl

@[simp]
theorem Block.text_inEconomy (numericId : UInt8) (i : Item) :
    (Block.inEconomy numericId i).text = economyBlock numericId i.text := rfl

@[simp]
theorem render_nil : render [] = "" := rfl

@[simp]
theorem render_cons (block : Block) (blocks : List Block) :
    render (block :: blocks) = block.text ++ render blocks := by
  simp [render]

@[simp]
theorem render_append (before after : List Block) :
    render (before ++ after) = render before ++ render after := by
  simp [render]

/-- A block stands in the text as it is written on its own. -/
theorem exists_render_of_mem {block : Block} {blocks : List Block} (mem : block ∈ blocks) :
    ∃ before after, render blocks = before ++ block.text ++ after := by
  obtain ⟨before, after, rfl⟩ := List.append_of_mem mem
  exact ⟨render before, render after, by simp [String.append_assoc]⟩

theorem exists_render_of_switch {s : Switch} {blocks : List Block} (mem : .switch s ∈ blocks) :
    ∃ before after, render blocks = before ++ s.text ++ after :=
  Block.text_switch s ▸ exists_render_of_mem mem

/-- The item in a block, in every economy or in one. -/
def Block.item? : Block → Option Item
  | .item i | .inEconomy _ i => some i
  | _ => none

end IndustrySet.Nml
