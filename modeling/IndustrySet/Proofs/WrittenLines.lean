import IndustrySet.Proofs.EconomyLines
import IndustrySet.Proofs.WrittenBlocks

set_option autoImplicit false

/-! # Lines of the text

A block is a line, or one line that opens it, its inside, indented, and one that closes it
(`Block.textLines`). Declarations are copied into these lines as they are. Where none of them has a
line feed in it, the text falls into just these lines (`splitAtFeeds_render`). -/

namespace IndustrySet.Nml

open Text

/-- The lines of a block: the one that opens it, those of its inside, indented, and the one that
closes it. -/
def nested (opening : String) (inside : List String) : List String :=
  opening :: inside.map ("    " ++ ·) ++ ["\x7d"]

/-! ## Lines -/

/-- The line that an item begins with. -/
def Item.opening (i : Item) : String :=
  "item(" ++ i.feature ++ ", " ++ i.id ++
    (match i.numericId with
      | some n => ", " ++ toString n
      | none => "") ++ ") \x7b"

/-- The line of a callback. -/
def Callback.line : Callback → String
  | .named name target => name ++ ": " ++ target.text ++ ";"
  | .default target => target.text ++ ";"

/-- The lines inside an item. -/
def Item.body (i : Item) : List String :=
  nested "property \x7b" (i.properties.map fun a => a.name ++ ": " ++ a.value.text ++ ";") ++
    (match i.callbacks with
      | some callbacks => nested "graphics \x7b" (callbacks.map Callback.line)
      | none => [])

/-- The lines of an item. -/
def Item.textLines (i : Item) : List String :=
  nested i.opening i.body

/-- The line that a switch begins with. -/
def Switch.opening (s : Switch) : String :=
  "switch (" ++ s.feature ++ ", " ++ s.scope ++ ", " ++ s.name ++ ", " ++ s.expression.text ++
    ") \x7b"

/-- The lines of a switch. -/
def Switch.textLines (s : Switch) : List String :=
  nested s.opening
    (s.branches.map (fun branch => branch.1.text ++ ": " ++ branch.2.text ++ ";") ++
      [s.default.text ++ ";"])

/-- The lines of a building. -/
def Building.textLines (b : Building) : List String :=
  let line (name value : String) := name ++ ": " ++ value ++ ";"
  nested "building \x7b"
    ([line "sprite" b.sprite.text, line "xoffset" (toString b.xoffset.toInt),
        line "yoffset" (toString b.yoffset.toInt), line "zoffset" b.zoffset,
        line "xextent" (toString b.extents.1.toNat), line "yextent" (toString b.extents.2.1.toNat),
        line "zextent" (toString b.extents.2.2.toNat)] ++
      (if b.alwaysDraw then [line "always_draw" "1"] else []) ++
      (b.hideSprite.map fun condition => line "hide_sprite" condition.text).toList)

/-- The lines of a spritelayout. -/
def SpriteStack.textLines (l : SpriteStack) : List String :=
  nested ("spritelayout " ++ l.name ++ " \x7b")
    (nested "ground \x7b" ["sprite: " ++ l.ground.text ++ ";"] ++
      nested "childsprite \x7b" ["sprite: " ++ l.overlay.text ++ ";", "always_draw: 1;"] ++
      l.buildings.flatMap Building.textLines)

/-- The lines of a block. -/
def Block.textLines : Block → List String
  | .comment remark => ["// " ++ remark]
  | .spriteset name sheet rects =>
    nested ("spriteset (" ++ name ++ ", " ++ sheet ++ ") \x7b") (rects.map SpriteRect.text)
  | .spritelayout stack => stack.textLines
  | .switch s => s.textLines
  | .locationSwitch s => [s.text]
  | .macroCall macroName argument => [macroName ++ "(" ++ argument ++ ")"]
  | .tilelayout name positions =>
    nested ("tilelayout " ++ name ++ " \x7b") (positions.map fun (x, y, tile) =>
      toString x.toInt ++ ", " ++ toString y.toInt ++ ": " ++ tile ++ ";")
  | .item i => i.textLines
  | .inEconomy numericId i => nested (economyHeader numericId) i.textLines

/-- There is no line feed within a line of the block. -/
def Block.Unbroken (block : Block) : Prop :=
  ∀ line ∈ block.textLines, '\n' ∉ line.toList

/-- Bytes are quicker to look through than characters. -/
instance (block : Block) : Decidable block.Unbroken :=
  decidable_of_iff (∀ line ∈ block.textLines, 10 ∉ line.toByteArray.data.toList)
    (forall₂_congr fun line _ => not_congr (feed_mem_iff line).symm)

/-! ## Texts -/

theorem unlines_nested (opening : String) (inside : List String) :
    unlines (nested opening inside) =
      opening ++ "\n" ++ String.join (inside.map fun line => "    " ++ line ++ "\n") ++
        "\x7d\n" := by
  simp [nested, unlines, String.append_assoc, Function.comp_def]

theorem join_nested (opening : String) (inside : List String) :
    String.join ((nested opening inside).map fun line => "    " ++ line ++ "\n") =
      "    " ++ opening ++ "\n" ++
        String.join (inside.map fun line => "        " ++ line ++ "\n") ++ "    \x7d\n" := by
  have deeper (line : String) :
      "    " ++ ("    " ++ (line ++ "\n")) = "        " ++ (line ++ "\n") := by
    rw [← String.toList_inj]
    simp
  simp [nested, String.append_assoc, Function.comp_def, deeper]

theorem Item.header_eq (i : Item) : i.header = i.opening ++ "\n" := by
  unfold header opening
  rw [← String.toList_inj]
  cases i.numericId <;> simp

theorem Item.text_eq (i : Item) : i.text = unlines i.textLines := by
  have properties : propertyBlock (i.properties.map Assignment.text) = String.join
      ((nested "property \x7b"
        (i.properties.map fun a => a.name ++ ": " ++ a.value.text ++ ";")).map
          fun line => "    " ++ line ++ "\n") := by
    rw [join_nested, propertyBlock, innerBlock, List.map_map, List.map_map]
    rfl
  have graphics (callbacks : List Callback) :
      innerBlock "graphics" (callbacks.map Callback.text) = String.join
        ((nested "graphics \x7b" (callbacks.map Callback.line)).map
          fun line => "    " ++ line ++ "\n") := by
    have each : Callback.text = Callback.line := by
      funext callback
      cases callback <;> rfl
    rw [join_nested, innerBlock, each]
    rfl
  rw [textLines, body, unlines_nested, List.map_append, String.join_append, ← properties, text,
    header_eq]
  cases i.callbacks with
  | none => simp [String.append_assoc]
  | some callbacks => simp only [graphics, String.append_assoc]

theorem Switch.text_eq (s : Switch) : s.text = unlines s.textLines := by
  unfold text textLines opening
  rw [unlines_nested, List.map_append, String.join_append, List.map_map]
  have branch : (fun branch : Case × Target =>
      "    " ++ branch.1.text ++ ": " ++ branch.2.text ++ ";\n") =
      (fun line => "    " ++ line ++ "\n") ∘
        fun branch => branch.1.text ++ ": " ++ branch.2.text ++ ";" := by
    funext branch
    rw [← String.toList_inj]
    simp
  rw [← branch, ← String.toList_inj]
  simp

theorem Building.text_eq (b : Building) :
    b.text = String.join (b.textLines.map fun line => "    " ++ line ++ "\n") := by
  have written (name value : String) : "        " ++ (name ++ ": " ++ value ++ ";") ++ "\n" =
      "        " ++ name ++ ": " ++ value ++ ";\n" := by
    rw [← String.toList_inj]
    simp
  have hidden (rest : String) :
      "        " ++ ("hide_sprite: " ++ rest) = "        hide_sprite: " ++ rest := by
    rw [← String.toList_inj]
    simp
  unfold text textLines
  simp only [join_nested, List.map_append, List.map_cons, List.map_nil, String.join_append,
    String.join_cons, String.join_nil, written]
  cases b.alwaysDraw <;> cases b.hideSprite <;> simp [String.append_assoc, hidden]

theorem SpriteStack.text_eq (l : SpriteStack) : l.text = unlines l.textLines := by
  rw [textLines, unlines_nested]
  simp only [List.map_append, String.join_append, join_nested]
  have buildings : String.join (l.buildings.map Building.text) = String.join
      ((l.buildings.flatMap Building.textLines).map fun line => "    " ++ line ++ "\n") := by
    induction l.buildings with
    | nil => rfl
    | cons b rest ih =>
      rw [List.map_cons, String.join_cons, ih, b.text_eq, List.flatMap_cons, List.map_append,
        String.join_append]
  rw [← buildings]
  unfold text
  rw [← String.toList_inj]
  simp

/-! ## Blocks -/

/-- The line ends in a brace or a semicolon. -/
def Punctuated (line : String) : Prop :=
  ∃ front, ∃ mark ∈ ["\x7b", ";", "\x7d"], line = front ++ mark

theorem Punctuated.ne_empty {line : String} (h : Punctuated line) : line ≠ "" := by
  obtain ⟨front, mark, mem, rfl⟩ := h
  simp only [List.mem_cons, List.not_mem_nil, or_false] at mem
  rcases mem with rfl | rfl | rfl <;> simp

theorem Punctuated.getLast?_ne {line : String} (h : Punctuated line) :
    line.toList.getLast? ≠ some '\r' := by
  obtain ⟨front, mark, mem, rfl⟩ := h
  simp only [List.mem_cons, List.not_mem_nil, or_false] at mem
  rcases mem with rfl | rfl | rfl <;> simp

theorem punctuated_of_mem_nested {opening line : String} {inside : List String}
    (first : Punctuated opening) (others : ∀ line ∈ inside, Punctuated line)
    (mem : line ∈ nested opening inside) : Punctuated line := by
  simp only [nested, List.mem_append, List.mem_cons, List.mem_map, List.not_mem_nil, or_false]
    at mem
  rcases mem with (rfl | ⟨own, mem, rfl⟩) | rfl
  · exact first
  · obtain ⟨front, mark, known, rfl⟩ := others own mem
    exact ⟨"    " ++ front, mark, known, (String.append_assoc ..).symm⟩
  · exact ⟨"", "\x7d", by decide, rfl⟩

theorem Item.punctuated_of_mem_textLines {i : Item} {line : String} (mem : line ∈ i.textLines) :
    Punctuated line := by
  have opening (front : String) : Punctuated (front ++ ") \x7b") :=
    ⟨front ++ ") ", "\x7b", by decide, by rw [← String.toList_inj]; simp⟩
  have statement (front : String) : Punctuated (front ++ ";") := ⟨front, ";", by decide, rfl⟩
  refine punctuated_of_mem_nested (opening _) (fun line mem => ?_) mem
  rcases List.mem_append.1 mem with mem | mem
  · refine punctuated_of_mem_nested ⟨"property ", "\x7b", by decide, rfl⟩ (fun line mem => ?_) mem
    obtain ⟨a, _, rfl⟩ := List.mem_map.1 mem
    exact statement _
  · cases found : i.callbacks with
    | none => simp [found] at mem
    | some callbacks =>
      rw [found] at mem
      refine punctuated_of_mem_nested ⟨"graphics ", "\x7b", by decide, rfl⟩ (fun line mem => ?_) mem
      obtain ⟨callback, _, rfl⟩ := List.mem_map.1 mem
      cases callback <;> exact statement _

/-- A block for an economy is written line by line, if the item in it is. -/
theorem economyBlock_eq {i : Item} (unbroken : ∀ line ∈ i.textLines, '\n' ∉ line.toList)
    (numericId : UInt8) :
    economyBlock numericId i.text = unlines (nested (economyHeader numericId) i.textLines) := by
  have read : Text.lines i.text = i.textLines := by
    rw [i.text_eq]
    exact lines_unlines unbroken fun line mem => (Item.punctuated_of_mem_textLines mem).getLast?_ne
  have indented : i.textLines.map indent = i.textLines.map ("    " ++ ·) :=
    List.map_congr_left fun line mem => if_neg (Item.punctuated_of_mem_textLines mem).ne_empty
  rw [economyBlock, read, indented]
  simp [nested, unlines, economyHeader, String.append_assoc]

theorem Block.text_eq {block : Block} (unbroken : block.Unbroken) :
    block.text = unlines block.textLines := by
  cases block with
  | comment remark =>
    show "// " ++ remark ++ "\n" = unlines ["// " ++ remark]
    simp [unlines]
  | spriteset name sheet rects =>
    unfold text textLines
    simp [unlines_nested, String.append_assoc, Function.comp_def]
  | spritelayout stack => exact stack.text_eq
  | switch s => exact s.text_eq
  | locationSwitch s => simp [textLines, unlines]
  | macroCall macroName argument =>
    show macroName ++ "(" ++ argument ++ ")\n" = unlines [macroName ++ "(" ++ argument ++ ")"]
    simp [unlines, String.append_assoc]
  | tilelayout name positions =>
    unfold text textLines
    simp [unlines_nested, String.append_assoc, Function.comp_def]
  | item i => exact i.text_eq
  | inEconomy numericId i =>
    refine economyBlock_eq (fun line mem feed => ?_) numericId
    have inside : "    " ++ line ∈ (Block.inEconomy numericId i).textLines :=
      List.mem_cons_of_mem _ (List.mem_append_left _ (List.mem_map_of_mem mem))
    exact unbroken _ inside (by simpa using feed)

theorem render_eq {blocks : List Block} (unbroken : ∀ block ∈ blocks, block.Unbroken) :
    render blocks = unlines (blocks.flatMap Block.textLines) := by
  induction blocks with
  | nil => rfl
  | cons block rest ih =>
    rw [render_cons, Block.text_eq (unbroken block List.mem_cons_self),
      ih fun other mem => unbroken other (List.mem_cons_of_mem _ mem), List.flatMap_cons, unlines,
      unlines, unlines, List.map_append, String.join_append]

/-- The text falls into the lines of its blocks, in their order. -/
theorem splitAtFeeds_render {blocks : List Block} (unbroken : ∀ block ∈ blocks, block.Unbroken) :
    splitAtFeeds (render blocks) = blocks.flatMap Block.textLines ++ [""] := by
  rw [render_eq unbroken]
  refine splitAtFeeds_unlines fun line mem => ?_
  obtain ⟨block, among, mem⟩ := List.mem_flatMap.1 mem
  exact unbroken block among line mem

end IndustrySet.Nml
