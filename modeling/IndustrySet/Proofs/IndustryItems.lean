import IndustrySet.Proofs.GraphicsBlocks
import IndustrySet.Proofs.IndustryBlocks
import IndustrySet.Proofs.WrittenProperties

set_option autoImplicit false

/-! # Items of industries in the text

Of the items that are written for an industry some are of its tiles, the others its own, under its
id and number (`item_of_mem_blocks`). The lines that they begin with tell them apart, those of the
tiles if no id of a tile has a comma or bracket in it. The industry's own items end the text: one
for the base and then, for each economy that sets anything again, one in a block for that economy
(`render_blocks`). -/

namespace IndustrySet

/-- The items of a tile set properties that the tile has. -/
theorem Tile.item_of_mem_blocks {tile : Tile} {industry : Industry} {economies : Economies}
    {blocks : List Nml.Block} (h : tile.blocks industry economies = .ok blocks) {block : Nml.Block}
    (mem : block ∈ blocks) {i : Nml.Item} (holds : block.item? = some i) :
    ∃ properties set labels, i = tile.item properties set ∧
      properties ⊆ tile.properties labels := by
  obtain ⟨base, perEconomy, _, hperEconomy, rfl⟩ := blocks_eq_ok h
  simp only [List.cons_append, List.append_assoc, List.mem_cons, List.mem_append] at mem
  rcases mem with rfl | mem | mem | rfl | mem
  · cases holds
  · obtain ⟨s, _, rfl⟩ := List.mem_map.1 mem
    cases holds
  · obtain ⟨control, rfl⟩ := mem_animationBlocks mem
    cases holds
  · cases holds
    exact ⟨_, _, base, rfl, List.Subset.refl _⟩
  · obtain ⟨economy, _, _, labels, _, rfl⟩ := mem_perEconomy hperEconomy mem
    cases holds
    exact ⟨_, _, labels, rfl, by simp [properties]⟩

namespace Industry

variable {industry : Industry} {economies : Economies} {table : NumberTable}
  {blocks : List Nml.Block}

/-! ## Items -/

/-- An item is one of a tile, or one of the industry itself, whose callbacks are set if any are. -/
theorem item_of_mem_blocks (h : industry.blocks economies table = .ok blocks) {block : Nml.Block}
    (mem : block ∈ blocks) {i : Nml.Item} (holds : block.item? = some i) :
    (∃ tile ∈ industry.tiles, ∃ properties set labels, i = tile.item properties set ∧
        properties ⊆ tile.properties labels) ∨
      ∃ properties set, i = industry.item properties set ∧
        (set = none ∨ ∃ chain fund window, set = some (callbacks chain fund window)) := by
  obtain ⟨graphics, tiles, chain, fund, window, base, perEconomy, hgraphics, htiles, _, _, _, _,
    hperEconomy, rfl⟩ := blocks_eq_ok h
  simp only [List.cons_append, List.append_assoc, List.mem_cons, List.mem_append] at mem
  rcases mem with rfl | mem | mem | mem | mem | mem | rfl | mem
  · cases holds
  · rcases mem_graphicsBlocks hgraphics mem with ⟨_, _, _, rfl⟩ | ⟨_, rfl⟩ | ⟨_, _, rfl⟩ <;>
      cases holds
  · obtain ⟨part, hpart, mem⟩ := List.mem_flatten.1 mem
    obtain ⟨tile, declared, htile⟩ := exists_of_mem_mapM htiles hpart
    exact .inl ⟨tile, declared, Tile.item_of_mem_blocks htile mem holds⟩
  · obtain ⟨layout, _, rfl⟩ := List.mem_map.1 mem
    cases holds
  · obtain ⟨s, _, rfl⟩ := List.mem_map.1 mem
    cases holds
  · obtain ⟨s, _, rfl⟩ := List.mem_map.1 mem
    cases holds
  · cases holds
    exact .inr ⟨_, _, rfl, .inr ⟨_, _, _, rfl⟩⟩
  · obtain ⟨economy, _, properties, _, rfl⟩ := mem_perEconomy hperEconomy mem
    cases holds
    exact .inr ⟨_, _, rfl, .inl rfl⟩

/-- The items that begin as those of the industry do are its own. -/
theorem beginsItem_iff_of_mem_blocks (h : industry.blocks economies table = .ok blocks)
    {block : Nml.Block} (mem : block ∈ blocks) {i : Nml.Item} (holds : block.item? = some i) :
    Nml.beginsItem Nml.featIndustries industry.id i.opening = true ↔
      i.feature = Nml.featIndustries ∧ i.id = industry.id := by
  rcases item_of_mem_blocks h mem holds with
    ⟨tile, _, _, _, _, rfl, _⟩ | ⟨properties, set, rfl, _⟩
  · refine iff_of_false (fun begins => ?_) fun own => Nml.featIndustryTiles_ne own.1
    obtain ⟨_, ⟨more, same⟩ | ⟨more, same⟩⟩ := Nml.beginsItem_iff.1 begins <;>
      simp [Nml.Item.opening, Tile.item, Nml.featIndustries, Nml.featIndustryTiles] at same
  · refine iff_of_true (Nml.beginsItem_iff.2 ⟨Nml.getLast?_append rfl, .inl ?_⟩) ⟨rfl, rfl⟩
    refine ⟨(toString industry.numericId.toNat ++ ") \x7b").toList, ?_⟩
    simp [Nml.Item.opening, item, Nml.featIndustries]

/-- Tiles with plain ids are told apart by the lines that their items begin with. -/
theorem beginsItem_tile_iff_of_mem_blocks (h : industry.blocks economies table = .ok blocks)
    (plain : ∀ tile ∈ industry.tiles, Nml.Plain tile.id) {tile : Tile}
    (declared : tile ∈ industry.tiles) {block : Nml.Block} (mem : block ∈ blocks) {i : Nml.Item}
    (holds : block.item? = some i) :
    Nml.beginsItem Nml.featIndustryTiles tile.id i.opening = true ↔
      i.feature = Nml.featIndustryTiles ∧ i.id = tile.id := by
  rcases item_of_mem_blocks h mem holds with
    ⟨other, declared', _, _, _, rfl, _⟩ | ⟨properties, set, rfl, _⟩
  · exact (Nml.beginsItem_opening_iff (plain other declared') (plain tile declared)).trans
      ⟨fun same => ⟨rfl, same⟩, And.right⟩
  · refine iff_of_false (fun begins => ?_) fun own => Nml.featIndustryTiles_ne.symm own.1
    obtain ⟨_, ⟨more, same⟩ | ⟨more, same⟩⟩ := Nml.beginsItem_iff.1 begins <;>
      simp [Nml.Item.opening, item, Nml.featIndustries, Nml.featIndustryTiles] at same

/-! ## Texts -/

/-- The text of an item of the industry that sets some properties, with what else is in it. -/
def itemText (industry : Industry) (properties : List Nml.Assignment) (graphics : String) :
    String :=
  "item(FEAT_INDUSTRIES, " ++ industry.id ++ ", " ++ toString industry.numericId.toNat ++
    ") \x7b\n    property \x7b\n" ++
    String.join (properties.map fun a => "        " ++ a.name ++ ": " ++ a.value.text ++ ";\n") ++
    "    \x7d\n" ++ graphics ++ "\x7d\n"

/-- The text for an economy in which some properties are set again. Without any there is none. -/
def textAgain (industry : Industry) (economy : Economy) (properties : List Nml.Assignment) :
    String :=
  if properties = [] then ""
  else
    "if (param_economy == " ++ toString economy.numericId.toNat ++ ") \x7b\n" ++
      String.join ((Text.lines (industry.itemText properties "")).map fun line =>
        (if line = "" then "" else "    " ++ line) ++ "\n") ++ "\x7d\n"

theorem text_item (properties : List Nml.Assignment) (callbacks : Option (List Nml.Callback)) :
    (industry.item properties callbacks).text = industry.itemText properties
      (match callbacks with
        | some callbacks => Nml.innerBlock "graphics" (callbacks.map Nml.Callback.text)
        | none => "") := by
  have block : Nml.propertyBlock (properties.map Nml.Assignment.text) = "    property \x7b\n" ++
      String.join (properties.map fun a => "        " ++ a.name ++ ": " ++ a.value.text ++ ";\n") ++
        "    \x7d\n" := by
    have each (a : Nml.Assignment) : "        " ++ (a.name ++ ": " ++ a.value.text ++ ";") ++ "\n" =
        "        " ++ a.name ++ ": " ++ a.value.text ++ ";\n" := by
      rw [← String.toList_inj]
      simp
    rw [Nml.propertyBlock, Nml.innerBlock, List.map_map]
    simp only [Function.comp_def, Nml.Assignment.text, each]
    rfl
  have written : (industry.item properties callbacks).text =
      (industry.item properties callbacks).header ++
        Nml.propertyBlock (properties.map Nml.Assignment.text) ++ _ ++ "\x7d\n" := rfl
  have header : (industry.item properties callbacks).header ++ "    property \x7b\n" =
      "item(FEAT_INDUSTRIES, " ++ industry.id ++ ", " ++ toString industry.numericId.toNat ++
        ") \x7b\n    property \x7b\n" := by
    rw [← String.toList_inj]
    simp [Nml.Item.header, item, Nml.featIndustries]
  unfold itemText
  rw [written, block, ← header]
  simp only [String.append_assoc]
  rfl

theorem text_inEconomy (economy : Economy) (properties : List Nml.Assignment) :
    Nml.render (if properties.isEmpty then []
        else [.inEconomy economy.numericId (industry.item properties none)]) =
      industry.textAgain economy properties := by
  cases properties with
  | nil => rfl
  | cons line rest =>
    have body : (industry.item (line :: rest) none).text = industry.itemText (line :: rest) "" :=
      text_item _ none
    rw [textAgain, if_neg (List.cons_ne_nil _ _), ← body]
    simp [Nml.economyBlock, Nml.economyParameter, Text.unlines, Nml.indent,
      Function.comp_def, String.append_assoc]

/-- The blocks for the economies are written one after the other. -/
theorem render_perEconomy {among : List Economy} {perEconomy : List (List Nml.Block)}
    (h : among.mapM industry.economyBlocks = .ok perEconomy) :
    ∃ again, List.Forall₂ (fun economy lines => industry.propertiesAgain economy = .ok lines)
        among again ∧
      Nml.render perEconomy.flatten =
        String.join (List.zipWith industry.textAgain among again) := by
  have each := mapM_eq_ok.1 h
  clear h
  induction each with
  | nil => exact ⟨[], .nil, rfl⟩
  | cons first _ ih =>
    obtain ⟨again, declared, text⟩ := ih
    obtain ⟨lines, own, rfl⟩ := economyBlocks_eq_ok first
    refine ⟨lines :: again, .cons own declared, ?_⟩
    rw [List.flatten_cons, Nml.render_append, text, text_inEconomy, List.zipWith_cons_cons,
      String.join_cons]

/-- What is written for an industry ends with the items of its own, whatever is declared. -/
theorem render_blocks (h : industry.blocks economies table = .ok blocks) :
    ∃ base again, industry.baseProperties = .ok base ∧
      List.Forall₂ (fun economy lines => industry.propertiesAgain economy = .ok lines)
        economies.toList again ∧
      ∃ front graphics, Nml.render blocks = front ++ industry.itemText base graphics ++
        String.join (List.zipWith industry.textAgain economies.toList again) := by
  obtain ⟨_, _, chain, fund, window, base, perEconomy, _, _, _, _, _, hbase, hperEconomy, rfl⟩ :=
    blocks_eq_ok h
  obtain ⟨again, declared, text⟩ := render_perEconomy hperEconomy
  refine ⟨base, again, hbase, declared, ?_⟩
  rw [Nml.render_append, Nml.render_cons, text, Nml.Block.text_item, text_item,
    ← String.append_assoc]
  exact ⟨_, _, rfl⟩

end Industry

end IndustrySet
