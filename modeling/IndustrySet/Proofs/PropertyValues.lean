import IndustrySet.Proofs.EconomyPlayback

set_option autoImplicit false

/-! # The lines of property blocks

A property block of an industry sets properties in a fixed order, each at most once
(`Industry.names_of_mem_propertyBlocks`). Scalars without a value are left out, and lists of cargos
stand in brackets even if they are empty. Only the layouts are taken from the base as they are
declared there, so that no line is without a value just if these are not the empty text
(`Industry.properLines_propertyBlocks_iff`). -/

namespace IndustrySet

namespace Nml

/-- The properties that a block sets, if it holds an item of a feature. -/
def Block.propertiesOf? (feature : String) : Block → Option (List Assignment)
  | .item i | .inEconomy _ i => if i.feature = feature then some i.properties else none
  | _ => none

/-- The property blocks of the items of a feature. -/
def propertyBlocks (feature : String) (blocks : List Block) : List (List Assignment) :=
  blocks.filterMap (Block.propertiesOf? feature)

/-- The lines of a property block all have values, and no property is set twice. -/
structure ProperLines (lines : List Assignment) : Prop where
  nodup : (lines.map (·.name)).Nodup
  valued : ∀ line ∈ lines, line.value.text ≠ ""

end Nml

/-- The properties that an industry can set, in the order of its lines. -/
def PropertyKey.written : List PropertyKey :=
  nmlScalars ++ [acceptCargoTypes, prodCargoTypes, layouts]

theorem PropertyKey.nodup_written : (written.map nmlName).Nodup := by
  decide +kernel

/-- Lines that some keys have are named in the order of the keys. -/
theorem names_filterMap {keys : List PropertyKey} {lineOf : PropertyKey → Option Nml.Assignment}
    (named : ∀ key line, lineOf key = some line → line.name = key.nmlName) :
    ((keys.filterMap lineOf).map (·.name)).Sublist (keys.map PropertyKey.nmlName) := by
  induction keys with
  | nil => exact .slnil
  | cons key keys ih =>
    rw [List.map_cons]
    cases found : lineOf key with
    | none =>
      rw [List.filterMap_cons_none found]
      exact ih.cons _
    | some line =>
      rw [List.filterMap_cons_some found, List.map_cons, named key line found]
      exact ih.cons_cons _

namespace Industry

variable {industry : Industry} {economies : Economies} {table : NumberTable}
  {blocks : List Nml.Block} {lines : List Nml.Assignment} {line : Nml.Assignment}

/-! ## The property blocks of an industry -/

theorem mem_propertyBlocks (h : industry.blocks economies table = .ok blocks)
    (mem : lines ∈ Nml.propertyBlocks Nml.featIndustries blocks) :
    industry.baseProperties = .ok lines ∨
      ∃ economy ∈ economies.toList, industry.propertiesAgain economy = .ok lines := by
  obtain ⟨block, mem, found⟩ := List.mem_filterMap.1 mem
  obtain ⟨graphics, tiles, chain, fund, window, base, perEconomy, hgraphics, htiles, _, _, _, hbase,
    hperEconomy, rfl⟩ := blocks_eq_ok h
  simp only [List.cons_append, List.append_assoc, List.mem_cons, List.mem_append] at mem
  rcases mem with rfl | mem | mem | mem | mem | mem | rfl | mem
  · cases found
  · rcases mem_graphicsBlocks hgraphics mem with ⟨_, _, _, rfl⟩ | ⟨_, rfl⟩ | ⟨_, _, rfl⟩ <;>
      cases found
  · obtain ⟨part, hpart, mem⟩ := List.mem_flatten.1 mem
    obtain ⟨tile, _, htile⟩ := exists_of_mem_mapM htiles hpart
    rcases Tile.mem_blocks htile mem with ⟨_, rfl⟩ | ⟨_, rfl⟩ | ⟨_, _, rfl⟩ |
      ⟨i, feature, rfl | ⟨n, rfl⟩⟩
    · cases found
    · cases found
    · cases found
    · rw [Nml.Block.propertiesOf?, feature, if_neg Nml.featIndustryTiles_ne] at found
      cases found
    · rw [Nml.Block.propertiesOf?, feature, if_neg Nml.featIndustryTiles_ne] at found
      cases found
  · obtain ⟨_, _, rfl⟩ := List.mem_map.1 mem
    cases found
  · obtain ⟨_, _, rfl⟩ := List.mem_map.1 mem
    cases found
  · obtain ⟨_, _, rfl⟩ := List.mem_map.1 mem
    cases found
  · cases found
    exact .inl hbase
  · obtain ⟨economy, heconomy, properties, hproperties, rfl⟩ := mem_perEconomy hperEconomy mem
    cases found
    exact .inr ⟨economy, heconomy, hproperties⟩

theorem baseProperties_mem_propertyBlocks (h : industry.blocks economies table = .ok blocks) :
    ∃ base, industry.baseProperties = .ok base ∧
      base ∈ Nml.propertyBlocks Nml.featIndustries blocks := by
  obtain ⟨graphics, tiles, chain, fund, window, base, perEconomy, _, _, _, _, _, hbase, _, rfl⟩ :=
    blocks_eq_ok h
  exact ⟨base, hbase,
    List.mem_filterMap.2 ⟨_, List.mem_append_right _ List.mem_cons_self, rfl⟩⟩

/-! ## Names -/

theorem names_baseProperties (h : industry.baseProperties = .ok lines) :
    (lines.map (·.name)).Sublist (PropertyKey.written.map PropertyKey.nmlName) := by
  cases baseProperties_eq.symm.trans h
  have layouts : (industry.layoutsDeclaration?.toList.map (·.name)).Sublist
      [PropertyKey.layouts.nmlName] := by
    cases declared : industry.layoutsDeclaration? with
    | none => exact List.nil_sublist _
    | some line =>
      rw [Option.toList_some, List.map_singleton, name_of_layoutsDeclaration declared]
  simp only [List.append_assoc, List.map_append, PropertyKey.written]
  exact (names_filterMap fun _ _ => name_of_lineFor).append ((List.Sublist.refl _).append layouts)

theorem names_ifChanged (line base : Nml.Assignment) :
    ((if line = base then [] else [line]).map (·.name)).Sublist [line.name] := by
  split
  · exact List.nil_sublist _
  · exact List.Sublist.refl _

theorem names_propertiesAgain {economy : Economy}
    (h : industry.propertiesAgain economy = .ok lines) :
    (lines.map (·.name)).Sublist (PropertyKey.written.map PropertyKey.nmlName) := by
  unfold propertiesAgain at h
  split at h
  · next enabled =>
    obtain ⟨variation, known⟩ := exists_variation_of_isEnabledIn enabled
    cases (economyProperties_eq known).symm.trans h
    have produced : [PropertyKey.prodCargoTypes.nmlName].Sublist
        [PropertyKey.prodCargoTypes.nmlName, PropertyKey.layouts.nmlName] :=
      List.sublist_append_left _ _
    simp only [List.append_assoc, List.map_append, PropertyKey.written]
    exact (names_filterMap name_of_overridingLine).append
      ((names_ifChanged _ _).append ((names_ifChanged _ _).trans produced))
  · cases h
    decide +kernel

/-- In a property block, properties stand in a fixed order, and none stands there twice. -/
theorem names_of_mem_propertyBlocks (h : industry.blocks economies table = .ok blocks)
    (mem : lines ∈ Nml.propertyBlocks Nml.featIndustries blocks) :
    (lines.map (·.name)).Sublist (PropertyKey.written.map PropertyKey.nmlName) := by
  rcases mem_propertyBlocks h mem with hbase | ⟨economy, _, hagain⟩
  · exact names_baseProperties hbase
  · exact names_propertiesAgain hagain

/-! ## Values -/

theorem layoutsDeclaration?_of_empty (h : industry.properties.get? .layouts = some (.text "")) :
    industry.layoutsDeclaration? = some ⟨"layouts", .raw ""⟩ := by
  rw [layoutsDeclaration?, h]
  rfl

/-- The line for the layouts has no value just if they are the empty text. -/
theorem text_of_layoutsDeclaration (h : industry.layoutsDeclaration? = some line) :
    line.value.text = "" ↔ industry.properties.get? .layouts = some (.text "") := by
  obtain ⟨layouts, declared, rfl⟩ := Option.map_eq_some_iff.1 h
  obtain ⟨value, found, isText⟩ := Option.bind_eq_some_iff.1 declared
  rw [found]
  cases value with
  | text expression =>
    cases isText
    by_cases auto : layouts = autoLayouts
    · have nonempty : autoLayouts ≠ "" := by decide
      simp [auto, nonempty, Nml.Value.text, Nml.bracketed_ne_empty]
    · simp [auto, Nml.Value.text]
  | _ => cases isText

theorem text_of_mem_baseProperties (h : industry.baseProperties = .ok lines) (mem : line ∈ lines) :
    line.value.text ≠ "" ∨ industry.layoutsDeclaration? = some line := by
  rcases mem_baseProperties h mem with (rfl | rfl) | layouts | ⟨_, _, _, valued⟩
  · exact .inl (Nml.bracketed_ne_empty _)
  · exact .inl (Nml.bracketed_ne_empty _)
  · exact .inr layouts
  · exact .inl valued

theorem text_of_mem_propertiesAgain {economy : Economy}
    (h : industry.propertiesAgain economy = .ok lines) (mem : line ∈ lines) :
    line.value.text ≠ "" := by
  rcases mem_propertiesAgain h mem with ⟨_, _, _, rfl | rfl⟩ | ⟨_, _, _, valued⟩
  · exact Nml.bracketed_ne_empty _
  · exact Nml.bracketed_ne_empty _
  · exact valued

/-- Only the line for the layouts can lack a value. -/
theorem eq_of_text_eq_empty (h : industry.blocks economies table = .ok blocks)
    (block : lines ∈ Nml.propertyBlocks Nml.featIndustries blocks) (mem : line ∈ lines)
    (empty : line.value.text = "") :
    industry.properties.get? .layouts = some (.text "") ∧ line = ⟨"layouts", .raw ""⟩ := by
  rcases mem_propertyBlocks h block with hbase | ⟨economy, _, hagain⟩
  · rcases text_of_mem_baseProperties hbase mem with valued | layouts
    · exact absurd empty valued
    · have unset := (text_of_layoutsDeclaration layouts).1 empty
      exact ⟨unset, Option.some.inj (layouts.symm.trans (layoutsDeclaration?_of_empty unset))⟩
  · exact absurd empty (text_of_mem_propertiesAgain hagain mem)

/-- Layouts that are the empty text are written all the same. -/
theorem exists_line_without_value (h : industry.blocks economies table = .ok blocks)
    (unset : industry.properties.get? .layouts = some (.text "")) :
    ∃ lines ∈ Nml.propertyBlocks Nml.featIndustries blocks, ⟨"layouts", .raw ""⟩ ∈ lines := by
  obtain ⟨base, hbase, block⟩ := baseProperties_mem_propertyBlocks h
  refine ⟨base, block, ?_⟩
  cases baseProperties_eq.symm.trans hbase
  exact List.mem_append_right _ (Option.mem_toList.2 (layoutsDeclaration?_of_empty unset))

/-- All lines of an industry have values, and none is set twice in a block, just if the base does
not set the layouts to the empty text. Whatever it sets, the lines of a block stand in a fixed
order, each property is set at most once, and only the layouts can lack a value. -/
theorem properLines_propertyBlocks_iff (h : industry.blocks economies table = .ok blocks) :
    ((∀ lines ∈ Nml.propertyBlocks Nml.featIndustries blocks, Nml.ProperLines lines) ↔
      industry.properties.get? .layouts ≠ some (.text "")) ∧
    ∀ lines ∈ Nml.propertyBlocks Nml.featIndustries blocks,
      (lines.map (·.name)).Sublist (PropertyKey.written.map PropertyKey.nmlName) ∧
      (lines.map (·.name)).Nodup ∧
      ∀ line ∈ lines, line.text = line.name ++ ": " ++ line.value.text ++ ";" ∧
        (line.value.text = "" → line = ⟨"layouts", .raw ""⟩) := by
  have nodup : ∀ lines ∈ Nml.propertyBlocks Nml.featIndustries blocks,
      (lines.map (·.name)).Nodup :=
    fun lines block => (names_of_mem_propertyBlocks h block).nodup PropertyKey.nodup_written
  refine ⟨⟨fun proper unset => ?_, fun set lines block => ?_⟩, fun lines block => ?_⟩
  · obtain ⟨lines, block, mem⟩ := exists_line_without_value h unset
    exact (proper lines block).valued _ mem rfl
  · exact ⟨nodup lines block, fun line mem empty => set (eq_of_text_eq_empty h block mem empty).1⟩
  · exact ⟨names_of_mem_propertyBlocks h block, nodup lines block, fun line mem =>
      ⟨rfl, fun empty => (eq_of_text_eq_empty h block mem empty).2⟩⟩

theorem properLines_propertyBlocks_brickWorks :
    ∃ blocks, brickWorks.blocks .standard (fun _ => none) = .ok blocks ∧
      ∀ lines ∈ Nml.propertyBlocks Nml.featIndustries blocks, Nml.ProperLines lines := by
  obtain ⟨blocks, rendered⟩ : ∃ blocks, brickWorks.blocks .standard (fun _ => none) = .ok blocks :=
    exists_of_isOk (by decide +kernel)
  exact ⟨blocks, rendered, (properLines_propertyBlocks_iff rendered).1.2 (by decide)⟩

/-- A stockyard whose layouts are the empty text. -/
def stockyard : Industry :=
  create "stockyard" 42 .tertiary (.ofList [(.layouts, .text "")])

/-- The stockyard is written with a line for the layouts that has no value. -/
theorem not_properLines_stockyard :
    ∃ blocks, stockyard.blocks .standard (fun _ => none) = .ok blocks ∧
      ∃ lines ∈ Nml.propertyBlocks Nml.featIndustries blocks,
        (∃ line ∈ lines, line.text = "layouts: ;") ∧ ¬Nml.ProperLines lines := by
  obtain ⟨blocks, rendered⟩ : ∃ blocks, stockyard.blocks .standard (fun _ => none) = .ok blocks :=
    exists_of_isOk (by decide +kernel)
  obtain ⟨lines, block, mem⟩ := exists_line_without_value rendered rfl
  exact ⟨blocks, rendered, lines, block, ⟨_, mem, rfl⟩, fun proper => proper.valued _ mem rfl⟩

end Industry

end IndustrySet
