import IndustrySet.Proofs.EconomyPlayback
import IndustrySet.Proofs.IndustryReferences

set_option autoImplicit false

/-! # What tiles accept

A tile and its industry are written apart, and each has its own blocks for the economies. They set
their accepted cargos again in the same economies and to the same labels (`acceptedAgain?`), so that
whatever the economy, a tile accepts just what its industry does (`Industry.accepted_blocks`). The
text declares these cargos for both. -/

namespace IndustrySet

namespace Industry

variable {industry : Industry} {economy : Economy} {blocks : List Nml.Block} {p : Nat}

/-! ## Cargos accepted instead of those of the base -/

/-- The labels of the cargos that an economy sets instead of those of the base; none if the industry
is not enabled there, or accepts the same as in the base. -/
def acceptedAgain? (industry : Industry) (economy : Economy) : Option (List String) :=
  let labels := industry.acceptedFor (industry.variations.get? economy.id)
  if industry.isEnabledIn economy.id = true ∧ labels ≠ industry.acceptedFor none then some labels
  else none

/-- The labels of the cargos that are set instead of those of the base when the economy parameter is
`p`. Of several economies of that number the last one counts. -/
def acceptedUnder? (industry : Industry) (p : Nat) : List Economy → Option (List String)
  | [] => none
  | economy :: rest =>
    (industry.acceptedUnder? p rest).or
      (if economy.numericId.toNat = p then industry.acceptedAgain? economy else none)

/-- The last of the lines read for some economies, if each economy sets a line again when it accepts
other cargos. -/
theorem lastLine?_acceptedUnder {name feature id : String} {line : List String → Nml.Assignment}
    {blocksFor : Economy → Except Error (List Nml.Block)}
    (each : ∀ economy blocks, blocksFor economy = .ok blocks →
      Nml.lastLine? name (Nml.linesRead feature id (some p) blocks) =
        if economy.numericId.toNat = p then (industry.acceptedAgain? economy).map line else none)
    {economies : List Economy} {perEconomy : List (List Nml.Block)}
    (h : economies.mapM blocksFor = .ok perEconomy) :
    Nml.lastLine? name (Nml.linesRead feature id (some p) perEconomy.flatten) =
      (industry.acceptedUnder? p economies).map line := by
  have parts := mapM_eq_ok.1 h
  clear h
  induction parts with
  | nil => rfl
  | cons head _ ih =>
    rw [List.flatten_cons, Nml.linesRead_append, Nml.lastLine?_append, ih, each _ _ head,
      acceptedUnder?, Option.map_or]
    split <;> rfl

/-! ## The industry -/

/-- The line of an industry for cargos with these labels. -/
def acceptedLine (labels : List String) : Nml.Assignment :=
  ⟨PropertyKey.acceptCargoTypes.nmlName, .cargos labels⟩

theorem text_acceptedLine (labels : List String) :
    (acceptedLine labels).text = "accept_cargo_types: [" ++
      ",".intercalate (labels.map fun label => "cargotype(\"" ++ label ++ "\")") ++ "];" := by
  have entries : (acceptedLine labels).value.text = Nml.bracketed (labels.map fun label =>
      "cargotype(\"" ++ label ++ "\")") := rfl
  rw [Nml.Assignment.text, entries, Nml.bracketed, ← String.toList_inj]
  simp [acceptedLine, PropertyKey.nmlName]

theorem lastLine?_economyBlocks (h : industry.economyBlocks economy = .ok blocks) :
    Nml.lastLine? PropertyKey.acceptCargoTypes.nmlName
        (Nml.linesRead Nml.featIndustries industry.id (some p) blocks) =
      if economy.numericId.toNat = p then (industry.acceptedAgain? economy).map acceptedLine
      else none := by
  obtain ⟨lines, hlines, hread⟩ := linesRead_economyBlocks h
  rw [hread]
  by_cases here : economy.numericId.toNat = p
  · rw [if_pos here, if_pos (congrArg some here.symm)]
    unfold propertiesAgain at hlines
    split at hlines
    · next enabled =>
      obtain ⟨variation, found⟩ := exists_get?_of_isEnabledIn enabled
      have differ : PropertyKey.prodCargoTypes ≠ PropertyKey.acceptCargoTypes := by decide
      cases (economyProperties_eq (variation_some found)).symm.trans hlines
      rw [Nml.lastLine?_append, Nml.lastLine?_append,
        lastLine?_ifChanged_of_ne (PropertyKey.nmlName_ne differ),
        lastLine?_filterMap_eq_none name_of_overridingLine (by decide), Option.none_or,
        Option.or_none]
      simp only [acceptedAgain?, found, enabled, acceptLine, Nml.Assignment.mk.injEq,
        Nml.Value.cargos.injEq, true_and]
      by_cases same : industry.acceptedFor (some variation) = industry.acceptedFor none
      · simp [same]
      · simp [same, Nml.lastLine?_singleton, acceptedLine]
    · next disabled =>
      cases hlines
      simp only [acceptedAgain?, disabled]
      rfl
  · rw [if_neg here, if_neg fun same => here (Option.some.inj same).symm, Nml.lastLine?_nil]

/-- What an industry accepts: the cargos of the base, unless others are set again. -/
theorem lineInEffect_accepted {economies : Economies} {table : NumberTable}
    (h : industry.blocks economies table = .ok blocks) (p : Nat) :
    Nml.lineInEffect Nml.featIndustries industry.id (some p) blocks
        PropertyKey.acceptCargoTypes.nmlName =
      some (acceptedLine
        ((industry.acceptedUnder? p economies.toList).getD (industry.acceptedFor none))) := by
  obtain ⟨base, perEconomy, hbase, hperEconomy, hread⟩ := linesRead_blocks h
  rw [Nml.lineInEffect, hread, Nml.lastLine?_append, (lastLine?_base_cargos hbase).1,
    lastLine?_acceptedUnder (fun _ _ => lastLine?_economyBlocks) hperEconomy]
  cases industry.acceptedUnder? p economies.toList <;> rfl

end Industry

/-! ## Its tiles -/

namespace Tile

variable {tile : Tile} {industry : Industry} {economy : Economy} {blocks : List Nml.Block} {p : Nat}

theorem lastLine?_economyBlocks
    (h : tile.economyBlocks industry (industry.acceptedFor none) economy = .ok blocks) :
    Nml.lastLine? "accepted_cargos" (Nml.linesRead Nml.featIndustryTiles tile.id (some p) blocks) =
      if economy.numericId.toNat = p then (industry.acceptedAgain? economy).map acceptedCargos
      else none := by
  unfold economyBlocks at h
  split at h
  · next enabled =>
    obtain ⟨variation, found⟩ := Industry.exists_get?_of_isEnabledIn enabled
    rw [Industry.acceptedCargos_eq (Industry.variation_some found)] at h
    rw [← pure_eq_ok.1 h]
    simp only [Industry.acceptedAgain?, found, enabled, true_and]
    by_cases same : industry.acceptedFor (some variation) = industry.acceptedFor none
    · simp [same]
    · by_cases here : economy.numericId.toNat = p
      · simp [same, here, Nml.Block.linesRead, item, Nml.lastLine?_singleton, acceptedCargos]
      · simp [same, here, Ne.symm here, Nml.Block.linesRead]
  · next disabled =>
    cases h
    simp [Industry.acceptedAgain?, disabled]

theorem noColon_properties {labels : List String} :
    ∀ line ∈ tile.properties labels, ':' ∉ line.name.toList := by
  have names : (tile.properties labels).map (·.name) = ["substitute", "land_shape_flags",
      "accepted_cargos", "animation_info", "animation_speed", "animation_triggers",
      "special_flags"] := rfl
  have noColon : ∀ name ∈ (tile.properties labels).map (·.name), ':' ∉ name.toList := by
    rw [names]
    decide
  exact fun line mem => noColon line.name (List.mem_map_of_mem mem)

theorem text_acceptedCargos (labels : List String) :
    (acceptedCargos labels).text = "accepted_cargos: [" ++ ",".intercalate (labels.map fun label =>
      "[cargotype(\"" ++ label ++ "\"), 8]") ++ "];" := by
  have entry (label : String) :
      Nml.acceptanceEntry label tileAcceptance = "[cargotype(\"" ++ label ++ "\"), 8]" := by
    have eight : toString tileAcceptance = "8" := by decide
    rw [Nml.acceptanceEntry, Nml.cargoType, eight, ← String.toList_inj]
    simp
  have entries : (acceptedCargos labels).value.text = Nml.bracketed (labels.map fun label =>
      "[cargotype(\"" ++ label ++ "\"), 8]") := by
    simp only [acceptedCargos, acceptance, Nml.Value.text, List.map_map, Function.comp_def, entry]
  rw [Nml.Assignment.text, entries, Nml.bracketed, ← String.toList_inj]
  simp [acceptedCargos]

/-- A tile sets its own properties and, for the economies, its accepted cargos again, and nothing of
other tiles. -/
theorem linesRead_tileBlocks {economies : Economies}
    (h : tile.blocks industry economies = .ok blocks) :
    ∃ perEconomy, economies.toList.mapM (tile.economyBlocks industry (industry.acceptedFor none)) =
        .ok perEconomy ∧ ∀ id parameter, Nml.linesRead Nml.featIndustryTiles id parameter blocks =
          if tile.id = id then tile.properties (industry.acceptedFor none) ++
            Nml.linesRead Nml.featIndustryTiles id parameter perEconomy.flatten
          else [] := by
  obtain ⟨base, perEconomy, hbase, hperEconomy, rfl⟩ := blocks_eq_ok h
  cases (Industry.acceptedCargos_eq industry.variation_none).symm.trans hbase
  refine ⟨perEconomy, hperEconomy, fun id parameter => ?_⟩
  have location : ∀ s : LocationSwitch,
      (Nml.Block.locationSwitch s).linesRead Nml.featIndustryTiles id parameter = [] := fun _ => rfl
  have others : tile.id ≠ id →
      Nml.linesRead Nml.featIndustryTiles id parameter perEconomy.flatten = [] := by
    intro other
    refine Nml.linesRead_eq_nil fun block mem => ?_
    obtain ⟨economy, _, _, labels, _, rfl⟩ := mem_perEconomy hperEconomy mem
    simp [Nml.Block.linesRead, item, other]
  by_cases own : tile.id = id
  · simp [Nml.linesRead_map _ location, linesRead_animationBlocks, Nml.Block.linesRead, item, own]
  · simp [Nml.linesRead_map _ location, linesRead_animationBlocks, Nml.Block.linesRead, item, own,
      others own]

/-- What a tile accepts: the cargos of the base, unless others are set again. -/
theorem lineInEffect_accepted {economies : Economies}
    (h : tile.blocks industry economies = .ok blocks) (p : Nat) :
    Nml.lineInEffect Nml.featIndustryTiles tile.id (some p) blocks "accepted_cargos" =
      some (acceptedCargos
        ((industry.acceptedUnder? p economies.toList).getD (industry.acceptedFor none))) := by
  obtain ⟨perEconomy, hperEconomy, hread⟩ := linesRead_tileBlocks h
  have base : Nml.lastLine? "accepted_cargos" (tile.properties (industry.acceptedFor none)) =
      some (acceptedCargos (industry.acceptedFor none)) := rfl
  rw [Nml.lineInEffect, hread, if_pos rfl, Nml.lastLine?_append, base,
    Industry.lastLine?_acceptedUnder (fun _ _ => lastLine?_economyBlocks) hperEconomy]
  cases industry.acceptedUnder? p economies.toList <;> rfl

end Tile

/-! ## Together -/

namespace Industry

variable {industry : Industry} {economies : Economies} {table : NumberTable}
  {blocks : List Nml.Block}

/-- Tiles of one id, if there are several, all accept the same. -/
theorem lastLine?_tiles {tiles : List Tile} {parts : List (List Nml.Block)}
    (h : (tiles.mapM fun tile => tile.blocks industry economies) = .ok parts) (id : String)
    (p : Nat) :
    Nml.lastLine? "accepted_cargos"
        (Nml.linesRead Nml.featIndustryTiles id (some p) parts.flatten) =
      if ∃ tile ∈ tiles, tile.id = id then
        some (Tile.acceptedCargos
          ((industry.acceptedUnder? p economies.toList).getD (industry.acceptedFor none)))
      else none := by
  have sections := mapM_eq_ok.1 h
  clear h
  induction sections with
  | nil => simp
  | @cons tile part tiles parts head _ ih =>
    rw [List.flatten_cons, Nml.linesRead_append, Nml.lastLine?_append, ih]
    by_cases own : tile.id = id
    · have accepts := Tile.lineInEffect_accepted head p
      have there : ∃ other ∈ tile :: tiles, other.id = id := ⟨tile, List.mem_cons_self, own⟩
      rw [own, Nml.lineInEffect] at accepts
      rw [accepts, if_pos there]
      split <;> rfl
    · obtain ⟨_, _, hread⟩ := Tile.linesRead_tileBlocks head
      rw [hread, if_neg own]
      simp [own]

/-- Nothing but its tiles sets properties of tiles. -/
theorem linesRead_tiles (h : industry.blocks economies table = .ok blocks) :
    ∃ tiles, (industry.tiles.mapM fun tile => tile.blocks industry economies) = .ok tiles ∧
      ∀ id parameter, Nml.linesRead Nml.featIndustryTiles id parameter blocks =
        Nml.linesRead Nml.featIndustryTiles id parameter tiles.flatten := by
  obtain ⟨graphics, tiles, chain, fund, window, base, perEconomy, hgraphics, htiles, _, _, _, _,
    hperEconomy, rfl⟩ := blocks_eq_ok h
  refine ⟨tiles, htiles, fun id parameter => ?_⟩
  have again : Nml.linesRead Nml.featIndustryTiles id parameter perEconomy.flatten = [] := by
    refine Nml.linesRead_eq_nil fun block mem => ?_
    obtain ⟨economy, _, properties, _, rfl⟩ := mem_perEconomy hperEconomy mem
    simp [Nml.Block.linesRead, item, Nml.featIndustryTiles_ne.symm]
  simp [linesRead_graphicsBlocks hgraphics, again, Nml.linesRead_map tilelayout (fun _ => rfl),
    Nml.linesRead_map Nml.Block.locationSwitch (fun _ => rfl),
    Nml.linesRead_map Nml.Block.switch (fun _ => rfl), Nml.Block.linesRead, item,
    Nml.featIndustryTiles_ne.symm]

/-- What an industry sets for its tiles are properties, whose names have no colon in them. -/
theorem noColon_linesRead_tile (h : industry.blocks economies table = .ok blocks) {id : String}
    {parameter : Option Nat} :
    ∀ line ∈ Nml.linesRead Nml.featIndustryTiles id parameter blocks, ':' ∉ line.name.toList := by
  intro line mem
  rw [Nml.linesRead_eq] at mem
  obtain ⟨i, read, mem⟩ := List.mem_flatMap.1 mem
  obtain ⟨block, written, holds, feature, _⟩ := Nml.mem_itemsRead read
  rcases item_of_mem_blocks h written holds with
    ⟨_, _, _, _, _, rfl, among⟩ | ⟨_, _, rfl, _⟩
  · exact Tile.noColon_properties line (among mem)
  · exact absurd feature Nml.featIndustryTiles_ne.symm

/-- Where no declaration has a line feed in it, and tiles are told apart by their ids, the text for
an industry tells which declarations are in effect for a tile. -/
theorem declarationInEffect?_tile (h : industry.blocks economies table = .ok blocks)
    (unbroken : ∀ block ∈ blocks, block.Unbroken)
    (plain : ∀ tile ∈ industry.tiles, Nml.Plain tile.id) {tile : Tile}
    (mem : tile ∈ industry.tiles) (parameter : Option Nat) (name : String) :
    Nml.declarationInEffect? Nml.featIndustryTiles tile.id parameter (Nml.render blocks) name =
      (Nml.lineInEffect Nml.featIndustryTiles tile.id parameter blocks name).map fun line =>
        line.name ++ ": " ++ line.value.text ++ ";" :=
  Nml.declarationInEffect?_render unbroken
    (fun _ written _ holds => beginsItem_tile_iff_of_mem_blocks h plain mem written holds)
    (noColon_linesRead_tile h) name

/-- Whatever the value of the economy parameter, a tile accepts the cargos that its industry
accepts, in the same order, and each with acceptance 8: by what is written for the tile, and by what
is written for the whole industry. Where no declaration goes over several lines, this is what the
text says; for a tile, if the ids of the tiles are told apart in it. -/
theorem accepted_blocks {tile : Tile} (mem : tile ∈ industry.tiles) (economies : Economies)
    (p : Nat) :
    ∃ tileBlocks labels, tile.blocks industry economies = .ok tileBlocks ∧
      Nml.lineInEffect Nml.featIndustryTiles tile.id (some p) tileBlocks "accepted_cargos" =
        some ⟨"accepted_cargos", .acceptance (labels.map fun label => (label, 8))⟩ ∧
      ∀ table blocks, industry.blocks economies table = .ok blocks →
        Nml.lineInEffect Nml.featIndustryTiles tile.id (some p) blocks "accepted_cargos" =
          some ⟨"accepted_cargos", .acceptance (labels.map fun label => (label, 8))⟩ ∧
        Nml.lineInEffect Nml.featIndustries industry.id (some p) blocks "accept_cargo_types" =
          some ⟨"accept_cargo_types", .cargos labels⟩ ∧
        ((∀ block ∈ blocks, block.Unbroken) →
          Nml.declarationInEffect? Nml.featIndustries industry.id (some p) (Nml.render blocks)
              "accept_cargo_types" =
            some ("accept_cargo_types: [" ++ ",".intercalate (labels.map fun label =>
              "cargotype(\"" ++ label ++ "\")") ++ "];") ∧
          ((∀ other ∈ industry.tiles, Nml.Plain other.id) →
            Nml.declarationInEffect? Nml.featIndustryTiles tile.id (some p) (Nml.render blocks)
                "accepted_cargos" =
              some ("accepted_cargos: [" ++ ",".intercalate (labels.map fun label =>
                "[cargotype(\"" ++ label ++ "\"), 8]") ++ "];"))) := by
  obtain ⟨tileBlocks, written⟩ := industry.exists_tileBlocks tile economies
  refine ⟨tileBlocks, _, written, Tile.lineInEffect_accepted written p, ?_⟩
  intro table blocks rendered
  obtain ⟨tiles, htiles, hread⟩ := linesRead_tiles rendered
  have ofTile : Nml.lineInEffect Nml.featIndustryTiles tile.id (some p) blocks "accepted_cargos" =
      some (Tile.acceptedCargos
        ((industry.acceptedUnder? p economies.toList).getD (industry.acceptedFor none))) := by
    rw [Nml.lineInEffect, hread, lastLine?_tiles htiles, if_pos ⟨tile, mem, rfl⟩]
  have ofIndustry : Nml.lineInEffect Nml.featIndustries industry.id (some p) blocks
      "accept_cargo_types" = some (acceptedLine
        ((industry.acceptedUnder? p economies.toList).getD (industry.acceptedFor none))) :=
    lineInEffect_accepted rendered p
  refine ⟨ofTile, ofIndustry, fun unbroken => ⟨?_, fun plain => ?_⟩⟩
  · refine (declarationInEffect?_blocks rendered unbroken _ _).trans ?_
    rw [ofIndustry]
    exact congrArg some (text_acceptedLine _)
  · refine (declarationInEffect?_tile rendered unbroken plain mem _ _).trans ?_
    rw [ofTile]
    exact congrArg some (Tile.text_acceptedCargos _)

/-- The tile of a brick works. -/
def kiln : Tile := { id := "kiln" }

/-- The brick works with a kiln. -/
def kilnWorks : Industry := { brickWorks with tiles := [kiln] }

theorem accepted_kiln :
    kiln ∈ kilnWorks.tiles ∧ ∃ blocks, kilnWorks.blocks .standard (fun _ => none) = .ok blocks ∧
      Nml.lineInEffect Nml.featIndustries "brick_works" (some 3) blocks "accept_cargo_types" =
        some ⟨"accept_cargo_types", .cargos ["CLAY", "COAL"]⟩ ∧
      Nml.lineInEffect Nml.featIndustryTiles "kiln" (some 3) blocks "accepted_cargos" =
        some ⟨"accepted_cargos", .acceptance [("CLAY", 8), ("COAL", 8)]⟩ ∧
      Nml.declarationInEffect? Nml.featIndustryTiles "kiln" (some 3) (Nml.render blocks)
          "accepted_cargos" =
        some "accepted_cargos: [[cargotype(\"CLAY\"), 8],[cargotype(\"COAL\"), 8]];" := by
  have mem : kiln ∈ kilnWorks.tiles := List.mem_singleton_self kiln
  have plain : ∀ other ∈ kilnWorks.tiles, Nml.Plain other.id := by decide
  obtain ⟨blocks, rendered, evaluated, unbroken⟩ : ∃ blocks,
      kilnWorks.blocks .standard (fun _ => none) = .ok blocks ∧
        Nml.lineInEffect Nml.featIndustries "brick_works" (some 3) blocks "accept_cargo_types" =
            some ⟨"accept_cargo_types", .cargos ["CLAY", "COAL"]⟩ ∧
          ∀ block ∈ blocks, block.Unbroken :=
    exists_of_any (by decide +kernel)
  obtain ⟨_, labels, _, _, together⟩ := accepted_blocks mem .standard 3
  obtain ⟨ofTile, ofIndustry, read⟩ := together _ blocks rendered
  cases ofIndustry.symm.trans evaluated
  obtain ⟨_, written⟩ := read unbroken
  exact ⟨mem, blocks, rendered, ofIndustry, ofTile, (written plain).trans (by decide +kernel)⟩

end Industry

end IndustrySet
