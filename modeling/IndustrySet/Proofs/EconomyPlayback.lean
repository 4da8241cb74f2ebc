import IndustrySet.Proofs.IndustryItems
import IndustrySet.Proofs.PropertyLookup

set_option autoImplicit false

/-! # The properties of an industry in each economy

The block for an economy holds a difference: the scalars that the economy overrides, the lists of
cargos that differ from those of the base, or the two probabilities of an industry that is not
enabled there. Read after the base properties, as the game does, it gives back what looking up each
property for that economy gives (`lineInEffect_blocks`), and so does the text, read line by line. -/

namespace IndustrySet

/-! ## Lines made of keys -/

section

variable {keys : List PropertyKey} {lineOf : PropertyKey → Option Nml.Assignment}

/-- Of lines that are named after their keys, the last one for a key is the key's. -/
theorem lastLine?_filterMap
    (named : ∀ key line, lineOf key = some line → line.name = key.nmlName) {key : PropertyKey}
    (mem : key ∈ keys) : Nml.lastLine? key.nmlName (keys.filterMap lineOf) = lineOf key := by
  -- Keys have different names, so only the line of the key itself counts for it.
  have same : ∀ line ∈ keys.filterMap lineOf, line.name = key.nmlName → lineOf key = some line := by
    intro line hline hname
    obtain ⟨other, _, hother⟩ := List.mem_filterMap.1 hline
    have : other = key := PropertyKey.nmlName_injective ((named other line hother).symm.trans hname)
    exact this ▸ hother
  cases found : lineOf key with
  | none =>
    refine Nml.lastLine?_eq_none fun line hline hname => ?_
    simp [same line hline hname] at found
  | some line =>
    refine Nml.lastLine?_eq_some (List.mem_filterMap.2 ⟨key, mem, found⟩) (named key line found) ?_
    intro other hother hname
    exact Option.some.inj ((same other hother hname).symm.trans found)

theorem lastLine?_filterMap_eq_none
    (named : ∀ key line, lineOf key = some line → line.name = key.nmlName) {key : PropertyKey}
    (notMem : key ∉ keys) : Nml.lastLine? key.nmlName (keys.filterMap lineOf) = none := by
  refine Nml.lastLine?_eq_none fun line hline hname => notMem ?_
  obtain ⟨other, hmem, hother⟩ := List.mem_filterMap.1 hline
  exact PropertyKey.nmlName_injective ((named other line hother).symm.trans hname) ▸ hmem

/-- The lines that some keys have. -/
theorem reduceOption_map_keys :
    (keys.map lineOf).reduceOption = keys.filterMap lineOf := by
  show List.filterMap id (keys.map lineOf) = keys.filterMap lineOf
  rw [List.filterMap_map, Function.id_comp]

end

/-! ## What is read -/

theorem Tile.linesRead_animationBlocks {tile : Tile} {industry : Industry} (feature id : String)
    (parameter : Option Nat) :
    Nml.linesRead feature id parameter (tile.animationBlocks industry) = [] := by
  refine Nml.linesRead_eq_nil fun block mem => ?_
  obtain ⟨_, rfl⟩ := mem_animationBlocks mem
  rfl

/-- A tile is no industry: nothing written for a tile sets a property of an industry. -/
theorem Tile.linesRead_blocks {tile : Tile} {industry : Industry} {economies : Economies}
    {blocks : List Nml.Block} (h : tile.blocks industry economies = .ok blocks) (id : String)
    (parameter : Option Nat) : Nml.linesRead Nml.featIndustries id parameter blocks = [] := by
  obtain ⟨base, perEconomy, _, setAgain, rfl⟩ := Tile.blocks_eq_ok h
  have location : ∀ s : LocationSwitch,
      (Nml.Block.locationSwitch s).linesRead Nml.featIndustries id parameter = [] := fun _ => rfl
  have again : Nml.linesRead Nml.featIndustries id parameter perEconomy.flatten = [] := by
    refine Nml.linesRead_eq_nil fun block mem => ?_
    obtain ⟨economy, _, _, labels, _, rfl⟩ := mem_perEconomy setAgain mem
    simp [Nml.Block.linesRead, item, Nml.featIndustryTiles_ne]
  simp [Nml.linesRead_map _ location, linesRead_animationBlocks, again, Nml.Block.linesRead, item,
    Nml.featIndustryTiles_ne]

namespace Industry

variable {industry : Industry}

theorem linesRead_graphicsBlocks {blocks : List Nml.Block}
    (h : industry.graphicsBlocks = .ok blocks) (feature id : String) (parameter : Option Nat) :
    Nml.linesRead feature id parameter blocks = [] := by
  refine Nml.linesRead_eq_nil fun block hblock => ?_
  rcases mem_graphicsBlocks h hblock with ⟨_, _, _, rfl⟩ | ⟨_, rfl⟩ | ⟨_, _, rfl⟩ <;> rfl

/-- The block for an economy is read in that economy, and holds what is set again there. -/
theorem linesRead_economyBlocks {economy : Economy} {blocks : List Nml.Block}
    (h : industry.economyBlocks economy = .ok blocks) :
    ∃ lines, industry.propertiesAgain economy = .ok lines ∧ ∀ parameter : Option Nat,
      Nml.linesRead Nml.featIndustries industry.id parameter blocks =
        if parameter = some economy.numericId.toNat then lines else [] := by
  obtain ⟨lines, hlines, rfl⟩ := economyBlocks_eq_ok h
  refine ⟨lines, hlines, fun parameter => ?_⟩
  cases lines with
  | nil => simp
  | cons line rest =>
    simp [Nml.Block.linesRead, item]

section

variable {economies : List Economy} {perEconomy : List (List Nml.Block)}

theorem linesRead_perEconomy_of_not_mem {parameter : Option Nat}
    (h : economies.mapM industry.economyBlocks = .ok perEconomy)
    (absent : ∀ economy ∈ economies, parameter ≠ some economy.numericId.toNat) :
    Nml.linesRead Nml.featIndustries industry.id parameter perEconomy.flatten = [] := by
  refine Nml.linesRead_eq_nil fun block hblock => ?_
  obtain ⟨part, hpart, hblock⟩ := List.mem_flatten.1 hblock
  obtain ⟨economy, heconomy, hpart⟩ := exists_of_mem_mapM h hpart
  obtain ⟨lines, _, hread⟩ := linesRead_economyBlocks hpart
  have nothing := hread parameter
  rw [if_neg (absent economy heconomy)] at nothing
  exact List.flatMap_eq_nil_iff.1 nothing block hblock

/-- Where numeric ids are distinct, only the block of the economy itself is read in an economy. -/
theorem linesRead_perEconomy_of_mem (h : economies.mapM industry.economyBlocks = .ok perEconomy)
    (distinct : (economies.map (·.numericId)).Nodup) {economy : Economy}
    (mem : economy ∈ economies) :
    ∃ lines, industry.propertiesAgain economy = .ok lines ∧
      Nml.linesRead Nml.featIndustries industry.id (some economy.numericId.toNat)
        perEconomy.flatten = lines := by
  induction economies generalizing perEconomy with
  | nil => simp at mem
  | cons first rest ih =>
    rw [List.mapM_cons] at h
    obtain ⟨blocks, hblocks, h⟩ := bind_eq_ok.1 h
    obtain ⟨more, hmore, h⟩ := bind_eq_ok.1 h
    obtain ⟨lines, hlines, hread⟩ := linesRead_economyBlocks hblocks
    obtain ⟨new, distinctRest⟩ := List.nodup_cons.1 distinct
    rw [← pure_eq_ok.1 h, List.flatten_cons, Nml.linesRead_append, hread]
    -- Either the first block is read and no later one, or the first one is not.
    rcases List.mem_cons.1 mem with rfl | mem
    · refine ⟨lines, hlines, ?_⟩
      have others : ∀ other ∈ rest, some economy.numericId.toNat ≠ some other.numericId.toNat := by
        intro other hother same
        have : economy.numericId = other.numericId := UInt8.toNat_inj.1 (Option.some.inj same)
        exact new (List.mem_map.2 ⟨other, hother, this.symm⟩)
      simp [linesRead_perEconomy_of_not_mem hmore others]
    · obtain ⟨lines, hlines, hrest⟩ := ih hmore distinctRest mem
      refine ⟨lines, hlines, ?_⟩
      have other : economy.numericId.toNat ≠ first.numericId.toNat := by
        intro same
        have : economy.numericId = first.numericId := UInt8.toNat_inj.1 same
        exact new (List.mem_map.2 ⟨economy, mem, this⟩)
      simp [other, hrest]

end

/-- What the game reads for an industry: the base properties, then what is set again. -/
theorem linesRead_blocks {economies : Economies} {table : NumberTable} {blocks : List Nml.Block}
    (h : industry.blocks economies table = .ok blocks) :
    ∃ base perEconomy, industry.baseProperties = .ok base ∧
      economies.toList.mapM industry.economyBlocks = .ok perEconomy ∧ ∀ parameter : Option Nat,
        Nml.linesRead Nml.featIndustries industry.id parameter blocks =
          base ++ Nml.linesRead Nml.featIndustries industry.id parameter perEconomy.flatten := by
  obtain ⟨graphics, tiles, chain, fund, window, base, perEconomy, hgraphics, htiles, _, _, _, hbase,
    hperEconomy, rfl⟩ := blocks_eq_ok h
  refine ⟨base, perEconomy, hbase, hperEconomy, fun parameter => ?_⟩
  have noTile : Nml.linesRead Nml.featIndustries industry.id parameter tiles.flatten = [] := by
    refine Nml.linesRead_eq_nil fun block hblock => ?_
    obtain ⟨part, hpart, hblock⟩ := List.mem_flatten.1 hblock
    obtain ⟨tile, _, htile⟩ := exists_of_mem_mapM htiles hpart
    exact List.flatMap_eq_nil_iff.1 (tile.linesRead_blocks htile industry.id parameter) block hblock
  simp [linesRead_graphicsBlocks hgraphics, noTile, Nml.linesRead_map tilelayout (fun _ => rfl),
    Nml.linesRead_map Nml.Block.locationSwitch (fun _ => rfl),
    Nml.linesRead_map Nml.Block.switch (fun _ => rfl), Nml.Block.linesRead, item]

/-! ## The lines of the base and of an economy -/

theorem name_of_layoutsDeclaration {line : Nml.Assignment}
    (h : industry.layoutsDeclaration? = some line) : line.name = PropertyKey.layouts.nmlName := by
  obtain ⟨layouts, _, rfl⟩ := Option.map_eq_some_iff.1 h
  rfl

/-- The line for the accepted cargos, for a variation or for the base. -/
def acceptLine (industry : Industry) (variation : Option EconomyVariation) : Nml.Assignment :=
  ⟨PropertyKey.acceptCargoTypes.nmlName, .cargos (industry.acceptedFor variation)⟩

/-- The line for the produced cargos, for a variation or for the base. -/
def prodLine (industry : Industry) (variation : Option EconomyVariation) : Nml.Assignment :=
  ⟨PropertyKey.prodCargoTypes.nmlName, .cargos (industry.labelsFor variation .prodCargoTypes)⟩

/-- The line for a property that a variation overrides. -/
def overridingLine (industry : Industry) (variation : EconomyVariation) (key : PropertyKey) :
    Option Nml.Assignment :=
  if variation.properties.contains key then industry.lineFor (some variation) key else none

theorem name_of_overridingLine {variation : EconomyVariation} (key : PropertyKey)
    (line : Nml.Assignment) (h : industry.overridingLine variation key = some line) :
    line.name = key.nmlName := by
  unfold overridingLine at h
  split at h
  · exact name_of_lineFor h
  · cases h

theorem text_of_overridingLine {variation : EconomyVariation} {key : PropertyKey}
    {line : Nml.Assignment} (h : industry.overridingLine variation key = some line) :
    line.value.text ≠ "" := by
  unfold overridingLine at h
  split at h
  · exact text_of_lineFor h
  · cases h

theorem baseProperties_eq : industry.baseProperties = .ok
    (PropertyKey.nmlScalars.filterMap (industry.lineFor none) ++
      [industry.acceptLine none, industry.prodLine none] ++
      industry.layoutsDeclaration?.toList) := by
  have scalars := mapM_eq_map (declaration?_eq industry.variation_none) PropertyKey.nmlScalars
  simp only [baseProperties, scalarLines, scalars, acceptDeclaration_eq industry.variation_none,
    prodDeclaration_eq industry.variation_none]
  simp [bind, Except.bind, pure, Except.pure, reduceOption_map_keys, acceptLine, prodLine]

theorem economyProperties_eq {economy : EconomyId} {variation : EconomyVariation}
    (h : industry.variation (some economy) = .ok (some variation)) :
    industry.economyProperties economy = .ok
      (PropertyKey.nmlScalars.filterMap (industry.overridingLine variation) ++
        (if industry.acceptLine (some variation) = industry.acceptLine none then []
          else [industry.acceptLine (some variation)]) ++
        if industry.prodLine (some variation) = industry.prodLine none then []
          else [industry.prodLine (some variation)]) := by
  have line : ∀ key, industry.overrideLine economy key =
      .ok (industry.overridingLine variation key) := by
    intro key
    simp only [overrideLine, overrides_eq h, declaration?_eq h, overridingLine]
    cases variation.properties.contains key <;> rfl
  simp only [economyProperties, mapM_eq_map line, acceptDeclaration_eq h,
    acceptDeclaration_eq industry.variation_none, prodDeclaration_eq h,
    prodDeclaration_eq industry.variation_none]
  simp [bind, Except.bind, pure, Except.pure, reduceOption_map_keys, acceptLine, prodLine]

section

variable {lines : List Nml.Assignment} {line : Nml.Assignment}

/-- A line of the base is one of those for the cargos, that for the layouts, or one for a scalar
that has a value. -/
theorem mem_baseProperties (h : industry.baseProperties = .ok lines) (mem : line ∈ lines) :
    (line = industry.acceptLine none ∨ line = industry.prodLine none) ∨
      industry.layoutsDeclaration? = some line ∨
      ∃ key ∈ PropertyKey.nmlScalars, line.name = key.nmlName ∧ line.value.text ≠ "" := by
  cases baseProperties_eq.symm.trans h
  simp only [List.mem_append, List.mem_cons, List.not_mem_nil, or_false] at mem
  rcases mem with (scalar | cargos) | layouts
  · obtain ⟨key, hkey, hline⟩ := List.mem_filterMap.1 scalar
    exact .inr (.inr ⟨key, hkey, name_of_lineFor hline, text_of_lineFor hline⟩)
  · exact .inl cargos
  · exact .inr (.inl (Option.mem_toList.1 layouts))

/-- A line that is set again for an economy is one of those for the cargos there, if the industry is
enabled in it, or a line for a scalar that has a value. -/
theorem mem_propertiesAgain {economy : Economy} (h : industry.propertiesAgain economy = .ok lines)
    (mem : line ∈ lines) :
    (industry.isEnabledIn economy.id = true ∧ ∃ variation,
        industry.variation (some economy.id) = .ok (some variation) ∧
        (line = industry.acceptLine (some variation) ∨
          line = industry.prodLine (some variation))) ∨
      ∃ key ∈ PropertyKey.nmlScalars, line.name = key.nmlName ∧ line.value.text ≠ "" := by
  unfold propertiesAgain at h
  split at h
  · next enabled =>
    obtain ⟨variation, known⟩ := exists_variation_of_isEnabledIn enabled
    cases (economyProperties_eq known).symm.trans h
    simp only [List.mem_append, List.mem_ite_nil_left, List.mem_singleton] at mem
    rcases mem with (scalar | ⟨_, accept⟩) | ⟨_, prod⟩
    · obtain ⟨key, hkey, hline⟩ := List.mem_filterMap.1 scalar
      exact .inr ⟨key, hkey, name_of_overridingLine key line hline, text_of_overridingLine hline⟩
    · exact .inl ⟨enabled, variation, known, .inl accept⟩
    · exact .inl ⟨enabled, variation, known, .inr prod⟩
  · cases h
    simp only [neverGenerated, List.mem_cons, List.not_mem_nil, or_false] at mem
    rcases mem with rfl | rfl
    · exact .inr ⟨.probInGame, by decide, rfl, by decide⟩
    · exact .inr ⟨.probRandom, by decide, rfl, by decide⟩

end

/-! ## The lines in effect -/

/-- The properties with lines of their own are no scalars. -/
theorem ne_of_mem_nmlScalars : ∀ key ∈ PropertyKey.nmlScalars,
    PropertyKey.acceptCargoTypes ≠ key ∧ PropertyKey.prodCargoTypes ≠ key ∧
      PropertyKey.layouts ≠ key := by
  decide

theorem lastLine?_layoutsDeclaration {key : PropertyKey} (ne : PropertyKey.layouts ≠ key) :
    Nml.lastLine? key.nmlName industry.layoutsDeclaration?.toList = none := by
  refine Nml.lastLine?_eq_none fun line hline => ?_
  rw [name_of_layoutsDeclaration (Option.mem_toList.1 hline)]
  exact PropertyKey.nmlName_ne ne

section

variable {name : String} {line base : Nml.Assignment}

/-- A line that is only set again if it differs is no line for another property. -/
theorem lastLine?_ifChanged_of_ne (other : line.name ≠ name) :
    Nml.lastLine? name (if line = base then [] else [line]) = none := by
  split
  · rfl
  · rw [Nml.lastLine?_singleton, if_neg other]

/-- A line that is only set again if it differs is in effect over the one it differs from. -/
theorem lastLine?_ifChanged (named : line.name = name) :
    (Nml.lastLine? name (if line = base then [] else [line])).or (some base) = some line := by
  split
  · next same => rw [same, Nml.lastLine?_nil, Option.none_or]
  · rw [Nml.lastLine?_singleton, if_pos named, Option.some_or]

end

section

variable {base lines : List Nml.Assignment} {economy : EconomyId} {variation : EconomyVariation}

/-- The line of the base for a scalar is the one looked up for the base. -/
theorem lastLine?_base_scalar (h : industry.baseProperties = .ok base) {key : PropertyKey}
    (mem : key ∈ PropertyKey.nmlScalars) :
    Nml.lastLine? key.nmlName base = industry.lineFor none key := by
  obtain ⟨notAccept, notProd, notLayouts⟩ := ne_of_mem_nmlScalars key mem
  cases baseProperties_eq.symm.trans h
  have named : ∀ key line, industry.lineFor none key = some line → line.name = key.nmlName :=
    fun _ _ => name_of_lineFor
  have cargos : Nml.lastLine? key.nmlName [industry.acceptLine none, industry.prodLine none] =
      none := by
    refine Nml.lastLine?_eq_none fun line mem => ?_
    rcases List.mem_cons.1 mem with rfl | mem
    · exact PropertyKey.nmlName_ne notAccept
    · exact List.mem_singleton.1 mem ▸ PropertyKey.nmlName_ne notProd
  rw [Nml.lastLine?_append, Nml.lastLine?_append, lastLine?_layoutsDeclaration notLayouts, cargos,
    lastLine?_filterMap named mem, Option.none_or, Option.none_or]

/-- The lines of the base for the cargos are those looked up for the base. -/
theorem lastLine?_base_cargos (h : industry.baseProperties = .ok base) :
    Nml.lastLine? PropertyKey.acceptCargoTypes.nmlName base = some (industry.acceptLine none) ∧
      Nml.lastLine? PropertyKey.prodCargoTypes.nmlName base = some (industry.prodLine none) := by
  cases baseProperties_eq.symm.trans h
  have accept : Nml.lastLine? PropertyKey.acceptCargoTypes.nmlName
      [industry.acceptLine none, industry.prodLine none] = some (industry.acceptLine none) := rfl
  have prod : Nml.lastLine? PropertyKey.prodCargoTypes.nmlName
      [industry.acceptLine none, industry.prodLine none] = some (industry.prodLine none) := rfl
  constructor
  · rw [Nml.lastLine?_append, Nml.lastLine?_append, lastLine?_layoutsDeclaration (by decide),
      accept, Option.none_or, Option.some_or]
  · rw [Nml.lastLine?_append, Nml.lastLine?_append, lastLine?_layoutsDeclaration (by decide),
      prod, Option.none_or, Option.some_or]

/-- Scalars set again in an economy are the overridden ones. -/
theorem lastLine?_again_scalar (known : industry.variation (some economy) = .ok (some variation))
    (h : industry.economyProperties economy = .ok lines) {key : PropertyKey}
    (mem : key ∈ PropertyKey.nmlScalars) :
    Nml.lastLine? key.nmlName lines = industry.overridingLine variation key := by
  obtain ⟨notAccept, notProd, _⟩ := ne_of_mem_nmlScalars key mem
  cases (economyProperties_eq known).symm.trans h
  rw [Nml.lastLine?_append, Nml.lastLine?_append,
    lastLine?_ifChanged_of_ne (PropertyKey.nmlName_ne notProd),
    lastLine?_ifChanged_of_ne (PropertyKey.nmlName_ne notAccept),
    lastLine?_filterMap name_of_overridingLine mem, Option.none_or, Option.none_or]

/-- The cargos set again in an economy, over those of the base, are the cargos of the economy. -/
theorem lastLine?_again_cargos (known : industry.variation (some economy) = .ok (some variation))
    (hbase : industry.baseProperties = .ok base)
    (h : industry.economyProperties economy = .ok lines) :
    Nml.lastLine? PropertyKey.acceptCargoTypes.nmlName (base ++ lines) =
        some (industry.acceptLine (some variation)) ∧
      Nml.lastLine? PropertyKey.prodCargoTypes.nmlName (base ++ lines) =
        some (industry.prodLine (some variation)) := by
  obtain ⟨baseAccept, baseProd⟩ := lastLine?_base_cargos hbase
  have noScalar : ∀ {key}, key ∉ PropertyKey.nmlScalars →
      Nml.lastLine? key.nmlName
        (PropertyKey.nmlScalars.filterMap (industry.overridingLine variation)) = none :=
    lastLine?_filterMap_eq_none name_of_overridingLine
  have differ : PropertyKey.prodCargoTypes ≠ PropertyKey.acceptCargoTypes := by decide
  cases (economyProperties_eq known).symm.trans h
  constructor
  · rw [Nml.lastLine?_append, Nml.lastLine?_append, Nml.lastLine?_append, baseAccept,
      noScalar (by decide), lastLine?_ifChanged_of_ne (PropertyKey.nmlName_ne differ),
      Option.none_or, Option.or_none]
    exact lastLine?_ifChanged rfl
  · have accept : Nml.lastLine? PropertyKey.prodCargoTypes.nmlName
        (if industry.acceptLine (some variation) = industry.acceptLine none then []
          else [industry.acceptLine (some variation)]) = none :=
      lastLine?_ifChanged_of_ne (PropertyKey.nmlName_ne differ.symm)
    rw [Nml.lastLine?_append, Nml.lastLine?_append, Nml.lastLine?_append, baseProd,
      noScalar (by decide), accept, Option.none_or, Option.or_none]
    exact lastLine?_ifChanged rfl

/-- A scalar set again in an economy, over that of the base, is the scalar looked up for the
economy, if it has a line there. -/
theorem lastLine?_again_over_base
    (known : industry.variation (some economy) = .ok (some variation))
    (hbase : industry.baseProperties = .ok base)
    (h : industry.economyProperties economy = .ok lines) {key : PropertyKey}
    (mem : key ∈ PropertyKey.nmlScalars) {line : Nml.Assignment}
    (set : industry.lineFor (some variation) key = some line) :
    Nml.lastLine? key.nmlName (base ++ lines) = some line := by
  rw [Nml.lastLine?_append, lastLine?_again_scalar known h mem, lastLine?_base_scalar hbase mem,
    overridingLine]
  -- What is not overridden is looked up in the base, whose line is still in effect.
  cases overridden : variation.properties.contains key with
  | true => simp [set]
  | false => simp [← lineFor_of_not_contains overridden, set]

end

/-- Where an industry is not enabled, its probabilities are set again, to 0, and nothing else is. -/
theorem lastLine?_neverGenerated (base : List Nml.Assignment) (name : String) :
    Nml.lastLine? name (base ++ neverGenerated) =
      if name = PropertyKey.probRandom.nmlName ∨ name = PropertyKey.probInGame.nmlName then
        some ⟨name, .raw "0"⟩
      else Nml.lastLine? name base := by
  rw [Nml.lastLine?_append, neverGenerated, ← List.singleton_append, Nml.lastLine?_append,
    Nml.lastLine?_singleton, Nml.lastLine?_singleton]
  by_cases random : name = PropertyKey.probRandom.nmlName
  · rw [if_pos random.symm, Option.some_or, Option.some_or, if_pos (.inl random), random]
  · by_cases inGame : name = PropertyKey.probInGame.nmlName
    · rw [if_neg (Ne.symm random), if_pos inGame.symm, Option.none_or, Option.some_or,
        if_pos (.inr inGame), inGame]
    · rw [if_neg (Ne.symm random), if_neg (Ne.symm inGame), Option.none_or, Option.none_or,
        if_neg (not_or.2 ⟨random, inGame⟩)]

/-! ## Playback -/

section

variable {economies : Economies} {table : NumberTable} {blocks : List Nml.Block}

/-- In an economy, the lines set again for it are read after those of the base. -/
theorem linesRead_blocks_of_mem (rendered : industry.blocks economies table = .ok blocks)
    (distinct : (economies.toList.map (·.numericId)).Nodup) {economy : Economy}
    (mem : economy ∈ economies.toList) :
    ∃ base again, industry.baseProperties = .ok base ∧
      industry.propertiesAgain economy = .ok again ∧
      Nml.linesRead Nml.featIndustries industry.id (some economy.numericId.toNat) blocks =
        base ++ again := by
  obtain ⟨base, perEconomy, hbase, hperEconomy, hread⟩ := linesRead_blocks rendered
  obtain ⟨again, hagain, hlines⟩ := linesRead_perEconomy_of_mem hperEconomy distinct mem
  exact ⟨base, again, hbase, hagain, by rw [hread, hlines]⟩

/-- Where no economy has the value of the parameter, nothing is set again. -/
theorem linesRead_blocks_of_not_mem (rendered : industry.blocks economies table = .ok blocks)
    (parameter : Option Nat)
    (absent : ∀ economy ∈ economies.toList, parameter ≠ some economy.numericId.toNat) :
    ∃ base, industry.baseProperties = .ok base ∧
      Nml.linesRead Nml.featIndustries industry.id parameter blocks = base := by
  obtain ⟨base, perEconomy, hbase, hperEconomy, hread⟩ := linesRead_blocks rendered
  refine ⟨base, hbase, ?_⟩
  rw [hread, linesRead_perEconomy_of_not_mem hperEconomy absent, List.append_nil]

/-- What an industry sets are properties, whose names have no colon in them. -/
theorem noColon_linesRead (rendered : industry.blocks economies table = .ok blocks)
    {parameter : Option Nat} :
    ∀ line ∈ Nml.linesRead Nml.featIndustries industry.id parameter blocks,
      ':' ∉ line.name.toList := by
  have noColon (key : PropertyKey) : ':' ∉ key.nmlName.toList := by cases key <;> decide
  obtain ⟨base, perEconomy, hbase, hperEconomy, hread⟩ := linesRead_blocks rendered
  intro line mem
  rw [hread, List.mem_append] at mem
  obtain ⟨key, named⟩ : ∃ key : PropertyKey, line.name = key.nmlName := by
    rcases mem with mem | mem
    · rcases mem_baseProperties hbase mem with (rfl | rfl) | layouts | ⟨key, _, named, _⟩
      · exact ⟨.acceptCargoTypes, rfl⟩
      · exact ⟨.prodCargoTypes, rfl⟩
      · exact ⟨.layouts, name_of_layoutsDeclaration layouts⟩
      · exact ⟨key, named⟩
    · obtain ⟨block, hblock, mem⟩ := List.mem_flatMap.1 mem
      obtain ⟨economy, _, properties, hproperties, rfl⟩ := mem_perEconomy hperEconomy hblock
      rw [Nml.Block.linesRead, List.mem_ite_nil_right] at mem
      rcases mem_propertiesAgain hproperties mem.2 with
        ⟨_, _, _, rfl | rfl⟩ | ⟨key, _, named, _⟩
      · exact ⟨.acceptCargoTypes, rfl⟩
      · exact ⟨.prodCargoTypes, rfl⟩
      · exact ⟨key, named⟩
  exact named ▸ noColon key

/-- Where no declaration has a line feed in it, the text for an industry tells which declarations
are in effect. -/
theorem declarationInEffect?_blocks (rendered : industry.blocks economies table = .ok blocks)
    (unbroken : ∀ block ∈ blocks, block.Unbroken) (parameter : Option Nat) (name : String) :
    Nml.declarationInEffect? Nml.featIndustries industry.id parameter (Nml.render blocks) name =
      (Nml.lineInEffect Nml.featIndustries industry.id parameter blocks name).map fun line =>
        line.name ++ ": " ++ line.value.text ++ ";" :=
  Nml.declarationInEffect?_render unbroken
    (fun _ mem _ holds => beginsItem_iff_of_mem_blocks rendered mem holds)
    (noColon_linesRead rendered) name

/-- The lines in effect, when the economy parameter has the value `p`. In an economy in which the
industry is enabled, they are those looked up for the economy; in one in which it is not, those of
the base but for the probabilities, which are 0; and where no economy has that number, those of the
base. The text holds an item with the lines of the base, and then an item with the lines for each
economy, every line of it indented once more. Where no declaration goes over several lines, reading
this text line by line gives the lines in effect. -/
theorem lineInEffect_blocks (rendered : industry.blocks economies table = .ok blocks)
    (distinct : (economies.toList.map (·.numericId)).Nodup) (p : Nat) :
    ∃ base, industry.baseProperties = .ok base ∧
      Nml.linesRead Nml.featIndustries industry.id none blocks = base ∧
      (∀ economy ∈ economies.toList, economy.numericId.toNat = p →
        industry.isEnabledIn economy.id = true →
          (∀ key ∈ PropertyKey.nmlScalars, ∀ line,
            industry.declaration? key (some economy.id) = .ok (some line) →
            Nml.lineInEffect Nml.featIndustries industry.id (some p) blocks key.nmlName =
              some line) ∧
          (∃ line, industry.acceptDeclaration (some economy.id) = .ok line ∧
            Nml.lineInEffect Nml.featIndustries industry.id (some p) blocks
              PropertyKey.acceptCargoTypes.nmlName = some line) ∧
          ∃ line, industry.prodDeclaration (some economy.id) = .ok line ∧
            Nml.lineInEffect Nml.featIndustries industry.id (some p) blocks
              PropertyKey.prodCargoTypes.nmlName = some line) ∧
      (∀ economy ∈ economies.toList, economy.numericId.toNat = p →
        industry.isEnabledIn economy.id = false → ∀ name,
          Nml.lineInEffect Nml.featIndustries industry.id (some p) blocks name =
            if name = PropertyKey.probRandom.nmlName ∨ name = PropertyKey.probInGame.nmlName then
              some ⟨name, .raw "0"⟩
            else Nml.lastLine? name base) ∧
      ((∀ economy ∈ economies.toList, economy.numericId.toNat ≠ p) → ∀ name,
        Nml.lineInEffect Nml.featIndustries industry.id (some p) blocks name =
          Nml.lastLine? name base) ∧
      (∃ again front graphics,
        List.Forall₂ (fun economy lines => industry.propertiesAgain economy = .ok lines)
          economies.toList again ∧
        Nml.render blocks = front ++ industry.itemText base graphics ++
          String.join (List.zipWith industry.textAgain economies.toList again)) ∧
      ((∀ block ∈ blocks, block.Unbroken) → ∀ name,
        Nml.declarationInEffect? Nml.featIndustries industry.id (some p) (Nml.render blocks) name =
          (Nml.lineInEffect Nml.featIndustries industry.id (some p) blocks name).map fun line =>
            line.name ++ ": " ++ line.value.text ++ ";") := by
  obtain ⟨base, hbase, hread⟩ := linesRead_blocks_of_not_mem rendered none (by simp)
  obtain ⟨base', again, hbase', declared, front, graphics, text⟩ := render_blocks rendered
  cases hbase.symm.trans hbase'
  refine ⟨base, hbase, hread, ?_, ?_, ?_, ⟨again, front, graphics, declared, text⟩,
    fun unbroken => declarationInEffect?_blocks rendered unbroken (some p)⟩
  · rintro economy mem rfl enabled
    obtain ⟨base', again, hbase', hagain, hlines⟩ := linesRead_blocks_of_mem rendered distinct mem
    cases hbase.symm.trans hbase'
    -- It is enabled there, so it has a variation, and looking up a property cannot fail.
    obtain ⟨variation, known⟩ := exists_variation_of_isEnabledIn enabled
    rw [propertiesAgain, if_pos enabled] at hagain
    obtain ⟨accept, prod⟩ := lastLine?_again_cargos known hbase hagain
    refine ⟨?_, ⟨_, acceptDeclaration_eq known, ?_⟩, _, prodDeclaration_eq known, ?_⟩
    · intro key hkey line hline
      have set : industry.lineFor (some variation) key = some line :=
        Except.ok.inj ((declaration?_eq known key).symm.trans hline)
      rw [Nml.lineInEffect, hlines]
      exact lastLine?_again_over_base known hbase hagain hkey set
    · rw [Nml.lineInEffect, hlines]
      exact accept
    · rw [Nml.lineInEffect, hlines]
      exact prod
  · rintro economy mem rfl disabled name
    obtain ⟨base', again, hbase', hagain, hlines⟩ := linesRead_blocks_of_mem rendered distinct mem
    cases hbase.symm.trans hbase'
    rw [propertiesAgain, disabled] at hagain
    cases hagain
    rw [Nml.lineInEffect, hlines]
    exact lastLine?_neverGenerated base name
  · intro absent name
    have elsewhere : ∀ economy ∈ economies.toList, some p ≠ some economy.numericId.toNat :=
      fun economy mem same => absent economy mem (Option.some.inj same).symm
    obtain ⟨base', hbase', hlines⟩ := linesRead_blocks_of_not_mem rendered _ elsewhere
    cases hbase.symm.trans hbase'
    rw [Nml.lineInEffect, hlines]

end

/-- A brick works that processes other cargos in one economy, where it is the only one enabled. -/
def brickWorks : Industry :=
  (create "brick_works" 7 (.secondary false false) (.ofList
    [(.probInGame, .text "5"), (.processedCargosAndOutputRatios, .cargoRatios [("CLAY", 8)]),
     (.prodCargoTypes, .textList ["BDMT"])])).enableIn "FIRS" (.ofList
      [(.probInGame, .text "8"), (.processedCargosAndOutputRatios,
        .cargoRatios [("CLAY", 4), ("COAL", 4)])])

/-- What the text for a brick works declares, in that economy, in one where there is none, and where
no economy has the number. -/
theorem lineInEffect_brickWorks :
    ∃ blocks, brickWorks.blocks .standard (fun _ => none) = .ok blocks ∧
      Nml.lineInEffect Nml.featIndustries "brick_works" (some 3) blocks "prob_in_game" =
        some ⟨"prob_in_game", .raw "8"⟩ ∧
      Nml.lineInEffect Nml.featIndustries "brick_works" (some 3) blocks "accept_cargo_types" =
        some ⟨"accept_cargo_types", .cargos ["CLAY", "COAL"]⟩ ∧
      Nml.lineInEffect Nml.featIndustries "brick_works" (some 1) blocks "prob_in_game" =
        some ⟨"prob_in_game", .raw "0"⟩ ∧
      Nml.lineInEffect Nml.featIndustries "brick_works" (some 9) blocks "prob_in_game" =
        some ⟨"prob_in_game", .raw "5"⟩ ∧
      let declared (p : Nat) (name : String) :=
        Nml.declarationInEffect? Nml.featIndustries "brick_works" (some p) (Nml.render blocks) name
      declared 3 "prob_in_game" = some "prob_in_game: 8;" ∧
      declared 3 "accept_cargo_types" =
        some "accept_cargo_types: [cargotype(\"CLAY\"),cargotype(\"COAL\")];" ∧
      declared 1 "prob_in_game" = some "prob_in_game: 0;" ∧
      declared 9 "prob_in_game" = some "prob_in_game: 5;" := by
  obtain ⟨blocks, rendered, unbroken⟩ : ∃ blocks,
      brickWorks.blocks .standard (fun _ => none) = .ok blocks ∧
        ∀ block ∈ blocks, block.Unbroken :=
    exists_of_any (by decide +kernel)
  have distinct : (Economies.standard.toList.map (·.numericId)).Nodup := by decide
  obtain ⟨_, _, _, enabled, _⟩ := lineInEffect_blocks rendered distinct 3
  obtain ⟨_, _, _, _, disabled, _⟩ := lineInEffect_blocks rendered distinct 1
  obtain ⟨base, hbase, _, _, _, other, _⟩ := lineInEffect_blocks rendered distinct 9
  obtain ⟨scalars, ⟨line, declared, accepted⟩, -⟩ :=
    enabled ⟨"FIRS", 3, "string(STR_ECONOMY_FIRS)"⟩ (by decide) rfl (by decide +kernel)
  cases declared
  have inGame : Nml.lineInEffect Nml.featIndustries "brick_works" (some 3) blocks "prob_in_game" =
      some ⟨"prob_in_game", .raw "8"⟩ :=
    scalars .probInGame (by decide) _ (by rfl)
  have cargos : Nml.lineInEffect Nml.featIndustries "brick_works" (some 3) blocks
      "accept_cargo_types" = some ⟨"accept_cargo_types", .cargos ["CLAY", "COAL"]⟩ := accepted
  have never : Nml.lineInEffect Nml.featIndustries "brick_works" (some 1) blocks "prob_in_game" =
      some ⟨"prob_in_game", .raw "0"⟩ :=
    disabled ⟨"BASIC_ARCTIC", 1, "string(STR_ECONOMY_BASIC_ARCTIC)"⟩ (by decide) rfl
      (by decide +kernel) "prob_in_game"
  have elsewhere : Nml.lineInEffect Nml.featIndustries "brick_works" (some 9) blocks
      "prob_in_game" = some ⟨"prob_in_game", .raw "5"⟩ := by
    cases hbase
    exact other (by decide) "prob_in_game"
  -- The text has the same lines.
  have written {p : Nat} {name text : String} {line : Nml.Assignment}
      (inEffect : Nml.lineInEffect Nml.featIndustries "brick_works" (some p) blocks name =
        some line)
      (same : line.name ++ ": " ++ line.value.text ++ ";" = text) :
      Nml.declarationInEffect? Nml.featIndustries "brick_works" (some p) (Nml.render blocks) name =
        some text := by
    obtain ⟨_, _, _, _, _, _, _, read⟩ := lineInEffect_blocks rendered distinct p
    refine (read unbroken name).trans ?_
    rw [← same]
    exact congrArg _ inEffect
  exact ⟨blocks, rendered, inGame, cargos, never, elsewhere, written inGame (by decide +kernel),
    written cargos (by decide +kernel), written never (by decide +kernel),
    written elsewhere (by decide +kernel)⟩

end Industry

end IndustrySet
