import IndustrySet.Proofs.Warnings

set_option autoImplicit false

/-! # Cargo limits

The check of an industry looks at the cargos of each economy that the industry is enabled in
(`Industry.fewCargosWhereEnabled`). What is written sets the cargos of the base first, and those of
an enabled economy again where they differ. So an industry without a warning about its cargos keeps
to the limits in the blocks for economies, and everywhere just if its base does
(`Industry.withinLimits_blocks`). -/

namespace IndustrySet

/-! ## Lists that are written -/

namespace Nml

/-- The number of cargos in a list of cargos. -/
def Value.cargoCount? : Value → Option Nat
  | .cargos labels => some labels.length
  | .acceptance amounts => some amounts.length
  | .raw _ | .identifiers _ => none

/-- The greatest number of cargos in a property that lists cargos. -/
def cargoLimit? (name : String) : Option Nat :=
  if name = "accept_cargo_types" ∨ name = "accepted_cargos" then some 3
  else if name = "prod_cargo_types" then some 2
  else none

/-- A line for a property that lists cargos has a list, and one that is not too long. -/
def Assignment.WithinLimit (line : Assignment) : Prop :=
  ∀ limit ∈ cargoLimit? line.name, ∃ count ∈ line.value.cargoCount?, count ≤ limit

/-- The lines that a block sets, in every economy or in one. -/
def Block.lines : Block → List Assignment
  | .item i | .inEconomy _ i => i.properties
  | _ => []

/-- Every list of cargos in a block is short enough. -/
def Block.WithinLimits (block : Block) : Prop :=
  ∀ line ∈ block.lines, line.WithinLimit

theorem Assignment.withinLimit_of_none {line : Assignment} (other : cargoLimit? line.name = none) :
    line.WithinLimit := by
  intro limit mem
  rw [other] at mem
  cases mem

/-- A line that lists cargos is within the limit just if its list is. -/
theorem Assignment.withinLimit_iff {line : Assignment} {limit count : Nat}
    (limited : cargoLimit? line.name = some limit) (counted : line.value.cargoCount? = some count) :
    line.WithinLimit ↔ count ≤ limit := by
  simp [WithinLimit, limited, counted]

theorem cargoLimit?_accept : cargoLimit? PropertyKey.acceptCargoTypes.nmlName = some 3 := by
  decide +kernel

theorem cargoLimit?_prod : cargoLimit? PropertyKey.prodCargoTypes.nmlName = some 2 := by
  decide +kernel

theorem cargoLimit?_tile : cargoLimit? "accepted_cargos" = some 3 := by
  decide +kernel

/-- No other property of an industry lists cargos. -/
theorem cargoLimit?_nmlScalars :
    ∀ key ∈ PropertyKey.nmlScalars, cargoLimit? key.nmlName = none := by
  decide +kernel

end Nml

namespace Industry

variable {industry : Industry} {table : NumberTable} {warnings : List Warning}

/-- The cargos for an economy, or for the base, are not too many. -/
structure FewCargos (industry : Industry) (economy : Option EconomyId) : Prop where
  accepted {labels : List String} (h : industry.acceptedCargos economy = .ok labels) :
    labels.length ≤ 3
  produced {labels : List String} (h : industry.producedCargos economy = .ok labels) :
    labels.length ≤ 2

/-! ## What is checked -/

/-- None of the warnings is about the number of cargos. -/
def NoCargoWarning (warnings : List Warning) : Prop :=
  ∀ id economy, Warning.tooManyAccepted id economy ∉ warnings ∧
    Warning.tooManyProduced id economy ∉ warnings

theorem fewCargos_of_economyWarnings {economy : EconomyId}
    (h : industry.economyWarnings economy = .ok warnings) (quiet : NoCargoWarning warnings) :
    industry.FewCargos (some economy) := by
  obtain ⟨accepted, haccepted, h⟩ := bind_eq_ok.1 h
  obtain ⟨produced, hproduced, h⟩ := bind_eq_ok.1 h
  obtain ⟨texts, _, h⟩ := bind_eq_ok.1 h
  rw [← pure_eq_ok.1 h] at quiet
  obtain ⟨notAccepted, notProduced⟩ := quiet industry.id economy
  constructor
  · intro labels hlabels
    cases haccepted.symm.trans hlabels
    by_contra tooMany
    simp [maxAcceptedCargos, Nat.lt_of_not_le tooMany] at notAccepted
  · intro labels hlabels
    cases hproduced.symm.trans hlabels
    by_contra tooMany
    simp [maxProducedCargos, Nat.lt_of_not_le tooMany] at notProduced

/-- An industry that is checked without a warning about its cargos has few where it is enabled. -/
theorem fewCargosWhereEnabled (valid : industry.validate table = .ok warnings)
    (quiet : NoCargoWarning warnings) {economy : EconomyId}
    (enabled : industry.isEnabledIn economy = true) : industry.FewCargos (some economy) := by
  obtain ⟨perEconomy, hperEconomy, rfl⟩ := exists_eq_of_validate valid
  obtain ⟨part, hpart, hwarnings⟩ :=
    exists_of_mapM_mem hperEconomy (mem_enabledEconomies.2 enabled)
  have among {warning : Warning} (mem : warning ∈ part) :
      warning ∈ industry.warningsWith perEconomy := by
    simp only [warningsWith, List.mem_append, List.mem_flatten]
    exact .inl (.inl (.inl ⟨part, hpart, mem⟩))
  refine fewCargos_of_economyWarnings hwarnings fun id other => ?_
  exact ⟨fun mem => (quiet id other).1 (among mem), fun mem => (quiet id other).2 (among mem)⟩

/-! ## What is written -/

theorem withinLimit_acceptLine {asked : Option EconomyId} {known : Option EconomyVariation}
    (h : industry.variation asked = .ok known) (few : industry.FewCargos asked) :
    (industry.acceptLine known).WithinLimit :=
  (Nml.Assignment.withinLimit_iff Nml.cargoLimit?_accept rfl).2 (few.accepted (acceptedCargos_eq h))

theorem withinLimit_prodLine {asked : Option EconomyId} {known : Option EconomyVariation}
    (h : industry.variation asked = .ok known) (few : industry.FewCargos asked) :
    (industry.prodLine known).WithinLimit :=
  (Nml.Assignment.withinLimit_iff Nml.cargoLimit?_prod rfl).2 (few.produced (producedCargos_eq h))

theorem withinLimit_scalar {key : PropertyKey} (mem : key ∈ PropertyKey.nmlScalars)
    {line : Nml.Assignment} (named : line.name = key.nmlName) : line.WithinLimit :=
  Nml.Assignment.withinLimit_of_none (named ▸ Nml.cargoLimit?_nmlScalars key mem)

/-- The base properties are within the limits just if the base has few cargos. -/
theorem withinLimit_baseProperties {lines : List Nml.Assignment}
    (h : industry.baseProperties = .ok lines) :
    (∀ line ∈ lines, line.WithinLimit) ↔ industry.FewCargos none := by
  have base := industry.variation_none
  cases baseProperties_eq.symm.trans h
  constructor
  · intro all
    have accept : (industry.acceptLine none).WithinLimit := all _ (by simp)
    have prod : (industry.prodLine none).WithinLimit := all _ (by simp)
    constructor
    · intro labels hlabels
      cases (acceptedCargos_eq base).symm.trans hlabels
      exact (Nml.Assignment.withinLimit_iff Nml.cargoLimit?_accept rfl).1 accept
    · intro labels hlabels
      cases (producedCargos_eq base).symm.trans hlabels
      exact (Nml.Assignment.withinLimit_iff Nml.cargoLimit?_prod rfl).1 prod
  · intro few line mem
    rcases mem_baseProperties h mem with (rfl | rfl) | layouts | ⟨key, hkey, named, _⟩
    · exact withinLimit_acceptLine base few
    · exact withinLimit_prodLine base few
    · exact Nml.Assignment.withinLimit_of_none
        (name_of_layoutsDeclaration layouts ▸ by decide +kernel)
    · exact withinLimit_scalar hkey named

/-- What is set again for an economy is within the limits, if there are few cargos where the
industry is enabled. -/
theorem withinLimit_propertiesAgain {economy : Economy} {lines : List Nml.Assignment}
    (few : industry.isEnabledIn economy.id = true → industry.FewCargos (some economy.id))
    (h : industry.propertiesAgain economy = .ok lines) : ∀ line ∈ lines, line.WithinLimit := by
  intro line mem
  rcases mem_propertiesAgain h mem with ⟨enabled, variation, known, rfl | rfl⟩ |
    ⟨key, hkey, named, _⟩
  · exact withinLimit_acceptLine known (few enabled)
  · exact withinLimit_prodLine known (few enabled)
  · exact withinLimit_scalar hkey named

/-! ## Blocks -/

/-- A block is within the limits, an item at least if there are few cargos in the base. -/
def KeepsLimits (industry : Industry) : Nml.Block → Prop
  | .item i => industry.FewCargos none → (Nml.Block.item i).WithinLimits
  | block => block.WithinLimits

theorem keepsLimits_of_lines {block : Nml.Block} (h : block.lines = []) :
    industry.KeepsLimits block := by
  have within : block.WithinLimits := fun line mem => absurd (h ▸ mem) List.not_mem_nil
  cases block with
  | item i => exact fun _ => within
  | _ => exact within

end Industry

namespace Tile

variable {tile : Tile} {industry : Industry} {economies : Economies} {blocks : List Nml.Block}

theorem withinLimit_acceptedCargos {labels : List String} (few : labels.length ≤ 3) :
    (acceptedCargos labels).WithinLimit := by
  have counted : (acceptedCargos labels).value.cargoCount? = some labels.length :=
    congrArg some (List.length_map _)
  exact (Nml.Assignment.withinLimit_iff Nml.cargoLimit?_tile counted).2 few

theorem withinLimit_properties {labels : List String} (few : labels.length ≤ 3) :
    ∀ line ∈ tile.properties labels, line.WithinLimit := by
  have other (name : String) (value : Nml.Value) (notCargos : Nml.cargoLimit? name = none) :
      (Nml.Assignment.mk name value).WithinLimit :=
    Nml.Assignment.withinLimit_of_none notCargos
  intro line mem
  simp only [properties, List.mem_cons, List.not_mem_nil, or_false] at mem
  rcases mem with rfl | rfl | rfl | rfl | rfl | rfl | rfl
  on_goal 3 => exact withinLimit_acceptedCargos few
  all_goals exact other _ _ (by decide +kernel)

/-- A tile accepts what its industry does, and so keeps to the limits where the industry does. -/
theorem keepsLimits
    (few : ∀ economy, industry.isEnabledIn economy = true → industry.FewCargos (some economy))
    (h : tile.blocks industry economies = .ok blocks) {block : Nml.Block} (mem : block ∈ blocks) :
    industry.KeepsLimits block := by
  obtain ⟨base, perEconomy, hbase, hperEconomy, rfl⟩ := blocks_eq_ok h
  simp only [List.cons_append, List.append_assoc, List.mem_cons, List.mem_append] at mem
  rcases mem with rfl | mem | mem | rfl | mem
  · exact Industry.keepsLimits_of_lines rfl
  · obtain ⟨s, _, rfl⟩ := List.mem_map.1 mem
    exact Industry.keepsLimits_of_lines rfl
  · obtain ⟨control, rfl⟩ := mem_animationBlocks mem
    exact Industry.keepsLimits_of_lines rfl
  · exact fun fewInBase => withinLimit_properties (fewInBase.accepted hbase)
  · obtain ⟨economy, _, enabled, labels, hlabels, rfl⟩ := mem_perEconomy hperEconomy mem
    intro line mem
    cases List.mem_singleton.1 mem
    exact withinLimit_acceptedCargos ((few economy.id enabled).accepted hlabels)

end Tile

namespace Industry

variable {industry : Industry} {economies : Economies} {table table' : NumberTable}
  {blocks : List Nml.Block} {warnings : List Warning}

theorem keepsLimits
    (few : ∀ economy, industry.isEnabledIn economy = true → industry.FewCargos (some economy))
    (h : industry.blocks economies table = .ok blocks) {block : Nml.Block} (mem : block ∈ blocks) :
    industry.KeepsLimits block := by
  obtain ⟨graphics, tiles, chain, fund, window, base, perEconomy, hgraphics, htiles, _, _, _, hbase,
    hperEconomy, rfl⟩ := blocks_eq_ok h
  simp only [List.cons_append, List.append_assoc, List.mem_cons, List.mem_append] at mem
  rcases mem with rfl | mem | mem | mem | mem | mem | rfl | mem
  · exact keepsLimits_of_lines rfl
  · rcases mem_graphicsBlocks hgraphics mem with ⟨_, _, _, rfl⟩ | ⟨_, rfl⟩ | ⟨_, _, rfl⟩ <;>
      exact keepsLimits_of_lines rfl
  · obtain ⟨part, hpart, mem⟩ := List.mem_flatten.1 mem
    obtain ⟨tile, _, htile⟩ := exists_of_mem_mapM htiles hpart
    exact tile.keepsLimits few htile mem
  · obtain ⟨layout, _, rfl⟩ := List.mem_map.1 mem
    exact keepsLimits_of_lines rfl
  · obtain ⟨s, _, rfl⟩ := List.mem_map.1 mem
    exact keepsLimits_of_lines rfl
  · obtain ⟨s, _, rfl⟩ := List.mem_map.1 mem
    exact keepsLimits_of_lines rfl
  · exact (withinLimit_baseProperties hbase).2
  · obtain ⟨economy, _, properties, hproperties, rfl⟩ := mem_perEconomy hperEconomy mem
    exact withinLimit_propertiesAgain (few economy.id) hproperties

/-- An industry without a warning about its cargos keeps to the limits in every block for an
economy. It does so everywhere just if there are few cargos in the base. -/
theorem withinLimits_blocks (valid : industry.validate table = .ok warnings)
    (quiet : NoCargoWarning warnings) (h : industry.blocks economies table' = .ok blocks) :
    (∀ n i, .inEconomy n i ∈ blocks → (Nml.Block.inEconomy n i).WithinLimits) ∧
      ((∀ block ∈ blocks, block.WithinLimits) ↔ industry.FewCargos none) := by
  have keeps {block : Nml.Block} (mem : block ∈ blocks) : industry.KeepsLimits block :=
    keepsLimits (fun _ => fewCargosWhereEnabled valid quiet) h mem
  refine ⟨fun n i mem => keeps mem, fun all => ?_, fun few block mem => ?_⟩
  · obtain ⟨graphics, tiles, chain, fund, window, base, perEconomy, _, _, _, _, _, hbase, _, rfl⟩ :=
      blocks_eq_ok h
    have item := all _ (List.mem_append_right _ List.mem_cons_self)
    exact (withinLimit_baseProperties hbase).1 item
  · cases block with
    | item i => exact keeps mem few
    | _ => exact keeps mem

/-- A market with one stall that accepts the given cargos, and other ones in the economy that it is
enabled in. -/
def market (accepted : List String) : Industry :=
  { (create "market" 15 .tertiary (.ofList [(.acceptCargoTypes, .textList accepted)])).enableIn
      "FIRS" (.ofList [(.acceptCargoTypes, .textList ["FOOD", "GOOD"])]) with
    tiles := [{ id := "stall" }] }

theorem withinLimits_market :
    ∃ warnings blocks, (market ["FOOD"]).validate (fun _ => none) = .ok warnings ∧
      NoCargoWarning warnings ∧
      (market ["FOOD"]).blocks .standard (fun _ => none) = .ok blocks ∧
      ∀ block ∈ blocks, block.WithinLimits := by
  have valid : (market ["FOOD"]).validate (fun _ => none) = .ok [] := by decide +kernel
  have quiet : NoCargoWarning [] := fun _ _ => ⟨List.not_mem_nil, List.not_mem_nil⟩
  obtain ⟨blocks, rendered⟩ : ∃ blocks,
      (market ["FOOD"]).blocks .standard (fun _ => none) = .ok blocks :=
    exists_of_isOk (by decide +kernel)
  have few : (market ["FOOD"]).FewCargos none := by
    constructor
    · intro labels h
      have accepted : (market ["FOOD"]).acceptedCargos none = .ok ["FOOD"] := by decide +kernel
      cases accepted.symm.trans h
      decide
    · intro labels h
      have produced : (market ["FOOD"]).producedCargos none = .ok [] := by decide +kernel
      cases produced.symm.trans h
      decide
  exact ⟨[], blocks, valid, quiet, rendered,
    (withinLimits_blocks valid quiet rendered).2.2 few⟩

/-- Nothing is said of four cargos that are accepted in the base only, and they are written for the
industry and for its tile. -/
theorem not_withinLimits_market :
    let crowded := market ["FOOD", "GOOD", "FISH", "FRUT"]
    crowded.validate (fun _ => none) = .ok [] ∧
      ∃ blocks, crowded.blocks .standard (fun _ => none) = .ok blocks ∧
        (∃ block ∈ blocks, ⟨"accept_cargo_types", .cargos ["FOOD", "GOOD", "FISH", "FRUT"]⟩ ∈
          block.lines) ∧
        (∃ block ∈ blocks, ⟨"accepted_cargos",
          .acceptance [("FOOD", 8), ("GOOD", 8), ("FISH", 8), ("FRUT", 8)]⟩ ∈ block.lines) ∧
        ¬∀ block ∈ blocks, block.WithinLimits := by
  intro crowded
  obtain ⟨blocks, rendered, ⟨block, mem, line⟩, tile⟩ : ∃ blocks,
      crowded.blocks .standard (fun _ => none) = .ok blocks ∧
        (∃ block ∈ blocks, ⟨"accept_cargo_types", .cargos ["FOOD", "GOOD", "FISH", "FRUT"]⟩ ∈
          block.lines) ∧
        (∃ block ∈ blocks, ⟨"accepted_cargos",
          .acceptance [("FOOD", 8), ("GOOD", 8), ("FISH", 8), ("FRUT", 8)]⟩ ∈ block.lines) :=
    exists_of_any (by decide +kernel)
  refine ⟨by decide +kernel, blocks, rendered, ⟨block, mem, line⟩, tile, fun all => ?_⟩
  have short := (Nml.Assignment.withinLimit_iff Nml.cargoLimit?_accept rfl).1 (all block mem _ line)
  exact absurd short (by decide)

end Industry

end IndustrySet
