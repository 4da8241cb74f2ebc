import IndustrySet.Proofs.Callbacks
import IndustrySet.Proofs.TileAcceptance
import IndustrySet.Proofs.UsableTiles

set_option autoImplicit false

/-! # Land shape flags and the location callback

The game ignores the land shape flags of a tile that has the location callback, `tile_check`. Every
tile has it, just once: with the start of its chain, which for a tile without checks is that every
location is allowed (`Tile.tileCheck_blocks`). So of the tiles that are made none has flags that
restrict anything and stay effective (`Tile.flagsEffective_blocks_iff`). -/

namespace IndustrySet.Tile

variable {tile : Tile} {industry : Industry} {economies : Economies} {blocks : List Nml.Block}

/-- Flags that restrict anything come without the location callback. -/
def FlagsEffective (tile : Tile) (blocks : List Nml.Block) : Prop :=
  tile.landShapeFlags ≠ noLandShapeFlags → ∀ p,
    Nml.callbackTargets Nml.featIndustryTiles tile.id p "tile_check" blocks = []

/-! ## The location callback -/

theorem filterMap_optionalCallback {name callback : String} (other : name ≠ callback)
    (declared : Option String) :
    (optionalCallback name declared).filterMap (Nml.Callback.target? callback) = [] := by
  unfold optionalCallback
  split
  · simp [Nml.Callback.target?, other]
  · rfl

theorem tileCheck_callbacks (tile : Tile) (industry : Industry) :
    (tile.callbacks industry).filterMap (Nml.Callback.target? "tile_check") =
      [.ofOutcome (tile.chain industry.id).start] := by
  unfold callbacks
  split_ifs <;> simp [filterMap_optionalCallback, Nml.Callback.target?]

theorem callbackTargets_animationBlocks (p : Nat) (callback : String) :
    Nml.callbackTargets Nml.featIndustryTiles tile.id p callback (tile.animationBlocks industry) =
      [] := by
  refine List.flatMap_eq_nil_iff.2 fun block mem => ?_
  obtain ⟨control, rfl⟩ := mem_animationBlocks mem
  rfl

/-- Whatever the economy, the location callback of a tile is where its chain starts. -/
theorem tileCheck_blocks (h : tile.blocks industry economies = .ok blocks) (p : Nat) :
    Nml.callbackTargets Nml.featIndustryTiles tile.id p "tile_check" blocks =
      [.ofOutcome (tile.chain industry.id).start] := by
  obtain ⟨base, perEconomy, _, hperEconomy, rfl⟩ := blocks_eq_ok h
  have switches : ∀ switches : List LocationSwitch, Nml.callbackTargets Nml.featIndustryTiles
      tile.id p "tile_check" (switches.map .locationSwitch) = [] :=
    fun switches => by simp [Nml.callbackTargets, Nml.Block.callbackTargets]
  have again : Nml.callbackTargets Nml.featIndustryTiles tile.id p "tile_check"
      perEconomy.flatten = [] := by
    refine List.flatMap_eq_nil_iff.2 fun block mem => ?_
    obtain ⟨economy, _, _, labels, _, rfl⟩ := mem_perEconomy hperEconomy mem
    simp [Nml.Block.callbackTargets, item, Nml.Item.callbackTargets]
  have own : Nml.Block.callbackTargets Nml.featIndustryTiles tile.id p "tile_check"
      (.item (tile.item (tile.properties base) (some (tile.callbacks industry)))) =
        [.ofOutcome (tile.chain industry.id).start] := by
    simp [Nml.Block.callbackTargets, item, Nml.Item.callbackTargets, tileCheck_callbacks]
  simp only [List.cons_append, List.append_assoc, Nml.callbackTargets_cons,
    Nml.callbackTargets_append, switches, callbackTargets_animationBlocks, own, again,
    List.nil_append, List.append_nil]
  rfl

/-! ## The flags -/

/-- The land shape flags of a tile are in effect as far as its properties go. -/
theorem lineInEffect_landShapeFlags (h : tile.blocks industry economies = .ok blocks) (p : Nat) :
    Nml.lineInEffect Nml.featIndustryTiles tile.id (some p) blocks "land_shape_flags" =
      some ⟨"land_shape_flags", .raw tile.landShapeFlags⟩ := by
  obtain ⟨perEconomy, hperEconomy, hread⟩ := linesRead_tileBlocks h
  have again : Nml.lastLine? "land_shape_flags"
      (Nml.linesRead Nml.featIndustryTiles tile.id (some p) perEconomy.flatten) = none := by
    refine Nml.lastLine?_eq_none fun line mem => ?_
    obtain ⟨block, mem, read⟩ := List.mem_flatMap.1 mem
    obtain ⟨economy, _, _, labels, _, rfl⟩ := mem_perEconomy hperEconomy mem
    rw [Nml.Block.linesRead, List.mem_ite_nil_right] at read
    cases List.mem_singleton.1 read.2
    show "accepted_cargos" ≠ "land_shape_flags"
    decide
  rw [Nml.lineInEffect, hread, if_pos rfl, Nml.lastLine?_append, again]
  rfl

theorem locationSwitch_notMem (h : tile.blocks industry economies = .ok blocks)
    (noRules : (tile.chain industry.id).rules = []) (s : LocationSwitch) :
    .locationSwitch s ∉ blocks := by
  have noSwitches : (tile.chain industry.id).switches = [] := by
    rw [Chain.switches, noRules]
    rfl
  intro mem
  obtain ⟨base, perEconomy, _, hperEconomy, rfl⟩ := blocks_eq_ok h
  simp only [noSwitches, List.map_nil, List.cons_append, List.nil_append, List.mem_cons,
    List.mem_append, reduceCtorEq, false_or] at mem
  rcases mem with mem | mem
  · obtain ⟨_, same⟩ := mem_animationBlocks mem
    cases same
  · obtain ⟨_, _, _, _, _, same⟩ := mem_perEconomy hperEconomy mem
    cases same

/-- Of the tiles that are made, those have effective flags whose flags restrict nothing. The flags
of all others are written although the game ignores them: no check is run, but there is the location
callback, which allows every location. -/
theorem flagsEffective_blocks_iff (made : Made tile) (industry : Industry) (economies : Economies) :
    ∃ blocks, tile.blocks industry economies = .ok blocks ∧
      (tile.FlagsEffective blocks ↔ tile.landShapeFlags = noLandShapeFlags) ∧
      (tile.landShapeFlags ≠ noLandShapeFlags → (∀ s, .locationSwitch s ∉ blocks) ∧ ∀ p,
        Nml.lineInEffect Nml.featIndustryTiles tile.id (some p) blocks "land_shape_flags" =
          some ⟨"land_shape_flags", .raw tile.landShapeFlags⟩ ∧
        Nml.callbackTargets Nml.featIndustryTiles tile.id p "tile_check" blocks =
          [.returned "CB_RESULT_LOCATION_ALLOW"]) := by
  obtain ⟨blocks, written⟩ := industry.exists_tileBlocks tile economies
  have check := tileCheck_blocks written
  refine ⟨blocks, written, ⟨fun effective => ?_, fun none flags => absurd none flags⟩,
    fun flags => ?_⟩
  · by_contra flags
    cases (check 0).symm.trans (effective flags 0)
  · refine ⟨locationSwitch_notMem written (made.usable.chain_rules flags industry.id), fun p => ?_⟩
    refine ⟨lineInEffect_landShapeFlags written p, ?_⟩
    rw [check p, made.usable.chain_start flags]
    rfl

/-- A wharf with nothing but a tile for flat land. -/
def bareWharf : Industry :=
  { Industry.create "wharf" 9 .primaryPort .empty with tiles := [flatWharf] }

theorem create_flatWharf :
    Tile.create "wharf_tile_1" "bitmask(LSF_ONLY_ON_FLAT_LAND)" .none = .ok flatWharf := by
  decide

theorem flagsEffective_blocks_flatWharf :
    Made flatWharf ∧ ∃ blocks, flatWharf.blocks bareWharf .standard = .ok blocks ∧
      ∀ p, Nml.callbackTargets Nml.featIndustryTiles "wharf_tile_1" p "tile_check" blocks =
        [.returned "CB_RESULT_LOCATION_ALLOW"] := by
  have made : Made flatWharf := .create create_flatWharf
  obtain ⟨blocks, written, _, ignored⟩ := flagsEffective_blocks_iff made bareWharf .standard
  exact ⟨made, blocks, written, fun p => ((ignored (by decide)).2 p).2⟩

/-- The tile of the wharf has land shape flags and is taken, but what is written for it has the
location callback. -/
theorem not_flagsEffective_flatWharf :
    Tile.create "wharf_tile_1" "bitmask(LSF_ONLY_ON_FLAT_LAND)" .none = .ok flatWharf ∧
      flatWharf.landShapeFlags ≠ noLandShapeFlags ∧
      ∃ blocks, flatWharf.blocks bareWharf .standard = .ok blocks ∧
        ¬flatWharf.FlagsEffective blocks := by
  obtain ⟨blocks, written⟩ := bareWharf.exists_tileBlocks flatWharf .standard
  refine ⟨create_flatWharf, by decide, blocks, written, fun effective => ?_⟩
  have target := tileCheck_blocks written 0
  rw [effective (by decide) 0] at target
  cases target

end IndustrySet.Tile
