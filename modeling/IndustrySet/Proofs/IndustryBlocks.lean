import IndustrySet.Fragment.Industry
import IndustrySet.Proofs.Fallible

set_option autoImplicit false

/-! # The blocks of an industry

Which sections a tile and an industry consist of, once they are written (`Tile.blocks_eq_ok`,
`Industry.blocks_eq_ok`). Whatever is read off the blocks of an industry is argued from these. -/

namespace IndustrySet

theorem Nml.featIndustryTiles_ne : featIndustryTiles ≠ featIndustries := by decide

namespace Tile

variable {tile : Tile} {industry : Industry} {economies : Economies} {blocks : List Nml.Block}

theorem mem_animationBlocks {block : Nml.Block} (mem : block ∈ tile.animationBlocks industry) :
    ∃ control, block = .macroCall control (tile.animationSwitchName industry) := by
  unfold animationBlocks at mem
  split at mem
  · exact ⟨_, List.mem_singleton.1 mem⟩
  · cases mem

/-- In an economy, a tile sets its accepted cargos again, if anything. -/
theorem mem_economyBlocks {base : List String} {economy : Economy}
    (h : tile.economyBlocks industry base economy = .ok blocks) {block : Nml.Block}
    (mem : block ∈ blocks) :
    industry.isEnabledIn economy.id = true ∧ ∃ labels,
      industry.acceptedCargos (some economy.id) = .ok labels ∧
      block = .inEconomy economy.numericId (tile.item [acceptedCargos labels] none) := by
  unfold economyBlocks at h
  split at h
  · next enabled =>
    obtain ⟨labels, hlabels, h⟩ := bind_eq_ok.1 h
    rw [← pure_eq_ok.1 h] at mem
    split at mem
    · cases mem
    · exact ⟨enabled, labels, hlabels, List.mem_singleton.1 mem⟩
  · cases h
    cases mem

theorem mem_perEconomy {base : List String} {among : List Economy}
    {perEconomy : List (List Nml.Block)}
    (h : among.mapM (tile.economyBlocks industry base) = .ok perEconomy) {block : Nml.Block}
    (mem : block ∈ perEconomy.flatten) :
    ∃ economy ∈ among, industry.isEnabledIn economy.id = true ∧ ∃ labels,
      industry.acceptedCargos (some economy.id) = .ok labels ∧
      block = .inEconomy economy.numericId (tile.item [acceptedCargos labels] none) := by
  obtain ⟨part, hpart, mem⟩ := List.mem_flatten.1 mem
  obtain ⟨economy, heconomy, hblocks⟩ := exists_of_mem_mapM h hpart
  exact ⟨economy, heconomy, mem_economyBlocks hblocks mem⟩

theorem blocks_eq_ok (h : tile.blocks industry economies = .ok blocks) :
    ∃ base perEconomy, industry.acceptedCargos none = .ok base ∧
      economies.toList.mapM (tile.economyBlocks industry base) = .ok perEconomy ∧
      blocks = .comment ("tile " ++ tile.id) ::
        (tile.chain industry.id).switches.map .locationSwitch ++ tile.animationBlocks industry ++
        .item (tile.item (tile.properties base) (some (tile.callbacks industry))) ::
        perEconomy.flatten := by
  obtain ⟨base, hbase, h⟩ := bind_eq_ok.1 h
  obtain ⟨perEconomy, hperEconomy, h⟩ := bind_eq_ok.1 h
  exact ⟨base, perEconomy, hbase, hperEconomy, (pure_eq_ok.1 h).symm⟩

/-- What is written for a tile are location switches and items of tiles. -/
theorem mem_blocks (h : tile.blocks industry economies = .ok blocks) {block : Nml.Block}
    (mem : block ∈ blocks) :
    (∃ remark, block = .comment remark) ∨ (∃ s, block = .locationSwitch s) ∨
      (∃ control name, block = .macroCall control name) ∨
      ∃ i : Nml.Item, i.feature = Nml.featIndustryTiles ∧
        (block = .item i ∨ ∃ n, block = .inEconomy n i) := by
  obtain ⟨base, perEconomy, _, hperEconomy, rfl⟩ := blocks_eq_ok h
  simp only [List.cons_append, List.append_assoc, List.mem_cons, List.mem_append] at mem
  rcases mem with rfl | mem | mem | rfl | mem
  · exact .inl ⟨_, rfl⟩
  · obtain ⟨s, _, rfl⟩ := List.mem_map.1 mem
    exact .inr (.inl ⟨s, rfl⟩)
  · obtain ⟨control, rfl⟩ := mem_animationBlocks mem
    exact .inr (.inr (.inl ⟨_, _, rfl⟩))
  · exact .inr (.inr (.inr ⟨_, rfl, .inl rfl⟩))
  · obtain ⟨economy, _, _, labels, _, rfl⟩ := mem_perEconomy hperEconomy mem
    exact .inr (.inr (.inr ⟨_, rfl, .inr ⟨_, rfl⟩⟩))

end Tile

namespace Industry

variable {industry : Industry} {economies : Economies} {table : NumberTable}
  {blocks : List Nml.Block}

/-- In an economy, an industry sets properties again, if anything. -/
theorem economyBlocks_eq_ok {economy : Economy} (h : industry.economyBlocks economy = .ok blocks) :
    ∃ properties, industry.propertiesAgain economy = .ok properties ∧
      blocks = if properties.isEmpty then []
        else [.inEconomy economy.numericId (industry.item properties none)] := by
  obtain ⟨properties, hproperties, h⟩ := bind_eq_ok.1 h
  exact ⟨properties, hproperties, (pure_eq_ok.1 h).symm⟩

theorem mem_perEconomy {among : List Economy} {perEconomy : List (List Nml.Block)}
    (h : among.mapM industry.economyBlocks = .ok perEconomy) {block : Nml.Block}
    (mem : block ∈ perEconomy.flatten) :
    ∃ economy ∈ among, ∃ properties, industry.propertiesAgain economy = .ok properties ∧
      block = .inEconomy economy.numericId (industry.item properties none) := by
  obtain ⟨part, hpart, mem⟩ := List.mem_flatten.1 mem
  obtain ⟨economy, heconomy, hblocks⟩ := exists_of_mem_mapM h hpart
  obtain ⟨properties, hproperties, rfl⟩ := economyBlocks_eq_ok hblocks
  split at mem
  · cases mem
  · exact ⟨economy, heconomy, properties, hproperties, List.mem_singleton.1 mem⟩

theorem blocks_eq_ok (h : industry.blocks economies table = .ok blocks) :
    ∃ graphics tiles chain fund window base perEconomy,
      industry.graphicsBlocks = .ok graphics ∧
      (industry.tiles.mapM fun tile => tile.blocks industry economies) = .ok tiles ∧
      industry.chain table = .ok chain ∧ industry.fundSwitch economies = .ok fund ∧
      industry.windowSwitches economies = .ok window ∧ industry.baseProperties = .ok base ∧
      economies.toList.mapM industry.economyBlocks = .ok perEconomy ∧
      blocks = .comment ("industry " ++ industry.id ++ " (" ++ industry.kind.template ++ ")") ::
        graphics ++ tiles.flatten ++ industry.graphics.layouts.map tilelayout ++
        chain.switches.map .locationSwitch ++
        (fund.1 ++ (window.map (·.1)).getD []).map .switch ++
        .item (industry.item base (some (callbacks chain fund.2 (window.map (·.2))))) ::
        perEconomy.flatten := by
  obtain ⟨graphics, hgraphics, h⟩ := bind_eq_ok.1 h
  obtain ⟨tiles, htiles, h⟩ := bind_eq_ok.1 h
  obtain ⟨chain, hchain, h⟩ := bind_eq_ok.1 h
  obtain ⟨fund, hfund, h⟩ := bind_eq_ok.1 h
  obtain ⟨window, hwindow, h⟩ := bind_eq_ok.1 h
  obtain ⟨base, hbase, h⟩ := bind_eq_ok.1 h
  obtain ⟨perEconomy, hperEconomy, h⟩ := bind_eq_ok.1 h
  exact ⟨graphics, tiles, chain, fund, window, base, perEconomy, hgraphics, htiles, hchain, hfund,
    hwindow, hbase, hperEconomy, (pure_eq_ok.1 h).symm⟩

end Industry

end IndustrySet
