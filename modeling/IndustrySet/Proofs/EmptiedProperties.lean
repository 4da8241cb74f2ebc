import IndustrySet.Proofs.EconomyPlayback

set_option autoImplicit false

/-! # Properties that an economy leaves empty

An economy can set a property to a value that is not written, such as the empty text. The block for
the economy only ever adds lines to those of the base, so it cannot take one away: the line of the
base stays in effect there, if there is one (`Industry.lineInEffect_of_emptied`). -/

namespace IndustrySet.Industry

variable {industry : Industry} {economies : Economies} {table : NumberTable}
  {blocks : List Nml.Block}

/-- No line is set again for a scalar that has no line in the economy. -/
theorem name_ne_of_mem_economyProperties {economy : EconomyId} {variation : EconomyVariation}
    {lines : List Nml.Assignment} (known : industry.variation (some economy) = .ok (some variation))
    (h : industry.economyProperties economy = .ok lines) {key : PropertyKey}
    (scalar : key ∈ PropertyKey.nmlScalars) (empty : industry.lineFor (some variation) key = none) :
    ∀ line ∈ lines, line.name ≠ key.nmlName := by
  have last : Nml.lastLine? key.nmlName lines = none := by
    rw [lastLine?_again_scalar known h scalar, overridingLine, empty, ite_self]
  simpa [Nml.lastLine?] using last

/-- Where an economy sets a scalar to a value that is not written, or the scalar has none, the block
for the economy sets no line for it. So the line of the base is in effect, and there is no line in
effect just if the base has none, as it is the case if the economy does not override the scalar. The
text says the same, unless a declaration goes over several lines. -/
theorem lineInEffect_of_emptied (rendered : industry.blocks economies table = .ok blocks)
    (distinct : (economies.toList.map (·.numericId)).Nodup) {economy : Economy}
    (mem : economy ∈ economies.toList) (enabled : industry.isEnabledIn economy.id = true)
    {key : PropertyKey} (scalar : key ∈ PropertyKey.nmlScalars)
    (empty : industry.declaration? key (some economy.id) = .ok none) :
    (∃ base again, industry.baseProperties = .ok base ∧
      industry.propertiesAgain economy = .ok again ∧
      Nml.linesRead Nml.featIndustries industry.id (some economy.numericId.toNat) blocks =
        base ++ again ∧
      ∀ line ∈ again, line.name ≠ key.nmlName) ∧
    industry.declaration? key none = .ok (Nml.lineInEffect Nml.featIndustries industry.id
      (some economy.numericId.toNat) blocks key.nmlName) ∧
    (industry.overrides key economy.id = .ok false →
      Nml.lineInEffect Nml.featIndustries industry.id (some economy.numericId.toNat) blocks
        key.nmlName = none) ∧
    ((∀ block ∈ blocks, block.Unbroken) →
      Nml.declarationInEffect? Nml.featIndustries industry.id (some economy.numericId.toNat)
          (Nml.render blocks) key.nmlName =
        (Nml.lineInEffect Nml.featIndustries industry.id (some economy.numericId.toNat) blocks
          key.nmlName).map fun line => line.name ++ ": " ++ line.value.text ++ ";") := by
  obtain ⟨variation, known⟩ := exists_variation_of_isEnabledIn enabled
  obtain ⟨base, again, hbase, hagain, hread⟩ := linesRead_blocks_of_mem rendered distinct mem
  have noLine : industry.lineFor (some variation) key = none :=
    Except.ok.inj ((declaration?_eq known key).symm.trans empty)
  have notAgain : ∀ line ∈ again, line.name ≠ key.nmlName := by
    rw [propertiesAgain, if_pos enabled] at hagain
    exact name_ne_of_mem_economyProperties known hagain scalar noLine
  have inEffect : Nml.lineInEffect Nml.featIndustries industry.id (some economy.numericId.toNat)
      blocks key.nmlName = industry.lineFor none key := by
    rw [Nml.lineInEffect, hread, Nml.lastLine?_append, Nml.lastLine?_eq_none notAgain,
      Option.none_or, lastLine?_base_scalar hbase scalar]
  refine ⟨⟨base, again, hbase, hagain, hread, notAgain⟩, ?_, fun follows => ?_,
    fun unbroken => declarationInEffect?_blocks rendered unbroken _ _⟩
  · rw [declaration?_eq industry.variation_none, inEffect]
  · have notSet : variation.properties.contains key = false :=
      Except.ok.inj ((overrides_eq known key).symm.trans follows)
    rw [inEffect, ← lineFor_of_not_contains notSet, noLine]

/-- An auction hall near which stations are named after it, but not in one economy. -/
def auctionHall : Industry :=
  (create "auction_hall" 41 .tertiary (.ofList
    [(.nearbyStationName, .text "string(STR_STATION_AUCTION_HALL)")])).enableIn "FIRS" (.ofList
      [(.nearbyStationName, .text ""), (.probInGame, .text "8")])

/-- The only economy in which there are auction halls. -/
def auctionEconomy : Economy := ⟨"FIRS", 3, "string(STR_ECONOMY_FIRS)"⟩

theorem lineInEffect_of_emptied_auctionHall :
    ∃ blocks, auctionHall.blocks ⟨[auctionEconomy]⟩ (fun _ => none) = .ok blocks ∧
      auctionHall.declaration? .nearbyStationName none = .ok (Nml.lineInEffect Nml.featIndustries
        "auction_hall" (some 3) blocks "nearby_station_name") ∧
      Nml.lineInEffect Nml.featIndustries "auction_hall" (some 3) blocks "map_colour" = none := by
  obtain ⟨blocks, rendered⟩ : ∃ blocks,
      auctionHall.blocks ⟨[auctionEconomy]⟩ (fun _ => none) = .ok blocks :=
    exists_of_isOk (by decide +kernel)
  have distinct : ([auctionEconomy].map (·.numericId)).Nodup := by decide
  have enabled : auctionHall.isEnabledIn "FIRS" = true := by decide +kernel
  have emptied : auctionHall.declaration? .nearbyStationName (some "FIRS") = .ok none := by rfl
  have missing : auctionHall.declaration? .mapColour (some "FIRS") = .ok none := by rfl
  obtain ⟨_, station, _⟩ :=
    lineInEffect_of_emptied rendered distinct List.mem_cons_self enabled (by decide) emptied
  obtain ⟨_, _, colour, _⟩ :=
    lineInEffect_of_emptied rendered distinct List.mem_cons_self enabled (by decide) missing
  exact ⟨blocks, rendered, station, colour (by rfl)⟩

/-- Nothing is declared for the name of stations in that economy, but the name of the base is in
effect there. -/
theorem not_emptied_auctionHall :
    ([auctionEconomy].map (·.id)).Nodup ∧ ([auctionEconomy].map (·.numericId)).Nodup ∧
      auctionHall.isEnabledIn auctionEconomy.id = true ∧
      PropertyKey.nearbyStationName ∈ PropertyKey.nmlScalars ∧
      auctionHall.declaration? .nearbyStationName (some auctionEconomy.id) = .ok none ∧
      ∃ blocks, auctionHall.blocks ⟨[auctionEconomy]⟩ (fun _ => none) = .ok blocks ∧
        Nml.lineInEffect Nml.featIndustries auctionHall.id (some auctionEconomy.numericId.toNat)
            blocks PropertyKey.nearbyStationName.nmlName =
          some ⟨"nearby_station_name", .raw "string(STR_STATION_AUCTION_HALL)"⟩ ∧
        Nml.lineInEffect Nml.featIndustries auctionHall.id (some auctionEconomy.numericId.toNat)
            blocks PropertyKey.nearbyStationName.nmlName ≠ none := by
  refine ⟨by decide, by decide, by decide +kernel, by decide, by rfl, ?_⟩
  obtain ⟨blocks, rendered, inEffect⟩ : ∃ blocks,
      auctionHall.blocks ⟨[auctionEconomy]⟩ (fun _ => none) = .ok blocks ∧
        Nml.lineInEffect Nml.featIndustries auctionHall.id (some auctionEconomy.numericId.toNat)
            blocks PropertyKey.nearbyStationName.nmlName =
          some ⟨"nearby_station_name", .raw "string(STR_STATION_AUCTION_HALL)"⟩ :=
    exists_of_any (by decide +kernel)
  exact ⟨blocks, rendered, inEffect, by rw [inEffect]; nofun⟩

end IndustrySet.Industry
