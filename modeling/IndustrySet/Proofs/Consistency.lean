import IndustrySet.Proofs.Warnings
import Mathlib.Data.List.Dedup

set_option autoImplicit false

/-! # Consistent industries

An industry is consistent if it makes none of the mistakes that are looked for, said without the
functions that look for them (`Industry.Consistent`). Each part of the check is silent just if its
part of the industry is consistent, and so the whole check is silent just for consistent industries
that have a location chain (`Industry.validate_consistent`). -/

namespace IndustrySet

/-! ## Location checks of an industry -/

namespace SiteRequirements

variable {r : SiteRequirements} {own : IndustryId}

/-- The settings neither contradict nor repeat each other. -/
structure Consistent (r : SiteRequirements) (own : IndustryId) : Prop where
  townDistance : ∀ min max, r.townDistance = some (min, max) → min ≤ max
  clusterDistance : ∀ c, r.requireCluster = some c → c.minDistance ≤ c.maxDistance
  distinct : (r.incompatible.map (·.1)).Nodup
  notOwn : r.sameTypeDistance ≠ none → own ∉ r.incompatible.map (·.1)

/-- An id that was seen is repeated wherever it occurs, and another one from its second time on. -/
theorem exists_repeatedIds (seen ids : List IndustryId) : ∃ again : List IndustryId,
    repeatedIds seen ids = again.map .repeatedIncompatible ∧
    ∀ id, again.count id = if id ∈ seen then ids.count id else ids.count id - 1 := by
  -- Every id on the way is seen by the rest of the list.
  induction ids generalizing seen with
  | nil => exact ⟨[], rfl, by simp⟩
  | cons first rest ih =>
    obtain ⟨again, repeated, count⟩ := ih (first :: seen)
    by_cases known : first ∈ seen
    · refine ⟨first :: again, by simp [repeatedIds, known, repeated], fun id => ?_⟩
      rw [List.count_cons, List.count_cons, count]
      by_cases same : first = id
      · simp [← same, known]
      · simp [same, Ne.symm same]
    · refine ⟨again, by simp [repeatedIds, known, repeated], fun id => ?_⟩
      rw [List.count_cons, count]
      by_cases same : first = id
      · simp [← same, known]
      · simp [same, Ne.symm same]

/-- The ids are the distinct ones together with those that are repeated. -/
theorem exists_repeatedIds_perm (ids : List IndustryId) : ∃ again : List IndustryId,
    repeatedIds [] ids = again.map .repeatedIncompatible ∧ (again ++ ids.dedup).Perm ids := by
  obtain ⟨again, repeated, count⟩ := exists_repeatedIds [] ids
  refine ⟨again, repeated, List.perm_iff_count.2 fun id => ?_⟩
  rw [List.count_append, count, List.count_dedup, if_neg List.not_mem_nil]
  split
  · next mem =>
    have some : 0 < ids.count id := List.count_pos_iff.2 mem
    omega
  · next notMem => rw [List.count_eq_zero_of_not_mem notMem]

theorem repeatedIds_eq_nil_iff {ids : List IndustryId} : repeatedIds [] ids = [] ↔ ids.Nodup := by
  obtain ⟨again, repeated, perm⟩ := exists_repeatedIds_perm ids
  rw [repeated, List.map_eq_nil_iff]
  constructor
  · rintro rfl
    exact perm.nodup_iff.1 (List.nodup_dedup ids)
  · intro distinct
    rw [distinct.dedup] at perm
    simpa using perm.length_eq

theorem conflicts_eq_nil_iff : r.conflicts own = [] ↔ r.Consistent own := by
  simp only [conflicts, List.append_eq_nil_iff, repeatedIds_eq_nil_iff]
  constructor
  · rintro ⟨⟨⟨town, cluster⟩, ownType⟩, distinct⟩
    exact
      { townDistance := fun min max wanted => by simpa [wanted] using town
        clusterDistance := fun c wanted => by simpa [wanted] using cluster
        distinct
        notOwn := fun wanted => by simpa [Option.isSome_iff_ne_none, wanted] using ownType }
  · intro h
    refine ⟨⟨⟨?_, ?_⟩, ?_⟩, h.distinct⟩
    · split
      · next min max wanted => simpa using h.townDistance min max wanted
      · rfl
    · split
      · next c wanted => simpa using h.clusterDistance c wanted
      · rfl
    · simpa [Option.isSome_iff_ne_none] using h.notOwn

end SiteRequirements

/-! ## Repeated entries -/

/-- The id in a warning that it is listed as incompatible once more. -/
def Warning.repeated? : Warning → Option IndustryId
  | .siteConflict _ (.repeatedIncompatible id) => some id
  | _ => none

/-- The ids that are warned of as listed once more. -/
def repeatedIn (warnings : List Warning) : List IndustryId :=
  warnings.filterMap Warning.repeated?

@[simp]
theorem repeatedIn_append (before after : List Warning) :
    repeatedIn (before ++ after) = repeatedIn before ++ repeatedIn after :=
  List.filterMap_append

theorem repeatedIn_eq_nil {warnings : List Warning}
    (h : ∀ warning ∈ warnings, warning.subject ≠ .site) : repeatedIn warnings = [] := by
  refine List.filterMap_eq_nil_iff.2 fun warning mem => ?_
  have notSite := h warning mem
  cases warning with
  | siteConflict => exact absurd rfl notSite
  | _ => rfl

namespace SiteRequirements

/-- The repeated ids are the last of the conflicts, and no others are about repeated ids. -/
theorem exists_conflicts_eq (r : SiteRequirements) (own : IndustryId) : ∃ others,
    r.conflicts own = others ++ repeatedIds [] (r.incompatible.map (·.1)) ∧
      ∀ conflict ∈ others, (Warning.siteConflict own conflict).repeated? = none := by
  refine ⟨_, rfl, fun conflict mem => ?_⟩
  simp only [List.mem_append] at mem
  rcases mem with (town | cluster) | ownType
  · split at town
    · rw [List.mem_ite_nil_right, List.mem_singleton] at town
      obtain ⟨_, rfl⟩ := town
      rfl
    · cases town
  · split at cluster
    · rw [List.mem_ite_nil_right, List.mem_singleton] at cluster
      obtain ⟨_, rfl⟩ := cluster
      rfl
    · cases cluster
  · rw [List.mem_ite_nil_right, List.mem_singleton] at ownType
    obtain ⟨_, rfl⟩ := ownType
    rfl

theorem repeatedIn_conflicts (r : SiteRequirements) (own : IndustryId) :
    (repeatedIn ((r.conflicts own).map (.siteConflict own)) ++
      (r.incompatible.map (·.1)).dedup).Perm (r.incompatible.map (·.1)) := by
  obtain ⟨again, repeated, perm⟩ := exists_repeatedIds_perm (r.incompatible.map (·.1))
  obtain ⟨others, eq, notRepeated⟩ := r.exists_conflicts_eq own
  have found : repeatedIn ((r.conflicts own).map (.siteConflict own)) = again := by
    have noOther : repeatedIn (others.map (.siteConflict own)) = [] :=
      List.filterMap_eq_nil_iff.2 (List.forall_mem_map.2 notRepeated)
    have all : repeatedIn ((again.map .repeatedIncompatible).map (.siteConflict own)) = again := by
      rw [repeatedIn, List.map_map, List.filterMap_map]
      exact List.filterMap_some
    rw [eq, repeated, List.map_append, repeatedIn_append, noOther, all, List.nil_append]
  rwa [found]

end SiteRequirements

/-! ## Location checks of a tile -/

/-- The checks neither contradict nor hide each other, and not all of them only ever reject. -/
structure TileRequirements.Consistent (r : TileRequirements) : Prop where
  slopes : r.disallowSlopes = true → r.requireEffectivelyFlat = false ∧
    r.disallowSteepSlopes = false ∧ r.requireCoast = false
  coast : r.disallowCoast = true → r.requireCoast = false
  closed : r.checks ≠ [] → ∃ check ∈ r.checks, check.verdict? ≠ Option.none

theorem TileRequirements.conflicts_eq_nil_iff {r : TileRequirements} : r.conflicts = [] ↔
    (r.disallowSlopes = true → r.requireEffectivelyFlat = false ∧ r.disallowSteepSlopes = false ∧
      r.requireCoast = false) ∧
    (r.disallowCoast = true → r.requireCoast = false) := by
  simp only [conflicts, List.append_eq_nil_iff, ite_eq_right_iff, Bool.and_eq_true]
  grind

namespace Industry

variable {industry : Industry} {table : NumberTable} {warnings : List Warning}

theorem tileWarnings_eq_nil_iff {tile : Tile} {chain : Chain TileCheck} :
    tileWarnings tile chain = [] ↔
      tile.requirements.conflicts = [] ∧ ¬chain.isOpenEnded = true := by
  rw [tileWarnings, List.append_eq_nil_iff, List.map_eq_nil_iff, and_congr_right_iff]
  intro _
  split
  · simp
  · next noLast => simp [Chain.isOpenEnded, noLast]

theorem tileWarnings_chain_eq_nil_iff {tile : Tile} {own : IndustryId} :
    tileWarnings tile (tile.chain own) = [] ↔ tile.requirements.Consistent := by
  have closed : ¬(tile.chain own).isOpenEnded = true ↔
      (tile.requirements.checks ≠ [] → ∃ check ∈ tile.requirements.checks,
        check.verdict? ≠ none) := by
    rw [Tile.chain, TileRequirements.chain, Chain.isOpenEnded_iff_of_tile]
    simp
  rw [tileWarnings_eq_nil_iff, TileRequirements.conflicts_eq_nil_iff, closed]
  constructor
  · rintro ⟨⟨slopes, coast⟩, closed⟩
    exact { slopes, coast, closed }
  · intro h
    exact ⟨⟨h.slopes, h.coast⟩, h.closed⟩

/-! ## Economies -/

/-- The industry has no more cargos and texts in an economy than the game can use. -/
structure FitsIn (industry : Industry) (economy : EconomyId) : Prop where
  accepted : ∃ labels, industry.acceptedCargos (some economy) = .ok labels ∧ labels.length ≤ 3
  produced : ∃ labels, industry.producedCargos (some economy) = .ok labels ∧ labels.length ≤ 2
  fundTexts : ∃ texts, industry.fundTexts (some economy) = .ok texts ∧ texts.length ≤ 1

theorem economyWarnings_eq_nil_iff {economy : EconomyId} :
    industry.economyWarnings economy = .ok [] ↔ industry.FitsIn economy := by
  constructor
  · intro silent
    obtain ⟨accepted, haccepted, silent⟩ := bind_eq_ok.1 silent
    obtain ⟨produced, hproduced, silent⟩ := bind_eq_ok.1 silent
    obtain ⟨texts, htexts, silent⟩ := bind_eq_ok.1 silent
    simp only [pure_eq_ok, List.append_eq_nil_iff, ite_eq_right_iff, List.cons_ne_nil, imp_false,
      Nat.not_lt] at silent
    obtain ⟨⟨few, fewer⟩, one⟩ := silent
    exact
      { accepted := ⟨accepted, haccepted, few⟩
        produced := ⟨produced, hproduced, fewer⟩
        fundTexts := ⟨texts, htexts, one⟩ }
  · rintro ⟨⟨accepted, haccepted, few⟩, ⟨produced, hproduced, fewer⟩, ⟨texts, htexts, one⟩⟩
    have acceptable : ¬maxAcceptedCargos < accepted.length := Nat.not_lt.2 few
    have producible : ¬maxProducedCargos < produced.length := Nat.not_lt.2 fewer
    refine bind_eq_ok.2 ⟨accepted, haccepted, bind_eq_ok.2 ⟨produced, hproduced,
      bind_eq_ok.2 ⟨texts, htexts, ?_⟩⟩⟩
    rw [if_neg acceptable, if_neg producible, if_neg (Nat.not_lt.2 one)]
    rfl

theorem flatten_perEconomy_eq_nil_iff {perEconomy : List (List Warning)}
    (h : industry.enabledEconomies.mapM industry.economyWarnings = .ok perEconomy) :
    perEconomy.flatten = [] ↔
      ∀ economy, industry.isEnabledIn economy = true → industry.FitsIn economy := by
  rw [List.flatten_eq_nil_iff]
  constructor
  · intro silent economy enabled
    obtain ⟨part, mem, hpart⟩ := exists_of_mapM_mem h (mem_enabledEconomies.2 enabled)
    rw [silent part mem] at hpart
    exact economyWarnings_eq_nil_iff.1 hpart
  · intro fits part mem
    obtain ⟨economy, enabled, hpart⟩ := exists_of_mem_mapM h mem
    have silent := economyWarnings_eq_nil_iff.2 (fits economy (mem_enabledEconomies.1 enabled))
    cases silent.symm.trans hpart
    rfl

/-! ## Layouts -/

/-- The industry has the tile of a position, and something to draw there. -/
structure CanPlace (industry : Industry) (position : LayoutPosition) : Prop where
  tile : ∃ tile ∈ industry.tiles, tile.id = position.tile
  target : (∃ s ∈ industry.graphics.spritelayouts, s.id = position.target) ∨
    ∃ s ∈ industry.graphics.slopeSwitches, s.id = position.target

theorem positionWarnings_eq_nil_iff {layout : Layout} {position : LayoutPosition} :
    industry.positionWarnings layout position = [] ↔ industry.CanPlace position := by
  simp only [positionWarnings, Graphics.hasTarget, List.append_eq_nil_iff, ite_eq_left_iff,
    List.cons_ne_nil, imp_false, not_not, Bool.or_eq_true, List.any_eq_true, decide_eq_true_eq]
  constructor
  · rintro ⟨tile, target⟩
    exact { tile, target }
  · intro h
    exact ⟨h.tile, h.target⟩

theorem layoutWarnings_eq_nil_iff : industry.layoutWarnings = [] ↔
    ∀ layout ∈ industry.graphics.layouts, ∀ position ∈ layout.positions,
      position.isVacant = false → industry.CanPlace position := by
  simp only [layoutWarnings, Layout.occupied, List.flatMap_eq_nil_iff, List.mem_filter,
    positionWarnings_eq_nil_iff, Bool.not_eq_true', and_imp]

/-! ## The whole check -/

/-- The declaration of the industry makes no mistake. -/
structure Consistent (industry : Industry) : Prop where
  economies : ∀ economy, industry.isEnabledIn economy = true → industry.FitsIn economy
  site : industry.requirements.Consistent industry.id
  tiles : ∀ tile ∈ industry.tiles, tile.requirements.Consistent
  layouts : ∀ layout ∈ industry.graphics.layouts, ∀ position ∈ layout.positions,
    position.isVacant = false → industry.CanPlace position

theorem validate_eq_error_iff {e : Error} :
    industry.validate table = .error e ↔ industry.chain table = .error e := by
  obtain ⟨_, _, found⟩ := industry.exists_validate_eq
  rw [found]
  cases industry.chain table <;> simp [Except.map]

theorem validate_eq_nil_iff : industry.validate table = .ok [] ↔
    (∃ chain, industry.chain table = .ok chain) ∧ industry.Consistent := by
  obtain ⟨perEconomy, hperEconomy, found⟩ := industry.exists_validate_eq
  rw [found]
  cases industry.chain table with
  | error e => simp [Except.map]
  | ok chain =>
    simp only [Except.map, Except.ok.injEq, warningsWith, List.append_eq_nil_iff,
      List.map_eq_nil_iff, List.flatMap_eq_nil_iff, flatten_perEconomy_eq_nil_iff hperEconomy,
      SiteRequirements.conflicts_eq_nil_iff, tileWarnings_chain_eq_nil_iff,
      layoutWarnings_eq_nil_iff, exists_eq', true_and]
    constructor
    · rintro ⟨⟨⟨economies, site⟩, tiles⟩, layouts⟩
      exact { economies, site, tiles, layouts }
    · intro h
      exact ⟨⟨⟨h.economies, h.site⟩, h.tiles⟩, h.layouts⟩

theorem repeatedIn_validate (h : industry.validate table = .ok warnings) :
    repeatedIn warnings = repeatedIn
      ((industry.requirements.conflicts industry.id).map (.siteConflict industry.id)) := by
  obtain ⟨perEconomy, hperEconomy, rfl⟩ := exists_eq_of_validate h
  have economies : repeatedIn perEconomy.flatten = [] :=
    repeatedIn_eq_nil fun warning mem => by simp [subject_perEconomy hperEconomy warning mem]
  have tiles : repeatedIn (industry.tiles.flatMap fun tile =>
      tileWarnings tile (tile.chain industry.id)) = [] :=
    repeatedIn_eq_nil fun warning mem => by simp [industry.subject_tiles warning mem]
  have layouts : repeatedIn industry.layoutWarnings = [] :=
    repeatedIn_eq_nil fun warning mem => by simp [industry.subject_layoutWarnings warning mem]
  simp only [warningsWith, repeatedIn_append, economies, tiles, layouts, List.nil_append,
    List.append_nil]

/-- The check of an industry fails just if its location chain does, with the same error. It is
silent just if there is a location chain and the industry is consistent. Every incompatible id is
warned of once for each time that it is listed again, so that the number of these warnings is that
of the entries less that of the distinct ids. -/
theorem validate_consistent (industry : Industry) (table : NumberTable) :
    (∀ e, industry.validate table = .error e ↔ industry.chain table = .error e) ∧
    (industry.validate table = .ok [] ↔
      (∃ chain, industry.chain table = .ok chain) ∧ industry.Consistent) ∧
    ∀ warnings, industry.validate table = .ok warnings →
      let ids := industry.requirements.incompatible.map (·.1)
      (repeatedIn warnings ++ ids.dedup).Perm ids ∧
        (repeatedIn warnings).length = ids.length - ids.dedup.length := by
  refine ⟨fun e => validate_eq_error_iff, validate_eq_nil_iff, fun warnings valid => ?_⟩
  intro ids
  have perm : (repeatedIn warnings ++ ids.dedup).Perm ids := by
    rw [repeatedIn_validate valid]
    exact SiteRequirements.repeatedIn_conflicts _ _
  have length := perm.length_eq
  rw [List.length_append] at length
  exact ⟨perm, by omega⟩

/-- A hotel that keeps away from towns, from other hotels and from some industries. -/
def countryHotel (incompatible : List (IndustryId × UInt32)) : Industry :=
  { Industry.create "hotel" 14 .tertiary (.ofList [(.acceptCargoTypes, .textList ["PASS"])]) with
    variations := Dictionary.empty.insert "STEELTOWN" { enabled := true }
    requirements := { townDistance := some (8, 40), sameTypeDistance := some 16, incompatible }
    tiles := [.ofRequirements "hotel_tile" { disallowSlopes := true }]
    graphics :=
      { spritelayouts :=
          [{ id := "hotel_garden", groundSprite := .sprite 0, groundOverlay := .sprite 0 }]
        layouts := [⟨"hotel_layout", [⟨0, 0, "hotel_tile", "hotel_garden"⟩, ⟨0, 1, "255", ""⟩]⟩] } }

theorem validate_consistent_hotel :
    let table : NumberTable := fun id => if id = "hotel" then some 14 else some 12
    (countryHotel [("general_store", 20)]).validate table = .ok [] ∧
    ∃ warnings, (countryHotel [("general_store", 20), ("wharf", 8), ("general_store", 30)]).validate
      table = .ok warnings ∧ repeatedIn warnings = ["general_store"] := by
  intro table
  have consistent : (countryHotel [("general_store", 20)]).Consistent :=
    { economies := by
        intro economy enabled
        have only : (countryHotel [("general_store", 20)]).enabledEconomies = ["STEELTOWN"] := by
          decide +kernel
        rw [← mem_enabledEconomies, only, List.mem_singleton] at enabled
        subst enabled
        exact
          { accepted := ⟨["PASS"], by decide +kernel, by decide⟩
            produced := ⟨[], by decide +kernel, by decide⟩
            fundTexts := ⟨[], by decide +kernel, by decide⟩ }
      site :=
        { townDistance := by rintro _ _ ⟨⟩; decide
          clusterDistance := by rintro _ ⟨⟩
          distinct := by decide
          notOwn := fun _ => by decide }
      tiles := List.forall_mem_singleton.2
        { slopes := fun _ => by decide
          coast := fun _ => by decide
          closed := fun _ => ⟨.founder, by decide, by decide⟩ }
      layouts := List.forall_mem_singleton.2 fun position mem tiled => by
        rcases List.mem_pair.1 mem with rfl | rfl
        · exact
            { tile := ⟨_, List.mem_singleton_self _, rfl⟩
              target := .inl ⟨_, List.mem_singleton_self _, rfl⟩ }
        · cases tiled }
  obtain ⟨chain, built⟩ : ∃ chain, (countryHotel [("general_store", 20)]).chain table = .ok chain :=
    exists_of_isOk (by decide +kernel)
  obtain ⟨-, silent, -⟩ := validate_consistent (countryHotel [("general_store", 20)]) table
  refine ⟨silent.2 ⟨⟨chain, built⟩, consistent⟩, ?_⟩
  let repeating := countryHotel [("general_store", 20), ("wharf", 8), ("general_store", 30)]
  obtain ⟨warnings, valid⟩ : ∃ warnings, repeating.validate table = .ok warnings :=
    exists_of_isOk (by decide +kernel)
  obtain ⟨-, -, repeated⟩ := validate_consistent repeating table
  have perm : (repeatedIn warnings ++ ["wharf", "general_store"]).Perm
      ["general_store", "wharf", "general_store"] := (repeated warnings valid).1
  refine ⟨warnings, valid, List.perm_singleton.1 ?_⟩
  rw [← List.perm_append_right_iff ["wharf", "general_store"]]
  exact perm

end Industry

end IndustrySet
