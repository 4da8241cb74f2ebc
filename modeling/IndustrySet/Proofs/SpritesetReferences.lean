import IndustrySet.Proofs.GraphicsBlocks

set_option autoImplicit false

/-! # The spritesets that are drawn

A spritelayout names the spritesets that it draws, by variation and terrain or by construction
state. Spritesets are written apart from that, under snow if any spritelayout asks for it; still,
each one that is drawn is written (`isWritten_spritelayoutsBlocks`). -/

namespace IndustrySet

namespace Nml

/-- The sprites of a spritelayout: ground, overlay and buildings. -/
def SpriteStack.sprites (stack : SpriteStack) : List SpriteExpr :=
  stack.ground :: stack.overlay :: stack.buildings.map (·.sprite)

/-- If a sprite is out of a spriteset, then that is among the blocks. -/
def SpriteExpr.IsWritten (blocks : List Block) : SpriteExpr → Prop
  | .number _ => True
  | .pick set _ => ∃ sheet rects, .spriteset set sheet rects ∈ blocks

end Nml

namespace Industry

variable {industry : Industry}

/-! ## The spritesets that are written -/

section

variable {set : Spriteset} (mem : set ∈ industry.graphics.spritesets)
include mem

theorem mem_spritesetsBlocks_of_spritesetBlocks {block : Nml.Block}
    (written : block ∈ industry.spritesetBlocks set) : block ∈ industry.spritesetsBlocks :=
  List.mem_flatMap.2 ⟨set, mem, written⟩

theorem mem_spritesetsBlocks_of_variationBlocks {variation : Nat} {block : Nml.Block}
    (known : variation < industry.dateVariations)
    (written : block ∈ industry.variationBlocks set variation) :
    block ∈ industry.spritesetsBlocks := by
  refine mem_spritesetsBlocks_of_spritesetBlocks mem (List.mem_append_left _ ?_)
  exact List.mem_flatMap.2 ⟨variation, List.mem_range.2 known, written⟩

theorem exists_variationBlock {variation : Nat} (known : variation < industry.dateVariations) :
    ∃ sheet rects,
      .spriteset (set.terrainName variation "") sheet rects ∈ industry.spritesetsBlocks := by
  have name : set.terrainName variation "" = set.variationName variation := by
    simp [Spriteset.terrainName]
  have written : ∃ sheet rects,
      .spriteset (set.variationName variation) sheet rects ∈
        industry.variationBlocks set variation := by
    unfold variationBlocks
    split <;> exact ⟨_, _, List.mem_cons_self⟩
  obtain ⟨sheet, rects, h⟩ := written
  exact ⟨sheet, rects, name ▸ mem_spritesetsBlocks_of_variationBlocks mem known h⟩

theorem exists_snowBlock {variation : Nat} (known : variation < industry.dateVariations)
    (snow : industry.graphics.needsSnow = true) :
    ∃ sheet rects,
      .spriteset (set.terrainName variation "snow") sheet rects ∈ industry.spritesetsBlocks := by
  have written : ∃ sheet rects,
      .spriteset (set.terrainName variation "snow") sheet rects ∈
        industry.variationBlocks set variation := by
    simp only [variationBlocks, snow, if_true]
    split <;> exact ⟨_, _, List.mem_cons_of_mem _ List.mem_cons_self⟩
  obtain ⟨sheet, rects, h⟩ := written
  exact ⟨sheet, rects, mem_spritesetsBlocks_of_variationBlocks mem known h⟩

theorem exists_constructionBlock {state : Nat} (under : state ∈ constructionStates)
    (draws : industry.drawsConstruction = true) :
    ∃ sheet rects,
      .spriteset (set.constructionName state) sheet rects ∈ industry.spritesetsBlocks := by
  have block : ∃ sheet rects,
      industry.constructionBlock set state =
        .spriteset (set.constructionName state) sheet rects := by
    unfold constructionBlock
    split <;> exact ⟨_, _, rfl⟩
  obtain ⟨sheet, rects, h⟩ := block
  refine ⟨sheet, rects, mem_spritesetsBlocks_of_spritesetBlocks mem (List.mem_append_right _ ?_)⟩
  rw [if_pos draws]
  exact List.mem_map.2 ⟨state, under, h⟩

end

/-! ## The spritesets that are drawn -/

/-- The construction states and terrains that sprites are drawn in: there is snow only if some
spritelayout asks for it. -/
def IsDrawnIn (industry : Industry) (state : Nat) (terrain : String) : Prop :=
  (state = finished ∨ state ∈ constructionStates) ∧
    (terrain = "" ∨ terrain = "snow" ∧ industry.graphics.needsSnow = true)

section

variable {state : Nat} {terrain : String}

theorem isWritten_spriteExpr {ref : SpriteRef} {variation : Nat} {expr : Nml.SpriteExpr}
    (h : industry.spriteExpr ref state terrain variation = .ok expr)
    (drawn : industry.IsDrawnIn state terrain) (known : variation < industry.dateVariations) :
    expr.IsWritten industry.spritesetsBlocks := by
  cases ref with
  | sprite index =>
    obtain ⟨sprite, _, h⟩ := bind_eq_ok.1 h
    rw [← pure_eq_ok.1 h]
    trivial
  | spriteset id =>
    obtain ⟨set, hset, h⟩ := bind_eq_ok.1 h
    have mem : set ∈ industry.graphics.spritesets := by
      unfold spriteset at hset
      split at hset
      · next first found =>
        cases hset
        exact List.mem_of_find?_eq_some found
      · cases hset
    split at h
    · rw [← pure_eq_ok.1 h]
      rcases drawn.2 with rfl | ⟨rfl, snow⟩
      · exact exists_variationBlock mem known
      · exact exists_snowBlock mem known snow
    · next ownState =>
      simp only [Bool.or_eq_true, decide_eq_true_eq, Bool.not_eq_true', not_or,
        Bool.not_eq_false] at ownState
      rw [← pure_eq_ok.1 h]
      exact exists_constructionBlock mem (drawn.1.resolve_left ownState.1) ownState.2

/-- The first variation is there always. -/
theorem zero_lt_dateVariations : 0 < industry.dateVariations := Nat.succ_pos _

theorem isWritten_buildings {ref : SpriteRef} {buildings : List Nml.Building}
    (h : industry.buildings state ref = .ok buildings) (drawn : industry.IsDrawnIn state "") :
    ∀ building ∈ buildings, building.sprite.IsWritten industry.spritesetsBlocks := by
  intro building mem
  obtain ⟨place, _, h⟩ := bind_eq_ok.1 h
  split at h
  · obtain ⟨variation, hvariation, h⟩ := exists_of_mem_mapM h mem
    obtain ⟨sprite, hsprite, h⟩ := bind_eq_ok.1 h
    rw [← pure_eq_ok.1 h]
    exact isWritten_spriteExpr hsprite drawn (List.mem_range.1 hvariation)
  · obtain ⟨sprite, hsprite, h⟩ := bind_eq_ok.1 h
    rw [← pure_eq_ok.1 h] at mem
    rw [List.mem_singleton.1 mem]
    exact isWritten_spriteExpr hsprite drawn zero_lt_dateVariations

theorem isWritten_smokeBuildings {layout : Spritelayout} {buildings : List Nml.Building}
    (h : industry.smokeBuildings layout state = .ok buildings) :
    ∀ building ∈ buildings, building.sprite.IsWritten industry.spritesetsBlocks := by
  intro building mem
  unfold smokeBuildings at h
  split at h
  · obtain ⟨index, _, h⟩ := exists_of_mem_mapM h mem
    unfold smokeBuilding at h
    split at h
    · cases h
      trivial
    · cases h
  · cases h
    cases mem

theorem isWritten_spriteStack {layout : Spritelayout} {name : String} {stack : Nml.SpriteStack}
    (h : industry.spriteStack layout name state terrain = .ok stack)
    (drawn : industry.IsDrawnIn state terrain) :
    ∀ sprite ∈ stack.sprites, sprite.IsWritten industry.spritesetsBlocks := by
  obtain ⟨ground, hground, h⟩ := bind_eq_ok.1 h
  obtain ⟨overlay, hoverlay, h⟩ := bind_eq_ok.1 h
  obtain ⟨buildings, hbuildings, h⟩ := bind_eq_ok.1 h
  obtain ⟨smoke, hsmoke, h⟩ := bind_eq_ok.1 h
  rw [← pure_eq_ok.1 h]
  intro sprite mem
  rcases List.mem_cons.1 mem with rfl | mem
  · exact isWritten_spriteExpr hground drawn zero_lt_dateVariations
  rcases List.mem_cons.1 mem with rfl | mem
  · exact isWritten_spriteExpr hoverlay drawn zero_lt_dateVariations
  obtain ⟨building, hbuilding, rfl⟩ := List.mem_map.1 mem
  rcases List.mem_append.1 hbuilding with hbuilding | hsmoking
  · rcases List.mem_append.1 hbuilding with hbuilding | hfence
    · -- Buildings are drawn as under no snow, also in the twin for snow.
      obtain ⟨part, hpart, hbuilding⟩ := List.mem_flatten.1 hbuilding
      obtain ⟨ref, _, href⟩ := exists_of_mem_mapM hbuildings hpart
      exact isWritten_buildings href ⟨drawn.1, .inl rfl⟩ building hbuilding
    · obtain ⟨side, _, rfl⟩ := List.mem_map.1 hfence
      trivial
  · exact isWritten_smokeBuildings hsmoke building hsmoking

end

/-- What is written for a spritelayout draws it as finished, under snow, or in a construction state.
-/
theorem exists_spriteStack_of_mem {layout : Spritelayout}
    (hlayout : layout ∈ industry.graphics.spritelayouts) {blocks : List Nml.Block}
    (h : industry.spritelayoutBlocks layout = .ok blocks) {stack : Nml.SpriteStack}
    (mem : .spritelayout stack ∈ blocks) :
    ∃ name state terrain, industry.spriteStack layout name state terrain = .ok stack ∧
      industry.IsDrawnIn state terrain := by
  obtain ⟨own, snow, construction, hown, _, hsnow, hconstruction, rfl⟩ := spritelayoutBlocks_eq_ok h
  simp only [List.cons_append, List.mem_cons, List.mem_append] at mem
  rcases mem with same | mem | mem
  · cases same
    exact ⟨_, _, _, hown, .inl rfl, .inl rfl⟩
  · have part := snowBlocks_eq_ok hsnow
    split at part
    · next aware =>
      obtain ⟨snowy, hsnowy, _, rfl⟩ := part
      obtain rfl : stack = snowy := by simpa using mem
      have snow : industry.graphics.needsSnow = true :=
        List.any_eq_true.2 ⟨layout, hlayout, aware⟩
      exact ⟨_, _, _, hsnowy, .inl rfl, .inr ⟨rfl, snow⟩⟩
    · simp [part] at mem
  · have part := constructionBlocks_eq_ok hconstruction
    split at part
    · obtain ⟨twins, htwins, _, rfl⟩ := part
      have twin : stack ∈ twins := by simpa using mem
      obtain ⟨state, hstate, hstack⟩ := exists_of_mem_mapM htwins twin
      exact ⟨_, _, _, hstack, .inr hstate, .inl rfl⟩
    · simp [part] at mem

/-- Every spriteset that a spritelayout draws, be it finished, under snow, under construction or in
any variation, is one of the spritesets that are written. -/
theorem isWritten_spritelayoutsBlocks {blocks : List Nml.Block}
    (rendered : industry.spritelayoutsBlocks = .ok blocks) {stack : Nml.SpriteStack}
    (mem : .spritelayout stack ∈ blocks) {set selector : String}
    (drawn : .pick set selector ∈ stack.sprites) :
    ∃ sheet rects, .spriteset set sheet rects ∈ industry.spritesetsBlocks := by
  obtain ⟨sections, hsections, rendered⟩ := bind_eq_ok.1 rendered
  rw [← pure_eq_ok.1 rendered] at mem
  obtain ⟨part, hpart, mem⟩ := List.mem_flatten.1 mem
  obtain ⟨layout, hlayout, hblocks⟩ := exists_of_mem_mapM hsections hpart
  obtain ⟨name, state, terrain, hstack, circumstances⟩ :=
    exists_spriteStack_of_mem hlayout hblocks mem
  exact isWritten_spriteStack hstack circumstances _ drawn

/-- A fishing harbour whose quay was rebuilt once, and which draws snow and construction states. -/
def fishingHarbour : Industry :=
  { create "fishing_harbour" 31 .primaryOrganic
      (.ofList [(.overrideDefaultConstructionStates, .bool true)]) with
    graphicsChangeDates := [1950]
    graphics :=
      { spritesets := [{ id := "ground", ground := some .mud }, { id := "quay" }]
        spritelayouts :=
          [{ id := "harbour", groundSprite := .spriteset "ground",
             groundOverlay := .spriteset "quay", buildingSprites := [.spriteset "quay"],
             terrainAwareGround := true }] } }

theorem isWritten_fishingHarbour :
    ∃ blocks, fishingHarbour.spritelayoutsBlocks = .ok blocks ∧
      ∃ stack, .spritelayout stack ∈ blocks ∧
        (.pick "ground_0_snow" "0" ∈ stack.sprites ∧ .pick "quay_1" "0" ∈ stack.sprites) ∧
        (∃ sheet rects,
          .spriteset "ground_0_snow" sheet rects ∈ fishingHarbour.spritesetsBlocks) ∧
        ∃ sheet rects, .spriteset "quay_1" sheet rects ∈ fishingHarbour.spritesetsBlocks := by
  have draws : fishingHarbour.spritelayoutsBlocks.toOption.any (fun blocks =>
      blocks.any fun
        | .spritelayout stack => decide (.pick "ground_0_snow" "0" ∈ stack.sprites ∧
            .pick "quay_1" "0" ∈ stack.sprites)
        | _ => false) = true := by
    decide +kernel
  cases rendered : fishingHarbour.spritelayoutsBlocks with
  | error e => rw [rendered] at draws; cases draws
  | ok blocks =>
    rw [rendered] at draws
    obtain ⟨block, mem, drawn⟩ := List.any_eq_true.1 draws
    cases block with
    | spritelayout stack =>
      have drawn := of_decide_eq_true drawn
      exact ⟨blocks, rfl, stack, mem, drawn, isWritten_spritelayoutsBlocks rendered mem drawn.1,
        isWritten_spritelayoutsBlocks rendered mem drawn.2⟩
    | _ => cases drawn

end Industry

end IndustrySet
