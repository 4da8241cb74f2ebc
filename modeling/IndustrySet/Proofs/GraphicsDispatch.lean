import IndustrySet.Proofs.Dictionaries
import IndustrySet.Proofs.Resolution
import IndustrySet.Proofs.WrittenSwitches
import Mathlib.Data.List.Nodup

set_option autoImplicit false

/-! # What is drawn on a tile

The tiles of an industry are drawn by one switch. Following it through the switches for the layouts,
the positions, the slopes, the construction states and the terrain, one ends at the spritelayout
that the layout asks for at that position, or at a twin of it (`drawnAs_tileGraphics`). Each switch
on the way stands in the text, whose lines tell where it leads. -/

namespace IndustrySet

/-- What the game knows of a tile when it draws it. -/
structure TileState where
  constructionState : Nat
  /-- The number of the layout of the industry, counted from 1. -/
  layoutNumber : Nat
  x : Int8
  y : Int8
  /-- The NML constant for the slope. -/
  slope : String
  /-- The NML constant for the terrain. -/
  terrain : String

/-- The values of the variables that switches on tiles look at. The number of the layout is known to
the industry, the rest to the tile. -/
def TileState.read (tile : TileState) (s : Nml.Switch) : Option Nml.Case :=
  match s.scope, s.expression with
  | "SELF", .term "construction_state" => some (.number tile.constructionState)
  | "PARENT", .term "layout_num" => some (.number tile.layoutNumber)
  | "SELF", .term "relative_pos" => some (.position tile.x tile.y)
  | "SELF", .term "tile_slope" => some (.word tile.slope)
  | "SELF", .term "terrain_type" => some (.word tile.terrain)
  | _, _ => none

/-- The target for a slope: that of its first entry, or the default. -/
def SlopeSwitch.targetFor (slopes : SlopeSwitch) (slope : String) : String :=
  match slopes.mapping.find? fun entry => entry.1 = slope with
  | some entry => entry.2
  | none => slopes.defaultResult

namespace Industry

/-! ## What the switches select -/

section

variable {industry : Industry}

/-- The name under which a spritelayout is drawn on a tile of the finished industry. -/
def finishedName (s : Spritelayout) (tile : TileState) : String :=
  if s.terrainAwareGround ∧ tile.terrain = "TILETYPE_SNOW" then s.snowName else s.id

/-- The name under which a spritelayout is drawn on a tile. -/
def drawnName (industry : Industry) (s : Spritelayout) (tile : TileState) : String :=
  if industry.drawsConstruction ∧ tile.constructionState ∈ constructionStates then
    s.constructionName tile.constructionState
  else finishedName s tile

theorem select_terrainSwitch (s : Spritelayout) (terrain : String) :
    (terrainSwitch s).select (.word terrain) =
      .named (if terrain = "TILETYPE_SNOW" then s.snowName else s.id) := by
  by_cases snow : terrain = "TILETYPE_SNOW"
  · simp [Nml.Switch.select, terrainSwitch, snow]
  · simp [Nml.Switch.select, terrainSwitch, snow, Ne.symm snow]

theorem select_constructionSwitch (s : Spritelayout) (state : Nat) :
    (constructionSwitch s).select (.number state) =
      .named (if state ∈ constructionStates then s.constructionName state
        else s.finishedTarget) := by
  rw [Nml.Switch.select_eq rfl]
  simp only [Nml.Case.number.injEq]
  cases found : constructionStates.find? fun other => other = state with
  | none =>
    have notMem : state ∉ constructionStates := by
      intro mem
      simpa using List.find?_eq_none.1 found state mem
    rw [if_neg notMem]
    rfl
  | some other =>
    have same : other = state := by simpa using List.find?_some found
    have mem : state ∈ constructionStates := same ▸ List.mem_of_find?_eq_some found
    rw [if_pos mem, ← same]
    rfl

theorem select_slopeSwitch (slopes : SlopeSwitch) (slope : String) :
    (industry.slopeSwitch slopes).select (.word slope) =
      .named (industry.graphicsTarget (slopes.targetFor slope)) := by
  rw [Nml.Switch.select_eq rfl, SlopeSwitch.targetFor]
  simp only [Nml.Case.word.injEq]
  cases slopes.mapping.find? fun entry => entry.1 = slope <;> rfl

theorem select_tileGraphicsSwitch (state : Nat) :
    industry.tileGraphicsSwitch.select (.number state) =
      .named (if state = finished then industry.layoutsSwitchName
        else industry.constructionTarget) := by
  by_cases done : state = finished
  · simp [Nml.Switch.select, tileGraphicsSwitch, done]
  · simp [Nml.Switch.select, tileGraphicsSwitch, done, Ne.symm done]

/-- A layout with a tile at a position has a switch, and that switch selects what the first such
tile asks for. -/
theorem exists_positionSwitch (industry : Industry) {layout : Layout} {tile : TileState}
    {position : LayoutPosition}
    (placed : layout.occupied.find? (fun p => p.x = tile.x ∧ p.y = tile.y) = some position) :
    ∃ s, industry.positionSwitch? layout = some s ∧
      tile.read s = some (.position tile.x tile.y) ∧
      s.select (.position tile.x tile.y) = .named (industry.graphicsTarget position.target) := by
  unfold positionSwitch?
  cases branches : industry.positionBranches layout with
  | nil =>
    have nothing : layout.occupied = [] := by simpa [positionBranches] using branches
    simp [nothing] at placed
  | cons branch rest =>
    refine ⟨_, rfl, rfl, ?_⟩
    rw [Nml.Switch.select_eq branches.symm]
    simp only [Nml.Case.position.injEq, placed]
    rfl

/-- Layouts are numbered in order, those without a tile included. -/
theorem find?_numberedSwitches (industry : Industry) (start : Nat) {layouts : List Layout}
    {n : Nat} {layout : Layout} {s : Nml.Switch} (nth : layouts[n]? = some layout)
    (hs : industry.positionSwitch? layout = some s) :
    (industry.numberedSwitches start layouts).find? (fun numbered => numbered.1 = start + n) =
      some (start + n, s) := by
  have distinct : ((industry.numberedSwitches start layouts).map (·.1)).Nodup :=
    List.pairwise_map.2 ((industry.pairwise_numberedSwitches start layouts).imp Nat.ne_of_lt)
  exact (find?_eq_some_iff_of_nodup distinct).2
    ⟨mem_numberedSwitches.2 ⟨n, layout, nth, hs, rfl⟩, rfl⟩

/-! ## What is referred to -/

theorem sublist_namesOf (layouts : List Spritelayout) :
    (layouts.map (·.id)).Sublist (layouts.flatMap industry.namesOf) := by
  induction layouts with
  | nil => exact .slnil
  | cons layout rest ih =>
    rw [List.map_cons, List.flatMap_cons]
    exact (List.singleton_sublist.2 List.mem_cons_self).append ih

section

variable {blocks : List Nml.Block} {tile : TileState}
variable (rendered : industry.graphicsBlocks = .ok blocks)
variable (distinct : (Nml.graphicsNames blocks).Nodup)

include rendered distinct

/-- Where names are distinct, a spritelayout is found by its id. -/
theorem spritelayout?_eq_some {s : Spritelayout} (mem : s ∈ industry.graphics.spritelayouts) :
    industry.graphics.spritelayout? s.id = some s := by
  rw [graphicsNames_graphicsBlocks rendered, List.append_assoc] at distinct
  have ids : (industry.graphics.spritelayouts.map (·.id)).Nodup :=
    (List.nodup_append.1 distinct).1.sublist (sublist_namesOf _)
  cases found : industry.graphics.spritelayout? s.id with
  | none =>
    have := List.find?_eq_none.1 found s mem
    simp at this
  | some other =>
    have same : other.id = s.id := by simpa using List.find?_some found
    rw [List.inj_on_of_nodup_map ids (List.mem_of_find?_eq_some found) mem same]

/-- Where names are distinct, a slope switch is referred to by its id. -/
theorem graphicsTarget_slopeSwitch {slopes : SlopeSwitch}
    (mem : slopes ∈ industry.graphics.slopeSwitches) :
    industry.graphicsTarget slopes.id = slopes.id := by
  rw [graphicsNames_graphicsBlocks rendered] at distinct
  obtain ⟨_, _, disjoint⟩ := List.nodup_append.1 (List.nodup_append.1 distinct).1
  have none : industry.graphics.spritelayout? slopes.id = none := by
    refine List.find?_eq_none.2 fun s hs same => ?_
    have named : s.id ∈ industry.graphics.spritelayouts.flatMap industry.namesOf :=
      List.mem_flatMap.2 ⟨s, hs, List.mem_cons_self⟩
    exact disjoint s.id named slopes.id (List.mem_map.2 ⟨slopes, mem, rfl⟩) (by simpa using same)
  exact graphicsTarget_of_spritelayout?_eq_none none

/-! ## Following the switches -/

/-- The finished target of a spritelayout leads to it, or to its twin for snow. -/
theorem drawnAs_finishedTarget {s : Spritelayout}
    (mem : s ∈ industry.graphics.spritelayouts) :
    Nml.DrawnAs blocks tile.read s.finishedTarget (finishedName s tile) := by
  obtain ⟨part, hpart, written⟩ := exists_section rendered mem
  obtain ⟨stack, snow, construction, _, hstack, hsnow, _, rfl⟩ := spritelayoutBlocks_eq_ok hpart
  have plain : Nml.DrawnAs blocks tile.read s.id s.id :=
    hstack ▸ Nml.drawnAs_spritelayout distinct (written _ List.mem_cons_self)
  have part := snowBlocks_eq_ok hsnow
  split at part
  · next aware =>
    obtain ⟨snowy, _, hsnowy, rfl⟩ := part
    have snowyDrawn : Nml.DrawnAs blocks tile.read s.snowName s.snowName :=
      hsnowy ▸ Nml.drawnAs_spritelayout distinct (written (.spritelayout snowy) (by simp))
    rw [Spritelayout.finishedTarget, if_pos aware]
    refine Nml.DrawnAs.switch distinct (s := terrainSwitch s) (written _ (by simp)) rfl
      (select_terrainSwitch s tile.terrain) ?_
    by_cases onSnow : tile.terrain = "TILETYPE_SNOW"
    · simpa [finishedName, aware, onSnow] using snowyDrawn
    · simpa [finishedName, onSnow] using plain
  · next unaware =>
    simpa [Spritelayout.finishedTarget, finishedName, unaware] using plain

/-- What a spritelayout is referred to by leads to it, or to one of its twins. -/
theorem drawnAs_spritelayout {s : Spritelayout}
    (mem : s ∈ industry.graphics.spritelayouts) :
    Nml.DrawnAs blocks tile.read (industry.graphicsTarget s.id) (industry.drawnName s tile) := by
  have finishedDrawn : Nml.DrawnAs blocks tile.read s.finishedTarget (finishedName s tile) :=
    drawnAs_finishedTarget rendered distinct mem
  rw [graphicsTarget_of_spritelayout? (spritelayout?_eq_some rendered distinct mem)]
  obtain ⟨part, hpart, written⟩ := exists_section rendered mem
  obtain ⟨_, snow, construction, _, _, _, hconstruction, rfl⟩ := spritelayoutBlocks_eq_ok hpart
  have part := constructionBlocks_eq_ok hconstruction
  split at part
  · next draws =>
    obtain ⟨twins, _, htwins, rfl⟩ := part
    rw [if_pos draws]
    refine Nml.DrawnAs.switch distinct (s := constructionSwitch s) (written _ (by simp)) rfl
      (select_constructionSwitch s tile.constructionState) ?_
    by_cases under : tile.constructionState ∈ constructionStates
    · have named : s.constructionName tile.constructionState ∈ twins.map (·.name) := by
        rw [htwins]
        exact List.mem_map_of_mem under
      obtain ⟨twin, htwin, hname⟩ := List.mem_map.1 named
      rw [drawnName, if_pos under, if_pos ⟨draws, under⟩, ← hname]
      exact Nml.drawnAs_spritelayout distinct (written _ (by simp [htwin]))
    · rw [drawnName, if_neg under, if_neg (fun both => under both.2)]
      exact finishedDrawn
  · next leaves =>
    rw [if_neg leaves, drawnName, if_neg (fun both => leaves both.1)]
    exact finishedDrawn

/-- What a slope switch is referred to by leads to the spritelayout for the slope. -/
theorem drawnAs_slopeSwitch {slopes : SlopeSwitch}
    (mem : slopes ∈ industry.graphics.slopeSwitches) {s : Spritelayout}
    (hs : s ∈ industry.graphics.spritelayouts) (target : slopes.targetFor tile.slope = s.id) :
    Nml.DrawnAs blocks tile.read (industry.graphicsTarget slopes.id)
      (industry.drawnName s tile) := by
  rw [graphicsTarget_slopeSwitch rendered distinct mem]
  refine Nml.DrawnAs.switch distinct (s := industry.slopeSwitch slopes)
    (mem_of_slopeSwitch rendered mem) rfl (select_slopeSwitch slopes tile.slope) ?_
  rw [target]
  exact drawnAs_spritelayout rendered distinct hs

/-- The switch on the layout leads, by the layout and the position, to what is asked for there. -/
theorem drawnAs_layoutsSwitch {n : Nat} {layout : Layout}
    (nth : industry.graphics.layouts[n]? = some layout) (number : tile.layoutNumber = n + 1)
    {position : LayoutPosition}
    (placed : layout.occupied.find? (fun p => p.x = tile.x ∧ p.y = tile.y) = some position)
    {final : String}
    (rest : Nml.DrawnAs blocks tile.read (industry.graphicsTarget position.target) final) :
    .switch industry.tileGraphicsSwitch ∈ blocks ∧
      Nml.DrawnAs blocks tile.read industry.layoutsSwitchName final := by
  obtain ⟨s, hs, known, selects⟩ := industry.exists_positionSwitch placed
  have found := industry.find?_numberedSwitches 1 nth hs
  have written : ∀ t ∈ industry.layoutSwitches, .switch t ∈ blocks :=
    fun _ => mem_of_layoutSwitch rendered
  unfold layoutSwitches at written
  split at written
  · next nothing => simp [nothing] at found
  · next k first others numbered =>
    rw [numbered] at found
    have positions : Nml.DrawnAs blocks tile.read s.name final := by
      have mem := List.mem_of_find?_eq_some found
      exact Nml.DrawnAs.switch distinct
        (written s (List.mem_append_left _ (List.mem_map.2 ⟨_, mem, rfl⟩))) known selects rest
    have layouts := written (industry.layoutsSwitch ((k, first) :: others) first) (by simp)
    refine ⟨written _ (by simp), Nml.DrawnAs.switch distinct layouts rfl ?_ positions⟩
    rw [Nml.Switch.select_eq rfl]
    have atNumber : tile.layoutNumber = 1 + n := by omega
    simp only [Nml.Case.number.injEq, atNumber, found]
    rfl

end

/-- What is drawn on a tile whose layout asks for a spritelayout there, by itself or through a slope
switch. On the finished industry it is the spritelayout, or its twin for snow. Before that it is its
twin for the construction state, or what all industries share. Each switch on the way stands in the
text, where the lines of its branches and its default tell where it leads. -/
theorem drawnAs_tileGraphics {blocks : List Nml.Block} {tile : TileState}
    (rendered : industry.graphicsBlocks = .ok blocks)
    (distinct : (Nml.graphicsNames blocks).Nodup)
    (unshared : sharedConstruction ∉ Nml.graphicsNames blocks) {n : Nat} {layout : Layout}
    (nth : industry.graphics.layouts[n]? = some layout) (number : tile.layoutNumber = n + 1)
    {position : LayoutPosition}
    (placed : layout.occupied.find? (fun p => p.x = tile.x ∧ p.y = tile.y) = some position)
    {s : Spritelayout} (mem : s ∈ industry.graphics.spritelayouts)
    (asked : position.target = s.id ∨ ∃ slopes ∈ industry.graphics.slopeSwitches,
      position.target = slopes.id ∧ slopes.targetFor tile.slope = s.id) :
    (tile.constructionState = 3 →
      Nml.DrawnAs blocks tile.read (industry.id ++ "_switch_graphics")
        (if s.terrainAwareGround ∧ tile.terrain = "TILETYPE_SNOW" then s.id ++ "_snow"
          else s.id)) ∧
    (tile.constructionState < 3 → industry.drawsConstruction = true →
      Nml.DrawnAs blocks tile.read (industry.id ++ "_switch_graphics")
        (s.id ++ "_construction_state_" ++ toString tile.constructionState)) ∧
    (tile.constructionState < 3 → industry.drawsConstruction = false →
      Nml.EndsAt blocks tile.read (industry.id ++ "_switch_graphics") sharedConstruction) ∧
    ∀ s value, .switch s ∈ blocks → tile.read s = some value →
      (∃ before after, Nml.render blocks = before ++ s.text ++ after) ∧
      (s.Tells value → Nml.selected? value.text s.text = some (s.select value).text) := by
  -- What is asked for at the position decides, whichever way it is asked for.
  have atPosition : Nml.DrawnAs blocks tile.read (industry.graphicsTarget position.target)
      (industry.drawnName s tile) := by
    rcases asked with asked | ⟨slopes, hslopes, asked, target⟩
    · exact asked ▸ drawnAs_spritelayout rendered distinct mem
    · exact asked ▸ drawnAs_slopeSwitch rendered distinct hslopes mem target
  obtain ⟨written, layouts⟩ := drawnAs_layoutsSwitch rendered distinct nth number placed atPosition
  have known : tile.read industry.tileGraphicsSwitch = some (.number tile.constructionState) := rfl
  refine ⟨fun done => ?_, fun under draws => ?_, fun under leaves => ?_, fun s value mem _ =>
    ⟨Nml.exists_render_of_switch mem, Nml.Switch.selected?_text⟩⟩
  · have notUnder :
        ¬(industry.drawsConstruction ∧ tile.constructionState ∈ constructionStates) := by
      rw [done]
      simp [constructionStates]
    rw [drawnName, if_neg notUnder] at layouts
    refine Nml.DrawnAs.switch distinct written known ?_ layouts
    rw [select_tileGraphicsSwitch, finished, if_pos done]
  · have isUnder : tile.constructionState ∈ constructionStates := by
      simp only [constructionStates, List.mem_cons, List.not_mem_nil, or_false]
      omega
    rw [drawnName, if_pos ⟨draws, isUnder⟩] at layouts
    refine Nml.DrawnAs.switch distinct written known ?_ layouts
    rw [select_tileGraphicsSwitch, finished, if_neg (by omega), constructionTarget, if_pos draws]
  · refine Nml.EndsAt.switch distinct written known ?_
      (.arrived (Nml.switchNamed?_eq_none unshared))
    rw [select_tileGraphicsSwitch, finished, if_neg (by omega), constructionTarget, leaves]
    rfl

end

/-- A dredging site whose second layout stands on the coast. Its first layout places no tile. -/
def dredgingSite : Industry :=
  let dredger : Spritelayout :=
    { id := "dredger", groundSprite := .sprite 0, groundOverlay := .sprite 0,
      terrainAwareGround := true }
  { create "dredging_site" 12 .primaryExtractive
      (.ofList [(.overrideDefaultConstructionStates, .bool true)]) with
    graphics :=
      { sprites := [{ number := "4061" }]
        spritelayouts := [{ dredger with id := "jetty" }, dredger]
        slopeSwitches := [⟨"shore", [("SLOPE_NE", "dredger")], "jetty"⟩]
        layouts :=
          [⟨"basin", [⟨0, 0, vacantTile, "jetty"⟩]⟩,
           ⟨"coast", [⟨0, 0, vacantTile, "jetty"⟩, ⟨0, 0, "deck", "shore"⟩]⟩] } }

/-- The lines of the first switch that is followed say where it leads on the finished site. -/
theorem drawnAs_dredgingSite :
    ∃ blocks, dredgingSite.graphicsBlocks = .ok blocks ∧
      Nml.DrawnAs blocks (TileState.mk 3 2 0 0 "SLOPE_NE" "TILETYPE_SNOW").read
        "dredging_site_switch_graphics" "dredger_snow" ∧
      Nml.DrawnAs blocks (TileState.mk 1 2 0 0 "SLOPE_FLAT" "TILETYPE_SNOW").read
        "dredging_site_switch_graphics" "jetty_construction_state_1" ∧
      Nml.selected? "3" dredgingSite.tileGraphicsSwitch.text =
        some "dredging_site_industry_graphics_switch_layouts" := by
  obtain ⟨blocks, rendered, distinct, unshared, mem⟩ : ∃ blocks,
      dredgingSite.graphicsBlocks = .ok blocks ∧ (Nml.graphicsNames blocks).Nodup ∧
        sharedConstruction ∉ Nml.graphicsNames blocks ∧
        .switch dredgingSite.tileGraphicsSwitch ∈ blocks :=
    exists_of_any (by decide +kernel)
  refine ⟨blocks, rendered, ?_, ?_, ?_⟩
  · exact (drawnAs_tileGraphics rendered distinct unshared (n := 1) rfl rfl (by rfl)
      (s := dredgingSite.graphics.spritelayouts[1]) (by decide)
      (.inr ⟨_, List.mem_cons_self, by decide, by decide⟩)).1 rfl
  · exact (drawnAs_tileGraphics rendered distinct unshared (n := 1) rfl rfl (by rfl)
      (s := dredgingSite.graphics.spritelayouts[0]) (by decide)
      (.inr ⟨_, List.mem_cons_self, by decide, by decide⟩)).2.1 (by decide) (by decide +kernel)
  · have unbroken : (Nml.Block.switch dredgingSite.tileGraphicsSwitch).Unbroken := by decide +kernel
    have tells : dredgingSite.tileGraphicsSwitch.Tells (.number 3) := by
      refine Nml.Switch.tells_number unbroken (fun branch mem => ?_) 3
      cases List.mem_singleton.1 mem
      exact ⟨_, rfl⟩
    have known : (TileState.mk 3 2 0 0 "SLOPE_NE" "TILETYPE_SNOW").read
        dredgingSite.tileGraphicsSwitch = some (.number 3) := rfl
    have read := ((drawnAs_tileGraphics rendered distinct unshared (n := 1) rfl rfl (by rfl)
      (s := dredgingSite.graphics.spritelayouts[1]) (by decide)
      (.inr ⟨_, List.mem_cons_self, by decide, by decide⟩)).2.2.2 _ _ mem known).2 tells
    exact read.trans (by decide +kernel)

end Industry

end IndustrySet
