import Mathlib.Data.List.Chain
import IndustrySet.Proofs.SpritesetReferences
import IndustrySet.Proofs.WrittenBlocks
import IndustrySet.Proofs.WrittenConditions

set_option autoImplicit false

/-! # Variations over the years

The graphics of an industry change in certain years, and a spriteset is drawn once for each
variation, hidden outside the years of that variation. In any year at least one of these buildings
is shown; it is always one alone just if the years of the changes are in order
(`shown_spritelayoutBlocks`).

The conditions are counted from one change to the next: what is shown from a change on depends on
the changes from there on only (`HideCondition.countShown_following`). Whether a building is shown
is told by its text. -/

namespace IndustrySet

/-- Is the building shown when the year that counts and the frame of the animation are these? -/
def Nml.Building.isShown (year : Int) (frame : Nat) (building : Nml.Building) : Bool :=
  !building.hideSprite.any (HideCondition.holds year frame)

namespace HideCondition

/-- How many of some conditions do not hide a sprite. -/
def countShown (year : Int) (frame : Nat) (conditions : List HideCondition) : Nat :=
  conditions.countP fun condition => !condition.holds year frame

/-! ## From one change to the next -/

/-- The conditions of the variations after a change, when these are the changes that follow. -/
def following : Int64 → List Int64 → List HideCondition
  | last, [] => [.beforeYear last]
  | first, second :: rest => .outsideYears first second :: following second rest

theorem getElem?_following (first : Int64) (rest : List Int64) {n : Nat} (h : n ≤ rest.length) :
    (following first rest)[n]? = some (Industry.hideConditionFor (first :: rest) (n + 1)) := by
  induction rest generalizing first n with
  | nil =>
    obtain rfl : n = 0 := Nat.le_zero.1 h
    rfl
  | cons second rest ih =>
    cases n with
    | zero => rfl
    | succ n =>
      rw [following, List.getElem?_cons_succ, ih second (Nat.le_of_succ_le_succ h)]
      simp only [Industry.hideConditionFor, List.getElem?_cons_succ, List.getLast?_cons_cons]

theorem length_following (first : Int64) (rest : List Int64) :
    (following first rest).length = rest.length + 1 := by
  induction rest generalizing first with
  | nil => rfl
  | cons second rest ih => rw [following, List.length_cons, ih, List.length_cons]

/-- The conditions of all variations, for at least one change. -/
theorem map_hideConditionFor (first : Int64) (rest : List Int64) :
    (List.range (rest.length + 2)).map (Industry.hideConditionFor (first :: rest)) =
      .sinceYear first :: following first rest := by
  refine List.ext_getElem? fun n => ?_
  by_cases inside : n < rest.length + 2
  · rw [List.getElem?_map, List.getElem?_range inside, Option.map_some]
    cases n with
    | zero => rfl
    | succ n => rw [List.getElem?_cons_succ, getElem?_following first rest (by omega)]
  · have beyond : rest.length + 2 ≤ n := Nat.le_of_not_lt inside
    rw [List.getElem?_eq_none (by rw [List.length_map, List.length_range]; exact beyond),
      List.getElem?_eq_none (by rw [List.length_cons, length_following]; exact beyond)]

variable {year : Int} {frame : Nat}

/-- One change more adds one variation, which is shown between it and the next change. -/
theorem countShown_following (first second : Int64) (rest : List Int64) :
    countShown year frame (following first (second :: rest)) =
      (if first.toInt ≤ year ∧ year < second.toInt then 1 else 0) +
        countShown year frame (following second rest) := by
  simp only [countShown, following, List.countP_cons, holds]
  rw [Nat.add_comm]
  congr 1
  refine if_congr ?_ rfl rfl
  simp

/-- From a change on, something is shown always. -/
theorem one_le_countShown_following {first : Int64} (h : first.toInt ≤ year) (frame : Nat)
    (rest : List Int64) : 1 ≤ countShown year frame (following first rest) := by
  induction rest generalizing first with
  | nil => simp [countShown, following, holds, h]
  | cons second rest ih =>
    rw [countShown_following]
    by_cases before : year < second.toInt
    · rw [if_pos ⟨h, before⟩]
      omega
    · have := ih (Int.not_lt.1 before)
      omega

/-! ## All variations -/

/-- How many variations are shown, for at least one change. -/
theorem countShown_cons (first : Int64) (rest : List Int64) :
    countShown year frame (.sinceYear first :: following first rest) =
      (if year < first.toInt then 1 else 0) + countShown year frame (following first rest) := by
  simp only [countShown, List.countP_cons, holds]
  rw [Nat.add_comm]
  congr 1
  refine if_congr ?_ rfl rfl
  simp

theorem one_le_countShown (first : Int64) (rest : List Int64) :
    1 ≤ countShown year frame (.sinceYear first :: following first rest) := by
  rw [countShown_cons]
  by_cases before : year < first.toInt
  · rw [if_pos before]
    omega
  · have := one_le_countShown_following (Int.not_lt.1 before) frame rest
    omega

/-- If the next change comes no earlier, the first one only divides the time before the next. -/
theorem countShown_merge {first second : Int64} (order : first ≤ second) (rest : List Int64) :
    countShown year frame (.sinceYear first :: following first (second :: rest)) =
      countShown year frame (.sinceYear second :: following second rest) := by
  rw [Int64.le_iff_toInt_le] at order
  rw [countShown_cons, countShown_cons, countShown_following]
  split_ifs <;> omega

/-- If the next change comes earlier, then in its year something is shown twice. -/
theorem two_le_countShown {first second : Int64} (order : ¬first ≤ second) (frame : Nat)
    (rest : List Int64) :
    2 ≤ countShown second.toInt frame (.sinceYear first :: following first (second :: rest)) := by
  rw [Int64.le_iff_toInt_le] at order
  have after := one_le_countShown_following (Int.le_refl second.toInt) frame rest
  rw [countShown_cons, countShown_following, if_pos (Int.not_le.1 order)]
  omega

theorem countShown_eq_one_iff (first : Int64) (rest : List Int64) :
    (∀ year, countShown year frame (.sinceYear first :: following first rest) = 1) ↔
      (first :: rest).Pairwise (· ≤ ·) := by
  rw [← List.isChain_iff_pairwise]
  induction rest generalizing first with
  | nil =>
    refine iff_of_true (fun year => ?_) (List.isChain_singleton _)
    rw [countShown_cons]
    by_cases before : year < first.toInt <;> simp [countShown, following, holds, before]
  | cons second rest ih =>
    rw [List.isChain_cons_cons, ← ih second]
    constructor
    · intro alone
      have order : first ≤ second := by
        by_contra order
        have twice := two_le_countShown order frame rest
        rw [alone] at twice
        omega
      exact ⟨order, fun year => countShown_merge order rest ▸ alone year⟩
    · rintro ⟨order, alone⟩ year
      rw [countShown_merge order rest, alone]

end HideCondition

namespace Industry

variable {industry : Industry} {state : Nat} {set : String} {own : List Nml.Building}

/-! ## The buildings for a spriteset -/

/-- Where the buildings for a reference to a spriteset are hidden, one after the other. -/
def hiddenWhere (industry : Industry) : List (Option HideCondition) :=
  if industry.graphicsChangeDates = [] then [none]
  else (List.range industry.dateVariations).map fun variation =>
    some (industry.hideCondition variation)

theorem map_hideSprite_buildings (h : industry.buildings state (.spriteset set) = .ok own) :
    own.map (·.hideSprite) = industry.hiddenWhere := by
  obtain ⟨place, _, h⟩ := bind_eq_ok.1 h
  have varied : industry.isDateVaried (.spriteset set) = true ↔
      industry.graphicsChangeDates ≠ [] := by
    simp [isDateVaried, dateVariations, List.length_pos_iff]
  split at h
  · next changes =>
    rw [hiddenWhere, if_neg (varied.1 changes)]
    refine map_of_mapM h fun variation building drawn => ?_
    obtain ⟨sprite, _, drawn⟩ := bind_eq_ok.1 drawn
    rw [← pure_eq_ok.1 drawn]
    rfl
  · next stays =>
    obtain ⟨sprite, _, h⟩ := bind_eq_ok.1 h
    rw [hiddenWhere, if_pos (Decidable.not_not.1 (mt varied.2 stays)), ← pure_eq_ok.1 h]
    rfl

/-- How many of the buildings for a reference to a spriteset are shown. -/
theorem countP_isShown (h : industry.buildings state (.spriteset set) = .ok own) (year : Int)
    (frame : Nat) :
    own.countP (·.isShown year frame) =
      match industry.graphicsChangeDates with
      | [] => 1
      | first :: rest =>
        HideCondition.countShown year frame
          (.sinceYear first :: HideCondition.following first rest) := by
  have conditions : own.countP (·.isShown year frame) =
      industry.hiddenWhere.countP fun condition =>
        !condition.any (HideCondition.holds year frame) := by
    rw [← map_hideSprite_buildings h, List.countP_map]
    rfl
  rw [conditions, hiddenWhere]
  cases dates : industry.graphicsChangeDates with
  | nil => rfl
  | cons first rest =>
    dsimp only
    rw [if_neg (List.cons_ne_nil first rest), ← HideCondition.map_hideConditionFor,
      HideCondition.countShown, List.countP_map, List.countP_map, dateVariations, dates]
    simp only [Function.comp_def, hideCondition, dates]
    rfl

theorem exists_isShown (h : industry.buildings state (.spriteset set) = .ok own) (year : Int)
    (frame : Nat) : ∃ building ∈ own, building.isShown year frame = true := by
  rw [← List.countP_pos_iff, countP_isShown h]
  split
  · exact Nat.zero_lt_one
  · exact HideCondition.one_le_countShown _ _

theorem countP_isShown_eq_one_iff (h : industry.buildings state (.spriteset set) = .ok own)
    (frame : Nat) :
    (∀ year, own.countP (·.isShown year frame) = 1) ↔
      industry.graphicsChangeDates.Pairwise (· ≤ ·) := by
  simp only [countP_isShown h]
  cases industry.graphicsChangeDates with
  | nil => exact iff_of_true (fun _ => rfl) .nil
  | cons first rest => exact HideCondition.countShown_eq_one_iff first rest

/-- A building is shown just if its text says so. -/
theorem isShown?_eq_some_true (year : Int) (frame : Nat) :
    (fun building : Nml.Building => decide (Nml.isShown? year frame building.text = some true)) =
      (·.isShown year frame) := by
  funext building
  rw [Nml.Building.isShown?_text]
  simp [Nml.Building.isShown]

/-- What is written for a spritelayout, be it finished, under snow or under construction, has the
buildings for one reference after the other, and then fences and smoke. Those for a reference to a
spriteset are one for each variation, hidden outside its years, or a single one that is never
hidden. In any year one of them is shown by its text, and no second one in any year just if the
years in which the graphics change are in order. -/
theorem shown_spritelayoutBlocks {layout : Spritelayout}
    (declared : layout ∈ industry.graphics.spritelayouts) {blocks : List Nml.Block}
    (rendered : industry.spritelayoutBlocks layout = .ok blocks) {stack : Nml.SpriteStack}
    (mem : .spritelayout stack ∈ blocks) :
    ∃ state parts others, stack.buildings = parts.flatten ++ others ∧
      (∃ before after, Nml.render blocks = before ++
        ("spritelayout " ++ stack.name ++ " \x7b\n" ++
          "    ground \x7b\n        sprite: " ++ stack.ground.text ++ ";\n    \x7d\n" ++
          "    childsprite \x7b\n        sprite: " ++ stack.overlay.text ++
          ";\n        always_draw: 1;\n    \x7d\n" ++
          String.join (parts.flatten.map Nml.Building.text) ++
          String.join (others.map Nml.Building.text) ++ "\x7d\n") ++ after) ∧
      List.Forall₂ (fun ref own => industry.buildings state ref = .ok own ∧
        ∀ set, ref = .spriteset set →
          own.map (·.hideSprite) = industry.hiddenWhere ∧
          (∀ building ∈ own, ∀ year frame,
            Nml.isShown? year frame building.text = some (building.isShown year frame)) ∧
          (∀ year frame, ∃ building ∈ own,
            Nml.isShown? year frame building.text = some true) ∧
          ∀ frame, (∀ year, own.countP (fun building =>
              Nml.isShown? year frame building.text = some true) = 1) ↔
            industry.graphicsChangeDates.Pairwise (· ≤ ·))
        layout.buildingSprites parts := by
  obtain ⟨name, state, terrain, h, _⟩ := exists_spriteStack_of_mem declared rendered mem
  obtain ⟨ground, _, h⟩ := bind_eq_ok.1 h
  obtain ⟨overlay, _, h⟩ := bind_eq_ok.1 h
  obtain ⟨parts, hparts, h⟩ := bind_eq_ok.1 h
  obtain ⟨smoke, _, h⟩ := bind_eq_ok.1 h
  obtain ⟨before, after, text⟩ := Nml.exists_render_of_mem mem
  obtain ⟨others, split⟩ : ∃ others, stack.buildings = parts.flatten ++ others := by
    rw [← pure_eq_ok.1 h]
    exact ⟨_, List.append_assoc _ _ _⟩
  refine ⟨state, parts, others, split, ⟨before, after, ?_⟩, (mapM_eq_ok.1 hparts).imp ?_⟩
  · rw [text, ← Nml.SpriteStack.text_of_buildings split]
    rfl
  · rintro ref own drawn
    refine ⟨drawn, ?_⟩
    rintro set rfl
    refine ⟨map_hideSprite_buildings drawn, fun building _ year frame =>
      Nml.Building.isShown?_text year frame building, fun year frame => ?_, fun frame => ?_⟩
    · obtain ⟨building, mem, shown⟩ := exists_isShown drawn year frame
      exact ⟨building, mem,
        (Nml.Building.isShown?_text year frame building).trans (congrArg some shown)⟩
    · simp only [isShown?_eq_some_true]
      exact countP_isShown_eq_one_iff drawn frame

/-- A furnace behind a fence. -/
def furnaceHall : Spritelayout where
  id := "furnace_hall"
  groundSprite := .spriteset "furnace"
  groundOverlay := .spriteset "furnace"
  buildingSprites := [.spriteset "furnace"]
  fences := [.northEast]

/-- A glass works whose changes are declared in the wrong order. -/
def glassWorks : Industry :=
  { create "glass_works" 44 .tertiary (.ofList []) with
    graphicsChangeDates := [1960, 1928]
    graphics := { spritesets := [{ id := "furnace" }], spritelayouts := [furnaceHall] } }

/-- The furnace is there in every year, in some years more than once. -/
theorem shown_glassWorks :
    furnaceHall ∈ glassWorks.graphics.spritelayouts ∧
      ∃ blocks, glassWorks.spritelayoutBlocks furnaceHall = .ok blocks ∧
        ∃ stack, .spritelayout stack ∈ blocks ∧
          ∃ own others, stack.buildings = own ++ others ∧
            own.map (·.hideSprite) =
              [some (.sinceYear 1960), some (.outsideYears 1960 1928), some (.beforeYear 1928)] ∧
            (∃ before after, Nml.render blocks =
              before ++ String.join (own.map Nml.Building.text) ++ after) ∧
            (∀ year frame, ∃ building ∈ own,
              Nml.isShown? year frame building.text = some true) ∧
            ¬∀ year, own.countP (fun building =>
              Nml.isShown? year 0 building.text = some true) = 1 := by
  have declared : furnaceHall ∈ glassWorks.graphics.spritelayouts := List.mem_singleton_self _
  obtain ⟨blocks, rendered⟩ : ∃ blocks, glassWorks.spritelayoutBlocks furnaceHall = .ok blocks :=
    exists_of_isOk (by decide +kernel)
  obtain ⟨stack, mem⟩ : ∃ stack, .spritelayout stack ∈ blocks := by
    obtain ⟨stack, snow, construction, _, _, _, _, rfl⟩ := spritelayoutBlocks_eq_ok rendered
    exact ⟨stack, List.mem_cons_self⟩
  obtain ⟨state, parts, others, split, ⟨before, after, text⟩, drawn⟩ :=
    shown_spritelayoutBlocks declared rendered mem
  obtain ⟨own, rest, ⟨_, shown⟩, nothing, rfl⟩ := List.forall₂_cons_left_iff.1 drawn
  cases List.forall₂_nil_left_iff.1 nothing
  obtain ⟨hidden, _, always, alone⟩ := shown _ rfl
  rw [List.flatten_singleton] at split text
  have regroup (a b c d e f : String) :
      a ++ (b ++ c ++ d ++ e) ++ f = a ++ b ++ c ++ (d ++ e ++ f) := by
    simp only [String.append_assoc]
  exact ⟨declared, blocks, rendered, stack, mem, own, others, split, hidden,
    ⟨_, _, text.trans (regroup _ _ _ _ _ _)⟩, always,
    fun once => absurd ((alone 0).1 once) (by decide)⟩

end Industry

end IndustrySet
