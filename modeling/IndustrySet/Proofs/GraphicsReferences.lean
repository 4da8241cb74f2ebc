import IndustrySet.Industry.Consistency
import IndustrySet.Proofs.GraphicsBlocks

set_option autoImplicit false

/-! # What switches refer to

Names are resolved in the order of the file, so a switch may only refer to what stands before it.
Every section of the graphics does but one: the slope switches stand in the order in which they are
declared, and their targets are not checked. Where these only refer to spritelayouts and to slope
switches declared before, all graphics are in order (`refersBack_graphicsBlocks`). -/

namespace IndustrySet

/-! ## References -/

namespace Nml

/-- Where a switch may lead. -/
def Switch.targets (s : Switch) : List Target :=
  s.branches.map (·.2) ++ [s.default]

/-- Where a block may lead that is a switch. -/
def Block.targets : Block → List Target
  | .switch s => s.targets
  | _ => []

/-- All targets of a block are names out of some known ones. -/
def Block.RefersTo (known : List String) (block : Block) : Prop :=
  ∀ target ∈ block.targets, ∃ name ∈ known, target = .named name

/-- Every block refers to known names and to names given before it. -/
def RefersBack (known : List String) : List Block → Prop
  | [] => True
  | block :: rest => block.RefersTo known ∧ RefersBack (known ++ graphicsNames [block]) rest

variable {known more : List String} {block : Block} {blocks before after : List Block}

theorem Block.RefersTo.mono (h : block.RefersTo known) (subset : known ⊆ more) :
    block.RefersTo more := by
  intro target mem
  obtain ⟨name, hname, rfl⟩ := h target mem
  exact ⟨name, subset hname, rfl⟩

theorem Block.refersTo_spritelayout {stack : SpriteStack} :
    (Block.spritelayout stack).RefersTo known := by
  intro target mem
  cases mem

theorem refersBack_append :
    RefersBack known (before ++ after) ↔
      RefersBack known before ∧ RefersBack (known ++ graphicsNames before) after := by
  induction before generalizing known with
  | nil => simp [RefersBack]
  | cons block rest ih =>
    have names : graphicsNames (block :: rest) = graphicsNames [block] ++ graphicsNames rest :=
      graphicsNames_append [block] rest
    rw [List.cons_append, RefersBack, RefersBack, ih, names, List.append_assoc, and_assoc]

/-- Blocks that only refer to known names are in order. -/
theorem refersBack_of_forall (h : ∀ block ∈ blocks, block.RefersTo known) :
    RefersBack known blocks := by
  induction blocks generalizing known with
  | nil => trivial
  | cons block rest ih =>
    refine ⟨h block List.mem_cons_self, ih fun other mem => ?_⟩
    exact (h other (List.mem_cons_of_mem _ mem)).mono (List.subset_append_left _ _)

/-- What is made of a list refers back if each element's block refers to those before it. -/
theorem refersBack_map {α : Type} {f : α → Block} {as : List α} :
    RefersBack known (as.map f) ↔ ∀ earlier a later, as = earlier ++ a :: later →
      (f a).RefersTo (known ++ graphicsNames (earlier.map f)) := by
  induction as generalizing known with
  | nil => simp [RefersBack]
  | cons first rest ih =>
    rw [List.map_cons, RefersBack, ih]
    constructor
    · rintro ⟨head, tail⟩ earlier a later split
      cases earlier with
      | nil =>
        cases split
        simpa using head
      | cons b earlier =>
        cases split
        have := tail earlier a later rfl
        rwa [List.append_assoc, ← graphicsNames_append] at this
    · intro each
      refine ⟨by simpa using each [] first rest rfl, fun earlier a later split => ?_⟩
      have := each (first :: earlier) a later (by rw [split, List.cons_append])
      rwa [List.append_assoc, ← graphicsNames_append]

theorem refersBack_iff :
    RefersBack known blocks ↔ ∀ before block after, blocks = before ++ block :: after →
      block.RefersTo (known ++ graphicsNames before) := by
  have made := @refersBack_map known Block id blocks
  simpa using made

end Nml

namespace Industry

variable {industry : Industry} {blocks : List Nml.Block} {known : List String}

/-! ## Spritelayouts -/

theorem refersBack_snowBlocks {layout : Spritelayout} (h : industry.snowBlocks layout = .ok blocks)
    (own : layout.id ∈ known) : Nml.RefersBack known blocks := by
  have part := snowBlocks_eq_ok h
  split at part
  · obtain ⟨snowy, _, hsnowy, rfl⟩ := part
    refine ⟨Nml.Block.refersTo_spritelayout, ?_, trivial⟩
    have targets :
        (terrainSwitch layout).targets = [.named layout.snowName, .named layout.id] := rfl
    intro target mem
    rw [Nml.Block.targets, targets] at mem
    rcases List.mem_cons.1 mem with rfl | mem
    · exact ⟨_, by simp [hsnowy], rfl⟩
    · exact ⟨_, List.mem_append_left _ own, List.mem_singleton.1 mem⟩
  · rw [part]
    trivial

theorem refersBack_constructionBlocks {layout : Spritelayout}
    (h : industry.constructionBlocks layout = .ok blocks)
    (finished : layout.finishedTarget ∈ known) : Nml.RefersBack known blocks := by
  have part := constructionBlocks_eq_ok h
  split at part
  · obtain ⟨twins, _, htwins, rfl⟩ := part
    refine Nml.refersBack_append.2 ⟨Nml.refersBack_of_forall fun block mem => ?_, ?_, trivial⟩
    · obtain ⟨twin, _, rfl⟩ := List.mem_map.1 mem
      exact Nml.Block.refersTo_spritelayout
    · rw [Nml.graphicsNames_spritelayouts, htwins]
      intro target mem
      rcases List.mem_append.1 mem with mem | mem
      · simp only [constructionSwitch, List.map_map, List.mem_map] at mem
        obtain ⟨state, hstate, rfl⟩ := mem
        exact ⟨_, List.mem_append_right _ (List.mem_map_of_mem hstate), rfl⟩
      · exact ⟨_, List.mem_append_left _ finished, List.mem_singleton.1 mem⟩
  · rw [part]
    trivial

/-- A spritelayout refers to its twins and to itself. -/
theorem refersBack_spritelayoutBlocks {layout : Spritelayout}
    (h : industry.spritelayoutBlocks layout = .ok blocks) : Nml.RefersBack known blocks := by
  obtain ⟨stack, snow, construction, _, hstack, hsnow, hconstruction, rfl⟩ :=
    spritelayoutBlocks_eq_ok h
  rw [List.cons_append]
  refine ⟨Nml.Block.refersTo_spritelayout, Nml.refersBack_append.2 ⟨?_, ?_⟩⟩
  · exact refersBack_snowBlocks hsnow (by simp [hstack])
  · refine refersBack_constructionBlocks hconstruction ?_
    rw [graphicsNames_snowBlocks hsnow, Spritelayout.finishedTarget]
    split <;> simp [hstack]

theorem refersBack_drawn {layouts : List Spritelayout} {drawn : List (List Nml.Block)}
    (h : layouts.mapM industry.spritelayoutBlocks = .ok drawn) :
    Nml.RefersBack known drawn.flatten := by
  have sections := mapM_eq_ok.1 h
  clear h
  induction sections generalizing known with
  | nil => trivial
  | cons head _ ih =>
    rw [List.flatten_cons]
    exact Nml.refersBack_append.2 ⟨refersBack_spritelayoutBlocks head, ih⟩

/-! ## Layouts -/

/-- What a spritelayout or slope switch is referred to by is one of the names written for it. -/
theorem graphicsTarget_mem {id : String} (h : industry.graphics.hasTarget id = true) :
    industry.graphicsTarget id ∈
      industry.graphics.spritelayouts.flatMap industry.namesOf ++
        industry.graphics.slopeSwitches.map (·.id) := by
  cases found : industry.graphics.spritelayout? id with
  | some layout =>
    refine List.mem_append_left _ (List.mem_flatMap.2 ⟨layout, List.mem_of_find?_eq_some found, ?_⟩)
    exact graphicsTarget_mem_namesOf found
  | none =>
    have noLayout : industry.graphics.spritelayouts.any (·.id = id) = false := by
      simpa [Graphics.spritelayout?] using found
    simp only [Graphics.hasTarget, noLayout, Bool.false_or, List.any_eq_true,
      decide_eq_true_eq] at h
    obtain ⟨slopes, hslopes, rfl⟩ := h
    rw [graphicsTarget_of_spritelayout?_eq_none found]
    exact List.mem_append_right _ (List.mem_map.2 ⟨slopes, hslopes, rfl⟩)

/-- Without warnings, every position of a layout asks for something that is there. -/
theorem hasTarget_of_validate {table : NumberTable} (valid : industry.validate table = .ok [])
    {layout : Layout} (hlayout : layout ∈ industry.graphics.layouts) {position : LayoutPosition}
    (hposition : position ∈ layout.occupied) :
    industry.graphics.hasTarget position.target = true := by
  obtain ⟨economies, _, valid⟩ := bind_eq_ok.1 valid
  obtain ⟨site, _, valid⟩ := bind_eq_ok.1 valid
  obtain ⟨_, none⟩ := List.append_eq_nil_iff.1 (pure_eq_ok.1 valid)
  have noneHere := List.flatMap_eq_nil_iff.1 none layout hlayout
  have noneThere := List.flatMap_eq_nil_iff.1 noneHere position hposition
  obtain ⟨_, known⟩ := List.append_eq_nil_iff.1 noneThere
  by_contra unknown
  simp [unknown] at known

/-- The switch on the position refers to what the positions ask for. -/
theorem refersTo_positionSwitch {layout : Layout} {s : Nml.Switch}
    (h : industry.positionSwitch? layout = some s)
    (asked : ∀ position ∈ layout.occupied, industry.graphicsTarget position.target ∈ known) :
    (Nml.Block.switch s).RefersTo known := by
  have branches : ∀ branch ∈ industry.positionBranches layout, ∃ name ∈ known,
      branch.2 = .named name := by
    intro branch mem
    obtain ⟨position, hposition, rfl⟩ := List.mem_map.1 mem
    exact ⟨_, asked position hposition, rfl⟩
  unfold positionSwitch? at h
  split at h
  · cases h
  · next first rest split =>
    cases h
    rw [split] at branches
    intro target mem
    rcases List.mem_append.1 mem with mem | mem
    · obtain ⟨branch, hbranch, rfl⟩ := List.mem_map.1 mem
      exact branches branch hbranch
    · rw [List.mem_singleton.1 mem]
      exact branches first List.mem_cons_self

/-- The switches for the layouts refer to what the positions ask for and to each other. -/
theorem refersBack_layoutBlocks (shared : sharedConstruction ∈ known)
    (asked : ∀ layout ∈ industry.graphics.layouts, ∀ position ∈ layout.occupied,
      industry.graphicsTarget position.target ∈ known) :
    Nml.RefersBack known industry.layoutBlocks := by
  unfold layoutBlocks layoutSwitches
  split
  · trivial
  · next n first rest split =>
    rw [List.map_append, Nml.refersBack_append, Nml.graphicsNames_switches]
    -- First the switches on the position, then the one on the layout, then the one of the tiles.
    refine ⟨Nml.refersBack_of_forall fun block mem => ?_, ?_, ?_, trivial⟩
    · obtain ⟨s, hs, rfl⟩ := List.mem_map.1 mem
      obtain ⟨⟨k, s⟩, numbered, rfl⟩ := List.mem_map.1 hs
      obtain ⟨_, layout, place, hpositions, _⟩ := mem_numberedSwitches.1 (split ▸ numbered)
      have hlayout := List.mem_of_getElem? place
      exact refersTo_positionSwitch hpositions (asked layout hlayout)
    · intro target mem
      rcases List.mem_append.1 mem with mem | mem
      · simp only [layoutsSwitch, List.map_map, List.mem_map] at mem
        obtain ⟨⟨k, s⟩, numbered, rfl⟩ := mem
        refine ⟨s.name, List.mem_append_right _ (List.mem_map.2 ⟨s, ?_, rfl⟩), rfl⟩
        exact List.mem_map.2 ⟨_, numbered, rfl⟩
      · exact ⟨first.name, by simp, List.mem_singleton.1 mem⟩
    · intro target mem
      rcases List.mem_cons.1 mem with rfl | mem
      · exact ⟨industry.layoutsSwitchName, by simp [layoutsSwitch], rfl⟩
      · refine ⟨industry.constructionTarget, ?_, List.mem_singleton.1 mem⟩
        rw [constructionTarget]
        split
        · simp [layoutsSwitch]
        · simp [shared]

/-! ## Slope switches -/

/-- A slope switch refers to known names if its targets do, as spritelayouts always do. -/
theorem refersTo_slopeSwitch {slopes : SlopeSwitch}
    (drawn : industry.graphics.spritelayouts.flatMap industry.namesOf ⊆ known) :
    (Nml.Block.switch (industry.slopeSwitch slopes)).RefersTo known ↔
      ∀ target ∈ slopes.mapping.map (·.2) ++ [slopes.defaultResult], target ∈ known := by
  -- A spritelayout may be referred to by another name than its id, but then both are written.
  have target_mem : ∀ target, industry.graphicsTarget target ∈ known ↔ target ∈ known := by
    intro target
    cases found : industry.graphics.spritelayout? target with
    | none => rw [graphicsTarget_of_spritelayout?_eq_none found]
    | some layout =>
      have mem := List.mem_of_find?_eq_some found
      have same : layout.id = target := by simpa using List.find?_some found
      constructor
      · intro _
        exact drawn (List.mem_flatMap.2 ⟨layout, mem, same ▸ List.mem_cons_self⟩)
      · intro _
        exact drawn (List.mem_flatMap.2 ⟨layout, mem, graphicsTarget_mem_namesOf found⟩)
  have targets : (Nml.Block.switch (industry.slopeSwitch slopes)).targets =
      (slopes.mapping.map (·.2) ++ [slopes.defaultResult]).map
        fun target => .named (industry.graphicsTarget target) := by
    simp [Nml.Block.targets, Nml.Switch.targets, slopeSwitch]
  constructor
  · intro h target mem
    obtain ⟨name, hname, same⟩ :=
      h _ (targets ▸ List.mem_map.2 ⟨target, mem, rfl⟩)
    cases same
    exact (target_mem target).1 hname
  · intro h target mem
    rw [targets] at mem
    obtain ⟨id, hid, rfl⟩ := List.mem_map.1 mem
    exact ⟨_, (target_mem id).2 (h id hid), rfl⟩

theorem refersBack_slopeBlocks
    (drawn : industry.graphics.spritelayouts.flatMap industry.namesOf ⊆ known) :
    Nml.RefersBack known industry.slopeBlocks ↔
      ∀ earlier slopes later, industry.graphics.slopeSwitches = earlier ++ slopes :: later →
        ∀ target ∈ slopes.mapping.map (·.2) ++ [slopes.defaultResult],
          target ∈ known ++ earlier.map (·.id) := by
  have each : ∀ (earlier : List SlopeSwitch) (slopes : SlopeSwitch),
      (Nml.Block.switch (industry.slopeSwitch slopes)).RefersTo (known ++ earlier.map (·.id)) ↔
        ∀ target ∈ slopes.mapping.map (·.2) ++ [slopes.defaultResult],
          target ∈ known ++ earlier.map (·.id) :=
    fun _ _ => refersTo_slopeSwitch fun _ mem => List.mem_append_left _ (drawn mem)
  simp only [slopeBlocks, Nml.refersBack_map, graphicsNames_slopeSwitches, each]

/-! ## All graphics -/

/-- The graphics of an industry without warnings are in order, just when its slope switches are. -/
theorem refersBack_iff_slopeBlocks {table : NumberTable}
    (valid : industry.validate table = .ok []) (rendered : industry.graphicsBlocks = .ok blocks) :
    Nml.RefersBack [sharedConstruction] blocks ↔
      Nml.RefersBack
        (sharedConstruction :: industry.graphics.spritelayouts.flatMap industry.namesOf)
        industry.slopeBlocks := by
  obtain ⟨drawn, hdrawn, rfl⟩ := graphicsBlocks_eq_ok rendered
  -- Of the four sections, only the one with the slope switches can be out of order.
  have spritesets : Nml.RefersBack [sharedConstruction] industry.spritesetsBlocks := by
    refine Nml.refersBack_of_forall fun block mem => ?_
    obtain ⟨_, _, _, rfl⟩ := mem_spritesetsBlocks mem
    intro target mem
    cases mem
  have layouts : Nml.RefersBack
      (sharedConstruction :: (industry.graphics.spritelayouts.flatMap industry.namesOf ++
        industry.graphics.slopeSwitches.map (·.id))) industry.layoutBlocks := by
    refine refersBack_layoutBlocks List.mem_cons_self fun layout hlayout position hposition => ?_
    have there := hasTarget_of_validate valid hlayout hposition
    exact List.mem_cons_of_mem _ (graphicsTarget_mem there)
  simp only [Nml.refersBack_append, Nml.graphicsNames_append, graphicsNames_spritesetsBlocks,
    graphicsNames_drawn hdrawn, graphicsNames_slopeBlocks, List.nil_append, List.append_nil,
    List.singleton_append]
  constructor
  · rintro ⟨⟨_, slopes⟩, _⟩
    exact slopes
  · intro slopes
    exact ⟨⟨⟨spritesets, refersBack_drawn hdrawn⟩, slopes⟩, layouts⟩

/-- Switches alone refer to anything. -/
theorem refersBack_iff_switches :
    Nml.RefersBack [sharedConstruction] blocks ↔
      ∀ before s after, blocks = before ++ .switch s :: after →
        ∀ target ∈ s.branches.map (·.2) ++ [s.default], ∃ name, target = .named name ∧
          (name = sharedConstruction ∨ name ∈ Nml.graphicsNames before) := by
  rw [Nml.refersBack_iff]
  constructor
  · intro h before s after split target mem
    obtain ⟨name, hname, same⟩ := h before _ after split target mem
    exact ⟨name, same, List.mem_cons.1 hname⟩
  · intro h before block after split
    cases block with
    | switch s =>
      intro target mem
      obtain ⟨name, same, hname⟩ := h before s after split target mem
      exact ⟨name, List.mem_cons.2 hname, same⟩
    | _ =>
      intro target mem
      cases mem

/-- In the graphics of an industry without warnings, every switch refers to what stands before it,
or to what all industries share, just when every slope switch names spritelayouts, slope switches
declared before it, or what all industries share. -/
theorem refersBack_graphicsBlocks {table : NumberTable} (valid : industry.validate table = .ok [])
    (rendered : industry.graphicsBlocks = .ok blocks) :
    (∀ before s after, blocks = before ++ .switch s :: after →
      ∀ target ∈ s.branches.map (·.2) ++ [s.default], ∃ name, target = .named name ∧
        (name = sharedConstruction ∨ name ∈ Nml.graphicsNames before)) ↔
    ∀ earlier slopes later, industry.graphics.slopeSwitches = earlier ++ slopes :: later →
      ∀ target ∈ slopes.mapping.map (·.2) ++ [slopes.defaultResult],
        target = sharedConstruction ∨
          target ∈ industry.graphics.spritelayouts.flatMap industry.namesOf ∨
          target ∈ earlier.map (·.id) := by
  rw [← refersBack_iff_switches, refersBack_iff_slopeBlocks valid rendered,
    refersBack_slopeBlocks (List.subset_cons_self _ _)]
  simp only [List.cons_append, List.mem_cons, List.mem_append]

/-- Terraces with some slope switches, which the only layout starts from. -/
def terraces (slopeSwitches : List SlopeSwitch) : Industry :=
  { create "terraces" 9 .tertiary .empty with
    tiles := [{ id := "terrace_tile" }]
    graphics :=
      { sprites := [{ number := "3924" }]
        spritelayouts :=
          [{ id := "terrace", groundSprite := .sprite 0, groundOverlay := .sprite 0 }]
        slopeSwitches
        layouts := [⟨"terraces_layout_1", [⟨0, 0, "terrace_tile", "upper"⟩]⟩] } }

/-- The slope switch for the upper terrace, which leads to the one for the lower terrace. -/
def upper : SlopeSwitch := ⟨"upper", [("SLOPE_FLAT", "terrace")], "lower"⟩

@[inherit_doc upper]
def lower : SlopeSwitch := ⟨"lower", [("SLOPE_NE", "terrace")], "terrace"⟩

theorem refersBack_terraces :
    ∃ blocks, (terraces [lower, upper]).graphicsBlocks = .ok blocks ∧
      ∀ before s after, blocks = before ++ .switch s :: after →
        ∀ target ∈ s.branches.map (·.2) ++ [s.default], ∃ name, target = .named name ∧
          (name = sharedConstruction ∨ name ∈ Nml.graphicsNames before) := by
  have renders : (terraces [lower, upper]).graphicsBlocks.isOk = true := by decide +kernel
  cases rendered : (terraces [lower, upper]).graphicsBlocks with
  | error e => rw [rendered] at renders; cases renders
  | ok blocks =>
    have valid : (terraces [lower, upper]).validate (fun _ => none) = .ok [] := by decide +kernel
    refine ⟨blocks, rfl, (refersBack_graphicsBlocks valid rendered).2 ?_⟩
    intro earlier slopes later split
    have split : [lower, upper] = earlier ++ slopes :: later := split
    rcases earlier with _ | ⟨first, _ | ⟨second, rest⟩⟩
    · cases split
      decide +kernel
    · cases split
      decide +kernel
    · simp at split

/-- Without a warning, a slope switch may refer to one that stands after it. -/
theorem not_refersBack_terraces :
    (terraces [upper, lower]).validate (fun _ => none) = .ok [] ∧
      ∃ blocks, (terraces [upper, lower]).graphicsBlocks = .ok blocks ∧
        ¬∀ before s after, blocks = before ++ .switch s :: after →
          ∀ target ∈ s.branches.map (·.2) ++ [s.default], ∃ name, target = .named name ∧
            (name = sharedConstruction ∨ name ∈ Nml.graphicsNames before) := by
  have valid : (terraces [upper, lower]).validate (fun _ => none) = .ok [] := by decide +kernel
  have renders : (terraces [upper, lower]).graphicsBlocks.isOk = true := by decide +kernel
  refine ⟨valid, ?_⟩
  cases rendered : (terraces [upper, lower]).graphicsBlocks with
  | error e => rw [rendered] at renders; cases renders
  | ok blocks =>
    refine ⟨blocks, rfl, fun inOrder => ?_⟩
    rw [← refersBack_iff_switches, refersBack_iff_slopeBlocks valid rendered,
      refersBack_slopeBlocks (List.subset_cons_self _ _)] at inOrder
    have known := inOrder [] upper [lower] rfl "lower" (by decide)
    revert known
    decide +kernel

end Industry

end IndustrySet
