import IndustrySet.Fragment.Graphics
import IndustrySet.Proofs.Fallible

set_option autoImplicit false

/-! # The blocks of the graphics

Which blocks the graphics of an industry consist of, section by section, and which names they give
to spritelayouts and switches. Everything that refers to graphics is argued from these two lists. -/

namespace IndustrySet

/-! ## Names -/

namespace Nml

/-- The name a block gives to a spritelayout or a switch. -/
def Block.graphicsName? : Block → Option String
  | .spritelayout stack => some stack.name
  | .switch s => some s.name
  | _ => none

/-- The names of spritelayouts and switches, in the order of the file. -/
def graphicsNames (blocks : List Block) : List String :=
  blocks.filterMap Block.graphicsName?

@[simp]
theorem graphicsNames_nil : graphicsNames [] = [] := rfl

@[simp]
theorem graphicsNames_append (before after : List Block) :
    graphicsNames (before ++ after) = graphicsNames before ++ graphicsNames after := by
  simp [graphicsNames]

@[simp]
theorem graphicsNames_spritelayout (stack : SpriteStack) (blocks : List Block) :
    graphicsNames (.spritelayout stack :: blocks) = stack.name :: graphicsNames blocks := rfl

@[simp]
theorem graphicsNames_switch (s : Switch) (blocks : List Block) :
    graphicsNames (.switch s :: blocks) = s.name :: graphicsNames blocks := rfl

@[simp]
theorem graphicsNames_spritelayouts (drawn : List SpriteStack) :
    graphicsNames (drawn.map .spritelayout) = drawn.map (·.name) := by
  induction drawn with
  | nil => rfl
  | cons stack rest ih => simp [ih]

@[simp]
theorem graphicsNames_switches (switches : List Switch) :
    graphicsNames (switches.map .switch) = switches.map (·.name) := by
  induction switches with
  | nil => rfl
  | cons s rest ih => simp [ih]

/-- A switch of tiles, which looks at a plain term. -/
structure Switch.IsOfTile (s : Switch) : Prop where
  feature : s.feature = featIndustryTiles
  term : ∃ text, s.expression = .term text

end Nml

/-- The names under which a spritelayout is written, in order: its own, those for snow and those for
the construction states. -/
def Industry.namesOf (industry : Industry) (layout : Spritelayout) : List String :=
  layout.id ::
    (if layout.terrainAwareGround then [layout.snowName, layout.terrainSwitchName] else []) ++
    if industry.drawsConstruction then
      Industry.constructionStates.map layout.constructionName ++ [layout.constructionSwitchName]
    else []

namespace Industry

variable {industry : Industry}

theorem graphicsTarget_of_spritelayout? {id : String} {layout : Spritelayout}
    (found : industry.graphics.spritelayout? id = some layout) :
    industry.graphicsTarget id =
      if industry.drawsConstruction then layout.constructionSwitchName
      else layout.finishedTarget := by
  simp [graphicsTarget, found]

theorem graphicsTarget_of_spritelayout?_eq_none {id : String}
    (missing : industry.graphics.spritelayout? id = none) : industry.graphicsTarget id = id := by
  simp [graphicsTarget, missing]

/-- A spritelayout is referred to by one of its names. -/
theorem graphicsTarget_mem_namesOf {id : String} {layout : Spritelayout}
    (found : industry.graphics.spritelayout? id = some layout) :
    industry.graphicsTarget id ∈ industry.namesOf layout := by
  rw [graphicsTarget_of_spritelayout? found, namesOf, Spritelayout.finishedTarget]
  cases industry.drawsConstruction <;> cases layout.terrainAwareGround <;> simp

/-! ## Spritelayouts -/

theorem name_of_spriteStack {layout : Spritelayout} {name terrain : String} {state : Nat}
    {stack : Nml.SpriteStack} (h : industry.spriteStack layout name state terrain = .ok stack) :
    stack.name = name := by
  obtain ⟨ground, _, h⟩ := bind_eq_ok.1 h
  obtain ⟨overlay, _, h⟩ := bind_eq_ok.1 h
  obtain ⟨buildings, _, h⟩ := bind_eq_ok.1 h
  obtain ⟨smoke, _, h⟩ := bind_eq_ok.1 h
  rw [← pure_eq_ok.1 h]

/-- The section for snow, of a spritelayout that has one. -/
theorem snowBlocks_eq_ok {layout : Spritelayout} {blocks : List Nml.Block}
    (h : industry.snowBlocks layout = .ok blocks) :
    if layout.terrainAwareGround then
      ∃ snowy, industry.spriteStack layout layout.snowName finished "snow" = .ok snowy ∧
        snowy.name = layout.snowName ∧
        blocks = [.spritelayout snowy, .switch (terrainSwitch layout)]
    else blocks = [] := by
  unfold snowBlocks at h
  split at h
  · next aware =>
    rw [if_pos aware]
    obtain ⟨snowy, hsnowy, h⟩ := bind_eq_ok.1 h
    exact ⟨snowy, hsnowy, name_of_spriteStack hsnowy, (pure_eq_ok.1 h).symm⟩
  · next unaware =>
    rw [if_neg unaware]
    exact (pure_eq_ok.1 h).symm

theorem names_of_twins {layout : Spritelayout} {states : List Nat} {twins : List Nml.SpriteStack}
    (h : states.mapM (fun state =>
      industry.spriteStack layout (layout.constructionName state) state "") = .ok twins) :
    twins.map (·.name) = states.map layout.constructionName :=
  map_of_mapM h fun _ _ => name_of_spriteStack

/-- The section for the construction states, of a spritelayout that has one. -/
theorem constructionBlocks_eq_ok {layout : Spritelayout} {blocks : List Nml.Block}
    (h : industry.constructionBlocks layout = .ok blocks) :
    if industry.drawsConstruction then
      ∃ twins,
        constructionStates.mapM (fun state =>
          industry.spriteStack layout (layout.constructionName state) state "") = .ok twins ∧
        twins.map (·.name) = constructionStates.map layout.constructionName ∧
        blocks = twins.map .spritelayout ++ [.switch (constructionSwitch layout)]
    else blocks = [] := by
  unfold constructionBlocks at h
  split at h
  · next draws =>
    rw [if_pos draws]
    obtain ⟨twins, htwins, h⟩ := bind_eq_ok.1 h
    exact ⟨twins, htwins, names_of_twins htwins, (pure_eq_ok.1 h).symm⟩
  · next leaves =>
    rw [if_neg leaves]
    exact (pure_eq_ok.1 h).symm

/-- What is written for a spritelayout: it comes first, and its twins follow. -/
theorem spritelayoutBlocks_eq_ok {layout : Spritelayout} {blocks : List Nml.Block}
    (h : industry.spritelayoutBlocks layout = .ok blocks) :
    ∃ stack snow construction,
      industry.spriteStack layout layout.id finished "" = .ok stack ∧ stack.name = layout.id ∧
      industry.snowBlocks layout = .ok snow ∧
      industry.constructionBlocks layout = .ok construction ∧
      blocks = .spritelayout stack :: snow ++ construction := by
  obtain ⟨stack, hstack, h⟩ := bind_eq_ok.1 h
  obtain ⟨snow, hsnow, h⟩ := bind_eq_ok.1 h
  obtain ⟨construction, hconstruction, h⟩ := bind_eq_ok.1 h
  exact ⟨stack, snow, construction, hstack, name_of_spriteStack hstack, hsnow, hconstruction,
    (pure_eq_ok.1 h).symm⟩

theorem graphicsNames_snowBlocks {layout : Spritelayout} {blocks : List Nml.Block}
    (h : industry.snowBlocks layout = .ok blocks) :
    Nml.graphicsNames blocks =
      if layout.terrainAwareGround then [layout.snowName, layout.terrainSwitchName] else [] := by
  have part := snowBlocks_eq_ok h
  split
  · next aware =>
    rw [if_pos aware] at part
    obtain ⟨snowy, _, hsnowy, rfl⟩ := part
    simp [hsnowy, terrainSwitch]
  · next unaware =>
    rw [if_neg unaware] at part
    simp [part]

theorem graphicsNames_constructionBlocks {layout : Spritelayout} {blocks : List Nml.Block}
    (h : industry.constructionBlocks layout = .ok blocks) :
    Nml.graphicsNames blocks =
      if industry.drawsConstruction then
        constructionStates.map layout.constructionName ++ [layout.constructionSwitchName]
      else [] := by
  have part := constructionBlocks_eq_ok h
  split
  · next draws =>
    rw [if_pos draws] at part
    obtain ⟨twins, _, htwins, rfl⟩ := part
    simp [htwins, constructionSwitch]
  · next leaves =>
    rw [if_neg leaves] at part
    simp [part]

theorem graphicsNames_spritelayoutBlocks {layout : Spritelayout} {blocks : List Nml.Block}
    (h : industry.spritelayoutBlocks layout = .ok blocks) :
    Nml.graphicsNames blocks = industry.namesOf layout := by
  obtain ⟨stack, snow, construction, _, hstack, hsnow, hconstruction, rfl⟩ :=
    spritelayoutBlocks_eq_ok h
  simp [namesOf, hstack, graphicsNames_snowBlocks hsnow,
    graphicsNames_constructionBlocks hconstruction]

/-! ## All graphics -/

/-- The sections of the graphics. -/
theorem graphicsBlocks_eq_ok {blocks : List Nml.Block} (h : industry.graphicsBlocks = .ok blocks) :
    ∃ drawn : List (List Nml.Block),
      industry.graphics.spritelayouts.mapM industry.spritelayoutBlocks = .ok drawn ∧
      blocks = industry.spritesetsBlocks ++ drawn.flatten ++ industry.slopeBlocks ++
        industry.layoutBlocks := by
  obtain ⟨spritelayouts, hspritelayouts, h⟩ := bind_eq_ok.1 h
  obtain ⟨drawn, hdrawn, hflat⟩ := bind_eq_ok.1 hspritelayouts
  refine ⟨drawn, hdrawn, ?_⟩
  rw [← pure_eq_ok.1 h, ← pure_eq_ok.1 hflat]

/-- Every spritelayout has its section. -/
theorem exists_section {blocks : List Nml.Block} (h : industry.graphicsBlocks = .ok blocks)
    {layout : Spritelayout} (mem : layout ∈ industry.graphics.spritelayouts) :
    ∃ part, industry.spritelayoutBlocks layout = .ok part ∧ ∀ block ∈ part, block ∈ blocks := by
  obtain ⟨drawn, hdrawn, rfl⟩ := graphicsBlocks_eq_ok h
  obtain ⟨part, hpart, hlayout⟩ := exists_of_mapM_mem hdrawn mem
  refine ⟨part, hlayout, fun block hblock => ?_⟩
  have : block ∈ drawn.flatten := List.mem_flatten.2 ⟨part, hpart, hblock⟩
  simp [this]

theorem mem_of_slopeSwitch {blocks : List Nml.Block} (h : industry.graphicsBlocks = .ok blocks)
    {slopes : SlopeSwitch} (mem : slopes ∈ industry.graphics.slopeSwitches) :
    .switch (industry.slopeSwitch slopes) ∈ blocks := by
  obtain ⟨drawn, _, rfl⟩ := graphicsBlocks_eq_ok h
  have : .switch (industry.slopeSwitch slopes) ∈ industry.slopeBlocks :=
    List.mem_map.2 ⟨slopes, mem, rfl⟩
  simp [this]

theorem mem_of_layoutSwitch {blocks : List Nml.Block} (h : industry.graphicsBlocks = .ok blocks)
    {s : Nml.Switch} (mem : s ∈ industry.layoutSwitches) : .switch s ∈ blocks := by
  obtain ⟨drawn, _, rfl⟩ := graphicsBlocks_eq_ok h
  have : .switch s ∈ industry.layoutBlocks := List.mem_map.2 ⟨s, mem, rfl⟩
  simp [this]

/-- The section with the spritesets holds spritesets only. -/
theorem mem_spritesetsBlocks {block : Nml.Block} (h : block ∈ industry.spritesetsBlocks) :
    ∃ name sheet rects, block = .spriteset name sheet rects := by
  obtain ⟨set, _, h⟩ := List.mem_flatMap.1 h
  rcases List.mem_append.1 h with h | h
  · obtain ⟨variation, _, h⟩ := List.mem_flatMap.1 h
    unfold variationBlocks at h
    split at h <;> split at h <;> simp only [List.mem_cons, List.not_mem_nil, or_false] at h
    · rcases h with rfl | rfl <;> exact ⟨_, _, _, rfl⟩
    · exact ⟨_, _, _, h⟩
    · rcases h with rfl | rfl <;> exact ⟨_, _, _, rfl⟩
    · exact ⟨_, _, _, h⟩
  · split at h
    · obtain ⟨state, _, rfl⟩ := List.mem_map.1 h
      unfold constructionBlock
      split <;> exact ⟨_, _, _, rfl⟩
    · simp at h

theorem graphicsNames_spritesetsBlocks : Nml.graphicsNames industry.spritesetsBlocks = [] := by
  rw [Nml.graphicsNames, List.filterMap_eq_nil_iff]
  intro block h
  obtain ⟨_, _, _, rfl⟩ := mem_spritesetsBlocks h
  rfl

theorem graphicsNames_drawn {layouts : List Spritelayout} {drawn : List (List Nml.Block)}
    (h : layouts.mapM industry.spritelayoutBlocks = .ok drawn) :
    Nml.graphicsNames drawn.flatten = layouts.flatMap industry.namesOf := by
  have sections := mapM_eq_ok.1 h
  clear h
  induction sections with
  | nil => rfl
  | cons head _ ih => simp [graphicsNames_spritelayoutBlocks head, ih]

theorem graphicsNames_slopeSwitches (switches : List SlopeSwitch) :
    Nml.graphicsNames (switches.map fun slopes => .switch (industry.slopeSwitch slopes)) =
      switches.map (·.id) := by
  induction switches with
  | nil => rfl
  | cons slopes rest ih =>
    rw [List.map_cons, Nml.graphicsNames_switch, ih]
    rfl

theorem graphicsNames_slopeBlocks :
    Nml.graphicsNames industry.slopeBlocks = industry.graphics.slopeSwitches.map (·.id) :=
  graphicsNames_slopeSwitches _

/-- The names that are written, section by section. -/
theorem graphicsNames_graphicsBlocks {blocks : List Nml.Block}
    (h : industry.graphicsBlocks = .ok blocks) :
    Nml.graphicsNames blocks =
      industry.graphics.spritelayouts.flatMap industry.namesOf ++
        industry.graphics.slopeSwitches.map (·.id) ++ industry.layoutSwitches.map (·.name) := by
  obtain ⟨drawn, hdrawn, rfl⟩ := graphicsBlocks_eq_ok h
  simp [graphicsNames_spritesetsBlocks, graphicsNames_drawn hdrawn, graphicsNames_slopeBlocks,
    layoutBlocks]

/-! ## What the graphics consist of -/

/-- Every layout counts, and those on which there is a tile have a switch. -/
theorem mem_numberedSwitches {start n : Nat} {layouts : List Layout} {s : Nml.Switch} :
    (n, s) ∈ industry.numberedSwitches start layouts ↔
      ∃ (k : Nat) (layout : Layout), layouts[k]? = some layout ∧
        industry.positionSwitch? layout = some s ∧ n = start + k := by
  induction layouts generalizing start with
  | nil => simp [numberedSwitches]
  | cons first rest ih =>
    -- The layout at place `0` is the first one, and all others are one place further on.
    have places : (∃ (k : Nat) (layout : Layout), (first :: rest)[k]? = some layout ∧
          industry.positionSwitch? layout = some s ∧ n = start + k) ↔
        (industry.positionSwitch? first = some s ∧ n = start) ∨
          (n, s) ∈ industry.numberedSwitches (start + 1) rest := by
      rw [ih]
      constructor
      · rintro ⟨k, layout, found, hs, rfl⟩
        cases k with
        | zero =>
          cases found
          exact .inl ⟨hs, rfl⟩
        | succ k => exact .inr ⟨k, layout, found, hs, by omega⟩
      · rintro (⟨hs, rfl⟩ | ⟨k, layout, found, hs, rfl⟩)
        · exact ⟨0, first, rfl, hs, rfl⟩
        · exact ⟨k + 1, layout, found, hs, by omega⟩
    rw [places, numberedSwitches]
    cases industry.positionSwitch? first with
    | none => simp
    | some other => simp [and_comm, eq_comm]

/-- The numbers ascend. -/
theorem pairwise_numberedSwitches (industry : Industry) (start : Nat) (layouts : List Layout) :
    (industry.numberedSwitches start layouts).Pairwise fun a b => a.1 < b.1 := by
  induction layouts generalizing start with
  | nil => exact .nil
  | cons first rest ih =>
    unfold numberedSwitches
    split
    · refine List.pairwise_cons.2 ⟨fun later mem => ?_, ih (start + 1)⟩
      obtain ⟨k, _, _, _, place⟩ := mem_numberedSwitches.1 mem
      show start < later.1
      omega
    · exact ih (start + 1)

theorem isOfTile_of_mem_layoutSwitches {s : Nml.Switch} (mem : s ∈ industry.layoutSwitches) :
    s.IsOfTile := by
  unfold layoutSwitches at mem
  split at mem
  · cases mem
  · next n first rest numbered =>
    rcases List.mem_append.1 mem with mem | mem
    · obtain ⟨⟨m, other⟩, hother, rfl⟩ := List.mem_map.1 mem
      obtain ⟨_, layout, _, hswitch, _⟩ := mem_numberedSwitches.1 (numbered ▸ hother)
      unfold positionSwitch? at hswitch
      split at hswitch
      · cases hswitch
      · cases hswitch
        exact ⟨rfl, _, rfl⟩
    · simp only [List.mem_cons, List.not_mem_nil, or_false] at mem
      rcases mem with rfl | rfl <;> exact ⟨rfl, _, rfl⟩

theorem mem_snowBlocks {layout : Spritelayout} {blocks : List Nml.Block}
    (h : industry.snowBlocks layout = .ok blocks) {block : Nml.Block} (mem : block ∈ blocks) :
    (∃ stack, block = .spritelayout stack) ∨
      ∃ s : Nml.Switch, s.IsOfTile ∧ block = .switch s := by
  have part := snowBlocks_eq_ok h
  split at part
  · obtain ⟨snowy, _, _, rfl⟩ := part
    simp only [List.mem_cons, List.not_mem_nil, or_false] at mem
    exact mem.imp (⟨_, ·⟩) (⟨_, ⟨rfl, _, rfl⟩, ·⟩)
  · simp [part] at mem

theorem mem_constructionBlocks {layout : Spritelayout} {blocks : List Nml.Block}
    (h : industry.constructionBlocks layout = .ok blocks) {block : Nml.Block}
    (mem : block ∈ blocks) :
    (∃ stack, block = .spritelayout stack) ∨
      ∃ s : Nml.Switch, s.IsOfTile ∧ block = .switch s := by
  have part := constructionBlocks_eq_ok h
  split at part
  · obtain ⟨twins, _, _, rfl⟩ := part
    rcases List.mem_append.1 mem with mem | mem
    · obtain ⟨twin, _, rfl⟩ := List.mem_map.1 mem
      exact .inl ⟨_, rfl⟩
    · exact .inr ⟨_, ⟨rfl, _, rfl⟩, List.mem_singleton.1 mem⟩
  · simp [part] at mem

/-- The graphics consist of spritesets, spritelayouts and switches of tiles. -/
theorem mem_graphicsBlocks {blocks : List Nml.Block} (h : industry.graphicsBlocks = .ok blocks)
    {block : Nml.Block} (mem : block ∈ blocks) :
    (∃ name sheet rects, block = .spriteset name sheet rects) ∨
      (∃ stack, block = .spritelayout stack) ∨
      ∃ s : Nml.Switch, s.IsOfTile ∧ block = .switch s := by
  obtain ⟨drawn, hdrawn, rfl⟩ := graphicsBlocks_eq_ok h
  simp only [List.mem_append] at mem
  rcases mem with ((mem | mem) | mem) | mem
  · exact .inl (mem_spritesetsBlocks mem)
  · obtain ⟨part, hpart, mem⟩ := List.mem_flatten.1 mem
    obtain ⟨layout, _, hlayout⟩ := exists_of_mem_mapM hdrawn hpart
    obtain ⟨stack, snow, construction, _, _, hsnow, hconstruction, rfl⟩ :=
      spritelayoutBlocks_eq_ok hlayout
    simp only [List.cons_append, List.mem_cons, List.mem_append] at mem
    rcases mem with rfl | mem | mem
    · exact .inr (.inl ⟨_, rfl⟩)
    · exact .inr (mem_snowBlocks hsnow mem)
    · exact .inr (mem_constructionBlocks hconstruction mem)
  · obtain ⟨slopes, _, rfl⟩ := List.mem_map.1 mem
    exact .inr (.inr ⟨_, ⟨rfl, _, rfl⟩, rfl⟩)
  · obtain ⟨s, hs, rfl⟩ := List.mem_map.1 mem
    exact .inr (.inr ⟨_, isOfTile_of_mem_layoutSwitches hs, rfl⟩)

end Industry

end IndustrySet
