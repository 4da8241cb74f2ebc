import IndustrySet.Proofs.EconomyPlayback

set_option autoImplicit false

/-! # What an industry refers to

An industry refers to sprites, spritesets, smoke and other industries, all of which may be missing.
It is written just when none is, and the error is about the first that is missing
(`needs_blocks`, `blocks_resolve`). Twins of spritelayouts refer to nothing else than these do, and
an economy is only ever asked for where the industry has a variation, so nothing else goes wrong. -/

namespace IndustrySet

/-- Something an industry refers to. -/
inductive Reference
  /-- A sprite or spriteset that a spritelayout draws. -/
  | drawn (ref : SpriteRef)
  /-- The smoke at a place of the industry's list. -/
  | smoke (index : UInt64)
  /-- An industry that a location check is about. -/
  | industry (id : IndustryId)
  deriving DecidableEq, Repr

namespace Reference

/-- Is there what is referred to? -/
def Resolves (graphics : Graphics) (table : NumberTable) : Reference → Prop
  | .drawn (.sprite index) => index.toNat < graphics.sprites.length
  | .drawn (.spriteset id) => ∃ set ∈ graphics.spritesets, set.id = id
  | .smoke index => index.toNat < graphics.smokeSprites.length
  | .industry id => ∃ number, table id = some number

/-- The error of an industry that refers to something missing. -/
def complaint (owner : IndustryId) : Reference → Error
  | .drawn (.sprite index) => .unknownSprite owner index
  | .drawn (.spriteset id) => .unknownSpriteset owner id
  | .smoke index => .unknownSprite owner index
  | .industry id => .unknownIndustry id

end Reference

/-- What a spritelayout refers to in a construction state: ground, overlay and buildings, and smoke
once the industry is finished. -/
def Spritelayout.referencesIn (layout : Spritelayout) (state : Nat) : List Reference :=
  .drawn layout.groundSprite :: .drawn layout.groundOverlay ::
    (layout.buildingSprites.map .drawn ++
      if state = Industry.finished then layout.smokeSprites.map .smoke else [])

/-- What a spritelayout refers to: ground, overlay, buildings and smoke. -/
def Spritelayout.references (layout : Spritelayout) : List Reference :=
  layout.referencesIn Industry.finished

/-- What the location checks of an industry refer to: the cluster, the industry itself, and those it
is incompatible with. -/
def SiteRequirements.references (r : SiteRequirements) (industry : IndustryId) : List Reference :=
  r.requireCluster.toList.map (fun c => .industry c.industry) ++
    r.sameTypeDistance.toList.map (fun _ => .industry industry) ++
    r.incompatible.map fun entry => .industry entry.1

namespace SiteRequirements

/-- The ids of the industries that the location checks refer to, in that order. -/
def industries (r : SiteRequirements) (own : IndustryId) : List IndustryId :=
  r.requireCluster.toList.map (·.industry) ++ r.sameTypeDistance.toList.map (fun _ => own) ++
    r.incompatible.map (·.1)

theorem references_eq (r : SiteRequirements) (own : IndustryId) :
    r.references own = (r.industries own).map .industry := by
  simp only [references, industries, List.map_append, List.map_map, Function.comp_def]

/-- The computation succeeds if the table has numbers of all of some industries, and else fails with
the error about the first of which it has none. -/
abbrev NeedsNumbers (table : NumberTable) {α : Type} (ids : List IndustryId)
    (x : Except Error α) : Prop :=
  Needs (fun id => ∃ number, table id = some number) .unknownIndustry ids x

theorem needs_number (table : NumberTable) (id : IndustryId) :
    NeedsNumbers table [id] (table.number id) := by
  refine .single (fun there => ?_) fun missing => ?_
  · obtain ⟨number, hnumber⟩ := there
    exact ⟨number, by simp only [NumberTable.number, hnumber]⟩
  · have absent : table id = none := by
      by_contra other
      exact missing (Option.ne_none_iff_exists'.1 other)
    simp only [NumberTable.number, absent]

theorem needs_chain (r : SiteRequirements) (own : IndustryId) (table : NumberTable) :
    NeedsNumbers table (r.industries own) (r.chain own table) := by
  have cluster : NeedsNumbers table (r.requireCluster.toList.map (·.industry))
      (clusterChecks table r.requireCluster) := by
    cases r.requireCluster with
    | none => exact .nothing ⟨_, rfl⟩
    | some c => exact (needs_number table c.industry).bind_ok fun _ _ => ⟨_, rfl⟩
  have sameType : NeedsNumbers table (r.sameTypeDistance.toList.map fun _ => own)
      (sameTypeChecks table own r.sameTypeDistance) := by
    cases r.sameTypeDistance with
    | none => exact .nothing ⟨_, rfl⟩
    | some distance => exact (needs_number table own).bind_ok fun _ _ => ⟨_, rfl⟩
  have others : NeedsNumbers table (r.incompatible.map (·.1))
      (r.incompatible.mapM (incompatibleCheck table)) :=
    Needs.mapM_single fun entry _ => (needs_number table entry.1).bind_ok fun _ _ => ⟨_, rfl⟩
  refine Needs.bind_ok ?_ fun _ _ => ⟨_, rfl⟩
  rw [industries, List.append_assoc]
  exact cluster.bind fun _ _ => sameType.bind fun _ _ => others.bind_ok fun _ _ => ⟨_, rfl⟩

end SiteRequirements

namespace Industry

/-- What an industry refers to, in reading order. -/
def references (industry : Industry) : List Reference :=
  industry.graphics.spritelayouts.flatMap Spritelayout.references ++
    industry.requirements.references industry.id

/-- The computation succeeds if all of some references resolve, and else fails with the error about
the first that does not. -/
abbrev NeedsAll (industry : Industry) (table : NumberTable) {α : Type} (refs : List Reference)
    (x : Except Error α) : Prop :=
  Needs (·.Resolves industry.graphics table) (·.complaint industry.id) refs x

variable {industry : Industry} (table : NumberTable)

/-! ## Spritelayouts -/

theorem needs_sprite (index : UInt64) :
    industry.NeedsAll table [.drawn (.sprite index)] (industry.sprite index) := by
  refine .single (fun there => ?_) fun missing => ?_
  · have found : industry.graphics.sprites[index.toNat]? = some _ := List.getElem?_eq_getElem there
    simp only [sprite, found]
    exact ⟨_, rfl⟩
  · have absent : industry.graphics.sprites[index.toNat]? = none :=
      List.getElem?_eq_none_iff.2 (Nat.not_lt.1 missing)
    simp only [sprite, absent, Reference.complaint]

theorem needs_spriteset (id : String) :
    industry.NeedsAll table [.drawn (.spriteset id)] (industry.spriteset id) := by
  refine .single (fun there => ?_) fun missing => ?_
  · obtain ⟨set, mem, same⟩ := there
    have found : (industry.graphics.spriteset? id).isSome = true :=
      List.find?_isSome.2 ⟨set, mem, decide_eq_true same⟩
    obtain ⟨first, hfirst⟩ := Option.isSome_iff_exists.1 found
    exact ⟨first, by simp only [spriteset, hfirst]⟩
  · have absent : industry.graphics.spriteset? id = none := by
      refine List.find?_eq_none.2 fun set mem same => missing ⟨set, mem, ?_⟩
      exact of_decide_eq_true same
    simp only [spriteset, absent, Reference.complaint]

theorem needs_spriteExpr (ref : SpriteRef) (state : Nat) (terrain : String) (variation : Nat) :
    industry.NeedsAll table [.drawn ref] (industry.spriteExpr ref state terrain variation) := by
  cases ref with
  | sprite index => exact (needs_sprite table index).bind_ok fun _ _ => ⟨_, rfl⟩
  | spriteset id =>
    refine (needs_spriteset table id).bind_ok fun set _ => ?_
    split <;> exact ⟨_, rfl⟩

theorem needs_placement (ref : SpriteRef) :
    industry.NeedsAll table [.drawn ref] (industry.placement ref) := by
  cases ref with
  | sprite index => exact (needs_sprite table index).bind_ok fun _ _ => ⟨_, rfl⟩
  | spriteset id => exact (needs_spriteset table id).bind_ok fun _ _ => ⟨_, rfl⟩

/-- What is placed can also be drawn, in every variation. -/
theorem needs_buildings (state : Nat) (ref : SpriteRef) :
    industry.NeedsAll table [.drawn ref] (industry.buildings state ref) := by
  refine (needs_placement table ref).bind_ok fun place placed => ?_
  have drawn : ∀ variation, ∃ sprite, industry.spriteExpr ref state "" variation = .ok sprite :=
    fun variation => (needs_spriteExpr table ref state "" variation).exists_ok
      ((needs_placement table ref).met_of_ok placed)
  split
  · exact exists_mapM_ok fun variation _ => exists_bind_ok (drawn variation) fun _ _ => ⟨_, rfl⟩
  · exact exists_bind_ok (drawn 0) fun _ _ => ⟨_, rfl⟩

theorem needs_smokeBuilding (index : UInt64) :
    industry.NeedsAll table [.smoke index] (industry.smokeBuilding index) := by
  refine .single (fun there => ?_) fun missing => ?_
  · have found : industry.graphics.smokeSprites[index.toNat]? = some _ :=
      List.getElem?_eq_getElem there
    simp only [smokeBuilding, found]
    exact ⟨_, rfl⟩
  · have absent : industry.graphics.smokeSprites[index.toNat]? = none :=
      List.getElem?_eq_none_iff.2 (Nat.not_lt.1 missing)
    simp only [smokeBuilding, absent, Reference.complaint]

theorem needs_spriteStack (layout : Spritelayout) (name : String) (state : Nat)
    (terrain : String) :
    industry.NeedsAll table (layout.referencesIn state)
      (industry.spriteStack layout name state terrain) := by
  have smoke : industry.NeedsAll table
      (if state = finished then layout.smokeSprites.map .smoke else [])
      (industry.smokeBuildings layout state) := by
    unfold smokeBuildings
    split
    · exact Needs.mapM_single fun index _ => needs_smokeBuilding table index
    · exact .nothing ⟨[], rfl⟩
  have buildings : industry.NeedsAll table (layout.buildingSprites.map .drawn)
      (layout.buildingSprites.mapM (industry.buildings state)) :=
    Needs.mapM_single fun ref _ => needs_buildings table state ref
  refine (needs_spriteExpr table _ _ _ _).bind fun _ _ => ?_
  refine (needs_spriteExpr table _ _ _ _).bind fun _ _ => ?_
  exact buildings.bind fun _ _ => smoke.bind_ok fun _ _ => ⟨_, rfl⟩

/-- A twin refers to nothing that the finished spritelayout does not refer to. -/
theorem referencesIn_subset (layout : Spritelayout) (state : Nat) :
    layout.referencesIn state ⊆ layout.references := by
  refine List.cons_subset_cons _ (List.cons_subset_cons _ ?_)
  rw [if_pos rfl]
  split
  · exact List.Subset.refl _
  · rw [List.append_nil]
    exact List.subset_append_left _ _

theorem needs_spritelayoutBlocks (layout : Spritelayout) :
    industry.NeedsAll table layout.references (industry.spritelayoutBlocks layout) := by
  refine (needs_spriteStack table layout _ _ _).bind_ok fun _ drawn => ?_
  have all := (needs_spriteStack table layout _ _ _).met_of_ok drawn
  have twin : ∀ name state terrain,
      ∃ stack, industry.spriteStack layout name state terrain = .ok stack := by
    intro name state terrain
    refine (needs_spriteStack table layout name state terrain).exists_ok fun ref mem => ?_
    exact all ref (referencesIn_subset layout state mem)
  refine exists_bind_ok ?_ fun _ _ => exists_bind_ok ?_ fun _ _ => ⟨_, rfl⟩
  · unfold snowBlocks
    split
    · exact exists_bind_ok (twin _ _ _) fun _ _ => ⟨_, rfl⟩
    · exact ⟨[], rfl⟩
  · unfold constructionBlocks
    split
    · exact exists_bind_ok (exists_mapM_ok fun _ _ => twin _ _ _) fun _ _ => ⟨_, rfl⟩
    · exact ⟨[], rfl⟩

theorem needs_graphicsBlocks :
    industry.NeedsAll table (industry.graphics.spritelayouts.flatMap Spritelayout.references)
      industry.graphicsBlocks := by
  refine Needs.bind_ok (Needs.bind_ok ?_ fun _ _ => ⟨_, rfl⟩) fun _ _ => ⟨_, rfl⟩
  exact Needs.mapM fun layout _ => needs_spritelayoutBlocks table layout

/-! ## Location checks -/

theorem needs_chain :
    industry.NeedsAll table (industry.requirements.references industry.id)
      (industry.chain table) := by
  rw [SiteRequirements.references_eq]
  exact (industry.requirements.needs_chain industry.id table).map

/-! ## What refers to nothing -/

section

variable {asked : Option EconomyId} {known : Option EconomyVariation}

theorem exists_processedCargos (h : industry.variation asked = .ok known) :
    ∃ processed, industry.processedCargos asked = .ok processed := by
  simp only [processedCargos, property_eq h]
  exact ⟨_, rfl⟩

theorem exists_fundTexts (h : industry.variation asked = .ok known) :
    ∃ texts, industry.fundTexts asked = .ok texts := by
  simp only [fundTexts, introYear, expiryYear, property_eq h]
  exact ⟨_, rfl⟩

theorem exists_extraTextFund (h : industry.variation asked = .ok known) :
    ∃ text, industry.extraTextFund asked = .ok text :=
  exists_bind_ok (exists_fundTexts h) fun _ _ => ⟨_, rfl⟩

theorem exists_extraTextString (h : industry.variation asked = .ok known) :
    ∃ text, industry.extraTextString? asked = .ok text := by
  refine exists_bind_ok (exists_processedCargos h) fun processed _ => ?_
  split
  · exact ⟨_, rfl⟩
  · simp only [property_eq h]
    exact ⟨_, rfl⟩

end

section

variable (industry)

theorem exists_tileBlocks (tile : Tile) (economies : Economies) :
    ∃ blocks, tile.blocks industry economies = .ok blocks := by
  refine exists_bind_ok ⟨_, acceptedCargos_eq industry.variation_none⟩ fun base _ => ?_
  refine exists_bind_ok (exists_mapM_ok fun economy _ => ?_) fun _ _ => ⟨_, rfl⟩
  unfold Tile.economyBlocks
  split
  · next enabled =>
    obtain ⟨variation, known⟩ := exists_variation_of_isEnabledIn enabled
    exact exists_bind_ok ⟨_, acceptedCargos_eq known⟩ fun _ _ => ⟨_, rfl⟩
  · exact ⟨[], rfl⟩

theorem isEnabledIn_of_mem_enabledOf {economies : Economies} {economy : Economy}
    (mem : economy ∈ industry.enabledOf economies) : industry.isEnabledIn economy.id = true :=
  (List.mem_filter.1 mem).2

theorem exists_fundSwitch (economies : Economies) :
    ∃ switches, industry.fundSwitch economies = .ok switches := by
  refine exists_bind_ok (exists_extraTextFund industry.variation_none) fun default _ => ?_
  refine exists_bind_ok (exists_mapM_ok fun economy mem => ?_) fun _ _ => ⟨_, rfl⟩
  obtain ⟨variation, known⟩ :=
    exists_variation_of_isEnabledIn (industry.isEnabledIn_of_mem_enabledOf mem)
  exact exists_bind_ok (exists_extraTextFund known) fun _ _ => ⟨_, rfl⟩

theorem exists_windowSwitches (economies : Economies) :
    ∃ switches, industry.windowSwitches economies = .ok switches := by
  unfold windowSwitches
  split
  · exact ⟨_, rfl⟩
  · split
    · refine exists_bind_ok (exists_bind_ok (exists_mapM_ok fun economy mem => ?_)
        fun _ _ => ⟨_, rfl⟩) fun _ _ => ⟨_, rfl⟩
      obtain ⟨variation, known⟩ :=
        exists_variation_of_isEnabledIn (industry.isEnabledIn_of_mem_enabledOf mem)
      refine exists_bind_ok (exists_extraTextString known) fun _ _ => ?_
      refine exists_bind_ok ?_ fun _ _ => ⟨_, rfl⟩
      exact exists_bind_ok (exists_processedCargos known) fun _ _ => ⟨_, rfl⟩
    · exact ⟨none, rfl⟩

theorem exists_economyBlocks (economy : Economy) :
    ∃ blocks, industry.economyBlocks economy = .ok blocks := by
  refine exists_bind_ok ?_ fun _ _ => ⟨_, rfl⟩
  unfold propertiesAgain
  split
  · next enabled =>
    obtain ⟨variation, known⟩ := exists_variation_of_isEnabledIn enabled
    exact ⟨_, economyProperties_eq known⟩
  · exact ⟨_, rfl⟩

end

/-! ## The whole industry -/

theorem needs_blocks (industry : Industry) (economies : Economies) :
    industry.NeedsAll table industry.references (industry.blocks economies table) := by
  have tiles : ∃ tiles, (industry.tiles.mapM fun tile => tile.blocks industry economies) =
      .ok tiles :=
    exists_mapM_ok fun tile _ => industry.exists_tileBlocks tile economies
  have perEconomy : ∃ blocks, economies.toList.mapM industry.economyBlocks = .ok blocks :=
    exists_mapM_ok fun economy _ => industry.exists_economyBlocks economy
  refine (needs_graphicsBlocks table).bind fun _ _ => ?_
  rw [← List.nil_append (industry.requirements.references industry.id)]
  refine (Needs.nothing tiles).bind fun _ _ => (needs_chain table).bind_ok fun _ _ => ?_
  refine exists_bind_ok (industry.exists_fundSwitch economies) fun _ _ => ?_
  refine exists_bind_ok (industry.exists_windowSwitches economies) fun _ _ => ?_
  refine exists_bind_ok ⟨_, baseProperties_eq⟩ fun _ _ => ?_
  exact exists_bind_ok perEconomy fun _ _ => ⟨_, rfl⟩

/-- Whatever the economies are, an industry is written just when everything resolves that it refers
to, and else the error is about the first that does not, in reading order. It is never about an
economy. -/
theorem blocks_resolve (industry : Industry) (economies : Economies) (table : NumberTable) :
    ((∃ blocks, industry.blocks economies table = .ok blocks) ↔
      ∀ ref ∈ industry.references, ref.Resolves industry.graphics table) ∧
    (∀ e, industry.blocks economies table = .error e →
      ∃ before ref after, industry.references = before ++ ref :: after ∧
        (∀ earlier ∈ before, earlier.Resolves industry.graphics table) ∧
        ¬ref.Resolves industry.graphics table ∧ e = ref.complaint industry.id) ∧
    ∀ economy, industry.blocks economies table ≠ .error (.unknownEconomy economy) := by
  have needs := needs_blocks table industry economies
  have first : ∀ e, industry.blocks economies table = .error e →
      ∃ before ref after, industry.references = before ++ ref :: after ∧
        (∀ earlier ∈ before, earlier.Resolves industry.graphics table) ∧
        ¬ref.Resolves industry.graphics table ∧ e = ref.complaint industry.id := by
    intro e fails
    rw [NeedsAll, fails] at needs
    exact needs
  refine ⟨⟨?_, needs.exists_ok⟩, first, ?_⟩
  · rintro ⟨blocks, written⟩
    exact needs.met_of_ok written
  · intro economy fails
    obtain ⟨_, ref, _, _, _, _, same⟩ := first _ fails
    cases ref with
    | drawn ref => cases ref <;> cases same
    | smoke index => cases same
    | industry id => cases same

end Industry

end IndustrySet
