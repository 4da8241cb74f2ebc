import IndustrySet.Industry.Consistency
import IndustrySet.Proofs.IndustryReferences
import IndustrySet.Proofs.LocationPhases
import IndustrySet.Proofs.Variations

set_option autoImplicit false

/-! # Warnings about an industry

The check of an industry asks for its location chain, which may be missing a number, and for nothing
else that could be missing. If there is a chain then there are warnings, in four parts, and they do
not depend on the chain (`Industry.exists_validate_eq`): every check of an industry's location has a
verdict, so that its chain never ends in one that only ever rejects. -/

namespace IndustrySet

/-! ## Subjects -/

/-- What part of an industry a warning is about. -/
inductive Warning.Subject
  | economy
  | site
  | tile
  | layout
  /-- How the industry is registered with others. -/
  | registry
  deriving DecidableEq, Repr

/-- The part of the industry that the warning is about. -/
def Warning.subject : Warning → Subject
  | .tooManyAccepted _ _ | .tooManyProduced _ _ | .severalFundTexts _ _ _ => .economy
  | .siteConflict _ _ | .openEndedSite _ => .site
  | .tileConflict _ _ _ | .openEndedTile _ _ => .tile
  | .unknownTile _ _ | .unknownSpritelayout _ _ => .layout
  | .inNoEconomy _ | .unknownLabel _ _ => .registry

namespace Industry

variable {industry : Industry} {table : NumberTable} {warnings : List Warning}

theorem subject_economyWarnings {economy : EconomyId}
    (h : industry.economyWarnings economy = .ok warnings) :
    ∀ warning ∈ warnings, warning.subject = .economy := by
  obtain ⟨accepted, _, h⟩ := bind_eq_ok.1 h
  obtain ⟨produced, _, h⟩ := bind_eq_ok.1 h
  obtain ⟨texts, _, h⟩ := bind_eq_ok.1 h
  intro warning mem
  rw [← pure_eq_ok.1 h] at mem
  simp only [List.mem_append, List.mem_ite_nil_right, List.mem_singleton] at mem
  rcases mem with (⟨_, rfl⟩ | ⟨_, rfl⟩) | ⟨_, rfl⟩ <;> rfl

theorem subject_tileWarnings (tile : Tile) (chain : Chain TileCheck) :
    ∀ warning ∈ tileWarnings tile chain, warning.subject = .tile := by
  intro warning mem
  unfold tileWarnings at mem
  rcases List.mem_append.1 mem with mem | mem
  · obtain ⟨_, _, rfl⟩ := List.mem_map.1 mem
    rfl
  · split at mem
    · rw [List.mem_ite_nil_right, List.mem_singleton] at mem
      obtain ⟨_, rfl⟩ := mem
      rfl
    · cases mem

theorem subject_layoutWarnings (industry : Industry) :
    ∀ warning ∈ industry.layoutWarnings, warning.subject = .layout := by
  intro warning mem
  obtain ⟨layout, _, mem⟩ := List.mem_flatMap.1 mem
  obtain ⟨position, _, mem⟩ := List.mem_flatMap.1 mem
  simp only [positionWarnings, List.mem_append, List.mem_ite_nil_left, List.mem_singleton] at mem
  rcases mem with ⟨_, rfl⟩ | ⟨_, rfl⟩ <;> rfl

/-! ## Parts -/

theorem exists_variation_of_mem_enabledEconomies {economy : EconomyId}
    (mem : economy ∈ industry.enabledEconomies) :
    ∃ variation, industry.variation (some economy) = .ok (some variation) :=
  exists_variation_of_isEnabledIn (mem_enabledEconomies.1 mem)

theorem exists_economyWarnings {economy : EconomyId} (mem : economy ∈ industry.enabledEconomies) :
    ∃ warnings, industry.economyWarnings economy = .ok warnings := by
  obtain ⟨variation, known⟩ := exists_variation_of_mem_enabledEconomies mem
  refine exists_bind_ok ⟨_, acceptedCargos_eq known⟩ fun _ _ => ?_
  refine exists_bind_ok ⟨_, producedCargos_eq known⟩ fun _ _ => ?_
  exact exists_bind_ok (exists_fundTexts known) fun _ _ => ⟨_, rfl⟩

theorem isOpenEnded_chain {chain : Chain SiteCheck} (h : industry.chain table = .ok chain) :
    chain.isOpenEnded = false := by
  obtain ⟨checks, _, built⟩ := bind_eq_ok.1 h
  rw [← pure_eq_ok.1 built]
  exact Chain.isOpenEnded_eq_false fun _ _ => rfl

/-- Only conflicts are warned of in the location checks of an industry. -/
theorem siteWarnings_eq (industry : Industry) (table : NumberTable) :
    industry.siteWarnings table = (industry.chain table).map fun _ =>
      (industry.requirements.conflicts industry.id).map (.siteConflict industry.id) := by
  rw [siteWarnings]
  cases built : industry.chain table with
  | error e => rfl
  | ok chain =>
    show Except.ok _ = Except.ok _
    rw [isOpenEnded_chain built, if_neg Bool.false_ne_true, List.append_nil]

/-- The warnings about an industry, with those about each economy given. -/
def warningsWith (industry : Industry) (perEconomy : List (List Warning)) : List Warning :=
  perEconomy.flatten ++
    (industry.requirements.conflicts industry.id).map (.siteConflict industry.id) ++
    industry.tiles.flatMap (fun tile => tileWarnings tile (tile.chain industry.id)) ++
    industry.layoutWarnings

/-- If there is a location chain, then there are these warnings; else that is the error. -/
theorem exists_validate_eq (industry : Industry) : ∃ perEconomy : List (List Warning),
    industry.enabledEconomies.mapM industry.economyWarnings = .ok perEconomy ∧
    ∀ table, industry.validate table =
      (industry.chain table).map fun _ => industry.warningsWith perEconomy := by
  obtain ⟨perEconomy, hperEconomy⟩ : ∃ perEconomy,
      industry.enabledEconomies.mapM industry.economyWarnings = .ok perEconomy :=
    exists_mapM_ok fun _ mem => exists_economyWarnings mem
  refine ⟨perEconomy, hperEconomy, fun table => ?_⟩
  rw [validate, hperEconomy, siteWarnings_eq, tileChains, List.flatMap_map]
  cases industry.chain table <;> rfl

theorem subject_perEconomy {perEconomy : List (List Warning)}
    (h : industry.enabledEconomies.mapM industry.economyWarnings = .ok perEconomy) :
    ∀ warning ∈ perEconomy.flatten, warning.subject = .economy := by
  intro warning mem
  obtain ⟨part, hpart, mem⟩ := List.mem_flatten.1 mem
  obtain ⟨economy, _, heconomy⟩ := exists_of_mem_mapM h hpart
  exact subject_economyWarnings heconomy warning mem

theorem subject_tiles (industry : Industry) :
    ∀ warning ∈ industry.tiles.flatMap fun tile => tileWarnings tile (tile.chain industry.id),
      warning.subject = .tile := by
  intro warning mem
  obtain ⟨tile, _, mem⟩ := List.mem_flatMap.1 mem
  exact subject_tileWarnings tile _ warning mem

theorem exists_eq_of_validate (h : industry.validate table = .ok warnings) :
    ∃ perEconomy : List (List Warning),
      industry.enabledEconomies.mapM industry.economyWarnings = .ok perEconomy ∧
        warnings = industry.warningsWith perEconomy := by
  obtain ⟨perEconomy, hperEconomy, found⟩ := industry.exists_validate_eq
  refine ⟨perEconomy, hperEconomy, ?_⟩
  rw [found] at h
  cases built : industry.chain table with
  | error e =>
    rw [built] at h
    cases h
  | ok chain =>
    rw [built] at h
    exact (Except.ok.inj h).symm

end Industry

end IndustrySet
