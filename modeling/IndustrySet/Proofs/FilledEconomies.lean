import IndustrySet.Proofs.VariationCalls

set_option autoImplicit false

/-! # Variations for all economies or for none

An industry is either given a variation for each economy that it lacks one for, or it is left as it
is. It is refused if it has a variation for an economy that is not registered, and the error names
the least of those, in whichever order they were set and are listed
(`Industry.fill_allOrNothing`). -/

namespace IndustrySet

namespace Economies

variable {economies : Economies} {ids : List EconomyId} {least : EconomyId}

/-- Sorting is all that makes the first unknown id the least one. -/
theorem leastUnknown?_eq_some_iff :
    economies.leastUnknown? ids = some least ↔
      least ∈ ids ∧ least ∉ economies.ids ∧
        ∀ other ∈ ids, other ∉ economies.ids → least ≤ other := by
  have isLeast : ∀ {first}, economies.leastUnknown? ids = some first →
      first ∈ ids ∧ first ∉ economies.ids ∧
        ∀ other ∈ ids, other ∉ economies.ids → first ≤ other := by
    intro first found
    obtain ⟨unknown, before, after, split, known⟩ := List.find?_eq_some_iff_append.1 found
    have mem : ∀ id, id ∈ ids ↔ id ∈ before ++ first :: after :=
      fun id => split ▸ List.mem_mergeSort.symm
    have sorted := split ▸ sorted_mergeSort ids
    refine ⟨(mem first).2 (by simp), ?_, fun other hother isUnknown => ?_⟩
    · simpa [← contains_iff] using unknown
    · rcases List.mem_append.1 ((mem other).1 hother) with earlier | hother
      · exact absurd (contains_iff.1 (by simpa using known other earlier)) isUnknown
      · rcases List.mem_cons.1 hother with rfl | later
        · exact String.le_refl _
        · exact (List.pairwise_cons.1 (List.pairwise_append.1 sorted).2.1).1 other later
  refine ⟨isLeast, fun ⟨mem, unknown, le⟩ => ?_⟩
  cases found : economies.leastUnknown? ids with
  | none => exact absurd (leastUnknown?_eq_none_iff.1 found least mem) unknown
  | some first =>
    obtain ⟨hfirst, isUnknown, leFirst⟩ := isLeast found
    rw [String.le_antisymm (leFirst least mem unknown) (le first hfirst isUnknown)]

/-- The order in which ids are listed does not matter. -/
theorem leastUnknown?_congr {listing : List EconomyId} (same : ∀ id, id ∈ ids ↔ id ∈ listing) :
    economies.leastUnknown? ids = economies.leastUnknown? listing :=
  Option.ext fun least => by simp only [leastUnknown?_eq_some_iff, same]

end Economies

namespace Industry

variable {industry : Industry} {economies : Economies}

/-! ## What is refused -/

/-- The least economy that the industry has a variation for and that is not registered. -/
structure LeastUnknown (industry : Industry) (economies : Economies) (least : EconomyId) :
    Prop where
  there : industry.variations.contains least = true
  unknown : least ∉ economies.ids
  le : ∀ other, industry.variations.contains other = true → other ∉ economies.ids → least ≤ other

theorem leastUnknown_iff {least : EconomyId} :
    economies.leastUnknown? industry.variations.keys = some least ↔
      industry.LeastUnknown economies least := by
  simp only [Economies.leastUnknown?_eq_some_iff, Dictionary.mem_keys]
  exact ⟨fun ⟨there, unknown, le⟩ => ⟨there, unknown, le⟩,
    fun ⟨there, unknown, le⟩ => ⟨there, unknown, le⟩⟩

theorem run_fill_eq_error_iff {error : Error} {after : Industry} :
    (fill economies).run industry = .error error after ↔ after = industry ∧
      ∃ least, industry.LeastUnknown economies least ∧ error = .unknownEconomy least := by
  rw [run_fill]
  simp only [← leastUnknown_iff]
  cases economies.leastUnknown? industry.variations.keys with
  | none => simp
  | some least => simp [and_comm, eq_comm]

theorem hasUnknownEconomy_iff :
    industry.hasUnknownEconomy economies ↔ ∃ least, industry.LeastUnknown economies least := by
  simp only [← leastUnknown_iff, ← Option.isSome_iff_exists]
  rw [← not_iff_not, ← leastUnknown?_keys_eq_none_iff, Bool.not_eq_true,
    Option.isSome_eq_false_iff, Option.isNone_iff_eq_none]

/-- In whichever order variations are set, the same is refused. -/
theorem leastUnknown_afterCalls_perm {calls calls' : List VariationCall} (perm : calls.Perm calls')
    (least : EconomyId) :
    (industry.afterCalls calls).LeastUnknown economies least ↔
      (industry.afterCalls calls').LeastUnknown economies least := by
  have same : ∀ id, id ∈ (industry.afterCalls calls).variations.keys ↔
      id ∈ (industry.afterCalls calls').variations.keys := by
    intro id
    simp only [Dictionary.mem_keys, contains_afterCalls, perm.mem_iff]
  rw [← leastUnknown_iff, ← leastUnknown_iff, Economies.leastUnknown?_congr same]

/-! ## What is filled in -/

/-- What filling makes of an industry. -/
structure Filled (economies : Economies) (before after : Industry) : Prop where
  domain : ∀ economy, after.variations.contains economy = true ↔ economy ∈ economies.ids
  kept : ∀ economy variation, before.variations.get? economy = some variation →
    after.variations.get? economy = some variation
  new : ∀ economy ∈ economies.ids, before.variations.get? economy = none →
    after.variations.get? economy = some { enabled := false, properties := .empty }
  base : after.properties = before.properties
  rest : after = { before with variations := after.variations }
  /-- Filling once more changes nothing. -/
  again : (fill economies).run after = .ok () after

/-- Where there is a variation for every economy, nothing is filled in. -/
theorem fillVariations_eq_self {variations : Dictionary EconomyVariation} {ids : List EconomyId}
    (there : ∀ id ∈ ids, variations.contains id = true) :
    fillVariations variations ids = variations := by
  induction ids with
  | nil => rfl
  | cons first rest ih =>
    rw [fillVariations, List.foldl_cons, if_pos (there first List.mem_cons_self)]
    exact ih fun id mem => there id (List.mem_cons_of_mem _ mem)

theorem run_fill_eq_ok (known : ¬industry.hasUnknownEconomy economies) :
    (fill economies).run industry =
      .ok () { industry with variations := fillVariations industry.variations economies.ids } := by
  rw [run_fill, leastUnknown?_keys_eq_none_iff.2 known]

theorem run_fill_eq_self (known : ¬industry.hasUnknownEconomy economies)
    (complete : ∀ economy ∈ economies.ids, industry.variations.contains economy = true) :
    (fill economies).run industry = .ok () industry := by
  rw [run_fill_eq_ok known, fillVariations_eq_self complete]

theorem filled_fillVariations (known : ¬industry.hasUnknownEconomy economies) :
    Filled economies industry
      { industry with variations := fillVariations industry.variations economies.ids } := by
  have domain : ∀ economy, (fillVariations industry.variations economies.ids).contains economy =
      true ↔ economy ∈ economies.ids :=
    contains_variations (fillEconomies_eq_ok known)
  refine ⟨domain, fun economy variation found => ?_, fun economy mem missing => ?_, rfl, rfl, ?_⟩
  · show (fillVariations industry.variations economies.ids).get? economy = some variation
    rw [get?_fillVariations, found, Option.some_or]
  · show (fillVariations industry.variations economies.ids).get? economy = _
    rw [get?_fillVariations, missing, Option.none_or, if_pos mem]
  · exact run_fill_eq_self
      (fun ⟨economy, there, notThere⟩ => notThere ((domain economy).1 there))
      fun economy => (domain economy).2

/-- An industry with a variation for an economy that is not registered is refused for the least such
economy, and left as it was. It does not matter in which order its variations were set or are
listed. Any other industry gets variations for just the registered economies. -/
theorem fill_allOrNothing (industry : Industry) (economies : Economies) :
    ((∃ error after, (fill economies).run industry = .error error after) ↔
      industry.hasUnknownEconomy economies) ∧
    (industry.hasUnknownEconomy economies → ∃ least, industry.LeastUnknown economies least ∧
      (fill economies).run industry = .error (.unknownEconomy least) industry) ∧
    (∀ listing : List EconomyId, listing.Perm industry.variations.keys →
      economies.leastUnknown? listing = economies.leastUnknown? industry.variations.keys) ∧
    (∀ calls calls' : List VariationCall, calls.Perm calls' → ∀ error,
      (∃ after, (fill economies).run (industry.afterCalls calls) = .error error after) ↔
        ∃ after, (fill economies).run (industry.afterCalls calls') = .error error after) ∧
    (¬industry.hasUnknownEconomy economies → ∃ after,
      (fill economies).run industry = .ok () after ∧ Filled economies industry after) := by
  refine ⟨?_, fun unknown => ?_, fun listing perm => ?_, fun calls calls' perm error => ?_,
    fun known => ⟨_, run_fill_eq_ok known, filled_fillVariations known⟩⟩
  · rw [hasUnknownEconomy_iff]
    constructor
    · rintro ⟨_, _, fails⟩
      obtain ⟨_, least, isLeast, _⟩ := run_fill_eq_error_iff.1 fails
      exact ⟨least, isLeast⟩
    · rintro ⟨least, isLeast⟩
      exact ⟨_, _, run_fill_eq_error_iff.2 ⟨rfl, least, isLeast, rfl⟩⟩
  · obtain ⟨least, isLeast⟩ := hasUnknownEconomy_iff.1 unknown
    exact ⟨least, isLeast, run_fill_eq_error_iff.2 ⟨rfl, least, isLeast, rfl⟩⟩
  · exact Economies.leastUnknown?_congr fun _ => perm.mem_iff
  · simp only [run_fill_eq_error_iff, leastUnknown_afterCalls_perm perm, exists_eq_left]

/-- A ranch that comes with variations for two economies nobody has registered. -/
def ranch : Industry :=
  (create "ranch" 40 .tertiary .empty).afterCalls
    [.enableIn "WILD_WEST" .empty, .enableIn "FAR_EAST" .empty, .enableIn "FIRS" .empty]

/-- The lesser one is named, although the other one was set first. -/
theorem fill_allOrNothing_ranch :
    ranch.hasUnknownEconomy .standard ∧
      (fill .standard).run ranch = .error (.unknownEconomy "FAR_EAST") ranch := by
  have unknown : ranch.hasUnknownEconomy .standard :=
    ⟨"WILD_WEST", by decide +kernel, by decide⟩
  obtain ⟨_, refused, _⟩ := fill_allOrNothing ranch .standard
  obtain ⟨least, ⟨there, notThere, le⟩, run⟩ := refused unknown
  have keys : ranch.variations.keys = ["FAR_EAST", "FIRS", "WILD_WEST"] := by decide +kernel
  have mem := Dictionary.mem_keys.2 there
  simp only [keys, List.mem_cons, List.not_mem_nil, or_false] at mem
  rcases mem with rfl | rfl | rfl
  · exact ⟨unknown, run⟩
  · exact absurd (by decide) notThere
  · exact absurd (le "FAR_EAST" (by decide +kernel) (by decide)) (by decide)

end Industry

end IndustrySet
