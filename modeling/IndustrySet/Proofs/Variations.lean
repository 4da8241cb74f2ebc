import IndustrySet.Industry.Basic
import IndustrySet.Proofs.Dictionaries

set_option autoImplicit false

/-! # Variations for every economy

An industry gets a variation for each registered economy (`fillEconomies_eq_ok`). It is refused if
it has one for any other economy, so that it has variations for just the registered ones
(`contains_variations`). -/

namespace IndustrySet

theorem Economies.contains_iff {economies : Economies} {id : EconomyId} :
    economies.contains id = true ↔ id ∈ economies.ids := by
  simp [Economies.contains, Economies.get?, Economies.ids]

theorem Economies.leastUnknown?_eq_none_iff {economies : Economies} {ids : List EconomyId} :
    economies.leastUnknown? ids = none ↔ ∀ id ∈ ids, id ∈ economies.ids := by
  simp [leastUnknown?, ← contains_iff]

namespace Industry

variable {industry filled : Industry} {economies : Economies}

/-- The economies listed as enabled are those in which the industry says that it is. -/
theorem mem_enabledEconomies {economy : EconomyId} :
    economy ∈ industry.enabledEconomies ↔ industry.isEnabledIn economy = true := by
  cases found : industry.variations.get? economy with
  | none => simp [enabledEconomies, isEnabledIn, Dictionary.mem_entries, found]
  | some variation => simp [enabledEconomies, isEnabledIn, Dictionary.mem_entries, found]

/-- An economy without a variation gets one that changes nothing, if it is among those filled. -/
theorem get?_fillVariations {variations : Dictionary EconomyVariation} {ids : List EconomyId}
    {id : EconomyId} :
    (fillVariations variations ids).get? id =
      (variations.get? id).or (if id ∈ ids then some {} else none) := by
  induction ids generalizing variations with
  | nil => simp [fillVariations]
  | cons first rest ih =>
    rw [fillVariations, List.foldl_cons, ← fillVariations, ih]
    split
    · next there =>
      by_cases own : id = first
      · obtain ⟨variation, found⟩ := Option.isSome_iff_exists.1 there
        simp [own, found]
      · simp [own]
    · next notThere =>
      by_cases own : first = id
      · have none : variations.get? id = none := by simpa [Dictionary.contains, own] using notThere
        simp [own, none]
      · simp [own, Ne.symm own]

theorem contains_fillVariations {variations : Dictionary EconomyVariation} {ids : List EconomyId}
    {id : EconomyId} :
    (fillVariations variations ids).contains id = true ↔
      variations.contains id = true ∨ id ∈ ids := by
  rw [Dictionary.contains, get?_fillVariations, Option.isSome_or, Bool.or_eq_true]
  refine or_congr_right ?_
  split <;> simp [*]

/-- Is there a variation for an economy that is not registered? -/
def hasUnknownEconomy (industry : Industry) (economies : Economies) : Prop :=
  ∃ economy, industry.variations.contains economy = true ∧ economy ∉ economies.ids

theorem leastUnknown?_keys_eq_none_iff :
    economies.leastUnknown? industry.variations.keys = none ↔
      ¬industry.hasUnknownEconomy economies := by
  rw [Economies.leastUnknown?_eq_none_iff, hasUnknownEconomy]
  simp only [Dictionary.mem_keys, not_exists, not_and, not_not]

theorem run_fill (industry : Industry) (economies : Economies) :
    (fill economies).run industry =
      match economies.leastUnknown? industry.variations.keys with
      | some unknown => .error (.unknownEconomy unknown) industry
      | none => .ok ()
        { industry with variations := fillVariations industry.variations economies.ids } := by
  simp only [fill, EStateM.run_bind, EStateM.run_get]
  cases economies.leastUnknown? industry.variations.keys <;> rfl

/-- An industry without variations for other economies gets those that it lacks. -/
theorem fillEconomies_eq_ok (known : ¬industry.hasUnknownEconomy economies) :
    industry.fillEconomies economies =
      .ok { industry with variations := fillVariations industry.variations economies.ids } := by
  have none : economies.leastUnknown? industry.variations.keys = none :=
    leastUnknown?_keys_eq_none_iff.2 known
  rw [fillEconomies, Update.applyTo, run_fill, none]

theorem fillEconomies_eq_error (unknown : industry.hasUnknownEconomy economies) :
    ∃ economy, industry.fillEconomies economies = .error (.unknownEconomy economy) := by
  cases least : economies.leastUnknown? industry.variations.keys with
  | none => exact absurd unknown (leastUnknown?_keys_eq_none_iff.1 least)
  | some economy => exact ⟨economy, by rw [fillEconomies, Update.applyTo, run_fill, least]⟩

/-- What an industry with a variation for every economy differs in from the one it was made of. -/
theorem eq_of_fillEconomies (h : industry.fillEconomies economies = .ok filled) :
    ¬industry.hasUnknownEconomy economies ∧ filled =
      { industry with variations := fillVariations industry.variations economies.ids } := by
  by_cases unknown : industry.hasUnknownEconomy economies
  · obtain ⟨economy, error⟩ := fillEconomies_eq_error unknown
    cases error.symm.trans h
  · exact ⟨unknown, (Except.ok.inj ((fillEconomies_eq_ok unknown).symm.trans h)).symm⟩

/-- It has a variation for just the registered economies. -/
theorem contains_variations (h : industry.fillEconomies economies = .ok filled)
    (economy : EconomyId) :
    filled.variations.contains economy = true ↔ economy ∈ economies.ids := by
  obtain ⟨known, rfl⟩ := eq_of_fillEconomies h
  rw [contains_fillVariations]
  constructor
  · rintro (there | mem)
    · by_cases mem : economy ∈ economies.ids
      · exact mem
      · exact absurd ⟨economy, there, mem⟩ known
    · exact mem
  · exact .inr

end Industry

end IndustrySet
