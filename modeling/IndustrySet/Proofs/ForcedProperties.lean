import IndustrySet.Proofs.PropertyPrecedence

set_option autoImplicit false

/-! # Properties that a kind forces

A kind lays its values over whatever an industry declares for its base, so in the base they hold. An
economy can still override them: there such a property is as in the last variation given to the
economy, and forced where that one leaves it unset (`Industry.property_forced`). -/

namespace IndustrySet

namespace Industry

/-! ## Properties after some calls -/

/-- The value of a property in the variation that the last call for an economy gave. -/
def lastOverride? (calls : List VariationCall) (economy : EconomyId) (key : PropertyKey) :
    Option PropertyValue :=
  (lastVariation? economy calls).bind (·.properties.get? key)

section

variable {industry filled : Industry} {calls : List VariationCall} {economies : Economies}

/-- An industry that started without variations has those of the last calls; the others, which
filling gave it, change nothing. -/
theorem eq_lastVariation (new : industry.variations = .empty)
    (known : (industry.afterCalls calls).fillEconomies economies = .ok filled)
    {economy : EconomyId} {variation : EconomyVariation}
    (found : filled.variations.get? economy = some variation) :
    variation = (lastVariation? economy calls).getD {} := by
  obtain ⟨_, rfl⟩ := eq_of_fillEconomies known
  rw [get?_fillVariations, get?_afterCalls, new, Dictionary.get?_empty, Option.or_none] at found
  cases last : lastVariation? economy calls with
  | some given => simpa [last] using found.symm
  | none =>
    rw [last, Option.none_or] at found
    exact (Option.some.inj (Option.ite_none_right_eq_some.1 found).2).symm

/-- The base is not touched, and an economy has what the last call for it overrides. -/
theorem property_filled (new : industry.variations = .empty)
    (known : (industry.afterCalls calls).fillEconomies economies = .ok filled) (key : PropertyKey) :
    filled.property key none = .ok (industry.properties.get? key) ∧
      ∀ economy, filled.variations.contains economy = true → filled.property key (some economy) =
        .ok ((lastOverride? calls economy key).or (industry.properties.get? key)) := by
  have base : filled.properties = industry.properties := by
    obtain ⟨_, rfl⟩ := eq_of_fillEconomies known
    rw [afterCalls_eq]
  constructor
  · rw [property_eq filled.variation_none, valueFor, base]
    rfl
  · intro economy there
    obtain ⟨variation, found⟩ := Option.isSome_iff_exists.1 there
    have override : variation.properties.get? key = lastOverride? calls economy key := by
      rw [eq_lastVariation new known found, lastOverride?]
      cases lastVariation? economy calls <;> rfl
    rw [(goesBy_of_get? found).property, override, base]

end

/-! ## Forced properties -/

section

variable {id : IndustryId} {numericId : UInt16} {kind : Kind} {declared : Properties}

theorem get?_forced {key : PropertyKey} {value : PropertyValue}
    (forced : (key, value) ∈ kind.forcedProperties) :
    (create id numericId kind declared).properties.get? key = some value := by
  have first := (find?_eq_some_iff_of_nodup kind.nodup_forcedProperties).2 ⟨forced, rfl⟩
  rw [get?_create, Kind.baseValue?, Kind.forcedValue?, first, Option.map_some, Option.some_or]

/-- A forced property has the forced value for the base, and for every economy that does not get
another one from the last variation given to it. -/
theorem property_forced {calls : List VariationCall} {economies : Economies} {filled : Industry}
    (known : ((create id numericId kind declared).afterCalls calls).fillEconomies economies =
      .ok filled)
    {key : PropertyKey} {value : PropertyValue} (forced : (key, value) ∈ kind.forcedProperties) :
    filled.property key none = .ok (some value) ∧
      ∀ economy, filled.variations.contains economy = true →
        filled.property key (some economy) =
          .ok (some ((lastOverride? calls economy key).getD value)) ∧
        (filled.property key (some economy) = .ok (some value) ↔
          ∀ other, lastOverride? calls economy key = some other → other = value) := by
  obtain ⟨base, perEconomy⟩ := property_filled rfl known key
  rw [get?_forced forced] at base perEconomy
  refine ⟨base, fun economy there => ?_⟩
  rw [perEconomy economy there]
  cases lastOverride? calls economy key with
  | none => simp
  | some other => simp

end

/-- A coal mine that declares to be a farm. -/
def coalMine : Industry :=
  create "coal_mine" 0 .primaryExtractive (.ofList [(.lifeType, .text "IND_LIFE_TYPE_ORGANIC")])

theorem property_forced_coalMine :
    let calls :=
      [VariationCall.enableIn "FIRS" (.ofList [(.lifeType, .text "IND_LIFE_TYPE_ORGANIC")]),
       .setVariation "FIRS" { properties := .ofList [(.probInGame, .text "3")] }]
    ∃ filled, (coalMine.afterCalls calls).fillEconomies .standard = .ok filled ∧
      filled.property .lifeType none = .ok (some (.text "IND_LIFE_TYPE_EXTRACTIVE")) ∧
      filled.property .lifeType (some "FIRS") = .ok (some (.text "IND_LIFE_TYPE_EXTRACTIVE")) := by
  intro calls
  obtain ⟨filled, known, there⟩ : ∃ filled,
      (coalMine.afterCalls calls).fillEconomies .standard = .ok filled ∧
        filled.variations.contains "FIRS" = true :=
    exists_of_any (by decide +kernel)
  have forced : (PropertyKey.lifeType, PropertyValue.text "IND_LIFE_TYPE_EXTRACTIVE") ∈
      Kind.primaryExtractive.forcedProperties := by decide
  obtain ⟨base, perEconomy⟩ := property_forced known forced
  refine ⟨filled, known, base, (perEconomy "FIRS" there).2.2 fun other set => ?_⟩
  have unset : lastOverride? calls "FIRS" .lifeType = none := by decide +kernel
  cases unset.symm.trans set

/-- Declared for an economy, another life type is not ignored. -/
theorem not_property_forced_coalMine :
    let calls :=
      [VariationCall.enableIn "FIRS" (.ofList [(.lifeType, .text "IND_LIFE_TYPE_ORGANIC")])]
    ∃ filled, (coalMine.afterCalls calls).fillEconomies .standard = .ok filled ∧
      (PropertyKey.lifeType, PropertyValue.text "IND_LIFE_TYPE_EXTRACTIVE") ∈
        Kind.primaryExtractive.forcedProperties ∧
      filled.variations.contains "FIRS" = true ∧
      filled.property .lifeType (some "FIRS") = .ok (some (.text "IND_LIFE_TYPE_ORGANIC")) ∧
      filled.property .lifeType (some "FIRS") ≠ .ok (some (.text "IND_LIFE_TYPE_EXTRACTIVE")) := by
  intro calls
  obtain ⟨filled, known, there, read⟩ : ∃ filled,
      (coalMine.afterCalls calls).fillEconomies .standard = .ok filled ∧
        filled.variations.contains "FIRS" = true ∧
        filled.property .lifeType (some "FIRS") = .ok (some (.text "IND_LIFE_TYPE_ORGANIC")) :=
    exists_of_any (by decide +kernel)
  exact ⟨filled, known, by decide, there, read, by rw [read]; decide⟩

end Industry

end IndustrySet
