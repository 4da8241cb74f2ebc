import IndustrySet.Fragment.Industry
import IndustrySet.Proofs.Fallible
import Mathlib.Data.List.Nodup

set_option autoImplicit false

/-! # Looking up properties

An industry can be asked for a property in every economy it has a variation for, and for the base:
the only error is a missing variation. Once the variation is known, what is asked for is a plain
value, and so are the lines made of it. -/

namespace IndustrySet

/-- A property is told by its name in NML. -/
theorem PropertyKey.nmlName_injective {a b : PropertyKey} (h : a.nmlName = b.nmlName) : a = b :=
  List.inj_on_of_nodup_map (f := PropertyKey.nmlName) (l := PropertyKey.all) (by decide +kernel)
    (PropertyKey.mem_all a) (PropertyKey.mem_all b) h

theorem PropertyKey.nmlName_ne {a b : PropertyKey} (ne : a ≠ b) : a.nmlName ≠ b.nmlName :=
  fun same => ne (PropertyKey.nmlName_injective same)

namespace Nml

theorem bracketed_ne_empty (parts : List String) : bracketed parts ≠ "" := by
  intro empty
  obtain ⟨opened, _⟩ := String.append_eq_empty_iff.1 (String.append_eq_empty_iff.1 empty).1
  exact absurd opened (by decide)

theorem toString_int_ne_empty (n : Int) : toString n ≠ "" := by
  cases n with
  | ofNat m => exact Nat.repr_ne_empty
  | negSucc m => exact fun empty => Nat.repr_ne_empty (String.append_eq_empty_iff.1 empty).2

end Nml

/-- A value in NML is never the empty text. -/
theorem PropertyValue.text_ne_empty {declared : PropertyValue} {value : Nml.Value}
    (h : declared.toNml? = some value) : value.text ≠ "" := by
  cases declared with
  | text expression =>
    rw [toNml?] at h
    split at h
    · cases h
    · next nonempty =>
      cases h
      exact nonempty
  | int n =>
    cases h
    exact Nml.toString_int_ne_empty n.toInt
  | textList labels =>
    cases h
    exact Nml.bracketed_ne_empty _
  | bool b => cases h
  | cargoRatios ratios => cases h

namespace Industry

variable {industry : Industry} {economy : EconomyId} {variation : EconomyVariation}

/-- The value of a property for a variation, or for the base. -/
def valueFor (industry : Industry) (variation : Option EconomyVariation) (key : PropertyKey) :
    Option PropertyValue :=
  Properties.resolve industry.properties (variation.map (·.properties)) key

/-- The line for a property for a variation, or for the base. -/
def lineFor (industry : Industry) (variation : Option EconomyVariation) (key : PropertyKey) :
    Option Nml.Assignment :=
  ((industry.valueFor variation key).bind PropertyValue.toNml?).map (Nml.Assignment.mk key.nmlName)

/-- The labels in a property, for a variation or for the base. -/
def labelsFor (industry : Industry) (variation : Option EconomyVariation) (key : PropertyKey) :
    List String :=
  ((industry.valueFor variation key).bind PropertyValue.asTextList?).getD []

/-- The accepted cargos, for a variation or for the base. -/
def acceptedFor (industry : Industry) (variation : Option EconomyVariation) : List String :=
  if industry.kind.isSecondary then
    (((industry.valueFor variation .processedCargosAndOutputRatios).bind
      PropertyValue.asCargoRatios?).getD []).map (·.1)
  else industry.labelsFor variation .acceptCargoTypes

/-! ## Variations -/

@[simp]
theorem variation_none (industry : Industry) : industry.variation none = .ok none := rfl

theorem variation_some (h : industry.variations.get? economy = some variation) :
    industry.variation (some economy) = .ok (some variation) := by
  simp [Industry.variation, h]

theorem exists_get?_of_isEnabledIn (h : industry.isEnabledIn economy = true) :
    ∃ variation, industry.variations.get? economy = some variation := by
  cases found : industry.variations.get? economy with
  | none => simp [isEnabledIn, found] at h
  | some variation => exact ⟨variation, rfl⟩

theorem exists_variation_of_isEnabledIn (h : industry.isEnabledIn economy = true) :
    ∃ variation, industry.variation (some economy) = .ok (some variation) := by
  obtain ⟨variation, found⟩ := exists_get?_of_isEnabledIn h
  exact ⟨variation, variation_some found⟩

/-- What is asked is known for the base, and for an economy that there is a variation for. -/
theorem exists_variation_of_contains {asked : Option EconomyId}
    (known : ∀ economy, asked = some economy → industry.variations.contains economy = true) :
    ∃ variation, industry.variation asked = .ok variation := by
  cases asked with
  | none => exact ⟨none, variation_none industry⟩
  | some economy =>
    obtain ⟨variation, found⟩ := Option.isSome_iff_exists.1 (known economy rfl)
    exact ⟨some variation, variation_some found⟩

/-! ## What is asked for, once the variation is known -/

variable {asked : Option EconomyId} {known : Option EconomyVariation}

theorem property_eq (h : industry.variation asked = .ok known) (key : PropertyKey) :
    industry.property key asked = .ok (industry.valueFor known key) := by
  simp only [property, h]
  rfl

theorem declaration?_eq (h : industry.variation asked = .ok known) (key : PropertyKey) :
    industry.declaration? key asked = .ok (industry.lineFor known key) := by
  simp only [declaration?, property_eq h]
  rfl

theorem acceptedCargos_eq (h : industry.variation asked = .ok known) :
    industry.acceptedCargos asked = .ok (industry.acceptedFor known) := by
  unfold acceptedCargos acceptedFor
  split
  · simp only [processedCargos, property_eq h]
    rfl
  · simp only [labels, property_eq h]
    rfl

theorem producedCargos_eq (h : industry.variation asked = .ok known) :
    industry.producedCargos asked = .ok (industry.labelsFor known .prodCargoTypes) := by
  simp only [producedCargos, labels, property_eq h]
  rfl

theorem acceptDeclaration_eq (h : industry.variation asked = .ok known) :
    industry.acceptDeclaration asked =
      .ok ⟨PropertyKey.acceptCargoTypes.nmlName, .cargos (industry.acceptedFor known)⟩ := by
  simp only [acceptDeclaration, acceptedCargos_eq h]
  rfl

theorem prodDeclaration_eq (h : industry.variation asked = .ok known) :
    industry.prodDeclaration asked =
      .ok ⟨PropertyKey.prodCargoTypes.nmlName,
        .cargos (industry.labelsFor known .prodCargoTypes)⟩ := by
  simp only [prodDeclaration, producedCargos_eq h]
  rfl

theorem overrides_eq (h : industry.variation (some economy) = .ok (some variation))
    (key : PropertyKey) :
    industry.overrides key economy = .ok (variation.properties.contains key) := by
  simp only [overrides, h]
  rfl

theorem name_of_lineFor {key : PropertyKey} {line : Nml.Assignment}
    (h : industry.lineFor known key = some line) : line.name = key.nmlName := by
  obtain ⟨value, _, rfl⟩ := Option.map_eq_some_iff.1 h
  rfl

theorem text_of_lineFor {key : PropertyKey} {line : Nml.Assignment}
    (h : industry.lineFor known key = some line) : line.value.text ≠ "" := by
  obtain ⟨value, found, rfl⟩ := Option.map_eq_some_iff.1 h
  obtain ⟨declared, _, written⟩ := Option.bind_eq_some_iff.1 found
  exact PropertyValue.text_ne_empty written

/-- What a variation does not set is as in the base. -/
theorem valueFor_of_not_contains {key : PropertyKey}
    (h : variation.properties.contains key = false) :
    industry.valueFor (some variation) key = industry.valueFor none key := by
  have unset : variation.properties.get? key = none := by
    simpa [Properties.contains] using h
  simp [valueFor, Properties.resolve, unset]

theorem lineFor_of_not_contains {key : PropertyKey}
    (h : variation.properties.contains key = false) :
    industry.lineFor (some variation) key = industry.lineFor none key := by
  simp only [lineFor, valueFor_of_not_contains h]

end Industry

end IndustrySet
