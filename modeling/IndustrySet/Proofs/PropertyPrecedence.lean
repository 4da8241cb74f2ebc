import IndustrySet.Proofs.Flattening
import IndustrySet.Proofs.VariationCalls

set_option autoImplicit false

/-! # Which value of a property counts

A property can get a value from four sides: from the variation of an economy, from the kind, from
the declaration, and from what every industry starts from. Of the values that there are, the first
in this order counts. The last three make up the base when the industry is created
(`Industry.get?_create`), and the variation is looked at whenever the property is asked for. Calls
that set variations do not touch the base, and for an economy only the last call for it counts
(`Industry.precedence_afterCalls`). -/

namespace IndustrySet

/-- The value that a kind forces for a property. -/
def Kind.forcedValue? (kind : Kind) (key : PropertyKey) : Option PropertyValue :=
  (kind.forcedProperties.find? fun pair => pair.1 = key).map (·.2)

/-- The value that a property has in every industry for which nothing else is said. -/
def PropertyKey.builtIn? : PropertyKey → Option PropertyValue
  | .inputMultiplier1 | .inputMultiplier2 | .inputMultiplier3 => some (.text "[0, 0]")
  | .specFlags => some (.text "0")
  | _ => none

/-- The value of a property in the base: what the kind forces, else what is declared, else what is
built in. -/
def Kind.baseValue? (kind : Kind) (declared : Properties) (key : PropertyKey) :
    Option PropertyValue :=
  (kind.forcedValue? key).or ((declared.get? key).or key.builtIn?)

/-! ## The base -/

theorem Kind.nodup_forcedProperties (kind : Kind) : (kind.forcedProperties.map (·.1)).Nodup := by
  cases kind <;> decide +revert

theorem Properties.get?_base (key : PropertyKey) : base.get? key = key.builtIn? := by
  cases key <;> rfl

theorem Properties.get?_merge_eq_or (p other : Properties) (key : PropertyKey) :
    (p.merge other).get? key = (other.get? key).or (p.get? key) := by
  rw [get?_merge]
  cases other.get? key <;> rfl

/-- No property is forced twice, so it does not matter that the last value set for one counts. -/
theorem Properties.get?_setAll_forced (p : Properties) (kind : Kind) (key : PropertyKey) :
    (p.setAll kind.forcedProperties).get? key = (kind.forcedValue? key).or (p.get? key) := by
  rw [get?_setAll, List.findRev?_eq_find?_reverse, Kind.forcedValue?,
    find?_perm kind.forcedProperties.reverse_perm
      ((kind.forcedProperties.reverse_perm.map _).nodup_iff.2 kind.nodup_forcedProperties)]

namespace Industry

theorem get?_create (id : IndustryId) (numericId : UInt16) (kind : Kind) (declared : Properties)
    (key : PropertyKey) :
    (create id numericId kind declared).properties.get? key = kind.baseValue? declared key := by
  rw [create, Properties.get?_setAll_forced, Properties.get?_merge_eq_or, Properties.get?_base,
    Kind.baseValue?]

end Industry

/-! ## Calls for one economy and for others -/

namespace Industry

variable {industry : Industry} {economy : EconomyId} {variation : EconomyVariation}
  {calls : List VariationCall}

/-- What is asked of an industry for an economy that has a variation. -/
structure GoesBy (industry : Industry) (economy : EconomyId) (variation : EconomyVariation) :
    Prop where
  property : ∀ key, industry.property key (some economy) =
    .ok ((variation.properties.get? key).or (industry.properties.get? key))
  overrides : ∀ key, industry.overrides key economy = .ok (variation.properties.contains key)
  enabled : industry.isEnabledIn economy = variation.enabled

/-- What is asked of an industry for an economy that has none. -/
structure Ignores (industry : Industry) (economy : EconomyId) : Prop where
  property : ∀ key, industry.property key (some economy) = .error (.unknownEconomy economy)
  overrides : ∀ key, industry.overrides key economy = .error (.unknownEconomy economy)
  enabled : industry.isEnabledIn economy = false

theorem goesBy_of_get? (found : industry.variations.get? economy = some variation) :
    industry.GoesBy economy variation where
  property key := by
    rw [property_eq (variation_some found), valueFor, Option.map_some, Properties.resolve_merge,
      Properties.get?_merge_eq_or]
  overrides := overrides_eq (variation_some found)
  enabled := by rw [isEnabledIn, found]

theorem ignores_of_get? (missing : industry.variations.get? economy = none) :
    industry.Ignores economy := by
  have unknown : industry.variation (some economy) = .error (.unknownEconomy economy) := by
    rw [Industry.variation, missing]
  refine ⟨fun key => ?_, fun key => ?_, by rw [isEnabledIn, missing]⟩
  · simp only [property, unknown]
    rfl
  · simp only [overrides, unknown]
    rfl

/-- The industries are the same for an economy, and for the base. -/
structure SameFor (economy : EconomyId) (before after : Industry) : Prop where
  base : after.AnswersAs none before none
  variation : after.variations.get? economy = before.variations.get? economy
  answers : after.AnswersAs (some economy) before (some economy)
  overrides : ∀ key, after.overrides key economy = before.overrides key economy
  enabled : after.isEnabledIn economy = before.isEnabledIn economy
  listed : economy ∈ after.enabledEconomies ↔ economy ∈ before.enabledEconomies

/-- What is asked for an economy depends on its variation and the base. -/
theorem sameFor_of_get? {after : Industry} (kind : after.kind = industry.kind)
    (base : after.properties = industry.properties)
    (same : after.variations.get? economy = industry.variations.get? economy) :
    SameFor economy industry after where
  base := answersAs_of_property kind fun _ => by simp only [property, variation_none, base]
  variation := same
  answers := answersAs_of_property kind fun _ => by
    simp only [property, Industry.variation, base, same]
  overrides key := by simp only [overrides, Industry.variation, same]
  enabled := by simp only [isEnabledIn, same]
  listed := by simp only [mem_enabledEconomies, isEnabledIn, same]

theorem pairwise_enabledEconomies (industry : Industry) :
    industry.enabledEconomies.Pairwise (· < ·) :=
  List.pairwise_map.2 (industry.variations.ascending.filter _)

/-! ## After any calls -/

/-- What is asked of an industry that was created of some declaration, after some calls. -/
structure Precedence (kind : Kind) (declared : Properties) (calls : List VariationCall)
    (industry : Industry) : Prop where
  /-- Calls do not touch the base. -/
  base : ∀ key, industry.property key none = .ok (kind.baseValue? declared key)
  /-- The last call for an economy decides, and the base where it leaves a property unset. -/
  property : ∀ economy variation, lastVariation? economy calls = some variation → ∀ key,
    industry.property key (some economy) =
      .ok ((variation.properties.get? key).or (kind.baseValue? declared key))
  overrides : ∀ economy variation, lastVariation? economy calls = some variation → ∀ key,
    industry.overrides key economy = .ok (variation.properties.contains key)
  enabled : ∀ economy, industry.isEnabledIn economy =
    (lastVariation? economy calls).any (·.enabled)
  /-- An economy that no call is for is unknown, and no other one is. -/
  unknown : ∀ economy, (∀ call ∈ calls, call.economy ≠ economy) → ∀ key,
    industry.property key (some economy) = .error (.unknownEconomy economy) ∧
      industry.overrides key economy = .error (.unknownEconomy economy)
  known : ∀ economy key error, industry.property key (some economy) = .error error →
    ∀ call ∈ calls, call.economy ≠ economy
  ascending : industry.enabledEconomies.Pairwise (· < ·)
  listed : ∀ economy, economy ∈ industry.enabledEconomies ↔ industry.isEnabledIn economy = true
  /-- Further calls for other economies change nothing for an economy and nothing for the base. -/
  frame : ∀ economy more, (∀ call ∈ more, call.economy ≠ economy) →
    SameFor economy industry (industry.afterCalls more)

theorem get?_afterCalls_create {id : IndustryId} {numericId : UInt16} {kind : Kind}
    {declared : Properties} :
    ((create id numericId kind declared).afterCalls calls).variations.get? economy =
      lastVariation? economy calls := by
  rw [get?_afterCalls]
  exact Option.or_none

theorem properties_afterCalls : (industry.afterCalls calls).properties = industry.properties := by
  rw [afterCalls_eq]

theorem kind_afterCalls : (industry.afterCalls calls).kind = industry.kind := by
  rw [afterCalls_eq]

/-- Whatever calls there were, of all values for a property the first counts. -/
theorem precedence_afterCalls (id : IndustryId) (numericId : UInt16) (kind : Kind)
    (declared : Properties) (calls : List VariationCall) :
    Precedence kind declared calls ((create id numericId kind declared).afterCalls calls) := by
  have base : ∀ key, ((create id numericId kind declared).afterCalls calls).properties.get? key =
      kind.baseValue? declared key := by
    intro key
    rw [properties_afterCalls, get?_create]
  have goesBy : ∀ economy variation, lastVariation? economy calls = some variation →
      ((create id numericId kind declared).afterCalls calls).GoesBy economy variation :=
    fun _ _ last => goesBy_of_get? (get?_afterCalls_create.trans last)
  have ignores : ∀ economy, lastVariation? economy calls = none →
      ((create id numericId kind declared).afterCalls calls).Ignores economy :=
    fun _ none => ignores_of_get? (get?_afterCalls_create.trans none)
  constructor
  case base =>
    intro key
    rw [property_eq (variation_none _)]
    exact congrArg Except.ok (base key)
  case property =>
    intro economy variation last key
    rw [(goesBy economy variation last).property, base]
  case overrides => exact fun economy variation last => (goesBy economy variation last).overrides
  case enabled =>
    intro economy
    cases last : lastVariation? economy calls with
    | none => exact (ignores economy last).enabled
    | some variation => exact (goesBy economy variation last).enabled
  case unknown =>
    intro economy uncalled key
    have none := ignores economy (lastVariation?_eq_none_iff.2 uncalled)
    exact ⟨none.property key, none.overrides key⟩
  case known =>
    intro economy key error fails
    cases last : lastVariation? economy calls with
    | none => exact lastVariation?_eq_none_iff.1 last
    | some variation => cases ((goesBy economy variation last).property key).symm.trans fails
  case ascending => exact pairwise_enabledEconomies _
  case listed => exact fun _ => mem_enabledEconomies
  case frame =>
    intro economy more others
    refine sameFor_of_get? kind_afterCalls properties_afterCalls ?_
    rw [get?_afterCalls, lastVariation?_eq_none_iff.2 others, Option.none_or]

/-- A later call for an economy takes back what an earlier one overrides. -/
example :
    let farm := create "farm" 3 .primaryOrganic (.ofList [(.lifeType, .text "0")])
    let once := farm.afterCalls [.enableIn "FIRS" (.ofList [(.lifeType, .text "1")])]
    let twice := once.afterCalls [.setVariation "FIRS" {}]
    once.property .lifeType (some "FIRS") = .ok (some (.text "1")) ∧
      twice.property .lifeType (some "FIRS") = .ok (some (.text "IND_LIFE_TYPE_ORGANIC")) ∧
      twice.isEnabledIn "FIRS" = false := by
  decide +kernel

end Industry

end IndustrySet
