import IndustrySet.Proofs.Variations

set_option autoImplicit false

/-! # Variations set one after the other

The variations of an industry are set by calls, each for one economy (`VariationCall.apply_eq`).
After any calls an economy has the variation that the last call for it gave, and everything else is
as before (`Industry.get?_afterCalls`, `Industry.afterCalls_eq`). -/

namespace IndustrySet

/-- A call that sets the variation of an economy. -/
inductive VariationCall
  | enableIn (economy : EconomyId) (overrides : Properties)
  | setVariation (economy : EconomyId) (variation : EconomyVariation)

namespace VariationCall

/-- The economy whose variation is set. -/
def economy : VariationCall → EconomyId
  | .enableIn economy _ | .setVariation economy _ => economy

/-- The variation that is given to the economy. -/
def variation : VariationCall → EconomyVariation
  | .enableIn _ overrides => { enabled := true, properties := overrides }
  | .setVariation _ variation => variation

/-- The industry after the call. -/
def apply (industry : Industry) : VariationCall → Industry
  | .enableIn economy overrides => industry.enableIn economy overrides
  | .setVariation economy variation => industry.setVariation economy variation

theorem apply_eq (industry : Industry) (call : VariationCall) :
    call.apply industry = industry.setVariation call.economy call.variation := by
  cases call <;> rfl

end VariationCall

/-- The variation that the last call for an economy gave; none if there is no call for it. -/
def lastVariation? (economy : EconomyId) (calls : List VariationCall) : Option EconomyVariation :=
  (calls.findRev? fun call => call.economy = economy).map (·.variation)

@[simp]
theorem lastVariation?_nil (economy : EconomyId) : lastVariation? economy [] = none := rfl

theorem lastVariation?_cons (economy : EconomyId) (call : VariationCall)
    (calls : List VariationCall) :
    lastVariation? economy (call :: calls) =
      (lastVariation? economy calls).or
        (if call.economy = economy then some call.variation else none) := by
  by_cases own : call.economy = economy
  · simp [lastVariation?, own]
  · simp [lastVariation?, own]

/-- There is no last call for an economy just if there is none at all. -/
theorem lastVariation?_eq_none_iff {economy : EconomyId} {calls : List VariationCall} :
    lastVariation? economy calls = none ↔ ∀ call ∈ calls, call.economy ≠ economy := by
  rw [lastVariation?, Option.map_eq_none_iff, List.findRev?_eq_find?_reverse, List.find?_eq_none]
  simp

namespace Industry

/-- The industry after some calls. -/
def afterCalls (industry : Industry) (calls : List VariationCall) : Industry :=
  calls.foldl VariationCall.apply industry

variable {industry : Industry} {calls : List VariationCall} {economy : EconomyId}

@[simp]
theorem afterCalls_cons (call : VariationCall) :
    industry.afterCalls (call :: calls) = (call.apply industry).afterCalls calls := rfl

theorem get?_apply (call : VariationCall) :
    (call.apply industry).variations.get? economy =
      if call.economy = economy then some call.variation else industry.variations.get? economy := by
  rw [VariationCall.apply_eq, setVariation, Dictionary.get?_insert]

/-- The last call for an economy decides. -/
theorem get?_afterCalls :
    (industry.afterCalls calls).variations.get? economy =
      (lastVariation? economy calls).or (industry.variations.get? economy) := by
  induction calls generalizing industry with
  | nil => rw [lastVariation?_nil, Option.none_or, afterCalls, List.foldl_nil]
  | cons call calls ih =>
    rw [afterCalls_cons, ih, get?_apply, lastVariation?_cons, Option.or_assoc]
    split <;> simp

/-- There are variations for the economies that calls are for, and for those that there were before.
-/
theorem contains_afterCalls :
    (industry.afterCalls calls).variations.contains economy = true ↔
      (∃ call ∈ calls, call.economy = economy) ∨ industry.variations.contains economy = true := by
  rw [Dictionary.contains, get?_afterCalls, Option.isSome_or, Bool.or_eq_true]
  refine or_congr_left ?_
  rw [← not_iff_not, Bool.not_eq_true, Option.isSome_eq_false_iff, Option.isNone_iff_eq_none,
    lastVariation?_eq_none_iff]
  simp

/-- Calls change nothing but variations. -/
theorem afterCalls_eq :
    industry.afterCalls calls =
      { industry with variations := (industry.afterCalls calls).variations } := by
  induction calls generalizing industry with
  | nil => rfl
  | cons call calls ih =>
    rw [afterCalls_cons, VariationCall.apply_eq]
    exact ih

end Industry

end IndustrySet
