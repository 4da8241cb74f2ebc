import IndustrySet.Proofs.Flattening
import IndustrySet.Proofs.IndustryReferences

set_option autoImplicit false

/-! # Boosts between processed cargos

The processed cargos of an industry are counted from 1, and delivering one of them raises the
production from any of them by its ratio, if the kind combines cargos (`Industry.boostBetween`). The
number of the cargo whose production is raised is only compared with that of the last cargo: the
number 0, which no cargo has, gets what the first cargo gets
(`Industry.boost_eq_boostBetween_iff`). -/

namespace IndustrySet.Industry

variable {industry : Industry} {asked : Option EconomyId} {processed : List (String × UInt32)}
  {supplied boosted : Nat}

/-- What one of the processed cargos gives another: its ratio if both numbers are those of cargos,
and nothing otherwise. -/
def boostBetween (industry : Industry) (processed : List (String × UInt32))
    (supplied boosted : Nat) : UInt32 :=
  if both : industry.kind.combinesCargos = true ∧ (1 ≤ supplied ∧ supplied ≤ processed.length) ∧
      1 ≤ boosted ∧ boosted ≤ processed.length then
    processed[supplied - 1].2
  else 0

/-! ## The ratio of a cargo -/

theorem prodRatio_succ (h : industry.processedCargos asked = .ok processed) (k : Nat) :
    industry.prodRatio (k + 1) asked = .ok ((processed[k]?.map (·.2)).getD 0) := by
  rw [prodRatio, h]
  rfl

theorem prodRatio_of_number (h : industry.processedCargos asked = .ok processed)
    (first : 1 ≤ supplied) (last : supplied ≤ processed.length) :
    industry.prodRatio supplied asked = .ok processed[supplied - 1].2 := by
  obtain ⟨k, rfl⟩ := Nat.exists_eq_add_of_le' first
  rw [prodRatio_succ h, List.getElem?_eq_getElem last]
  rfl

theorem prodRatio_of_not_number (h : industry.processedCargos asked = .ok processed)
    (none : ¬(1 ≤ supplied ∧ supplied ≤ processed.length)) :
    industry.prodRatio supplied asked = .ok 0 := by
  cases supplied with
  | zero =>
    rw [prodRatio, h]
    rfl
  | succ k =>
    have past : processed.length ≤ k := by omega
    rw [prodRatio_succ h, List.getElem?_eq_none past]
    rfl

/-! ## Boosts -/

theorem boost_of_combines (h : industry.processedCargos asked = .ok processed)
    (combines : industry.kind.combinesCargos = true) :
    industry.boost supplied boosted asked =
      if processed.length < boosted then .ok 0 else industry.prodRatio supplied asked := by
  rw [boost, if_pos combines, h]
  rfl

theorem boost_of_not_combines (separate : industry.kind.combinesCargos ≠ true) :
    industry.boost supplied boosted asked = .ok 0 := by
  rw [boost, if_neg separate]

/-- The number 0 counts as that of the first cargo. -/
theorem boost_eq (h : industry.processedCargos asked = .ok processed) (supplied boosted : Nat) :
    industry.boost supplied boosted asked =
      .ok (industry.boostBetween processed supplied (max boosted 1)) := by
  by_cases combines : industry.kind.combinesCargos = true
  · rw [boost_of_combines h combines]
    by_cases number : 1 ≤ supplied ∧ supplied ≤ processed.length
    · by_cases past : processed.length < boosted
      · have outside : ¬(1 ≤ max boosted 1 ∧ max boosted 1 ≤ processed.length) := by omega
        rw [if_pos past, boostBetween, dif_neg fun both => outside both.2.2]
      · have inside : 1 ≤ max boosted 1 ∧ max boosted 1 ≤ processed.length := by omega
        rw [if_neg past, boostBetween, dif_pos ⟨combines, number, inside⟩,
          prodRatio_of_number h number.1 number.2]
    · rw [prodRatio_of_not_number h number, ite_self, boostBetween,
        dif_neg fun both => number both.2.1]
  · rw [boost_of_not_combines combines, boostBetween, dif_neg fun both => combines both.1]

theorem boostBetween_zero (supplied : Nat) : industry.boostBetween processed supplied 0 = 0 :=
  dif_neg fun both => Nat.not_succ_le_zero 0 both.2.2.1

/-- For the base and wherever there is a variation, the boost is that between the processed cargos
there just if the number of the cargo whose production is raised is not 0, or the first cargo would
get nothing, either. -/
theorem boost_eq_boostBetween_iff (known : ∀ economy, asked = some economy →
    industry.variations.contains economy = true) :
    ∃ processed, industry.processedCargos asked = .ok processed ∧ ∀ supplied boosted,
      (industry.boost supplied boosted asked =
          .ok (industry.boostBetween processed supplied boosted) ↔
        boosted ≠ 0 ∨ industry.boostBetween processed supplied 1 = 0) ∧
      industry.boost supplied boosted asked =
        .ok (industry.boostBetween processed supplied (max boosted 1)) := by
  obtain ⟨variation, there⟩ := exists_variation_of_contains known
  obtain ⟨processed, h⟩ := exists_processedCargos there
  refine ⟨processed, h, fun supplied boosted => ⟨?_, boost_eq h supplied boosted⟩⟩
  rw [boost_eq h, Except.ok.injEq]
  cases boosted with
  | zero => simp [boostBetween_zero]
  | succ k => simp

theorem boost_eq_boostBetween_paperMill :
    paperMill.variations.contains "FIRS" = true ∧
      paperMill.boost 2 1 (some "FIRS") =
        .ok (paperMill.boostBetween [("WOOD", 6), ("RFPR", 2)] 2 1) ∧
      paperMill.boostBetween [("WOOD", 6), ("RFPR", 2)] 2 1 = 2 := by
  have there : paperMill.variations.contains "FIRS" = true := by decide +kernel
  have known : ∀ economy, some "FIRS" = some economy →
      paperMill.variations.contains economy = true := by
    intro economy same
    exact Option.some.inj same ▸ there
  obtain ⟨processed, h, boosts⟩ := boost_eq_boostBetween_iff known
  have own : paperMill.processedCargos (some "FIRS") = .ok [("WOOD", 6), ("RFPR", 2)] := by
    decide +kernel
  cases own.symm.trans h
  exact ⟨there, (boosts 2 1).1.2 (.inl (by decide)), by decide +kernel⟩

/-- In the paper mill wood raises the production from a cargo that there is not. -/
theorem boost_ne_boostBetween_paperMill :
    paperMill.variations.contains "FIRS" = true ∧
      paperMill.processedCargos (some "FIRS") = .ok [("WOOD", 6), ("RFPR", 2)] ∧
      paperMill.boost 1 0 (some "FIRS") = .ok 6 ∧
      paperMill.boost 1 0 (some "FIRS") ≠
        .ok (paperMill.boostBetween [("WOOD", 6), ("RFPR", 2)] 1 0) := by
  decide +kernel

end IndustrySet.Industry
