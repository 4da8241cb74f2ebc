import IndustrySet.Proofs.IndustryReferences
import IndustrySet.Proofs.LocationOrder

set_option autoImplicit false

/-! # The location checks of an industry in order

The checks that an industry wants are collected in one order and evaluated in another. The chain can
be built just if the table has a number for every industry that the checks refer to; then it holds
the declared checks with these numbers in the order that is specified (`checks_chain`): layouts,
founder, cluster, town, coast, own type, other types. -/

namespace IndustrySet

namespace SiteRequirements

variable {r : SiteRequirements} {own : IndustryId} {table : NumberTable}
  {numberOf : IndustryId → UInt16}

/-- The declared checks in the order that is specified, when the industries that they refer to have
these numbers. -/
def checksInOrder (r : SiteRequirements) (own : IndustryId) (numberOf : IndustryId → UInt16) :
    List SiteCheck :=
  r.layoutsAvailableFrom.map (fun (layout, year) => .layoutAvailableFrom layout year) ++
    (if r.alwaysAllowFounder then [.founder] else []) ++
    r.requireCluster.toList.map (fun c =>
      .requireCluster (numberOf c.industry) c.minDistance c.maxDistance c.div c.mult) ++
    r.townDistance.toList.map (fun (min, max) => .townDistance min max) ++
    (if r.coastDistance then [.coastDistance] else []) ++
    r.sameTypeDistance.toList.map (fun distance => .incompatible (numberOf own) distance) ++
    r.incompatible.map fun (id, distance) => .incompatible (numberOf id) distance

/-! ## Collected checks -/

/-- The checks of which there is one each at most, and that are collected first. -/
def singleChecks (r : SiteRequirements) (numberOf : IndustryId → UInt16) : List SiteCheck :=
  (if r.alwaysAllowFounder then [.founder] else []) ++
    (r.requireCluster.toList.map (fun c =>
      .requireCluster (numberOf c.industry) c.minDistance c.maxDistance c.div c.mult) ++
    (r.townDistance.toList.map (fun (min, max) => .townDistance min max) ++
    if r.coastDistance then [.coastDistance] else []))

/-- The checks for layouts. -/
def layoutChecks (r : SiteRequirements) : List SiteCheck :=
  r.layoutsAvailableFrom.map fun (layout, year) => .layoutAvailableFrom layout year

/-- The checks for distances to industries of a type. -/
def typeChecks (r : SiteRequirements) (own : IndustryId) (numberOf : IndustryId → UInt16) :
    List SiteCheck :=
  r.sameTypeDistance.toList.map (fun distance => .incompatible (numberOf own) distance) ++
    r.incompatible.map fun (id, distance) => .incompatible (numberOf id) distance

theorem checksInOrder_eq (r : SiteRequirements) (own : IndustryId)
    (numberOf : IndustryId → UInt16) : r.checksInOrder own numberOf =
      r.layoutChecks ++ (r.singleChecks numberOf ++ r.typeChecks own numberOf) := by
  simp only [checksInOrder, layoutChecks, singleChecks, typeChecks, List.append_assoc]

section

variable (known : ∀ id ∈ r.industries own, table id = some (numberOf id))

include known

theorem clusterChecks_eq : clusterChecks table r.requireCluster =
    .ok (r.requireCluster.toList.map fun c =>
      .requireCluster (numberOf c.industry) c.minDistance c.maxDistance c.div c.mult) := by
  cases wanted : r.requireCluster with
  | none => rfl
  | some c =>
    have number := known c.industry (by simp [industries, wanted])
    simp only [clusterChecks, NumberTable.number, number]
    rfl

theorem sameTypeChecks_eq : sameTypeChecks table own r.sameTypeDistance =
    .ok (r.sameTypeDistance.toList.map fun distance => .incompatible (numberOf own) distance) := by
  cases wanted : r.sameTypeDistance with
  | none => rfl
  | some distance =>
    have number := known own (by simp [industries, wanted])
    simp only [sameTypeChecks, NumberTable.number, number]
    rfl

theorem mapM_incompatibleCheck_eq : r.incompatible.mapM (incompatibleCheck table) =
    .ok (r.incompatible.map fun (id, distance) => .incompatible (numberOf id) distance) := by
  rw [mapM_congr (g := fun entry => .ok (.incompatible (numberOf entry.1) entry.2)) ?_,
    mapM_eq_map fun _ => rfl]
  intro entry mem
  have number := known entry.1 (List.mem_append_right _ (List.mem_map_of_mem mem))
  simp only [incompatibleCheck, NumberTable.number, number]
  rfl

/-- The checks are collected with those for layouts in the middle. -/
theorem checks_eq : r.checks own table =
    .ok (r.singleChecks numberOf ++ (r.layoutChecks ++ r.typeChecks own numberOf)) := by
  refine bind_eq_ok.2 ⟨_, clusterChecks_eq known, bind_eq_ok.2 ⟨_, sameTypeChecks_eq known,
    bind_eq_ok.2 ⟨_, mapM_incompatibleCheck_eq known, ?_⟩⟩⟩
  rw [pure_eq_ok]
  simp only [singleChecks, layoutChecks, typeChecks, List.append_assoc]
  cases r.townDistance <;> rfl

end

/-! ## Order of evaluation -/

theorem rank_of_mem_map {α : Type} {xs : List α} {check : α → SiteCheck} {priority : SitePriority}
    (h : ∀ x, (check x).priority = priority) :
    ∀ c ∈ xs.map check, LocationCheck.rank c = priority.rank :=
  List.forall_mem_map.2 fun x _ => congrArg SitePriority.rank (h x)

theorem rank_of_mem_if {wanted : Bool} {check : SiteCheck} :
    ∀ c ∈ (if wanted then [check] else []), LocationCheck.rank c = check.priority.rank := by
  cases wanted <;> simp [LocationCheck.rank]

theorem rank_of_mem_layoutChecks :
    ∀ c ∈ r.layoutChecks, LocationCheck.rank c = SitePriority.layoutDate.rank :=
  rank_of_mem_map fun _ => rfl

/-- Apart from those for layouts, the checks are collected in the order of their priorities. -/
theorem sortedFrom_collected (r : SiteRequirements) (own : IndustryId)
    (numberOf : IndustryId → UInt16) :
    Chain.SortedFrom SitePriority.founder.rank
      (r.singleChecks numberOf ++ r.typeChecks own numberOf) := by
  simp only [singleChecks, typeChecks, List.append_assoc]
  exact .append SitePriority.founder.rank rank_of_mem_if (by decide) <|
    .append SitePriority.requireCluster.rank (rank_of_mem_map fun _ => rfl) (by decide) <|
    .append SitePriority.townDistance.rank (rank_of_mem_map fun _ => rfl) (by decide) <|
    .append SitePriority.coastDistance.rank rank_of_mem_if (by decide) <|
    .append SitePriority.incompatible.rank (rank_of_mem_map fun _ => rfl) (Nat.le_refl _) <|
    .ofRank SitePriority.incompatible.rank (rank_of_mem_map fun _ => rfl)

theorem sort_collected (r : SiteRequirements) (own : IndustryId) (numberOf : IndustryId → UInt16) :
    Chain.sort (r.singleChecks numberOf ++ (r.layoutChecks ++ r.typeChecks own numberOf)) =
      r.checksInOrder own numberOf := by
  have rest := sortedFrom_collected r own numberOf
  have apart : ∀ x ∈ r.singleChecks numberOf, ∀ y ∈ r.layoutChecks,
      LocationCheck.rank x ≠ LocationCheck.rank y := by
    intro x hx y hy same
    have above := rest.bound_le x (List.mem_append_left _ hx)
    rw [same, rank_of_mem_layoutChecks y hy] at above
    exact absurd above (by decide)
  have sorted : Chain.SortedFrom SitePriority.layoutDate.rank (r.checksInOrder own numberOf) := by
    rw [checksInOrder_eq]
    exact rest.append SitePriority.layoutDate.rank rank_of_mem_layoutChecks (by decide)
  rw [Chain.sort_append_swap apart, ← checksInOrder_eq]
  exact Chain.sort_eq_iff.2 ⟨sorted.sorted, fun _ => rfl⟩

/-- An industry's location checks can be put in a chain just if the table has numbers of all
industries that they refer to. The chain then holds the declared checks, with these numbers, in the
specified order; else the error is about the first industry without a number, of the cluster, the
industry itself and the incompatible ones. -/
theorem checks_chain (r : SiteRequirements) (own : IndustryId) (table : NumberTable) :
    ((∃ chain, r.chain own table = .ok chain) ↔
      ∀ id ∈ r.industries own, ∃ number, table id = some number) ∧
    (∀ chain, r.chain own table = .ok chain → ∃ numberOf : IndustryId → UInt16,
      (∀ id ∈ r.industries own, table id = some (numberOf id)) ∧
        chain.rules.map (·.check) = r.checksInOrder own numberOf) ∧
    ∀ e, r.chain own table = .error e → ∃ before id after,
      r.industries own = before ++ id :: after ∧
        (∀ earlier ∈ before, ∃ number, table earlier = some number) ∧
        table id = none ∧ e = .unknownIndustry id := by
  have needs := r.needs_chain own table
  refine ⟨⟨?_, needs.exists_ok⟩, fun chain built => ?_, fun e fails => ?_⟩
  · rintro ⟨chain, built⟩
    exact needs.met_of_ok built
  · have numbers := needs.met_of_ok built
    let numberOf : IndustryId → UInt16 := fun id => (table id).getD 0
    have known : ∀ id ∈ r.industries own, table id = some (numberOf id) := by
      intro id mem
      obtain ⟨number, found⟩ := numbers id mem
      simp only [numberOf, found, Option.getD_some]
    refine ⟨numberOf, known, ?_⟩
    obtain ⟨checks, collected, built⟩ := bind_eq_ok.1 built
    cases (checks_eq known).symm.trans collected
    rw [← pure_eq_ok.1 built, Chain.checks_build, sort_collected]
  · rw [NeedsNumbers, fails] at needs
    obtain ⟨before, id, after, split, earlier, missing, same⟩ := needs
    refine ⟨before, id, after, split, earlier, ?_, same⟩
    exact Option.eq_none_iff_forall_ne_some.2 fun number found => missing ⟨number, found⟩

/-- The hotel has checks of all kinds, two of them about the general store. -/
theorem checks_chain_hotel :
    let r : SiteRequirements :=
      { requireCluster := some ⟨"general_store", 20, 72, 1, 4⟩
        townDistance := some (8, 40)
        coastDistance := true
        sameTypeDistance := some 16
        incompatible := [("general_store", 20), ("hotel", 30)]
        layoutsAvailableFrom := [(2, 1970), (1, 1950)] }
    let table : NumberTable := fun id =>
      if id = "hotel" then some 14 else if id = "general_store" then some 12 else none
    ∃ chain, r.chain "hotel" table = .ok chain ∧ chain.rules.map (·.check) =
      [.layoutAvailableFrom 2 1970, .layoutAvailableFrom 1 1950, .founder,
        .requireCluster 12 20 72 1 4, .townDistance 8 40, .coastDistance, .incompatible 14 16,
        .incompatible 12 20, .incompatible 14 30] := by
  intro r table
  obtain ⟨buildable, inOrder, -⟩ := checks_chain r "hotel" table
  have ids : r.industries "hotel" = ["general_store", "hotel", "general_store", "hotel"] := rfl
  obtain ⟨chain, built⟩ := buildable.2 (by simp [ids, table])
  obtain ⟨numberOf, known, order⟩ := inOrder chain built
  have hotel : 14 = numberOf "hotel" := Option.some.inj (known "hotel" (by simp [ids]))
  have store : 12 = numberOf "general_store" :=
    Option.some.inj (known "general_store" (by simp [ids]))
  refine ⟨chain, built, order.trans ?_⟩
  rw [hotel, store]
  rfl

end SiteRequirements

end IndustrySet
