import IndustrySet.Proofs.LocationWalk

set_option autoImplicit false

/-! # Checks given in another order

A chain sorts its checks, so what it keeps of the order in which they are given is the order of
those with one priority: two lists make the same chain just if they have the same checks of each
priority in the same order. Lists that hold the same checks in whatever order make chains that
differ in the parameters of checks only, and a chain gives its checks in an order that makes the
chain again (`Chain.dependsOnOrder_build`). -/

namespace IndustrySet

/-! ## Priorities -/

theorem TilePriority.rank_injective : Function.Injective TilePriority.rank :=
  Function.LeftInverse.injective TilePriority.ofNat_ctorIdx

theorem SitePriority.rank_injective : Function.Injective SitePriority.rank :=
  Function.LeftInverse.injective SitePriority.ofNat_ctorIdx

/-- Checks of one priority have one rank, and differ in nothing but their parameters. -/
structure PriorityDecides {C P : Type} [LocationCheck C] (priority : C → P) : Prop where
  rank {a b : C} : LocationCheck.rank a = LocationCheck.rank b ↔ priority a = priority b
  name {a b : C} (same : priority a = priority b) : LocationCheck.name a = LocationCheck.name b
  verdict? {a b : C} (same : priority a = priority b) :
    LocationCheck.verdict? a = LocationCheck.verdict? b
  /-- There are checks of every priority. -/
  surjective : Function.Surjective priority

theorem TileCheck.priorityDecides : PriorityDecides TileCheck.priority where
  rank := TilePriority.rank_injective.eq_iff
  name {a b} same := by cases a <;> cases b <;> cases same <;> rfl
  verdict? {a b} same := by cases a <;> cases b <;> cases same <;> rfl
  surjective
    | .disallowCoast => ⟨.disallowCoast, rfl⟩
    | .disallowDesert => ⟨.disallowDesert, rfl⟩
    | .disallowAboveSnowline => ⟨.disallowAboveSnowline, rfl⟩
    | .requireEffectivelyFlat => ⟨.requireEffectivelyFlat, rfl⟩
    | .disallowSteepSlopes => ⟨.disallowSteepSlopes, rfl⟩
    | .disallowSlopes => ⟨.disallowSlopes, rfl⟩
    | .founder => ⟨.founder, rfl⟩
    | .disallowIndustryAdjacent => ⟨.disallowIndustryAdjacent, rfl⟩
    | .requireSea => ⟨.requireSea, rfl⟩
    | .requireCoastSlope => ⟨.requireCoastSlope, rfl⟩
    | .requireHousesNearby => ⟨.requireHousesNearby 0 0, rfl⟩
    | .requireRoadAdjacent => ⟨.requireRoadAdjacent, rfl⟩

theorem SiteCheck.priorityDecides : PriorityDecides SiteCheck.priority where
  rank := SitePriority.rank_injective.eq_iff
  name {a b} same := by cases a <;> cases b <;> cases same <;> rfl
  verdict? _ := rfl
  surjective
    | .layoutDate => ⟨.layoutAvailableFrom 0 0, rfl⟩
    | .founder => ⟨.founder, rfl⟩
    | .requireCluster => ⟨.requireCluster 0 0 0 0 0, rfl⟩
    | .townDistance => ⟨.townDistance 0 0, rfl⟩
    | .coastDistance => ⟨.coastDistance, rfl⟩
    | .incompatible => ⟨.incompatible 0 0, rfl⟩

namespace Chain

variable {C P : Type} [LocationCheck C] {stem : String} {xs ys zs : List C}

/-! ## Sorted lists -/

theorem rank_le_of_mem {x y : C}
    (sorted : (x :: xs).Pairwise fun a b => LocationCheck.rank a ≤ LocationCheck.rank b)
    (mem : y ∈ x :: xs) : LocationCheck.rank x ≤ LocationCheck.rank y := by
  rcases List.mem_cons.1 mem with rfl | mem
  · exact Nat.le_refl _
  · exact List.rel_of_pairwise_cons sorted mem

theorem mem_iff_of_filter
    (same : ∀ rank, (xs.filter fun check => LocationCheck.rank check = rank) =
      ys.filter fun check => LocationCheck.rank check = rank) {check : C} :
    check ∈ xs ↔ check ∈ ys := by
  have ofRank := congrArg (check ∈ ·) (same (LocationCheck.rank check))
  simpa using ofRank

/-- Lists sorted by rank are told apart by the checks of some rank. -/
theorem eq_of_pairwise_of_filter
    (hxs : xs.Pairwise fun a b => LocationCheck.rank a ≤ LocationCheck.rank b)
    (hys : ys.Pairwise fun a b => LocationCheck.rank a ≤ LocationCheck.rank b)
    (same : ∀ rank, (xs.filter fun check => LocationCheck.rank check = rank) =
      ys.filter fun check => LocationCheck.rank check = rank) : xs = ys := by
  induction xs generalizing ys with
  | nil =>
    refine (List.eq_nil_iff_forall_not_mem.2 fun check mem => ?_).symm
    exact List.not_mem_nil ((mem_iff_of_filter same).2 mem)
  | cons x xs ih =>
    cases ys with
    | nil => exact absurd ((mem_iff_of_filter same).1 List.mem_cons_self) List.not_mem_nil
    | cons y ys =>
      -- Each of the first checks is in both lists, so neither rank is above the other.
      have ranks : LocationCheck.rank y = LocationCheck.rank x :=
        Nat.le_antisymm (rank_le_of_mem hys ((mem_iff_of_filter same).1 List.mem_cons_self))
          (rank_le_of_mem hxs ((mem_iff_of_filter same).2 List.mem_cons_self))
      have first := same (LocationCheck.rank x)
      rw [List.filter_cons_of_pos (by simp), List.filter_cons_of_pos (by simp [ranks])] at first
      obtain ⟨rfl, -⟩ := List.cons.inj first
      refine congrArg (x :: ·) (ih hxs.of_cons hys.of_cons fun rank => ?_)
      have whole := same rank
      simp only [List.filter_cons] at whole
      split at whole
      · exact (List.cons.inj whole).2
      · exact whole

/-- The checks in the order of evaluation are sorted, and those of each rank are in the order in
which they are given. No other list is like that. -/
theorem sort_eq_iff :
    sort xs = ys ↔ (ys.Pairwise fun a b => LocationCheck.rank a ≤ LocationCheck.rank b) ∧
      ∀ rank, (xs.filter fun check => LocationCheck.rank check = rank) =
        ys.filter fun check => LocationCheck.rank check = rank := by
  constructor
  · rintro rfl
    exact ⟨pairwise_sort xs, fun rank => (filter_sort xs rank).symm⟩
  · rintro ⟨sorted, same⟩
    refine eq_of_pairwise_of_filter (pairwise_sort xs) sorted fun rank => ?_
    rw [filter_sort, same]

theorem sort_sort (xs : List C) : sort (sort xs) = sort xs :=
  sort_eq_iff.2 ⟨pairwise_sort xs, fun _ => rfl⟩

theorem map_rank_sort (perm : xs.Perm ys) :
    (sort xs).map LocationCheck.rank = (sort ys).map LocationCheck.rank := by
  have sorted (zs : List C) : ((sort zs).map LocationCheck.rank).Pairwise (· ≤ ·) :=
    List.pairwise_map.2 (pairwise_sort zs)
  have order : (sort xs).Perm (sort ys) :=
    (sort_perm xs).trans (perm.trans (sort_perm ys).symm)
  exact List.Perm.eq_of_pairwise (fun _ _ _ _ => Nat.le_antisymm) (sorted xs) (sorted ys)
    (order.map _)

/-! ## Blocks of checks -/

/-- Neighbouring blocks that share no rank may be given the other way round. -/
theorem sort_append_swap
    (apart : ∀ x ∈ xs, ∀ y ∈ ys, LocationCheck.rank x ≠ LocationCheck.rank y) :
    sort (xs ++ (ys ++ zs)) = sort (ys ++ (xs ++ zs)) := by
  refine sort_eq_iff.2 ⟨pairwise_sort _, fun rank => ?_⟩
  rw [filter_sort]
  simp only [List.filter_append]
  by_cases found : ∃ x ∈ xs, LocationCheck.rank x = rank
  · obtain ⟨x, mem, rfl⟩ := found
    have none : (ys.filter fun y => LocationCheck.rank y = LocationCheck.rank x) = [] := by
      refine List.filter_eq_nil_iff.2 fun y hy same => apart x mem y hy ?_
      exact (of_decide_eq_true same).symm
    rw [none, List.nil_append, List.nil_append]
  · have none : (xs.filter fun x => LocationCheck.rank x = rank) = [] :=
      List.filter_eq_nil_iff.2 fun x mem same => found ⟨x, mem, of_decide_eq_true same⟩
    rw [none, List.nil_append, List.nil_append]

/-- The checks are sorted, and none has a rank below a bound. -/
structure SortedFrom (bound : Nat) (checks : List C) : Prop where
  sorted : checks.Pairwise fun a b => LocationCheck.rank a ≤ LocationCheck.rank b
  bound_le : ∀ check ∈ checks, bound ≤ LocationCheck.rank check

namespace SortedFrom

theorem ofRank (bound : Nat) (h : ∀ x ∈ xs, LocationCheck.rank x = bound) :
    SortedFrom bound xs where
  sorted := List.pairwise_of_forall_mem_list fun x hx y hy =>
    Nat.le_of_eq ((h x hx).trans (h y hy).symm)
  bound_le x mem := Nat.le_of_eq (h x mem).symm

/-- Checks of one rank may stand before checks that do not go below it. -/
theorem append (bound : Nat) {bound' : Nat} (h : ∀ x ∈ xs, LocationCheck.rank x = bound)
    (le : bound ≤ bound') (rest : SortedFrom bound' ys) : SortedFrom bound (xs ++ ys) := by
  have above : ∀ y ∈ ys, bound ≤ LocationCheck.rank y :=
    fun y mem => Nat.le_trans le (rest.bound_le y mem)
  have first := ofRank bound h
  constructor
  · refine List.pairwise_append.2 ⟨first.sorted, rest.sorted, fun x hx y hy => ?_⟩
    exact h x hx ▸ above y hy
  · intro check mem
    exact (List.mem_append.1 mem).elim (first.bound_le check) (above check)

end SortedFrom

/-! ## Priorities in a list -/

/-- The checks of each rank are those of each priority. -/
theorem filter_rank_eq_iff [DecidableEq P] {priority : C → P}
    (decides : PriorityDecides priority) :
    (∀ rank, (xs.filter fun check => LocationCheck.rank check = rank) =
        ys.filter fun check => LocationCheck.rank check = rank) ↔
      ∀ p, (xs.filter fun check => priority check = p) =
        ys.filter fun check => priority check = p := by
  have ofCheck (zs : List C) (check : C) :
      (zs.filter fun other => priority other = priority check) =
        zs.filter fun other => LocationCheck.rank other = LocationCheck.rank check :=
    List.filter_congr fun other _ => by simp only [decides.rank]
  constructor
  · intro same p
    obtain ⟨check, rfl⟩ := decides.surjective p
    rw [ofCheck, ofCheck, same]
  · intro same rank
    by_cases found : ∃ check : C, LocationCheck.rank check = rank
    · obtain ⟨check, rfl⟩ := found
      rw [← ofCheck, ← ofCheck, same]
    · -- No check has this rank.
      have none (zs : List C) : (zs.filter fun check => LocationCheck.rank check = rank) = [] :=
        List.filter_eq_nil_iff.2 fun check _ is => found ⟨check, of_decide_eq_true is⟩
      rw [none, none]

/-! ## Chains -/

theorem checks_build (stem : String) (checks : List C) :
    (build stem checks).rules.map (·.check) = sort checks :=
  checks_link stem 0 _

theorem build_eq_build_iff : build stem xs = build stem ys ↔ sort xs = sort ys := by
  constructor
  · intro same
    rw [← checks_build stem xs, same, checks_build]
  · intro same
    rw [build, build, same]

/-- Rules that differ in the parameters of their checks only. -/
structure AlikeRules (priority : C → P) (r r' : Rule C) : Prop where
  priority : priority r.check = priority r'.check
  name : LocationCheck.name r.check = LocationCheck.name r'.check
  entry : r.entry = r'.entry
  outcome : r.outcome = r'.outcome

theorem alikeRules_link {priority : C → P} (decides : PriorityDecides priority)
    (same : List.Forall₂ (fun x y => priority x = priority y) xs ys) (n : Nat) :
    List.Forall₂ (AlikeRules priority) (link stem n xs) (link stem n ys) := by
  induction same generalizing n with
  | nil => exact .nil
  | cons head rest ih =>
    cases rest with
    | nil =>
      refine .cons ⟨head, decides.name head, rfl, ?_⟩ .nil
      simp only [LocationCheck.ownOutcome, decides.verdict? head]
    | cons _ _ => exact .cons ⟨head, decides.name head, rfl, rfl⟩ (ih (n + 1))

/-- The chain is open-ended if its last check has no verdict. -/
theorem isOpenEnded_build (stem : String) (checks : List C) :
    (build stem checks).isOpenEnded =
      ((sort checks).getLast?.map LocationCheck.verdict?).any Option.isNone := by
  rw [← checks_build stem checks, List.getLast?_map, isOpenEnded]
  cases (build stem checks).rules.getLast? <;> rfl

/-- Chains that differ in the parameters of their checks only. -/
structure Alike (priority : C → P) (chain chain' : Chain C) : Prop where
  rules : List.Forall₂ (AlikeRules priority) chain.rules chain'.rules
  isOpenEnded : chain.isOpenEnded = chain'.isOpenEnded

theorem alike_build {priority : C → P} (decides : PriorityDecides priority) (perm : xs.Perm ys) :
    Alike priority (build stem xs) (build stem ys) := by
  have ranks := map_rank_sort perm
  rw [← List.forall₂_eq_eq_eq, List.forall₂_map_left_iff, List.forall₂_map_right_iff] at ranks
  have same : List.Forall₂ (fun x y => priority x = priority y) (sort xs) (sort ys) :=
    ranks.imp fun _ _ => decides.rank.1
  have verdicts : (sort xs).map LocationCheck.verdict? = (sort ys).map LocationCheck.verdict? := by
    rw [← List.forall₂_eq_eq_eq, List.forall₂_map_left_iff, List.forall₂_map_right_iff]
    exact same.imp fun _ _ => decides.verdict?
  refine ⟨alikeRules_link decides same 0, ?_⟩
  rw [isOpenEnded_build, isOpenEnded_build, ← List.getLast?_map, ← List.getLast?_map, verdicts]

/-- What the order in which checks are given decides in their chain. -/
structure DependsOnOrder [DecidableEq P] (priority : C → P) (stem : String) (xs ys : List C) :
    Prop where
  /-- Two lists make one chain just if they have the same checks of each priority, in order. -/
  same : build stem xs = build stem ys ↔
    ∀ p, (xs.filter fun check => priority check = p) = ys.filter fun check => priority check = p
  /-- In another order, checks make a chain that differs in their parameters only. -/
  alike : xs.Perm ys → Alike priority (build stem xs) (build stem ys)
  /-- The checks of a chain, in the order of its rules, make the chain again. -/
  again : build stem ((build stem xs).rules.map (·.check)) = build stem xs

theorem dependsOnOrder_of_decides [DecidableEq P] {priority : C → P}
    (decides : PriorityDecides priority) (stem : String) (xs ys : List C) :
    DependsOnOrder priority stem xs ys where
  same := by
    rw [build_eq_build_iff, sort_eq_iff, ← filter_rank_eq_iff decides]
    simp only [filter_sort, pairwise_sort, true_and]
  alike := alike_build decides
  again := by rw [checks_build, build_eq_build_iff, sort_sort]

/-- Whatever its names start with, the chain of some checks of a tile or of an industry depends on
the order in which they are given as far as checks of one priority go, and no further. -/
theorem dependsOnOrder_build (stem : String) :
    (∀ xs ys : List TileCheck, DependsOnOrder TileCheck.priority stem xs ys) ∧
      ∀ xs ys : List SiteCheck, DependsOnOrder SiteCheck.priority stem xs ys :=
  ⟨dependsOnOrder_of_decides TileCheck.priorityDecides stem,
    dependsOnOrder_of_decides SiteCheck.priorityDecides stem⟩

/-- A founder check may come anywhere, but the first place that is searched for houses stays the
first. -/
theorem dependsOnOrder_houses :
    let first : TileCheck := .requireHousesNearby 0 3
    let second : TileCheck := .requireHousesNearby 3 0
    build "mill_lc_" [first, .founder, second] = build "mill_lc_" [.founder, first, second] ∧
      build "mill_lc_" [first, .founder, second] ≠ build "mill_lc_" [second, first, .founder] ∧
      [first, .founder, second].Perm [second, first, .founder] ∧
      Alike TileCheck.priority (build "mill_lc_" [first, .founder, second])
        (build "mill_lc_" [second, first, .founder]) := by
  intro first second
  have ofTiles := (dependsOnOrder_build "mill_lc_").1
  have perm : [first, .founder, second].Perm [second, first, .founder] := by decide
  refine ⟨(ofTiles _ _).same.2 fun p => ?_, fun same => ?_, perm, (ofTiles _ _).alike perm⟩
  · cases p <;> rfl
  · have houses := (ofTiles _ _).same.1 same .requireHousesNearby
    exact absurd houses (by decide)

end Chain

end IndustrySet
