import IndustrySet.Proofs.LocationOrder

set_option autoImplicit false

/-! # The phases of a chain

The checks of a tile are evaluated in three phases: those that only ever reject, then those that let
a founder pass, then the others, so that a founder skips no check of the first phase. What is among
the checks tells whether the chain is open-ended and what its verdict is
(`Chain.phases_build`). -/

namespace IndustrySet

/-- Of a list that is sorted by numbers, the elements below a bound come first. -/
theorem filter_append_filter_of_pairwise {α : Type} {f : α → Nat} {xs : List α}
    (sorted : xs.Pairwise fun a b => f a ≤ f b) (bound : Nat) :
    xs.filter (fun x => f x < bound) ++ xs.filter (fun x => bound ≤ f x) = xs := by
  induction xs with
  | nil => rfl
  | cons x xs ih =>
    obtain ⟨least, rest⟩ := List.pairwise_cons.1 sorted
    by_cases below : f x < bound
    · rw [List.filter_cons_of_pos (by simpa), List.filter_cons_of_neg (by simpa), List.cons_append,
        ih rest]
    · -- Then nothing that follows is below the bound either.
      have all : ∀ y ∈ x :: xs, bound ≤ f y := by
        intro y mem
        rcases List.mem_cons.1 mem with rfl | mem
        · exact Nat.le_of_not_lt below
        · exact Nat.le_trans (Nat.le_of_not_lt below) (least y mem)
      rw [List.filter_eq_nil_iff.2 fun y mem => by simpa using all y mem, List.nil_append]
      exact List.filter_eq_self.2 fun y mem => decide_eq_true (all y mem)

/-- Those below a bound come first, then those at it, then those above it. -/
theorem filter_append_filter_append_filter_of_pairwise {α : Type} {f : α → Nat} {xs : List α}
    (sorted : xs.Pairwise fun a b => f a ≤ f b) (bound : Nat) :
    xs.filter (fun x => f x < bound) ++ xs.filter (fun x => f x = bound) ++
      xs.filter (fun x => bound < f x) = xs := by
  have above := filter_append_filter_of_pairwise (sorted.filter fun x => bound ≤ f x) (bound + 1)
  rw [List.filter_filter, List.filter_filter] at above
  have atBound : xs.filter (fun x => f x = bound) =
      xs.filter fun x => decide (f x < bound + 1) && decide (bound ≤ f x) :=
    List.filter_congr fun x _ => by grind
  have aboveBound : xs.filter (fun x => bound < f x) =
      xs.filter fun x => decide (bound + 1 ≤ f x) && decide (bound ≤ f x) :=
    List.filter_congr fun x _ => by grind
  rw [List.append_assoc, atBound, aboveBound, above]
  exact filter_append_filter_of_pairwise sorted bound

namespace Chain

variable {C : Type} [LocationCheck C] {stem : String} {checks : List C} {last : C}

/-! ## The last check -/

theorem mem_sort {check : C} : check ∈ sort checks ↔ check ∈ checks :=
  (sort_perm checks).mem_iff

/-- The last check is one of the highest rank. -/
theorem rank_le_last (h : (sort checks).getLast? = some last) {check : C} (mem : check ∈ checks) :
    LocationCheck.rank check ≤ LocationCheck.rank last := by
  obtain ⟨before, split⟩ := List.getLast?_eq_some_iff.1 h
  have sorted := pairwise_sort checks
  rw [← mem_sort, split, List.mem_append, List.mem_singleton] at mem
  rw [split] at sorted
  rcases mem with mem | rfl
  · exact (List.pairwise_append.1 sorted).2.2 check mem last (List.mem_singleton.2 rfl)
  · exact Nat.le_refl _

theorem last_mem (h : (sort checks).getLast? = some last) : last ∈ checks :=
  mem_sort.1 (List.mem_of_getLast? h)

theorem getLast?_sort_eq_none : (sort checks).getLast? = none ↔ checks = [] := by
  rw [List.getLast?_eq_none_iff, ← List.length_eq_zero_iff, (sort_perm checks).length_eq,
    List.length_eq_zero_iff]

/-- The last check gives the verdict of the chain. -/
theorem verdict_build (stem : String) (checks : List C) :
    (build stem checks).verdict =
      ((sort checks).getLast?.bind LocationCheck.verdict?).getD .allow := by
  rw [← checks_build stem checks, List.getLast?_map, verdict]
  cases (build stem checks).rules.getLast? <;> rfl

/-- Where every check passes, the chain is walked to its verdict. -/
theorem exists_walk_iff [LawfulLocationCheck C] {verdict : Verdict} :
    (∃ visited, Walk (build stem checks).rules (build stem checks).start visited verdict) ↔
      (build stem checks).verdict = verdict := by
  simp only [(linked_of_lawful stem checks).walk, exists_eq_left, eq_comm]

/-- A chain is open-ended only if a check that was given has no verdict. -/
theorem isOpenEnded_eq_false (h : ∀ check ∈ checks, (LocationCheck.verdict? check).isSome = true) :
    (build stem checks).isOpenEnded = false := by
  rw [isOpenEnded_build]
  cases found : (sort checks).getLast? with
  | none => rfl
  | some last => simpa using h last (last_mem found)

theorem pairwise_rank_rules (stem : String) (checks : List C) :
    (build stem checks).rules.Pairwise fun r r' =>
      LocationCheck.rank r.check ≤ LocationCheck.rank r'.check := by
  have sorted := pairwise_sort checks
  rwa [← checks_build stem checks, List.pairwise_map] at sorted

end Chain

/-! ## Checks of a tile -/

namespace TileCheck

/-- The checks that only ever reject come before the founder. -/
theorem verdict?_eq_none_iff {check : TileCheck} :
    check.verdict? = none ↔ LocationCheck.rank check < LocationCheck.rank founder := by
  cases check <;>
    simp [verdict?, LocationCheck.rank, priority, TilePriority.rank, TilePriority.ctorIdx]

theorem eq_founder_iff {check : TileCheck} :
    check = founder ↔ LocationCheck.rank check = LocationCheck.rank founder := by
  cases check <;> simp [LocationCheck.rank, priority, TilePriority.rank, TilePriority.ctorIdx]

theorem isLate_iff {check : TileCheck} :
    check.verdict? ≠ none ∧ check ≠ founder ↔
      LocationCheck.rank founder < LocationCheck.rank check := by
  rw [ne_eq, verdict?_eq_none_iff, ne_eq, eq_founder_iff]
  omega

theorem verdict?_eq_disallow_iff {check : TileCheck} :
    check.verdict? = some .disallow ↔ ∃ x y, check = .requireHousesNearby x y := by
  cases check <;> simp [verdict?]

/-- Only checks for roads come after those for houses. -/
theorem eq_road_or_houses {check : TileCheck} {x y : Int8}
    (h : LocationCheck.rank (requireHousesNearby x y) ≤ LocationCheck.rank check) :
    check = .requireRoadAdjacent ∨ ∃ x y, check = .requireHousesNearby x y := by
  cases check <;>
    simp [LocationCheck.rank, priority, TilePriority.rank, TilePriority.ctorIdx] at h ⊢

/-- A check for roads is not followed by one for houses. -/
theorem rank_houses_lt_road (x y : Int8) :
    LocationCheck.rank (requireHousesNearby x y) < LocationCheck.rank requireRoadAdjacent := by
  simp [LocationCheck.rank, priority, TilePriority.rank, TilePriority.ctorIdx]

end TileCheck

namespace Chain

section

variable {stem : String} {checks : List TileCheck}

theorem phases_rules (stem : String) (checks : List TileCheck) :
    let rules := (build stem checks).rules
    rules = rules.filter (fun rule => rule.check.verdict? = none) ++
      rules.filter (fun rule => rule.check = .founder) ++
      rules.filter fun rule => rule.check.verdict? ≠ none ∧ rule.check ≠ .founder := by
  intro rules
  have split := filter_append_filter_append_filter_of_pairwise (pairwise_rank_rules stem checks)
    (LocationCheck.rank TileCheck.founder)
  simp only [← TileCheck.verdict?_eq_none_iff, ← TileCheck.eq_founder_iff,
    ← TileCheck.isLate_iff] at split
  exact split.symm

theorem isOpenEnded_iff_of_tile : (build stem checks).isOpenEnded = true ↔
    checks ≠ [] ∧ ∀ check ∈ checks, check.verdict? = none := by
  rw [isOpenEnded_build]
  cases found : (sort checks).getLast? with
  | none => simp [getLast?_sort_eq_none.1 found]
  | some last =>
    have some : checks ≠ [] := List.ne_nil_of_mem (last_mem found)
    simp only [Option.map_some, Option.any_some, Option.isNone_iff_eq_none, ne_eq, some,
      not_false_eq_true, true_and]
    constructor
    · intro rejects check mem
      have below := TileCheck.verdict?_eq_none_iff.1 rejects
      exact TileCheck.verdict?_eq_none_iff.2 (Nat.lt_of_le_of_lt (rank_le_last found mem) below)
    · intro all
      exact all last (last_mem found)

theorem verdict_eq_disallow_iff : (build stem checks).verdict = .disallow ↔
    (∃ x y, .requireHousesNearby x y ∈ checks) ∧ .requireRoadAdjacent ∉ checks := by
  rw [verdict_build]
  cases found : (sort checks).getLast? with
  | none => simp [getLast?_sort_eq_none.1 found]
  | some last =>
    have disallows : ((LocationCheck.verdict? last).getD .allow = .disallow) ↔
        ∃ x y, last = .requireHousesNearby x y := by
      rw [← TileCheck.verdict?_eq_disallow_iff]
      show (last.verdict?).getD .allow = .disallow ↔ _
      cases last.verdict? <;> simp
    rw [Option.bind_some, disallows]
    constructor
    · rintro ⟨x, y, rfl⟩
      refine ⟨⟨x, y, last_mem found⟩, fun road => ?_⟩
      exact Nat.not_lt.2 (rank_le_last found road) (TileCheck.rank_houses_lt_road x y)
    · rintro ⟨⟨x, y, houses⟩, noRoad⟩
      rcases TileCheck.eq_road_or_houses (rank_le_last found houses) with rfl | isHouses
      · exact absurd (last_mem found) noRoad
      · exact isHouses

end

end Chain

/-! ## Checks of an industry -/

theorem SiteCheck.eq_founder_or_layout {check : SiteCheck}
    (h : LocationCheck.rank check ≤ LocationCheck.rank founder) :
    check = .founder ∨ ∃ layout year, check = .layoutAvailableFrom layout year := by
  cases check <;>
    simp [LocationCheck.rank, priority, SitePriority.rank, SitePriority.ctorIdx] at h ⊢

namespace Chain

section

variable {stem : String} {checks : List SiteCheck}

theorem founder_or_layout_of_before {before after : List (Rule SiteCheck)} {rule : Rule SiteCheck}
    (split : (build stem checks).rules = before ++ rule :: after) (founder : rule.check = .founder)
    {earlier : Rule SiteCheck} (mem : earlier ∈ before) :
    earlier.check = .founder ∨ ∃ layout year, earlier.check = .layoutAvailableFrom layout year := by
  have sorted := pairwise_rank_rules stem checks
  rw [split, List.pairwise_append] at sorted
  have order := sorted.2.2 earlier mem rule List.mem_cons_self
  rw [founder] at order
  exact SiteCheck.eq_founder_or_layout order

theorem verdict_eq_allow : (build stem checks).verdict = .allow := by
  rw [verdict_build]
  cases (sort checks).getLast? <;> rfl

end

/-! ## Whole chains -/

/-- How the chain of some checks of a tile is evaluated. -/
structure TilePhases (checks : List TileCheck) (chain : Chain TileCheck) : Prop where
  /-- All checks that only ever reject come first, then all for the founder, then all others. -/
  phases : chain.rules =
    chain.rules.filter (fun rule => rule.check.verdict? = none) ++
      chain.rules.filter (fun rule => rule.check = .founder) ++
      chain.rules.filter fun rule => rule.check.verdict? ≠ none ∧ rule.check ≠ .founder
  isOpenEnded : chain.isOpenEnded = true ↔
    checks ≠ [] ∧ ∀ check ∈ checks, check.verdict? = none
  /-- Where every check passes, only houses without a road lead to a refusal. -/
  disallow : (∃ visited, Walk chain.rules chain.start visited .disallow) ↔
    (∃ x y, .requireHousesNearby x y ∈ checks) ∧ .requireRoadAdjacent ∉ checks
  allow : (∃ visited, Walk chain.rules chain.start visited .allow) ↔
    ¬((∃ x y, .requireHousesNearby x y ∈ checks) ∧ .requireRoadAdjacent ∉ checks)

/-- How the chain of some checks of an industry is evaluated. -/
structure SitePhases (chain : Chain SiteCheck) : Prop where
  /-- Before a founder check there are only those for layouts, and other founder checks. -/
  beforeFounder : ∀ before rule after, chain.rules = before ++ rule :: after →
    rule.check = .founder → ∀ earlier ∈ before,
      earlier.check = .founder ∨ ∃ layout year, earlier.check = .layoutAvailableFrom layout year
  isOpenEnded : chain.isOpenEnded = false
  /-- Where every check passes, the location is allowed. -/
  ends : ∀ verdict, (∃ visited, Walk chain.rules chain.start visited verdict) ↔ verdict = .allow

/-- Whatever its names start with, the chain of some checks of a tile evaluates those that only ever
reject before the founder check, and that of an industry only those for layouts. What is among the
checks tells where the chain ends. -/
theorem phases_build (stem : String) :
    (∀ checks : List TileCheck, TilePhases checks (build stem checks)) ∧
      ∀ checks : List SiteCheck, SitePhases (build stem checks) := by
  refine ⟨fun checks => ?_, fun checks => ?_⟩
  · exact
      { phases := phases_rules stem checks
        isOpenEnded := isOpenEnded_iff_of_tile
        disallow := exists_walk_iff.trans verdict_eq_disallow_iff
        allow := by
          rw [exists_walk_iff, ← @verdict_eq_disallow_iff stem]
          cases (build stem checks).verdict <;> simp }
  · exact
      { beforeFounder := fun _ _ _ split founder _ mem =>
          founder_or_layout_of_before split founder mem
        isOpenEnded := isOpenEnded_eq_false fun _ _ => rfl
        ends := fun verdict => by rw [exists_walk_iff, verdict_eq_allow, eq_comm] }

/-- A second founder check comes after the first, which is not one for a layout. -/
theorem not_layoutsBeforeFounder_founders :
    (build "hotel_lc_" [SiteCheck.founder, .founder]).rules =
      [⟨.founder, "hotel_lc_0", .next "hotel_lc_1"⟩, ⟨.founder, "hotel_lc_1", .stop .allow⟩] ∧
    ¬∀ before rule after,
      (build "hotel_lc_" [SiteCheck.founder, .founder]).rules = before ++ rule :: after →
      rule.check = .founder → ∀ earlier ∈ before,
        ∃ layout year, earlier.check = .layoutAvailableFrom layout year := by
  have rules : (build "hotel_lc_" [SiteCheck.founder, .founder]).rules =
      [⟨.founder, "hotel_lc_0", .next "hotel_lc_1"⟩, ⟨.founder, "hotel_lc_1", .stop .allow⟩] := by
    have sorted : sort [SiteCheck.founder, .founder] = [.founder, .founder] :=
      sort_eq_iff.2 ⟨by decide, fun _ => rfl⟩
    rw [build, sorted]
    decide +kernel
  refine ⟨rules, fun all => ?_⟩
  obtain ⟨_, _, layout⟩ := all [_] _ [] rules rfl _ List.mem_cons_self
  cases layout

end Chain

end IndustrySet
