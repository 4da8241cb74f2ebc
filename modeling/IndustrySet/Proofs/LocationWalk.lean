import IndustrySet.Location.Industry
import IndustrySet.Location.Tile
import IndustrySet.Proofs.WrittenNumbers
import Mathlib.Data.List.Nodup

set_option autoImplicit false

/-! # The way through a chain

A chain holds its checks by rank, those of one rank as they were declared, and leads from each rule
to the next by name. Whatever the names start with, they are distinct, so there is one way through
the chain: from the first rule past every other to the verdict of the last (`linked_build`). In the
text each rule has a line with its name and its outcome, and a name that is an outcome stands at the
head of an earlier line. -/

namespace IndustrySet

/-- A family of checks whose switches bear the names they are given and lead where they are told. -/
class LawfulLocationCheck (C : Type) [LocationCheck C] : Prop where
  entry_locationSwitch (check : C) (entry : String) (outcome : Outcome) :
    (LocationCheck.locationSwitch check entry outcome).entry = entry
  outcome_locationSwitch (check : C) (entry : String) (outcome : Outcome) :
    (LocationCheck.locationSwitch check entry outcome).outcome = outcome

instance : LawfulLocationCheck TileCheck where
  entry_locationSwitch check _ _ := by cases check <;> rfl
  outcome_locationSwitch check _ _ := by cases check <;> rfl

instance : LawfulLocationCheck SiteCheck where
  entry_locationSwitch check _ _ := by cases check <;> rfl
  outcome_locationSwitch check _ _ := by cases check <;> rfl

namespace Chain

variable {C : Type}

/-- A walk along some rules: what is visited from an outcome on, and the verdict at the end. -/
inductive Walk (rules : List (Rule C)) : Outcome → List (Rule C) → Verdict → Prop
  | stop (verdict : Verdict) : Walk rules (.stop verdict) [] verdict
  | step {entry : String} {rule : Rule C} {visited : List (Rule C)} {verdict : Verdict}
      (mem : rule ∈ rules) (named : rule.entry = entry)
      (rest : Walk rules rule.outcome visited verdict) :
      Walk rules (.next entry) (rule :: visited) verdict

/-- Where names are distinct, there is one walk. -/
theorem Walk.unique {rules visited visited' : List (Rule C)} {outcome : Outcome}
    {verdict verdict' : Verdict} (distinct : (rules.map (·.entry)).Nodup)
    (h : Walk rules outcome visited verdict) (h' : Walk rules outcome visited' verdict') :
    visited = visited' ∧ verdict = verdict' := by
  induction h generalizing visited' with
  | stop verdict =>
    cases h'
    exact ⟨rfl, rfl⟩
  | step mem named _ ih =>
    cases h' with
    | step mem' named' rest' =>
      cases List.inj_on_of_nodup_map distinct mem mem' (named.trans named'.symm)
      obtain ⟨rfl, rfl⟩ := ih rest'
      exact ⟨rfl, rfl⟩

variable [LocationCheck C]

/-- The verdict of the last check; without one, or without a verdict of it, locations are allowed.
-/
def verdict (chain : Chain C) : Verdict :=
  match chain.rules.getLast? with
  | some last => (LocationCheck.verdict? last.check).getD .allow
  | none => .allow

/-- The arguments of a call that come after the first one. -/
def furtherArguments (arguments : List String) : String :=
  String.join (arguments.map fun argument => ", " ++ argument)

/-- The line for a rule: the call of a macro with the name of the rule first, and its outcome among
the parameters that the check gives to the macro. -/
def ruleLine (rule : Rule C) : String :=
  rule.locationSwitch.macroName ++ "(" ++ rule.entry ++
    furtherArguments rule.locationSwitch.before ++ ", " ++
    (match rule.outcome with
      | .next entry => entry
      | .stop .allow => "return CB_RESULT_LOCATION_ALLOW"
      | .stop .disallow => "return CB_RESULT_LOCATION_DISALLOW") ++
    furtherArguments rule.locationSwitch.after ++ ")"

/-- What holds of the chain of some checks. -/
structure Linked (checks : List C) (chain : Chain C) : Prop where
  perm : (chain.rules.map (·.check)).Perm checks
  sorted : (chain.rules.map (·.check)).Pairwise fun a b =>
    LocationCheck.rank a ≤ LocationCheck.rank b
  /-- Checks of one rank stay in the order they were declared in. -/
  stable : ∀ rank,
    ((chain.rules.map (·.check)).filter fun check => LocationCheck.rank check = rank) =
      checks.filter fun check => LocationCheck.rank check = rank
  distinct : (chain.rules.map (·.entry)).Nodup
  /-- The only walk from the start visits every rule once, in order, and ends with the verdict of
  the last. -/
  walk : ∀ visited verdict, Walk chain.rules chain.start visited verdict ↔
    visited = chain.rules ∧ verdict = chain.verdict
  /-- Just the last rule has the outcome that its check has on its own. -/
  own : ∀ before rule after, chain.rules = before ++ rule :: after →
    (rule.hasOwnOutcome = true ↔ after = [])
  /-- There is one switch for each rule, the last rule's first. -/
  switches : chain.switches.map (fun s => (s.entry, s.outcome)) =
    (chain.rules.map fun rule => (rule.entry, rule.outcome)).reverse
  /-- A switch leads to one that stands before it. -/
  refersBack : ∀ before s after, chain.switches = before ++ s :: after →
    ∀ entry, s.outcome = .next entry → entry ∈ before.map (·.entry)
  /-- The text has one line for each rule, the last rule's first. -/
  text : chain.text = String.join (chain.rules.reverse.map fun rule => ruleLine rule ++ "\n")
  /-- If the outcome in a line is a name, it is that of the rule that an earlier line is for. -/
  namesBack : ∀ before rule after, chain.rules.reverse = before ++ rule :: after →
    ∀ entry, rule.outcome = .next entry → ∃ earlier ∈ before, earlier.entry = entry

/-! ## Names -/

theorem entryName_injective (stem : String) : Function.Injective (entryName stem) :=
  fun _ _ same => Text.digits_injective ((String.append_right_inj stem).1 same)

theorem entries_link (stem : String) (n : Nat) (checks : List C) :
    (link stem n checks).map (·.entry) = (List.range' n checks.length).map (entryName stem) := by
  fun_induction link stem n checks with
  | case1 => rfl
  | case2 n last => rfl
  | case3 n check following rest ih =>
    rw [List.map_cons, ih]
    rfl

theorem nodup_entries_link (stem : String) (n : Nat) (checks : List C) :
    ((link stem n checks).map (·.entry)).Nodup := by
  rw [entries_link]
  exact (List.nodup_range' 1).map (entryName_injective stem)

/-! ## Order -/

theorem checks_link (stem : String) (n : Nat) (checks : List C) :
    (link stem n checks).map (·.check) = checks := by
  fun_induction link stem n checks with
  | case1 => rfl
  | case2 n last => rfl
  | case3 n check following rest ih => rw [List.map_cons, ih]

theorem sort_perm (checks : List C) : (sort checks).Perm checks :=
  List.mergeSort_perm _ _

section

variable (C)

theorem rank_trans (a b c : C)
    (hab : decide (LocationCheck.rank a ≤ LocationCheck.rank b) = true)
    (hbc : decide (LocationCheck.rank b ≤ LocationCheck.rank c) = true) :
    decide (LocationCheck.rank a ≤ LocationCheck.rank c) = true := by
  simp only [decide_eq_true_eq] at *
  omega

theorem rank_total (a b : C) :
    (decide (LocationCheck.rank a ≤ LocationCheck.rank b) ||
      decide (LocationCheck.rank b ≤ LocationCheck.rank a)) = true := by
  simp only [Bool.or_eq_true, decide_eq_true_eq]
  omega

end

theorem pairwise_sort (checks : List C) :
    (sort checks).Pairwise fun a b => LocationCheck.rank a ≤ LocationCheck.rank b := by
  have sorted := List.pairwise_mergeSort (rank_trans C) (rank_total C) checks
  exact sorted.imp of_decide_eq_true

theorem filter_sort (checks : List C) (rank : Nat) :
    ((sort checks).filter fun check => LocationCheck.rank check = rank) =
      checks.filter fun check => LocationCheck.rank check = rank := by
  -- Checks of one rank count as sorted, so sorting keeps them as a sublist; there are no others.
  have equal : (checks.filter fun check => LocationCheck.rank check = rank).Pairwise
      fun a b => decide (LocationCheck.rank a ≤ LocationCheck.rank b) = true := by
    refine List.pairwise_of_forall_mem_list fun a ha b hb => ?_
    simp only [List.mem_filter, decide_eq_true_eq] at ha hb ⊢
    omega
  have kept : (checks.filter fun check => LocationCheck.rank check = rank).Sublist (sort checks) :=
    List.sublist_mergeSort (rank_trans C) (rank_total C) equal List.filter_sublist
  have inOrder := kept.filter fun check => LocationCheck.rank check = rank
  rw [List.filter_filter] at inOrder
  simp only [Bool.and_self] at inOrder
  exact (inOrder.eq_of_length ((sort_perm checks).filter _).length_eq.symm).symm

/-! ## Links -/

/-- The outcome of a check that some rules follow: that of its own, or the way to the next. -/
def outcomeBefore (check : C) : List (Rule C) → Outcome
  | [] => LocationCheck.ownOutcome check
  | following :: _ => .next following.entry

theorem outcomeBefore_eq_own {check : C} {after : List (Rule C)} :
    outcomeBefore check after = LocationCheck.ownOutcome check ↔ after = [] := by
  cases after <;> simp [outcomeBefore, LocationCheck.ownOutcome]

theorem outcomeBefore_eq_next {check : C} {after : List (Rule C)} {entry : String} :
    outcomeBefore check after = .next entry ↔
      ∃ following rest, after = following :: rest ∧ following.entry = entry := by
  cases after <;> simp [outcomeBefore, LocationCheck.ownOutcome]

/-- Every rule has the outcome that goes with the rules after it. -/
def LeadsOn (rules : List (Rule C)) : Prop :=
  ∀ before rule after, rules = before ++ rule :: after →
    rule.outcome = outcomeBefore rule.check after

theorem leadsOn_link (stem : String) (n : Nat) (checks : List C) :
    LeadsOn (link stem n checks) := by
  intro before rule after split
  fun_induction link stem n checks generalizing before with
  | case1 => simp at split
  | case2 n last =>
    cases before with
    | nil =>
      cases split
      rfl
    | cons first before => simp at split
  | case3 n check following rest ih =>
    cases before with
    | nil =>
      -- Whatever comes after, the first rule of the rest has the name that is led to.
      obtain ⟨rfl, rfl⟩ := List.cons.inj split
      cases rest <;> rfl
    | cons first before => exact ih before (List.cons.inj split).2

/-- From any rule on, the rest of the rules is walked along. -/
theorem LeadsOn.walk {rules : List (Rule C)} (leads : LeadsOn rules) (stem : String)
    (before rest : List (Rule C)) (split : rules = before ++ rest) :
    Walk rules (Chain.mk stem rest).start rest (Chain.mk stem rest).verdict := by
  induction rest generalizing before with
  | nil => exact .stop .allow
  | cons rule rest ih =>
    have mem : rule ∈ rules := by simp [split]
    refine .step mem rfl ?_
    rw [leads before rule rest split]
    cases rest with
    | nil => exact .stop _
    | cons following rest =>
      have later := ih (before ++ [rule]) (by simp [split])
      have sameVerdict : (Chain.mk stem (rule :: following :: rest)).verdict =
          (Chain.mk stem (following :: rest)).verdict := by
        simp only [verdict, List.getLast?_cons_cons]
      exact sameVerdict ▸ later

/-- In the text the last rule comes first, so the rule that an outcome names comes before. -/
theorem LeadsOn.namesBack {rules before after : List (Rule C)} (leads : LeadsOn rules)
    {rule : Rule C} (split : rules.reverse = before ++ rule :: after) {entry : String}
    (next : rule.outcome = .next entry) : ∃ earlier ∈ before, earlier.entry = entry := by
  rw [List.reverse_eq_iff, List.reverse_append, List.reverse_cons, List.append_assoc,
    List.singleton_append] at split
  rw [leads _ _ _ split] at next
  obtain ⟨following, rest, later, named⟩ := outcomeBefore_eq_next.1 next
  refine ⟨following, ?_, named⟩
  rw [← List.mem_reverse, later]
  exact List.mem_cons_self

section

variable [LawfulLocationCheck C]

theorem switches_eq (chain : Chain C) :
    chain.switches.map (fun s => (s.entry, s.outcome)) =
      (chain.rules.map fun rule => (rule.entry, rule.outcome)).reverse := by
  simp [switches, Rule.locationSwitch, Function.comp_def,
    LawfulLocationCheck.entry_locationSwitch, LawfulLocationCheck.outcome_locationSwitch]

theorem LeadsOn.refersBack {chain : Chain C} (leads : LeadsOn chain.rules)
    {before after : List LocationSwitch} {s : LocationSwitch}
    (split : chain.switches = before ++ s :: after) {entry : String}
    (next : s.outcome = .next entry) : entry ∈ before.map (·.entry) := by
  obtain ⟨earlier, _, rules, rfl, rest⟩ := List.map_eq_append_iff.1 split
  obtain ⟨rule, _, rfl, rfl, _⟩ := List.map_eq_cons_iff.1 rest
  rw [Rule.locationSwitch, LawfulLocationCheck.outcome_locationSwitch] at next
  obtain ⟨named, mem, rfl⟩ := leads.namesBack rules next
  refine List.mem_map.2 ⟨named.locationSwitch, List.mem_map_of_mem mem, ?_⟩
  rw [Rule.locationSwitch, LawfulLocationCheck.entry_locationSwitch]

/-! ## The text -/

theorem intercalate_arguments (first : String) (arguments : List String) :
    ", ".intercalate (first :: arguments) = first ++ furtherArguments arguments := by
  induction arguments generalizing first with
  | nil => simp [furtherArguments]
  | cons second arguments ih =>
    rw [String.intercalate_cons_cons, ih]
    simp [furtherArguments, String.append_assoc]

theorem furtherArguments_append (before after : List String) :
    furtherArguments (before ++ after) = furtherArguments before ++ furtherArguments after := by
  simp [furtherArguments]

theorem text_locationSwitch (rule : Rule C) : rule.locationSwitch.text = ruleLine rule := by
  have entry : rule.locationSwitch.entry = rule.entry :=
    LawfulLocationCheck.entry_locationSwitch _ _ _
  have outcome : rule.locationSwitch.outcome = rule.outcome :=
    LawfulLocationCheck.outcome_locationSwitch _ _ _
  have written : rule.outcome.text = match rule.outcome with
      | .next entry => entry
      | .stop .allow => "return CB_RESULT_LOCATION_ALLOW"
      | .stop .disallow => "return CB_RESULT_LOCATION_DISALLOW" := by
    cases rule.outcome with
    | next entry => rfl
    | stop verdict => cases verdict <;> rfl
  rw [LocationSwitch.text, List.cons_append, intercalate_arguments, furtherArguments_append, entry,
    outcome, written, ruleLine]
  simp only [furtherArguments, List.map_cons, String.join_cons, String.append_assoc]

theorem text_eq (chain : Chain C) :
    chain.text = String.join (chain.rules.reverse.map fun rule => ruleLine rule ++ "\n") := by
  rw [text, Text.unlines, switches, List.map_map, List.map_map]
  congr 2
  funext rule
  exact congrArg (· ++ "\n") (text_locationSwitch rule)

/-! ## The whole chain -/

/-- The chain of some checks holds them in order and has one way through it. -/
theorem linked_of_lawful (stem : String) (checks : List C) : (build stem checks).Linked checks := by
  have checksOf : (build stem checks).rules.map (·.check) = sort checks := checks_link stem 0 _
  have distinct : ((build stem checks).rules.map (·.entry)).Nodup := nodup_entries_link stem 0 _
  have leads : LeadsOn (build stem checks).rules := leadsOn_link stem 0 _
  have walk : Walk _ (build stem checks).start _ (build stem checks).verdict :=
    leads.walk stem [] _ rfl
  exact
    { perm := checksOf ▸ sort_perm checks
      sorted := checksOf ▸ pairwise_sort checks
      stable := fun rank => checksOf ▸ filter_sort checks rank
      distinct := distinct
      walk := by
        intro visited verdict
        constructor
        · intro other
          exact other.unique distinct walk
        · rintro ⟨rfl, rfl⟩
          exact walk
      own := by
        intro before rule after split
        rw [Rule.hasOwnOutcome, decide_eq_true_eq, leads before rule after split]
        exact outcomeBefore_eq_own
      switches := switches_eq _
      refersBack := fun _ _ _ split _ next => leads.refersBack split next
      text := text_eq _
      namesBack := fun _ _ _ split _ next => leads.namesBack split next }

end

/-- Whatever its names start with, the chain of some checks of a tile or of an industry holds them
in order and has one way through it. -/
theorem linked_build (stem : String) :
    (∀ checks : List TileCheck, (build stem checks).Linked checks) ∧
      ∀ checks : List SiteCheck, (build stem checks).Linked checks :=
  ⟨linked_of_lawful stem, linked_of_lawful stem⟩

end Chain

end IndustrySet
