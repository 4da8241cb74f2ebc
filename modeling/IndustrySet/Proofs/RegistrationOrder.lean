import IndustrySet.Generation
import IndustrySet.Proofs.Dictionaries
import IndustrySet.Proofs.Registration

set_option autoImplicit false

/-! # The order of registrations

Whether a submission is refused depends on those before it only through what these take, and it
takes nothing from them that they do not take from it (`Submission.Clashes`). So whether all
submissions are accepted does not depend on their order. If they are, the order shows in that of the
registered cargos, industries and warnings, and nowhere else: every lookup gives the same answer,
and every cargo and industry is written alike or fails alike (`Registry.sameButOrder_runAll`). -/

namespace IndustrySet

/-! ## Submissions that clash -/

namespace Submission

/-- The two submissions want the same id, label or number. -/
def Clashes : Submission → Submission → Prop
  | .cargo a, .cargo b => a.id = b.id ∨ a.label = b.label ∨ a.numericId = b.numericId
  | .industry a, .industry b => a.id = b.id ∨ a.numericId = b.numericId
  | .cargo _, .industry _ | .industry _, .cargo _ => False

theorem clashes_comm {a b : Submission} : a.Clashes b ↔ b.Clashes a := by
  cases a <;> cases b <;> simp [Clashes, eq_comm]

/-- Does the submission name an economy that is not registered? -/
def NamesUnknown (economies : Economies) : Submission → Prop
  | .cargo _ => False
  | .industry submitted => submitted.hasUnknownEconomy economies

end Submission

/-- An industry with a variation for each economy. -/
def Industry.filledFor (economies : Economies) (industry : Industry) : Industry :=
  { industry with variations := Industry.fillVariations industry.variations economies.ids }

theorem Industries.Invariant.toList_eq {economies : Economies} {accepted : List Industry}
    {industries : Industries} (holds : Industries.Invariant economies accepted industries) :
    industries.toList = accepted.map (Industry.filledFor economies) := by
  refine (List.forall₂_eq_eq_eq ▸ List.forall₂_map_left_iff.2 ?_ :
    accepted.map (Industry.filledFor economies) = industries.toList).symm
  exact holds.all.imp fun submitted stored filled => (Industry.eq_of_fillEconomies filled).2.symm

namespace Registry

variable {economies : Economies} {accepted : List Submission} {registry : Registry}

/-- A submission is refused just if it clashes with an accepted one or names an unknown economy. -/
theorem refuses_iff (holds : registry.Invariant economies accepted) (submission : Submission) :
    registry.Refuses submission ↔
      (∃ other ∈ accepted, other.Clashes submission) ∨ submission.NamesUnknown economies := by
  cases submission with
  | cargo cargo =>
    simp only [Refuses, Cargos.Takes, holds.cargos.all, List.mem_filterMap,
      Submission.NamesUnknown, or_false]
    constructor
    · rintro ⟨other, ⟨submission, mem, isCargo⟩, same⟩
      cases submission with
      | cargo _ =>
        cases isCargo
        exact ⟨_, mem, same⟩
      | industry _ => cases isCargo
    · rintro ⟨submission, mem, clash⟩
      cases submission with
      | cargo other => exact ⟨other, ⟨_, mem, rfl⟩, clash⟩
      | industry _ => cases clash
  | industry industry =>
    simp only [Refuses, Industries.Takes, holds.industries.toList_eq, holds.fixed,
      List.mem_map, List.mem_filterMap, Submission.NamesUnknown]
    refine or_congr_left ?_
    constructor
    · rintro ⟨_, ⟨other, ⟨submission, mem, isIndustry⟩, rfl⟩, same⟩
      cases submission with
      | cargo _ => cases isIndustry
      | industry _ =>
        cases isIndustry
        exact ⟨_, mem, same⟩
    · rintro ⟨submission, mem, clash⟩
      cases submission with
      | cargo _ => cases clash
      | industry other => exact ⟨_, ⟨other, ⟨_, mem, rfl⟩, rfl⟩, clash⟩

/-! ## Runs in which nothing is refused -/

/-- All are accepted just if none names an unknown economy or clashes with one before it. -/
theorem accepted_runAll_iff (holds : registry.Invariant economies accepted)
    (submissions : List Submission) :
    (Update.runAll submit registry submissions).accepted = submissions ↔
      (∀ submission ∈ submissions, ¬submission.NamesUnknown economies ∧
        ∀ other ∈ accepted, ¬other.Clashes submission) ∧
      submissions.Pairwise fun a b => ¬a.Clashes b := by
  -- What was accepted grows along the run.
  induction submissions generalizing accepted registry with
  | nil => simp [Update.runAll]
  | cons submission rest ih =>
    have refused := holds.submit_refusedIff submission
    have refuses := refuses_iff holds submission
    unfold Update.runAll
    cases run : (submit submission).run registry with
    | ok _ next =>
      have fine := mt (refuses_iff holds submission).2 (refused.not_of_ok run)
      rw [not_or, not_exists] at fine
      have later := ih (holds.submit run)
      simp only [List.cons.injEq, true_and, later, List.mem_append, List.mem_singleton,
        List.forall_mem_cons, List.pairwise_cons]
      constructor
      · rintro ⟨each, apart⟩
        refine ⟨⟨⟨fine.2, fun other mem clash => fine.1 other ⟨mem, clash⟩⟩, ?_⟩, ?_, apart⟩
        · intro call mem
          obtain ⟨known, new⟩ := each call mem
          exact ⟨known, fun other there => new other (.inl there)⟩
        · exact fun call mem => (each call mem).2 submission (.inr rfl)
      · rintro ⟨⟨_, each⟩, first, apart⟩
        refine ⟨fun call mem => ⟨(each call mem).1, ?_⟩, apart⟩
        rintro other (there | rfl)
        · exact (each call mem).2 other there
        · exact first call mem
    | error e after =>
      rw [Update.RefusedIff, run] at refused
      constructor
      · intro all
        -- There is a call too many.
        have shorter := (Update.accepted_runAll_sublist submit after rest).length_le
        rw [all, List.length_cons] at shorter
        exact absurd shorter (Nat.not_succ_le_self _)
      · rintro ⟨each, _⟩
        obtain ⟨known, apart⟩ := each submission List.mem_cons_self
        rcases (refuses_iff holds submission).1 refused.1 with ⟨other, mem, clash⟩ | unknown
        · exact absurd clash (apart other mem)
        · exact absurd unknown known

/-- Whether all are accepted does not depend on the order, since clashes are mutual. -/
theorem accepted_runAll_perm (economies : Economies) {submissions submissions' : List Submission}
    (perm : submissions.Perm submissions') :
    (Update.runAll submit (create economies) submissions).accepted = submissions ↔
      (Update.runAll submit (create economies) submissions').accepted = submissions' := by
  have start : (create economies).Invariant economies [] := .create economies
  rw [accepted_runAll_iff start, accepted_runAll_iff start]
  refine and_congr ?_ (perm.pairwise_iff fun apart clash => apart (Submission.clashes_comm.1 clash))
  exact forall_congr' fun submission => imp_congr_left perm.mem_iff

/-! ## Registries that differ in order only -/

/-- Two registries hold the same, in whatever order, answer alike, and have the same written. -/
structure SameButOrder (registry registry' : Registry) : Prop where
  economies : registry.economies = registry'.economies
  cargos : registry.cargos.toList.Perm registry'.cargos.toList
  industries : registry.industries.toList.Perm registry'.industries.toList
  /-- What was noticed when industries were registered. -/
  warnings : registry.industries.warnings.Perm registry'.industries.warnings
  cargo : ∀ id, registry.cargos.get? id = registry'.cargos.get? id
  byLabel : ∀ label, registry.cargos.byLabel? label = registry'.cargos.byLabel? label
  industry : ∀ id, registry.industries.get? id = registry'.industries.get? id
  contains : ∀ id, registry.industries.contains id = registry'.industries.contains id
  numbers : registry.industries.numbers = registry'.industries.numbers
  enabledIn : ∀ economy,
    (registry.industries.enabledIn economy).Perm (registry'.industries.enabledIn economy)
  /-- The fragment of an industry and the warnings about it are the same, or the error is. -/
  fragment : ∀ industry, registry.industryFragment industry = registry'.industryFragment industry
  /-- If everything is written out of the one, then the same is out of the other. -/
  generate : ∀ config generated, registry.generate config = .ok generated →
    ∃ generated', registry'.generate config = .ok generated' ∧
      generated.fragments.Perm generated'.fragments ∧ generated.warnings.Perm generated'.warnings

section

variable {accepted' : List Submission} {registry' : Registry}

theorem industryFragment_eq (economies : registry.economies = registry'.economies)
    (byLabel : ∀ label, registry.cargos.byLabel? label = registry'.cargos.byLabel? label)
    (numbers : registry.industries.numbers = registry'.industries.numbers) (industry : Industry) :
    registry.industryFragment industry = registry'.industryFragment industry := by
  have unknown : registry.unknownLabels = registry'.unknownLabels := by
    funext labels
    simp only [unknownLabels, byLabel]
  simp only [industryFragment, validateIndustry, economies, numbers, unknown]

theorem generate_perm (cargos : registry.cargos.toList.Perm registry'.cargos.toList)
    (industries : registry.industries.toList.Perm registry'.industries.toList)
    (warnings : registry.industries.warnings.Perm registry'.industries.warnings)
    (industry : ∀ id, registry.industries.get? id = registry'.industries.get? id)
    (fragment : ∀ industry,
      registry.industryFragment industry = registry'.industryFragment industry)
    (config : Configuration) {generated : Generated}
    (written : registry.generate config = .ok generated) :
    ∃ generated', registry'.generate config = .ok generated' ∧
      generated.fragments.Perm generated'.fragments ∧
      generated.warnings.Perm generated'.warnings := by
  obtain ⟨selected, hselected, written⟩ := bind_eq_ok.1 written
  obtain ⟨fragments, hfragments, written⟩ := bind_eq_ok.1 written
  obtain ⟨selected', hselected', order⟩ : ∃ selected',
      registry'.selectedIndustries config = .ok selected' ∧ selected.Perm selected' := by
    unfold selectedIndustries at hselected ⊢
    cases chosen : config.testIndustry with
    | none =>
      rw [chosen] at hselected
      cases hselected
      exact ⟨_, rfl, industries⟩
    | some id =>
      rw [chosen] at hselected
      simp only [Industries.lookup, industry] at hselected ⊢
      exact ⟨selected, hselected, .refl _⟩
  obtain ⟨fragments', hfragments', results⟩ := exists_mapM_perm order hfragments
  rw [mapM_congr fun industry _ => fragment industry] at hfragments'
  refine ⟨_, bind_eq_ok.2 ⟨selected', hselected', bind_eq_ok.2 ⟨fragments', hfragments', rfl⟩⟩, ?_⟩
  rw [← pure_eq_ok.1 written]
  exact ⟨(cargos.map _).append (results.map _), warnings.append (results.map _).flatten⟩

theorem SameButOrder.of_perm (holds : registry.Invariant economies accepted)
    (holds' : registry'.Invariant economies accepted') (perm : accepted.Perm accepted') :
    registry.SameButOrder registry' := by
  have fixed : registry.economies = registry'.economies := holds.fixed.trans holds'.fixed.symm
  have cargos : registry.cargos.toList.Perm registry'.cargos.toList := by
    rw [holds.cargos.all, holds'.cargos.all]
    exact perm.filterMap _
  have industries : registry.industries.toList.Perm registry'.industries.toList := by
    rw [holds.industries.toList_eq, holds'.industries.toList_eq]
    exact (perm.filterMap _).map _
  have warnings : registry.industries.warnings.Perm registry'.industries.warnings := by
    rw [holds.industries.warnings, holds'.industries.warnings]
    exact (industries.filter _).map _
  have byLabel : ∀ label, registry.cargos.byLabel? label = registry'.cargos.byLabel? label :=
    find?_perm cargos holds.cargos.labels
  have industry : ∀ id, registry.industries.get? id = registry'.industries.get? id := by
    refine fun id => Option.ext fun industry => ?_
    rw [holds.industries.get?_eq_some, holds'.industries.get?_eq_some, industries.mem_iff]
  have numbers : registry.industries.numbers = registry'.industries.numbers := by
    funext id
    simp only [Industries.numbers, industry]
  have fragment := industryFragment_eq fixed byLabel numbers
  exact
    { economies := fixed
      cargos := cargos
      industries := industries
      warnings := warnings
      cargo := find?_perm cargos holds.cargos.ids
      byLabel := byLabel
      industry := industry
      contains := fun id => by
        rw [Bool.eq_iff_iff, holds.industries.contains_iff, holds'.industries.contains_iff]
        simp only [industries.mem_iff]
      numbers := numbers
      enabledIn := fun economy => industries.filter _
      fragment := fragment
      generate := fun config generated =>
        generate_perm cargos industries warnings industry fragment config }

end

/-- Cargos and industries are submitted to a registry without any, in two orders. If nothing is
refused in the one, then nothing is in the other, and the two registries differ in order only. -/
theorem sameButOrder_runAll (economies : Economies) {submissions submissions' : List Submission}
    (perm : submissions.Perm submissions') :
    let run := Update.runAll submit (create economies) submissions
    let run' := Update.runAll submit (create economies) submissions'
    (run.accepted = submissions ↔ run'.accepted = submissions') ∧
      (run.accepted = submissions → run.state.SameButOrder run'.state) := by
  intro run run'
  have together := accepted_runAll_perm economies perm
  refine ⟨together, fun all => ?_⟩
  have holds : run.state.Invariant economies run.accepted := .runAll economies submissions
  have holds' : run'.state.Invariant economies run'.accepted := .runAll economies submissions'
  rw [all] at holds
  rw [together.1 all] at holds'
  exact .of_perm holds holds' perm

/-- A forge, which keeps away from a smithy. -/
def forge : Industry :=
  { Industry.create "forge" 30 .tertiary (.ofList []) with
    requirements := { incompatible := [("smithy", 16)] } }

theorem sameButOrder_forge :
    let submissions := [Submission.industry forge,
      .industry (.create "smithy" 31 .primaryPort (.ofList []))]
    let run := Update.runAll submit (create .standard) submissions
    let run' := Update.runAll submit (create .standard) submissions.reverse
    submissions.Perm submissions.reverse ∧ run.accepted = submissions ∧
      run'.accepted = submissions.reverse ∧ run.state.SameButOrder run'.state := by
  intro submissions run run'
  have perm : submissions.Perm submissions.reverse := submissions.reverse_perm.symm
  have all : run.accepted = submissions :=
    (Update.accepted_runAll_sublist submit _ submissions).eq_of_length (by decide +kernel)
  obtain ⟨together, same⟩ := sameButOrder_runAll .standard perm
  exact ⟨perm, all, together.1 all, same all⟩

end Registry

end IndustrySet
