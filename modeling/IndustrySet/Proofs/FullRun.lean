import IndustrySet.Proofs.SingleIndustry

set_option autoImplicit false

/-! # All industries at once and one by one

Writing all industries is writing each of them alone: it succeeds just if each of these runs does,
and then has their fragments one after the other, and the warnings of the whole registry
(`Registry.generate_all_eq_parts`). -/

namespace IndustrySet

namespace Registry

variable {registry : Registry} {industry : Industry} {config : Configuration}
  {results : List (Fragment × List Warning)} {generated : Generated}

/-- All industries are written, or one of them. -/
theorem sublist_of_selectedIndustries {economies : Economies} {accepted : List Submission}
    (holds : registry.Invariant economies accepted) {selected : List Industry}
    (h : registry.selectedIndustries config = .ok selected) :
    selected.Sublist registry.industries.toList := by
  unfold selectedIndustries at h
  split at h
  · obtain ⟨industry, found, h⟩ := bind_eq_ok.1 h
    rw [← pure_eq_ok.1 h, List.singleton_sublist]
    unfold Industries.lookup at found
    split at found
    · next known =>
      cases found
      exact (holds.industries.get?_eq_some.1 known).1
    · cases found
  · cases h
    exact .refl _

/-! ## What is gathered in a run -/

/-- What a run gives when these are the fragments of the industries, with the warnings about each.
-/
def gathered (registry : Registry) (results : List (Fragment × List Warning)) : Generated where
  fragments := registry.cargos.toList.map cargoFragment ++ results.map (·.1)
  warnings := registry.industries.warnings ++ (results.map (·.2)).flatten

theorem generate_eq_ok : registry.generate config = .ok generated ↔
    ∃ selected, registry.selectedIndustries config = .ok selected ∧
      ∃ results, selected.mapM registry.industryFragment = .ok results ∧
        generated = registry.gathered results := by
  constructor
  · intro h
    obtain ⟨selected, hselected, h⟩ := bind_eq_ok.1 h
    obtain ⟨results, hresults, h⟩ := bind_eq_ok.1 h
    exact ⟨selected, hselected, results, hresults, (pure_eq_ok.1 h).symm⟩
  · rintro ⟨selected, hselected, results, hresults, rfl⟩
    exact bind_eq_ok.2 ⟨selected, hselected, bind_eq_ok.2 ⟨results, hresults, rfl⟩⟩

theorem generate_all_eq_ok : registry.generate config.all = .ok generated ↔
    ∃ results, registry.industries.toList.mapM registry.industryFragment = .ok results ∧
      generated = registry.gathered results := by
  rw [generate_eq_ok]
  constructor
  · rintro ⟨_, all, written⟩
    cases all
    exact written
  · intro written
    exact ⟨_, rfl, written⟩

theorem generate_only_eq_ok (known : registry.industries.get? industry.id = some industry) :
    registry.generate (config.only industry.id) = .ok generated ↔
      ∃ result, registry.industryFragment industry = .ok result ∧
        generated = registry.gathered [result] := by
  rw [generate_eq_ok, selectedIndustries_only known]
  constructor
  · rintro ⟨_, alone, results, hresults, rfl⟩
    cases alone
    obtain ⟨result, rest, hresult, nothing, rfl⟩ :=
      List.forall₂_cons_left_iff.1 (mapM_eq_ok.1 hresults)
    cases List.forall₂_nil_left_iff.1 nothing
    exact ⟨result, hresult, rfl⟩
  · rintro ⟨result, hresult, rfl⟩
    exact ⟨_, rfl, _, mapM_eq_ok.2 (.cons hresult .nil), rfl⟩

theorem generate_only_of_unknown {id : IndustryId} (unknown : registry.industries.get? id = none)
    (config : Configuration) :
    registry.generate (config.only id) = .error (.unknownIndustry id) := by
  simp only [generate, selectedIndustries, Configuration.only, Industries.lookup, unknown]
  rfl

/-! ## Warnings -/

theorem validateIndustry_of_industryFragment {result : Fragment × List Warning}
    (h : registry.industryFragment industry = .ok result) :
    registry.validateIndustry industry = .ok result.2 := by
  obtain ⟨warnings, noticed, h⟩ := bind_eq_ok.1 h
  obtain ⟨blocks, _, h⟩ := bind_eq_ok.1 h
  rw [← pure_eq_ok.1 h]
  exact noticed

/-- Where all industries are written, the warnings are those of the registry. -/
theorem validate_of_mapM_industryFragment
    (h : registry.industries.toList.mapM registry.industryFragment = .ok results) :
    registry.validate = .ok (registry.gathered results).warnings := by
  have noticed : registry.industries.toList.mapM registry.validateIndustry =
      .ok (results.map (·.2)) := by
    rw [mapM_eq_ok, List.forall₂_map_right_iff]
    exact (mapM_eq_ok.1 h).imp fun _ _ => validateIndustry_of_industryFragment
  exact bind_eq_ok.2 ⟨_, noticed, rfl⟩

/-! ## The sum of the parts -/

theorem exists_generate_all_iff (known : ∀ industry ∈ registry.industries.toList,
    registry.industries.get? industry.id = some industry) :
    (∃ full, registry.generate config.all = .ok full) ↔
      ∀ industry ∈ registry.industries.toList, ∃ single,
        registry.generate (config.only industry.id) = .ok single := by
  constructor
  · rintro ⟨full, written⟩ industry mem
    obtain ⟨results, hresults, _⟩ := generate_all_eq_ok.1 written
    obtain ⟨result, _, hresult⟩ := exists_of_mapM_mem hresults mem
    exact ⟨_, (generate_only_eq_ok (known industry mem)).2 ⟨result, hresult, rfl⟩⟩
  · intro each
    obtain ⟨results, hresults⟩ := exists_mapM_ok fun industry mem => by
      obtain ⟨single, written⟩ := each industry mem
      obtain ⟨result, hresult, _⟩ := (generate_only_eq_ok (known industry mem)).1 written
      exact ⟨result, hresult⟩
    exact ⟨_, generate_all_eq_ok.2 ⟨results, hresults, rfl⟩⟩

/-- The fragments of all industries are those that each of them has alone. -/
theorem fragments_generate_all (known : ∀ industry ∈ registry.industries.toList,
    registry.industries.get? industry.id = some industry)
    (hresults : registry.industries.toList.mapM registry.industryFragment = .ok results) :
    List.Forall₂ (fun industry fragment => ∃ single,
        registry.generate (config.only industry.id) = .ok single ∧
        single.fragments = registry.cargos.toList.map cargoFragment ++ [fragment])
      registry.industries.toList (results.map (·.1)) := by
  rw [List.forall₂_map_right_iff]
  refine ((List.forall₂_and_left _ _).2 ⟨known, mapM_eq_ok.1 hresults⟩).imp ?_
  rintro industry result ⟨found, hresult⟩
  exact ⟨_, (generate_only_eq_ok found).2 ⟨result, hresult, rfl⟩, rfl⟩

/-- Whatever is submitted to a registry: all its industries can be written just if each of them
alone can. What is written of one alone is the cargos and one fragment, with the warnings from
registering and those about the industry. What is written of all is the cargos and, in order, the
fragment that each industry has alone, with the warnings of the registry. To ask for an industry
that is not registered is an error. -/
theorem generate_all_eq_parts (economies : Economies) (submissions : List Submission)
    (config : Configuration) :
    let registry := (Update.runAll Registry.submit (Registry.create economies) submissions).state
    let industries := registry.industries.toList
    let cargos := registry.cargos.toList.map cargoFragment
    ((∃ full, registry.generate config.all = .ok full) ↔
      ∀ industry ∈ industries, ∃ single,
        registry.generate (config.only industry.id) = .ok single) ∧
    (∀ industry ∈ industries, ∀ single,
      registry.generate (config.only industry.id) = .ok single →
        ∃ fragment warnings, single.fragments = cargos ++ [fragment] ∧
          registry.validateIndustry industry = .ok warnings ∧
          single.warnings = registry.industries.warnings ++ warnings) ∧
    (∀ full, registry.generate config.all = .ok full →
      registry.validate = .ok full.warnings ∧
      ∃ fragments, full.fragments = cargos ++ fragments ∧
        List.Forall₂ (fun industry fragment => ∃ single,
          registry.generate (config.only industry.id) = .ok single ∧
          single.fragments = cargos ++ [fragment]) industries fragments) ∧
    ∀ id, (∀ industry ∈ industries, industry.id ≠ id) →
      registry.generate (config.only id) = .error (.unknownIndustry id) := by
  intro registry industries cargos
  have holds : registry.Invariant economies _ := Invariant.runAll economies submissions
  have known : ∀ industry ∈ industries, registry.industries.get? industry.id = some industry :=
    fun industry mem => holds.industries.get?_eq_some.2 ⟨mem, rfl⟩
  refine ⟨exists_generate_all_iff known, ?_, ?_, ?_⟩
  · intro industry mem single written
    obtain ⟨result, hresult, rfl⟩ := (generate_only_eq_ok (known industry mem)).1 written
    exact ⟨result.1, result.2, rfl, validateIndustry_of_industryFragment hresult,
      by simp [gathered]⟩
  · intro full written
    obtain ⟨results, hresults, rfl⟩ := generate_all_eq_ok.1 written
    exact ⟨validate_of_mapM_industryFragment hresults, results.map (·.1), rfl,
      fragments_generate_all known hresults⟩
  · intro id missing
    refine generate_only_of_unknown (Option.eq_none_iff_forall_ne_some.2 fun industry found => ?_)
      config
    obtain ⟨mem, same⟩ := holds.industries.get?_eq_some.1 found
    exact missing industry mem same

end Registry

end IndustrySet
