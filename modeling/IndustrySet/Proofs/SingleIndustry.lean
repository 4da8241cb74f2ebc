import IndustrySet.Generation
import IndustrySet.Proofs.Registration
import IndustrySet.Proofs.Warnings

set_option autoImplicit false

/-! # One industry among others

An industry reads nothing of the others but the numbers of those that its location checks refer to
(`Industry.blocks_congr`), and what is noticed about it never keeps it from being written unless a
number is missing (`Registry.exists_validateIndustry_eq`). So writing it alone gives the file that
it gets when all are written, whatever the others are (`Registry.file_of_generate_only`). -/

namespace IndustrySet

/-- Two tables have the same answer, be it a number or none, for all industries referred to. -/
def AgreeOn (refs : List Reference) (table table' : NumberTable) : Prop :=
  ∀ id, .industry id ∈ refs → table id = table' id

section

variable {table table' : NumberTable}

theorem NumberTable.number_congr {id : IndustryId} (same : table id = table' id) :
    table.number id = table'.number id := by
  simp only [number, same]

/-! ## Location checks -/

namespace SiteRequirements

variable {r : SiteRequirements} {industry : IndustryId}

theorem checks_congr (agree : AgreeOn (r.references industry) table table') :
    r.checks industry table = r.checks industry table' := by
  have cluster : clusterChecks table r.requireCluster = clusterChecks table' r.requireCluster := by
    cases wanted : r.requireCluster with
    | none => rfl
    | some c =>
      have same : table c.industry = table' c.industry := agree _ (by simp [references, wanted])
      simp only [clusterChecks, NumberTable.number_congr same]
  have sameType : sameTypeChecks table industry r.sameTypeDistance =
      sameTypeChecks table' industry r.sameTypeDistance := by
    cases wanted : r.sameTypeDistance with
    | none => rfl
    | some distance =>
      have same : table industry = table' industry := agree _ (by simp [references, wanted])
      simp only [sameTypeChecks, NumberTable.number_congr same]
  have others : r.incompatible.mapM (incompatibleCheck table) =
      r.incompatible.mapM (incompatibleCheck table') := by
    refine mapM_congr fun entry mem => ?_
    have listed : ∃ distance, (entry.1, distance) ∈ r.incompatible := ⟨entry.2, mem⟩
    have same : table entry.1 = table' entry.1 := agree _ (by simp [references, listed])
    simp only [incompatibleCheck, NumberTable.number_congr same]
  simp only [checks, cluster, sameType, others]

theorem chain_congr (agree : AgreeOn (r.references industry) table table') :
    r.chain industry table = r.chain industry table' := by
  simp only [chain, checks_congr agree]

end SiteRequirements

/-! ## What is written -/

namespace Industry

variable {industry : Industry}

theorem chain_congr (agree : AgreeOn (industry.requirements.references industry.id) table table') :
    industry.chain table = industry.chain table' :=
  SiteRequirements.chain_congr agree

/-- The table is only read for the location chain. -/
theorem blocks_congr (agree : AgreeOn (industry.requirements.references industry.id) table table')
    (economies : Economies) :
    industry.blocks economies table = industry.blocks economies table' := by
  simp only [blocks, chain_congr agree]

end Industry

end

/-! ## What is noticed -/

namespace Registry

variable {registry registry' : Registry} {industry : Industry}

theorem exists_usedLabels (industry : Industry) : ∃ labels, usedLabels industry = .ok labels := by
  refine exists_bind_ok (exists_mapM_ok fun economy mem => ?_) fun _ _ => ⟨_, rfl⟩
  have known : ∃ variation, industry.variation economy = .ok variation := by
    rcases List.mem_cons.1 mem with rfl | mem
    · exact ⟨none, rfl⟩
    · obtain ⟨id, hid, rfl⟩ := List.mem_map.1 mem
      obtain ⟨variation, known⟩ := Industry.exists_variation_of_mem_enabledEconomies hid
      exact ⟨some variation, known⟩
  obtain ⟨variation, known⟩ := known
  refine exists_bind_ok ⟨_, Industry.acceptedCargos_eq known⟩ fun _ _ => ?_
  exact exists_bind_ok ⟨_, Industry.producedCargos_eq known⟩ fun _ _ => ⟨_, rfl⟩

/-- Warnings are found unless there is no location chain, and then that is the error. -/
theorem exists_validateIndustry_eq (registry : Registry) (industry : Industry) :
    ∃ warningsFor : Chain SiteCheck → List Warning, registry.validateIndustry industry =
      (industry.chain registry.industries.numbers).map warningsFor := by
  obtain ⟨perEconomy, _, found⟩ := industry.exists_validate_eq
  obtain ⟨labels, hlabels⟩ := exists_usedLabels industry
  refine ⟨fun _ => industry.warningsWith perEconomy ++
    (registry.unknownLabels labels).map (.unknownLabel industry.id), ?_⟩
  rw [validateIndustry, found, hlabels]
  cases industry.chain registry.industries.numbers <;> rfl

/-! ## Fragments -/

/-- The fragment of an industry is the same wherever the numbers are that it refers to. -/
theorem industryFragment_congr (economies : registry.economies = registry'.economies)
    (agree : AgreeOn (industry.requirements.references industry.id) registry.industries.numbers
      registry'.industries.numbers) :
    (registry.industryFragment industry).map Prod.fst =
      (registry'.industryFragment industry).map Prod.fst := by
  obtain ⟨warningsFor, noticed⟩ := registry.exists_validateIndustry_eq industry
  obtain ⟨warningsFor', noticed'⟩ := registry'.exists_validateIndustry_eq industry
  rw [industryFragment, industryFragment, noticed, noticed', Industry.chain_congr agree,
    Industry.blocks_congr agree, economies]
  -- The warnings differ, but they are not part of the fragment.
  cases industry.chain registry'.industries.numbers with
  | error e => rfl
  | ok chain => cases industry.blocks registry'.economies registry'.industries.numbers <;> rfl

end Registry

namespace Configuration

/-- The configuration for writing one industry only. -/
def only (config : Configuration) (id : IndustryId) : Configuration :=
  { config with testIndustry := some id }

/-- The configuration for writing all industries. -/
def all (config : Configuration) : Configuration :=
  { config with testIndustry := none }

end Configuration

namespace Registry

variable {registry registry' : Registry} {industry : Industry} {config : Configuration}

theorem selectedIndustries_only (known : registry.industries.get? industry.id = some industry)
    (config : Configuration) :
    registry.selectedIndustries (config.only industry.id) = .ok [industry] := by
  simp only [selectedIndustries, Configuration.only, Industries.lookup, known]
  rfl

theorem fragments_generate_only (known : registry.industries.get? industry.id = some industry)
    (config : Configuration) :
    (registry.generate (config.only industry.id)).map (·.fragments) =
      ((registry.industryFragment industry).map Prod.fst).map fun fragment =>
        registry.cargos.toList.map cargoFragment ++ [fragment] := by
  have selected := selectedIndustries_only known config
  have alone : [industry].mapM registry.industryFragment =
      (registry.industryFragment industry).map fun result => [result] := by
    rw [List.mapM_cons, List.mapM_nil]
    cases registry.industryFragment industry <;> rfl
  simp only [generate, selected, bind, Except.bind, alone]
  cases registry.industryFragment industry <;> rfl

/-- When all are written, the fragments of the industries come after those of the cargos. -/
theorem getElem?_fragments_generate {generated : Generated}
    (written : registry.generate config.all = .ok generated) {place : Nat}
    (there : registry.industries.toList[place]? = some industry) :
    ∃ fragment, (registry.industryFragment industry).map Prod.fst = .ok fragment ∧
      generated.fragments[registry.cargos.toList.length + place]? = some fragment := by
  obtain ⟨selected, hselected, chosen⟩ := bind_eq_ok.1 written
  obtain ⟨fragments, hfragments, put⟩ := bind_eq_ok.1 chosen
  cases hselected
  obtain ⟨result, hresult, hplace⟩ := getElem?_of_mapM hfragments there
  refine ⟨result.1, by rw [hresult]; rfl, ?_⟩
  rw [← pure_eq_ok.1 put]
  simp [List.getElem?_append_right, hplace]

theorem industryFragment_eq_ok {fragment : Fragment}
    (h : (registry.industryFragment industry).map Prod.fst = .ok fragment) :
    ∃ blocks, industry.blocks registry.economies registry.industries.numbers = .ok blocks ∧
      fragment = ⟨Path.join "industries" (industry.id ++ ".nml"), blocks⟩ := by
  cases result : registry.industryFragment industry with
  | error e =>
    rw [result] at h
    cases h
  | ok pair =>
    obtain ⟨warnings, _, written⟩ := bind_eq_ok.1 result
    obtain ⟨blocks, hblocks, put⟩ := bind_eq_ok.1 written
    rw [result] at h
    cases h
    exact ⟨blocks, hblocks, by rw [← pure_eq_ok.1 put]⟩

theorem exists_place (known : registry.industries.get? industry.id = some industry) :
    ∃ place : Nat, registry.industries.toList[place]? = some industry := by
  obtain ⟨place, _, there⟩ := Option.bind_eq_some_iff.1 known
  exact ⟨place, there⟩

/-- The file of a fragment stands where the fragment does. -/
theorem getElem?_files {generated : Generated} {place : Nat} {fragment : Fragment}
    (there : generated.fragments[place]? = some fragment) (config : Configuration) :
    (generated.files config)[place]? =
      some (Path.join config.outputDir fragment.path, config.header ++ fragment.text) := by
  obtain ⟨inside, _⟩ := List.getElem?_eq_some_iff.1 there
  rw [Generated.files, List.getElem?_append_left (by simpa using inside), List.getElem?_map, there]
  rfl

/-- A registry with these economies and these numbers, in which the industry is found. -/
structure Offers (registry : Registry) (economies : Economies) (table : NumberTable)
    (industry : Industry) : Prop where
  economies : registry.economies = economies
  numbers : registry.industries.numbers = table
  known : registry.industries.get? industry.id = some industry

/-- Whatever two tables say of other industries, if they agree on those that an industry refers to,
then what is written for it is the same, or it fails with the same error. So it is the same fragment
or the same error, out of whichever of two registries the industry is written alone; and if all
industries of the one are written, then its file there, path and contents, is the one that it gets
when it is written alone out of the other. -/
theorem file_of_generate_only (industry : Industry) (economies : Economies)
    (table table' : NumberTable)
    (agree : AgreeOn (industry.requirements.references industry.id) table table') :
    industry.blocks economies table = industry.blocks economies table' ∧
    ∀ registry registry' : Registry, registry.Offers economies table industry →
      registry'.Offers economies table' industry → ∀ config : Configuration,
        (∃ outcome : Except Error Fragment,
          (registry.generate (config.only industry.id)).map (·.fragments) =
            outcome.map (registry.cargos.toList.map cargoFragment ++ [·]) ∧
          (registry'.generate (config.only industry.id)).map (·.fragments) =
            outcome.map (registry'.cargos.toList.map cargoFragment ++ [·])) ∧
        ∀ full, registry'.generate config.all = .ok full →
          ∃ single place blocks, registry.generate (config.only industry.id) = .ok single ∧
            registry'.industries.toList[place]? = some industry ∧
            industry.blocks economies table = .ok blocks ∧
            let file :=
              (Path.join config.outputDir (Path.join "industries" (industry.id ++ ".nml")),
                config.header ++ Nml.render blocks)
            (full.files config.all)[registry'.cargos.toList.length + place]? = some file ∧
            (single.files (config.only industry.id))[registry.cargos.toList.length]? =
              some file := by
  refine ⟨Industry.blocks_congr agree economies, ?_⟩
  rintro registry registry' ⟨rfl, rfl, known⟩ ⟨economies, rfl, known'⟩ config
  have same := industryFragment_congr economies.symm agree
  have alone := fragments_generate_only known config
  refine ⟨⟨_, alone, same ▸ fragments_generate_only known' config⟩, fun full written => ?_⟩
  obtain ⟨place, there⟩ := exists_place known'
  obtain ⟨fragment, hfragment, among⟩ := getElem?_fragments_generate written there
  rw [← same] at hfragment
  obtain ⟨blocks, hblocks, rfl⟩ := industryFragment_eq_ok hfragment
  rw [hfragment] at alone
  cases single : registry.generate (config.only industry.id) with
  | error e =>
    rw [single] at alone
    cases alone
  | ok generated =>
    rw [single] at alone
    have fragments : generated.fragments = registry.cargos.toList.map cargoFragment ++
        [⟨Path.join "industries" (industry.id ++ ".nml"), blocks⟩] := Except.ok.inj alone
    have last : generated.fragments[registry.cargos.toList.length]? =
        some ⟨Path.join "industries" (industry.id ++ ".nml"), blocks⟩ := by
      simp [fragments]
    exact ⟨generated, place, blocks, rfl, there, hblocks, getElem?_files among _,
      getElem?_files last _⟩

/-- A hotel that keeps away from other hotels and from the general store. -/
def hotel : Industry :=
  { Industry.create "hotel" 14 .tertiary (.ofList []) with
    requirements := { sameTypeDistance := some 16, incompatible := [("general_store", 20)] } }

/-- The hotel with a variation for every economy. -/
def openedHotel : Industry :=
  { hotel with variations := Industry.fillVariations hotel.variations Economies.standard.ids }

/-- Some industries, registered one after the other. -/
def town (industries : List Industry) : Registry :=
  (Update.runAll Registry.submit (Registry.create .standard) (industries.map .industry)).state

theorem file_of_generate_only_hotel :
    let store (kind : Kind) := Industry.create "general_store" 12 kind (.ofList [])
    let small := town [hotel, store .tertiary]
    let large := town [.create "wharf" 58 .primaryPort (.ofList [(.probInGame, .text "5")]),
      store .primaryTownProducer, hotel]
    small.Offers .standard small.industries.numbers openedHotel ∧
      large.Offers .standard large.industries.numbers openedHotel ∧
      AgreeOn (openedHotel.requirements.references "hotel") small.industries.numbers
        large.industries.numbers ∧
      ∃ full single text, large.generate (Configuration.all {}) = .ok full ∧
        small.generate (Configuration.only {} "hotel") = .ok single ∧
        ("generated/industries/hotel.nml", text) ∈ full.files (Configuration.all {}) ∧
        ("generated/industries/hotel.nml", text) ∈
          single.files (Configuration.only {} "hotel") := by
  intro store small large
  have offered : small.Offers .standard small.industries.numbers openedHotel :=
    ⟨by decide +kernel, rfl, by decide +kernel⟩
  have offered' : large.Offers .standard large.industries.numbers openedHotel :=
    ⟨by decide +kernel, rfl, by decide +kernel⟩
  have agree : AgreeOn (openedHotel.requirements.references openedHotel.id)
      small.industries.numbers large.industries.numbers := by
    intro id mem
    have named : Reference.industry id ∈ [.industry "hotel", .industry "general_store"] := mem
    simp only [List.mem_cons, Reference.industry.injEq, List.not_mem_nil, or_false] at named
    rcases named with rfl | rfl <;> decide +kernel
  obtain ⟨full, written⟩ : ∃ full, large.generate (Configuration.all {}) = .ok full :=
    exists_of_isOk (by decide +kernel)
  -- From here on it does not matter which registries they are.
  clear_value small large
  obtain ⟨-, passes⟩ := file_of_generate_only openedHotel .standard _ _ agree
  obtain ⟨-, files⟩ := passes small large offered offered' {}
  obtain ⟨single, _, _, alone, _, _, file, file'⟩ := files full written
  have path : Path.join "generated" (Path.join "industries" (openedHotel.id ++ ".nml")) =
      "generated/industries/hotel.nml" := by decide +kernel
  exact ⟨offered, offered', agree, full, single, _, written, alone,
    path ▸ List.mem_of_getElem? file, path ▸ List.mem_of_getElem? file'⟩

end Registry

end IndustrySet
