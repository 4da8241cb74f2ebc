import IndustrySet.Proofs.Dictionaries
import IndustrySet.Proofs.FullRun
import IndustrySet.Proofs.GenerateCommand
import IndustrySet.Proofs.Places

set_option autoImplicit false

/-! # Where the output lies

Every cargo and industry is to have a file of its own, named after it, in a folder of the output
directory. The path of that file is joined from the id, whatever stands in it. So a run keeps to its
places just if no id has a slash in it (`Registry.keepsToPlaces_iff`): an absolute id leads out of
the output directory, and one that goes up leads to the file of something else. -/

namespace IndustrySet

/-! ## The place of a subject -/

namespace Configuration

/-- Where the file of a cargo or industry is to lie. -/
def placeFor (config : Configuration) (folder id : String) : Place :=
  Place.ofPath config.outputDir ++ [folder, id ++ ".nml"]

/-- Where the files of a run are to lie, in the order in which they are written. -/
def places (config : Configuration) (cargos : List Cargo) (industries : List Industry) :
    List Place :=
  cargos.map (config.placeFor "cargos" ·.id) ++
    industries.map (config.placeFor "industries" ·.id) ++
    [Place.ofPath config.outputDir ++ [combinedFile]]

variable {config : Configuration} {folder folder' id id' : String} {cargos : List Cargo}
  {industries : List Industry}

theorem placeFor_eq_iff :
    config.placeFor folder id = config.placeFor folder' id' ↔ folder = folder' ∧ id = id' := by
  have ended : id ++ ".nml" = id' ++ ".nml" ↔ id = id' := by
    simp [← String.toList_inj, String.toList_append]
  simp [placeFor, ended]

/-- Nothing is to lie outside of the output directory. -/
theorem outputDir_prefix_of_mem_places {place : Place}
    (mem : place ∈ config.places cargos industries) :
    Place.ofPath config.outputDir <+: place := by
  simp only [places, List.mem_append, List.mem_map, List.mem_singleton] at mem
  rcases mem with (⟨cargo, _, rfl⟩ | ⟨industry, _, rfl⟩) | rfl <;> exact List.prefix_append _ _

/-- Different cargos and industries have different places. -/
theorem nodup_places (config : Configuration) (cargoIds : (cargos.map (·.id)).Nodup)
    (industryIds : (industries.map (·.id)).Nodup) : (config.places cargos industries).Nodup := by
  have apart : ∀ folder, Function.Injective (config.placeFor folder) :=
    fun folder _ _ same => (placeFor_eq_iff.1 same).2
  have ofCargos := cargoIds.map (apart "cargos")
  have ofIndustries := industryIds.map (apart "industries")
  rw [List.map_map] at ofCargos ofIndustries
  refine List.nodup_append.2 ⟨List.nodup_append.2 ⟨ofCargos, ofIndustries, ?_⟩,
    List.nodup_singleton _, ?_⟩
  · intro place hplace other hother same
    obtain ⟨cargo, _, rfl⟩ := List.mem_map.1 hplace
    obtain ⟨industry, _, rfl⟩ := List.mem_map.1 hother
    exact absurd (placeFor_eq_iff.1 same).1 (by decide)
  · intro place hplace other hother same
    -- The file with everything lies beside the folders.
    rw [List.mem_singleton.1 hother] at same
    rcases List.mem_append.1 hplace with hplace | hplace <;>
      obtain ⟨_, _, rfl⟩ := List.mem_map.1 hplace <;> simp [placeFor] at same

end Configuration

/-- An id without slashes makes the name of a file. -/
theorem isName_nml {id : String} (h : '/' ∉ id.toList) : Path.IsName (id ++ ".nml") where
  noSlash := by simpa [String.toList_append] using h
  proper := by
    have longer : ∀ text : String, text.length < 4 → id ++ ".nml" ≠ text := by
      rintro _ short rfl
      rw [String.length_append] at short
      exact absurd short (by simp [show ".nml".length = 4 from rfl])
    exact ⟨longer _ (by decide), longer _ (by decide), longer _ (by decide)⟩

/-- The path made from an id leads to its place just if there is no slash in it. -/
theorem ofPath_eq_placeFor_iff {folder : String} (named : Path.IsName folder)
    (config : Configuration) (id : String) :
    Place.ofPath (Path.join config.outputDir (Path.join folder (id ++ ".nml"))) =
      config.placeFor folder id ↔ '/' ∉ id.toList := by
  constructor
  · intro same
    have there : id ++ ".nml" ∈
        Place.ofPath (Path.join config.outputDir (Path.join folder (id ++ ".nml"))) := by
      rw [same]
      simp [Configuration.placeFor]
    have notRoot : id ++ ".nml" ≠ "/" := by
      intro root
      have length := congrArg String.length root
      rw [String.length_append] at length
      exact absurd length (by simp [show ".nml".length = 4 from rfl, show "/".length = 1 from rfl])
    have noSlash := Place.slash_notMem_of_mem_ofPath there notRoot
    simpa [String.toList_append] using noSlash
  · intro noSlash
    have file := isName_nml noSlash
    rw [Place.ofPath_join_join named.relative file.relative, Place.ofPath_join_name file,
      Place.ofPath_join_name named, List.append_assoc]
    rfl

/-! ## Written files -/

/-- Of files that lie in different places, each holds its text once all are written. -/
theorem FileTree.lastWritten_of_mem {files : List (String × String)}
    (distinct : (files.map fun file => Place.ofPath file.1).Nodup) {path text : String}
    (mem : (path, text) ∈ files) :
    FileTree.lastWritten files (.ofPath path) = some text.toUTF8 := by
  have found : files.reverse.find? (fun file => Place.ofPath file.1 = Place.ofPath path) =
      some (path, text) := by
    rw [← find?_perm files.reverse_perm.symm distinct]
    exact (find?_eq_some_iff_of_nodup distinct).2 ⟨mem, rfl⟩
  rw [FileTree.lastWritten, List.findRev?_eq_find?_reverse, found]
  rfl

theorem FileTree.content?_of_run_writeFiles {files : List (String × String)}
    {tree after : FileTree} (run : (FileTree.writeFiles files).run tree = .ok () after)
    (distinct : (files.map fun file => Place.ofPath file.1).Nodup) {path text : String}
    (mem : (path, text) ∈ files) : after.content? (.ofPath path) = some text.toUTF8 := by
  rw [(FileTree.written_of_run_writeFiles run).content, FileTree.lastWritten_of_mem distinct mem]
  rfl

namespace Registry

variable {registry : Registry} {config : Configuration} {generated : Generated}
  {selected : List Industry} {results : List (Fragment × List Warning)}

/-- The files of a run lie in their places, so within the output directory and no two in the same
place, and each holds the text of its cargo or industry when the run has succeeded. -/
structure KeepsToPlaces (registry : Registry) (config : Configuration) (generated : Generated)
    (selected : List Industry) : Prop where
  places : (generated.files config).map (fun file => Place.ofPath file.1) =
    config.places registry.cargos.toList selected
  distinct : ((generated.files config).map fun file => Place.ofPath file.1).Nodup
  within : ∀ file ∈ generated.files config,
    Place.ofPath config.outputDir <+: Place.ofPath file.1
  contents : ∀ tree report after,
    (registry.writeGenerated config).run tree = .ok report after →
      (∀ cargo ∈ registry.cargos.toList, after.content? (config.placeFor "cargos" cargo.id) =
        some (config.header ++ Nml.render cargo.blocks).toUTF8) ∧
      ∀ industry ∈ selected, ∃ blocks,
        industry.blocks registry.economies registry.industries.numbers = .ok blocks ∧
        after.content? (config.placeFor "industries" industry.id) =
          some (config.header ++ Nml.render blocks).toUTF8

theorem path_of_industryFragment {industry : Industry} {result : Fragment × List Warning}
    (h : registry.industryFragment industry = .ok result) :
    ∃ blocks, industry.blocks registry.economies registry.industries.numbers = .ok blocks ∧
      result.1 = ⟨Path.join "industries" (industry.id ++ ".nml"), blocks⟩ :=
  industryFragment_eq_ok (by rw [h]; rfl)

/-- Where the files of a run do lie. -/
theorem places_files (h : selected.mapM registry.industryFragment = .ok results)
    (config : Configuration) :
    ((registry.gathered results).files config).map (fun file => Place.ofPath file.1) =
      registry.cargos.toList.map (fun cargo => Place.ofPath
        (Path.join config.outputDir (Path.join "cargos" (cargo.id ++ ".nml")))) ++
      selected.map (fun industry => Place.ofPath
        (Path.join config.outputDir (Path.join "industries" (industry.id ++ ".nml")))) ++
      [Place.ofPath config.outputDir ++ [combinedFile]] := by
  have ofIndustries : results.map (fun result => Place.ofPath
        (Path.join config.outputDir result.1.path)) =
      selected.map (fun industry => Place.ofPath
        (Path.join config.outputDir (Path.join "industries" (industry.id ++ ".nml")))) := by
    refine map_of_mapM h fun industry result hresult => ?_
    obtain ⟨blocks, _, same⟩ := path_of_industryFragment hresult
    rw [same]
  have combined : Place.ofPath (Path.join config.outputDir combinedFile) =
      Place.ofPath config.outputDir ++ [combinedFile] :=
    Place.ofPath_join_name ⟨by decide, by decide⟩ _
  simp only [Generated.files, gathered, List.map_append, List.map_map, List.map_singleton,
    Function.comp_def, cargoFragment, combined, ← ofIndustries]

theorem places_files_iff (h : selected.mapM registry.industryFragment = .ok results) :
    ((registry.gathered results).files config).map (fun file => Place.ofPath file.1) =
        config.places registry.cargos.toList selected ↔
      (∀ cargo ∈ registry.cargos.toList, '/' ∉ cargo.id.toList) ∧
        ∀ industry ∈ selected, '/' ∉ industry.id.toList := by
  rw [places_files h config, Configuration.places, List.append_left_inj]
  constructor
  · intro same
    obtain ⟨ofCargos, ofIndustries⟩ := List.append_inj same (by simp only [List.length_map])
    exact ⟨fun cargo mem =>
        (ofPath_eq_placeFor_iff Path.isName_cargos config _).1
          (List.map_inj_left.1 ofCargos cargo mem),
      fun industry mem =>
        (ofPath_eq_placeFor_iff Path.isName_industries config _).1
          (List.map_inj_left.1 ofIndustries industry mem)⟩
  · rintro ⟨ofCargos, ofIndustries⟩
    rw [List.map_congr_left fun cargo mem =>
        (ofPath_eq_placeFor_iff Path.isName_cargos config _).2 (ofCargos cargo mem),
      List.map_congr_left fun industry mem =>
        (ofPath_eq_placeFor_iff Path.isName_industries config _).2 (ofIndustries industry mem)]

/-- The files of the cargos and industries are among those of a run. -/
theorem mem_files {fragment : Fragment} (mem : fragment ∈ generated.fragments)
    (config : Configuration) :
    (Path.join config.outputDir fragment.path, config.header ++ fragment.text) ∈
      generated.files config :=
  List.mem_append_left _ (List.mem_map.2 ⟨fragment, mem, rfl⟩)

theorem KeepsToPlaces.of_places (h : selected.mapM registry.industryFragment = .ok results)
    (written : registry.generate config = .ok (registry.gathered results))
    (cargoIds : (registry.cargos.toList.map (·.id)).Nodup)
    (industryIds : (selected.map (·.id)).Nodup)
    (places : ((registry.gathered results).files config).map (fun file => Place.ofPath file.1) =
      config.places registry.cargos.toList selected) :
    registry.KeepsToPlaces config (registry.gathered results) selected where
  places := places
  distinct := places ▸ config.nodup_places cargoIds industryIds
  within := fun file mem => Configuration.outputDir_prefix_of_mem_places
    (places ▸ List.mem_map.2 ⟨file, mem, rfl⟩)
  contents := by
    intro tree report after run
    have distinct := places ▸ config.nodup_places cargoIds industryIds
    obtain ⟨ofCargos, ofIndustries⟩ := (places_files_iff h).1 places
    rw [run_writeGenerated, written] at run
    dsimp only at run
    split at run
    · cases run
    · next finished =>
      cases run
      refine ⟨fun cargo mem => ?_, fun industry mem => ?_⟩
      · have among : cargoFragment cargo ∈ (registry.gathered results).fragments :=
          List.mem_append_left _ (List.mem_map_of_mem mem)
        rw [← (ofPath_eq_placeFor_iff Path.isName_cargos config cargo.id).2 (ofCargos cargo mem)]
        have file := mem_files among config
        exact FileTree.content?_of_run_writeFiles finished distinct file
      · obtain ⟨result, hresult, fragment⟩ := exists_of_mapM_mem h mem
        obtain ⟨blocks, hblocks, same⟩ := path_of_industryFragment fragment
        have among : result.1 ∈ (registry.gathered results).fragments :=
          List.mem_append_right _ (List.mem_map_of_mem hresult)
        refine ⟨blocks, hblocks, ?_⟩
        rw [← (ofPath_eq_placeFor_iff Path.isName_industries config industry.id).2
          (ofIndustries industry mem)]
        have file := mem_files among config
        rw [same] at file
        exact FileTree.content?_of_run_writeFiles finished distinct file

/-- Whatever is submitted to a registry, and whatever is written of it: the files keep to their
places just if no cargo and no industry to write has an id with a slash in it. -/
theorem keepsToPlaces_iff (economies : Economies) (submissions : List Submission) :
    let registry := (Update.runAll Registry.submit (Registry.create economies) submissions).state
    registry.generate config = .ok generated →
      ∃ selected, registry.selectedIndustries config = .ok selected ∧
        (registry.KeepsToPlaces config generated selected ↔
          (∀ cargo ∈ registry.cargos.toList, '/' ∉ cargo.id.toList) ∧
            ∀ industry ∈ selected, '/' ∉ industry.id.toList) := by
  intro registry written
  have holds : registry.Invariant economies _ := Invariant.runAll economies submissions
  obtain ⟨selected, hselected, results, hresults, rfl⟩ := generate_eq_ok.1 written
  have industryIds := holds.industries.ids.sublist
    ((sublist_of_selectedIndustries holds hselected).map _)
  refine ⟨selected, hselected, fun keeps => (places_files_iff hresults).1 keeps.places, ?_⟩
  intro noSlash
  exact .of_places hresults written holds.cargos.ids industryIds
    ((places_files_iff hresults).2 noSlash)

/-- The files of a hotel and a general store keep to their places. -/
theorem keepsToPlaces_hotel :
    let registry := town [hotel, .create "general_store" 12 .tertiary (.ofList [])]
    ∃ generated, registry.generate {} = .ok generated ∧
      registry.KeepsToPlaces {} generated registry.industries.toList := by
  intro registry
  obtain ⟨generated, written⟩ : ∃ generated, registry.generate {} = .ok generated :=
    exists_of_isOk (by decide +kernel)
  obtain ⟨selected, hselected, keeps⟩ :=
    keepsToPlaces_iff .standard ([hotel, .create "general_store" 12 .tertiary (.ofList [])].map
      .industry) written
  cases hselected
  exact ⟨generated, written, keeps.2 (by decide +kernel)⟩

/-- A hotel with an absolute id is accepted, and its file lies in the root of the file system. -/
theorem not_keepsToPlaces_absolute :
    let registry := town [.create "/hotel" 14 .tertiary (.ofList [])]
    registry.industries.size = 1 ∧
      ∃ generated, registry.generate {} = .ok generated ∧
        (generated.files {}).map (·.1) = ["/hotel.nml", "generated/firs.nml"] ∧
        ¬Place.ofPath "generated" <+: Place.ofPath "/hotel.nml" ∧
        ¬registry.KeepsToPlaces {} generated registry.industries.toList := by
  intro registry
  have registered : registry.industries.size = 1 := by decide +kernel
  obtain ⟨generated, written, paths⟩ : ∃ generated, registry.generate {} = .ok generated ∧
      (generated.files {}).map (·.1) = ["/hotel.nml", "generated/firs.nml"] :=
    exists_of_any (by decide +kernel)
  have outside : ¬Place.ofPath "generated" <+: Place.ofPath "/hotel.nml" := by decide
  refine ⟨registered, generated, written, paths, outside, fun keeps => outside ?_⟩
  obtain ⟨file, mem, same⟩ : ∃ file ∈ generated.files {}, file.1 = "/hotel.nml" :=
    List.mem_map.1 (paths ▸ List.mem_cons_self)
  exact same ▸ keeps.within file mem

end Registry

/-- An id that goes up leads to the file of another cargo or industry. -/
example : Place.ofPath "generated/industries/../cargos/fish.nml" =
    Place.ofPath "generated/cargos/fish.nml" := by
  decide

end IndustrySet
