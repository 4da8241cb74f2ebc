import IndustrySet.Loading
import IndustrySet.Proofs.Dictionaries
import IndustrySet.Proofs.Fallible
import IndustrySet.Proofs.Places

set_option autoImplicit false

/-! # The order of loading

What a directory declares is registered item by item: the economies, then the cargos and then the
industries, in ascending order of the names of their files, up to the first fault in reading or
registering. A listing is only asked which declaration files there are, so neither its order nor
other files in it matter, as long as the path of the directory does not lead through them
(`FileTree.loadRegistry_inOrder`). -/

namespace IndustrySet

/-! ## Registering item by item -/

/-- What may be declared. -/
inductive Declared
  | economy (economy : Economy)
  | cargo (cargo : Cargo)
  | industry (industry : Industry)

namespace Registry

/-- The registry with what is declared. -/
def accept (registry : Registry) : Declared → Except Error Registry
  | .economy economy => registry.registerEconomy economy
  | .cargo cargo => registry.registerCargo cargo
  | .industry industry => registry.registerIndustry industry

/-- The registry with everything that is declared, up to the first fault in declaring or
registering. -/
def acceptAll (registry : Registry) (items : List (Except Error Declared)) :
    Except Error Registry :=
  items.foldlM (fun registry item => item >>= registry.accept) registry

theorem acceptAll_append (registry : Registry) (items more : List (Except Error Declared)) :
    registry.acceptAll (items ++ more) =
      registry.acceptAll items >>= fun next => next.acceptAll more :=
  List.foldlM_append

/-- What files declare is registered by loading one after the other. -/
theorem acceptAll_map {declare : String → Except Error Declared}
    {load : Registry → String → Except Error Registry}
    (each : ∀ (registry : Registry) path, declare path >>= registry.accept = load registry path)
    (registry : Registry) (paths : List String) :
    registry.acceptAll (paths.map declare) = paths.foldlM load registry := by
  rw [acceptAll, List.foldlM_map]
  simp only [each]

theorem registerEconomy_create (economies : Economies) (economy : Economy) :
    (create economies).registerEconomy economy = (economies.register economy).map create := by
  simp only [registerEconomy, enterEconomy, Update.applyTo, Update.run_onPart, Economies.register,
    create]
  cases (Economies.enter economy).run economies <;> rfl

/-- Economies are registered as they are without a registry. -/
theorem acceptAll_economies (economies : Economies) (more : List Economy) :
    (create economies).acceptAll (more.map fun economy => .ok (.economy economy)) =
      (economies.registerAll more).map create := by
  induction more generalizing economies with
  | nil => rfl
  | cons economy rest ih =>
    rw [List.map_cons, acceptAll, List.foldlM_cons, Economies.registerAll, List.foldlM_cons]
    show (create economies).registerEconomy economy >>= _ = _
    rw [registerEconomy_create]
    cases economies.register economy with
    | error e => rfl
    | ok next => exact ih next

end Registry

namespace FileTree

variable {tree tree' : FileTree} {directory folder name : String} {place : Place}

/-! ## What is declared -/

/-- The economies of a directory in order: those listed, or the standard ones where there is no
list. -/
def declaredEconomies (tree : FileTree) (directory : String) : List (Except Error Declared) :=
  if tree.exists? (Path.join directory "economies.ron") then
    match tree.readDeclaration Economies.listCodec (Path.join directory "economies.ron") with
    | .ok listed => listed.map fun economy => .ok (.economy economy)
    | .error e => [.error e]
  else Economies.standard.toList.map fun economy => .ok (.economy economy)

/-- The cargo that a file declares. -/
def declaredCargo (tree : FileTree) (path : String) : Except Error Declared :=
  (tree.readDeclaration Cargo.codec path).map .cargo

/-- The industry that a file declares. -/
def declaredIndustry (tree : FileTree) (path : String) : Except Error Declared :=
  (tree.readDeclaration IndustryDeclaration.codec path).map fun declaration =>
    .industry declaration.toIndustry

/-- Everything that a directory declares, when these are the names of the files. -/
def declared (tree : FileTree) (directory : String) (cargos industries : List String) :
    List (Except Error Declared) :=
  tree.declaredEconomies directory ++
    cargos.map (fun name =>
      tree.declaredCargo (Path.join (Path.join directory "cargos") name)) ++
    industries.map fun name =>
      tree.declaredIndustry (Path.join (Path.join directory "industries") name)

theorem acceptAll_declaredEconomies (tree : FileTree) (directory : String) :
    (Registry.create .empty).acceptAll (tree.declaredEconomies directory) =
      (tree.loadEconomies directory).map .create := by
  unfold declaredEconomies loadEconomies
  dsimp only
  split
  · cases tree.readDeclaration Economies.listCodec (Path.join directory "economies.ron") with
    | error e => rfl
    | ok listed => exact Registry.acceptAll_economies .empty listed
  · rw [Registry.acceptAll_economies]
    rfl

theorem acceptAll_declaredCargos (tree : FileTree) (registry : Registry) (paths : List String) :
    registry.acceptAll (paths.map tree.declaredCargo) = paths.foldlM tree.loadCargo registry := by
  refine Registry.acceptAll_map (fun registry path => ?_) registry paths
  simp only [declaredCargo, loadCargo]
  cases tree.readDeclaration Cargo.codec path <;> rfl

theorem acceptAll_declaredIndustries (tree : FileTree) (registry : Registry)
    (paths : List String) :
    registry.acceptAll (paths.map tree.declaredIndustry) =
      paths.foldlM tree.loadIndustry registry := by
  refine Registry.acceptAll_map (fun registry path => ?_) registry paths
  simp only [declaredIndustry, loadIndustry]
  cases tree.readDeclaration IndustryDeclaration.codec path <;> rfl

/-! ## The names of the files -/

/-- The names of the declaration files in a directory, in ascending order; none if it is no
directory. -/
structure ListsFiles (tree : FileTree) (directory : String) (names : List String) : Prop where
  ascending : names.Pairwise (· < ·)
  mem_iff : ∀ name, name ∈ names ↔ Path.extension? name = some "ron" ∧
    tree.isDirectory directory = true ∧
    (tree.find? (Place.ofPath directory ++ [name])).isSome = true

/-- There is one such list only. -/
theorem ListsFiles.unique {names names' : List String} (h : tree.ListsFiles directory names)
    (h' : tree.ListsFiles directory names') : names = names' :=
  eq_of_ascending h.ascending h'.ascending fun name => (h.mem_iff name).trans (h'.mem_iff name).symm

/-- The name that something has in a directory, if it lies there. -/
def nameIn? (place : Place) (other : Place) : Option String :=
  match other.getLast? with
  | some name => if other.dropLast = place then some name else none
  | none => none

theorem nameIn?_eq_some {other : Place} : nameIn? place other = some name ↔
    other = place ++ [name] := by
  rcases List.eq_nil_or_concat other with rfl | ⟨outer, last, rfl⟩
  · simp [nameIn?]
  · by_cases here : outer = place <;> simp [nameIn?, here]

theorem names_eq (tree : FileTree) (place : Place) :
    tree.names place = (tree.entries.map (·.1)).filterMap (nameIn? place) := by
  rw [List.filterMap_map]
  rfl

theorem mem_names : name ∈ tree.names place ↔ place ++ [name] ∈ tree.entries.map (·.1) := by
  simp only [names_eq, List.mem_filterMap, nameIn?_eq_some, exists_eq_right]

theorem nodup_names (tree : FileTree) (place : Place) : (tree.names place).Nodup := by
  rw [names_eq]
  refine tree.distinct.filterMap fun p q name hp hq => ?_
  rw [nameIn?_eq_some.1 hp, nameIn?_eq_some.1 hq]

/-- A declaration file has a proper name. -/
theorem not_isAround_of_extension? (ron : Path.extension? name = some "ron") (place : Place) :
    (place ++ [name]).isAround = false := by
  rw [← Bool.not_eq_true]
  intro around
  rcases Bool.or_eq_true_iff.1 around with isRoot | up
  · have last := congrArg List.getLast? (of_decide_eq_true isRoot)
    rw [List.getLast?_concat] at last
    cases last
    exact absurd ron (by decide)
  · have last := List.all_eq_true.1 up name (by simp)
    cases of_decide_eq_true last
    exact absurd ron (by decide)

theorem isSome_find?_iff (inside : place.isAround = false) :
    (tree.find? place).isSome = true ↔ place ∈ tree.entries.map (·.1) := by
  simp [find?, inside]

/-- Distinct texts that are sorted ascend. -/
theorem pairwise_mergeSort {texts : List String} (distinct : texts.Nodup) :
    (texts.mergeSort fun a b => a ≤ b).Pairwise (· < ·) := by
  refine ((sorted_mergeSort texts).and ((List.mergeSort_perm texts _).nodup_iff.2 distinct)).imp ?_
  rintro a b ⟨le, other⟩
  exact Decidable.by_contra fun notLess =>
    other (String.le_antisymm le (String.not_lt.1 notLess))

/-- The names that loading goes through. -/
def fileNames (tree : FileTree) (directory : String) : List String :=
  if tree.isDirectory directory then
    ((tree.listing directory).filter fun name => Path.extension? name = some "ron").mergeSort
      fun a b => a ≤ b
  else []

theorem declarationFiles_eq (tree : FileTree) (directory : String) :
    tree.declarationFiles directory = (tree.fileNames directory).map (Path.join directory) := by
  unfold declarationFiles fileNames
  split <;> rfl

theorem listsFiles_fileNames (tree : FileTree) (directory : String) :
    tree.ListsFiles directory (tree.fileNames directory) := by
  unfold fileNames
  split
  · next there =>
    have listed : tree.listing directory = tree.names (.ofPath directory) := by
      rw [listing, (isDirectory_iff.1 there).1]
    rw [listed]
    constructor
    · exact pairwise_mergeSort ((nodup_names tree _).filter _)
    · intro name
      rw [List.mem_mergeSort, List.mem_filter, mem_names, decide_eq_true_eq, and_comm]
      refine and_congr_right fun ron => ?_
      rw [isSome_find?_iff (not_isAround_of_extension? ron _)]
      exact (and_iff_right there).symm
  · next missing =>
    exact ⟨.nil, fun name => by simp [missing]⟩

/-! ## Loading in order -/

theorem map_fileNames {α : Type} (declare : String → α) (tree : FileTree) (directory : String) :
    (tree.fileNames directory).map (fun name => declare (Path.join directory name)) =
      (tree.declarationFiles directory).map declare := by
  rw [declarationFiles_eq, List.map_map]
  rfl

theorem loadRegistry_eq (tree : FileTree) (directory : String) :
    tree.loadRegistry directory = (Registry.create .empty).acceptAll
      (tree.declared directory (tree.fileNames (Path.join directory "cargos"))
        (tree.fileNames (Path.join directory "industries"))) := by
  rw [declared, Registry.acceptAll_append, Registry.acceptAll_append,
    acceptAll_declaredEconomies, map_fileNames tree.declaredCargo,
    map_fileNames tree.declaredIndustry, loadRegistry]
  simp only [acceptAll_declaredCargos, acceptAll_declaredIndustries]
  cases tree.loadEconomies directory <;> rfl

/-! ## What loading does not read -/

/-- Does the place lie in `cargos` or `industries` of the directory, at a name without the extension
`ron` or within such an entry? -/
def isExtra (directory : String) (place : Place) : Bool :=
  match (Place.ofPath directory).isPrefixOf? place with
  | some (folder :: name :: _) =>
    (folder = "cargos" || folder = "industries") && Path.extension? name ≠ some "ron"
  | _ => false

/-- The entries without such extra ones. -/
def withoutExtras (directory : String) (entries : List (Place × Entry)) : List (Place × Entry) :=
  entries.filter fun entry => !isExtra directory entry.1

/-- Two trees with the same entries, in any order, but for extra ones. -/
def SameButExtras (directory : String) (tree tree' : FileTree) : Prop :=
  (withoutExtras directory tree.entries).Perm (withoutExtras directory tree'.entries)

/-- No name in the tree has a slash in it, but that of the root. -/
def WellNamed (tree : FileTree) : Prop :=
  ∀ entry ∈ tree.entries, ∀ name ∈ entry.1, name ≠ "/" → '/' ∉ name.toList

instance (tree : FileTree) : Decidable tree.WellNamed :=
  inferInstanceAs (Decidable (∀ entry ∈ tree.entries, ∀ name ∈ entry.1, name ≠ "/" →
    '/' ∉ name.toList))

/-- A tree stays well named when something is put at the place of a path. -/
theorem WellNamed.set (wellNamed : tree.WellNamed) (path : String) (entry : Entry) :
    (tree.set (.ofPath path) entry).WellNamed := by
  intro other mem name inside notRoot
  have place : other.1 ∈ (setEntry (.ofPath path) entry tree.entries).map (·.1) :=
    List.mem_map_of_mem mem
  have known : other.1 ∈ tree.entries.map (·.1) → '/' ∉ name.toList := by
    intro before
    obtain ⟨old, hold, same⟩ := List.mem_map.1 before
    exact wellNamed old hold name (same ▸ inside) notRoot
  rw [map_fst_setEntry] at place
  split at place
  · exact known place
  · rcases List.mem_append.1 place with before | new
    · exact known before
    · rw [List.mem_singleton.1 new] at inside
      exact Place.slash_notMem_of_mem_ofPath inside notRoot

theorem isExtra_child (directory name : String) :
    isExtra directory (Place.ofPath directory ++ [name]) = false := by
  rw [isExtra, List.isPrefixOf?_eq_some_iff_append_eq.2 rfl]

theorem isExtra_declaration (ron : Path.extension? name = some "ron") (directory folder : String) :
    isExtra directory (Place.ofPath directory ++ [folder, name]) = false := by
  rw [isExtra, List.isPrefixOf?_eq_some_iff_append_eq.2 rfl]
  simp [ron]

/-- Trees that differ in the order and in extra entries. -/
theorem SameButExtras.of_perm {extras : List (Place × Entry)}
    (perm : (tree.entries ++ extras).Perm tree'.entries)
    (extra : ∀ entry ∈ extras, isExtra directory entry.1 = true) :
    SameButExtras directory tree tree' := by
  have none : withoutExtras directory extras = [] :=
    List.filter_eq_nil_iff.2 fun entry mem => by simp [extra entry mem]
  have filtered : (withoutExtras directory (tree.entries ++ extras)).Perm
      (withoutExtras directory tree'.entries) := perm.filter _
  rwa [withoutExtras, List.filter_append, ← withoutExtras, ← withoutExtras, none,
    List.append_nil] at filtered

theorem find?_withoutExtras (relevant : isExtra directory place = false)
    (entries : List (Place × Entry)) :
    (withoutExtras directory entries).find? (fun entry => entry.1 = place) =
      entries.find? fun entry => entry.1 = place := by
  rw [withoutExtras, List.find?_filter]
  congr 1
  funext entry
  by_cases here : entry.1 = place <;> simp [here, relevant]

/-- Beside the extra entries, the same lies at every place. -/
theorem SameButExtras.find? (same : SameButExtras directory tree tree')
    (relevant : isExtra directory place = false) : tree.find? place = tree'.find? place := by
  have distinct : ((withoutExtras directory tree.entries).map (·.1)).Nodup :=
    tree.distinct.sublist (List.filter_sublist.map _)
  rw [FileTree.find?, FileTree.find?, ← find?_withoutExtras relevant, find?_perm same distinct,
    find?_withoutExtras relevant]

/-- The places that a path leads through, its own one included. -/
def passed (path : String) : List Place :=
  (Path.pieces path).scanl Place.advance (if Path.isAbsolute path then .root else [])

theorem follow_congr {pieces : List String}
    (agree : ∀ p ∈ pieces.scanl Place.advance place, tree.find? p = tree'.find? p) :
    tree.follow place pieces = tree'.follow place pieces := by
  induction pieces generalizing place with
  | nil => rfl
  | cons piece rest ih =>
    rw [List.scanl_cons] at agree
    have onward := ih fun p mem => agree p (List.mem_cons_of_mem _ mem)
    rw [follow, follow, agree place List.mem_cons_self, onward]

/-- What lies at a path depends on nothing beside it. -/
theorem at?_congr {path : String} (agree : ∀ p ∈ passed path, tree.find? p = tree'.find? p) :
    tree.at? path = tree'.at? path := by
  have located : tree.locate path = tree'.locate path := by
    unfold passed at agree
    unfold locate
    split
    · rfl
    · split
      · next absolute =>
        rw [if_pos absolute] at agree
        exact follow_congr agree
      · next relative =>
        rw [if_neg relative] at agree
        exact follow_congr agree
  rw [at?, at?, located]
  cases found : tree'.locate path with
  | error fault => rfl
  | ok target =>
    rw [locate_eq_ok found]
    refine agree _ ?_
    unfold passed Place.ofPath
    rw [← List.getLast_scanl (List.scanl_ne_nil)]
    exact List.getLast_mem _

/-! ## Trees with the same declarations -/

theorem readDeclaration_congr {α : Type} {path : String}
    (located : tree.locate path = tree'.locate path)
    (found : tree.find? (.ofPath path) = tree'.find? (.ofPath path)) (c : Codec α) :
    tree.readDeclaration c path = tree'.readDeclaration c path := by
  have text : tree.readText path = tree'.readText path := by
    unfold readText
    rw [located]
    cases there : tree'.locate path with
    | error fault => rfl
    | ok target =>
      cases locate_eq_ok there
      dsimp only [Bind.bind, Except.bind]
      rw [found]
  unfold readDeclaration requireText
  rw [text]

/-- A file is read the same from two trees that have the same at its place, if its directory is
there in both. -/
theorem readDeclaration_join {α : Type} (named : Path.IsName name)
    (opened : tree.opens directory = true) (opened' : tree'.opens directory = true)
    (found : tree.find? (Place.ofPath directory ++ [name]) =
      tree'.find? (Place.ofPath directory ++ [name])) (c : Codec α) :
    tree.readDeclaration c (Path.join directory name) =
      tree'.readDeclaration c (Path.join directory name) := by
  refine readDeclaration_congr ?_ ?_ c
  · rw [locate_join_name named opened, locate_join_name named opened']
  · rw [Place.ofPath_join_name named]
    exact found

/-- A declaration file of a well named tree can be named in a path. -/
theorem WellNamed.isName (wellNamed : tree.WellNamed) (ron : Path.extension? name = some "ron")
    (there : (tree.find? (place ++ [name])).isSome = true) : Path.IsName name := by
  have other : ∀ text : String, Path.extension? text = none → name ≠ text := by
    rintro _ none rfl
    rw [none] at ron
    cases ron
  rw [isSome_find?_iff (not_isAround_of_extension? ron place)] at there
  obtain ⟨entry, mem, here⟩ := List.mem_map.1 there
  have last : name ∈ entry.1 := here ▸ List.mem_append_right place List.mem_cons_self
  exact ⟨wellNamed entry mem name last (other _ (by decide)), other _ (by decide),
    other _ (by decide), other _ (by decide)⟩

/-- What lies at a declaration file of a folder. -/
theorem SameButExtras.find?_folder (same : SameButExtras directory tree tree')
    (named : Path.IsName folder) (ron : Path.extension? name = some "ron") :
    tree.find? (Place.ofPath (Path.join directory folder) ++ [name]) =
      tree'.find? (Place.ofPath (Path.join directory folder) ++ [name]) := by
  rw [Place.ofPath_join_name named, List.append_assoc]
  exact same.find? (isExtra_declaration ron directory folder)

theorem opens_congr (there : tree.isDirectory directory = tree'.isDirectory directory) :
    tree.opens directory = tree'.opens directory := by
  rw [opens, opens, there]

section

variable (same : SameButExtras directory tree tree')
  (there : tree.isDirectory directory = tree'.isDirectory directory)

include same there

theorem SameButExtras.at?_join (named : Path.IsName name) :
    tree.at? (Path.join directory name) = tree'.at? (Path.join directory name) := by
  rw [FileTree.at?_join named, FileTree.at?_join named, opens_congr there,
    same.find? (isExtra_child directory name)]

theorem SameButExtras.isDirectory_join (named : Path.IsName name) :
    tree.isDirectory (Path.join directory name) = tree'.isDirectory (Path.join directory name) := by
  rw [isDirectory, isDirectory, same.at?_join there named]

theorem SameButExtras.declaredEconomies :
    tree.declaredEconomies directory = tree'.declaredEconomies directory := by
  have named : Path.IsName "economies.ron" := ⟨by decide, by decide⟩
  have listed := same.at?_join there named
  unfold FileTree.declaredEconomies exists?
  rw [listed]
  split
  · next found =>
    have opened' : tree'.opens directory = true := by
      by_contra closed
      rw [FileTree.at?_join named, if_neg closed] at found
      cases found
    rw [readDeclaration_join named ((opens_congr there).trans opened') opened'
      (same.find? (isExtra_child directory _))]
  · rfl

theorem SameButExtras.listsFiles (named : Path.IsName folder) {names : List String}
    (h : tree.ListsFiles (Path.join directory folder) names) :
    tree'.ListsFiles (Path.join directory folder) names where
  ascending := h.ascending
  mem_iff := by
    intro name
    rw [h.mem_iff, same.isDirectory_join there named]
    exact and_congr_right fun ron => by rw [same.find?_folder named ron]

theorem SameButExtras.fileNames (named : Path.IsName folder) :
    tree.fileNames (Path.join directory folder) = tree'.fileNames (Path.join directory folder) :=
  (same.listsFiles there named (listsFiles_fileNames tree _)).unique
    (listsFiles_fileNames tree' _)

/-- The declaration files of a folder are read the same. -/
theorem SameButExtras.readDeclaration_of_mem {α : Type} (wellNamed : tree.WellNamed)
    (named : Path.IsName folder) (mem : name ∈ tree.fileNames (Path.join directory folder))
    (c : Codec α) :
    tree.readDeclaration c (Path.join (Path.join directory folder) name) =
      tree'.readDeclaration c (Path.join (Path.join directory folder) name) := by
  obtain ⟨ron, isFolder, found⟩ := ((listsFiles_fileNames tree _).mem_iff name).1 mem
  have isFolder' := same.isDirectory_join there named ▸ isFolder
  exact readDeclaration_join (wellNamed.isName ron found) (by simp [FileTree.opens, isFolder])
    (by simp [FileTree.opens, isFolder']) (same.find?_folder named ron) c

theorem SameButExtras.loadRegistry (wellNamed : tree.WellNamed) :
    tree.loadRegistry directory = tree'.loadRegistry directory := by
  have ofCargos : ∀ name ∈ tree.fileNames (Path.join directory "cargos"),
      tree.declaredCargo (Path.join (Path.join directory "cargos") name) =
        tree'.declaredCargo (Path.join (Path.join directory "cargos") name) := by
    intro name mem
    rw [declaredCargo, declaredCargo,
      same.readDeclaration_of_mem there wellNamed Path.isName_cargos mem]
  have ofIndustries : ∀ name ∈ tree.fileNames (Path.join directory "industries"),
      tree.declaredIndustry (Path.join (Path.join directory "industries") name) =
        tree'.declaredIndustry (Path.join (Path.join directory "industries") name) := by
    intro name mem
    rw [declaredIndustry, declaredIndustry,
      same.readDeclaration_of_mem there wellNamed Path.isName_industries mem]
  rw [loadRegistry_eq, loadRegistry_eq, declared, declared, same.declaredEconomies there,
    ← same.fileNames there Path.isName_cargos, ← same.fileNames there Path.isName_industries,
    List.map_congr_left ofCargos, List.map_congr_left ofIndustries]

end

/-! ## Loading in order, whatever else lies there -/

/-- Loading registers what is declared in order, up to the first fault. Extra entries and the order
of the listings change nothing, as long as they do not change whether the directory is there, which
they can only where its own path leads through one of them. -/
theorem loadRegistry_inOrder (tree : FileTree) (directory : String) :
    (∃ cargos industries, tree.ListsFiles (Path.join directory "cargos") cargos ∧
      tree.ListsFiles (Path.join directory "industries") industries ∧
      tree.loadRegistry directory =
        (Registry.create .empty).acceptAll (tree.declared directory cargos industries)) ∧
    ∀ tree', tree.WellNamed → SameButExtras directory tree tree' →
      (tree.isDirectory directory = tree'.isDirectory directory →
        tree.loadRegistry directory = tree'.loadRegistry directory) ∧
      ((∀ place ∈ passed directory, isExtra directory place = false) →
        tree.isDirectory directory = tree'.isDirectory directory) := by
  refine ⟨⟨_, _, listsFiles_fileNames tree _, listsFiles_fileNames tree _,
    loadRegistry_eq tree directory⟩, fun tree' wellNamed same => ?_⟩
  refine ⟨fun there => same.loadRegistry there wellNamed, fun beside => ?_⟩
  have found : tree.at? directory = tree'.at? directory :=
    at?_congr fun place mem => same.find? (beside place mem)
  rw [isDirectory, isDirectory, found]

/-- A wharf in `data`, listed among these other things. -/
def wharf (others : List (Place × Entry)) : List (Place × Entry) :=
  [(["data"], .directory), (["data", "cargos"], .directory)] ++ others ++
    [(["data", "industries"], .directory), (["data", "industries", "wharf.ron"],
      .file "(id:\"wharf\",numeric_id:9,kind:PrimaryPort)".toUTF8)]

/-- Cargos no longer in use. -/
def oldCargos : List (Place × Entry) :=
  [(["data", "cargos", "old"], .directory), (["data", "cargos", "old", "coal.ron"], .directory)]

theorem wharf_perm (others : List (Place × Entry)) : (wharf [] ++ others).Perm (wharf others) := by
  unfold wharf
  rw [List.append_nil, List.append_assoc, List.append_assoc]
  exact List.perm_append_comm.append_left _

/-- With the old cargos or without, and in any order, the wharf is loaded. -/
theorem loadRegistry_wharf :
    let alone : FileTree := ⟨wharf [], by decide⟩
    let among : FileTree := ⟨(wharf oldCargos).reverse, by decide⟩
    alone.loadRegistry "data" = among.loadRegistry "data" ∧
      (alone.loadRegistry "data").toOption.any (fun registry =>
        registry.industries.toList.map (·.id) = ["wharf"]) = true := by
  intro alone among
  have same : SameButExtras "data" alone among :=
    .of_perm ((wharf_perm oldCargos).trans (List.reverse_perm _).symm) (by decide)
  have unmoved := (loadRegistry_inOrder alone "data").2 among (by decide +kernel) same
  exact ⟨unmoved.1 (unmoved.2 (by decide)), by decide +kernel⟩

/-- A path of the directory that leads through the old cargos ends with them. -/
theorem not_loadRegistry_beside :
    let alone : FileTree := ⟨wharf [], by decide⟩
    let among : FileTree := ⟨wharf oldCargos, by decide⟩
    let directory := "data/cargos/old/../.."
    alone.WellNamed ∧ SameButExtras directory alone among ∧
      alone.loadRegistry directory ≠ among.loadRegistry directory := by
  intro alone among directory
  refine ⟨by decide +kernel, .of_perm (wharf_perm oldCargos) (by decide), fun equal => ?_⟩
  have ids := congrArg (fun loaded => loaded.toOption.map fun registry =>
    registry.industries.toList.map (·.id)) equal
  exact absurd ids (by decide +kernel)

end FileTree

end IndustrySet
