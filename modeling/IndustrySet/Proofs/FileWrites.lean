import IndustrySet.FileTree
import IndustrySet.Proofs.Runs

set_option autoImplicit false

/-! # Writing files

What writing files one after the other does to a tree. A written file has its text, every other file
keeps its content, and no directory goes away (`Written`). Making the directories around a file
touches no file, also where it ends in a fault half way (`onlyMakesDirectories_makeAround`), so that
writing files up to a fault leaves what the files before it make of the tree
(`written_of_run_writeFiles`, `written_of_fault`). -/

namespace IndustrySet

/-- The content of an entry that is a file. -/
def Entry.content? : Entry → Option ByteArray
  | .file content => some content
  | .directory => none

/-- The place that a path names, whatever lies there. -/
def Place.ofPath (path : String) : Place :=
  (Path.pieces path).foldl Place.advance (if Path.isAbsolute path then .root else [])

namespace FileTree

variable {tree before after : FileTree}

/-- The content of the file at a place. -/
def content? (tree : FileTree) (place : Place) : Option ByteArray :=
  (tree.find? place).bind Entry.content?

/-! ## Where a path leads -/

/-- Following pieces of a path ends where they name, if it ends. -/
theorem follow_eq_ok {pieces : List String} {place target : Place}
    (h : tree.follow place pieces = .ok target) : target = pieces.foldl Place.advance place := by
  induction pieces generalizing place with
  | nil => exact (Except.ok.inj h).symm
  | cons piece rest ih =>
    unfold follow at h
    split at h
    · cases h
    · cases h
    · exact ih h

theorem locate_eq_ok {path : String} {place : Place} (h : tree.locate path = .ok place) :
    place = .ofPath path := by
  unfold locate at h
  split at h
  · cases h
  · unfold Place.ofPath
    split at h
    · next absolute => rw [if_pos absolute]; exact follow_eq_ok h
    · next relative => rw [if_neg relative]; exact follow_eq_ok h

/-! ## Changes that only make directories -/

/-- What the second tree has more than the first one are directories. -/
def MoreDirectories (before after : FileTree) : Prop :=
  ∀ place, after.find? place = before.find? place ∨
    before.find? place = none ∧ after.find? place = some .directory

namespace MoreDirectories

theorem refl (tree : FileTree) : tree.MoreDirectories tree :=
  fun _ => .inl rfl

theorem trans {between : FileTree} (first : before.MoreDirectories between)
    (second : between.MoreDirectories after) : before.MoreDirectories after := by
  intro place
  rcases second place with same | ⟨missing, new⟩
  · rw [same]
    exact first place
  · rcases first place with same | ⟨_, made⟩
    · exact .inr ⟨same ▸ missing, new⟩
    · rw [made] at missing
      cases missing

/-- A directory put where nothing was. -/
theorem set {place : Place} (missing : tree.find? place = none) :
    tree.MoreDirectories (tree.set place .directory) := by
  intro other
  by_cases around : other.isAround = true
  · exact .inl (by simp [find?, around])
  · rw [find?_set tree place other .directory (Bool.eq_false_iff.2 around)]
    by_cases here : place = other
    · rw [if_pos here]
      exact .inr ⟨here ▸ missing, rfl⟩
    · rw [if_neg here]
      exact .inl rfl

end MoreDirectories

/-- The tree that a change leaves behind, also where it ends in a fault. -/
def left {ε α : Type} (change : EStateM ε FileTree α) (tree : FileTree) : FileTree :=
  match change.run tree with
  | .ok _ after => after
  | .error _ after => after

/-- Whatever comes of a change, it does nothing to a tree but make directories in it. -/
def OnlyMakesDirectories {ε α : Type} (change : EStateM ε FileTree α) : Prop :=
  ∀ tree : FileTree, tree.MoreDirectories (left change tree)

namespace OnlyMakesDirectories

variable {ε ε' α β : Type} {change : EStateM ε FileTree α}

theorem pure (a : α) : OnlyMakesDirectories (pure a : EStateM ε FileTree α) :=
  MoreDirectories.refl

theorem throw (e : ε) : OnlyMakesDirectories (throw e : EStateM ε FileTree α) :=
  MoreDirectories.refl

theorem bind {next : α → EStateM ε FileTree β} (first : OnlyMakesDirectories change)
    (rest : ∀ a, OnlyMakesDirectories (next a)) : OnlyMakesDirectories (change >>= next) := by
  intro tree
  have made := first tree
  unfold left at made ⊢
  rw [EStateM.run_bind]
  cases run : change.run tree with
  | ok a between =>
    rw [run] at made
    exact made.trans (rest a between)
  | error e between =>
    rw [run] at made
    exact made

/-- Directories made before a fault are still there when the fault is dealt with. -/
theorem tryCatch {handle : ε → EStateM ε FileTree α} (first : OnlyMakesDirectories change)
    (rest : ∀ e, OnlyMakesDirectories (handle e)) :
    OnlyMakesDirectories (tryCatch change handle) := by
  intro tree
  have made := first tree
  unfold left at made ⊢
  rw [Update.run_tryCatch]
  cases run : change.run tree with
  | ok a between =>
    rw [run] at made
    exact made
  | error e between =>
    rw [run] at made
    exact made.trans (rest e between)

theorem adaptExcept (f : ε → ε') (h : OnlyMakesDirectories change) :
    OnlyMakesDirectories (change.adaptExcept f) := by
  intro tree
  have made := h tree
  unfold left at made ⊢
  rw [EStateM.run_adaptExcept]
  cases run : change.run tree with
  | ok a after =>
    rw [run] at made
    exact made
  | error e after =>
    rw [run] at made
    exact made

end OnlyMakesDirectories

theorem run_makeDirectory (path : String) (tree : FileTree) :
    (makeDirectory path).run tree =
      match tree.locate path with
      | .error fault => .error fault tree
      | .ok place =>
        match tree.find? place with
        | some _ => .error .alreadyExists tree
        | none => .ok () (tree.set place .directory) := by
  show (liftExcept (tree.locate path) >>= _ : Change Unit).run tree = _
  rw [Update.run_liftExcept_bind]
  cases tree.locate path with
  | error fault => rfl
  | ok place => cases found : tree.find? place <;> simp only [found] <;> rfl

theorem onlyMakesDirectories_makeDirectory (path : String) :
    OnlyMakesDirectories (makeDirectory path) := by
  intro tree
  unfold left
  rw [run_makeDirectory]
  cases tree.locate path with
  | error fault => exact .refl tree
  | ok place =>
    cases found : tree.find? place with
    | some entry =>
      simp only [found]
      exact .refl tree
    | none =>
      simp only [found]
      exact .set found

theorem onlyMakesDirectories_throwUnlessThere (path : String) (fault : FileFault) :
    OnlyMakesDirectories (throwUnlessThere path fault) := by
  refine .bind .refl fun tree => ?_
  split
  · exact .pure ()
  · exact .throw fault

theorem onlyMakesDirectories_makeDirectories (paths : List String) :
    OnlyMakesDirectories (makeDirectories paths) := by
  induction paths with
  | nil => exact .pure ()
  | cons path outer ih =>
    refine .tryCatch (onlyMakesDirectories_makeDirectory path) fun fault => ?_
    split
    · exact ih.bind fun _ => .tryCatch (onlyMakesDirectories_makeDirectory path)
        (onlyMakesDirectories_throwUnlessThere path)
    · exact onlyMakesDirectories_throwUnlessThere path fault

/-- A file that cannot be written may have new directories around it, and nothing else is new. -/
theorem onlyMakesDirectories_makeAround (path : String) :
    OnlyMakesDirectories (makeAround path) := by
  unfold makeAround
  split
  · exact (onlyMakesDirectories_makeDirectories _).adaptExcept _
  · exact .pure ()

/-! ## Written files -/

/-- The text that was written last to a place, of some files written one after the other. -/
def lastWritten (files : List (String × String)) (place : Place) : Option ByteArray :=
  (files.findRev? fun file => Place.ofPath file.1 = place).map (·.2.toUTF8)

@[simp]
theorem lastWritten_nil (place : Place) : lastWritten [] place = none := rfl

theorem lastWritten_append (files more : List (String × String)) (place : Place) :
    lastWritten (files ++ more) place = (lastWritten more place).or (lastWritten files place) := by
  simp [lastWritten, Option.map_or]

theorem lastWritten_singleton (path text : String) (place : Place) :
    lastWritten [(path, text)] place =
      if Place.ofPath path = place then some text.toUTF8 else none := by
  by_cases here : Place.ofPath path = place <;> simp [lastWritten, here]

/-- The second tree is the first one with some files written, one after the other. There may be new
directories. -/
structure Written (files : List (String × String)) (before after : FileTree) : Prop where
  /-- Files hold what was written last, or else what they held before. -/
  content : ∀ place, after.content? place = (lastWritten files place).or (before.content? place)
  /-- Directories stay. -/
  directory : ∀ place, before.find? place = some .directory →
    after.find? place = some .directory

namespace Written

variable {between : FileTree} {files more : List (String × String)}

theorem trans (first : Written files before between) (second : Written more between after) :
    Written (files ++ more) before after where
  content := fun place => by
    rw [second.content, first.content, lastWritten_append, Option.or_assoc]
  directory := fun place there => second.directory place (first.directory place there)

theorem of_moreDirectories (h : before.MoreDirectories after) : Written [] before after where
  content := fun place => by
    rcases h place with same | ⟨missing, made⟩
    · simp [content?, same]
    · simp [content?, missing, made, Entry.content?]
  directory := fun place there => by
    rcases h place with same | ⟨missing, _⟩
    · rw [same, there]
    · rw [there] at missing
      cases missing

/-- A file put where no directory is. -/
theorem set {path : String} (text : String)
    (free : tree.find? (.ofPath path) ≠ some .directory) :
    Written [(path, text)] tree (tree.set (.ofPath path) (.file text.toUTF8)) := by
  have inside : (Place.ofPath path).isAround = false := by
    rw [← Bool.not_eq_true]
    exact fun around => free (by simp [find?, around])
  constructor
  · intro place
    rw [lastWritten_singleton]
    by_cases here : Place.ofPath path = place
    · rw [if_pos here, content?, find?_set tree _ _ _ (here ▸ inside), if_pos here]
      rfl
    · rw [if_neg here, Option.none_or]
      by_cases around : place.isAround = true
      · simp [content?, find?, around]
      · rw [content?, find?_set tree _ _ _ (Bool.eq_false_iff.2 around), if_neg here, content?]
  · intro place there
    by_cases around : place.isAround = true
    · simp [find?, around]
    · have elsewhere : Place.ofPath path ≠ place := fun here => free (here ▸ there)
      rw [find?_set tree _ _ _ (Bool.eq_false_iff.2 around), if_neg elsewhere, there]

end Written

/-! ## Writing -/

theorem run_writeText (path text : String) (tree : FileTree) :
    (writeText path text).run tree =
      match tree.locate path with
      | .error fault => .error fault tree
      | .ok place =>
        match tree.find? place with
        | some .directory => .error .isDirectory tree
        | _ => .ok () (tree.set place (.file text.toUTF8)) := by
  show (liftExcept (tree.locate path) >>= _ : Change Unit).run tree = _
  rw [Update.run_liftExcept_bind]
  cases tree.locate path with
  | error fault => rfl
  | ok place =>
    cases found : tree.find? place with
    | none =>
      simp only [found]
      rfl
    | some entry => cases entry <;> simp only [found] <;> rfl

theorem written_of_run_writeText {path text : String}
    (run : (writeText path text).run tree = .ok () after) : Written [(path, text)] tree after := by
  rw [run_writeText] at run
  split at run
  · cases run
  · next place located =>
    cases locate_eq_ok located
    split at run
    · cases run
    · next free =>
      cases run
      exact .set text free

theorem eq_of_run_writeText {path text : String} {fault : FileFault}
    (run : (writeText path text).run tree = .error fault after) : after = tree := by
  rw [run_writeText] at run
  split at run
  · cases run
    rfl
  · split at run
    · cases run
      rfl
    · cases run

variable {path text : String} {files more : List (String × String)} {e : Error}

theorem written_of_run_writeFile (run : (writeFile path text).run tree = .ok () after) :
    Written [(path, text)] tree after := by
  have made := onlyMakesDirectories_makeAround path tree
  unfold left at made
  rw [writeFile, EStateM.run_bind] at run
  split at run
  · next between around =>
    rw [around] at made
    rw [EStateM.run_adaptExcept] at run
    split at run
    · next written =>
      cases run
      exact (Written.of_moreDirectories made).trans (written_of_run_writeText written)
    · cases run
  · cases run

/-- Where a file cannot be written, no file has changed. -/
theorem written_of_fault (run : (writeFile path text).run tree = .error e after) :
    Written [] tree after := by
  have made := onlyMakesDirectories_makeAround path tree
  unfold left at made
  rw [writeFile, EStateM.run_bind] at run
  split at run
  · next between around =>
    rw [around] at made
    rw [EStateM.run_adaptExcept] at run
    split at run
    · cases run
    · next refused =>
      cases run
      exact eq_of_run_writeText refused ▸ .of_moreDirectories made
  · next around =>
    cases run
    rw [around] at made
    exact .of_moreDirectories made

theorem run_writeFiles_cons (file : String × String) (files : List (String × String))
    (tree : FileTree) :
    (writeFiles (file :: files)).run tree =
      match (writeFile file.1 file.2).run tree with
      | .ok _ after => (writeFiles files).run after
      | .error e after => .error e after := by
  rw [writeFiles, EStateM.run_bind]
  cases (writeFile file.1 file.2).run tree <;> rfl

/-- Files are written in order, the later ones once the earlier ones are. -/
theorem run_writeFiles_append {between : FileTree}
    (run : (writeFiles files).run tree = .ok () between) :
    (writeFiles (files ++ more)).run tree = (writeFiles more).run between := by
  induction files generalizing tree with
  | nil =>
    cases run
    rfl
  | cons file rest ih =>
    rw [run_writeFiles_cons] at run
    rw [List.cons_append, run_writeFiles_cons]
    split at run
    · exact ih run
    · cases run

theorem written_of_run_writeFiles (run : (writeFiles files).run tree = .ok () after) :
    Written files tree after := by
  induction files generalizing tree with
  | nil =>
    cases run
    exact .of_moreDirectories (.refl _)
  | cons file rest ih =>
    rw [run_writeFiles_cons] at run
    split at run
    · next first => exact (written_of_run_writeFile first).trans (ih run)
    · cases run

/-! ## Faults in writing -/

/-- The fault in writing the file at a place of a list, once the files before it are written. -/
def fault? (tree : FileTree) (files : List (String × String)) (place : Nat) : Option Error :=
  match (writeFiles (files.take place)).run tree, files[place]? with
  | .ok _ before, some (path, text) =>
    match (writeFile path text).run before with
    | .error e _ => some e
    | .ok _ _ => none
  | _, _ => none

theorem fault?_eq_some {place : Nat} :
    tree.fault? files place = some e ↔ ∃ path text before after,
      files[place]? = some (path, text) ∧
      (writeFiles (files.take place)).run tree = .ok () before ∧
      (writeFile path text).run before = .error e after := by
  unfold fault?
  constructor
  · intro h
    split at h
    · next before file earlier there =>
      split at h
      · next fault =>
        cases h
        exact ⟨_, _, _, _, there, earlier, fault⟩
      · cases h
    · cases h
  · rintro ⟨path, text, before, after, there, earlier, fault⟩
    simp only [there, earlier, fault]

/-- The first fault ends the writing: no file after it is written. -/
theorem run_writeFiles_of_fault {place : Nat} (h : tree.fault? files place = some e) :
    ∃ after, (writeFiles files).run tree = .error e after ∧
      Written (files.take place) tree after := by
  obtain ⟨path, text, before, after, there, earlier, fault⟩ := fault?_eq_some.1 h
  obtain ⟨inside, same⟩ := List.getElem?_eq_some_iff.1 there
  have split : files = files.take place ++ (path, text) :: files.drop (place + 1) := by
    rw [← same, List.getElem_cons_drop inside, List.take_append_drop]
  refine ⟨after, ?_, ?_⟩
  · rw [split, run_writeFiles_append earlier, run_writeFiles_cons, fault]
  · have written := (written_of_run_writeFiles earlier).trans (written_of_fault fault)
    rwa [List.append_nil] at written

/-- Writing does not end before there is a fault. -/
theorem exists_fault (run : (writeFiles files).run tree = .error e after) :
    ∃ place, tree.fault? files place = some e := by
  induction files generalizing tree with
  | nil => cases run
  | cons file rest ih =>
    rw [run_writeFiles_cons] at run
    split at run
    · next between first =>
      obtain ⟨place, h⟩ := ih run
      obtain ⟨path, text, before, last, there, earlier, fault⟩ := fault?_eq_some.1 h
      refine ⟨place + 1, fault?_eq_some.2 ⟨path, text, before, last, there, ?_, fault⟩⟩
      rw [List.take_succ_cons, run_writeFiles_cons, first]
      exact earlier
    · next first =>
      cases run
      exact ⟨0, fault?_eq_some.2 ⟨file.1, file.2, tree, after, rfl, rfl, first⟩⟩

end FileTree

end IndustrySet
