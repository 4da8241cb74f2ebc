import IndustrySet.Proofs.FileWrites

set_option autoImplicit false

/-! # Where joined paths lead

A path joined to another one goes on from where that one leads, unless it is absolute
(`Place.ofPath_join`, `FileTree.locate_join`). A text leads one place further, to the entry of that
name, just if it is a name: a text without slashes that is not empty or dots
(`Place.ofPath_join_name`). -/

namespace IndustrySet

namespace Path

variable {base rest name : String}

/-! ## Pieces -/

theorem piecesOfChars_ne_nil (chars : List Char) : piecesOfChars chars ≠ [] := by
  cases chars with
  | nil => exact List.cons_ne_nil _ _
  | cons c rest =>
    by_cases slash : c = '/'
    · subst slash
      exact List.cons_ne_nil _ _
    · rw [piecesOfChars]
      · split <;> exact List.cons_ne_nil _ _
      · exact slash

theorem piecesOfChars_cons {c : Char} (h : c ≠ '/') (chars : List Char) :
    ∃ piece more, piecesOfChars chars = piece :: more ∧
      piecesOfChars (c :: chars) = (c :: piece) :: more := by
  obtain ⟨piece, more, split⟩ := List.exists_cons_of_ne_nil (piecesOfChars_ne_nil chars)
  refine ⟨piece, more, split, ?_⟩
  rw [piecesOfChars, split]
  exact h

/-- A slash parts the pieces before it from those after it. -/
theorem piecesOfChars_append (before after : List Char) :
    piecesOfChars (before ++ '/' :: after) = piecesOfChars before ++ piecesOfChars after := by
  induction before with
  | nil => rfl
  | cons c more ih =>
    by_cases slash : c = '/'
    · subst slash
      rw [List.cons_append, piecesOfChars, ih, piecesOfChars, List.cons_append]
    · obtain ⟨piece, pieces, split, first⟩ := piecesOfChars_cons slash more
      obtain ⟨piece', pieces', split', first'⟩ := piecesOfChars_cons slash (more ++ '/' :: after)
      rw [ih, split, List.cons_append] at split'
      cases split'
      rw [List.cons_append, first', first, List.cons_append]

theorem piecesOfChars_of_notMem {chars : List Char} (h : '/' ∉ chars) :
    piecesOfChars chars = [chars] := by
  induction chars with
  | nil => rfl
  | cons c more ih =>
    have slash : c ≠ '/' := fun same => h (same ▸ List.mem_cons_self)
    obtain ⟨piece, pieces, split, first⟩ := piecesOfChars_cons slash more
    rw [ih fun mem => h (List.mem_cons_of_mem c mem)] at split
    cases split
    exact first

theorem slash_notMem_of_mem_piecesOfChars {chars piece : List Char}
    (mem : piece ∈ piecesOfChars chars) : '/' ∉ piece := by
  induction chars generalizing piece with
  | nil =>
    rw [List.mem_singleton.1 mem]
    exact List.not_mem_nil
  | cons c more ih =>
    by_cases slash : c = '/'
    · subst slash
      rcases List.mem_cons.1 mem with rfl | mem
      · exact List.not_mem_nil
      · exact ih mem
    · obtain ⟨first, pieces, split, whole⟩ := piecesOfChars_cons slash more
      rw [split] at ih
      rw [whole] at mem
      rcases List.mem_cons.1 mem with rfl | mem
      · simpa [Ne.symm slash] using ih List.mem_cons_self
      · exact ih (List.mem_cons_of_mem first mem)

theorem slash_notMem_of_mem_pieces {path piece : String} (mem : piece ∈ pieces path) :
    '/' ∉ piece.toList := by
  obtain ⟨chars, hchars, rfl⟩ := List.mem_map.1 mem
  rw [String.toList_ofList]
  exact slash_notMem_of_mem_piecesOfChars hchars

theorem pieces_append_slash (before after : String) :
    pieces (before ++ "/" ++ after) = pieces before ++ pieces after := by
  have chars : (before ++ "/" ++ after).toList = before.toList ++ '/' :: after.toList := by
    simp
  rw [pieces, chars, piecesOfChars_append, List.map_append, pieces, pieces]

/-- The pieces of a joined path; a slash at the end of the first path is not doubled. -/
theorem pieces_join (relative : isAbsolute rest = false) (base : String) :
    ∃ front, (pieces base = front ∨ pieces base = front ++ [""]) ∧
      pieces (join base rest) = front ++ pieces rest := by
  unfold join
  rw [relative, Bool.false_or]
  split
  · next empty =>
    rw [String.isEmpty_iff.1 empty]
    exact ⟨[], .inr rfl, rfl⟩
  · split
    · next ended =>
      obtain ⟨front, chars⟩ := List.getLast?_eq_some_iff.1 (beq_iff_eq.1 ended)
      have whole : base = String.ofList front ++ "/" ++ "" := by
        rw [← String.toList_inj]
        simp [chars]
      refine ⟨pieces (String.ofList front), .inr ?_, ?_⟩
      · rw [whole, pieces_append_slash]
        rfl
      · rw [whole, String.append_empty, pieces_append_slash]
    · exact ⟨pieces base, .inl rfl, pieces_append_slash base rest⟩

theorem isAbsolute_join (relative : isAbsolute rest = false) :
    isAbsolute (join base rest) = isAbsolute base := by
  unfold join
  rw [relative, Bool.false_or]
  split
  · next empty =>
    rw [String.isEmpty_iff.1 empty, relative]
    rfl
  · next some =>
    have chars : base.toList ≠ [] := by
      rw [Ne, String.toList_eq_nil_iff, ← String.isEmpty_iff]
      exact some
    obtain ⟨c, more, first⟩ := List.exists_cons_of_ne_nil chars
    split <;> simp [isAbsolute, first]

theorem join_ne_empty (relative : isAbsolute rest = false) (given : base ≠ "") :
    join base rest ≠ "" := by
  unfold join
  rw [relative, Bool.false_or, if_neg (mt String.isEmpty_iff.1 given)]
  split
  · exact fun empty => given (String.append_eq_empty_iff.1 empty).1
  · rw [String.append_assoc]
    exact fun empty => given (String.append_eq_empty_iff.1 empty).1

/-! ## Names -/

/-- The text can be the name of an entry of a directory. -/
structure IsName (text : String) : Prop where
  noSlash : '/' ∉ text.toList
  proper : text ≠ "" ∧ text ≠ "." ∧ text ≠ ".."

theorem IsName.pieces (h : IsName name) : Path.pieces name = [name] := by
  rw [Path.pieces, piecesOfChars_of_notMem h.noSlash, List.map_singleton, String.ofList_toList]

theorem IsName.relative (h : IsName name) : isAbsolute name = false := by
  unfold isAbsolute
  cases first : name.toList with
  | nil => rfl
  | cons c more =>
    have slash : c ≠ '/' := fun same => h.noSlash (by simp [first, same])
    simpa using slash

theorem isName_cargos : IsName "cargos" := ⟨by decide, by decide⟩

theorem isName_industries : IsName "industries" := ⟨by decide, by decide⟩

end Path

/-! ## The place of a joined path -/

namespace Place

variable {base rest name : String}

theorem advance_of_isName (h : Path.IsName name) (place : Place) :
    place.advance name = place ++ [name] := by
  obtain ⟨notEmpty, notDot, notDots⟩ := h.proper
  simp [advance, notEmpty, notDot, notDots]

theorem foldl_pieces_join (relative : Path.isAbsolute rest = false) (base : String)
    (place : Place) :
    (Path.pieces (Path.join base rest)).foldl advance place =
      (Path.pieces rest).foldl advance ((Path.pieces base).foldl advance place) := by
  obtain ⟨front, whole | ended, joined⟩ := Path.pieces_join relative base
  · rw [joined, List.foldl_append, whole]
  · rw [joined, List.foldl_append, ended, List.foldl_append]
    rfl

theorem ofPath_join (relative : Path.isAbsolute rest = false) (base : String) :
    ofPath (Path.join base rest) = (Path.pieces rest).foldl advance (ofPath base) := by
  rw [ofPath, Path.isAbsolute_join relative, foldl_pieces_join relative, ofPath]

/-- It does not matter in which order paths are joined. -/
theorem ofPath_join_join {folder : String} (below : Path.isAbsolute folder = false)
    (relative : Path.isAbsolute rest = false) (base : String) :
    ofPath (Path.join base (Path.join folder rest)) =
      ofPath (Path.join (Path.join base folder) rest) := by
  have together : Path.isAbsolute (Path.join folder rest) = false := by
    rw [Path.isAbsolute_join relative, below]
  rw [ofPath_join together, foldl_pieces_join relative, ofPath_join relative, ofPath_join below]

theorem ofPath_join_name (h : Path.IsName name) (base : String) :
    ofPath (Path.join base name) = ofPath base ++ [name] := by
  rw [ofPath_join h.relative, h.pieces, List.foldl_cons, List.foldl_nil, advance_of_isName h]

/-- No name on the way to a place has a slash in it, but that of the root. -/
theorem slash_notMem_of_mem_ofPath {path : String} (mem : name ∈ ofPath path)
    (notRoot : name ≠ "/") : '/' ∉ name.toList := by
  have start : ∀ name ∈ (if Path.isAbsolute path then root else [] : Place), name ≠ "/" →
      '/' ∉ name.toList := by
    intro name mem notRoot
    split at mem
    · exact absurd (List.mem_singleton.1 mem) notRoot
    · cases mem
  have pieces : ∀ piece ∈ Path.pieces path, '/' ∉ piece.toList :=
    fun piece => Path.slash_notMem_of_mem_pieces
  unfold ofPath at mem
  -- From the start of the path on, every piece adds a name without slashes or takes one away.
  generalize (if Path.isAbsolute path then root else [] : Place) = place at mem start
  generalize Path.pieces path = more at mem pieces
  induction more generalizing place with
  | nil => exact start name mem notRoot
  | cons piece more ih =>
    refine ih _ (fun other mem notRoot => ?_) mem fun p hp => pieces p (List.mem_cons_of_mem _ hp)
    unfold advance at mem
    split at mem
    · exact start other mem notRoot
    · split at mem
      · unfold outward at mem
        split at mem
        · exact absurd (List.mem_singleton.1 mem) notRoot
        · split at mem
          · rcases List.mem_append.1 mem with mem | mem
            · exact start other mem notRoot
            · rw [List.mem_singleton.1 mem]
              decide
          · exact start other (List.dropLast_subset place mem) notRoot
      · rcases List.mem_append.1 mem with mem | mem
        · exact start other mem notRoot
        · rw [List.mem_singleton.1 mem]
          exact pieces piece List.mem_cons_self

end Place

/-! ## Following a joined path -/

namespace FileTree

variable {tree : FileTree} {base rest name : String} {place : Place}

theorem follow_append (tree : FileTree) (place : Place) (before after : List String) :
    tree.follow place (before ++ after) =
      (tree.follow place before).bind fun target => tree.follow target after := by
  induction before generalizing place with
  | nil => rfl
  | cons piece more ih =>
    rw [List.cons_append, follow, follow]
    split
    · rfl
    · rfl
    · exact ih _

/-- A slash before a further piece asks for a directory, which the piece does anyway. -/
theorem follow_empty_bind (tree : FileTree) (place : Place) (piece : String)
    (more : List String) :
    ((tree.follow place [""]).bind fun target => tree.follow target (piece :: more)) =
      tree.follow place (piece :: more) := by
  cases found : tree.find? place with
  | none => simp [follow, found, Except.bind]
  | some entry =>
    cases entry with
    | file content => simp [follow, found, Except.bind]
    | directory => simp [follow, found, Except.bind, Place.advance]

theorem locate_join (relative : Path.isAbsolute rest = false) (given : base ≠ "") :
    tree.locate (Path.join base rest) =
      (tree.locate base).bind fun target => tree.follow target (Path.pieces rest) := by
  have more := Path.join_ne_empty relative given
  have onward : ∀ start : Place, tree.follow start (Path.pieces (Path.join base rest)) =
      (tree.follow start (Path.pieces base)).bind fun target =>
        tree.follow target (Path.pieces rest) := by
    intro start
    obtain ⟨front, whole | ended, joined⟩ := Path.pieces_join relative base
    · rw [joined, follow_append, whole]
    · obtain ⟨piece, pieces, split⟩ : ∃ piece pieces, Path.pieces rest = piece :: pieces :=
        List.exists_cons_of_ne_nil (by simpa [Path.pieces] using Path.piecesOfChars_ne_nil _)
      rw [joined, follow_append, ended, follow_append, split]
      cases tree.follow start front with
      | error fault => rfl
      | ok target => exact (follow_empty_bind tree target piece pieces).symm
  simp only [locate, if_neg more, if_neg given, Path.isAbsolute_join relative, onward]
  split <;> rfl

/-- Can the path be gone on from, to something in the directory that it names? The empty path names
nothing, but what is joined to it lies in the working directory. -/
def opens (tree : FileTree) (path : String) : Bool :=
  path = "" || tree.isDirectory path

theorem isDirectory_iff {path : String} : tree.isDirectory path = true ↔
    tree.locate path = .ok (.ofPath path) ∧ tree.find? (.ofPath path) = some .directory := by
  unfold isDirectory at?
  cases located : tree.locate path with
  | error fault => simp
  | ok place =>
    cases locate_eq_ok located
    cases found : tree.find? (.ofPath path) with
    | none => simp [found]
    | some entry => cases entry <;> simp [found]

theorem locate_join_name (h : Path.IsName name) (opened : tree.opens base = true) :
    tree.locate (Path.join base name) = .ok (Place.ofPath base ++ [name]) := by
  rcases Bool.or_eq_true_iff.1 opened with empty | there
  · cases of_decide_eq_true empty
    have alone : Path.join "" name = name := by simp [Path.join]
    have working : tree.find? [] = some .directory := rfl
    have place : Place.ofPath "" = [] := rfl
    rw [alone, locate, if_neg h.proper.1, h.relative, h.pieces, place]
    simp [follow, working, Place.advance_of_isName h]
  · obtain ⟨located, found⟩ := isDirectory_iff.1 there
    have given : base ≠ "" := by
      rintro rfl
      cases located
    rw [locate_join h.relative given, located, h.pieces]
    simp [Except.bind, follow, found, Place.advance_of_isName h]

/-- What lies at a name in a directory. -/
theorem at?_join (h : Path.IsName name) (base : String) :
    tree.at? (Path.join base name) =
      if tree.opens base then tree.find? (Place.ofPath base ++ [name]) else none := by
  split
  · next opened => rw [at?, locate_join_name h opened]
  · next closed =>
    obtain ⟨given, notThere⟩ : base ≠ "" ∧ ¬tree.isDirectory base = true := by
      simpa [opens] using closed
    rw [at?, locate_join h.relative given, h.pieces]
    cases located : tree.locate base with
    | error fault => rfl
    | ok place =>
      cases locate_eq_ok located
      cases found : tree.find? (.ofPath base) with
      | none => simp [Except.bind, follow, found]
      | some entry =>
        cases entry with
        | file content => simp [Except.bind, follow, found]
        | directory => exact absurd (isDirectory_iff.2 ⟨located, found⟩) notThere

end FileTree

end IndustrySet
