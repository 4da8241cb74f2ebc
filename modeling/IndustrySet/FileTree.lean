import IndustrySet.Text.Path
import IndustrySet.Update

set_option autoImplicit false

/-! # File trees

Files and directories below a working directory, as a value. Paths are followed piece by piece;
everything before the last piece must be a directory. -/

namespace IndustrySet

/-- What lies at a place. -/
inductive Entry
  | file (content : ByteArray)
  | directory

/-- The bytes of a file. -/
def Entry.bytes? : Entry → Option (List UInt8)
  | .file content => some content.data.toList
  | .directory => none

/-- A place in a tree: the names on the way to it. The working directory is the empty place, places
outside of it begin with `..`, and places of absolute paths begin with `/`. -/
abbrev Place := List String

namespace Place

/-- The root of the file system. -/
def root : Place := ["/"]

/-- The path of a place. -/
def path : Place → String
  | [] => "."
  | "/" :: names => "/" ++ "/".intercalate names
  | names => "/".intercalate names

/-- Is the place the root, the working directory or one around it? Such a place is always a
directory. -/
def isAround (place : Place) : Bool :=
  place = root || place.all (· = "..")

/-- The place of the directory around a place; the root is in itself. -/
def outward (place : Place) : Place :=
  if place = root then root
  else if place.all (· = "..") then place ++ [".."]
  else place.dropLast

/-- The place one piece of a path further. -/
def advance (place : Place) (piece : String) : Place :=
  if piece = "" ∨ piece = "." then place
  else if piece = ".." then place.outward
  else place ++ [piece]

end Place

/-- Files and directories, each at its place, in the order in which a listing shows them. -/
structure FileTree where
  entries : List (Place × Entry)
  /-- At one place lies one thing. -/
  distinct : (entries.map (·.1)).Nodup

namespace FileTree

/-- The empty working directory. -/
def empty : FileTree := ⟨[], .nil⟩

/-- What lies at a place. -/
def find? (tree : FileTree) (place : Place) : Option Entry :=
  if place.isAround then some .directory
  else (tree.entries.find? fun entry => entry.1 = place).map (·.2)

/-- The entries with one set. -/
def setEntry (place : Place) (entry : Entry) : List (Place × Entry) → List (Place × Entry)
  | [] => [(place, entry)]
  | first :: rest =>
    if first.1 = place then (place, entry) :: rest else first :: setEntry place entry rest

theorem map_fst_setEntry (place : Place) (entry : Entry) (entries : List (Place × Entry)) :
    (setEntry place entry entries).map (·.1) =
      if place ∈ entries.map (·.1) then entries.map (·.1) else entries.map (·.1) ++ [place] := by
  induction entries with
  | nil => simp [setEntry]
  | cons first rest ih =>
    by_cases same : first.1 = place
    · simp [setEntry, same]
    · simp only [setEntry, if_neg same, List.map_cons, ih, List.mem_cons, Ne.symm same, false_or]
      split <;> simp

theorem distinct_setEntry {place : Place} {entry : Entry} {entries : List (Place × Entry)}
    (h : (entries.map (·.1)).Nodup) : ((setEntry place entry entries).map (·.1)).Nodup := by
  rw [map_fst_setEntry]
  split
  · exact h
  · next fresh =>
    rw [List.nodup_append]
    exact ⟨h, List.pairwise_singleton _ place, fun p hp q hq e =>
      fresh (List.mem_singleton.1 hq ▸ e ▸ hp)⟩

/-- The tree with something put at a place. -/
def set (tree : FileTree) (place : Place) (entry : Entry) : FileTree :=
  ⟨setEntry place entry tree.entries, distinct_setEntry tree.distinct⟩

/-- The entries that differ from those of an earlier tree. -/
def changesSince (tree before : FileTree) : List (Place × Entry) :=
  tree.entries.filter fun entry => (before.find? entry.1).map Entry.bytes? ≠ some entry.2.bytes?

/-- The names in a directory, in the order of its listing. -/
def names (tree : FileTree) (place : Place) : List String :=
  tree.entries.filterMap fun entry =>
    match entry.1.getLast? with
    | some name => if entry.1.dropLast = place then some name else none
    | none => none

/-! ## Following paths -/

/-- The place that pieces of a path lead to. -/
def follow (tree : FileTree) : Place → List String → Except FileFault Place
  | place, [] => .ok place
  | place, piece :: rest =>
    match tree.find? place with
    | none => .error .notFound
    | some (.file _) => .error .notDirectory
    | some .directory => tree.follow (place.advance piece) rest

/-- The place of a path. There need be nothing there yet. -/
def locate (tree : FileTree) (path : String) : Except FileFault Place :=
  if path = "" then .error .notFound
  else if Path.isAbsolute path then tree.follow .root (Path.pieces path)
  else tree.follow [] (Path.pieces path)

/-- What lies at a path. -/
def at? (tree : FileTree) (path : String) : Option Entry :=
  match tree.locate path with
  | .ok place => tree.find? place
  | .error _ => none

/-- Is something at the path? -/
def exists? (tree : FileTree) (path : String) : Bool :=
  (tree.at? path).isSome

/-- Is a directory at the path? -/
def isDirectory (tree : FileTree) (path : String) : Bool :=
  match tree.at? path with
  | some .directory => true
  | _ => false

/-- The names in the directory at a path. -/
def listing (tree : FileTree) (path : String) : List String :=
  match tree.locate path with
  | .ok place => tree.names place
  | .error _ => []

/-! ## Reading and writing -/

/-- The text of the file at a path. -/
def readText (tree : FileTree) (path : String) : Except FileFault String := do
  let place ← tree.locate path
  match tree.find? place with
  | none => .error .notFound
  | some .directory => .error .isDirectory
  | some (.file content) =>
    match String.fromUTF8? content with
    | some text => return text
    | none => .error .notText

/-- Changes of a tree as a file system refuses them. What was made before a refusal stays. -/
abbrev Change : Type → Type := EStateM FileFault FileTree

/-- Writes a file. The directory it lies in must be there. -/
def writeText (path text : String) : Change Unit := do
  let tree ← get
  let place ← liftExcept (tree.locate path)
  match tree.find? place with
  | some .directory => throw .isDirectory
  | _ => modify (·.set place (.file text.toUTF8))

/-- Makes a directory. The directory it lies in must be there, and nothing at its own place. -/
def makeDirectory (path : String) : Change Unit := do
  let tree ← get
  let place ← liftExcept (tree.locate path)
  match tree.find? place with
  | some _ => throw .alreadyExists
  | none => modify (·.set place .directory)

/-- A fault in making a directory that counts unless the directory is there all the same. -/
def throwUnlessThere (path : String) (fault : FileFault) : Change Unit := do
  let tree ← get
  if tree.isDirectory path then return else throw fault

/-- Makes a directory, if it is not there already, and those it lies in as needed. The paths are the
directory's and then, from the inside out, those it lies in. -/
def makeDirectories : List String → Change Unit
  | [] => return
  | path :: outer =>
    tryCatch (makeDirectory path) fun fault =>
      if fault = .notFound then do
        makeDirectories outer
        tryCatch (makeDirectory path) (throwUnlessThere path)
      else throwUnlessThere path fault

/-- Makes the directories a file lies in as needed. -/
def makeAround (path : String) : Update FileTree Unit :=
  match Path.parent? path with
  | some parent => (makeDirectories (Path.ancestors parent)).adaptExcept (Error.file parent)
  | none => return

/-- Writes a file, and makes the directories it lies in as needed. -/
def writeFile (path text : String) : Update FileTree Unit := do
  makeAround path
  (writeText path text).adaptExcept (Error.file path)

/-- Writes files one after the other, given as paths with their texts. -/
def writeFiles : List (String × String) → Update FileTree Unit
  | [] => return
  | (path, text) :: rest => do
    writeFile path text
    writeFiles rest

/-! ## Lemmas -/

theorem find?_setEntry (place p : Place) (entry : Entry) (entries : List (Place × Entry)) :
    ((setEntry place entry entries).find? fun e => e.1 = p).map (·.2) =
      if place = p then some entry else (entries.find? fun e => e.1 = p).map (·.2) := by
  induction entries with
  | nil => by_cases h : place = p <;> simp [setEntry, h]
  | cons first rest ih =>
    by_cases same : first.1 = place
    · by_cases h : place = p <;> simp [setEntry, same, h]
    · by_cases h : first.1 = p
      · have hp : place ≠ p := fun e => same (h.trans e.symm)
        simp only [setEntry, if_neg same]
        simp [h, hp]
      · simp [setEntry, same, h, ih]

/-- What lies at a place after something was put at one. -/
theorem find?_set (tree : FileTree) (place p : Place) (entry : Entry) (h : p.isAround = false) :
    (tree.set place entry).find? p = if place = p then some entry else tree.find? p := by
  simp only [find?, h, set, find?_setEntry]
  simp

end FileTree

end IndustrySet
