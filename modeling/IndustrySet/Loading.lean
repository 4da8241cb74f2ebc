import IndustrySet.Declaration.Ron.Reader
import IndustrySet.Declaration.Schema
import IndustrySet.FileTree
import IndustrySet.Language
import IndustrySet.Registry

set_option autoImplicit false

/-! # Loading declarations

A directory of declarations holds an optional list of economies in `economies.ron`, one cargo in
each `.ron` file of `cargos`, and one industry in each `.ron` file of `industries`. Files are read
in the order of their names, so that the result does not depend on the order of a listing. -/

namespace IndustrySet.FileTree

/-- The text of a file, which must be there. -/
def requireText (tree : FileTree) (path : String) : Except Error String :=
  (tree.readText path).mapError (Error.file path)

/-- What a declaration file declares. -/
def readDeclaration {α : Type} (tree : FileTree) (c : Codec α) (path : String) :
    Except Error α := do
  let text ← tree.requireText path
  (c.readText text).mapError (Error.declaration path)

/-- The paths of the declaration files in a directory, ascending. A directory that is not there has
none. -/
def declarationFiles (tree : FileTree) (directory : String) : List String :=
  if tree.isDirectory directory then
    (((tree.listing directory).filter fun name => Path.extension? name = some "ron").mergeSort
      fun a b => a ≤ b).map (Path.join directory)
  else []

/-- The economies of a directory of declarations: those listed, or the standard ones. -/
def loadEconomies (tree : FileTree) (directory : String) : Except Error Economies :=
  let path := Path.join directory "economies.ron"
  if tree.exists? path then do
    let listed ← tree.readDeclaration Economies.listCodec path
    Economies.empty.registerAll listed
  else .ok .standard

/-- The registry with the cargo in a file. -/
def loadCargo (tree : FileTree) (registry : Registry) (path : String) : Except Error Registry := do
  let cargo ← tree.readDeclaration Cargo.codec path
  registry.registerCargo cargo

/-- The registry with the industry in a file. -/
def loadIndustry (tree : FileTree) (registry : Registry) (path : String) :
    Except Error Registry := do
  let declaration ← tree.readDeclaration IndustryDeclaration.codec path
  registry.registerIndustry declaration.toIndustry

/-- Everything in a directory of declarations. -/
def loadRegistry (tree : FileTree) (directory : String) : Except Error Registry := do
  let economies ← tree.loadEconomies directory
  let cargos ← (tree.declarationFiles (Path.join directory "cargos")).foldlM tree.loadCargo
    (.create economies)
  (tree.declarationFiles (Path.join directory "industries")).foldlM tree.loadIndustry cargos

/-- The configuration in a file. -/
def loadConfiguration (tree : FileTree) (path : String) : Except Error Configuration :=
  tree.readDeclaration Configuration.codec path

/-- The strings of several language files, of which later ones count more. -/
def loadStrings (tree : FileTree) (paths : List String) : Except Error Strings :=
  paths.foldlM (fun strings path => do
    let text ← tree.requireText path
    return strings.merge (.parse text)) .empty

end IndustrySet.FileTree
