import IndustrySet.Configuration
import IndustrySet.Fragment.Cargo
import IndustrySet.Fragment.Industry
import IndustrySet.Registry
import IndustrySet.Text.Path

set_option autoImplicit false

/-! # Generating a registry's NML

Every cargo and every industry becomes a fragment, which is a file of its own, and all fragments
together become one more file. Nothing is written before everything has been generated. -/

namespace IndustrySet

/-- What is generated for one cargo or industry. -/
structure Fragment where
  /-- The path below the output directory. -/
  path : String
  blocks : List Nml.Block
  deriving DecidableEq

/-- The NML of a fragment. -/
def Fragment.text (fragment : Fragment) : String :=
  Nml.render fragment.blocks

/-- Everything that is generated in a run, and the mistakes that did not stop it. -/
structure Generated where
  fragments : List Fragment
  warnings : List Warning

/-- The comment at the top of every file. -/
def Configuration.header (config : Configuration) : String :=
  "// Generated by firs-nml, do not edit.\n// version " ++ config.repoVersion ++ " revision " ++
    config.repoRevision ++ "\n\n"

namespace Registry

/-- The industries to write: all of them, or the only one. -/
def selectedIndustries (registry : Registry) (config : Configuration) :
    Except Error (List Industry) :=
  match config.testIndustry with
  | some id => do
    let industry ← registry.industries.lookup id
    return [industry]
  | none => .ok registry.industries.toList

/-- The fragment of a cargo. -/
def cargoFragment (cargo : Cargo) : Fragment where
  path := Path.join "cargos" (cargo.id ++ ".nml")
  blocks := cargo.blocks

/-- The fragment of an industry, with the warnings about it. -/
def industryFragment (registry : Registry) (industry : Industry) :
    Except Error (Fragment × List Warning) := do
  let warnings ← registry.validateIndustry industry
  let blocks ← industry.blocks registry.economies registry.industries.numbers
  return ({ path := Path.join "industries" (industry.id ++ ".nml"), blocks }, warnings)

/-- All fragments of a run. -/
def generate (registry : Registry) (config : Configuration) : Except Error Generated := do
  let industries ← registry.selectedIndustries config
  let fragments ← industries.mapM registry.industryFragment
  return {
    fragments := registry.cargos.toList.map cargoFragment ++ fragments.map (·.1)
    warnings := registry.industries.warnings ++ (fragments.map (·.2)).flatten }

end Registry

/-! ## Files -/

/-- The file with all fragments. -/
def combinedFile : String := "firs.nml"

/-- The files of a run, in the order they are written: paths with their contents. -/
def Generated.files (generated : Generated) (config : Configuration) : List (String × String) :=
  generated.fragments.map (fun fragment =>
    (Path.join config.outputDir fragment.path, config.header ++ fragment.text)) ++
  [(Path.join config.outputDir combinedFile,
    config.header ++ Text.unlines (generated.fragments.map (·.text)))]

end IndustrySet
