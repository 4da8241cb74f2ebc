import IndustrySet.Command.Arguments
import IndustrySet.Generation
import IndustrySet.Loading
import IndustrySet.Text.Column

set_option autoImplicit false

/-! # Running commands

A command reads a file tree, prints lines, and may leave a changed tree behind. -/

namespace IndustrySet

/-- What running a command leaves behind. -/
structure Run where
  tree : FileTree
  /-- The printed lines. -/
  printed : List String
  /-- The error that ended the run. -/
  error : Option Error

/-! ## Generating -/

/-- What a finished run reports. -/
structure GenerationReport where
  fragments : Nat
  warnings : List Warning
  /-- The paths of the written files. -/
  written : List String

namespace Registry

/-- Generates everything and then writes it. -/
def writeGenerated (registry : Registry) (config : Configuration) :
    Update FileTree GenerationReport := do
  let generated ← liftExcept (registry.generate config)
  let files := generated.files config
  FileTree.writeFiles files
  return ⟨generated.fragments.length, generated.warnings, files.map (·.1)⟩

/-- Generates everything and writes it into a tree. -/
def generateInto (registry : Registry) (config : Configuration) (tree : FileTree) :
    FileTree × Except Error GenerationReport :=
  (registry.writeGenerated config).outcome tree

end Registry

namespace Configuration

/-- The configuration with everything that arguments say in its place. -/
def override (config : Configuration) (o : Overrides) : Configuration where
  declarationsDir := o.declarationsDir.getD config.declarationsDir
  outputDir := o.outputDir.getD config.outputDir
  repoRevision := o.repoRevision.getD config.repoRevision
  repoVersion := o.repoVersion.getD config.repoVersion
  testIndustry := o.testIndustry <|> config.testIndustry

end Configuration

namespace Command

/-! ## Printing -/

/-- The line for a rule. -/
def ruleLine {C : Type} [LocationCheck C] (rule : Rule C) : String :=
  "  " ++ Text.padRight 48 rule.entry ++ " " ++ Text.padRight 28 (LocationCheck.name rule.check) ++
    " -> " ++ rule.outcome.text

/-- The lines for a chain. -/
def chainLines {C : Type} [LocationCheck C] (chain : Chain C) : List String :=
  chain.rules.map ruleLine

/-- The lines for the chains of an industry, and the error if one cannot be built. -/
def chainsOf (registry : Registry) (industry : Industry) : List String × Option Error :=
  let heading := "industry " ++ industry.id
  match industry.chain registry.industries.numbers with
  | .error e => ([heading], some e)
  | .ok chain =>
    (heading :: chainLines chain ++
      industry.tileChains.flatMap fun (tile, chain) => ("tile " ++ tile.id) :: chainLines chain,
      none)

/-- The text of a string declaration, or the declaration itself if there is no such string. -/
def resolved (strings : Strings) (declaration : String) : String :=
  (strings.resolve declaration).getD declaration

/-- The line for an economy. -/
def economyLine (strings : Strings) (economy : Economy) : String :=
  "  " ++ Text.padLeft 2 (toString economy.numericId.toNat) ++ " " ++
    Text.padRight 20 economy.id ++ " " ++ resolved strings economy.name

/-- The line for an industry. -/
def industryLine (strings : Strings) (industry : Industry) : String :=
  let name := ((industry.properties.get? .name).bind PropertyValue.asText?).getD ""
  "  " ++ Text.padLeft 3 (toString industry.numericId.toNat) ++ " " ++
    Text.padRight 24 industry.id ++ " " ++ Text.padRight 32 (resolved strings name) ++ " " ++
    ",".intercalate industry.enabledEconomies

/-- The lines for everything in a registry. -/
def listing (registry : Registry) (strings : Strings) : List String :=
  "economies:" :: registry.economies.toList.map (economyLine strings) ++
    "industries:" :: registry.industries.toList.map (industryLine strings)

/-! ## Running -/

/-- The configuration of a run of `generate`. -/
def configuration (tree : FileTree) (config : Option String) (overrides : Overrides) :
    Except Error Configuration := do
  let loaded ←
    match config with
    | some path => tree.loadConfiguration path
    | none => pure {}
  return loaded.override overrides

/-- Loads the configuration and the declarations that it names, and generates and writes everything.
-/
def generateAll (config : Option String) (overrides : Overrides) :
    Update FileTree GenerationReport := do
  let tree ← get
  let config ← liftExcept (configuration tree config overrides)
  let registry ← liftExcept (tree.loadRegistry config.declarationsDir)
  registry.writeGenerated config

/-- The error of something that may have failed. -/
def errorOf {α : Type} : Except Error α → Option Error
  | .ok _ => none
  | .error e => some e

/-- Runs a command. -/
def run (tree : FileTree) : Command → Run
  | .generate config overrides =>
    let (written, report) := (generateAll config overrides).outcome tree
    ⟨written, [], errorOf report⟩
  | .chains declarations industry =>
    match tree.loadRegistry declarations with
    | .error e => ⟨tree, [], some e⟩
    | .ok registry =>
      match registry.industries.lookup industry with
      | .error e => ⟨tree, [], some e⟩
      | .ok industry =>
        let (lines, error) := chainsOf registry industry
        ⟨tree, lines, error⟩
  | .list declarations languages =>
    match tree.loadRegistry declarations with
    | .error e => ⟨tree, [], some e⟩
    | .ok registry =>
      match tree.loadStrings languages with
      | .error e => ⟨tree, [], some e⟩
      | .ok strings => ⟨tree, listing registry strings, none⟩

/-- The paths that a command is given. -/
def givenPaths : Command → List String
  | .generate config overrides =>
    config.toList ++ overrides.declarationsDir.toList ++ overrides.outputDir.toList
  | .chains declarations _ => [declarations]
  | .list declarations languages => declarations :: languages

/-- The paths that a command finds in its configuration. -/
def configuredPaths (tree : FileTree) : Command → List String
  | .generate config overrides =>
    match configuration tree config overrides with
    | .ok config => [config.declarationsDir, config.outputDir]
    | .error _ => []
  | _ => []

end Command

/-! ## Calls -/

/-- What a call leaves behind. -/
structure Call where
  tree : FileTree
  /-- 0 for success, 1 for an error, 2 for arguments that make no sense. -/
  exitCode : UInt8
  output : String
  error : Option Error

/-- The name and version of the program. -/
def versionLine : String := "firs-nml 0.1.0"

/-- What the program says about its use. -/
def usage : String :=
  "Usage: firs-nml generate|chains|list [OPTIONS]\n"

/-- Calls the program with some arguments. -/
def call (tree : FileTree) (arguments : List String) : Call :=
  match Command.ofArguments arguments with
  | .run command =>
    let run := command.run tree
    ⟨run.tree, if run.error.isSome then 1 else 0, Text.unlines run.printed, run.error⟩
  | .version => ⟨tree, 0, Text.unlines [versionLine], none⟩
  | .help => ⟨tree, 0, usage, none⟩
  | .misuse => ⟨tree, 2, "", none⟩

end IndustrySet
