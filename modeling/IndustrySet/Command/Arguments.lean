set_option autoImplicit false

/-! # Command line arguments

A command is followed by options, each of which has a value. The value stands behind an equals sign,
directly behind a short name, or in the next argument, which then must not look like an option
itself. Paths must not be empty. -/

namespace IndustrySet

/-- What arguments say in place of a configuration. -/
structure Overrides where
  declarationsDir : Option String
  outputDir : Option String
  repoRevision : Option String
  repoVersion : Option String
  testIndustry : Option String
  deriving DecidableEq, Repr

/-- What the user wants done. -/
inductive Command
  /-- Write the NML of every declared cargo and industry. There may be a file with the
  configuration. -/
  | generate (config : Option String) (overrides : Overrides)
  /-- Print the location chains of one industry. -/
  | chains (declarations industry : String)
  /-- Print the declared economies and industries. -/
  | list (declarations : String) (languages : List String)
  deriving DecidableEq, Repr

/-- What the arguments ask for. -/
inductive Request
  | run (command : Command)
  | version
  | help
  /-- The arguments make no sense. -/
  | misuse
  deriving DecidableEq, Repr

namespace Command

/-- An option of a command. -/
structure Opt where
  long : String
  short : Option Char
  isPath : Bool
  mayRepeat : Bool
  deriving DecidableEq, Repr

/-- A path that can be given once. -/
def Opt.path (long : String) (short : Char) : Opt := ⟨long, some short, true, false⟩

/-- A text that can be given once. -/
def Opt.text (long : String) (short : Option Char) : Opt := ⟨long, short, false, false⟩

/-- The options of `generate`. -/
def generateOptions : List Opt :=
  [.path "config" 'c', .path "declarations" 'd', .path "output" 'o', .text "industry" (some 'i'),
   .text "repo-revision" none, .text "repo-version" none]

/-- The options of `chains`. -/
def chainsOptions : List Opt := [.path "declarations" 'd', .text "industry" (some 'i')]

/-- The options of `list`. -/
def listOptions : List Opt := [.path "declarations" 'd', ⟨"lang", some 'l', true, true⟩]

/-- The directory with the declarations, where none is given. -/
def defaultDeclarations : String := "data"

/-- How an argument begins an option. -/
inductive Opening
  /-- An option with the value behind it. -/
  | complete (o : Opt) (value : String)
  /-- An option whose value is the next argument. -/
  | pending (o : Opt)
  | help
  | misuse
  deriving DecidableEq, Repr

/-- The part of a text before its first equals sign, and the part behind it if there is one. -/
def splitValue (argument : List Char) : List Char × Option (List Char) :=
  (argument.takeWhile (· ≠ '='),
    match argument.dropWhile (· ≠ '=') with
    | _ :: value => some value
    | [] => none)

/-- An option that begins with its long name. -/
def openLong (options : List Opt) (argument : List Char) : Opening :=
  let (name, value) := splitValue argument
  match options.find? (·.long = String.ofList name), value with
  | some o, some value => .complete o (String.ofList value)
  | some o, none => .pending o
  | none, none => if name = "help".toList then .help else .misuse
  | none, some _ => .misuse

/-- An option that begins with its short name. -/
def openShort (options : List Opt) (name : Char) (rest : List Char) : Opening :=
  match options.find? (·.short = some name), rest with
  | some o, [] => .pending o
  | some o, '=' :: value => .complete o (String.ofList value)
  | some o, value => .complete o (String.ofList value)
  | none, _ => if name = 'h' then .help else .misuse

/-- What an argument begins. -/
def openOption (options : List Opt) (argument : String) : Opening :=
  match argument.toList with
  | '-' :: '-' :: rest => openLong options rest
  | '-' :: name :: rest => openShort options name rest
  | _ => .misuse

/-- Does the argument look like an option? A single hyphen does not. -/
def looksLikeOption (argument : String) : Bool :=
  match argument.toList with
  | '-' :: _ :: _ => true
  | _ => false

/-- The options given so far with their values, and one more. -/
def accept (given : List (Opt × String)) (o : Opt) (value : String) :
    Option (List (Opt × String)) :=
  if o.isPath && value.isEmpty then none
  else if !o.mayRepeat && given.any (·.1 = o) then none
  else some (given ++ [(o, value)])

/-- What options with their values ask for. -/
inductive Given
  | options (given : List (Opt × String))
  | help
  | misuse
  deriving DecidableEq, Repr

/-- Reads options with their values. Nothing may stand behind `--`. -/
def readOptions (options : List Opt) (given : List (Opt × String)) : List String → Given
  | [] => .options given
  | ["--"] => .options given
  | argument :: rest =>
    match openOption options argument, rest with
    | .complete o value, rest =>
      match accept given o value with
      | some given => readOptions options given rest
      | none => .misuse
    | .pending o, value :: rest =>
      if looksLikeOption value then .misuse
      else
        match accept given o value with
        | some given => readOptions options given rest
        | none => .misuse
    | .pending _, [] => .misuse
    | .help, _ => .help
    | .misuse, _ => .misuse

/-- The values given for an option. -/
def valuesOf (given : List (Opt × String)) (long : String) : List String :=
  (given.filter (·.1.long = long)).map (·.2)

/-- The value given for an option. -/
def value? (given : List (Opt × String)) (long : String) : Option String :=
  (valuesOf given long).head?

/-- Reads the arguments behind the name of a command. -/
def request (options : List Opt) (make : List (Opt × String) → Option Command)
    (arguments : List String) : Request :=
  match readOptions options [] arguments with
  | .options given =>
    match make given with
    | some command => .run command
    | none => .misuse
  | .help => .help
  | .misuse => .misuse

/-- The command `generate` with these options. -/
def makeGenerate (given : List (Opt × String)) : Option Command :=
  some (.generate (value? given "config")
    { declarationsDir := value? given "declarations"
      outputDir := value? given "output"
      repoRevision := value? given "repo-revision"
      repoVersion := value? given "repo-version"
      testIndustry := value? given "industry" })

/-- The command `chains` with these options, among which must be the industry. -/
def makeChains (given : List (Opt × String)) : Option Command :=
  (value? given "industry").map
    (.chains ((value? given "declarations").getD defaultDeclarations))

/-- The command `list` with these options. -/
def makeList (given : List (Opt × String)) : Option Command :=
  some (.list ((value? given "declarations").getD defaultDeclarations) (valuesOf given "lang"))

/-- The names of the commands, and that of the help about them. -/
def names : List String := ["generate", "chains", "list", "help"]

/-- Reads the arguments of a call. -/
def ofArguments : List String → Request
  | [] => .misuse
  | "generate" :: rest => request generateOptions makeGenerate rest
  | "chains" :: rest => request chainsOptions makeChains rest
  | "list" :: rest => request listOptions makeList rest
  | ["help"] => .help
  | ["help", name] => if names.contains name then .help else .misuse
  | "--version" :: _ => .version
  | "--help" :: _ => .help
  | argument :: _ =>
    match argument.toList with
    | '-' :: 'V' :: _ => .version
    | '-' :: 'h' :: _ => .help
    | _ => .misuse

end Command

end IndustrySet
