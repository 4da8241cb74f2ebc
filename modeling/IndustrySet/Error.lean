set_option autoImplicit false

/-! # Errors

Everything that can stop a run, as causes. What a user reads is made of them in one place, by the
`message` functions. Mistakes that still give usable output are warnings instead
(`IndustrySet.Warning`). -/

namespace IndustrySet

/-- What a well-formed declaration may still not say. -/
inductive Refusal
  /-- A tile sets land shape flags and also uses location checks, which make the game ignore the
  flags. -/
  | landShapeFlagsIgnored (tile : String)
  /-- The animation of a tile has a length that the game does not support. -/
  | animationLength (tile : String) (length : UInt16)
  /-- There is no edge of a tile of this name. -/
  | unknownFenceSide (side : String)
  deriving DecidableEq, Repr

/-- The text of a refusal. -/
def Refusal.message : Refusal → String
  | .landShapeFlagsIgnored tile =>
    "tile `" ++ tile ++ "`: land_shape_flags are set but will be ignored because the tile also " ++
      "uses location checks; only set one of these attributes"
  | .animationLength tile length =>
    "tile `" ++ tile ++ "`: animation length " ++ toString length.toNat ++ " is outside 1..=253"
  | .unknownFenceSide side => "`" ++ side ++ "` is not a fence side, expected one of ne, se, sw, nw"

/-- Why a written declaration does not denote a value of its type. -/
inductive Fault
  /-- A record has no field of this name. -/
  | unknownField (name : String)
  /-- There is no alternative, or no property, of this name. -/
  | unknownVariant (name : String)
  /-- A field without default is not given. -/
  | missingField (name : String)
  /-- A field is given twice. -/
  | duplicateField (name : String)
  /-- The value has the right form but is refused. -/
  | refused (cause : Refusal)
  /-- The value has the wrong form, or the text is not in the notation. -/
  | malformed
  deriving DecidableEq, Repr

/-- The text of a fault; a malformed declaration has none. -/
def Fault.message? : Fault → Option String
  | .unknownField name => some ("unknown field `" ++ name ++ "`")
  | .unknownVariant name => some ("unknown variant `" ++ name ++ "`")
  | .missingField name => some ("missing field `" ++ name ++ "`")
  | .duplicateField name => some ("duplicate field `" ++ name ++ "`")
  | .refused cause => some cause.message
  | .malformed => none

/-- Why a file or directory cannot be used. -/
inductive FileFault
  /-- Nothing is there. -/
  | notFound
  /-- A file lies where a directory is needed. -/
  | notDirectory
  /-- A directory lies where a file is needed. -/
  | isDirectory
  /-- Something lies where a directory is to be made. -/
  | alreadyExists
  /-- The bytes of the file are not a text. -/
  | notText
  deriving DecidableEq, Repr

/-- The reason as the system words it. -/
def FileFault.message : FileFault → String
  | .notFound => "No such file or directory (os error 2)"
  | .notDirectory => "Not a directory (os error 20)"
  | .isDirectory => "Is a directory (os error 21)"
  | .alreadyExists => "File exists (os error 17)"
  | .notText => "stream did not contain valid UTF-8"

/-- What must not be registered twice. -/
inductive Registered
  | cargo
  | cargoLabel
  | cargoNumericId
  | economy
  | economyNumericId
  | industry
  | industryNumericId
  deriving DecidableEq, Repr

/-- The words for what was registered twice. -/
def Registered.description : Registered → String
  | .cargo => "cargo"
  | .cargoLabel => "cargo label"
  | .cargoNumericId => "cargo numeric id"
  | .economy => "economy"
  | .economyNumericId => "economy numeric id"
  | .industry => "industry"
  | .industryNumericId => "industry numeric id"

/-- What stops a run. -/
inductive Error
  /-- No industry with this id is registered. -/
  | unknownIndustry (id : String)
  /-- No economy with this id is registered. -/
  | unknownEconomy (id : String)
  /-- No cargo with this id is registered. -/
  | unknownCargo (id : String)
  /-- An industry refers to a spriteset it does not have. -/
  | unknownSpriteset (industry spriteset : String)
  /-- An industry refers to a sprite past the end of its list. -/
  | unknownSprite (industry : String) (index : UInt64)
  /-- Something with this id is registered already. -/
  | duplicate (what : Registered) (id : String)
  /-- A declaration is refused. -/
  | refused (cause : Refusal)
  /-- A declaration file cannot be read as what it should declare. -/
  | declaration (path : String) (fault : Fault)
  /-- A file or directory cannot be used. -/
  | file (path : String) (fault : FileFault)
  deriving DecidableEq, Repr

/-- The text of an error. -/
def Error.message : Error → String
  | .unknownIndustry id => "industry `" ++ id ++ "` is not registered"
  | .unknownEconomy id => "economy `" ++ id ++ "` is not registered"
  | .unknownCargo id => "cargo `" ++ id ++ "` is not registered"
  | .unknownSpriteset industry spriteset =>
    "industry `" ++ industry ++ "` has no spriteset `" ++ spriteset ++ "`"
  | .unknownSprite industry index =>
    "industry `" ++ industry ++ "` has no sprite at index " ++ toString index.toNat
  | .duplicate what id => what.description ++ " `" ++ id ++ "` is already registered"
  | .refused cause => cause.message
  | .declaration path _ => "failed to parse " ++ path
  | .file path fault => "i/o error on " ++ path ++ ": " ++ fault.message

end IndustrySet
