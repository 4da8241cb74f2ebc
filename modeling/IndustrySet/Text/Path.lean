set_option autoImplicit false

/-! # Paths

A path is a text whose pieces are separated by slashes. Empty pieces and pieces `.` name nothing of
their own, except a `.` at the very front. Paths keep the spelling they were given; only what is cut
off at the end is cut off whole. -/

namespace IndustrySet.Path

/-- The pieces between the slashes; there is always at least one. -/
def piecesOfChars : List Char → List (List Char)
  | [] => [[]]
  | '/' :: rest => [] :: piecesOfChars rest
  | c :: rest =>
    match piecesOfChars rest with
    | [] => [[c]]
    | piece :: pieces => (c :: piece) :: pieces

/-- The pieces between the slashes of a path. -/
def pieces (path : String) : List String :=
  (piecesOfChars path.toList).map String.ofList

/-- Does the path start at the root of the file system? -/
def isAbsolute (path : String) : Bool :=
  path.toList.head? == some '/'

/-- A path below another one. An absolute second path stands for itself. -/
def join (base rest : String) : String :=
  if isAbsolute rest || base.isEmpty then rest
  else if base.toList.getLast? == some '/' then base ++ rest
  else base ++ "/" ++ rest

/-- Does the last of these pieces (given last first) name something? -/
def namesSomething (piece : String) (before : List String) : Bool :=
  piece ≠ "" && (piece ≠ "." || before.isEmpty)

/-- From pieces given last first, the paths that end in one of the pieces that name something. -/
def ancestorsOfPieces : List String → List String
  | [] => []
  | piece :: before =>
    if namesSomething piece before then
      "/".intercalate (piece :: before).reverse :: ancestorsOfPieces before
    else ancestorsOfPieces before

/-- The path and what it lies in, from the inside out, as far as these have names. -/
def ancestors (path : String) : List String :=
  ancestorsOfPieces (pieces path).reverse

/-- What the path lies in; nothing for the empty path and the root. -/
def parent? (path : String) : Option String :=
  match ancestors path with
  | [] => none
  | [_] => some (if isAbsolute path then "/" else "")
  | _ :: parent :: _ => some parent

/-- The part of a file name after its last dot, if something stands before that dot. -/
def extension? (name : String) : Option String :=
  let chars := name.toList.reverse
  match chars.dropWhile (· ≠ '.') with
  | _ :: _ :: _ =>
    if name = ".." then none else some (String.ofList (chars.takeWhile (· ≠ '.')).reverse)
  | _ => none

end IndustrySet.Path
