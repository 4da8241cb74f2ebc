set_option autoImplicit false

/-! # Lines of a text

A line ends at a line feed, or at a carriage return directly followed by one. A text that ends in a
line feed has no further empty line after it, and a carriage return that no line feed follows
belongs to its line. -/

namespace IndustrySet.Text

/-- The lines of a text, without their line ends. -/
def linesOfChars : List Char → List (List Char)
  | [] => []
  | '\n' :: rest => [] :: linesOfChars rest
  | '\r' :: '\n' :: rest => [] :: linesOfChars rest
  | c :: rest =>
    match linesOfChars rest with
    | [] => [[c]]
    | line :: lines => (c :: line) :: lines

/-- The lines of a text, without their line ends. -/
def lines (text : String) : List String :=
  (linesOfChars text.toList).map String.ofList

/-- Every text followed by a line feed. -/
def unlines (lines : List String) : String :=
  String.join (lines.map (· ++ "\n"))

/-- The text before and after the first occurrence of a character, or nothing if it does not occur.
-/
def splitAtChar (mark : Char) : List Char → Option (List Char × List Char)
  | [] => none
  | c :: rest =>
    if c = mark then some ([], rest)
    else (splitAtChar mark rest).map fun (before, after) => (c :: before, after)

/-- What follows the first occurrence of `mark` in a text, or nothing if it does not occur. -/
def afterFirst? (mark : List Char) : List Char → Option (List Char)
  | [] => if mark = [] then some [] else none
  | c :: rest =>
    if mark.isPrefixOf (c :: rest) then some ((c :: rest).drop mark.length)
    else afterFirst? mark rest

end IndustrySet.Text
