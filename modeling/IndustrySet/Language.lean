import IndustrySet.Dictionary
import IndustrySet.Text.Blank
import IndustrySet.Text.Lines

set_option autoImplicit false

/-! # Language files

A language file has a line `id :text` for each string. Lines without a colon are passed over, and of
two lines with one id the later counts. -/

namespace IndustrySet

/-- What a string declaration starts with. -/
def stringOpening : String := "string("

/-- The bare identifier in a string declaration: what follows the first `string(`, less one closing
parenthesis at the end. A declaration without `string(` is left as it is. -/
def unwrapString (declaration : String) : String :=
  match Text.afterFirst? stringOpening.toList declaration.toList with
  | some inner =>
    String.ofList (if inner.getLast? = some ')' then inner.dropLast else inner)
  | none => declaration

/-- The strings of language files, by identifier. -/
structure Strings where
  entries : Dictionary String
  deriving DecidableEq

namespace Strings

/-- No strings. -/
def empty : Strings := ⟨.empty⟩

/-- The string on a line, if there is one. -/
def stringOn? (line : List Char) : Option (String × String) :=
  (Text.splitAtChar ':' line).map fun (id, text) =>
    (String.ofList (Text.trimChars id), String.ofList (Text.trimChars text))

/-- The strings of a language file. -/
def parse (text : String) : Strings :=
  ⟨.ofList ((Text.linesOfChars text.toList).filterMap stringOn?)⟩

/-- The strings of both; where both have an identifier, the second counts. -/
def merge (strings other : Strings) : Strings :=
  ⟨strings.entries.merge other.entries⟩

/-- The string with an identifier. -/
def get? (strings : Strings) (id : String) : Option String :=
  strings.entries.get? id

/-- The string that a string declaration refers to. -/
def resolve (strings : Strings) (declaration : String) : Option String :=
  strings.get? (unwrapString declaration)

/-- The number of strings. -/
def size (strings : Strings) : Nat :=
  strings.entries.size

end Strings

end IndustrySet
