set_option autoImplicit false

/-! # Columns

Texts filled up with spaces to the width of a column. Width counts characters; a text that is
already as wide as its column is left as it is. -/

namespace IndustrySet.Text

/-- As many spaces as a text lacks to a width. -/
def filling (width : Nat) (text : String) : String :=
  String.ofList (List.replicate (width - text.length) ' ')

/-- A text at the left of its column. -/
def padRight (width : Nat) (text : String) : String :=
  text ++ filling width text

/-- A text at the right of its column. -/
def padLeft (width : Nat) (text : String) : String :=
  filling width text ++ text

end IndustrySet.Text
