import IndustrySet.Text.CaseTable

set_option autoImplicit false

/-! # Lower case

The full lower-case mapping of Unicode, without a language of its own. Every character goes to its
lower-case partner, with two exceptions: a capital I with a dot above becomes two characters, and a
capital sigma at the end of a word becomes the final form. -/

namespace IndustrySet.Text

/-- Does a code point lie in one of the ranges? -/
def inRanges (ranges : List (Nat × Nat)) (c : Char) : Bool :=
  ranges.any fun (first, last) => first ≤ c.toNat && c.toNat ≤ last

/-- The lower-case partner of a character, or the character itself. -/
def lowerChar (c : Char) : Char :=
  match lowerRuns.find? fun (first, last, step, _) =>
      first ≤ c.toNat && c.toNat ≤ last && (c.toNat - first) % step == 0 with
  | some (_, _, _, distance) => Char.ofNat (c.toNat + distance).toNat
  | none => c

/-- Is the first character that is not passed over one with case? -/
def meetsCased (chars : List Char) : Bool :=
  match chars.dropWhile (inRanges caseIgnorableRanges) with
  | [] => false
  | c :: _ => inRanges casedRanges c

/-- The lower-case form of a text whose part to the left, last character first, is `before`. -/
def lowerCharsAfter (before : List Char) : List Char → List Char
  | [] => []
  | c :: rest =>
    let lowered :=
      if c = 'Σ' then
        if meetsCased before && !meetsCased rest then ['ς'] else ['σ']
      else if c = 'İ' then ['i', Char.ofNat 0x307]
      else [lowerChar c]
    lowered ++ lowerCharsAfter (c :: before) rest

/-- The lower-case form of a text. -/
def lowercase (text : String) : String :=
  String.ofList (lowerCharsAfter [] text.toList)

end IndustrySet.Text
