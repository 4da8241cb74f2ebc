set_option autoImplicit false

/-! # Values of declaration files

What the text of a declaration file denotes before any type is known. A type says how its values are
read; a value that nothing takes is read without one, and then its words have a meaning of their own
and it must not be nested too deep (`Ron.isReadableAt`).

A text that stops being in the notation still has a value, whose last part is `Ron.broken`. Whoever
reads it in order meets the faults before that place first. -/

namespace IndustrySet

/-- The sign written before a number. -/
inductive Sign
  | plus
  | minus
  deriving DecidableEq, Repr

/-- The value of a sign and a magnitude. -/
def Sign.apply (sign : Option Sign) (magnitude : Nat) : Int :=
  if sign = some .minus then -(magnitude : Int) else magnitude

/-- A bare identifier. Written after a mark it is only a name, also where it is spelled like a word
of the notation, such as `true`. -/
structure Word where
  name : String
  marked : Bool
  deriving DecidableEq, Repr

/-- A word before parentheses. -/
structure Heading where
  word : Word
  /-- Nothing, not even a blank, stands between the word and the parentheses. -/
  touching : Bool
  deriving DecidableEq, Repr

/-- A value of a declaration file. -/
inductive Ron
  | int (sign : Option Sign) (magnitude : Nat)
  /-- A number that is not an integer. -/
  | real
  | char (c : Char)
  | text (s : String)
  | word (w : Word)
  | list (items : List Ron)
  | map (entries : List (Ron × Ron))
  /-- Two parentheses without a word before them and without even a blank between them. -/
  | unit
  /-- Values in parentheses, after a word or not. With a colon behind it, a value is the label of
  another one. -/
  | group (heading : Option Heading) (elements : List (Ron × Option Ron))
  /-- What stands here is not in the notation. -/
  | broken

/-- What an attribute at the beginning of a declaration file enables. Only the first makes a
difference: no type of a declaration is one that the others are about. -/
inductive Extension
  /-- A value that may be missing is written without a word before it. -/
  | implicitSome
  /-- A type that is only a name for another one is written like that one. -/
  | unwrapNewtypes
  /-- A record that comes with an alternative has no parentheses of its own. -/
  | unwrapVariantNewtypes
  deriving DecidableEq, Repr

/-- The extension of a name. -/
def Extension.ofName? : String → Option Extension
  | "implicit_some" => some .implicitSome
  | "unwrap_newtypes" => some .unwrapNewtypes
  | "unwrap_variant_newtypes" => some .unwrapVariantNewtypes
  | _ => none

namespace Ron

/-! ## Elements of parentheses -/

/-- Has none of the elements a label? -/
def areUnlabelled (elements : List (Ron × Option Ron)) : Bool :=
  elements.all (·.2.isNone)

/-- Is the element labelled with a word? -/
def isNamed : Ron × Option Ron → Bool
  | (.word _, some _) => true
  | _ => false

/-! ## Reading without a type -/

/-- The words of the notation that are values and stand alone. -/
def valueWords : List String := ["true", "false", "None", "inf", "NaN"]

/-- Can the word stand before parentheses with these elements? The words that are values cannot, and
`Some` can where there is a single element, without label. -/
def mayHead (elements : List (Ron × Option Ron)) (w : Word) : Bool :=
  w.marked ||
    (if w.name = "Some" then elements.length = 1 && areUnlabelled elements
    else w.name ∉ valueWords)

/-- Can the value be read without a type, whatever the values inside of it are? The elements of
parentheses are all labelled with words, or none is labelled. -/
def isSelfDescribing : Ron → Bool
  | .word w => w ≠ ⟨"Some", false⟩
  | .group heading elements =>
    (areUnlabelled elements || elements.all isNamed) &&
      heading.all (fun written => mayHead elements written.word)
  | .broken => false
  | _ => true

/-- Does the value have brackets, other than those that are a value by themselves? -/
def isBracketed : Ron → Bool
  | .list _ | .map _ | .group _ _ => true
  | _ => false

mutual

/-- The value and all values inside of it, with their depths. Brackets count once, and once more
for each value in them; only a value that may be missing counts once in all. -/
def parts (depth : Nat) : Ron → List (Nat × Ron)
  | .list items => (depth, .list items) :: partsOfItems (depth + 2) items
  | .map entries => (depth, .map entries) :: partsOfEntries (depth + 2) entries
  | .group heading elements =>
    (depth, .group heading elements) ::
      partsOfElements
        (if heading.map (·.word) = some ⟨"Some", false⟩ then depth + 1 else depth + 2) elements
  | r => [(depth, r)]

@[inherit_doc parts]
def partsOfItems (depth : Nat) : List Ron → List (Nat × Ron)
  | [] => []
  | r :: rest => parts depth r ++ partsOfItems depth rest

@[inherit_doc parts]
def partsOfEntries (depth : Nat) : List (Ron × Ron) → List (Nat × Ron)
  | [] => []
  | (key, r) :: rest => parts depth key ++ parts depth r ++ partsOfEntries depth rest

/-- The parts of elements of parentheses, to which labels do not belong. -/
def partsOfElements (depth : Nat) : List (Ron × Option Ron) → List (Nat × Ron)
  | [] => []
  | (r, none) :: rest => parts depth r ++ partsOfElements depth rest
  | (_, some r) :: rest => parts depth r ++ partsOfElements depth rest

end

/-- How deep values may be nested. -/
def depthLimit : Nat := 128

/-- Can the value be read without a type, when it is found at this depth? -/
def isReadableAt (depth : Nat) (r : Ron) : Bool :=
  (r.parts depth).all fun (depth, part) =>
    part.isSelfDescribing && (if part.isBracketed then depth + 1 else depth) ≤ depthLimit

end Ron

end IndustrySet
