import IndustrySet.Declaration.Ron.Basic
import IndustrySet.Error

set_option autoImplicit false

/-! # Written declarations

Declarations come in two notations. A `Datum` is a tree of objects and lists, which does not know
whether an object is a record or a map; a `Ron` value keeps these apart and has words for
alternatives. Both are read through the views of a `Source`, so that a type says only once how it is
declared. In a declaration file each view also counts how deep it goes. -/

namespace IndustrySet

/-- A value in object notation. -/
inductive Datum
  | null
  | bool (b : Bool)
  | int (n : Int)
  /-- A number that is not an integer. -/
  | real
  | text (s : String)
  | list (items : List Datum)
  | object (fields : List (String × Datum))
  deriving Inhabited

/-- A written value, in one of the notations. In a declaration file it has a depth: the values of
lists, maps, tuples and records lie two levels deeper than these, and what comes with an alternative
or may be missing lies one level deeper. The file may say that a value that may be missing is
written as it is (`Extension.implicitSome`). -/
inductive Source
  | datum (d : Datum)
  | ron (implicitSome : Bool) (depth : Nat) (r : Ron)

namespace Source

/-- The value as a text. -/
def asText : Source → Except Fault String
  | .datum (.text s) => .ok s
  | .ron _ _ (.text s) => .ok s
  | _ => .error .malformed

/-- The value as a truth value. -/
def asBool : Source → Except Fault Bool
  | .datum (.bool b) => .ok b
  | .ron _ _ (.word ⟨"true", false⟩) => .ok true
  | .ron _ _ (.word ⟨"false", false⟩) => .ok false
  | _ => .error .malformed

/-- The value as an integer. Where no sign is expected, none may be written in a declaration file.
-/
def asInt (signed : Bool) : Source → Except Fault Int
  | .datum (.int n) => .ok n
  | .ron _ _ (.int sign magnitude) =>
    if signed || sign.isNone then .ok (Sign.apply sign magnitude) else .error .malformed
  | _ => .error .malformed

/-- A value with what is around it. -/
structure Enclosed where
  source : Source
  /-- Nothing else stands in the parentheses around the value. -/
  alone : Bool

/-- The first of the values in parentheses, which should be the only one. -/
def enclosed (implicitSome : Bool) (depth : Nat) :
    List (Ron × Option Ron) → Except Fault Enclosed
  | (r, label) :: rest => .ok ⟨.ron implicitSome depth r, label.isNone && rest.isEmpty⟩
  | [] => .error .malformed

/-- The value as one that may be missing. In a declaration file it says whether it is, unless this
is left to the value itself. -/
def asOption : Source → Except Fault (Option Enclosed)
  | .datum .null => .ok none
  | .datum d => .ok (some ⟨.datum d, true⟩)
  | .ron _ _ (.word ⟨"None", false⟩) => .ok none
  | .ron implicitSome depth (.group (some ⟨⟨"Some", false⟩, _⟩) elements) =>
    some <$> enclosed implicitSome (depth + 1) elements
  | .ron implicitSome depth r =>
    if implicitSome then .ok (some ⟨.ron implicitSome (depth + 1) r, true⟩) else .error .malformed

/-- The value as a list. -/
def asList : Source → Except Fault (List Source)
  | .datum (.list items) => .ok (items.map .datum)
  | .ron implicitSome depth (.list items) => .ok (items.map (.ron implicitSome (depth + 2)))
  | _ => .error .malformed

/-- May a tuple of this name, if it has one, have this heading? -/
def headsTuple (name : Option String) (heading : Option Heading) : Bool :=
  match heading with
  | some written => written.touching && name = some written.word.name
  | none => true

/-- The value as a tuple. Right before it a declaration file may write the given name. -/
def asTuple (name : Option String) : Source → Except Fault (List Source)
  | .datum (.list items) => .ok (items.map .datum)
  | .ron implicitSome depth (.group heading elements) =>
    if headsTuple name heading && Ron.areUnlabelled elements then
      .ok (elements.map fun element => .ron implicitSome (depth + 2) element.1)
    else .error .malformed
  | _ => .error .malformed

/-- The value as a map. -/
def asMap : Source → Except Fault (List (Source × Source))
  | .datum (.object fields) => .ok (fields.map fun (key, d) => (.datum (.text key), .datum d))
  | .ron implicitSome depth (.map entries) =>
    .ok (entries.map fun (key, r) =>
      (.ron implicitSome (depth + 2) key, .ron implicitSome (depth + 2) r))
  | _ => .error .malformed

/-- May a record of this name have this heading? -/
def headsRecord (name : String) (heading : Option Heading) : Bool :=
  match heading with
  | some written => written.word.name = name
  | none => true

/-- An entry of a record: the name of the field, if there is one, and its value. -/
abbrev Entry := Option String × Source

/-- The entry that an element of parentheses is. A name is read before it is known whether a colon
and a value follow. -/
def entry (implicitSome : Bool) (depth : Nat) : Ron × Option Ron → Entry
  | (.word w, r) => (some w.name, .ron implicitSome depth (r.getD .broken))
  | (.group (some heading) _, _) => (some heading.word.name, .ron implicitSome depth .broken)
  | _ => (none, .ron implicitSome depth .broken)

/-- The value as a record: its fields, and whether they are told apart by their order only; those
beyond the last name have none. Before a record a declaration file may write its name. -/
def asRecord (name : String) (fieldNames : List String) :
    Source → Except Fault (Bool × List Entry)
  | .datum (.object fields) => .ok (false, fields.map fun (field, d) => (some field, .datum d))
  | .datum (.list items) =>
    .ok (true, (fieldNames.map some ++ items.map fun _ => none).zip (items.map .datum))
  | .ron _ _ .unit => .ok (false, [])
  | .ron implicitSome depth (.group heading elements) =>
    if headsRecord name heading then .ok (false, elements.map (entry implicitSome (depth + 2)))
    else .error .malformed
  | _ => .error .malformed

/-- The value as an alternative: its name and what comes with it. -/
def asVariant : Source → Except Fault (String × Option Source)
  | .datum (.text name) => .ok (name, none)
  | .datum (.object [(name, d)]) => .ok (name, some (.datum d))
  | .ron _ _ (.word w) => .ok (w.name, none)
  | .ron implicitSome depth (.group (some heading) elements) =>
    .ok (heading.word.name, some (.ron implicitSome (depth + 1) (.group none elements)))
  | _ => .error .malformed

/-- What comes with an alternative of one value. -/
def single : Option Source → Except Fault Enclosed
  | some (.datum d) => .ok ⟨.datum d, true⟩
  | some (.ron implicitSome depth (.group none elements)) =>
    enclosed implicitSome (depth + 1) elements
  | _ => .error .malformed

/-- Nothing comes with an alternative without values. -/
def nothing : Option Source → Except Fault Unit
  | none => .ok ()
  | some (.datum .null) => .ok ()
  | _ => .error .malformed

/-- What comes with an alternative that is a record of named values. -/
def named : Option Source → Except Fault Source
  | some (.datum (.object fields)) => .ok (.datum (.object fields))
  | some (.ron implicitSome depth r) => .ok (.ron implicitSome depth r)
  | _ => .error .malformed

/-- The value where nothing takes it. In object notation it may be any. -/
def ignore : Source → Except Fault Unit
  | .datum _ => .ok ()
  | .ron _ depth r => if r.isReadableAt depth then .ok () else .error .malformed

end Source

end IndustrySet
