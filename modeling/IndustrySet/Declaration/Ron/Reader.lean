import IndustrySet.Declaration.Codec
import IndustrySet.Declaration.Ron.Token

set_option autoImplicit false

/-! # Reading declaration files

The tokens of a declaration file are put together in one pass. Brackets that are still open wait on
a stack with what has been read inside them. Elements are separated by commas, of which one may
follow the last element.

Before the value there may be attributes that enable extensions of the notation. They are read first
of all, and where one of them is at fault, there is no value.

Where the text stops being in the notation nothing more is read, and all open brackets end there
with `Ron.broken`. A codec that reads the value in order therefore meets the first fault first,
whether it is one of the text or of what the text says. -/

namespace IndustrySet

namespace Ron

/-- Open brackets, with what was read inside them, last first. -/
inductive Frame
  | list (items : List Ron)
  /-- In parentheses, elements may have labels; that of the next one has perhaps been read. -/
  | group (heading : Option Heading) (elements : List (Ron × Option Ron)) (label : Option Ron)
  /-- In a map, values have keys; that of the next one has perhaps been read. -/
  | map (entries : List (Ron × Ron)) (key : Option Ron)

namespace Frame

/-- The kind of the brackets. -/
def bracket : Frame → Bracket
  | .list _ => .square
  | .group _ _ _ => .paren
  | .map _ _ => .curly

/-- The frame with one more value. In a map, one without key is a key without value. -/
def add (frame : Frame) (r : Ron) : Frame :=
  match frame with
  | .list items => .list (r :: items)
  | .group heading elements none => .group heading ((r, none) :: elements) none
  | .group heading elements (some label) => .group heading ((label, some r) :: elements) none
  | .map entries none => .map ((r, .broken) :: entries) none
  | .map entries (some key) => .map ((key, r) :: entries) none

/-- The frame with the value that was read last, if nothing has been done with it yet. -/
def addLast (frame : Frame) (last : Option Ron) : Frame :=
  match last with
  | none => frame
  | some r => frame.add r

/-- The frame after a colon behind this value. -/
def label? (frame : Frame) (r : Ron) : Option Frame :=
  match frame with
  | .group heading elements none => some (.group heading elements (some r))
  | .map entries none => some (.map entries (some r))
  | _ => none

/-- Is the value behind a colon still to come? -/
def isLabelled : Frame → Bool
  | .group _ _ (some _) | .map _ (some _) => true
  | _ => false

/-- The value of a frame that ends here. -/
def value : Frame → Ron
  | .list items => .list items.reverse
  | .group heading elements _ => .group heading elements.reverse
  | .map entries _ => .map entries.reverse

/-- The value of a frame where the text stops being in the notation. -/
def cut (frame : Frame) (last : Option Ron) : Ron :=
  ((frame.addLast last).add .broken).value

end Frame

/-- What was read so far: the open brackets, innermost first, the value that nothing has been done
with yet, and whether all of it is in the notation. -/
structure Reading where
  frames : List Frame
  last : Option Ron
  whole : Bool

namespace Reading

/-- A value, where one may stand. -/
def value? (reading : Reading) (r : Ron) : Option Reading :=
  match reading.last with
  | none => some { reading with last := some r }
  | some _ => none

/-- An opening bracket. A word before a parenthesis belongs to it. -/
def opening? (reading : Reading) (b : Bracket) (touching : Bool) : Option Reading :=
  let inside (frame : Frame) : Reading :=
    { reading with frames := frame :: reading.frames, last := none }
  match b, reading.last with
  | .paren, some (.word w) => some (inside (.group (some ⟨w, touching⟩) [] none))
  | .paren, none => some (inside (.group none [] none))
  | .square, none => some (inside (.list []))
  | .curly, none => some (inside (.map [] none))
  | _, some _ => none

/-- A closing bracket. -/
def closing? (reading : Reading) (b : Bracket) (touching : Bool) : Option Reading :=
  match reading.frames, reading.last, b, touching with
  | [], _, _, _ => none
  | .group none [] none :: outer, none, .paren, true =>
    some { reading with frames := outer, last := some .unit }
  | frame :: outer, last, b, _ =>
    let full := frame.addLast last
    if full.bracket = b ∧ !full.isLabelled then
      some { reading with frames := outer, last := some full.value }
    else none

/-- What is read with the next token, unless the text stops being in the notation with it. -/
def advance? (reading : Reading) (token : Token) : Option Reading :=
  match token with
  | .opening b touching => reading.opening? b touching
  | .closing b touching => reading.closing? b touching
  | .comma =>
    match reading.frames, reading.last with
    | frame :: outer, some last =>
      some { reading with frames := frame.add last :: outer, last := none }
    | _, _ => none
  | .colon =>
    match reading.frames, reading.last with
    | frame :: outer, some last =>
      (frame.label? last).map fun labelled =>
        { reading with frames := labelled :: outer, last := none }
    | _, _ => none
  | .word w => reading.value? (.word w)
  | .text s => reading.value? (.text s)
  | .char c => reading.value? (.char c)
  | .int sign magnitude => reading.value? (.int sign magnitude)
  | .real => reading.value? .real
  | .hash | .bang | .broken => none

/-- The next token. Once the text has stopped being in the notation, nothing more is read. -/
def step (reading : Reading) (token : Token) : Reading :=
  if reading.whole then (reading.advance? token).getD { reading with whole := false } else reading

end Reading

/-- The value of what was read when nothing more comes: open brackets end here, from the inside out.
-/
def cut : List Frame → Option Ron → Ron
  | [], last => last.getD .broken
  | frame :: outer, last => cut outer (some (frame.cut last))

/-! ## Attributes -/

/-- Where in the attributes the reader is. -/
inductive Prologue
  /-- Before an attribute, or before the value. -/
  | start
  | hash
  | bang
  | square
  | enable
  /-- Before the first of the names. -/
  | names
  | named
  /-- After a comma, behind which there may be one more name. -/
  | comma
  | closed

/-- The extensions that attributes enable, those before included, and the tokens that come after the
attributes; nothing if an attribute is at fault. -/
def extensions? : Prologue → List Extension → List Token → Option (List Extension × List Token)
  | .start, before, .hash :: rest => extensions? .hash before rest
  | .start, before, tokens => some (before, tokens)
  | .hash, before, .bang :: rest => extensions? .bang before rest
  | .bang, before, .opening .square _ :: rest => extensions? .square before rest
  | .square, before, .word ⟨"enable", false⟩ :: rest => extensions? .enable before rest
  | .enable, before, .opening .paren _ :: rest => extensions? .names before rest
  | .names, before, .word w :: rest | .comma, before, .word w :: rest =>
    match Extension.ofName? w.name with
    | some extension => extensions? .named (extension :: before) rest
    | none => none
  | .named, before, .comma :: rest => extensions? .comma before rest
  | .named, before, .closing .paren _ :: rest | .comma, before, .closing .paren _ :: rest =>
    extensions? .closed before rest
  | .closed, before, .closing .square _ :: rest => extensions? .start before rest
  | _, _, _ => none

end Ron

/-- What a declaration file says. -/
structure Document where
  extensions : List Extension
  value : Ron
  /-- The text is in the notation, and nothing comes after the value. -/
  whole : Bool

namespace Document

/-- What tokens say. -/
def ofTokens (tokens : List Token) : Document :=
  match Ron.extensions? .start [] tokens with
  | some (extensions, tokens) =>
    let reading := tokens.foldl Ron.Reading.step ⟨[], none, true⟩
    ⟨extensions, Ron.cut reading.frames reading.last,
      reading.whole && reading.frames.isEmpty && reading.last.isSome⟩
  | none => ⟨[], .broken, false⟩

/-- What the text of a declaration file says. -/
def ofText (text : String) : Document :=
  ofTokens (Token.scan text)

end Document

namespace Codec

variable {α : Type}

/-- Reads a value from the text of a declaration file. What comes after it is noticed last. -/
def readText (c : Codec α) (text : String) : Except Fault α := do
  let document := Document.ofText text
  let a ← c.read (.ron (.implicitSome ∈ document.extensions) 0 document.value)
  if document.whole then return a else .error .malformed

/-- Reads a value from object notation. -/
def readDatum (c : Codec α) (d : Datum) : Except Fault α :=
  c.read (.datum d)

end Codec

end IndustrySet
