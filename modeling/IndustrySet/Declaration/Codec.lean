import IndustrySet.Declaration.Source
import IndustrySet.Dictionary

set_option autoImplicit false

/-! # Codecs

A codec says how the values of a type are declared: how they are read from either notation, how they
are written in object notation, and what may be left out of what is written. A record's codec lists
the fields with their defaults; the first fault in the order of the text counts, and fields that are
missing are noticed last. -/

namespace IndustrySet

/-- Where parts of a written value may be left out: fields of records that have their default. -/
inductive Shape
  /-- Nowhere. -/
  | whole
  /-- In each value of a list. -/
  | list (each : Shape)
  /-- In the values of a tuple. -/
  | tuple (parts : List Shape)
  /-- In each value of a map. -/
  | map (each : Shape)
  /-- In the fields of a record, given by name, and those with a default altogether. The default is
  given as it is written. -/
  | record (fields : List (String × Shape × Option Datum))

/-- How the values of a type are read and written. -/
structure Codec (α : Type) where
  read : Source → Except Fault α
  write : α → Datum
  /-- Where parts of a written value may be left out. -/
  shape : Shape := .whole

namespace Codec

/-! ## Plain values -/

/-- Texts. -/
def text : Codec String := ⟨Source.asText, .text, .whole⟩

/-- Truth values. -/
def bool : Codec Bool := ⟨Source.asBool, .bool, .whole⟩

/-- Integers in a range. -/
def integer {α : Type} (least greatest : Int) (ofInt : Int → α) (toInt : α → Int) : Codec α where
  read source := do
    let n ← source.asInt (least < 0)
    if least ≤ n ∧ n ≤ greatest then return ofInt n else .error .malformed
  write a := .int (toInt a)

/-- Numbers of 8 bits. -/
def uint8 : Codec UInt8 := integer 0 255 (fun n => .ofNat n.toNat) (fun n => n.toNat)

/-- Numbers of 16 bits. -/
def uint16 : Codec UInt16 := integer 0 65535 (fun n => .ofNat n.toNat) (fun n => n.toNat)

/-- Numbers of 32 bits. -/
def uint32 : Codec UInt32 := integer 0 4294967295 (fun n => .ofNat n.toNat) (fun n => n.toNat)

/-- Numbers of 64 bits. -/
def uint64 : Codec UInt64 :=
  integer 0 18446744073709551615 (fun n => .ofNat n.toNat) (fun n => n.toNat)

/-- Numbers of 8 bits with a sign. -/
def int8 : Codec Int8 := integer (-128) 127 .ofInt Int8.toInt

/-- Numbers of 16 bits with a sign. -/
def int16 : Codec Int16 := integer (-32768) 32767 .ofInt Int16.toInt

/-- Numbers of 64 bits with a sign. -/
def int64 : Codec Int64 :=
  integer (-9223372036854775808) 9223372036854775807 .ofInt Int64.toInt

/-! ## Values made of values -/

variable {α β γ σ : Type}

/-- Reads a value in parentheses. What else stands in them is noticed after it. -/
def readEnclosed (c : Codec α) (inner : Source.Enclosed) : Except Fault α := do
  let a ← c.read inner.source
  if inner.alone then return a else .error .malformed

/-- Values that may be missing. -/
def option (c : Codec α) : Codec (Option α) where
  read source := do
    match ← source.asOption with
    | none => return none
    | some inner => some <$> c.readEnclosed inner
  write
    | none => .null
    | some a => c.write a
  shape := c.shape

/-- Lists. -/
def list (c : Codec α) : Codec (List α) where
  read source := do
    let items ← source.asList
    items.mapM c.read
  write items := .list (items.map c.write)
  shape := .list c.shape

/-- Pairs. -/
def pair (c : Codec α) (d : Codec β) : Codec (α × β) where
  read source := do
    match ← source.asTuple none with
    | [a, b] => do
      let a ← c.read a
      let b ← d.read b
      return (a, b)
    | _ => .error .malformed
  write p := .list [c.write p.1, d.write p.2]
  shape := .tuple [c.shape, d.shape]

/-- Values that are checked once they are read. -/
def checked (c : Codec α) (check : α → Except Refusal α) : Codec α where
  read source := do
    let a ← c.read source
    match check a with
    | .ok a => return a
    | .error cause => .error (.refused cause)
  write := c.write
  shape := c.shape

/-- Maps from texts. Of two entries for one key the later counts. -/
def dictionary (c : Codec α) : Codec (Dictionary α) where
  read source := do
    let entries ← source.asMap
    let read ← entries.mapM fun (key, value) => do
      let key ← text.read key
      let value ← c.read value
      return (key, value)
    return .ofList read
  write d := .object (d.entries.map fun (key, a) => (key, c.write a))
  shape := .map c.shape

/-- Alternatives without values, known by their names. -/
def enumeration (all : List α) (name : α → String) : Codec α where
  read source := do
    let (written, payload) ← source.asVariant
    match all.find? (name · = written) with
    | some a => do
      Source.nothing payload
      return a
    | none => .error (.unknownVariant written)
  write a := .text (name a)

end Codec

/-! ## Records -/

/-- A fault with the place in the text where it was met. -/
structure Located where
  place : Nat
  fault : Fault

/-- What is made of two parts that were read one beside the other. Of two faults the one that was
met first counts. -/
def Located.combine {α β γ : Type} (f : α → β → γ) :
    Except Located α → Except Located β → Except Located γ
  | .ok a, .ok b => .ok (f a b)
  | .error e, .ok _ => .error e
  | .ok _, .error e => .error e
  | .error e, .error e' => .error (if e'.place < e.place then e' else e)

/-- The fields of a record of type `σ`, as far as they are needed for an `α`. -/
structure Fields (σ α : Type) where
  names : List String
  read : List Source.Entry → Except Located α
  write : σ → List (String × Datum)
  /-- The names with the shapes of the fields, and with their defaults, if they have one. -/
  shapes : List (String × Shape × Option Datum)

namespace Fields

variable {α β σ : Type}

/-- The first entry of a field, and its place. -/
def find? (name : String) : List Source.Entry → Option (Nat × Source)
  | [] => none
  | entry :: rest =>
    if entry.1 = some name then some (0, entry.2)
    else (find? name rest).map fun (place, source) => (place + 1, source)

/-- The value of a field, or what stands for it if the field is not given. -/
def readField (name : String) (c : Codec β) (missing : Except Fault β)
    (entries : List Source.Entry) : Except Located β :=
  match find? name entries with
  | some (place, source) => (c.read source).mapError (Located.mk place)
  | none => missing.mapError (Located.mk entries.length)

/-- No field yet. -/
def start (make : α) : Fields σ α := ⟨[], fun _ => .ok make, fun _ => [], []⟩

/-- One more field. -/
def field (fields : Fields σ (β → α)) (name : String) (get : σ → β) (c : Codec β)
    (missing : Except Fault β) : Fields σ α where
  names := fields.names ++ [name]
  read entries := Located.combine (· ·) (fields.read entries) (readField name c missing entries)
  write s := fields.write s ++ [(name, c.write (get s))]
  shapes := fields.shapes ++ [(name, c.shape, missing.toOption.map c.write)]

/-- One more field, which must be given. -/
def required (fields : Fields σ (β → α)) (name : String) (get : σ → β) (c : Codec β) : Fields σ α :=
  fields.field name get c (.error (.missingField name))

/-- One more field, which has a default. -/
def optional (fields : Fields σ (β → α)) (name : String) (get : σ → β) (c : Codec β) (default : β) :
    Fields σ α :=
  fields.field name get c (.ok default)

/-- Looks for entries without name, for fields that are given a second time and for those that are
not known, which are refused or whose values are passed over. The entries are those from place `n`
on, and `seen` are the names before them. -/
def checkNames (known : List String) (strict : Bool) :
    Nat → List String → List Source.Entry → Except Located Unit
  | _, _, [] => .ok ()
  | n, _, (none, _) :: _ => .error ⟨n, .malformed⟩
  | n, seen, (some name, source) :: rest =>
    if known.contains name then
      if seen.contains name then .error ⟨n, .duplicateField name⟩
      else checkNames known strict (n + 1) (name :: seen) rest
    else if strict then .error ⟨n, .unknownField name⟩
    else do
      source.ignore.mapError (Located.mk n)
      checkNames known strict (n + 1) seen rest

/-- Reads the fields of a record. -/
def readAll (fields : Fields σ α) (strict : Bool) (entries : List Source.Entry) :
    Except Located α :=
  Located.combine (fun a _ => a) (fields.read entries) (checkNames fields.names strict 0 [] entries)

end Fields

namespace Codec

variable {σ : Type}

/-- Records. Only a strict one refuses fields it does not know. Where the fields are told apart by
their order, one that is missing has no name. -/
def recordWith (name : String) (strict : Bool) (fields : Fields σ σ) : Codec σ where
  read source := do
    let (ordered, entries) ← source.asRecord name fields.names
    (fields.readAll strict entries).mapError fun located =>
      if ordered ∧ located.place = entries.length then .malformed else located.fault
  write s := .object (fields.write s)
  shape := .record fields.shapes

/-- Records that refuse fields they do not know. -/
def record (name : String) (fields : Fields σ σ) : Codec σ :=
  recordWith name true fields

end Codec

end IndustrySet
