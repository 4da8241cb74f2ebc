import IndustrySet.Property.Key
import IndustrySet.Property.Value

set_option autoImplicit false

/-! # Sets of property values

An industry declares a base set of properties, and each economy may override some of them. A set
holds a value, or none, for every key; two sets with the same values are the same. -/

namespace IndustrySet

/-- A value, or none, for every property. -/
structure Properties where
  get? : PropertyKey → Option PropertyValue

namespace Properties

/-- No property is set. -/
def empty : Properties := ⟨fun _ => none⟩

instance : Inhabited Properties := ⟨empty⟩

@[ext]
theorem ext {p q : Properties} (h : ∀ key, p.get? key = q.get? key) : p = q := by
  cases p; cases q; congr; exact funext h

instance : DecidableEq Properties := fun p q =>
  if h : ∀ key ∈ PropertyKey.all, p.get? key = q.get? key then
    isTrue (ext fun key => h key (PropertyKey.mem_all key))
  else isFalse fun e => h fun _ _ => e ▸ rfl

/-- The set with the value of one key set. -/
def set (p : Properties) (key : PropertyKey) (value : PropertyValue) : Properties :=
  ⟨fun k => if k = key then some value else p.get? k⟩

/-- The set with every value of another one laid over it. -/
def merge (p other : Properties) : Properties :=
  ⟨fun key => other.get? key <|> p.get? key⟩

/-- The set with several values set, one after the other. -/
def setAll (p : Properties) (values : List (PropertyKey × PropertyValue)) : Properties :=
  values.foldl (fun p value => p.set value.1 value.2) p

/-- The set of some values; of several values for one key the last counts. -/
def ofList (values : List (PropertyKey × PropertyValue)) : Properties :=
  empty.setAll values

/-- Is the property set? -/
def contains (p : Properties) (key : PropertyKey) : Bool :=
  (p.get? key).isSome

/-- The keys that are set, in their order. -/
def keys (p : Properties) : List PropertyKey :=
  PropertyKey.all.filter p.contains

/-- The keys that are set with their values. -/
def toList (p : Properties) : List (PropertyKey × PropertyValue) :=
  PropertyKey.all.filterMap fun key => (p.get? key).map fun value => (key, value)

/-- How many properties are set. -/
def size (p : Properties) : Nat :=
  p.keys.length

/-- What every industry starts from: input multipliers that are zero and no special flags. -/
def base : Properties :=
  ofList
    [(.inputMultiplier1, .text "[0, 0]"), (.inputMultiplier2, .text "[0, 0]"),
     (.inputMultiplier3, .text "[0, 0]"), (.specFlags, .text "0")]

/-- The value of a property where some overrides apply: the override if there is one, else the base
value. -/
def resolve (base : Properties) (overrides : Option Properties) (key : PropertyKey) :
    Option PropertyValue :=
  (overrides.bind (·.get? key)) <|> base.get? key

/-! ## Lemmas -/

@[simp]
theorem get?_empty (key : PropertyKey) : empty.get? key = none := rfl

@[simp]
theorem get?_set (p : Properties) (key k : PropertyKey) (value : PropertyValue) :
    (p.set key value).get? k = if k = key then some value else p.get? k := rfl

@[simp]
theorem get?_merge (p other : Properties) (key : PropertyKey) :
    (p.merge other).get? key = (other.get? key <|> p.get? key) := rfl

end Properties

end IndustrySet
