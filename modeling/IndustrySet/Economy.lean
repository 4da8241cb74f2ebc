import IndustrySet.Update

set_option autoImplicit false

/-! # Economies

An economy is a named set of industries and property overrides. The player picks one per game
through a parameter, whose value is the numeric id of the economy. -/

namespace IndustrySet

/-- Identifies an economy, as in `BASIC_TROPIC`. -/
abbrev EconomyId := String

/-- An economy the player can select. -/
structure Economy where
  id : EconomyId
  /-- The value of the economy parameter that selects the economy. -/
  numericId : UInt8
  /-- The NML string for the economy's name. -/
  name : String
  deriving DecidableEq, Repr

/-- The economies of a run, in the order they were registered. -/
structure Economies where
  toList : List Economy
  deriving DecidableEq, Repr

namespace Economies

/-- No economies. -/
def empty : Economies := ⟨[]⟩

/-- The economies the industry set comes with. -/
def standard : Economies :=
  ⟨[⟨"BASIC_TEMPERATE", 0, "string(STR_ECONOMY_BASIC_TEMPERATE)"⟩,
    ⟨"BASIC_ARCTIC", 1, "string(STR_ECONOMY_BASIC_ARCTIC)"⟩,
    ⟨"BASIC_TROPIC", 2, "string(STR_ECONOMY_BASIC_TROPIC)"⟩,
    ⟨"FIRS", 3, "string(STR_ECONOMY_FIRS)"⟩,
    ⟨"MISTAH_KURTZ", 4, "string(STR_ECONOMY_MISTAH_KURTZ)"⟩,
    ⟨"STEELTOWN", 5, "string(STR_ECONOMY_STEELTOWN)"⟩,
    ⟨"IN_A_HOT_COUNTRY", 6, "string(STR_ECONOMY_IN_A_HOT_COUNTRY)"⟩]⟩

/-- The ids, in order of registration. -/
def ids (economies : Economies) : List EconomyId :=
  economies.toList.map (·.id)

/-- The number of economies. -/
def size (economies : Economies) : Nat :=
  economies.toList.length

/-- The economy with an id. -/
def get? (economies : Economies) (id : EconomyId) : Option Economy :=
  economies.toList.find? (·.id = id)

/-- Is an economy with this id registered? -/
def contains (economies : Economies) (id : EconomyId) : Bool :=
  (economies.get? id).isSome

/-- The economy with an id, which must be registered. -/
def lookup (economies : Economies) (id : EconomyId) : Except Error Economy :=
  match economies.get? id with
  | some economy => .ok economy
  | none => .error (.unknownEconomy id)

/-- The least of some ids, listed in any order, that no economy is registered with. -/
def leastUnknown? (economies : Economies) (ids : List EconomyId) : Option EconomyId :=
  (ids.mergeSort fun a b => a ≤ b).find? fun id => !economies.contains id

/-- Registers an economy. Neither its id nor its numeric id may be taken. -/
def enter (economy : Economy) : Update Economies Unit := do
  let economies ← get
  if economies.toList.any (·.id = economy.id) then
    throw (.duplicate .economy economy.id)
  if economies.toList.any (·.numericId = economy.numericId) then
    throw (.duplicate .economyNumericId (toString economy.numericId.toNat))
  set (Economies.mk (economies.toList ++ [economy]))

/-- The economies with one more. -/
def register (economies : Economies) (economy : Economy) : Except Error Economies :=
  Update.applyTo (enter economy) economies

/-- The economies with several more, registered in order. -/
def registerAll (economies : Economies) (more : List Economy) : Except Error Economies :=
  more.foldlM register economies

end Economies

end IndustrySet
