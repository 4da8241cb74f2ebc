import IndustrySet.Nml.Block

set_option autoImplicit false

/-! # Properties as the game reads them

The properties of an item are set by its own block and set again by the blocks for the economy that
the player picked. The game reads them in the order of the file, so the last line for a property is
the one in effect (`lineInEffect`). -/

namespace IndustrySet.Nml

/-- The line that counts for a property, of some lines read one after the other. -/
def lastLine? (name : String) (lines : List Assignment) : Option Assignment :=
  lines.findRev? fun line => line.name = name

/-- The lines of a block that the game reads for an item, when the economy parameter has the given
value; without a value, those that it reads in every economy. -/
def Block.linesRead (feature id : String) (parameter : Option Nat) : Block → List Assignment
  | .item i => if i.feature = feature ∧ i.id = id then i.properties else []
  | .inEconomy n i =>
    if parameter = some n.toNat ∧ i.feature = feature ∧ i.id = id then i.properties else []
  | _ => []

/-- The lines that the game reads for an item, in the order of the file. -/
def linesRead (feature id : String) (parameter : Option Nat) (blocks : List Block) :
    List Assignment :=
  blocks.flatMap (Block.linesRead feature id parameter)

/-- The line in effect for a property of an item. -/
def lineInEffect (feature id : String) (parameter : Option Nat) (blocks : List Block)
    (name : String) : Option Assignment :=
  lastLine? name (linesRead feature id parameter blocks)

/-! ## The last line -/

@[simp]
theorem lastLine?_nil (name : String) : lastLine? name [] = none := rfl

/-- Lines read later replace those read before. -/
@[simp]
theorem lastLine?_append (name : String) (before after : List Assignment) :
    lastLine? name (before ++ after) = (lastLine? name after).or (lastLine? name before) := by
  simp [lastLine?]

theorem lastLine?_singleton (name : String) (line : Assignment) :
    lastLine? name [line] = if line.name = name then some line else none := by
  simp [lastLine?, List.find?_singleton]

/-- There is no last line for a property that no line sets. -/
theorem lastLine?_eq_none {name : String} {lines : List Assignment}
    (h : ∀ line ∈ lines, line.name ≠ name) : lastLine? name lines = none := by
  simpa [lastLine?] using h

/-- Where every line for a property is the same, it is the last one. -/
theorem lastLine?_eq_some {name : String} {lines : List Assignment} {line : Assignment}
    (mem : line ∈ lines) (named : line.name = name)
    (unique : ∀ other ∈ lines, other.name = name → other = line) :
    lastLine? name lines = some line := by
  cases found : lastLine? name lines with
  | none =>
    have unnamed : ∀ other ∈ lines, other.name ≠ name := by simpa [lastLine?] using found
    exact absurd named (unnamed line mem)
  | some other =>
    rw [lastLine?, List.findRev?_eq_find?_reverse] at found
    have otherNamed : other.name = name := by simpa using List.find?_some found
    rw [unique other (List.mem_reverse.1 (List.mem_of_find?_eq_some found)) otherNamed]

/-! ## The lines that are read -/

section

variable {feature id : String} {parameter : Option Nat}

@[simp]
theorem linesRead_nil : linesRead feature id parameter [] = [] := rfl

@[simp]
theorem linesRead_cons (block : Block) (blocks : List Block) :
    linesRead feature id parameter (block :: blocks) =
      block.linesRead feature id parameter ++ linesRead feature id parameter blocks := by
  simp [linesRead]

@[simp]
theorem linesRead_append (before after : List Block) :
    linesRead feature id parameter (before ++ after) =
      linesRead feature id parameter before ++ linesRead feature id parameter after := by
  simp [linesRead]

theorem linesRead_eq_nil {blocks : List Block}
    (h : ∀ block ∈ blocks, block.linesRead feature id parameter = []) :
    linesRead feature id parameter blocks = [] := by
  simpa [linesRead] using h

/-- Blocks made of something that is no item hold no property. -/
theorem linesRead_map {α : Type} (block : α → Block)
    (h : ∀ a, (block a).linesRead feature id parameter = []) (as : List α) :
    linesRead feature id parameter (as.map block) = [] := by
  apply linesRead_eq_nil
  intro b hb
  obtain ⟨a, _, rfl⟩ := List.mem_map.1 hb
  exact h a

end

end IndustrySet.Nml
