import IndustrySet.Location.Rule
import IndustrySet.Text.Lines

set_option autoImplicit false

/-! # Chains of location rules

The checks of one subject become a chain in two steps: they are sorted by rank, checks of one rank
staying in the order they were declared in, and then each rule is linked to the one after it. The
last rule keeps the outcome of its check. -/

namespace IndustrySet

/-- The linked rules of one subject, in the order the game evaluates them. -/
structure Chain (C : Type) where
  /-- What the names of the switches start with. -/
  stem : String
  rules : List (Rule C)
  deriving DecidableEq, Repr

namespace Chain

/-- The name of the `n`-th switch. -/
def entryName (stem : String) (n : Nat) : String :=
  stem ++ toString n

variable {C : Type} [LocationCheck C]

/-- Sorts checks by rank; checks of one rank keep their order. -/
def sort (checks : List C) : List C :=
  checks.mergeSort fun a b => LocationCheck.rank a ≤ LocationCheck.rank b

/-- Rules for checks in evaluation order, the first of which gets number `n`. -/
def link (stem : String) : Nat → List C → List (Rule C)
  | _, [] => []
  | n, [last] => [⟨last, entryName stem n, LocationCheck.ownOutcome last⟩]
  | n, check :: following :: rest =>
    ⟨check, entryName stem n, .next (entryName stem (n + 1))⟩ ::
      link stem (n + 1) (following :: rest)

/-- The chain of some checks, given in any order. -/
def build (stem : String) (checks : List C) : Chain C :=
  ⟨stem, link stem 0 (sort checks)⟩

/-- The number of rules. -/
def size (chain : Chain C) : Nat :=
  chain.rules.length

/-- The name of the first switch. -/
def entryPoint? (chain : Chain C) : Option String :=
  chain.rules.head?.map (·.entry)

/-- Does the chain end in a check that only ever rejects? Such a chain allows every location that
gets through, which is rarely what was meant. -/
def isOpenEnded (chain : Chain C) : Bool :=
  match chain.rules.getLast? with
  | some rule => (LocationCheck.verdict? rule.check).isNone
  | none => false

/-- Where evaluation of the chain starts. A chain without rules allows every location. -/
def start (chain : Chain C) : Outcome :=
  match chain.entryPoint? with
  | some entry => .next entry
  | none => .stop .allow

/-- The switches of a chain, the last rule's first, so that each is defined before it is referred
to. -/
def switches (chain : Chain C) : List LocationSwitch :=
  chain.rules.reverse.map Rule.locationSwitch

/-- The NML of a chain. -/
def text (chain : Chain C) : String :=
  Text.unlines (chain.switches.map LocationSwitch.text)

end Chain

end IndustrySet
