set_option autoImplicit false

/-! # Location rules

Where an industry may stand is decided by switches that the game evaluates one after the other. A
check knows when it is evaluated and what it answers on its own; a rule is a check that has been
given the name of its switch and an outcome. -/

namespace IndustrySet

/-- The final answer to whether a location is acceptable. -/
inductive Verdict
  | allow
  | disallow
  deriving DecidableEq, Repr

/-- The callback result that stands for a verdict. -/
def Verdict.callbackResult : Verdict → String
  | .allow => "CB_RESULT_LOCATION_ALLOW"
  | .disallow => "CB_RESULT_LOCATION_DISALLOW"

/-- The NML statement that gives a verdict. -/
def Verdict.statement (verdict : Verdict) : String :=
  "return " ++ verdict.callbackResult

/-- What happens at a location that passes a check. -/
inductive Outcome
  /-- Evaluation stops with a verdict. -/
  | stop (verdict : Verdict)
  /-- Evaluation goes on with the switch of this name. -/
  | next (entry : String)
  deriving DecidableEq, Repr

/-- The NML for an outcome. -/
def Outcome.text : Outcome → String
  | .stop verdict => verdict.statement
  | .next entry => entry

/-- Does the outcome end evaluation? -/
def Outcome.isFinal : Outcome → Bool
  | .stop _ => true
  | .next _ => false

/-- A location switch: the call of a switch macro with the switch's name, the parameters of the
check and the outcome for a location that passes. -/
structure LocationSwitch where
  macroName : String
  /-- The name of the switch. -/
  entry : String
  /-- Parameters before the outcome. -/
  before : List String
  outcome : Outcome
  /-- Parameters after the outcome. -/
  after : List String
  deriving DecidableEq, Repr

/-- The NML of a location switch. -/
def LocationSwitch.text (s : LocationSwitch) : String :=
  s.macroName ++ "(" ++ ", ".intercalate (s.entry :: s.before ++ s.outcome.text :: s.after) ++ ")"

/-- A family of checks that can be put in a chain. -/
class LocationCheck (C : Type) where
  /-- Lower ranks are evaluated first. -/
  rank : C → Nat
  /-- The verdict of a check that ends a chain. A check without one only ever rejects and is
  expected to hand over to another check. -/
  verdict? : C → Option Verdict
  /-- A short name for listings. -/
  name : C → String
  /-- The switch of a check with the given entry point and outcome. -/
  locationSwitch : C → String → Outcome → LocationSwitch

/-- The outcome of a check that nothing follows. A check that only ever rejects allows what it lets
pass. -/
def LocationCheck.ownOutcome {C : Type} [LocationCheck C] (check : C) : Outcome :=
  .stop ((verdict? check).getD .allow)

/-- A check placed in a chain. -/
structure Rule (C : Type) where
  check : C
  /-- The name of the rule's switch. -/
  entry : String
  /-- Where evaluation goes when the check passes. -/
  outcome : Outcome
  deriving DecidableEq, Repr

namespace Rule

variable {C : Type} [LocationCheck C]

/-- The switch of a rule. -/
def locationSwitch (rule : Rule C) : LocationSwitch :=
  LocationCheck.locationSwitch rule.check rule.entry rule.outcome

/-- Does the rule have the outcome that its check has on its own? -/
def hasOwnOutcome (rule : Rule C) : Bool :=
  rule.outcome = LocationCheck.ownOutcome rule.check

end Rule

end IndustrySet
