import IndustrySet.Industry.Cargos

set_option autoImplicit false

/-! # The texts of an industry

The texts a player reads when about to fund an industry, and in the window of an industry that
processes cargos. -/

namespace IndustrySet.Industry

/-- The callback result for no text at all. -/
def noText : String := "CB_RESULT_NO_TEXT"

/-- The texts about funding that apply for an economy. Only one can be shown. -/
def fundTexts (industry : Industry) (economy : Option EconomyId) : Except Error (List String) := do
  let introYear ← industry.introYear economy
  let expiryYear ← industry.expiryYear economy
  let extra ← industry.property .extraTextFund economy
  return (if introYear = 0 then []
      else ["string(STR_FUND_AVAILABLE_FROM, " ++ toString introYear.toInt ++ ")"]) ++
    (if expiryYear = neverExpires then []
      else ["string(STR_FUND_AVAILABLE_UNTIL, " ++ toString expiryYear.toInt ++ ")"]) ++
    (extra.bind PropertyValue.asText?).toList

/-- The text about funding that is shown. -/
def extraTextFund (industry : Industry) (economy : Option EconomyId) : Except Error String := do
  let texts ← industry.fundTexts economy
  return texts.head?.getD noText

/-- The string for the window of an industry that processes this many cargos. -/
def windowString? : Nat → Option String
  | 1 => some "STR_EXTRA_TEXT_SECONDARY_ONE_INPUT"
  | 2 => some "STR_EXTRA_TEXT_SECONDARY_TWO_INPUTS"
  | 3 => some "STR_EXTRA_TEXT_SECONDARY_THREE_INPUTS"
  | _ => none

/-- The text for the window of an industry, if it processes one to three cargos. -/
def extraTextString? (industry : Industry) (economy : Option EconomyId) :
    Except Error (Option String) := do
  let processed ← industry.processedCargos economy
  match windowString? processed.length with
  | none => return none
  | some string => do
    let extra ← industry.property .extraTextIndustry economy
    let industryText := (extra.bind PropertyValue.asText?).getD "STR_EMPTY"
    return some ("string(" ++ string ++ ", string(" ++ industryText ++ "))")

/-- The labels whose state of delivery the window shows. -/
def deliveryLabels (industry : Industry) (economy : Option EconomyId) :
    Except Error (List String) := do
  let processed ← industry.processedCargos economy
  return processed.map (·.1)

end IndustrySet.Industry
