import IndustrySet.Location.Industry

set_option autoImplicit false

/-! # Configuration of a run -/

namespace IndustrySet

/-- What a run reads, where it writes, and what it stamps on its output. -/
structure Configuration where
  /-- The directory with the declarations. -/
  declarationsDir : String := "data"
  /-- The directory for the output. -/
  outputDir : String := "generated"
  repoRevision : String := "0"
  repoVersion : String := "0"
  /-- The only industry to write, if it is to be only one. -/
  testIndustry : Option IndustryId := none
  deriving DecidableEq, Repr, Inhabited

end IndustrySet
