import IndustrySet.Language
import IndustrySet.Proofs.Dictionaries
import Mathlib.Data.List.Infix

set_option autoImplicit false

/-! # String declarations

A string is declared as `string(` and `)` around its identifier. The identifier is looked for after
the first `string(`, wherever that is, so a declaration is looked up as it is just if it has no
`string(` at all: one that has it further on loses what stands before it, and one that does not end
in `)` loses the `string(` all the same (`Strings.unwrapped_declarations`). -/

namespace IndustrySet

namespace Text

variable {mark chars before rest body tail : List Char} {last c : Char}

theorem afterFirst?_of_start (here : mark <+: chars) :
    afterFirst? mark chars = some (chars.drop mark.length) := by
  cases chars with
  | nil => simp [afterFirst?, List.prefix_nil.1 here]
  | cons c chars => rw [afterFirst?, if_pos (List.isPrefixOf_iff_prefix.2 here)]

theorem afterFirst?_of_not_start (notHere : ¬mark <+: c :: chars) :
    afterFirst? mark (c :: chars) = afterFirst? mark chars := by
  rw [afterFirst?, if_neg fun here => notHere (List.isPrefixOf_iff_prefix.1 here)]

/-- Nothing follows a mark just if it does not occur. -/
theorem afterFirst?_eq_none_iff : afterFirst? mark chars = none ↔ ¬mark <:+: chars := by
  induction chars with
  | nil => simp [afterFirst?]
  | cons c chars ih =>
    by_cases here : mark <+: c :: chars
    · simp [afterFirst?_of_start here, here.isInfix]
    · rw [afterFirst?_of_not_start here, ih, List.infix_cons_iff, or_iff_right here]

/-- A mark and what follows it are at the end of the text. -/
theorem exists_of_afterFirst? (h : afterFirst? mark chars = some rest) :
    ∃ before, chars = before ++ mark ++ rest := by
  induction chars with
  | nil =>
    obtain ⟨rfl, empty⟩ := Option.ite_none_right_eq_some.1 h
    cases empty
    exact ⟨[], rfl⟩
  | cons c chars ih =>
    by_cases here : mark <+: c :: chars
    · rw [afterFirst?_of_start here, Option.some.injEq] at h
      exact ⟨[], h ▸ (List.prefix_iff_eq_append.1 here).symm⟩
    · rw [afterFirst?_of_not_start here] at h
      obtain ⟨before, rfl⟩ := ih h
      exact ⟨c :: before, rfl⟩

/-- A mark does not reach into a text without its last character. -/
theorem infix_of_infix_append (notMem : last ∉ tail) (inside : body ++ [last] <:+: before ++ tail) :
    body ++ [last] <:+: before := by
  rcases List.infix_append_iff.1 inside with inside | inside | ⟨front, back, same, suffix, start⟩
  · exact inside
  · exact absurd (inside.subset (by simp)) notMem
  · cases back using List.reverseRecOn with
    | nil => exact (same.trans (List.append_nil front)) ▸ suffix.isInfix
    | append_singleton back c =>
      rw [← List.append_assoc, List.append_singleton_inj] at same
      exact absurd (start.subset (by simp [same.2])) notMem

/-- What follows the first mark, if the last character of the mark is nowhere else in it. -/
theorem afterFirst?_append (notMem : last ∉ body) (new : ¬body ++ [last] <:+: before)
    (rest : List Char) :
    afterFirst? (body ++ [last]) (before ++ (body ++ [last] ++ rest)) = some rest := by
  induction before with
  | nil =>
    rw [List.nil_append, afterFirst?_of_start (List.prefix_append _ _), List.drop_left]
  | cons c before ih =>
    have notHere : ¬body ++ [last] <+: c :: (before ++ (body ++ [last] ++ rest)) := by
      intro here
      -- It would end before the last character of the next mark, which no mark goes without.
      have early : body ++ [last] <+: c :: before ++ body := by
        refine List.prefix_of_prefix_length_le here ⟨last :: rest, by simp⟩ ?_
        simp only [List.length_append, List.length_cons, List.length_nil]
        omega
      exact new (infix_of_infix_append notMem early.isInfix)
    rw [List.cons_append, afterFirst?_of_not_start notHere]
    exact ih fun inside => new (List.infix_cons inside)

end Text

/-! ## Declarations -/

/-- The declaration of the string with an identifier. -/
def wrapString (identifier : String) : String :=
  stringOpening ++ identifier ++ ")"

/-- The declaration has a `string(` somewhere. -/
def MentionsString (declaration : String) : Prop :=
  stringOpening.toList <:+: declaration.toList

instance (declaration : String) : Decidable (MentionsString declaration) :=
  inferInstanceAs (Decidable (stringOpening.toList <:+: declaration.toList))

variable {declaration before : String}

theorem unwrapString_of_not_mentions (bare : ¬MentionsString declaration) :
    unwrapString declaration = declaration := by
  rw [unwrapString, Text.afterFirst?_eq_none_iff.2 bare]

/-- What follows the first `string(` is taken, less one parenthesis at the end. -/
theorem unwrapString_append (bare : ¬MentionsString before) (inner : String) :
    unwrapString (before ++ stringOpening ++ inner) =
      String.ofList (if inner.toList.getLast? = some ')' then inner.toList.dropLast
        else inner.toList) := by
  have opening : stringOpening.toList = "string".toList ++ ['('] := by decide
  have found : Text.afterFirst? stringOpening.toList (before ++ stringOpening ++ inner).toList =
      some inner.toList := by
    rw [String.toList_append, String.toList_append, List.append_assoc, opening]
    exact Text.afterFirst?_append (by decide) (opening ▸ bare) inner.toList
  rw [unwrapString, found]

theorem unwrapString_closed (bare : ¬MentionsString before) (inner : String) :
    unwrapString (before ++ stringOpening ++ inner ++ ")") = inner := by
  have closed : before ++ stringOpening ++ inner ++ ")" =
      before ++ stringOpening ++ (inner ++ ")") := String.append_assoc
  rw [closed, unwrapString_append bare]
  simp

/-- Nothing longer than what follows a `string(` is taken. -/
theorem length_unwrapString_lt (mentions : MentionsString declaration) :
    (unwrapString declaration).length < declaration.length := by
  cases found : Text.afterFirst? stringOpening.toList declaration.toList with
  | none => exact absurd mentions (Text.afterFirst?_eq_none_iff.1 found)
  | some inner =>
    obtain ⟨before, split⟩ := Text.exists_of_afterFirst? found
    have longer : inner.length < declaration.length := by
      rw [← String.length_toList, split, List.length_append, List.length_append]
      have : 0 < stringOpening.toList.length := by decide
      omega
    have shorter : (unwrapString declaration).length ≤ inner.length := by
      rw [unwrapString, found, String.length_ofList]
      split_ifs
      · exact (List.dropLast_sublist inner).length_le
      · exact le_refl _
    exact Nat.lt_of_le_of_lt shorter longer

theorem unwrapString_eq_self_iff : unwrapString declaration = declaration ↔
    ¬MentionsString declaration := by
  refine ⟨fun same mentions => ?_, unwrapString_of_not_mentions⟩
  have shorter := length_unwrapString_lt mentions
  rw [same] at shorter
  exact Nat.lt_irrefl _ shorter

namespace Strings

/-- A declaration that loses something is told from what is left of it by some strings. -/
theorem resolve_eq_get?_iff :
    (∀ strings : Strings, strings.resolve declaration = strings.get? declaration) ↔
      ¬MentionsString declaration := by
  constructor
  · intro alike
    have own := alike ⟨.ofList [(declaration, "")]⟩
    rw [resolve, get?, get?, Dictionary.get?_ofList, Dictionary.get?_ofList] at own
    rw [← unwrapString_eq_self_iff]
    by_contra different
    simp [Ne.symm different] at own
  · intro bare strings
    rw [resolve, unwrapString_of_not_mentions bare]

/-- A declared string is looked up by its identifier, and a declaration is looked up as it is just
if `string(` does not occur in it. Otherwise what stands before the first `string(` is dropped, and
so is one parenthesis at the end, if there is one. -/
theorem unwrapped_declarations (identifier declaration : String) :
    unwrapString (wrapString identifier) = identifier ∧
    (unwrapString declaration = declaration ↔ ¬MentionsString declaration) ∧
    ((∀ strings : Strings, strings.resolve declaration = strings.get? declaration) ↔
      ¬MentionsString declaration) ∧
    ∀ before inner, ¬MentionsString before →
      (declaration = before ++ stringOpening ++ inner ++ ")" → unwrapString declaration = inner) ∧
      (declaration = before ++ stringOpening ++ inner → inner.toList.getLast? ≠ some ')' →
        unwrapString declaration = inner) := by
  refine ⟨?_, unwrapString_eq_self_iff, resolve_eq_get?_iff, fun before inner bare => ⟨?_, ?_⟩⟩
  · have bare : ¬MentionsString "" := by decide
    simpa [wrapString] using unwrapString_closed bare identifier
  · rintro rfl
    exact unwrapString_closed bare inner
  · rintro rfl unclosed
    rw [unwrapString_append bare, if_neg unclosed, String.ofList_toList]

/-- A name that depends on the year. -/
def smithyName : String :=
  "current_year < 1950 ? string(STR_IND_SMITHY) : string(STR_IND_FOUNDRY)"

theorem unwrapped_declarations_smithyName :
    ¬MentionsString "current_year < 1950 ? " ∧
      unwrapString smithyName = "STR_IND_SMITHY) : string(STR_IND_FOUNDRY" ∧
      "STR_IND_SMITHY".toList.getLast? ≠ some ')' ∧
      unwrapString "current_year < 1950 ? string(STR_IND_SMITHY" = "STR_IND_SMITHY" := by
  have bare : ¬MentionsString "current_year < 1950 ? " := by decide
  have unclosed : "STR_IND_SMITHY".toList.getLast? ≠ some ')' := by decide
  obtain ⟨_, _, _, whole⟩ := unwrapped_declarations "STR_IND_SMITHY" smithyName
  obtain ⟨_, _, _, half⟩ := unwrapped_declarations "STR_IND_SMITHY"
    "current_year < 1950 ? string(STR_IND_SMITHY"
  exact ⟨bare, (whole _ _ bare).1 rfl, unclosed, (half _ _ bare).2 rfl unclosed⟩

/-- The name is not just the declaration of a string, and loses its condition all the same. -/
theorem not_unwrapped_smithyName :
    (∀ identifier, smithyName ≠ wrapString identifier) ∧
      unwrapString smithyName ≠ smithyName := by
  constructor
  · intro identifier same
    have start := congrArg (fun text => text.toList.head?) same
    simp [wrapString, smithyName, stringOpening] at start
  · rw [ne_eq, unwrapString_eq_self_iff, not_not]
    decide

end Strings

end IndustrySet
