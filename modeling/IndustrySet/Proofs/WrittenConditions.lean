import IndustrySet.Proofs.WrittenLines
import IndustrySet.Proofs.WrittenNumbers
import Mathlib.Data.List.Basic

set_option autoImplicit false

/-! # Hidden buildings in the text

The game hides a building by what is written for it, not by what was meant. A written condition is
evaluated word by word (`condition?`); it comes out as the condition does that it was written for
(`condition?_text`). The last line of a building says when it is hidden, if it is at all, and from
there the text tells whether the building is shown (`isShown?_text`). -/

namespace IndustrySet.Nml

open Text

/-! ## Conditions -/

/-- The words of a text, which stand between its blanks. -/
def words (text : String) : List String :=
  (text.split ' ').toList.map String.Slice.copy

/-- The truth of a comparison between a value and a number that is written. -/
def comparison? (left : Int) (operator right : String) : Option Bool :=
  (number? right).bind fun right =>
    if operator = "<" then some (left < right)
    else if operator = "<=" then some (left ≤ right)
    else if operator = ">" then some (right < left)
    else if operator = ">=" then some (right ≤ left)
    else none

/-- The truth of some words that form a comparison, or are the number for what is never true. -/
def clause? (year : Int) (frame : Nat) : List String → Option Bool
  | ["0"] => some false
  | ["animation_frame", operator, right] => comparison? frame operator right
  | ["(current_year", "+", "5", "*", "LOAD_TEMP(0)", "/", "0x10000)", operator, right] =>
    comparison? year operator right
  | _ => none

/-- The truth of a written condition, when the year that counts and the frame of the animation are
these: one of its clauses is true. -/
def condition? (year : Int) (frame : Nat) (text : String) : Option Bool :=
  (((words text).splitOn "||").mapM (clause? year frame)).map (·.any id)

theorem words_intercalate {parts : List String} (nonempty : parts ≠ [])
    (unbroken : ∀ part ∈ parts, ' ' ∉ part.toList) : words (" ".intercalate parts) = parts := by
  rw [words]
  exact (String.toList_split_intercalate unbroken).trans (if_neg nonempty)

/-- The words of a comparison with the year. -/
def yearClause (operator : String) (bound : Int64) : List String :=
  ["(current_year", "+", "5", "*", "LOAD_TEMP(0)", "/", "0x10000)", operator, bound.toInt.repr]

/-- The words of a condition, clause by clause. -/
def clauses : HideCondition → List (List String)
  | .never => [["0"]]
  | .sinceYear bound => [yearClause ">=" bound]
  | .beforeYear bound => [yearClause "<" bound]
  | .outsideYears first second => [yearClause "<" first, yearClause ">=" second]
  | .afterFrame frame => [["animation_frame", ">", (frame : Int).repr]]

/-- The words of a condition, with one more between clauses. -/
def conditionWords (condition : HideCondition) : List String :=
  ["||"].intercalate (clauses condition)

theorem toList_intercalate_yearClause (operator : String) (bound : Int64) :
    (" ".intercalate (yearClause operator bound)).toList =
      HideCondition.yearExpression.toList ++ ' ' :: operator.toList ++
        ' ' :: bound.toInt.repr.toList := by
  generalize written : bound.toInt.repr = digits
  simp [yearClause, written, String.intercalate_cons_cons, HideCondition.yearExpression]

theorem intercalate_yearClauses (first second : Int64) :
    " ".intercalate (yearClause "<" first ++ "||" :: yearClause ">=" second) =
      " ".intercalate (yearClause "<" first) ++ " || " ++
        " ".intercalate (yearClause ">=" second) := by
  rw [← String.toList_inj]
  simp [yearClause, String.intercalate_cons_cons]

/-- A condition is written word by word. -/
theorem text_eq_intercalate (condition : HideCondition) :
    condition.text = " ".intercalate (conditionWords condition) := by
  have single (clause : List String) : ["||"].intercalate [clause] = clause := by
    simp [List.intercalate]
  rw [conditionWords, ← String.toList_inj]
  cases condition with
  | never =>
    rw [clauses, single, String.intercalate_singleton]
    rfl
  | sinceYear bound =>
    rw [clauses, single, toList_intercalate_yearClause]
    show (HideCondition.yearExpression ++ " >= " ++ toString bound.toInt).toList = _
    simp
  | beforeYear bound =>
    rw [clauses, single, toList_intercalate_yearClause]
    show (HideCondition.yearExpression ++ " < " ++ toString bound.toInt).toList = _
    simp
  | outsideYears first second =>
    have double : ["||"].intercalate (clauses (.outsideYears first second)) =
        yearClause "<" first ++ "||" :: yearClause ">=" second := by
      simp [clauses, List.intercalate]
    rw [double, intercalate_yearClauses, String.toList_append, String.toList_append,
      toList_intercalate_yearClause, toList_intercalate_yearClause]
    show (HideCondition.yearExpression ++ " < " ++ toString first.toInt ++ " || " ++
      HideCondition.yearExpression ++ " >= " ++ toString second.toInt).toList = _
    simp
  | afterFrame frame =>
    rw [clauses, single]
    show ("animation_frame > " ++ toString frame).toList = _
    have digits : (frame : Int).repr = frame.repr := rfl
    simp [digits]

/-- There are neither blanks nor line feeds in the words. -/
theorem notMem_conditionWords {c : Char} (blank : c = ' ' ∨ c = '\n') (condition : HideCondition) :
    ∀ word ∈ conditionWords condition, c ∉ word.toList := by
  have number (n : Int) : c ∉ n.repr.toList := by
    rcases blank with rfl | rfl <;> exact notMem_toList_repr (by decide) (by decide) n
  rcases blank with rfl | rfl <;> cases condition <;>
    simp [conditionWords, clauses, yearClause, List.intercalate, number]

theorem splitOn_conditionWords (condition : HideCondition) :
    (conditionWords condition).splitOn "||" = clauses condition := by
  have number (n : Int) : "||" ≠ n.repr := fun same =>
    notMem_toList_repr (c := '|') (by decide) (by decide) n (same ▸ by decide)
  refine List.splitOn_intercalate _ ?_ ?_ <;>
    cases condition <;> simp [clauses, yearClause, number]

/-- A written condition is true just if the condition holds. -/
theorem condition?_text (year : Int) (frame : Nat) (condition : HideCondition) :
    condition? year frame condition.text = some (condition.holds year frame) := by
  have nonempty : conditionWords condition ≠ [] := by cases condition <;> exact List.cons_ne_nil _ _
  rw [text_eq_intercalate, condition?,
    words_intercalate nonempty (notMem_conditionWords (.inl rfl) condition), splitOn_conditionWords]
  cases condition <;>
    simp [clauses, yearClause, clause?, comparison?, number?_repr, HideCondition.holds]

/-! ## Buildings -/

/-- Is a building shown, by its text? The line before the one that closes it says when it is hidden,
if it ever is. -/
def isShown? (year : Int) (frame : Nat) (text : String) : Option Bool :=
  match (splitAtFeeds text).reverse with
  | rest :: closing :: last :: _ =>
    if closing = "    \x7d" ∧ rest = "" then
      match last.toList.dropPrefix? "        hide_sprite: ".toList with
      | some condition => (condition? year frame (String.ofList condition.dropLast)).map (!·)
      | none => some true
    else none
  | _ => none

theorem notMem_intercalate {c : Char} {separator : String} (between : c ∉ separator.toList)
    {parts : List String} (within : ∀ part ∈ parts, c ∉ part.toList) :
    c ∉ (separator.intercalate parts).toList := by
  induction parts with
  | nil => simp
  | cons first rest ih =>
    have own := within first List.mem_cons_self
    have later := ih fun part mem => within part (List.mem_cons_of_mem _ mem)
    cases rest with
    | nil => simpa using own
    | cons second rest =>
      rw [String.intercalate_cons_cons, String.toList_append, String.toList_append]
      simp only [List.mem_append, not_or]
      exact ⟨⟨own, between⟩, later⟩

theorem notMem_text (condition : HideCondition) : '\n' ∉ condition.text.toList := by
  rw [text_eq_intercalate]
  exact notMem_intercalate (by decide) (notMem_conditionWords (.inr rfl) condition)

namespace Building

/-- The line inside a building before the one that closes it. -/
def lastLine (b : Building) : String :=
  match b.hideSprite with
  | some condition => "hide_sprite: " ++ (condition.text ++ ";")
  | none =>
    if b.alwaysDraw then "always_draw: 1;"
    else "zextent: " ++ toString b.extents.2.2.toNat ++ ";"

theorem exists_textLines_eq (b : Building) :
    ∃ before, b.textLines = before ++ ["    " ++ b.lastLine, "\x7d"] := by
  have last {opening : String} {inside : List String} (h : inside.getLast? = some b.lastLine) :
      ∃ before, nested opening inside = before ++ ["    " ++ b.lastLine, "\x7d"] := by
    obtain ⟨init, rfl⟩ := List.getLast?_eq_some_iff.1 h
    exact ⟨opening :: init.map ("    " ++ ·), by simp [nested]⟩
  refine last ?_
  unfold lastLine
  cases b.hideSprite <;> cases b.alwaysDraw <;> simp [String.append_assoc]

theorem notMem_lastLine (b : Building) : '\n' ∉ b.lastLine.toList := by
  unfold lastLine
  cases b.hideSprite with
  | some condition => simp [notMem_text]
  | none => cases b.alwaysDraw <;> simp [notMem_toDigits]

/-- The last two lines of a building. -/
theorem splitAtFeeds_text (b : Building) : ∃ before,
    splitAtFeeds b.text = before ++ ["        " ++ b.lastLine, "    \x7d", ""] := by
  obtain ⟨before, lines⟩ := b.exists_textLines_eq
  have indented : "    " ++ ("    " ++ b.lastLine) = "        " ++ b.lastLine := by
    rw [← String.toList_inj]
    simp
  have written : b.text = unlines (before.map ("    " ++ ·) ++
      ["        " ++ b.lastLine, "    \x7d"]) := by
    rw [text_eq, lines, ← indented]
    simp [unlines, Function.comp_def, String.append_assoc]
  rw [written]
  refine exists_splitAtFeeds_unlines _ fun line mem => ?_
  rcases List.mem_pair.1 mem with rfl | rfl
  · simp [notMem_lastLine]
  · decide

/-- The text of a building tells in which years and frames it is shown. -/
theorem isShown?_text (year : Int) (frame : Nat) (b : Building) :
    isShown? year frame b.text = some (!b.hideSprite.any (HideCondition.holds year frame)) := by
  obtain ⟨before, written⟩ := b.splitAtFeeds_text
  have read : isShown? year frame b.text =
      match ("        " ++ b.lastLine).toList.dropPrefix? "        hide_sprite: ".toList with
      | some condition => (condition? year frame (String.ofList condition.dropLast)).map (!·)
      | none => some true := by
    rw [isShown?, written, List.reverse_append]
    exact if_pos ⟨rfl, rfl⟩
  rw [read]
  unfold lastLine
  cases b.hideSprite with
  | some condition =>
    have split : "        " ++ ("hide_sprite: " ++ (condition.text ++ ";")) =
        "        hide_sprite: " ++ (condition.text ++ ";") := by
      rw [← String.toList_inj]
      simp
    have closed : (condition.text ++ ";").toList.dropLast = condition.text.toList := by
      simp
    simp only [split, dropPrefix?_append, closed, String.ofList_toList, condition?_text]
    rfl
  | none =>
    have shown : ("        " ++ if b.alwaysDraw then "always_draw: 1;"
        else "zextent: " ++ toString b.extents.2.2.toNat ++ ";").toList.dropPrefix?
          "        hide_sprite: ".toList = none :=
      dropPrefix?_eq_none fun rest => by cases b.alwaysDraw <;> simp
    simp only [shown]
    rfl

end Building

/-- The buildings of a spritelayout stand in its text one after the other. -/
theorem SpriteStack.text_of_buildings {stack : SpriteStack} {first others : List Building}
    (parts : stack.buildings = first ++ others) : stack.text =
      "spritelayout " ++ stack.name ++ " \x7b\n" ++
        "    ground \x7b\n        sprite: " ++ stack.ground.text ++ ";\n    \x7d\n" ++
        "    childsprite \x7b\n        sprite: " ++ stack.overlay.text ++
        ";\n        always_draw: 1;\n    \x7d\n" ++
        String.join (first.map Building.text) ++ String.join (others.map Building.text) ++
        "\x7d\n" := by
  have joined : String.join (stack.buildings.map Building.text) =
      String.join (first.map Building.text) ++ String.join (others.map Building.text) := by
    rw [parts, List.map_append, String.join_append]
  unfold SpriteStack.text
  simp only [joined, String.append_assoc]

end IndustrySet.Nml
