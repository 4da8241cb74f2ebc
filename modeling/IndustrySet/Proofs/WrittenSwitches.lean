import IndustrySet.Proofs.WrittenProperties

set_option autoImplicit false

/-! # Switches and callbacks in the text

The text of a switch has a line for each branch, which begins with the value that the branch is for,
and a last one for the default. So it is read off where the switch leads for a value
(`Switch.selected?_text`). The callbacks of an item stand in its graphics block, from which they are
read as the properties are from the property block (`Item.insides_callbacks`). -/

namespace IndustrySet.Nml

open Text

/-! ## Switches -/

/-- Where the text of a switch leads for a value: to what stands behind the value and a colon in the
first line that begins with them, else to what the last line says. -/
def selected? (value text : String) : Option String :=
  match (inside (splitAtFeeds text).tail).reverse with
  | [] => none
  | last :: branches =>
    let branch? := branches.reverse.findSome? fun line =>
      line.toList.dropPrefix? (value ++ ": ").toList
    some (String.ofList (branch?.getD last.toList).dropLast)

/-- The text of a switch tells its branches apart: none of its lines is broken, there is no colon in
the value of a branch, and no two of them are written alike. -/
structure Switch.Tells (s : Switch) (value : Case) : Prop where
  unbroken : ∀ line ∈ s.textLines, '\n' ∉ line.toList
  noColon : ':' ∉ value.text.toList
  noColons : ∀ branch ∈ s.branches, ':' ∉ branch.1.text.toList
  distinct : ∀ branch ∈ s.branches, branch.1.text = value.text → branch.1 = value

/-- A line for a branch begins with the value of the branch only. -/
theorem dropPrefix?_branch {value other : String} (noColon : ':' ∉ value.toList)
    (noColon' : ':' ∉ other.toList) (target : String) :
    (other ++ ": " ++ target ++ ";").toList.dropPrefix? (value ++ ": ").toList =
      if other = value then some (target ++ ";").toList else none := by
  by_cases same : other = value
  · rw [if_pos same, same, String.append_assoc]
    exact dropPrefix?_append (value ++ ": ") (target ++ ";")
  · rw [if_neg same]
    refine dropPrefix?_eq_none fun rest split => same ?_
    have named : (value ++ ": ").toList ++ rest = value.toList ++ ':' :: ' ' :: rest := by simp
    have before := congrArg (List.takeWhile (· ≠ ':')) (split.trans named)
    rw [takeWhile_declaration noColon', takeWhile_colon noColon] at before
    exact String.toList_inj.1 before

theorem findSome?_branches {value : Case} {branches : List (Case × Target)}
    (noColon : ':' ∉ value.text.toList)
    (noColons : ∀ branch ∈ branches, ':' ∉ branch.1.text.toList)
    (distinct : ∀ branch ∈ branches, branch.1.text = value.text → branch.1 = value) :
    ((branches.map fun branch => branch.1.text ++ ": " ++ branch.2.text ++ ";").findSome?
        fun line => line.toList.dropPrefix? (value.text ++ ": ").toList) =
      (branches.find? fun branch => branch.1 = value).map fun branch =>
        (branch.2.text ++ ";").toList := by
  induction branches with
  | nil => rfl
  | cons branch rest ih =>
    have others := ih (fun other mem => noColons other (List.mem_cons_of_mem _ mem))
      fun other mem => distinct other (List.mem_cons_of_mem _ mem)
    rw [List.map_cons, List.findSome?_cons,
      dropPrefix?_branch noColon (noColons branch List.mem_cons_self), List.find?_cons]
    by_cases same : branch.1 = value
    · simp [same]
    · have otherText : branch.1.text ≠ value.text := fun h =>
        same (distinct branch List.mem_cons_self h)
      simp only [otherText, same, if_false, decide_false, others]

/-- The text of a switch tells where the switch leads. -/
theorem Switch.selected?_text {s : Switch} {value : Case} (told : s.Tells value) :
    selected? value.text s.text = some (s.select value).text := by
  have parted : splitAtFeeds s.text = s.textLines ++ [""] := by
    rw [s.text_eq, splitAtFeeds_unlines told.unbroken]
  have insideOf : inside (splitAtFeeds s.text).tail =
      s.branches.map (fun branch => branch.1.text ++ ": " ++ branch.2.text ++ ";") ++
        [s.default.text ++ ";"] := by
    rw [parted, textLines, nested, List.cons_append, List.cons_append, List.tail_cons,
      List.append_assoc]
    exact inside_nested
  rw [selected?, insideOf, List.reverse_append, List.reverse_singleton, List.singleton_append]
  simp only [List.reverse_reverse]
  rw [findSome?_branches told.noColon told.noColons told.distinct, select]
  cases s.branches.find? fun branch => branch.1 = value <;> simp

/-- A switch of numbers tells its branches apart if no line of it is broken. -/
theorem Switch.tells_number {s : Switch} (unbroken : ∀ line ∈ s.textLines, '\n' ∉ line.toList)
    (numbers : ∀ branch ∈ s.branches, ∃ n, branch.1 = .number n) (n : Nat) :
    s.Tells (.number n) := by
  have noColon (n : Nat) : ':' ∉ (Case.number n).text.toList := by
    show ':' ∉ n.repr.toList
    rw [Nat.toList_repr]
    exact notMem_toDigits (by decide) n
  refine ⟨unbroken, noColon n, fun branch mem => ?_, fun branch mem same => ?_⟩
  · obtain ⟨m, number⟩ := numbers branch mem
    exact number ▸ noColon m
  · obtain ⟨m, number⟩ := numbers branch mem
    rw [number] at same ⊢
    exact congrArg _ (digits_injective same)

/-! ## Callbacks -/

/-- Where the callbacks of a name lead that a text sets for an item. -/
def writtenTargets (feature id : String) (parameter : Option Nat) (callback text : String) :
    List String :=
  (insides (· = "graphics \x7b") (itemLines feature id parameter text)).filterMap fun line =>
    (line.toList.dropPrefix? (callback ++ ": ").toList).map fun target =>
      String.ofList target.dropLast

theorem opensBlocks_graphics : OpensBlocks (· = "graphics \x7b") :=
  opensBlocks_eq (by decide) (by decide)

/-- Inside an item, the callbacks are found. -/
theorem Item.insides_callbacks (i : Item) (rest : List String) :
    insides (· = "graphics \x7b") (i.body ++ rest) =
      (i.callbacks.getD []).map Callback.line ++ insides (· = "graphics \x7b") rest := by
  rw [body, List.append_assoc, opensBlocks_graphics.insides_nested, if_neg (by decide)]
  cases i.callbacks with
  | none => rfl
  | some callbacks =>
    rw [opensBlocks_graphics.insides_nested, if_pos (by decide)]
    rfl

end IndustrySet.Nml
