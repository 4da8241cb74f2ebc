import IndustrySet.Text.Lines
import Mathlib.Data.List.Basic

set_option autoImplicit false

/-! # Texts line by line

A text is a line, or a line, a line feed and a text (`lineInduction`). Its lines are those between
the line feeds, each without the carriage return before its line feed (`linesOfChars_append_cons`),
and what follows the last line feed, unless that is nothing (`linesOfChars_of_notMem`); so they are
the parts that splitting at line feeds gives, but for the returns and for nothing at the end
(`lines_eq`). -/

namespace IndustrySet.Text

variable {line rest chars : List Char}

/-- What holds of a single line, and of a text with one more line before it, holds of every text. -/
@[elab_as_elim]
theorem lineInduction {motive : List Char → Prop} (last : ∀ line, '\n' ∉ line → motive line)
    (more : ∀ line rest, '\n' ∉ line → motive rest → motive (line ++ '\n' :: rest))
    (chars : List Char) : motive chars := by
  by_cases mem : '\n' ∈ chars
  · obtain ⟨line, rest, split, notMem⟩ := List.eq_append_cons_of_mem mem
    have shorter : rest.length < chars.length := by
      rw [split, List.length_append, List.length_cons]
      omega
    rw [split]
    exact more line rest notMem (lineInduction last more rest)
  · exact last chars mem
termination_by chars.length

/-- A line without the carriage return at its end, if there is one. -/
def withoutReturn (line : List Char) : List Char :=
  if line.getLast? = some '\r' then line.dropLast else line

/-- A character, with a carriage return before it if it is a line feed. -/
def withReturn (c : Char) : List Char :=
  if c = '\n' then ['\r', '\n'] else [c]

/-- A text in which a carriage return is put before every line feed. -/
def withReturns (text : String) : String :=
  String.ofList (text.toList.flatMap withReturn)

theorem withoutReturn_cons_cons (c d : Char) (line : List Char) :
    withoutReturn (c :: d :: line) = c :: withoutReturn (d :: line) := by
  unfold withoutReturn
  rw [List.getLast?_cons_cons, List.dropLast_cons_cons]
  split <;> rfl

/-- A character that belongs to no line end is the first one of its line. -/
theorem linesOfChars_cons {c : Char} (notFeed : '\n' ≠ c)
    (notBefore : ∀ more, rest ≠ '\n' :: more) :
    linesOfChars (c :: rest) =
      (c :: (linesOfChars rest).headD []) :: (linesOfChars rest).tail := by
  rw [linesOfChars]
  · cases linesOfChars rest <;> rfl
  · exact Ne.symm notFeed
  · exact fun more _ same => notBefore more same

/-- The part of a text before a line feed is its first line. -/
theorem linesOfChars_append_cons (notMem : '\n' ∉ line) (rest : List Char) :
    linesOfChars (line ++ '\n' :: rest) = withoutReturn line :: linesOfChars rest := by
  induction line with
  | nil => rfl
  | cons c line ih =>
    rw [List.mem_cons, not_or] at notMem
    obtain ⟨notFeed, notMem⟩ := notMem
    cases line with
    | nil =>
      by_cases isReturn : c = '\r'
      · subst isReturn
        rfl
      · simp [linesOfChars, withoutReturn, isReturn, Ne.symm notFeed]
    | cons d line =>
      have notBefore : ∀ more, d :: line ++ '\n' :: rest ≠ '\n' :: more :=
        fun more same => notMem (List.mem_cons.2 (.inl (List.cons.inj same).1.symm))
      rw [List.cons_append, linesOfChars_cons notFeed notBefore, ih notMem,
        withoutReturn_cons_cons]
      rfl

/-- A text without line feeds is a line of its own, unless it is empty. -/
theorem linesOfChars_of_notMem (notMem : '\n' ∉ line) :
    linesOfChars line = if line = [] then [] else [line] := by
  induction line with
  | nil => rfl
  | cons c line ih =>
    rw [List.mem_cons, not_or] at notMem
    obtain ⟨notFeed, notMem⟩ := notMem
    have notBefore : ∀ more, line ≠ '\n' :: more :=
      fun more same => notMem (same ▸ List.mem_cons_self)
    rw [linesOfChars_cons notFeed notBefore, ih notMem]
    cases line <;> rfl

theorem notMem_withoutReturn (notMem : '\n' ∉ line) : '\n' ∉ withoutReturn line := by
  unfold withoutReturn
  split
  · exact fun mem => notMem (List.dropLast_subset line mem)
  · exact notMem

/-- Lines have no line feed in them. -/
theorem notMem_of_mem_linesOfChars (mem : line ∈ linesOfChars chars) : '\n' ∉ line := by
  induction chars using lineInduction with
  | last only notMem =>
    rw [linesOfChars_of_notMem notMem, List.mem_ite_nil_left, List.mem_singleton] at mem
    exact mem.2 ▸ notMem
  | more first rest notMem ih =>
    rw [linesOfChars_append_cons notMem, List.mem_cons] at mem
    rcases mem with rfl | mem
    · exact notMem_withoutReturn notMem
    · exact ih mem

theorem notMem_of_mem_lines {text line : String} (mem : line ∈ lines text) :
    '\n' ∉ line.toList := by
  obtain ⟨chars, own, rfl⟩ := List.mem_map.1 mem
  rw [String.toList_ofList]
  exact notMem_of_mem_linesOfChars own

/-! ## Beginnings -/

theorem dropPrefix?_append (before after : String) :
    (before ++ after).toList.dropPrefix? before.toList = some after.toList := by
  rw [List.dropPrefix?_eq_some_iff]
  exact ⟨_, String.toList_append, beq_self_eq_true _⟩

/-- A text that begins otherwise has nothing behind its beginning. -/
theorem dropPrefix?_eq_none {text beginning : String}
    (h : ∀ rest : List Char, text.toList ≠ beginning.toList ++ rest) :
    text.toList.dropPrefix? beginning.toList = none := by
  refine Option.eq_none_iff_forall_ne_some.2 fun rest found => ?_
  obtain ⟨same, split, equal⟩ := List.dropPrefix?_eq_some_iff.1 found
  exact h rest (eq_of_beq equal ▸ split)

/-! ## Line feeds -/

theorem feed_mem_utf8EncodeChar {c : Char} : 10 ∈ String.utf8EncodeChar c ↔ c = '\n' := by
  constructor
  · intro mem
    have equal (n : Nat) : 10 = UInt8.ofNat n ↔ n % 256 = 10 := by
      rw [eq_comm, ← UInt8.toNat_inj]
      rfl
    -- The bytes of a longer encoding are at least 128.
    have number : c.val.toNat = 10 := by
      unfold String.utf8EncodeChar at mem
      dsimp only at mem
      split_ifs at mem <;>
        · simp only [List.mem_cons, List.not_mem_nil, or_false, equal] at mem
          omega
    exact Char.ext (UInt32.toNat_inj.1 number)
  · rintro rfl
    decide

/-- A line feed stands in a text just if its byte does. -/
theorem feed_mem_iff (text : String) :
    '\n' ∈ text.toList ↔ 10 ∈ text.toByteArray.data.toList := by
  rw [← String.utf8Encode_toList, List.utf8Encode, List.data_toByteArray, List.mem_flatMap]
  simp [feed_mem_utf8EncodeChar]

/-- The parts of a text before, between and after its line feeds. -/
def splitAtFeeds (text : String) : List String :=
  (text.split '\n').toList.map String.Slice.copy

theorem splitAtFeeds_eq (text : String) :
    splitAtFeeds text = (text.toList.splitOn '\n').map String.ofList :=
  String.toList_split_char

/-- A line feed separates the parts before it from those after it. -/
theorem splitAtFeeds_append (before after : String) :
    splitAtFeeds (before ++ "\n" ++ after) = splitAtFeeds before ++ splitAtFeeds after := by
  have feed : (before ++ "\n" ++ after).toList = before.toList ++ '\n' :: after.toList := by simp
  rw [splitAtFeeds_eq, splitAtFeeds_eq, splitAtFeeds_eq, feed, List.splitOn_append_cons_self,
    List.map_append]

theorem splitAtFeeds_intercalate {parts : List String} (nonempty : parts ≠ [])
    (unbroken : ∀ part ∈ parts, '\n' ∉ part.toList) :
    splitAtFeeds ("\n".intercalate parts) = parts := by
  rw [splitAtFeeds]
  exact (String.toList_split_intercalate unbroken).trans (if_neg nonempty)

/-- A text of lines ends in a part that no line feed follows. -/
theorem unlines_append_last (lines : List String) (last : String) :
    unlines lines ++ last = "\n".intercalate (lines ++ [last]) := by
  induction lines with
  | nil => simp [unlines]
  | cons line lines ih =>
    have more : lines ++ [last] ≠ [] := by simp
    rw [List.cons_append, String.intercalate_cons_of_ne_nil more, ← ih]
    simp [unlines, String.append_assoc]

theorem splitAtFeeds_unlines {parts : List String}
    (unbroken : ∀ part ∈ parts, '\n' ∉ part.toList) :
    splitAtFeeds (unlines parts) = parts ++ [""] := by
  have joined : unlines parts = "\n".intercalate (parts ++ [""]) := by
    rw [← unlines_append_last, String.append_empty]
  rw [joined, splitAtFeeds_intercalate (by simp) fun part mem => ?_]
  rcases List.mem_append.1 mem with mem | mem
  · exact unbroken part mem
  · rw [List.mem_singleton.1 mem]
    decide

/-- Whatever stands in the lines before, the lines of a text end with its last ones. -/
theorem exists_splitAtFeeds_unlines (before : List String) {after : List String}
    (unbroken : ∀ part ∈ after, '\n' ∉ part.toList) :
    ∃ others, splitAtFeeds (unlines (before ++ after)) = others ++ (after ++ [""]) := by
  induction before with
  | nil => exact ⟨[], splitAtFeeds_unlines unbroken⟩
  | cons line rest ih =>
    obtain ⟨others, split⟩ := ih
    have first : unlines (line :: rest ++ after) = line ++ "\n" ++ unlines (rest ++ after) := by
      simp [unlines]
    refine ⟨splitAtFeeds line ++ others, ?_⟩
    rw [first, splitAtFeeds_append, split, List.append_assoc]

/-- The parts before line feeds are lines, without a carriage return at the end, and so is what
follows the last line feed, just as it is, unless it is empty. -/
theorem linesOfChars_eq (chars : List Char) :
    linesOfChars chars = (chars.splitOn '\n').dropLast.map withoutReturn ++
      ((chars.splitOn '\n').getLast?.filter (· ≠ [])).toList := by
  induction chars using lineInduction with
  | last only notMem =>
    rw [linesOfChars_of_notMem notMem, List.splitOn_eq_singleton notMem]
    cases only <;> rfl
  | more first rest notMem ih =>
    have more := List.splitOn_ne_nil '\n' rest
    rw [linesOfChars_append_cons notMem, List.splitOn_append_cons_self_of_not_mem notMem,
      List.dropLast_cons_of_ne_nil more, List.getLast?_cons_of_ne_nil more, ih]
    rfl

theorem lines_eq (text : String) :
    lines text = ((splitAtFeeds text).dropLast.map fun part =>
        String.ofList (withoutReturn part.toList)) ++
      ((splitAtFeeds text).getLast?.filter (· ≠ "")).toList := by
  rw [lines, linesOfChars_eq, splitAtFeeds_eq, List.map_append, ← List.map_dropLast, List.map_map,
    List.map_map, List.getLast?_map]
  congr 1
  · simp [Function.comp_def]
  · cases (text.toList.splitOn '\n').getLast? with
    | none => rfl
    | some last => cases last <;> simp [Option.filter]

/-- Lines that do not end in a carriage return are read as they were written. -/
theorem lines_unlines {parts : List String} (unbroken : ∀ part ∈ parts, '\n' ∉ part.toList)
    (noReturn : ∀ part ∈ parts, part.toList.getLast? ≠ some '\r') :
    lines (unlines parts) = parts := by
  have kept : parts.map (fun part => String.ofList (withoutReturn part.toList)) = parts := by
    refine (List.map_congr_left fun part mem => ?_).trans (List.map_id parts)
    rw [withoutReturn, if_neg (noReturn part mem), String.ofList_toList]
    rfl
  rw [lines_eq, splitAtFeeds_unlines unbroken, List.dropLast_concat, kept, List.getLast?_concat]
  simp [Option.filter]

end IndustrySet.Text
