import IndustrySet.Loading
import IndustrySet.Proofs.Dictionaries
import IndustrySet.Proofs.Lines

set_option autoImplicit false

/-! # Language files one after the other

A language file lists its strings line by line (`Strings.listed`). Two texts with a line feed
between them list the strings of both in order, wherever the first text ends, and a carriage return
before a line feed is a blank at the end of a line, which is taken off either way. So the strings of
several files are those of one file with their texts in order (`Strings.joined_texts`). -/

namespace IndustrySet

namespace Text

variable {mark c : Char} {line tail : List Char}

theorem splitAtChar_of_notMem (notMem : mark ∉ line) : splitAtChar mark line = none := by
  induction line with
  | nil => rfl
  | cons c line ih =>
    rw [List.mem_cons, not_or] at notMem
    rw [splitAtChar, if_neg (Ne.symm notMem.1), ih notMem.2]
    rfl

/-- What follows the line and has no mark in it belongs to the part after the mark. -/
theorem splitAtChar_append (notMem : mark ∉ tail) (line : List Char) :
    splitAtChar mark (line ++ tail) =
      (splitAtChar mark line).map fun parts => (parts.1, parts.2 ++ tail) := by
  induction line with
  | nil => exact splitAtChar_of_notMem notMem
  | cons c line ih =>
    rw [List.cons_append, splitAtChar, splitAtChar]
    split
    · rfl
    · rw [ih, Option.map_map, Option.map_map]
      rfl

theorem trimChars_concat (blank : isBlank c = true) (chars : List Char) :
    trimChars (chars ++ [c]) = trimChars chars := by
  rw [trimChars, trimChars, List.dropWhile_append]
  cases left : chars.dropWhile isBlank with
  | nil => simp [blank]
  | cons d rest =>
    have last : (d :: rest ++ [c]).reverse = c :: (d :: rest).reverse := List.reverse_concat
    simp only [List.isEmpty_cons, Bool.false_eq_true, if_false, last]
    rw [List.dropWhile_cons_of_pos blank]

theorem flatMap_withReturn_of_notMem (notMem : '\n' ∉ line) : line.flatMap withReturn = line := by
  induction line with
  | nil => rfl
  | cons c line ih =>
    rw [List.mem_cons, not_or] at notMem
    rw [List.flatMap_cons, ih notMem.2, withReturn, if_neg (Ne.symm notMem.1)]
    rfl

end Text

namespace Strings

open Text

variable {line : List Char}

theorem stringOn?_return (line : List Char) : stringOn? (line ++ ['\r']) = stringOn? line := by
  rw [stringOn?, splitAtChar_append (by decide), Option.map_map, stringOn?]
  refine Option.map_congr fun (id, text) _ => ?_
  show (_, String.ofList (trimChars (text ++ ['\r']))) = _
  rw [trimChars_concat (by decide)]

theorem stringOn?_withoutReturn (line : List Char) :
    stringOn? (withoutReturn line) = stringOn? line := by
  rw [withoutReturn]
  split
  · next last =>
    obtain ⟨start, rfl⟩ := List.getLast?_eq_some_iff.1 last
    rw [List.dropLast_concat, stringOn?_return]
  · rfl

/-- The strings that a text lists, in the order of its lines. -/
def listed (chars : List Char) : List (String × String) :=
  (linesOfChars chars).filterMap stringOn?

theorem parse_eq (text : String) : parse text = ⟨.ofList (listed text.toList)⟩ := rfl

theorem listed_of_notMem (notMem : '\n' ∉ line) : listed line = (stringOn? line).toList := by
  rw [listed, linesOfChars_of_notMem notMem]
  split
  · next empty => rw [empty]; rfl
  · rw [List.filterMap_cons, List.filterMap_nil]
    cases stringOn? line <;> rfl

theorem listed_line (notMem : '\n' ∉ line) (rest : List Char) :
    listed (line ++ '\n' :: rest) = (stringOn? line).toList ++ listed rest := by
  rw [listed, linesOfChars_append_cons notMem, List.filterMap_cons, stringOn?_withoutReturn]
  cases stringOn? line <;> rfl

/-- A text that goes on after a line feed lists first what it lists up to there. -/
theorem listed_append (chars more : List Char) :
    listed (chars ++ '\n' :: more) = listed chars ++ listed more := by
  induction chars using lineInduction with
  | last line notMem => rw [listed_line notMem, listed_of_notMem notMem]
  | more line rest notMem ih =>
    rw [List.append_assoc, List.cons_append, listed_line notMem, ih, listed_line notMem,
      List.append_assoc]

theorem listed_withReturn (chars : List Char) :
    listed (chars.flatMap withReturn) = listed chars := by
  induction chars using lineInduction with
  | last line notMem => rw [flatMap_withReturn_of_notMem notMem]
  | more line rest notMem ih =>
    have returned : (line ++ '\n' :: rest).flatMap withReturn =
        line ++ ['\r'] ++ '\n' :: rest.flatMap withReturn := by
      rw [List.flatMap_append, flatMap_withReturn_of_notMem notMem, List.append_assoc]
      rfl
    -- The return that was put in is a blank at the end of this line.
    rw [returned, listed_line (by simp [notMem]), stringOn?_return, ih, listed_line notMem]

/-! ## Texts -/

theorem parse_append (text more : String) :
    parse (text ++ "\n" ++ more) = (parse text).merge (parse more) := by
  have chars : (text ++ "\n" ++ more).toList = text.toList ++ '\n' :: more.toList := by simp
  rw [parse_eq, chars, listed_append, Dictionary.ofList_append]
  rfl

theorem parse_withReturns (text : String) : parse (withReturns text) = parse text := by
  rw [parse_eq, withReturns, String.toList_ofList, listed_withReturn, ← parse_eq]

theorem empty_merge (strings : Strings) : empty.merge strings = strings :=
  congrArg Strings.mk (Dictionary.empty_merge strings.entries)

end Strings

namespace FileTree

variable {tree : FileTree}

/-- The strings with those of one more file. -/
def mergeFile (tree : FileTree) (strings : Strings) (path : String) : Except Error Strings := do
  let text ← tree.requireText path
  return strings.merge (.parse text)

theorem loadStrings_eq (tree : FileTree) (paths : List String) :
    tree.loadStrings paths = paths.foldlM tree.mergeFile .empty := rfl

theorem mergeFile_of_ok {path text : String} (read : tree.readText path = .ok text)
    (strings : Strings) : tree.mergeFile strings path = .ok (strings.merge (.parse text)) := by
  rw [mergeFile, requireText, read]
  rfl

theorem mergeFile_of_error {path : String} {fault : FileFault}
    (refused : tree.readText path = .error fault) (strings : Strings) :
    tree.mergeFile strings path = .error (.file path fault) := by
  rw [mergeFile, requireText, refused]
  rfl

/-- Files read after a text go on with it. -/
theorem foldlM_mergeFile {paths texts : List String} (text : String)
    (read : List.Forall₂ (fun path text => tree.readText path = .ok text) paths texts) :
    paths.foldlM tree.mergeFile (.parse text) =
      .ok (.parse ("\n".intercalate (text :: texts))) := by
  induction read generalizing text with
  | nil => rw [String.intercalate_singleton]; rfl
  | @cons path next paths texts first _ ih =>
    -- What was read so far and the next text are one text again, and the rest goes on with that.
    rw [List.foldlM_cons, mergeFile_of_ok first, ← Strings.parse_append,
      String.intercalate_cons_cons, ← String.intercalate_cons_append]
    exact ih _

theorem loadStrings_of_ok {paths texts : List String}
    (read : List.Forall₂ (fun path text => tree.readText path = .ok text) paths texts) :
    tree.loadStrings paths = .ok (.parse ("\n".intercalate texts)) := by
  rw [loadStrings_eq]
  cases read with
  | nil => rfl
  | @cons path text paths texts first rest =>
    rw [List.foldlM_cons, mergeFile_of_ok first, Strings.empty_merge]
    exact foldlM_mergeFile text rest

theorem foldlM_mergeFile_isOk {paths : List String}
    (read : ∀ path ∈ paths, ∃ text, tree.readText path = .ok text) (strings : Strings) :
    ∃ merged, paths.foldlM tree.mergeFile strings = .ok merged := by
  induction paths generalizing strings with
  | nil => exact ⟨strings, rfl⟩
  | cons path paths ih =>
    obtain ⟨text, first⟩ := read path List.mem_cons_self
    rw [List.foldlM_cons, mergeFile_of_ok first]
    exact ih (fun other mem => read other (List.mem_cons_of_mem _ mem)) _

theorem loadStrings_of_error {before after : List String} {path : String} {fault : FileFault}
    (read : ∀ earlier ∈ before, ∃ text, tree.readText earlier = .ok text)
    (refused : tree.readText path = .error fault) :
    tree.loadStrings (before ++ path :: after) = .error (.file path fault) := by
  obtain ⟨merged, fine⟩ := foldlM_mergeFile_isOk read .empty
  rw [loadStrings_eq, List.foldlM_append, fine]
  show (path :: after).foldlM tree.mergeFile merged = _
  rw [List.foldlM_cons, mergeFile_of_error refused]
  rfl

end FileTree

/-- Merging the strings of texts is parsing the texts one after the other, with a line feed between
them; carriage returns before the line feeds change nothing. So files that can all be read give the
strings of their texts in order, and otherwise the first one that cannot be read is the error,
whatever comes after it. -/
theorem Strings.joined_texts :
    (∀ text more : String, parse (text ++ "\n" ++ more) = (parse text).merge (parse more)) ∧
    (∀ text : String, parse (Text.withReturns text) = parse text) ∧
    (∀ (tree : FileTree) (paths texts : List String),
      List.Forall₂ (fun path text => tree.readText path = .ok text) paths texts →
        tree.loadStrings paths = .ok (parse ("\n".intercalate texts))) ∧
    ∀ (tree : FileTree) (before after : List String) (path : String) (fault : FileFault),
      (∀ earlier ∈ before, ∃ text, tree.readText earlier = .ok text) →
      tree.readText path = .error fault →
        tree.loadStrings (before ++ path :: after) = .error (.file path fault) :=
  ⟨parse_append, parse_withReturns, fun _ _ _ => FileTree.loadStrings_of_ok,
    fun _ _ _ _ _ => FileTree.loadStrings_of_error⟩

/-- A language file and one of extra strings. -/
def FileTree.twoLanguageFiles : FileTree :=
  ⟨[(["english.lng"], .file "STR_A :a\nSTR_B :b\n".toUTF8),
    (["extra_strings.lng"], .file "STR_B :extra\nSTR_C :c\n".toUTF8)], by decide⟩

theorem Strings.joined_texts_twoLanguageFiles :
    let tree := FileTree.twoLanguageFiles
    tree.readText "english.lng" = .ok "STR_A :a\nSTR_B :b\n" ∧
    tree.readText "extra_strings.lng" = .ok "STR_B :extra\nSTR_C :c\n" ∧
    tree.readText "missing.lng" = .error .notFound ∧
    tree.loadStrings ["english.lng", "extra_strings.lng"] =
      .ok (parse "STR_A :a\nSTR_B :b\n\nSTR_B :extra\nSTR_C :c\n") ∧
    tree.loadStrings ["english.lng", "missing.lng", "extra_strings.lng"] =
      .error (.file "missing.lng" .notFound) := by
  have english : FileTree.twoLanguageFiles.readText "english.lng" = .ok "STR_A :a\nSTR_B :b\n" := by
    decide +kernel
  have extra : FileTree.twoLanguageFiles.readText "extra_strings.lng" =
      .ok "STR_B :extra\nSTR_C :c\n" := by
    decide +kernel
  have missing : FileTree.twoLanguageFiles.readText "missing.lng" = .error .notFound := by
    decide +kernel
  refine ⟨english, extra, missing, ?_, ?_⟩
  · exact joined_texts.2.2.1 _ _ _ (.cons english (.cons extra .nil))
  · refine joined_texts.2.2.2 _ ["english.lng"] _ _ _ (fun earlier mem => ?_) missing
    exact List.mem_singleton.1 mem ▸ ⟨_, english⟩

end IndustrySet
