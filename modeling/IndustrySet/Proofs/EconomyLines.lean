import IndustrySet.Nml.Item
import IndustrySet.Proofs.Lines

set_option autoImplicit false

/-! # The lines of a block for one economy

A block for one economy has a line for each line of its body, indented unless it is empty, between
one that opens it and one that closes it. No two lines are indented to the same one, so the lines of
the body can be read off the block, and the block tells nothing else of it
(`Nml.lines_economyBlock`). -/

namespace IndustrySet.Nml

open Text

variable {line : String}

/-- A line without its indentation. -/
def unindent (line : String) : String :=
  String.ofList (line.toList.drop 4)

theorem unindent_indent (line : String) : unindent (indent line) = line := by
  unfold indent unindent
  split
  · next empty => simp [empty]
  · simp

theorem notMem_indent (notMem : '\n' ∉ line.toList) : '\n' ∉ (indent line).toList := by
  unfold indent
  split
  · simp
  · simpa using notMem

/-- The line that opens a block for an economy. -/
def economyHeader (numericId : UInt8) : String :=
  "if (" ++ economyParameter ++ " == " ++ toString numericId.toNat ++ ") \x7b"

theorem notMem_economyHeader (numericId : UInt8) : '\n' ∉ (economyHeader numericId).toList := by
  have digits : '\n' ∉ Nat.toDigits 10 numericId.toNat := fun mem =>
    absurd (Nat.isDigit_of_mem_toDigits (by decide) (by decide) mem) (by decide)
  simp [economyHeader, economyParameter, digits]

/-- What is left of a block without the lines that open and close it. -/
def bodyLines (block : String) : List String :=
  ((splitAtFeeds block).tail.dropLast.dropLast).map unindent

theorem splitAtFeeds_economyBlock (numericId : UInt8) (body : String) :
    splitAtFeeds (economyBlock numericId body) =
      economyHeader numericId :: (lines body).map indent ++ ["\x7d", ""] := by
  have joined : economyBlock numericId body =
      "\n".intercalate (economyHeader numericId :: (lines body).map indent ++ ["\x7d", ""]) :=
    calc economyBlock numericId body
        = unlines (economyHeader numericId :: (lines body).map indent ++ ["\x7d"]) ++ "" := by
          simp [economyBlock, economyHeader, unlines, String.append_assoc]
      _ = _ := by rw [unlines_append_last, List.append_assoc]; rfl
  rw [joined]
  refine splitAtFeeds_intercalate (by simp) fun part mem => ?_
  simp only [List.mem_append, List.mem_cons, List.mem_map, List.not_mem_nil, or_false] at mem
  rcases mem with (rfl | ⟨line, mem, rfl⟩) | rfl | rfl
  · exact notMem_economyHeader numericId
  · exact notMem_indent (notMem_of_mem_lines mem)
  · decide
  · decide

theorem bodyLines_economyBlock (numericId : UInt8) (body : String) :
    bodyLines (economyBlock numericId body) = lines body := by
  have indented : ((lines body).map indent).map unindent = lines body := by
    rw [List.map_map]
    exact List.map_id'' unindent_indent _
  rw [bodyLines, splitAtFeeds_economyBlock]
  simp [List.dropLast_append_of_ne_nil, indented]

/-- Blocks for the same economy are the same just if their bodies have the same lines. -/
theorem economyBlock_eq_iff {numericId : UInt8} {body other : String} :
    economyBlock numericId body = economyBlock numericId other ↔ lines body = lines other := by
  constructor
  · intro same
    rw [← bodyLines_economyBlock numericId body, same, bodyLines_economyBlock]
  · intro same
    rw [economyBlock, economyBlock, same]

/-- A block for an economy opens, has one line for each line of its body in order, indented by four
blanks unless it is empty, and closes; nothing follows but the end of the closing line. So the lines
of the body can be read off the block, and bodies give the same block just if they have the same
lines. These are the parts before line feeds, each without a carriage return at its end, and what
follows the last line feed unless it is empty. -/
theorem lines_economyBlock (numericId : UInt8) (body : String) :
    splitAtFeeds (economyBlock numericId body) =
      economyHeader numericId ::
        (lines body).map (fun line => if line = "" then "" else "    " ++ line) ++ ["\x7d", ""] ∧
    bodyLines (economyBlock numericId body) = lines body ∧
    (∀ other, economyBlock numericId body = economyBlock numericId other ↔
      lines body = lines other) ∧
    lines body = ((splitAtFeeds body).dropLast.map fun part =>
        String.ofList (withoutReturn part.toList)) ++
      ((splitAtFeeds body).getLast?.filter (· ≠ "")).toList :=
  ⟨splitAtFeeds_economyBlock numericId body, bodyLines_economyBlock numericId body,
    fun _ => economyBlock_eq_iff, lines_eq body⟩

/-- Only returns at the ends of lines are lost, and the last line feed. -/
example :
    economyBlock 2 "item \x7b\r\n\r\n  x\r\ry\n\n\x7d\r" =
      "if (param_economy == 2) \x7b\n    item \x7b\n\n      x\r\ry\n\n    \x7d\r\n\x7d\n" := by
  decide +kernel

end IndustrySet.Nml
