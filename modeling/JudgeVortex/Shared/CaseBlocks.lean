import JudgeVortex.Foundation.GroupEdges
import JudgeVortex.Shared.Judging

/-!
# Blocks and paragraphs of a text

When the blocks of `split_case_blocks` are the paragraphs of the text.
-/

namespace JudgeVortex.Shared

open JudgeVortex.Foundation JudgeVortex.Python

theorem splitCaseBlocks_replaceCarriageReturns (value : String) :
    splitCaseBlocks (replaceCarriageReturns value) = splitCaseBlocks value := by
  rw [splitCaseBlocks, replaceCarriageReturns_of_not_mem (replaceCarriageReturns_not_mem value),
    ← splitCaseBlocks]

/-- The maximal runs of lines that are not blank, once line ends are unified. -/
def caseParagraphs (value : String) : List String :=
  (paragraphs blank (lines (replaceCarriageReturns value))).map ofLines

theorem caseGroups_eq (s : String) :
    caseGroups s = solidGroups blank (trim List.isEmpty (lines s)) := rfl

private theorem ofLines_trim_iff {s : String} {group : List (List Char)}
    (hgroup : group ∈ caseGroups s) :
    ofLines (trim List.isEmpty group) = ofLines (trim blank group) ↔ Trimmed blank group := by
  have hempty : Trimmed List.isEmpty group :=
    trimmed_empty_solidGroups blank (fun _ => blank_of_isEmpty) (trimmed_trim _ _) group hgroup
  have hsolid : ∃ line ∈ group, blank line = false := by
    have := (List.mem_filter.mp hgroup).2
    rw [hasSolid, List.any_eq_true] at this
    simpa using this
  have hne : group ≠ [] := by
    rintro rfl
    simp at hsolid
  have htrim : trim blank group ≠ [] := by
    obtain ⟨line, hline, hfalse⟩ := hsolid
    rw [ne_eq, trim_eq_nil_iff]
    intro hall
    rw [hall line hline] at hfalse
    cases hfalse
  have hnewline : ∀ line ∈ group, '\n' ∉ line := fun line hline =>
    newline_not_mem_lines (mem_of_mem_caseGroups hgroup hline)
  rw [trim_of_trimmed _ hempty, ← trim_eq_self_iff]
  constructor
  · intro h
    have hlines := congrArg lines h
    rw [lines_ofLines hne hnewline, lines_ofLines htrim fun line hline =>
      hnewline line ((trim_sublist _ _).subset hline)] at hlines
    exact hlines.symm
  · intro h
    rw [h]

private theorem cleanEdges_stripChar_iff (s : String) :
    CleanEdges blank (lines (stripChar '\n' s)) ↔
      CleanEdges blank (trim List.isEmpty (lines s)) := by
  by_cases h : trim List.isEmpty (lines s) = []
  · have hlines : lines (stripChar '\n' s) = [[]] := by
      rw [stripChar_newline, h]
      rfl
    rw [hlines, h]
    exact iff_of_true (cleanEdges_of_length_le_one blank (by simp))
      (cleanEdges_of_length_le_one blank (by simp))
  · rw [lines_stripChar_newline h]

/--
The blocks are the paragraphs unless, without the newlines at the ends of the text, its
first or last line is blank and stands next to a line that is not.
-/
theorem splitCaseBlocks_eq_caseParagraphs_iff (value : String) :
    splitCaseBlocks value = caseParagraphs value ↔
      CleanEdges blank (lines (stripChar '\n' (replaceCarriageReturns value))) := by
  rw [← splitCaseBlocks_replaceCarriageReturns,
    splitCaseBlocks_eq (replaceCarriageReturns_not_mem value), caseParagraphs, ← paragraphs_trim,
    ← map_trim_solidGroups, ← caseGroups_eq, List.map_map, List.map_inj_left,
    cleanEdges_stripChar_iff, ← trimmed_solidGroups_iff, ← caseGroups_eq]
  exact forall₂_congr fun group hgroup => ofLines_trim_iff hgroup

theorem splitCaseBlocks_leading_spaces :
    splitCaseBlocks "  \n1\n\n2" = ["  \n1", "2"] ∧
      caseParagraphs "  \n1\n\n2" = ["1", "2"] := by decide

end JudgeVortex.Shared
