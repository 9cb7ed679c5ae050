import JudgeVortex.Foundation.TrailingSpace
import JudgeVortex.Shared.Judging

/-!
# How outputs are compared

Two outputs count as equal when their normal forms are: when their lines are, up to
trailing whitespace.
-/

namespace JudgeVortex.Shared

open JudgeVortex.Foundation JudgeVortex.Python

/-- The lines of the whole text, with line ends unified and without space around it. -/
def comparedLines (value : String) : List (List Char) :=
  lines (strip (replaceCarriageReturns value))

theorem comparedLines_ne_nil (value : String) : comparedLines value ≠ [] :=
  List.splitOn_ne_nil _ _

theorem normalizeJudgeOutput_eq (value : String) :
    normalizeJudgeOutput value =
      ofLines ((comparedLines value).map (List.rdropWhile isSpace)) := by
  apply String.toList_injective
  have hcomp : (String.toList ∘ rstrip) ∘ String.ofList = List.rdropWhile isSpace :=
    funext fun l => by simp
  have hnewline : "\n".toList = ['\n'] := by decide
  rw [toList_ofLines, normalizeJudgeOutput, toList_join, splitChar, List.map_map, List.map_map,
    hcomp, hnewline]
  rfl

theorem lines_normalizeJudgeOutput (value : String) :
    lines (normalizeJudgeOutput value) =
      (comparedLines value).map (List.rdropWhile isSpace) := by
  rw [normalizeJudgeOutput_eq, lines_ofLines]
  · simpa using comparedLines_ne_nil value
  · intro line hline
    obtain ⟨full, hfull, rfl⟩ := List.mem_map.mp hline
    exact fun hmem => newline_not_mem_lines hfull ((List.rdropWhile_prefix _ _).subset hmem)

theorem normalizeJudgeOutput_eq_iff (a b : String) :
    normalizeJudgeOutput a = normalizeJudgeOutput b ↔
      List.Forall₂ (EqUpToTrailing isSpace) (comparedLines a) (comparedLines b) := by
  rw [← map_rdropWhile_eq_iff, ← lines_normalizeJudgeOutput, ← lines_normalizeJudgeOutput]
  constructor
  · exact congrArg lines
  · intro h
    rw [← ofLines_lines (normalizeJudgeOutput a), h, ofLines_lines]

theorem cr_not_mem_normalizeJudgeOutput (value : String) :
    '\r' ∉ (normalizeJudgeOutput value).toList := by
  rw [normalizeJudgeOutput_eq, toList_ofLines]
  intro hmem
  rcases mem_joinLines hmem with hnewline | ⟨line, hline, hmem⟩
  · exact absurd hnewline (by decide)
  · obtain ⟨full, hfull, rfl⟩ := List.mem_map.mp hline
    have hfullmem := mem_of_mem_splitOn hfull ((List.rdropWhile_prefix _ _).subset hmem)
    rw [toList_strip] at hfullmem
    exact replaceCarriageReturns_not_mem value ((trim_sublist _ _).subset hfullmem)

theorem strip_normalizeJudgeOutput (value : String) :
    strip (normalizeJudgeOutput value) = normalizeJudgeOutput value := by
  have hjoin : joinLines '\n' (comparedLines value) =
      (strip (replaceCarriageReturns value)).toList := List.intercalate_splitOn '\n'
  have htrimmed : Trimmed isSpace (joinLines '\n' (comparedLines value)) := by
    rw [hjoin, toList_strip]
    exact trimmed_trim _ _
  apply String.toList_injective
  rw [toList_strip, normalizeJudgeOutput_eq, toList_ofLines]
  exact trim_of_trimmed _ (trimmed_map_rdropWhile isSpace_newline htrimmed)

theorem normalizeJudgeOutput_normalizeJudgeOutput (value : String) :
    normalizeJudgeOutput (normalizeJudgeOutput value) = normalizeJudgeOutput value := by
  have hcompared : comparedLines (normalizeJudgeOutput value) =
      (comparedLines value).map (List.rdropWhile isSpace) := by
    rw [comparedLines, replaceCarriageReturns_of_not_mem (cr_not_mem_normalizeJudgeOutput value),
      strip_normalizeJudgeOutput, lines_normalizeJudgeOutput]
  have htwice : List.rdropWhile isSpace ∘ List.rdropWhile isSpace = List.rdropWhile isSpace :=
    funext fun line => List.rdropWhile_idempotent isSpace line
  rw [normalizeJudgeOutput_eq (normalizeJudgeOutput value), hcompared, List.map_map, htwice,
    normalizeJudgeOutput_eq]

theorem normalizeJudgeOutput_strip (value : String) :
    normalizeJudgeOutput (strip value) = normalizeJudgeOutput value := by
  rw [normalizeJudgeOutput, strip_replaceCarriageReturns_strip, ← normalizeJudgeOutput]

end JudgeVortex.Shared
