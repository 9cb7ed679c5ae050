import JudgeVortex.Shared.OutputComparison

/-!
# What the sandbox returns of an output

`_truncate_output` and `_decode_output` of `executor_service/sandbox.py`, on texts that
are decoded already.
-/

namespace JudgeVortex.Executor

open JudgeVortex.Foundation JudgeVortex.Python JudgeVortex.Shared

variable (maxOutputBytes : Nat)

def truncateOutput (value : String) : String :=
  if value.toList.length ≤ maxOutputBytes then value
  else rstrip (.ofList (value.toList.take maxOutputBytes)) ++ "\n[output truncated]"

def decodeOutput (stdout stderr : String) : String × String :=
  (truncateOutput maxOutputBytes (strip stdout), truncateOutput maxOutputBytes (strip stderr))

@[simp] theorem fst_decodeOutput (stdout stderr : String) :
    (decodeOutput maxOutputBytes stdout stderr).1 =
      truncateOutput maxOutputBytes (strip stdout) := by
  rw [decodeOutput]

example : decodeOutput 4 " ok \n" "12345" = ("ok", "1234\n[output truncated]") := by decide

theorem truncateOutput_of_le {value : String} (h : value.toList.length ≤ maxOutputBytes) :
    truncateOutput maxOutputBytes value = value := if_pos h

/--
Normal forms compare lines up to trailing whitespace, normalizing again changes nothing,
and an output that is not truncated is compared as the program wrote it.
-/
theorem output_comparison :
    (∀ a b, normalizeJudgeOutput a = normalizeJudgeOutput b ↔
      List.Forall₂ (EqUpToTrailing isSpace) (comparedLines a) (comparedLines b)) ∧
    (∀ a, normalizeJudgeOutput (normalizeJudgeOutput a) = normalizeJudgeOutput a) ∧
    ∀ out err, (strip out).toList.length ≤ maxOutputBytes →
      normalizeJudgeOutput (decodeOutput maxOutputBytes out err).1 = normalizeJudgeOutput out := by
  refine ⟨normalizeJudgeOutput_eq_iff, normalizeJudgeOutput_normalizeJudgeOutput, ?_⟩
  intro out err hlength
  rw [fst_decodeOutput, truncateOutput_of_le maxOutputBytes hlength, normalizeJudgeOutput_strip]

theorem output_comparison_example :
    normalizeJudgeOutput (decodeOutput 1024 " 42 \r\nDONE\t\n" "").1 =
      normalizeJudgeOutput " 42 \r\nDONE\t\n" :=
  (output_comparison 1024).2.2 _ _ (by decide)

end JudgeVortex.Executor
