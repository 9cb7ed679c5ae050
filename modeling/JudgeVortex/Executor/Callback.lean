import JudgeVortex.Python.Value

/-!
# The callback to the web tier

`_patch_django` and the payload of `update_submission` in
`executor_service/grader.py`.
-/

namespace JudgeVortex.Executor

open JudgeVortex.Python

structure CallbackPayload where
  status : String
  output : String
  executionTimeMs : Int
  passedTestcases : Option Int
  totalTestcases : Option Int
  deriving DecidableEq, Repr

def CallbackPayload.body (payload : CallbackPayload) : Json :=
  .obj ([("status", .str payload.status), ("output", .str payload.output),
      ("execution_time_ms", .int payload.executionTimeMs)] ++
    (payload.passedTestcases.toList.map fun n => ("passed_testcases", .int n)) ++
    payload.totalTestcases.toList.map fun n => ("total_testcases", .int n))

/--
What becomes of one PATCH request.  A request may be stored although the executor
sees an error, when only the answer is lost or fails.
-/
inductive PatchReply where
  | accepted
  | lost (error : String)
  | refused (error : String)
  deriving DecidableEq, Repr

/-- One `update_submission`: its result and how often the web tier stored it. -/
structure PatchOutcome where
  result : Except String Unit
  stored : Nat

def patchFrom (replies : Nat → PatchReply) : Nat → Nat → String → PatchOutcome
  | 0, _, lastError =>
      ⟨.error ("Failed to update Django after retries: " ++ lastError), 0⟩
  | left + 1, attempt, _ =>
      match replies attempt with
      | .accepted => ⟨.ok (), 1⟩
      | .lost error =>
          let rest := patchFrom replies left (attempt + 1) error
          ⟨rest.result, rest.stored + 1⟩
      | .refused error => patchFrom replies left (attempt + 1) error

def patchDjango (replies : Nat → PatchReply) : PatchOutcome :=
  patchFrom replies 3 1 "None"

end JudgeVortex.Executor
