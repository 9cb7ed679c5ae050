import JudgeVortex.Executor.Endings
import JudgeVortex.System.Grading

/-!
# From the runs of a program to the row

`grade_submission` over `execute_prepared`, and the row that its callback writes: how the runs
of a program end decides the verdict, whatever backend they are made with.
-/

namespace JudgeVortex.System

open JudgeVortex.CoreApi JudgeVortex.Executor JudgeVortex.Python JudgeVortex.Shared

/-! ## The loop over the cases -/

section Loop

variable {execute : Nat → Except String SandboxResult} {total : Int}

end Loop

/-! ## The row -/

section Row

variable [PythonRuntime] (question : ExamQuestion) (submission : Submission) (job : Job)
  (maxOutputBytes : Nat) (runs : Nat → ExecutedRun)

variable {question submission job maxOutputBytes runs}

/-- The callback writes a row graded so; the submission becomes it if the database takes it. -/
def Graded.Stores (takes : Submission → Bool) (submission : Submission) (graded : Graded)
    (status : String) (marks passed total : Int) : Prop :=
  ∃ row, graded.written = some row ∧
    graded.submission = (if takes row then row else submission) ∧
    GradedAs row status marks passed total

end Row

/-! ### A second case that runs out of time -/

end JudgeVortex.System
