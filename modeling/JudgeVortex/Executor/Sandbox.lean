import JudgeVortex.Python.Value
import Mathlib.Data.List.Dedup

/-!
# The sandbox, as its callers see it

`prepare_execution`, `execute_prepared` and `run_code_in_sandbox` of
`executor_service/sandbox.py`.  What a program does when it runs is unknown, so a
`SandboxEnv` answers each call; a call may also raise.
-/

namespace JudgeVortex.Executor

open JudgeVortex.Python

structure SandboxResult where
  status : String
  output : String
  timeMs : Int
  deriving DecidableEq, Repr

inductive Preparation where
  | failed (result : SandboxResult)
  | ready
  deriving DecidableEq, Repr

structure SandboxEnv where
  prepare : Except String Preparation
  execute : Nat → Except String SandboxResult

structure SandboxRun where
  result : Except String SandboxResult
  executed : List Json
  cleanups : Nat

def runCodeInSandbox (env : SandboxEnv) (input : Json) : SandboxRun :=
  match env.prepare with
  | .error error => ⟨.error error, [], 0⟩
  | .ok (.failed result) => ⟨.ok result, [], 0⟩
  | .ok .ready => ⟨env.execute 0, [input], 1⟩

/-! ## Tools of a language -/

def runtimeTools : List (String × List String) :=
  [("python", ["python3"]), ("javascript", ["node"]), ("ruby", ["ruby"]),
    ("php", ["php"]), ("cpp", ["g++"]), ("c", ["gcc"]), ("go", ["go"]),
    ("rust", ["rustc"]), ("java", ["javac", "java"]), ("typescript", ["tsc", "node"]),
    ("sql", ["sqlite3"])]

/-- `get_missing_runtime_tools`; `findTool` is the search on the host's paths. -/
def getMissingRuntimeTools (findTool : String → Option String) (language : String) :
    List String :=
  let tools := (runtimeTools.lookup language).getD []
  let missing := tools.filter fun tool =>
    tool.toList.head? ≠ some '.' ∧ tool.toList.head? ≠ some '/' ∧ findTool tool = none
  missing.dedup.mergeSort fun a b => decide (a ≤ b)

end JudgeVortex.Executor
