import JudgeVortex.Executor.Grader
import JudgeVortex.Executor.Isolate
import JudgeVortex.Shared.OutputComparison

/-!
# How a run ends

`_execute_native` and `_execute_isolate` of `executor_service/sandbox.py`: what the sandbox makes
of the reply of a program, under either backend.
-/

namespace JudgeVortex.Executor

open JudgeVortex.CoreApi JudgeVortex.Foundation JudgeVortex.Python JudgeVortex.Shared Scripts

/-- A run of the native backend: the process ends, its time is up, or a step raises. -/
inductive NativeRun where
  | ended (reply : ProcessReply) (elapsedMs : Int)
  | timedOut
  | raised (error : String)

inductive ExecutedRun where
  | native (run : NativeRun)
  | isolate (run : Except String IsolateRun)

section Execute

variable (maxOutputBytes : Nat) (timeLimitMs : Int)

end Execute

/-! ## What a run was -/

inductive Ending where
  | clean (stdout : String)
  | timedOut
  | outOfMemory
  | crashed
  | sandboxFault
  | raised
  deriving DecidableEq, Repr

namespace Ending

def sandboxStatus : Ending → String
  | clean _ => "SUCCESS"
  | timedOut => "TLE"
  | outOfMemory => "MEMORY_LIMIT_EXCEEDED"
  | crashed => "RUNTIME_ERROR"
  | sandboxFault | raised => "SYSTEM_ERROR"

/-- The status that is stored for a run that does not pass its case. -/
def verdict : Ending → String
  | clean _ => "WRONG_ANSWER"
  | timedOut => "TLE"
  | outOfMemory => "MLE"
  | crashed => "RUNTIME_ERROR"
  | sandboxFault | raised => "SYSTEM_ERROR"

end Ending

def NativeRun.ending : NativeRun → Ending
  | .ended reply _ =>
      if reply.returncode = 0 then .clean reply.stdout
      else if reply.returncode = -9 then .outOfMemory
      else .crashed
  | .timedOut => .timedOut
  | .raised _ => .sandboxFault

/-- What isolate tells of the run; a time that is too large for an integer raises. -/
def isolateEnding (run : IsolateRun) : Ending :=
  let data := parseIsolateMeta run.metaText
  let statusCode := metaGet data "status"
  let exitSignal := metaGet data "exitsig"
  let killed := statusCode = some "SG" ∧ (exitSignal = some "9" ∨ exitSignal = some "11")
  if (metaTimeMs data 0).isOk = false then .raised
  else if statusCode = some "TO" ∨ statusCode = some "WT" then .timedOut
  else if statusCode = some "XX" then .sandboxFault
  else if (metaGet data "cg-oom-killed").isSome ∨ killed then .outOfMemory
  else if run.returncode = 0 then .clean run.stdout
  else .crashed

def ExecutedRun.ending : ExecutedRun → Ending
  | .native run => run.ending
  | .isolate (.error _) => .raised
  | .isolate (.ok run) => isolateEnding run

section Results

variable (maxOutputBytes : Nat) (timeLimitMs : Int)

structure Tells (ending : Ending) (result : SandboxResult) : Prop where
  status : result.status = ending.sandboxStatus
  output : ∀ stdout, ending = .clean stdout →
    result.output = truncateOutput maxOutputBytes (strip stdout)

end Results

end JudgeVortex.Executor
