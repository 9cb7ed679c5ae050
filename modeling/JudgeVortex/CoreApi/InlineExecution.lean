import JudgeVortex.CoreApi.Results
import JudgeVortex.Executor.Sandbox

/-!
# Inline execution

`execute_submission_inline`: the web tier's own copy of the grading loop, which
hands its result to `finalize_submission_result` directly.
-/

namespace JudgeVortex.CoreApi

open JudgeVortex.Executor JudgeVortex.Python JudgeVortex.Shared

/-- One inline execution: the arguments it finalizes, or the exception it ends with. -/
structure InlineRun where
  report : Except String Report
  executed : List Json
  cleanups : Nat

def intOr (a b : Int) : Int := if a = 0 then b else a

def inlineCases (execute : Nat → Except String SandboxResult) (timeLimitMs total : Int) :
    List TestCase → Nat → Int → Int → String → Except String Report × List Json
  | [], _, passed, time, lastOutput =>
      (.ok ⟨.str "SUCCESS", .str lastOutput, some time, .int passed, .int total⟩, [])
  | case :: rest, index, passed, time, _ =>
      match execute index with
      | .error error => (.error error, [.str case.input])
      | .ok result =>
          let time := time + result.timeMs
          if result.status = "TLE" then
            (.ok ⟨.str "TLE", .str "Time Limit Exceeded", some (intOr time timeLimitMs),
              .int passed, .int total⟩, [.str case.input])
          else if result.status ∈ ["MEMORY_LIMIT_EXCEEDED", "MLE"] then
            (.ok ⟨.str "MLE", .str result.output, some time, .int passed, .int total⟩,
              [.str case.input])
          else if result.status ∈ ["RUNTIME_ERROR", "COMPILATION_ERROR", "SYSTEM_ERROR"] then
            (.ok ⟨.str result.status, .str result.output, some time, .int passed,
              .int total⟩, [.str case.input])
          else if normalizeJudgeOutput result.output =
              normalizeJudgeOutput case.expectedOutput then
            let (report, executed) := inlineCases execute timeLimitMs total rest (index + 1)
              (passed + 1) time result.output
            (report, .str case.input :: executed)
          else
            (.ok ⟨.str "SUCCESS", .str result.output, some time, .int passed, .int total⟩,
              [.str case.input])

def inlineReport (timeLimitMs : Int) (result : SandboxResult) : Report :=
  if result.status = "TLE" then
    ⟨.str "TLE", .str "Time Limit Exceeded", some (intOr result.timeMs timeLimitMs), .null,
      .null⟩
  else if result.status ∈ ["MEMORY_LIMIT_EXCEEDED", "MLE"] then
    ⟨.str "MLE", .str result.output, some result.timeMs, .null, .null⟩
  else if result.status ∈ ["RUNTIME_ERROR", "COMPILATION_ERROR", "SYSTEM_ERROR"] then
    ⟨.str result.status, .str result.output, some result.timeMs, .null, .null⟩
  else ⟨.str "SUCCESS", .str result.output, some result.timeMs, .null, .null⟩

def executeSubmissionInline (userInput : Json) (judgeCases : List TestCase)
    (timeLimitMs : Int) (env : SandboxEnv) : InlineRun :=
  if judgeCases = [] then
    let run := runCodeInSandbox env userInput
    ⟨run.result.map (inlineReport timeLimitMs), run.executed, run.cleanups⟩
  else
    let total : Int := judgeCases.length
    match env.prepare with
    | .error error => ⟨.error error, [], 0⟩
    | .ok (.failed result) =>
        ⟨.ok ⟨.str result.status, .str result.output, some result.timeMs, .int 0,
          .int total⟩, [], 0⟩
    | .ok .ready =>
        let (report, executed) :=
          inlineCases env.execute timeLimitMs total judgeCases 0 0 0 ""
        ⟨report, executed, 1⟩

def storeReport [PythonRuntime] (question : Option ExamQuestion) (submission : Submission)
    (report : Report) : Submission :=
  match finalizeSubmissionResult submission question report with
  | .ok verdict => (submission.store verdict).getD submission
  | .error _ => submission

end JudgeVortex.CoreApi
