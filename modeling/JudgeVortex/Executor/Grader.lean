import JudgeVortex.CoreApi.Models
import JudgeVortex.Executor.Callback
import JudgeVortex.Executor.Sandbox
import JudgeVortex.Shared.Judging

/-!
# Grading a job

`grade_submission` of `executor_service/grader.py`.  Every path through it ends in
one callback; the model returns its payload, with the inputs that were run and the
number of cleanups.
-/

namespace JudgeVortex.Executor

open JudgeVortex.CoreApi JudgeVortex.Python JudgeVortex.Shared

structure Job where
  submissionId : Int
  code : String
  language : String
  files : List WorkspaceFile
  entryFile : String
  userInput : Json
  timeLimitMs : Int
  judgeCases : List TestCase

/-- One `grade_submission`: the callback it makes, or the exception it ends with. -/
structure GradeRun where
  report : Except String CallbackPayload
  executed : List Json
  cleanups : Nat

def gradeCases (execute : Nat → Except String SandboxResult) (total : Int) :
    List TestCase → Nat → Int → Int → String → Except String CallbackPayload × List Json
  | [], _, passed, time, lastOutput =>
      (.ok ⟨"SUCCESS", lastOutput, time, some passed, some total⟩, [])
  | case :: rest, index, passed, time, _ =>
      match execute index with
      | .error error => (.error error, [.str case.input])
      | .ok result =>
          let time := time + result.timeMs
          if result.status = "TLE" then
            (.ok ⟨"TLE", "Time Limit Exceeded", time, some passed, some total⟩,
              [.str case.input])
          else if result.status ∈ ["MEMORY_LIMIT_EXCEEDED", "MLE"] then
            (.ok ⟨"MLE", result.output, time, some passed, some total⟩, [.str case.input])
          else if result.status ∈ ["RUNTIME_ERROR", "COMPILATION_ERROR", "SYSTEM_ERROR"] then
            (.ok ⟨result.status, result.output, time, some passed, some total⟩,
              [.str case.input])
          else if normalizeJudgeOutput result.output =
              normalizeJudgeOutput case.expectedOutput then
            let (report, executed) :=
              gradeCases execute total rest (index + 1) (passed + 1) time result.output
            (report, .str case.input :: executed)
          else
            (.ok ⟨"SUCCESS", result.output, time, some passed, some total⟩,
              [.str case.input])

def customReport (timeLimitMs : Int) (result : SandboxResult) : CallbackPayload :=
  if result.status = "TLE" then ⟨"TLE", "Time Limit Exceeded", timeLimitMs, none, none⟩
  else if result.status ∈ ["MEMORY_LIMIT_EXCEEDED", "MLE"] then
    ⟨"MLE", result.output, result.timeMs, none, none⟩
  else if result.status ∈ ["RUNTIME_ERROR", "COMPILATION_ERROR", "SYSTEM_ERROR"] then
    ⟨result.status, result.output, result.timeMs, none, none⟩
  else ⟨"SUCCESS", result.output, result.timeMs, none, none⟩

def gradeSubmission (job : Job) (env : SandboxEnv) : GradeRun :=
  if job.judgeCases = [] then
    let run := runCodeInSandbox env job.userInput
    ⟨run.result.map (customReport job.timeLimitMs), run.executed, run.cleanups⟩
  else
    let total : Int := job.judgeCases.length
    match env.prepare with
    | .error error => ⟨.error error, [], 0⟩
    | .ok (.failed result) =>
        ⟨.ok ⟨result.status, result.output, result.timeMs, some 0, some total⟩, [], 0⟩
    | .ok .ready =>
        let (report, executed) := gradeCases env.execute total job.judgeCases 0 0 0 ""
        ⟨report, executed, 1⟩

/-! ## Where the loop stops -/

def sandboxStatuses : List String :=
  ["SUCCESS", "TLE", "MEMORY_LIMIT_EXCEEDED", "MLE", "RUNTIME_ERROR", "COMPILATION_ERROR",
    "SYSTEM_ERROR"]

structure SandboxAnswers where
  preparation : Preparation
  results : Nat → SandboxResult
  failed_status : ∀ result, preparation = .failed result →
    result.status ∈ ["COMPILATION_ERROR", "SYSTEM_ERROR"]
  result_status : ∀ i, (results i).status ∈ sandboxStatuses

def SandboxAnswers.env (answers : SandboxAnswers) : SandboxEnv :=
  ⟨.ok answers.preparation, fun i => .ok (answers.results i)⟩

def CasePasses (case : TestCase) (result : SandboxResult) : Prop :=
  result.status = "SUCCESS" ∧
    normalizeJudgeOutput result.output = normalizeJudgeOutput case.expectedOutput

instance (case : TestCase) (result : SandboxResult) : Decidable (CasePasses case result) :=
  inferInstanceAs (Decidable (_ ∧ _))

def reportedStatus (status : String) : String :=
  if status = "MEMORY_LIMIT_EXCEEDED" then "MLE" else status

def AllPass (results : Nat → SandboxResult) (index : Nat) (cases : List TestCase) : Prop :=
  ∀ i (h : i < cases.length), CasePasses (cases[i]) (results (index + i))

def FirstFails (results : Nat → SandboxResult) (index : Nat) (cases : List TestCase)
    (k : Nat) : Prop :=
  (∀ i (h : i < cases.length), i < k → CasePasses (cases[i]) (results (index + i))) ∧
    ∃ h : k < cases.length, ¬ CasePasses (cases[k]) (results (index + k))

theorem allPass_cons {results : Nat → SandboxResult} {index : Nat} {case : TestCase}
    {rest : List TestCase} :
    AllPass results index (case :: rest) ↔
      CasePasses case (results index) ∧ AllPass results (index + 1) rest := by
  constructor
  · intro h
    refine ⟨h 0 (by simp), fun i hi => ?_⟩
    have := h (i + 1) (by simpa using hi)
    rwa [Nat.add_assoc, Nat.add_comm 1 i]
  · rintro ⟨hhead, htail⟩ i hi
    cases i with
    | zero => exact hhead
    | succ i =>
        have := htail i (by simpa using hi)
        rwa [Nat.add_assoc, Nat.add_comm 1 i] at this

theorem allPass_or_firstFails (results : Nat → SandboxResult) (index : Nat)
    (cases : List TestCase) :
    AllPass results index cases ∨ ∃ k, FirstFails results index cases k := by
  induction cases generalizing index with
  | nil => exact .inl fun i hi => by simp at hi
  | cons case rest ih =>
      by_cases hcase : CasePasses case (results index)
      · rcases ih (index + 1) with hall | ⟨k, hbefore, hk, hfails⟩
        · exact .inl (allPass_cons.mpr ⟨hcase, hall⟩)
        · refine .inr ⟨k + 1, fun i hi hlt => ?_, by simpa using hk, ?_⟩
          · cases i with
            | zero => exact hcase
            | succ i =>
                have := hbefore i (by simpa using hi) (by omega)
                rwa [Nat.add_assoc, Nat.add_comm 1 i] at this
          · rwa [Nat.add_assoc, Nat.add_comm 1 k] at hfails
      · exact .inr ⟨0, fun i _ hlt => by omega, by simp, hcase⟩

theorem not_allPass_of_firstFails {results : Nat → SandboxResult} {index k : Nat}
    {cases : List TestCase} (h : FirstFails results index cases k) :
    ¬ AllPass results index cases := by
  obtain ⟨-, hk, hfails⟩ := h
  exact fun hall => hfails (hall k hk)

def reportedOutput (result : SandboxResult) : String :=
  if result.status = "TLE" then "Time Limit Exceeded" else result.output

theorem gradeCases_pass {results : Nat → SandboxResult} {case : TestCase}
    {index : Nat} (h : CasePasses case (results index)) (total : Int)
    (rest : List TestCase) (passed time : Int) (lastOutput : String) :
    gradeCases (fun i => .ok (results i)) total (case :: rest) index passed time lastOutput =
      let after := gradeCases (fun i => .ok (results i)) total rest (index + 1)
        (passed + 1) (time + (results index).timeMs) (results index).output
      (after.1, .str case.input :: after.2) := by
  obtain ⟨hstatus, houtput⟩ := h
  simp [gradeCases, hstatus, houtput]

theorem gradeCases_fail {results : Nat → SandboxResult} {case : TestCase}
    {index : Nat} (h : ¬ CasePasses case (results index))
    (hstatus : (results index).status ∈ sandboxStatuses) (total : Int)
    (rest : List TestCase) (passed time : Int) (lastOutput : String) :
    gradeCases (fun i => .ok (results i)) total (case :: rest) index passed time lastOutput =
      (.ok ⟨reportedStatus (results index).status, reportedOutput (results index),
        time + (results index).timeMs, some passed, some total⟩, [.str case.input]) := by
  simp only [sandboxStatuses, List.mem_cons, List.not_mem_nil, or_false] at hstatus
  rcases hstatus with hstatus | hstatus | hstatus | hstatus | hstatus | hstatus | hstatus
  · have houtput : ¬ normalizeJudgeOutput (results index).output =
        normalizeJudgeOutput case.expectedOutput := fun heq => h ⟨hstatus, heq⟩
    simp [gradeCases, hstatus, houtput, reportedStatus, reportedOutput]
  all_goals simp [gradeCases, hstatus, reportedStatus, reportedOutput]

theorem gradeCases_of_allPass {results : Nat → SandboxResult} {index : Nat}
    {cases : List TestCase} (h : AllPass results index cases) (total passed time : Int)
    (lastOutput : String) :
    ∃ output time',
      gradeCases (fun i => .ok (results i)) total cases index passed time lastOutput =
        (.ok ⟨"SUCCESS", output, time', some (passed + cases.length), some total⟩,
          cases.map fun case => .str case.input) := by
  induction cases generalizing index passed time lastOutput with
  | nil => exact ⟨lastOutput, time, by simp [gradeCases]⟩
  | cons case rest ih =>
      obtain ⟨hhead, htail⟩ := allPass_cons.mp h
      obtain ⟨output, time', hrest⟩ := ih htail (passed + 1)
        (time + (results index).timeMs) (results index).output
      refine ⟨output, time', ?_⟩
      rw [gradeCases_pass hhead, hrest]
      simp only [List.length_cons, List.map_cons, Nat.cast_add, Nat.cast_one]
      rw [Int.add_assoc, Int.add_comm 1]

theorem gradeCases_of_firstFails {results : Nat → SandboxResult} {index k : Nat}
    {cases : List TestCase} (h : FirstFails results index cases k)
    (hstatus : (results (index + k)).status ∈ sandboxStatuses) (total passed time : Int)
    (lastOutput : String) :
    ∃ output time',
      gradeCases (fun i => .ok (results i)) total cases index passed time lastOutput =
        (.ok ⟨reportedStatus (results (index + k)).status, output, time',
          some (passed + k), some total⟩,
          (cases.take (k + 1)).map fun case => .str case.input) := by
  induction cases generalizing index k passed time lastOutput with
  | nil =>
      obtain ⟨-, hk, -⟩ := h
      simp at hk
  | cons case rest ih =>
      obtain ⟨hbefore, hk, hfails⟩ := h
      cases k with
      | zero =>
          have hrun := gradeCases_fail hfails hstatus total rest passed time lastOutput
          exact ⟨_, _, by simpa using hrun⟩
      | succ k =>
          have hhead : CasePasses case (results index) := hbefore 0 (by simp) (by omega)
          have hshift : ∀ i, index + 1 + i = index + (i + 1) := fun i => by omega
          have htail : FirstFails results (index + 1) rest k := by
            refine ⟨fun i hi hlt => ?_, by simpa using hk, ?_⟩
            · rw [hshift]
              exact hbefore (i + 1) (by simpa using hi) (by omega)
            · rw [hshift]
              exact hfails
          obtain ⟨output, time', hrest⟩ := ih htail (by rwa [hshift]) (passed + 1)
            (time + (results index).timeMs) (results index).output
          refine ⟨output, time', ?_⟩
          rw [gradeCases_pass hhead, hrest, hshift]
          simp only [List.take_succ_cons, List.map_cons, Nat.cast_add, Nat.cast_one]
          rw [Int.add_assoc, Int.add_comm 1]

end JudgeVortex.Executor
