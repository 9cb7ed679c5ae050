import JudgeVortex.Executor.Grader
import JudgeVortex.System.Callbacks

/-!
# Grading end to end

One `grade_submission` on a job with judge cases, the row that its callback writes, and what
the database makes of it.
-/

namespace JudgeVortex.System

open JudgeVortex.CoreApi JudgeVortex.Executor JudgeVortex.Python JudgeVortex.Shared

def failedStatus (status : String) : String :=
  if status = "SUCCESS" then "WRONG_ANSWER" else reportedStatus status

structure GradedAs (submission : Submission) (status : String)
    (marks passed total : Int) : Prop where
  status_eq : submission.status = status
  marks_eq : submission.awardedMarks = marks
  passed_eq : submission.passedTestcases = passed
  total_eq : submission.totalTestcases = total

def FullyPassed (preparation : Preparation) (results : Nat → SandboxResult)
    (cases : List TestCase) : Prop :=
  preparation = .ready ∧ AllPass results 0 cases

section Grading

variable [PythonRuntime]

/-- `written` is the row that the callback hands to the database, if there is a callback. -/
structure Graded where
  written : Option Submission
  submission : Submission
  executed : List Json

def gradeAndDeliver (takes : Submission → Bool) (question : Option ExamQuestion)
    (submission : Submission) (job : Job) (env : SandboxEnv) : Graded :=
  let run := gradeSubmission job env
  match run.report with
  | .ok payload =>
      ⟨callbackRow question submission payload, deliver takes question submission payload,
        run.executed⟩
  | .error _ => ⟨none, submission, run.executed⟩

variable {takes : Submission → Bool} {question : ExamQuestion} {submission row : Submission}
  {job : Job} {env : SandboxEnv}

theorem submission_of_written
    (h : (gradeAndDeliver takes (some question) submission job env).written = some row) :
    (gradeAndDeliver takes (some question) submission job env).submission =
      if takes row then row else submission := by
  cases hreport : (gradeSubmission job env).report with
  | error error =>
      rw [gradeAndDeliver, hreport] at h
      cases h
  | ok payload =>
      rw [gradeAndDeliver, hreport] at h ⊢
      obtain rfl := Option.some_inj.mp h
      exact deliver_eq takes (some question) submission payload

/-- The grading ends with a callback, which writes these values after these runs. -/
def GradesAs (question : ExamQuestion) (submission : Submission) (job : Job) (env : SandboxEnv)
    (status : String) (marks passed : Int) (executed : List Json) : Prop :=
  ∃ payload, (gradeSubmission job env).report = .ok payload ∧
    GradedAs (callbackRow (some question) submission payload) status marks passed
      job.judgeCases.length ∧
    (gradeSubmission job env).executed = executed

section GradesAs

variable {status : String} {marks passed : Int} {executed : List Json}

theorem GradesAs.isSome_written (h : GradesAs question submission job env status marks passed
    executed) (takes : Submission → Bool) :
    ∃ row, (gradeAndDeliver takes (some question) submission job env).written = some row := by
  obtain ⟨payload, hreport, -, -⟩ := h
  rw [gradeAndDeliver, hreport]
  exact ⟨_, rfl⟩

theorem GradesAs.written (h : GradesAs question submission job env status marks passed executed)
    (hrow : (gradeAndDeliver takes (some question) submission job env).written = some row) :
    GradedAs row status marks passed job.judgeCases.length ∧
      (gradeAndDeliver takes (some question) submission job env).executed = executed := by
  obtain ⟨payload, hreport, hgraded, hexecuted⟩ := h
  rw [gradeAndDeliver, hreport] at hrow ⊢
  obtain rfl := Option.some_inj.mp hrow
  exact ⟨hgraded, hexecuted⟩

end GradesAs

variable (question submission job)

theorem graded_of_failed (hcases : job.judgeCases ≠ []) {result : SandboxResult}
    (hstatus : result.status ∈ ["COMPILATION_ERROR", "SYSTEM_ERROR"])
    (execute : Nat → Except String SandboxResult) :
    GradesAs question submission job ⟨.ok (.failed result), execute⟩ result.status 0 0 [] := by
  have hpos : (0 : Int) < job.judgeCases.length := by
    exact_mod_cast List.length_pos_of_ne_nil hcases
  have hsuccess : result.status ≠ "SUCCESS" := by
    rintro heq
    rw [heq] at hstatus
    revert hstatus
    decide
  obtain ⟨hpassed, htotal, -, hrow, hmarks⟩ := callbackRow_counts question submission
    result.status result.output result.timeMs
    le_rfl hpos.le hpos
  rw [if_neg hsuccess] at hrow
  rw [if_neg fun h => hsuccess h.1] at hmarks
  simp only [GradesAs, gradeSubmission, if_neg hcases]
  exact ⟨_, rfl, ⟨hrow, hmarks, hpassed, htotal⟩, trivial⟩

theorem graded_of_allPass (hcases : job.judgeCases ≠ []) {results : Nat → SandboxResult}
    (h : AllPass results 0 job.judgeCases) :
    GradesAs question submission job ⟨.ok .ready, fun i => .ok (results i)⟩ "PASSED"
      question.totalMarks job.judgeCases.length
      (job.judgeCases.map fun case => .str case.input) := by
  have hpos : (0 : Int) < job.judgeCases.length := by
    exact_mod_cast List.length_pos_of_ne_nil hcases
  obtain ⟨output, time, hloop⟩ := gradeCases_of_allPass h job.judgeCases.length 0 0 ""
  rw [Int.zero_add] at hloop
  obtain ⟨hpassed, htotal, -, hrow, hmarks⟩ := callbackRow_counts question submission
    "SUCCESS" output time hpos.le le_rfl hpos
  rw [if_pos rfl, if_pos rfl] at hrow
  rw [if_pos ⟨rfl, rfl⟩] at hmarks
  simp only [GradesAs, gradeSubmission, if_neg hcases, hloop]
  exact ⟨_, rfl, ⟨hrow, hmarks, hpassed, htotal⟩, trivial⟩

theorem graded_of_firstFails {results : Nat → SandboxResult} {k : Nat}
    (h : FirstFails results 0 job.judgeCases k)
    (hstatus : (results k).status ∈ sandboxStatuses) :
    GradesAs question submission job ⟨.ok .ready, fun i => .ok (results i)⟩
      (failedStatus (results k).status) 0 k
      ((job.judgeCases.take (k + 1)).map fun case => .str case.input) := by
  obtain ⟨hk, hfails⟩ := h.2
  have hcases : job.judgeCases ≠ [] := List.ne_nil_of_length_pos (by omega)
  have hlt : (k : Int) < job.judgeCases.length := by exact_mod_cast hk
  obtain ⟨output, time, hloop⟩ := gradeCases_of_firstFails h
    (by rwa [Nat.zero_add]) job.judgeCases.length 0 0 ""
  rw [Int.zero_add, Nat.zero_add] at hloop
  obtain ⟨hpassed, htotal, -, hrow, hmarks⟩ := callbackRow_counts question submission
    (reportedStatus (results k).status) output time
    (by omega) hlt.le (by omega)
  rw [if_neg fun heq => absurd heq.2 hlt.ne] at hmarks
  simp only [GradesAs, gradeSubmission, if_neg hcases, hloop]
  refine ⟨_, rfl, ⟨?_, hmarks, hpassed, htotal⟩, trivial⟩
  -- A SUCCESS that does not pass its case is a wrong answer.
  by_cases hsuccess : (results k).status = "SUCCESS"
  · rw [hrow, hsuccess, if_pos (by decide), if_neg hlt.ne]
    decide
  · have hreported : reportedStatus (results k).status ≠ "SUCCESS" := by
      unfold reportedStatus
      split
      · decide
      · exact hsuccess
    rw [hrow, if_neg hreported, failedStatus, if_neg hsuccess]

omit [PythonRuntime] in
theorem failedStatus_ne_passed {status : String} (h : status ∈ sandboxStatuses) :
    failedStatus status ≠ "PASSED" := by
  simp only [sandboxStatuses, List.mem_cons, List.not_mem_nil, or_false] at h
  rcases h with rfl | rfl | rfl | rfl | rfl | rfl | rfl <;> decide

/--
The callback of a grading writes the row of its verdict, whatever the sandbox answers; the
submission becomes this row if the database takes it and stays as it was if not.
-/
theorem end_to_end_grading (takes : Submission → Bool) (hcases : job.judgeCases ≠ [])
    (preparation : Preparation)
    (hpreparation : ∀ result, preparation = .failed result →
      result.status ∈ ["COMPILATION_ERROR", "SYSTEM_ERROR"])
    (results : Nat → SandboxResult)
    (hresults : ∀ i < job.judgeCases.length, (results i).status ∈ sandboxStatuses) :
    let graded := gradeAndDeliver takes (some question) submission job
      ⟨.ok preparation, fun i => .ok (results i)⟩
    ∃ row, graded.written = some row ∧
    graded.submission = (if takes row then row else submission) ∧
    (GradedAs row "PASSED" question.totalMarks job.judgeCases.length
        job.judgeCases.length ↔ FullyPassed preparation results job.judgeCases) ∧
    (FullyPassed preparation results job.judgeCases →
      graded.executed = job.judgeCases.map fun case => .str case.input) ∧
    (∀ result, preparation = .failed result →
      GradedAs row result.status 0 0 job.judgeCases.length ∧
        graded.executed = []) ∧
    (preparation = .ready → ∀ k, FirstFails results 0 job.judgeCases k →
      GradedAs row (failedStatus (results k).status) 0 k
          job.judgeCases.length ∧
        graded.executed =
          (job.judgeCases.take (k + 1)).map fun case => .str case.input) ∧
    (¬ FullyPassed preparation results job.judgeCases →
      (∃ result, preparation = .failed result) ∨
        preparation = .ready ∧ ∃ k, FirstFails results 0 job.judgeCases k) := by
  intro graded
  cases preparation with
  | failed result =>
      have hstatus := hpreparation result rfl
      have hgrades := graded_of_failed question submission job hcases hstatus
        fun i => .ok (results i)
      obtain ⟨row, hrow⟩ := hgrades.isSome_written takes
      have hfailed := hgrades.written hrow
      have hnot : ¬ FullyPassed (.failed result) results job.judgeCases :=
        fun h => Preparation.noConfusion h.1
      refine ⟨row, hrow, submission_of_written hrow, iff_of_false (fun h => ?_) hnot,
        fun h => absurd h hnot, ?_, ?_, ?_⟩
      · have heq := hfailed.1.status_eq.symm.trans h.status_eq
        rw [heq] at hstatus
        revert hstatus
        decide
      · rintro other heq
        cases heq
        exact hfailed
      · intro h
        cases h
      · exact fun _ => .inl ⟨result, rfl⟩
  | ready =>
      have hfails : ∀ k, FirstFails results 0 job.judgeCases k → GradesAs question submission job
          ⟨.ok .ready, fun i => .ok (results i)⟩ (failedStatus (results k).status) 0 k
            ((job.judgeCases.take (k + 1)).map fun case => .str case.input) :=
        fun k h => graded_of_firstFails question submission job h (hresults k h.2.1)
      have hall := allPass_or_firstFails results 0 job.judgeCases
      obtain ⟨row, hrow⟩ : ∃ row, graded.written = some row := by
        obtain hpass | ⟨k, hk⟩ := hall
        · exact (graded_of_allPass question submission job hcases hpass).isSome_written takes
        · exact (hfails k hk).isSome_written takes
      refine ⟨row, hrow, submission_of_written hrow, ?_,
        fun h => ((graded_of_allPass question submission job hcases h.2).written hrow).2, ?_,
        fun _ k h => (hfails k h).written hrow, ?_⟩
      · obtain hpass | ⟨k, hk⟩ := hall
        · have hgrades := graded_of_allPass question submission job hcases hpass
          exact iff_of_true (hgrades.written hrow).1 ⟨rfl, hpass⟩
        · have hgraded := (hfails k hk).written hrow
          refine iff_of_false (fun h => ?_) fun h => not_allPass_of_firstFails hk h.2
          exact failedStatus_ne_passed (hresults k hk.2.1)
            (hgraded.1.status_eq.symm.trans h.status_eq)
      · rintro other heq
        cases heq
      · intro h
        obtain hpass | hk := hall
        · exact absurd ⟨rfl, hpass⟩ h
        · exact .inr ⟨rfl, hk⟩

end Grading

/-! ## A job whose second case runs out of time -/

def slowJob : Job where
  submissionId := 7
  code := "print(1)"
  language := "python"
  files := [⟨"main.py", "print(1)"⟩]
  entryFile := "main.py"
  userInput := .str "1\n\n2"
  timeLimitMs := 10000
  judgeCases := [⟨"1", "1"⟩, ⟨"2", "4"⟩]

def slowResults : Nat → SandboxResult
  | 0 => ⟨"SUCCESS", "1", 20⟩
  | _ => ⟨"TLE", "Time Limit Exceeded.", 10000⟩

def slowQuestion : ExamQuestion := ⟨1, 1, 10, "1\n\n2", "1\n\n4"⟩

def slowSubmission : Submission where
  id := 7
  userId := 3
  roomId := some 1
  questionId := some 1
  awardedMarks := 0
  passedTestcases := 0
  totalTestcases := 2
  output := none
  code := "print(1)"
  files := [⟨"main.py", "print(1)"⟩]
  entryFile := "main.py"
  language := "python"
  status := "PENDING"
  executionTimeMs := none

/-- What a save of a submission needs of PostgreSQL: a text without NUL, a status of at most 25
symbols and integers of 32 bits. -/
def postgresTakes (row : Submission) : Bool :=
  decide ('\x00' ∉ ((row.output.getD "").toList ++ row.status.toList)) &&
    decide (row.status.length ≤ 25) &&
    [row.awardedMarks, row.passedTestcases, row.totalTestcases,
      row.executionTimeMs.getD 0].all fun n => decide (-2 ^ 31 ≤ n ∧ n < 2 ^ 31)

theorem slowResults_firstFails : FirstFails slowResults 0 slowJob.judgeCases 1 := by
  refine ⟨fun i hi hlt => ?_, by decide, by decide⟩
  have hfirst : CasePasses ⟨"1", "1"⟩ (slowResults 0) := by decide
  have hzero : i = 0 := by omega
  subst hzero
  exact hfirst

theorem end_to_end_grading_second_case_slow :
    letI := plainRuntime
    let graded := gradeAndDeliver postgresTakes (some slowQuestion) slowSubmission slowJob
      ⟨.ok .ready, fun i => .ok (slowResults i)⟩
    GradedAs graded.submission "TLE" 0 1 2 ∧ graded.executed = [.str "1", .str "2"] := by
  let := plainRuntime
  intro graded
  obtain ⟨row, hrow, hstored, -, -, -, hfails, -⟩ := end_to_end_grading slowQuestion
    slowSubmission slowJob postgresTakes (by decide) .ready (by simp) slowResults (by decide)
  have htakes : ∀ row, graded.written = some row → postgresTakes row = true := by
    intro row hrow
    obtain rfl := Option.some_inj.mp hrow
    decide +kernel
  have hsubmission : graded.submission = row := hstored.trans (if_pos (htakes row hrow))
  rw [hsubmission]
  exact hfails rfl 1 slowResults_firstFails

/-- The second run prints a NUL, which is no answer; the row that says so is refused. -/
theorem nul_output_keeps_row :
    letI := plainRuntime
    let results : Nat → SandboxResult
      | 0 => ⟨"SUCCESS", "1", 20⟩
      | _ => ⟨"SUCCESS", "\x00", 20⟩
    let graded := gradeAndDeliver postgresTakes (some slowQuestion) slowSubmission slowJob
      ⟨.ok .ready, fun i => .ok (results i)⟩
    (FirstFails results 0 slowJob.judgeCases 1 ∧ failedStatus (results 1).status = "WRONG_ANSWER") ∧
      graded.submission = slowSubmission ∧ ¬ GradedAs graded.submission "WRONG_ANSWER" 0 1 2 := by
  let := plainRuntime
  intro results graded
  have hkept : graded.submission = slowSubmission := by decide +kernel
  refine ⟨⟨⟨fun i hi hlt => ?_, by decide, by decide⟩, by decide⟩, hkept, fun h => ?_⟩
  · have hfirst : CasePasses ⟨"1", "1"⟩ (results 0) := by decide
    obtain rfl : i = 0 := by omega
    exact hfirst
  · rw [hkept] at h
    exact absurd h.status_eq (by decide)

end JudgeVortex.System
