import JudgeVortex.System.Grading
import JudgeVortex.System.StudentView

/-!
# Hidden cases and the output of a program

A question is graded in two versions that differ in their hidden texts.  The output of
the run at which grading stops is stored with the row and read by its student.
-/

namespace JudgeVortex.System

open JudgeVortex.CoreApi JudgeVortex.Executor JudgeVortex.Python JudgeVortex.Shared

/-- A program as a function of its input; it is prepared with the first one. -/
structure StudentProgram where
  prepare : String → Preparation
  run : String → SandboxResult
  failed_status : ∀ input result, prepare input = .failed result →
    result.status ∈ ["COMPILATION_ERROR", "SYSTEM_ERROR"]
  run_status : ∀ input, (run input).status ∈ sandboxStatuses

def inputAt (cases : List TestCase) (i : Nat) : String :=
  (cases[i]?.map TestCase.input).getD ""

namespace StudentProgram

variable (program : StudentProgram)

def env (cases : List TestCase) : SandboxEnv :=
  ⟨.ok (program.prepare (inputAt cases 0)), fun i => .ok (program.run (inputAt cases i))⟩

/-- The first case that the program does not pass, or the last case. -/
def decidingCase (cases : List TestCase) : Option TestCase :=
  (cases.find? fun case => ¬ CasePasses case (program.run case.input)).or cases.getLast?

def decidingResult (last : SandboxResult) (cases : List TestCase) : SandboxResult :=
  ((program.decidingCase cases).map fun case => program.run case.input).getD last

def answer (cases : List TestCase) : SandboxResult :=
  match program.prepare (inputAt cases 0) with
  | .failed result => result
  | .ready => program.decidingResult ⟨"SUCCESS", "", 0⟩ cases

def AnswersAlike (cases₁ cases₂ : List TestCase) : Prop :=
  (program.answer cases₁).status = "TLE" ∨
    (program.answer cases₁).output = (program.answer cases₂).output

end StudentProgram

/-! ## Where grading stops -/

section Deciding

variable (program : StudentProgram)

theorem decidingResult_of_pass {case : TestCase}
    (h : CasePasses case (program.run case.input)) (last : SandboxResult)
    (rest : List TestCase) :
    program.decidingResult last (case :: rest) =
      program.decidingResult (program.run case.input) rest := by
  have hfind : (case :: rest).find? (fun case => ¬ CasePasses case (program.run case.input)) =
      rest.find? fun case => ¬ CasePasses case (program.run case.input) :=
    List.find?_cons_of_neg (by simpa using h)
  simp only [StudentProgram.decidingResult, StudentProgram.decidingCase, hfind]
  cases rest with
  | nil => rfl
  | cons next rest =>
      obtain ⟨final, hfinal⟩ : ∃ final, (next :: rest).getLast? = some final :=
        ⟨_, List.getLast?_eq_some_getLast (List.cons_ne_nil next rest)⟩
      rw [List.getLast?_cons_cons, hfinal]
      cases List.find? (fun case => ¬ CasePasses case (program.run case.input))
        (next :: rest) <;> rfl

theorem decidingResult_of_fail {case : TestCase}
    (h : ¬ CasePasses case (program.run case.input)) (last : SandboxResult)
    (rest : List TestCase) :
    program.decidingResult last (case :: rest) = program.run case.input := by
  have hfind : (case :: rest).find? (fun case => ¬ CasePasses case (program.run case.input)) =
      some case := List.find?_cons_of_pos (by simpa using h)
  simp only [StudentProgram.decidingResult, StudentProgram.decidingCase, hfind]
  rfl

theorem gradeCases_decides (results : Nat → SandboxResult) {index : Nat}
    {cases : List TestCase}
    (hresults : ∀ i (h : i < cases.length),
      results (index + i) = program.run (cases[i]).input)
    (last : SandboxResult) (hlast : last.status = "SUCCESS") (total passed time : Int) :
    ∃ passed' time',
      (gradeCases (fun i => .ok (results i)) total cases index passed time
          last.output).1 =
        .ok ⟨reportedStatus (program.decidingResult last cases).status,
          reportedOutput (program.decidingResult last cases), time', some passed',
          some total⟩ ∧
      passed ≤ passed' ∧ passed' ≤ passed + cases.length := by
  induction cases generalizing index last passed time with
  | nil =>
      have hnone : program.decidingResult last [] = last := rfl
      refine ⟨passed, time, ?_, le_rfl, by simp⟩
      simp [gradeCases, hnone, hlast, reportedStatus, reportedOutput]
  | cons case rest ih =>
      have hhead : results index = program.run case.input := hresults 0 (by simp)
      have htail : ∀ i (h : i < rest.length),
          results (index + 1 + i) = program.run (rest[i]).input := by
        intro i hi
        have hshift : index + 1 + i = index + (i + 1) := by omega
        rw [hshift]
        exact hresults (i + 1) (by simpa using hi)
      by_cases hcase : CasePasses case (program.run case.input)
      · obtain ⟨passed', time', hrest, hle, hbound⟩ :=
          ih htail _ hcase.1 (passed + 1) (time + (results index).timeMs)
        refine ⟨passed', time', ?_, by omega, ?_⟩
        · rw [gradeCases_pass (by rwa [hhead]), decidingResult_of_pass program hcase]
          rw [← hhead] at hrest ⊢
          exact hrest
        · rw [List.length_cons]
          push_cast
          omega
      · refine ⟨passed, time + (results index).timeMs, ?_, le_rfl, by omega⟩
        rw [gradeCases_fail (by rwa [hhead]) (by rw [hhead]; exact program.run_status _),
          decidingResult_of_fail program hcase, hhead]

end Deciding

/-! ## The row that is stored -/

def judging (job : Job) (texts : HiddenTexts) : Job :=
  { job with userInput := .str texts.testcaseInput, judgeCases := texts.cases }

theorem judging_judgeCases (job : Job) (texts : HiddenTexts) :
    (judging job texts).judgeCases = texts.cases := by
  rw [judging]

theorem HiddenTexts.cases_ne_nil (texts : HiddenTexts) : texts.cases ≠ [] :=
  buildTestcases_ne_nil _ _

theorem answer_status (program : StudentProgram) {cases : List TestCase}
    (hcases : cases ≠ []) : (program.answer cases).status ∈ sandboxStatuses := by
  unfold StudentProgram.answer
  cases hprepare : program.prepare (inputAt cases 0) with
  | failed result =>
      have hstatus := program.failed_status _ _ hprepare
      revert hstatus
      simp only [sandboxStatuses, List.mem_cons, List.not_mem_nil, or_false]
      rintro (h | h) <;> simp [h]
  | ready =>
      have hdecided : (program.decidingCase cases).isSome := by
        rw [StudentProgram.decidingCase, Option.isSome_or,
          List.getLast?_eq_some_getLast hcases, Option.isSome_some, Bool.or_true]
      obtain ⟨case, hcase⟩ := Option.isSome_iff_exists.mp hdecided
      simp only [StudentProgram.decidingResult, hcase, Option.map_some, Option.getD_some]
      exact program.run_status case.input

section Rows

variable [PythonRuntime] (program : StudentProgram)

def StudentProgram.graded (question : DescribedQuestion) (submission : Submission)
    (job : Job) (texts : HiddenTexts) : Submission :=
  (gradeAndDeliver (fun _ => true) (some (question.withHidden texts).toExamQuestion) submission
    (judging job texts) (program.env texts.cases)).submission

omit [PythonRuntime] in
theorem report_answers {job : Job} (hcases : job.judgeCases ≠ []) :
    ∃ passed time,
      (gradeSubmission job (program.env job.judgeCases)).report =
        .ok ⟨reportedStatus (program.answer job.judgeCases).status,
          reportedOutput (program.answer job.judgeCases), time, some passed,
          some job.judgeCases.length⟩ ∧
      0 ≤ passed ∧ passed ≤ job.judgeCases.length := by
  simp only [gradeSubmission, if_neg hcases, StudentProgram.env, StudentProgram.answer]
  cases hprepare : program.prepare (inputAt job.judgeCases 0) with
  | failed result =>
      have hstatus := program.failed_status _ _ hprepare
      refine ⟨0, result.timeMs, ?_, le_rfl, Int.natCast_nonneg _⟩
      have hsame : reportedStatus result.status = result.status ∧
          reportedOutput result = result.output := by
        simp only [List.mem_cons, List.not_mem_nil, or_false] at hstatus
        rcases hstatus with h | h <;> simp [reportedStatus, reportedOutput, h]
      rw [hsame.1, hsame.2]
  | ready =>
      have hinputs : ∀ i (h : i < job.judgeCases.length),
          program.run (inputAt job.judgeCases (0 + i)) =
            program.run (job.judgeCases[i]).input := by
        intro i hi
        rw [Nat.zero_add, inputAt, List.getElem?_eq_getElem hi]
        rfl
      obtain ⟨passed, time, hloop, hpos, hle⟩ := gradeCases_decides program
        (fun i => program.run (inputAt job.judgeCases i)) hinputs ⟨"SUCCESS", "", 0⟩ rfl
        job.judgeCases.length 0 0
      rw [Int.zero_add] at hle
      exact ⟨passed, time, hloop, hpos, hle⟩

theorem callbackRow_frame (question : ExamQuestion) (submission : Submission)
    (payload : CallbackPayload) :
    let row := callbackRow (some question) submission payload
    row = { submission with
      status := row.status
      output := row.output
      awardedMarks := row.awardedMarks
      passedTestcases := row.passedTestcases
      totalTestcases := row.totalTestcases
      executionTimeMs := row.executionTimeMs } := by
  simp only [callbackRow_eq]

structure AnsweredBy (answer : SandboxResult) (totalMarks total : Int)
    (submission row : Submission) : Prop where
  row_eq : row = { submission with
    status := row.status
    output := some (reportedOutput answer)
    awardedMarks := if row.status = "PASSED" then totalMarks else 0
    passedTestcases := row.passedTestcases
    totalTestcases := total
    executionTimeMs := row.executionTimeMs }
  tle_iff : row.status = "TLE" ↔ answer.status = "TLE"

theorem callbackRow_answeredBy (question : ExamQuestion) (submission : Submission)
    {answer : SandboxResult} (hanswer : answer.status ∈ sandboxStatuses) (time : Int)
    {passed total : Int} (hpassed : 0 ≤ passed) (hle : passed ≤ total) (hpos : 0 < total) :
    AnsweredBy answer question.totalMarks total submission
      (callbackRow (some question) submission ⟨reportedStatus answer.status,
        reportedOutput answer, time, some passed, some total⟩) := by
  obtain ⟨-, htotal, houtput, hstatus, hmarks⟩ := callbackRow_counts question submission
    (reportedStatus answer.status) (reportedOutput answer) time hpassed hle hpos
  have hrow := callbackRow_frame question submission ⟨reportedStatus answer.status,
    reportedOutput answer, time, some passed, some total⟩
  generalize callbackRow (some question) submission ⟨reportedStatus answer.status,
    reportedOutput answer, time, some passed, some total⟩ = row at *
  have hreported : reportedStatus answer.status ≠ "PASSED" ∧
      (reportedStatus answer.status = "TLE" ↔ answer.status = "TLE") := by
    simp only [sandboxStatuses, List.mem_cons, List.not_mem_nil, or_false] at hanswer
    rcases hanswer with h | h | h | h | h | h | h <;> simp [reportedStatus, h]
  constructor
  · have hawarded : row.awardedMarks =
        if row.status = "PASSED" then question.totalMarks else 0 := by
      rw [hmarks, hstatus]
      by_cases hsuccess : reportedStatus answer.status = "SUCCESS"
      · by_cases hall : passed = total <;> simp [hsuccess, hall]
      · simp [hsuccess, hreported.1]
    rw [← houtput, ← htotal, ← hawarded]
    exact hrow
  · rw [hstatus, ← hreported.2]
    by_cases hsuccess : reportedStatus answer.status = "SUCCESS"
    · by_cases hall : passed = total <;> simp [hsuccess, hall]
    · simp [hsuccess]

theorem gradeAndDeliver_answeredBy (question : ExamQuestion) (submission : Submission)
    {job : Job} {cases : List TestCase} (hjob : job.judgeCases = cases)
    (hcases : cases ≠ []) :
    AnsweredBy (program.answer cases) question.totalMarks cases.length submission
      (gradeAndDeliver (fun _ => true) (some question) submission job
        (program.env cases)).submission := by
  subst hjob
  have hpos : (0 : Int) < job.judgeCases.length := by
    exact_mod_cast List.length_pos_of_ne_nil hcases
  obtain ⟨passed, time, hreport, hpassed, hle⟩ := report_answers program hcases
  rw [gradeAndDeliver, hreport]
  simp only [deliver_eq, if_true]
  exact callbackRow_answeredBy question submission (answer_status program hcases) time hpassed
    hle hpos

omit [PythonRuntime] in
/-- The responses determine the row's output, and depend on nothing else of the versions. -/
theorem reads_eq_iff (p : Portal) (question : DescribedQuestion) {texts₁ texts₂ : HiddenTexts}
    (hcount : texts₁.cases.length = texts₂.cases.length) {submission row₁ row₂ : Submission}
    {answer₁ answer₂ : SandboxResult}
    (h₁ : AnsweredBy answer₁ question.totalMarks texts₁.cases.length submission row₁)
    (h₂ : AnsweredBy answer₂ question.totalMarks texts₂.cases.length submission row₂)
    (hstatus : row₁.status = row₂.status)
    (hpassed : row₁.passedTestcases = row₂.passedTestcases)
    (htime : row₁.executionTimeMs = row₂.executionTimeMs) :
    p.reads (question.withHidden texts₁) row₁ = p.reads (question.withHidden texts₂) row₂ ↔
      reportedOutput answer₁ = reportedOutput answer₂ := by
  constructor
  · intro h
    have houtput := submissionUpdate_output (congrArg StudentReads.update h)
    rw [h₁.row_eq, h₂.row_eq] at houtput
    exact Option.some.inj houtput
  · intro h
    have hrow : row₁ = row₂ := by
      rw [h₁.row_eq, h₂.row_eq, hstatus, hpassed, htime, h, hcount]
    rw [hrow]
    exact reads_withHidden p question row₂ hcount

omit [PythonRuntime] in
theorem reportedOutput_eq_iff {answer₁ answer₂ : SandboxResult}
    (h : answer₁.status = "TLE" ↔ answer₂.status = "TLE") :
    reportedOutput answer₁ = reportedOutput answer₂ ↔
      answer₁.status = "TLE" ∨ answer₁.output = answer₂.output := by
  unfold reportedOutput
  by_cases htle : answer₁.status = "TLE"
  · rw [if_pos htle, if_pos (h.mp htle)]
    exact iff_of_true rfl (.inl htle)
  · rw [if_neg htle, if_neg fun h₂ => htle (h.mpr h₂)]
    exact ⟨.inr, fun halike => halike.resolve_left htle⟩

/--
Two versions with equally many hidden cases that are graded with the same status, count
and time read the same exactly if the program's deciding outputs are the same.
-/
theorem hidden_texts_unread_iff (p : Portal) (question : DescribedQuestion)
    (submission : Submission) (job : Job) {texts₁ texts₂ : HiddenTexts}
    (hcount : texts₁.cases.length = texts₂.cases.length)
    (hstatus : (program.graded question submission job texts₁).status =
      (program.graded question submission job texts₂).status)
    (hpassed : (program.graded question submission job texts₁).passedTestcases =
      (program.graded question submission job texts₂).passedTestcases)
    (htime : (program.graded question submission job texts₁).executionTimeMs =
      (program.graded question submission job texts₂).executionTimeMs) :
    p.reads (question.withHidden texts₁) (program.graded question submission job texts₁) =
        p.reads (question.withHidden texts₂)
          (program.graded question submission job texts₂) ↔
      program.AnswersAlike texts₁.cases texts₂.cases := by
  have hanswered : ∀ texts, AnsweredBy (program.answer texts.cases) question.totalMarks
      texts.cases.length submission (program.graded question submission job texts) :=
    fun texts => gradeAndDeliver_answeredBy program
      (question.withHidden texts).toExamQuestion submission (judging_judgeCases job texts)
      texts.cases_ne_nil
  have htle : (program.answer texts₁.cases).status = "TLE" ↔
      (program.answer texts₂.cases).status = "TLE" := by
    rw [← (hanswered texts₁).tle_iff, hstatus, (hanswered texts₂).tle_iff]
  rw [reads_eq_iff p question hcount (hanswered texts₁) (hanswered texts₂) hstatus hpassed
    htime]
  exact reportedOutput_eq_iff htle

end Rows

/-! ## A program that prints its input -/

def echo : StudentProgram where
  prepare _ := .ready
  run input := ⟨"SUCCESS", input, 20⟩
  failed_status := by simp
  run_status := by simp [sandboxStatuses]

def silent : StudentProgram where
  prepare _ := .ready
  run _ := ⟨"SUCCESS", "", 20⟩
  failed_status := by simp
  run_status := by simp [sandboxStatuses]

def doubling : DescribedQuestion where
  toExamQuestion := slowQuestion
  title := "Double"
  description := "Print twice the number."
  visibleTestcaseInput := "5"
  visibleExpectedOutput := "10"

def examPortal : Portal where
  userId := 3
  username := "student"
  room := ⟨1, "Exam", "teacher", none, "2026-01-01T12:00:00+00:00", 1⟩
  participant := some ⟨1, 3, false, [1]⟩
  questions := [doubling]
  rows := [⟨slowSubmission, "2026-01-01T10:00:00Z"⟩]

theorem hidden_texts_unread_silent :
    letI := plainRuntime
    examPortal.reads (doubling.withHidden ⟨"1", "2"⟩)
        (silent.graded doubling slowSubmission slowJob ⟨"1", "2"⟩) =
      examPortal.reads (doubling.withHidden ⟨"3", "6"⟩)
        (silent.graded doubling slowSubmission slowJob ⟨"3", "6"⟩) :=
  letI := plainRuntime
  (hidden_texts_unread_iff silent examPortal doubling slowSubmission slowJob (by decide)
    (by decide) (by decide) (by decide)).mpr (.inr (by decide))

/-- Both versions are graded alike, but the student reads the hidden input. -/
theorem echo_shows_hidden_input :
    letI := plainRuntime
    let row₁ := echo.graded doubling slowSubmission slowJob ⟨"1", "2"⟩
    let row₂ := echo.graded doubling slowSubmission slowJob ⟨"3", "6"⟩
    (row₁.status = row₂.status ∧ row₁.passedTestcases = row₂.passedTestcases ∧
      row₁.executionTimeMs = row₂.executionTimeMs) ∧
    examPortal.reads (doubling.withHidden ⟨"1", "2"⟩) row₁ ≠
      examPortal.reads (doubling.withHidden ⟨"3", "6"⟩) row₂ := by
  let := plainRuntime
  refine ⟨by decide, fun h => ?_⟩
  have houtput := submissionUpdate_output (congrArg StudentReads.update h)
  revert houtput
  decide

end JudgeVortex.System
