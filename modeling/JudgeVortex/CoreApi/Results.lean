import JudgeVortex.CoreApi.Models
import JudgeVortex.Foundation.Runs
import JudgeVortex.Python.Value
import JudgeVortex.Shared.Judging

/-!
# Storing a result

`finalize_submission_result` and `SubmissionUpdateView.patch`.  The executor
reports a status with counts; the web tier derives the verdict and the marks from
them and from the stored row.
-/

namespace JudgeVortex.CoreApi

open JudgeVortex.Foundation JudgeVortex.Python JudgeVortex.Shared

section Results

variable [PythonRuntime]

/-- `parse_non_negative_int`; an overflow is not caught. -/
def parseNonNegativeInt (value : Json) (default : Option Int) :
    Except PyError (Option Int) :=
  match value.toInt with
  | .ok n => .ok (some (max n 0))
  | .error .typeError | .error .valueError => .ok default
  | .error error => .error error

def parseCount (value : Json) (default : Int) : Except PyError Int :=
  (parseNonNegativeInt value (some default)).map fun n => n.getD default

def normalizeJudgeValue (value : Json) : String :=
  match value with
  | .null => ""
  | value => normalizeJudgeOutput value.toText

def hiddenTestcaseCount (question : ExamQuestion) : Int :=
  getTestcaseCount question.testcaseInput question.expectedOutput

/-- What `finalize_submission_result` assigns to the row before it saves it. -/
structure Verdict where
  status : Json
  output : Json
  awardedMarks : Int
  passedTestcases : Int
  totalTestcases : Int
  executionTimeMs : Option Int

structure Report where
  status : Json
  output : Json
  executionTimeMs : Option Int
  passedTestcases : Json
  totalTestcases : Json

def timeOrStored (time stored : Option Int) : Option Int :=
  match time with
  | none => stored
  | some 0 => stored
  | some n => some n

def settle (question : Option ExamQuestion) (status output : Json)
    (passed total : Int) (time : Option Int) : Verdict :=
  match question with
  | none => ⟨status, output, 0, passed, total, time⟩
  | some question =>
      if status = .str "SUCCESS" then
        if passed ≠ 0 ∨ total ≠ 0 then
          let total := if total = 0 then max (hiddenTestcaseCount question) 1 else total
          if passed = total then
            ⟨.str "PASSED", output, question.totalMarks, passed, total, time⟩
          else ⟨.str "WRONG_ANSWER", output, 0, passed, total, time⟩
        else
          let expected := normalizeJudgeOutput question.expectedOutput
          let actual := normalizeJudgeValue output
          let total := max (max total (hiddenTestcaseCount question)) 1
          if expected = actual then
            ⟨.str "PASSED", output, question.totalMarks, total, total, time⟩
          else ⟨.str "WRONG_ANSWER", output, 0, 0, total, time⟩
      else
        let total := if total = 0 then hiddenTestcaseCount question else total
        ⟨status, output, 0, passed, total, time⟩

def clampCount (passed total : Int) : Int :=
  if total ≠ 0 ∧ total < passed then total else passed

def finalizeSubmissionResult (submission : Submission) (question : Option ExamQuestion)
    (report : Report) : Except PyError Verdict := do
  let passed ← parseCount report.passedTestcases submission.passedTestcases
  let total ← parseCount report.totalTestcases submission.totalTestcases
  pure (settle question report.status report.output (clampCount passed total) total
    (timeOrStored report.executionTimeMs submission.executionTimeMs))

def columnText : Json → Option String
  | .null => none
  | value => some value.toText

/-- The row that the save writes.  The status column has no null. -/
def Submission.store (submission : Submission) (verdict : Verdict) : Option Submission :=
  (columnText verdict.status).map fun status =>
    { submission with
      status := status
      output := columnText verdict.output
      awardedMarks := verdict.awardedMarks
      passedTestcases := verdict.passedTestcases
      totalTestcases := verdict.totalTestcases
      executionTimeMs := verdict.executionTimeMs }

def outputValue : Option String → Json
  | none => .null
  | some output => .str output

def patchReport (submission : Submission) (payload : Dict) : Except PyError Report := do
  let time ← parseNonNegativeInt (fieldD payload "execution_time_ms" .null)
    submission.executionTimeMs
  pure {
    status := fieldD payload "status" (.str submission.status)
    output := fieldD payload "output" (outputValue submission.output)
    executionTimeMs := time
    passedTestcases := fieldD payload "passed_testcases" .null
    totalTestcases := fieldD payload "total_testcases" .null }

def patchVerdict (submission : Submission) (question : Option ExamQuestion) :
    Json → Except PyError Verdict
  | .obj payload => do
      let report ← patchReport submission payload
      finalizeSubmissionResult submission question report
  | _ => .error .attributeError

/--
The row after one update request.  `saved` tells whether the database takes the
row; a request that raises before leaves the row as it was.
-/
def patchSubmission (question : Option ExamQuestion) (submission : Submission)
    (body : Json) (saved : Bool) : Submission :=
  match patchVerdict submission question body with
  | .ok verdict => if saved then (submission.store verdict).getD submission else submission
  | .error _ => submission

/-! ## What one result stores -/

def Readable (value : Json) : Prop := value.toInt ≠ .error .overflowError

instance (value : Json) : Decidable (Readable value) :=
  inferInstanceAs (Decidable (_ ≠ _))

omit [PythonRuntime] in
theorem readable_null : Readable .null := by decide

omit [PythonRuntime] in
theorem readable_int (n : Int) : Readable (.int n) := by simp [Readable]

omit [PythonRuntime] in
theorem toInt_ne_attributeError (value : Json) : value.toInt ≠ .error .attributeError := by
  unfold Json.toInt
  split <;> try simp
  split <;> simp

omit [PythonRuntime] in
theorem parseNonNegativeInt_eq_ok_iff (value : Json) (default : Option Int) :
    (∃ n, parseNonNegativeInt value default = .ok n) ↔ Readable value := by
  have hattr := toInt_ne_attributeError value
  unfold parseNonNegativeInt Readable
  cases h : value.toInt with
  | ok n => simp
  | error error => cases error <;> simp_all

def ReachesSave (body : Json) : Prop :=
  ∃ payload, body = .obj payload ∧
    Readable (fieldD payload "execution_time_ms" .null) ∧
    Readable (fieldD payload "passed_testcases" .null) ∧
    Readable (fieldD payload "total_testcases" .null)

def requestedStatus (submission : Submission) : Json → Json
  | .obj payload => fieldD payload "status" (.str submission.status)
  | _ => .null

theorem settle_question (question : ExamQuestion) (status output : Json)
    (passed total : Int) (time : Option Int) :
    let verdict := settle (some question) status output passed total time
    (status = .str "SUCCESS" ∧ verdict.status = .str "PASSED" ∧
      verdict.awardedMarks = question.totalMarks) ∨
    (status = .str "SUCCESS" ∧ verdict.status = .str "WRONG_ANSWER" ∧
      verdict.awardedMarks = 0) ∨
    (status ≠ .str "SUCCESS" ∧ verdict.status = status ∧ verdict.awardedMarks = 0) := by
  unfold settle
  simp only
  split_ifs <;> simp_all

theorem finalizeSubmissionResult_eq_ok {submission : Submission}
    {question : Option ExamQuestion} {report : Report} {verdict : Verdict}
    (h : finalizeSubmissionResult submission question report = .ok verdict) :
    ∃ passed total,
      parseCount report.passedTestcases submission.passedTestcases = .ok passed ∧
      parseCount report.totalTestcases submission.totalTestcases = .ok total ∧
      verdict = settle question report.status report.output (clampCount passed total)
        total (timeOrStored report.executionTimeMs submission.executionTimeMs) := by
  simp only [finalizeSubmissionResult, bind_eq_ok_iff] at h
  obtain ⟨passed, hpassed, total, htotal, hverdict⟩ := h
  cases hverdict
  exact ⟨passed, total, hpassed, htotal, rfl⟩

theorem columnText_of_ne_null {value : Json} (h : value ≠ .null) :
    columnText value = some value.toText := by
  cases value with
  | null => exact absurd rfl h
  | _ => rfl

theorem store_of_null {submission : Submission} {verdict : Verdict}
    (h : verdict.status = .null) : submission.store verdict = none := by
  rw [Submission.store, h]
  rfl

theorem store_of_ne_null (submission : Submission) {verdict : Verdict}
    (h : verdict.status ≠ .null) :
    submission.store verdict = some { submission with
      status := verdict.status.toText
      output := columnText verdict.output
      awardedMarks := verdict.awardedMarks
      passedTestcases := verdict.passedTestcases
      totalTestcases := verdict.totalTestcases
      executionTimeMs := verdict.executionTimeMs } := by
  rw [Submission.store, columnText_of_ne_null h]
  rfl

omit [PythonRuntime] in
theorem parseCount_eq_ok_iff (value : Json) (default : Int) :
    (∃ n, parseCount value default = .ok n) ↔ Readable value := by
  rw [← parseNonNegativeInt_eq_ok_iff value (some default), parseCount]
  cases parseNonNegativeInt value (some default) <;> simp [Except.map]

theorem patchVerdict_eq_ok_iff (submission : Submission) (question : Option ExamQuestion)
    (body : Json) :
    (∃ verdict, patchVerdict submission question body = .ok verdict) ↔
      ReachesSave body := by
  cases body with
  | obj payload =>
      have htime := parseNonNegativeInt_eq_ok_iff
        (fieldD payload "execution_time_ms" .null) submission.executionTimeMs
      have hpassed := parseCount_eq_ok_iff
        (fieldD payload "passed_testcases" .null) submission.passedTestcases
      have htotal := parseCount_eq_ok_iff
        (fieldD payload "total_testcases" .null) submission.totalTestcases
      have hreach : ReachesSave (.obj payload) ↔
          Readable (fieldD payload "execution_time_ms" .null) ∧
          Readable (fieldD payload "passed_testcases" .null) ∧
          Readable (fieldD payload "total_testcases" .null) := by
        constructor
        · rintro ⟨payload', hbody, hreadable⟩
          cases hbody
          exact hreadable
        · exact fun h => ⟨payload, rfl, h⟩
      rw [hreach, ← htime, ← hpassed, ← htotal]
      simp only [patchVerdict, patchReport, finalizeSubmissionResult]
      cases parseNonNegativeInt (fieldD payload "execution_time_ms" .null)
          submission.executionTimeMs with
      | error error => simp [bind, Except.bind]
      | ok time =>
          simp only [bind, Except.bind, pure, Except.pure]
          cases parseCount (fieldD payload "passed_testcases" .null)
              submission.passedTestcases with
          | error error => simp
          | ok passed =>
              cases parseCount (fieldD payload "total_testcases" .null)
                submission.totalTestcases <;> simp
  | null | bool b | int n | float x | str s | arr items =>
      simp [patchVerdict, ReachesSave]

theorem patchVerdict_settles {submission : Submission} {question : Option ExamQuestion}
    {body : Json} {verdict : Verdict}
    (h : patchVerdict submission question body = .ok verdict) :
    ∃ output passed total time,
      verdict = settle question (requestedStatus submission body) output passed total
        time := by
  cases body with
  | obj payload =>
      simp only [patchVerdict, patchReport, bind_eq_ok_iff] at h
      obtain ⟨report, ⟨time, -, hreport⟩, h⟩ := h
      cases hreport
      obtain ⟨passed, total, -, -, hverdict⟩ := finalizeSubmissionResult_eq_ok h
      exact ⟨_, _, _, _, hverdict⟩
  | null | bool b | int n | float x | str s | arr items => simp [patchVerdict] at h

/-! ## Marks and status -/

structure UpdateRequest where
  body : Json
  saved : Bool

def updateStep (question : ExamQuestion) (submission : Submission)
    (request : UpdateRequest) : Submission :=
  patchSubmission (some question) submission request.body request.saved

def Coupled (question : ExamQuestion) (submission : Submission) : Prop :=
  submission.awardedMarks =
    if submission.status = "PASSED" then question.totalMarks else 0

/-- The request is stored and asks for the status PASSED itself. -/
def AsksForPassed (submission : Submission) (request : UpdateRequest) : Prop :=
  request.saved = true ∧ ReachesSave request.body ∧
    requestedStatus submission request.body = .str "PASSED"

instance (question : ExamQuestion) (submission : Submission) :
    Decidable (Coupled question submission) :=
  inferInstanceAs (Decidable (_ = _))

def FreshlyCreated (submission : Submission) : Prop :=
  submission.awardedMarks = 0 ∧
    (submission.status = "PENDING" ∨ submission.status = "SYSTEM_ERROR")

omit [PythonRuntime] in
theorem FreshlyCreated.coupled {submission : Submission} (h : FreshlyCreated submission)
    (question : ExamQuestion) : Coupled question submission := by
  obtain ⟨hmarks, hstatus⟩ := h
  rcases hstatus with hstatus | hstatus <;> simp [Coupled, hmarks, hstatus]

theorem toText_eq_passed_iff (value : Json) :
    value.toText = "PASSED" ↔ value = .str "PASSED" :=
  toText_eq_iff (c := 'P') rfl (by decide) value

theorem coupled_store_iff (question : ExamQuestion) (hmarks : 0 < question.totalMarks)
    {submission : Submission} (h : Coupled question submission) (status output : Json)
    (passed total : Int) (time : Option Int) :
    Coupled question ((submission.store
        (settle (some question) status output passed total time)).getD submission) ↔
      status ≠ .str "PASSED" := by
  -- The executor's SUCCESS is settled by the counts; other statuses are kept.
  have hsettled := settle_question question status output passed total time
  generalize settle (some question) status output passed total time = verdict at hsettled
  rcases hsettled with ⟨hsuccess, hstatus, hawarded⟩ |
    ⟨hsuccess, hstatus, hawarded⟩ | ⟨-, hstatus, hawarded⟩
  · rw [store_of_ne_null submission (by simp [hstatus])]
    simp [Coupled, hstatus, hawarded, hsuccess]
  · rw [store_of_ne_null submission (by simp [hstatus])]
    simp [Coupled, hstatus, hawarded, hsuccess]
  · by_cases hnull : status = .null
    · rw [store_of_null (hstatus.trans hnull), hnull]
      simpa using h
    · rw [store_of_ne_null submission (by rwa [hstatus]), ne_eq, ← toText_eq_passed_iff,
        hstatus]
      simp only [Option.getD_some, Coupled, hawarded]
      split
      next hpassed => simp [hpassed, hmarks.ne]
      next hother => simp [hother]

theorem coupled_updateStep_iff (question : ExamQuestion) (hmarks : 0 < question.totalMarks)
    (submission : Submission) (request : UpdateRequest)
    (h : Coupled question submission) :
    Coupled question (updateStep question submission request) ↔
      ¬ AsksForPassed submission request := by
  have hreaches := patchVerdict_eq_ok_iff submission (some question) request.body
  unfold updateStep patchSubmission
  cases hverdict : patchVerdict submission (some question) request.body with
  | error error =>
      have hnot : ¬ ReachesSave request.body := by
        rw [← hreaches, hverdict]
        simp
      exact iff_of_true h fun hask => hnot hask.2.1
  | ok verdict =>
      have hreach : ReachesSave request.body := hreaches.mp ⟨verdict, hverdict⟩
      cases hsaved : request.saved with
      | false =>
          exact iff_of_true h fun hask => by simp [AsksForPassed, hsaved] at hask
      | true =>
          have hask : AsksForPassed submission request ↔
              requestedStatus submission request.body = .str "PASSED" := by
            simp [AsksForPassed, hsaved, hreach]
          obtain ⟨output, passed, total, time, rfl⟩ := patchVerdict_settles hverdict
          rw [hask]
          exact coupled_store_iff question hmarks h _ output passed total time

/--
Along a run of update requests, marks and status stay coupled exactly if no stored
request asks for PASSED: by naming it, or by naming no status for a row that has it.
-/
theorem marks_coupled_iff (question : ExamQuestion) (hmarks : 0 < question.totalMarks)
    (submission : Submission) (hfresh : FreshlyCreated submission)
    (requests : List UpdateRequest) :
    (∀ p ∈ transitions (updateStep question) submission requests,
        Coupled question (updateStep question p.1 p.2)) ↔
      ∀ p ∈ transitions (updateStep question) submission requests,
        ¬ AsksForPassed p.1 p.2 :=
  reached_forall_iff (updateStep question) (I := fun _ => True) (J := Coupled question)
    (C := fun submission request => ¬ AsksForPassed submission request)
    (fun _ _ _ => trivial)
    (fun submission request _ h => coupled_updateStep_iff question hmarks submission request h)
    trivial (hfresh.coupled question) requests

end Results

/-! ## A run with a late request -/

private def twoCases : ExamQuestion := ⟨1, 1, 10, "1\n\n2", "1\n\n4"⟩

private def pendingRow : Submission :=
  { id := 7, userId := 3, roomId := some 1, questionId := some 1, awardedMarks := 0,
    passedTestcases := 0, totalTestcases := 2, output := none, code := "print(1)",
    files := [⟨"main.py", "print(1)"⟩], entryFile := "main.py", language := "python",
    status := "PENDING", executionTimeMs := none }

private def fullReport : UpdateRequest :=
  ⟨.obj [("status", .str "SUCCESS"), ("output", .str "4"), ("execution_time_ms", .int 12),
    ("passed_testcases", .int 2), ("total_testcases", .int 2)], true⟩

private def lateReport : UpdateRequest := ⟨.obj [("output", .str "4")], true⟩

/-- A report without a status keeps PASSED and takes the marks away. -/
theorem late_report_decouples :
    letI := plainRuntime
    FreshlyCreated pendingRow ∧
      ¬ ∀ p ∈ transitions (updateStep twoCases) pendingRow [fullReport, lateReport],
        Coupled twoCases (updateStep twoCases p.1 p.2) := by
  refine ⟨⟨rfl, .inl rfl⟩, fun h => ?_⟩
  have hlast := h _ (List.mem_cons_of_mem _ (List.mem_cons_self))
  revert hlast
  decide

theorem marks_coupled_full_report :
    letI := plainRuntime
    (∀ p ∈ transitions (updateStep twoCases) pendingRow [fullReport],
        Coupled twoCases (updateStep twoCases p.1 p.2)) ↔
      ∀ p ∈ transitions (updateStep twoCases) pendingRow [fullReport],
        ¬ AsksForPassed p.1 p.2 :=
  letI := plainRuntime
  marks_coupled_iff twoCases (by decide) pendingRow ⟨rfl, .inl rfl⟩ [fullReport]

end JudgeVortex.CoreApi
