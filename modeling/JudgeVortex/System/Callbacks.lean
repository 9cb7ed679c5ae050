import JudgeVortex.CoreApi.Results
import JudgeVortex.Executor.Callback

/-!
# An executor's callback at the web tier

The payload of `update_submission` is an object whose counts and time are integers,
so its request always reaches the save.
-/

namespace JudgeVortex.System

open JudgeVortex.CoreApi JudgeVortex.Executor JudgeVortex.Python

variable [PythonRuntime]

def countOf (sent : Option Int) (stored : Int) : Int :=
  (sent.map fun n => max n 0).getD stored

def callbackRow (question : Option ExamQuestion) (submission : Submission)
    (payload : CallbackPayload) : Submission :=
  patchSubmission question submission payload.body true

/-- The row after a callback; the database may refuse what the save writes. -/
def deliver (takes : Submission → Bool) (question : Option ExamQuestion)
    (submission : Submission) (payload : CallbackPayload) : Submission :=
  patchSubmission question submission payload.body
    (takes (callbackRow question submission payload))

def callbackVerdict (question : Option ExamQuestion) (submission : Submission)
    (payload : CallbackPayload) : Verdict :=
  let total := countOf payload.totalTestcases submission.totalTestcases
  settle question (.str payload.status) (.str payload.output)
    (clampCount (countOf payload.passedTestcases submission.passedTestcases) total) total
    (timeOrStored (some (max payload.executionTimeMs 0)) submission.executionTimeMs)

theorem patchVerdict_payload (question : Option ExamQuestion) (submission : Submission)
    (payload : CallbackPayload) :
    patchVerdict submission question payload.body =
      .ok (callbackVerdict question submission payload) := by
  obtain ⟨status, output, time, passed, total⟩ := payload
  cases passed <;> cases total <;>
    simp [patchVerdict, patchReport, CallbackPayload.body, finalizeSubmissionResult,
      callbackVerdict, fieldD, field?, parseNonNegativeInt, parseCount, countOf,
      Json.toInt, Except.map, bind, Except.bind, pure, Except.pure]

theorem settle_status_ne_null (question : Option ExamQuestion) (status : String)
    (output : Json) (passed total : Int) (time : Option Int) :
    (settle question (.str status) output passed total time).status ≠ .null := by
  cases question with
  | none => simp [settle]
  | some question =>
      rcases settle_question question (.str status) output passed total time with
        ⟨-, h, -⟩ | ⟨-, h, -⟩ | ⟨-, h, -⟩ <;> rw [h] <;> simp

theorem callbackRow_eq (question : Option ExamQuestion) (submission : Submission)
    (payload : CallbackPayload) :
    let verdict := callbackVerdict question submission payload
    callbackRow question submission payload = { submission with
      status := verdict.status.toText
      output := columnText verdict.output
      awardedMarks := verdict.awardedMarks
      passedTestcases := verdict.passedTestcases
      totalTestcases := verdict.totalTestcases
      executionTimeMs := verdict.executionTimeMs } := by
  have hnull := settle_status_ne_null question payload.status (.str payload.output)
  simp only [callbackRow, patchSubmission, patchVerdict_payload, if_true]
  rw [store_of_ne_null]
  · rfl
  · exact hnull _ _ _

theorem deliver_eq (takes : Submission → Bool) (question : Option ExamQuestion)
    (submission : Submission) (payload : CallbackPayload) :
    deliver takes question submission payload =
      if takes (callbackRow question submission payload) then
        callbackRow question submission payload
      else submission := by
  unfold deliver
  cases takes (callbackRow question submission payload) with
  | true => rfl
  | false => simp [patchSubmission, patchVerdict_payload]

/-- A callback with counts: a SUCCESS is PASSED exactly if every case passed. -/
theorem callbackRow_counts (question : ExamQuestion) (submission : Submission)
    (status output : String) (time : Int) {passed total : Int} (hpassed : 0 ≤ passed)
    (hle : passed ≤ total) (hpos : 0 < total) :
    let row := callbackRow (some question) submission
      ⟨status, output, time, some passed, some total⟩
    row.passedTestcases = passed ∧ row.totalTestcases = total ∧
      row.output = some output ∧
      row.status = (if status = "SUCCESS" then
        if passed = total then "PASSED" else "WRONG_ANSWER" else status) ∧
      row.awardedMarks =
        if status = "SUCCESS" ∧ passed = total then question.totalMarks else 0 := by
  have hclamp : clampCount passed total = passed := by
    simp [clampCount, not_lt.mpr hle]
  have htotal : total ≠ 0 := hpos.ne'
  simp only [callbackRow_eq, callbackVerdict, countOf, Option.map_some, Option.getD_some,
    max_eq_left hpassed, max_eq_left hpos.le, hclamp, settle]
  by_cases hsuccess : status = "SUCCESS"
  · by_cases hall : passed = total <;> simp [hsuccess, hall, htotal, columnText]
  · simp [hsuccess, htotal, columnText]

end JudgeVortex.System
