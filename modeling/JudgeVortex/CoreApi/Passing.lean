import JudgeVortex.CoreApi.Results

/-!
# Requests that pass a row

Which update requests on a row with a question leave it with the status PASSED, in
terms of the body and the stored row.
-/

namespace JudgeVortex.CoreApi

open JudgeVortex.Python JudgeVortex.Shared

def readCount (value : Json) (stored : Int) : Int :=
  match value.toInt with
  | .ok n => max n 0
  | .error _ => stored

section Passing

variable [PythonRuntime] (question : ExamQuestion) (submission : Submission)

/-- The counts of the body, or else the stored ones, are full; without counts the output
is the expected one. -/
def FullCounts (payload : Dict) : Prop :=
  let passed := readCount (fieldD payload "passed_testcases" .null)
    submission.passedTestcases
  let total := readCount (fieldD payload "total_testcases" .null) submission.totalTestcases
  if total ≠ 0 then total ≤ passed
  else if passed ≠ 0 then passed = hiddenTestcaseCount question
  else normalizeJudgeOutput question.expectedOutput =
    normalizeJudgeValue (fieldD payload "output" (outputValue submission.output))

def AsksForPass (body : Json) : Prop :=
  ReachesSave body ∧ ∃ payload, body = .obj payload ∧
    (requestedStatus submission body = .str "PASSED" ∨
      requestedStatus submission body = .str "SUCCESS" ∧
        FullCounts question submission payload)

omit [PythonRuntime] in
theorem hiddenTestcaseCount_pos : 0 < hiddenTestcaseCount question := by
  have hne := buildTestcases_ne_nil question.testcaseInput question.expectedOutput
  have hpos := List.length_pos_of_ne_nil hne
  simp only [hiddenTestcaseCount, getTestcaseCount]
  omega

theorem settle_passed_iff (status output : Json) (passed total : Int) (time : Option Int) :
    (settle (some question) status output (clampCount passed total) total time).status =
        .str "PASSED" ↔
      status = .str "PASSED" ∨ status = .str "SUCCESS" ∧
        if total ≠ 0 then total ≤ passed
        else if passed ≠ 0 then passed = hiddenTestcaseCount question
        else normalizeJudgeOutput question.expectedOutput = normalizeJudgeValue output := by
  have hpos := hiddenTestcaseCount_pos question
  by_cases hstatus : status = .str "SUCCESS"
  · subst hstatus
    by_cases htotal : total = 0
    · by_cases hpassed : passed = 0
      · by_cases houtput : normalizeJudgeOutput question.expectedOutput =
            normalizeJudgeValue output <;>
          simp [settle, clampCount, htotal, hpassed, houtput]
      · have hmax : max (hiddenTestcaseCount question) 1 = hiddenTestcaseCount question := by
          omega
        by_cases hcount : passed = hiddenTestcaseCount question <;>
          simp [settle, clampCount, htotal, hpassed, hmax, hcount, hpos.ne']
    · by_cases hfull : total ≤ passed
      · have hclamp : clampCount passed total = total := by
          unfold clampCount
          split <;> omega
        simp [settle, htotal, hclamp, hfull]
      · have hclamp : clampCount passed total = passed := by
          unfold clampCount
          split <;> omega
        have hne : passed ≠ total := by omega
        simp [settle, htotal, hclamp, hfull, hne]
  · simp [settle, hstatus]

omit [PythonRuntime] in
theorem readCount_of_parseCount {value : Json} {stored n : Int}
    (h : parseCount value stored = .ok n) : n = readCount value stored := by
  unfold parseCount parseNonNegativeInt at h
  unfold readCount
  cases hread : value.toInt with
  | ok m =>
      simp only [hread, Except.map, Option.getD_some, Except.ok.injEq] at h
      exact h.symm
  | error error =>
      cases error <;> simp_all [Except.map]

theorem patchVerdict_obj {payload : Dict} {verdict : Verdict}
    (h : patchVerdict submission (some question) (.obj payload) = .ok verdict) :
    verdict.status = .str "PASSED" ↔
      requestedStatus submission (.obj payload) = .str "PASSED" ∨
        requestedStatus submission (.obj payload) = .str "SUCCESS" ∧
          FullCounts question submission payload := by
  simp only [patchVerdict, patchReport, bind_eq_ok_iff] at h
  obtain ⟨report, ⟨time, -, hreport⟩, h⟩ := h
  cases hreport
  obtain ⟨passed, total, hpassed, htotal, rfl⟩ := finalizeSubmissionResult_eq_ok h
  rw [readCount_of_parseCount hpassed, readCount_of_parseCount htotal]
  exact settle_passed_iff question _ _ _ _ _

theorem status_patchSubmission_of_asks {body : Json}
    (h : AsksForPass question submission body) :
    (patchSubmission (some question) submission body true).status = "PASSED" := by
  obtain ⟨hreach, payload, rfl, hasks⟩ := h
  obtain ⟨verdict, hverdict⟩ :=
    (patchVerdict_eq_ok_iff submission (some question) _).mpr hreach
  have hstatus := (patchVerdict_obj question submission hverdict).mpr hasks
  simp only [patchSubmission, hverdict, if_true]
  rw [store_of_ne_null submission (by simp [hstatus])]
  simp [hstatus]

theorem asks_of_status_patchSubmission {body : Json} {saved : Bool}
    (h : (patchSubmission (some question) submission body saved).status = "PASSED") :
    submission.status = "PASSED" ∨ saved = true ∧ AsksForPass question submission body := by
  unfold patchSubmission at h
  cases hverdict : patchVerdict submission (some question) body with
  | error error => exact .inl (by simpa [hverdict] using h)
  | ok verdict =>
      have hreach := (patchVerdict_eq_ok_iff submission (some question) body).mp ⟨_, hverdict⟩
      obtain ⟨payload, rfl, -⟩ := id hreach
      cases saved with
      | false => exact .inl (by simpa [hverdict] using h)
      | true =>
          simp only [hverdict, if_true] at h
          by_cases hnull : verdict.status = .null
          · rw [store_of_null hnull] at h
            exact .inl h
          · rw [store_of_ne_null submission hnull] at h
            have hpassed : verdict.status = .str "PASSED" :=
              (toText_eq_passed_iff verdict.status).mp h
            exact .inr ⟨rfl, hreach, payload, rfl,
              (patchVerdict_obj question submission hverdict).mp hpassed⟩

end Passing

end JudgeVortex.CoreApi
