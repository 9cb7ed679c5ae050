import JudgeVortex.CoreApi.Passing
import JudgeVortex.System.Platform

/-!
# The counts of a row

What the callbacks on a submission make of its two counts, from the row that
`perform_create` leaves on: when `passed_testcases` stays within `total_testcases`,
and that a callback may arrive a second time.
-/

namespace JudgeVortex.System

open JudgeVortex.CoreApi JudgeVortex.Executor JudgeVortex.Foundation JudgeVortex.Python
  JudgeVortex.Shared

section Counts

variable [PythonRuntime]

def callbackStep (question : Option ExamQuestion) (row : Submission)
    (request : UpdateRequest) : Submission :=
  patchSubmission question row request.body request.saved

/-! ## What one callback stores -/

def passedCount (row : Submission) (payload : Dict) : Int :=
  readCount (fieldD payload "passed_testcases" .null) row.passedTestcases

def totalCount (row : Submission) (payload : Dict) : Int :=
  readCount (fieldD payload "total_testcases" .null) row.totalTestcases

def readTime (value : Json) (stored : Option Int) : Option Int :=
  match value.toInt with
  | .ok n => some (max n 0)
  | .error _ => stored

def payloadVerdict (question : Option ExamQuestion) (row : Submission) (payload : Dict) :
    Verdict :=
  settle question (fieldD payload "status" (.str row.status))
    (fieldD payload "output" (outputValue row.output))
    (clampCount (passedCount row payload) (totalCount row payload)) (totalCount row payload)
    (timeOrStored (readTime (fieldD payload "execution_time_ms" .null) row.executionTimeMs)
      row.executionTimeMs)

structure Stores (row : Submission) (request : UpdateRequest) (payload : Dict) : Prop where
  body_eq : request.body = .obj payload
  saved : request.saved = true
  reaches : ReachesSave request.body
  status_ne : fieldD payload "status" (.str row.status) ≠ .null

omit [PythonRuntime] in
theorem readTime_of_parse {value : Json} {stored time : Option Int}
    (h : parseNonNegativeInt value stored = .ok time) : time = readTime value stored := by
  unfold parseNonNegativeInt at h
  unfold readTime
  cases hread : value.toInt with
  | ok n =>
      simp only [hread, Except.ok.injEq] at h
      exact h.symm
  | error error => cases error <;> simp_all

theorem patchVerdict_eq_payloadVerdict {question : Option ExamQuestion} {row : Submission}
    {payload : Dict} {verdict : Verdict}
    (h : patchVerdict row question (.obj payload) = .ok verdict) :
    verdict = payloadVerdict question row payload := by
  simp only [patchVerdict, patchReport, bind_eq_ok_iff] at h
  obtain ⟨report, ⟨time, htime, hreport⟩, h⟩ := h
  cases hreport
  obtain ⟨passed, total, hpassed, htotal, rfl⟩ := finalizeSubmissionResult_eq_ok h
  rw [readTime_of_parse htime, readCount_of_parseCount hpassed,
    readCount_of_parseCount htotal]
  rfl

theorem payloadVerdict_status_eq_null_iff (question : Option ExamQuestion)
    (row : Submission) (payload : Dict) :
    (payloadVerdict question row payload).status = .null ↔
      fieldD payload "status" (.str row.status) = .null := by
  unfold payloadVerdict
  generalize fieldD payload "status" (.str row.status) = status
  cases question with
  | none => rfl
  | some question =>
      rcases settle_question question status _ _ _ _ with
        ⟨hsuccess, hstatus, -⟩ | ⟨hsuccess, hstatus, -⟩ | ⟨-, hstatus, -⟩
      · rw [hstatus, hsuccess]
        simp
      · rw [hstatus, hsuccess]
        simp
      · rw [hstatus]

theorem callbackStep_cases (question : Option ExamQuestion) (row : Submission)
    (request : UpdateRequest) :
    (callbackStep question row request = row ∧ ∀ payload, ¬ Stores row request payload) ∨
      ∃ payload, Stores row request payload ∧
        callbackStep question row request =
          (row.store (payloadVerdict question row payload)).getD row := by
  have hreaches := patchVerdict_eq_ok_iff row question request.body
  unfold callbackStep patchSubmission
  cases hverdict : patchVerdict row question request.body with
  | error error =>
      refine .inl ⟨rfl, fun payload hstores => ?_⟩
      obtain ⟨verdict, hok⟩ := hreaches.mpr hstores.reaches
      rw [hok] at hverdict
      cases hverdict
  | ok verdict =>
      have hreach := hreaches.mp ⟨verdict, hverdict⟩
      obtain ⟨payload, hbody, -⟩ := id hreach
      rw [hbody] at hverdict
      obtain rfl := patchVerdict_eq_payloadVerdict hverdict
      by_cases hstores : request.saved = true ∧
          fieldD payload "status" (.str row.status) ≠ .null
      · exact .inr ⟨payload, ⟨hbody, hstores.1, hreach, hstores.2⟩, by simp [hstores.1]⟩
      · refine .inl ⟨?_, fun other hother => hstores ⟨hother.saved, ?_⟩⟩
        · cases hsaved : request.saved with
          | false => rfl
          | true =>
              have hstatus : fieldD payload "status" (.str row.status) = .null := by
                by_contra hne
                exact hstores ⟨hsaved, hne⟩
              simp only [if_true]
              have hnull := (payloadVerdict_status_eq_null_iff question row payload).mpr hstatus
              rw [store_of_null hnull, Option.getD_none]
        · have hsame := hbody.symm.trans hother.body_eq
          cases hsame
          exact hother.status_ne

/-! ## Counts in range -/

/-- The counts of a row with a question are in range, and PASSED means that all its
cases passed. -/
def CountsInRange (question : Option ExamQuestion) (row : Submission) : Prop :=
  (question.isSome → 0 ≤ row.passedTestcases ∧ row.passedTestcases ≤ row.totalTestcases) ∧
    (row.status = "PASSED" →
      row.passedTestcases = row.totalTestcases ∧ 1 ≤ row.totalTestcases)

/--
With its counts read from the payload or else from the row, the request has, without a
total, no more passed cases than the question has hidden ones, and for the status PASSED
at least as many passed cases as cases, or without a total those of the question.
-/
def KeepsCountsWith (question : Option ExamQuestion) (row : Submission) (payload : Dict) :
    Prop :=
  (totalCount row payload = 0 → ∀ asked ∈ question,
    passedCount row payload ≤ hiddenTestcaseCount asked) ∧
  (fieldD payload "status" (.str row.status) = .str "PASSED" →
    (totalCount row payload ≠ 0 ∧ totalCount row payload ≤ passedCount row payload) ∨
      totalCount row payload = 0 ∧ ∃ asked ∈ question,
        passedCount row payload = hiddenTestcaseCount asked)

def KeepsCounts (question : Option ExamQuestion) (row : Submission)
    (request : UpdateRequest) : Prop :=
  ∀ payload, Stores row request payload → KeepsCountsWith question row payload

def CountsNonnegative (row : Submission) : Prop :=
  0 ≤ row.passedTestcases ∧ 0 ≤ row.totalTestcases

omit [PythonRuntime] in
theorem readCount_nonneg {value : Json} {stored : Int} (h : 0 ≤ stored) :
    0 ≤ readCount value stored := by
  unfold readCount
  split
  · exact le_max_right _ _
  · exact h

omit [PythonRuntime] in
theorem clampCount_spec {passed total : Int} (hpassed : 0 ≤ passed) (htotal : 0 ≤ total) :
    0 ≤ clampCount passed total ∧
      (total ≠ 0 → clampCount passed total ≤ total ∧
        (clampCount passed total = total ↔ total ≤ passed)) ∧
      (total = 0 → clampCount passed total = passed) := by
  unfold clampCount
  split <;> omega

theorem settle_nonneg (question : Option ExamQuestion) (status output : Json)
    {passed total : Int} (hpassed : 0 ≤ passed) (htotal : 0 ≤ total) (time : Option Int) :
    0 ≤ (settle question status output passed total time).passedTestcases ∧
      0 ≤ (settle question status output passed total time).totalTestcases := by
  cases question with
  | none => exact ⟨hpassed, htotal⟩
  | some question =>
      have hpos := hiddenTestcaseCount_pos question
      unfold settle
      dsimp only
      split_ifs <;> dsimp only <;> omega

theorem settle_countsInRange_iff (question : Option ExamQuestion) (status output : Json)
    (passed total : Int) (hpassed : 0 ≤ passed) (htotal : 0 ≤ total) (time : Option Int) :
    let verdict := settle question status output (clampCount passed total) total time
    ((question.isSome → 0 ≤ verdict.passedTestcases ∧
        verdict.passedTestcases ≤ verdict.totalTestcases) ∧
      (verdict.status = .str "PASSED" → verdict.passedTestcases = verdict.totalTestcases ∧
        1 ≤ verdict.totalTestcases)) ↔
    (total = 0 → ∀ asked ∈ question, passed ≤ hiddenTestcaseCount asked) ∧
      (status = .str "PASSED" → (total ≠ 0 ∧ total ≤ passed) ∨
        total = 0 ∧ ∃ asked ∈ question, passed = hiddenTestcaseCount asked) := by
  obtain ⟨hnonneg, hgiven, hzero⟩ := clampCount_spec hpassed htotal
  generalize clampCount passed total = clamped at hnonneg hgiven hzero
  cases question with
  | none =>
      simp only [settle, Option.isSome_none, Bool.false_eq_true, false_imp_iff, true_and,
        Option.mem_def, reduceCtorEq, implies_true, false_and, exists_false, and_false,
        or_false]
      by_cases hstatus : status = .str "PASSED"
      · simp only [hstatus, forall_const]
        omega
      · simp [hstatus]
  | some question =>
      have hpos := hiddenTestcaseCount_pos question
      simp only [settle, Option.isSome_some, forall_const, Option.mem_def, Option.some.injEq,
        forall_eq', exists_eq_left']
      generalize hiddenTestcaseCount question = hidden at hpos
      by_cases hsuccess : status = .str "SUCCESS"
      · simp only [hsuccess, if_true]
        split_ifs <;> simp <;> omega
      · simp only [hsuccess, if_false]
        by_cases hstatus : status = .str "PASSED"
        · simp only [hstatus, forall_const]
          split_ifs <;> omega
        · simp only [hstatus, false_imp_iff, and_true]
          split_ifs <;> omega

/-! ## The row that is created -/

theorem storeReport_counts {row : Submission} (hrow : CountsNonnegative row)
    {report : Report} (h : Storable report) :
    CountsNonnegative (storeReport none row report) ∧
      (storeReport none row report).status ≠ "PASSED" := by
  obtain ⟨⟨status, hstatus, heq⟩, hpassed, htotal⟩ := h
  obtain ⟨passed, hpassed⟩ := (parseCount_eq_ok_iff _ row.passedTestcases).mpr hpassed
  obtain ⟨total, htotal⟩ := (parseCount_eq_ok_iff _ row.totalTestcases).mpr htotal
  have hp : 0 ≤ passed := readCount_of_parseCount hpassed ▸ readCount_nonneg hrow.1
  have ht : 0 ≤ total := readCount_of_parseCount htotal ▸ readCount_nonneg hrow.2
  have hclamp := clampCount_spec hp ht
  have hterminal : ∀ status ∈ sandboxStatuses, status ≠ "PASSED" := by decide
  simp only [storeReport, finalizeSubmissionResult, hpassed, htotal, bind, Except.bind, pure,
    Except.pure, settle, Submission.store, heq, columnText, Option.map_some,
    Option.getD_some, Json.toText]
  exact ⟨⟨hclamp.1, ht⟩, hterminal status hstatus⟩

theorem mem_dispatch_row {catalogue : Catalogue} {env : SubmitEnv} {nextId user : Int}
    {body : Dict} {row : Submission}
    (h : row ∈ (performCreate catalogue env nextId user body).dispatch.row) :
    ∃ prepared, prepareSubmission catalogue env user body = .ok prepared ∧
      catalogue.Refers (prepared.row nextId user) ∧
      row ∈ (afterCreate env prepared (prepared.row nextId user)).row := by
  cases hcreated : (performCreate catalogue env nextId user body).created with
  | some created =>
      obtain ⟨prepared, hprepared, rfl, hrefers, hdispatch⟩ := performCreate_created hcreated
      exact ⟨prepared, hprepared, hrefers, hdispatch ▸ h⟩
  | none =>
      obtain ⟨error, hrejected⟩ := performCreate_rejected hcreated
      rw [hrejected] at h
      cases h

structure FreshCounts (question : Option ExamQuestion) (row : Submission) : Prop where
  nonneg : CountsNonnegative row
  inRange : CountsInRange question row
  total_pos : question.isSome → 1 ≤ row.totalTestcases

theorem created_freshCounts {catalogue : Catalogue} {env : SubmitEnv} {nextId user : Int}
    {body : Dict} {row : Submission}
    (h : row ∈ (performCreate catalogue env nextId user body).dispatch.row) :
    FreshCounts (questionOf catalogue row) row := by
  obtain ⟨prepared, hprepared, hrefers, hrow⟩ := mem_dispatch_row h
  have hsame := afterCreate_sameWork hrow
  have hcounts : CountsNonnegative (prepared.row nextId user) :=
    ⟨le_rfl, by simp [PreparedSubmission.row]⟩
  by_cases hinline : RunsInline env (prepared.row nextId user)
  · have hnone : questionOf catalogue row = none := by
      rw [questionOf, hsame.questionId_eq, hinline.1]
      rfl
    suffices hkeeps : CountsNonnegative row ∧ row.status ≠ "PASSED" by
      rw [hnone]
      exact ⟨hkeeps.1, ⟨by simp, fun hpassed => absurd hpassed hkeeps.2⟩, by simp⟩
    obtain ⟨report, hreport, hstorable⟩ := executeSubmissionInline_storable
      prepared.userInput prepared.judgeCases prepared.timeLimitMs env.answers
    have hstored := storeReport_counts hcounts hstorable
    have hpending : (prepared.row nextId user).status ≠ "PASSED" := by
      simp [PreparedSubmission.row]
    simp only [afterCreate, hinline, if_true, dispatchInline, hreport] at hrow
    split at hrow
    · cases hrow
      exact ⟨hcounts, hpending⟩
    split at hrow
    · cases hrow
      exact ⟨hcounts, hpending⟩
    split at hrow
    · cases hrow
      exact hstored
    · cases hrow
      exact hstored
  · have hfresh : row.passedTestcases = 0 ∧
        row.totalTestcases = prepared.judgeCases.length ∧ row.status ≠ "PASSED" := by
      obtain rfl | rfl := row_afterCreate hinline hrow <;> simp [PreparedSubmission.row]
    obtain ⟨hpassed, htotal, hstatus⟩ := hfresh
    refine ⟨⟨by omega, by omega⟩, ⟨fun _ => by omega, fun h => absurd h hstatus⟩, ?_⟩
    intro hsome
    rw [hsame.questionOf] at hsome
    obtain ⟨hnone, -⟩ | ⟨id, question, hid, -, -, hcases, -⟩ :=
      question_of_refers hprepared hrefers
    · have hid : (prepared.row nextId user).questionId = none := hnone
      simp [questionOf, hid] at hsome
    · have hne := buildTestcases_ne_nil question.testcaseInput question.expectedOutput
      have hpos := List.length_pos_of_ne_nil hne
      rw [htotal, hcases]
      omega

/-! ## Runs of callbacks -/

theorem CountsNonnegative.callbackStep {row : Submission} (h : CountsNonnegative row)
    (question : Option ExamQuestion) (request : UpdateRequest) :
    CountsNonnegative (callbackStep question row request) := by
  obtain ⟨heq, -⟩ | ⟨payload, hstores, heq⟩ := callbackStep_cases question row request
  · rwa [heq]
  · have hnull := (payloadVerdict_status_eq_null_iff question row payload).not.mpr
      hstores.status_ne
    have htotal : 0 ≤ totalCount row payload := readCount_nonneg h.2
    rw [heq, store_of_ne_null row hnull]
    exact settle_nonneg question _ _
      (clampCount_spec (readCount_nonneg h.1) htotal).1 htotal _

theorem countsInRange_callbackStep_iff (question : Option ExamQuestion) (row : Submission)
    (request : UpdateRequest) (hnonneg : CountsNonnegative row)
    (h : CountsInRange question row) :
    CountsInRange question (callbackStep question row request) ↔
      KeepsCounts question row request := by
  obtain ⟨heq, hnot⟩ | ⟨payload, hstores, heq⟩ := callbackStep_cases question row request
  · rw [heq]
    exact iff_of_true h fun payload hstores => absurd hstores (hnot payload)
  · have hnull := (payloadVerdict_status_eq_null_iff question row payload).not.mpr
      hstores.status_ne
    have hsettled := settle_countsInRange_iff question
      (fieldD payload "status" (.str row.status))
      (fieldD payload "output" (outputValue row.output)) (passedCount row payload)
      (totalCount row payload) (readCount_nonneg hnonneg.1) (readCount_nonneg hnonneg.2)
      (timeOrStored (readTime (fieldD payload "execution_time_ms" .null)
        row.executionTimeMs) row.executionTimeMs)
    have honly : KeepsCounts question row request ↔ KeepsCountsWith question row payload := by
      refine ⟨fun hkeeps => hkeeps payload hstores, fun hkeeps other hother => ?_⟩
      have hsame := hstores.body_eq.symm.trans hother.body_eq
      cases hsame
      exact hkeeps
    rw [heq, store_of_ne_null row hnull, honly]
    refine Iff.trans ?_ hsettled
    simp only [CountsInRange, Option.getD_some, toText_eq_passed_iff]
    rfl

/--
From a row that `perform_create` left, the counts are in range after every callback
exactly if every callback keeps them there.
-/
theorem counts_in_range_iff {catalogue : Catalogue} {env : SubmitEnv} {nextId user : Int}
    {body : Dict} {row : Submission}
    (h : row ∈ (performCreate catalogue env nextId user body).dispatch.row)
    (requests : List UpdateRequest) :
    (∀ p ∈ transitions (callbackStep (questionOf catalogue row)) row requests,
        CountsInRange (questionOf catalogue row)
          (callbackStep (questionOf catalogue row) p.1 p.2)) ↔
      ∀ p ∈ transitions (callbackStep (questionOf catalogue row)) row requests,
        KeepsCounts (questionOf catalogue row) p.1 p.2 :=
  have hfresh := created_freshCounts h
  reached_forall_iff (callbackStep (questionOf catalogue row)) (I := CountsNonnegative)
    (J := CountsInRange (questionOf catalogue row))
    (fun _ request hrow => hrow.callbackStep _ request)
    (fun row request hrow => countsInRange_callbackStep_iff _ row request hrow)
    hfresh.nonneg hfresh.inRange requests

/-! ## A callback that arrives again -/

omit [PythonRuntime] in
theorem readCount_cases (value : Json) :
    (∃ n, ∀ stored, readCount value stored = n) ∨ ∀ stored, readCount value stored = stored := by
  unfold readCount
  cases value.toInt with
  | ok n => exact .inl ⟨max n 0, fun _ => rfl⟩
  | error error => exact .inr fun _ => rfl

omit [PythonRuntime] in
theorem clampCount_clampCount (passed total : Int) :
    clampCount (clampCount passed total) total = clampCount passed total := by
  unfold clampCount
  split_ifs <;> omega

theorem settle_counts_of_total_ne (question : Option ExamQuestion) (status output : Json)
    (passed : Int) {total : Int} (h : total ≠ 0) (time : Option Int) :
    (settle question status output passed total time).passedTestcases = passed ∧
      (settle question status output passed total time).totalTestcases = total := by
  cases question with
  | none => exact ⟨rfl, rfl⟩
  | some question =>
      simp only [settle, h, ne_eq, not_false_eq_true, or_true, if_true, if_false]
      split_ifs <;> exact ⟨rfl, rfl⟩

/-- Without a total the passed cases are either kept, or all of the hidden ones because
the output was the expected one; then those settle the same verdict. -/
theorem settle_again_of_no_total (question : Option ExamQuestion) (status output : Json)
    (passed : Int) (time : Option Int) :
    settle question status output
        (settle question status output passed 0 time).passedTestcases 0 time =
      settle question status output passed 0 time := by
  cases question with
  | none => rfl
  | some question =>
      have hpos := hiddenTestcaseCount_pos question
      have hmax : max (max 0 (hiddenTestcaseCount question)) 1 =
          max (hiddenTestcaseCount question) 1 := by omega
      have hne : max (hiddenTestcaseCount question) 1 ≠ 0 := by omega
      by_cases hstatus : status = .str "SUCCESS"
      · by_cases hpassed : passed = 0
        · by_cases houtput : normalizeJudgeOutput question.expectedOutput =
              normalizeJudgeValue output
          · simp [settle, hstatus, hpassed, houtput, hmax, hne]
          · simp [settle, hstatus, hpassed, houtput]
        · have hkept : (settle (some question) status output passed 0 time).passedTestcases =
              passed := by
            simp only [settle, hstatus, hpassed, ne_eq, not_false_eq_true, true_or, if_true]
            split_ifs <;> rfl
          rw [hkept]
      · simp [settle, hstatus]

theorem settle_again (question : Option ExamQuestion) (status output : Json)
    (passed total passed' total' : Int) (time : Option Int)
    (hp : passed' = passed ∨
      passed' = (settle question status output (clampCount passed total) total
        time).passedTestcases)
    (ht : total' = total ∨ (question.isSome → total ≠ 0) ∧
      total' = (settle question status output (clampCount passed total) total
        time).totalTestcases) :
    settle question status output (clampCount passed' total') total' time =
      settle question status output (clampCount passed total) total time := by
  have hsame : total' = total := by
    rcases ht with rfl | ⟨hne, rfl⟩
    · rfl
    · cases question with
      | none => rfl
      | some question => exact (settle_counts_of_total_ne _ _ _ _ (hne rfl) _).2
  subst hsame
  rcases hp with rfl | rfl
  · rfl
  by_cases hzero : total' = 0
  · have hclamp (n : Int) : clampCount n 0 = n := by simp [clampCount]
    rw [hzero, hclamp, hclamp]
    exact settle_again_of_no_total question status output passed time
  · rw [(settle_counts_of_total_ne question status output _ hzero time).1,
      clampCount_clampCount]

theorem settle_output_time (question : Option ExamQuestion) (status output : Json)
    (passed total : Int) (time : Option Int) :
    (settle question status output passed total time).output = output ∧
      (settle question status output passed total time).executionTimeMs = time := by
  cases question with
  | none => exact ⟨rfl, rfl⟩
  | some question =>
      simp only [settle]
      split_ifs <;> exact ⟨rfl, rfl⟩

omit [PythonRuntime] in
theorem timeOrStored_again (value : Json) (stored : Option Int) :
    timeOrStored (readTime value (timeOrStored (readTime value stored) stored))
        (timeOrStored (readTime value stored) stored) =
      timeOrStored (readTime value stored) stored := by
  unfold readTime
  cases value.toInt with
  | ok n => by_cases hzero : max n 0 = 0 <;> simp [timeOrStored, hzero]
  | error error =>
      have hself (time : Option Int) : timeOrStored time time = time := by
        unfold timeOrStored
        split <;> rfl
      simp only [hself]

theorem payloadVerdict_again {question : Option ExamQuestion} {row stored : Submission}
    {payload : Dict} {status : Json} (hrow : question.isSome → row.totalTestcases ≠ 0)
    (hstatus : field? payload "status" = some status)
    (hstored : row.store (payloadVerdict question row payload) = some stored) :
    payloadVerdict question stored payload = payloadVerdict question row payload := by
  have hgiven (default : Json) : fieldD payload "status" default = status := by
    rw [fieldD, hstatus, Option.getD_some]
  have hfields : stored.output = columnText (payloadVerdict question row payload).output ∧
      stored.passedTestcases = (payloadVerdict question row payload).passedTestcases ∧
      stored.totalTestcases = (payloadVerdict question row payload).totalTestcases ∧
      stored.executionTimeMs = (payloadVerdict question row payload).executionTimeMs := by
    obtain ⟨text, -, rfl⟩ := Option.map_eq_some_iff.mp hstored
    exact ⟨rfl, rfl, rfl, rfl⟩
  obtain ⟨houtput, hpassed, htotal, htime⟩ := hfields
  unfold payloadVerdict at houtput hpassed htotal htime
  rw [(settle_output_time ..).1] at houtput
  rw [(settle_output_time ..).2] at htime
  have hsameOutput : fieldD payload "output" (outputValue stored.output) =
      fieldD payload "output" (outputValue row.output) := by
    unfold fieldD at houtput ⊢
    cases hfield : field? payload "output" with
    | some output => rfl
    | none =>
        rw [houtput, hfield, Option.getD_none, Option.getD_none]
        cases row.output <;> rfl
  unfold payloadVerdict
  rw [hsameOutput, htime, timeOrStored_again, hgiven, hgiven]
  rw [hgiven] at hpassed htotal
  apply settle_again
  · unfold passedCount
    rcases readCount_cases (fieldD payload "passed_testcases" .null) with ⟨n, hn⟩ | hkept
    · exact .inl ((hn _).trans (hn _).symm)
    · exact .inr ((hkept _).trans hpassed)
  · unfold totalCount
    rcases readCount_cases (fieldD payload "total_testcases" .null) with ⟨n, hn⟩ | hkept
    · exact .inl ((hn _).trans (hn _).symm)
    · refine .inr ⟨fun hsome => ?_, (hkept _).trans htotal⟩
      rw [hkept]
      exact hrow hsome

theorem deliver_again {question : Option ExamQuestion} {row : Submission} {payload : Dict}
    {status : Json} (hrow : question.isSome → row.totalTestcases ≠ 0)
    (hstatus : field? payload "status" = some status) (first second : Bool) :
    callbackStep question (callbackStep question row ⟨.obj payload, first⟩)
        ⟨.obj payload, second⟩ =
      callbackStep question row ⟨.obj payload, first || second⟩ := by
  have hlost (row : Submission) : callbackStep question row ⟨.obj payload, false⟩ = row := by
    unfold callbackStep patchSubmission
    split <;> rfl
  cases first with
  | false => rw [hlost, Bool.false_or]
  | true =>
      cases second with
      | false => rw [hlost, Bool.or_false]
      | true =>
          rw [Bool.or_true]
          obtain ⟨heq, -⟩ | ⟨sent, hstores, heq⟩ :=
            callbackStep_cases question row ⟨.obj payload, true⟩
          · rw [heq, heq]
          cases hstores.body_eq
          have hnull := (payloadVerdict_status_eq_null_iff question row payload).not.mpr
            hstores.status_ne
          have hstored := store_of_ne_null row hnull
          rw [heq, hstored, Option.getD_some]
          obtain ⟨hagain, -⟩ | ⟨sent, hstores', hagain⟩ := callbackStep_cases question _
            ⟨.obj payload, true⟩
          · exact hagain
          cases hstores'.body_eq
          rw [hagain, payloadVerdict_again hrow hstatus hstored,
            store_of_ne_null _ hnull, Option.getD_some]

structure CountsReached (question : Option ExamQuestion) (row : Submission) : Prop where
  nonneg : CountsNonnegative row
  total_pos : question.isSome → 1 ≤ row.totalTestcases

theorem CountsReached.callbackStep {question : Option ExamQuestion} {row : Submission}
    (h : CountsReached question row) (request : UpdateRequest) :
    CountsReached question (callbackStep question row request) := by
  refine ⟨h.nonneg.callbackStep question request, fun hsome => ?_⟩
  obtain ⟨heq, -⟩ | ⟨payload, hstores, heq⟩ := callbackStep_cases question row request
  · rw [heq]
    exact h.total_pos hsome
  · have hnull := (payloadVerdict_status_eq_null_iff question row payload).not.mpr
      hstores.status_ne
    rw [heq, store_of_ne_null row hnull, Option.getD_some]
    have htotal : 0 ≤ totalCount row payload := readCount_nonneg h.nonneg.2
    by_cases hzero : totalCount row payload = 0
    · obtain ⟨question, rfl⟩ := Option.isSome_iff_exists.mp hsome
      have hpos := hiddenTestcaseCount_pos question
      simp only [payloadVerdict, settle, hzero]
      split_ifs <;> dsimp only <;> omega
    · have hkept := (settle_counts_of_total_ne question
        (fieldD payload "status" (.str row.status))
        (fieldD payload "output" (outputValue row.output))
        (clampCount (passedCount row payload) (totalCount row payload)) hzero
        (timeOrStored (readTime (fieldD payload "execution_time_ms" .null)
          row.executionTimeMs) row.executionTimeMs)).2
      have hstored : (payloadVerdict question row payload).totalTestcases =
          totalCount row payload := hkept
      dsimp only
      omega

/--
A payload with a status that is delivered again leaves the row as one delivery of it
does; that one is stored if one of the two is.
-/
theorem redelivery_harmless {catalogue : Catalogue} {env : SubmitEnv} {nextId user : Int}
    {body : Dict} {row : Submission}
    (h : row ∈ (performCreate catalogue env nextId user body).dispatch.row)
    (requests : List UpdateRequest) {payload : Dict} {status : Json}
    (hstatus : field? payload "status" = some status) (first second : Bool) :
    let question := questionOf catalogue row
    let reached := requests.foldl (callbackStep question) row
    callbackStep question (callbackStep question reached ⟨.obj payload, first⟩)
        ⟨.obj payload, second⟩ =
      callbackStep question reached ⟨.obj payload, first || second⟩ := by
  have hfresh := created_freshCounts h
  have hreached := foldl_invariant (callbackStep (questionOf catalogue row))
    (I := CountsReached (questionOf catalogue row))
    (fun row request hrow => hrow.callbackStep request)
    ⟨hfresh.nonneg, hfresh.total_pos⟩ requests
  refine deliver_again (fun hsome => ?_) hstatus first second
  have hpos := hreached.total_pos hsome
  omega

end Counts

/-! ## Five of two cases -/

def countsReport (passed total : Int) : UpdateRequest :=
  ⟨.obj [("status", .str "SUCCESS"), ("output", .str "4"), ("passed_testcases", .int passed),
    ("total_testcases", .int total)], true⟩

/-- The total is replaced after the passed cases were compared with it. -/
theorem zero_total_overcounts :
    letI := plainRuntime
    ¬ ∀ (catalogue : Catalogue) (env : SubmitEnv) (nextId user : Int) (body : Dict)
        (row : Submission) (requests : List UpdateRequest),
      row ∈ (performCreate catalogue env nextId user body).dispatch.row →
      ∀ p ∈ transitions (callbackStep (questionOf catalogue row)) row requests,
        CountsInRange (questionOf catalogue row)
          (callbackStep (questionOf catalogue row) p.1 p.2) := by
  let := plainRuntime
  intro h
  have hcounts : (performCreate examCatalogue (envRaising []) 7 3 examBody).dispatch.row.map
      (fun row =>
        let after := callbackStep (questionOf examCatalogue row) row (countsReport 5 0)
        ((questionOf examCatalogue row).isSome, after.passedTestcases,
          after.totalTestcases)) = some (true, 5, 2) := by
    decide +kernel
  obtain ⟨row, hrow, hafter⟩ := Option.map_eq_some_iff.mp hcounts
  simp only [Prod.mk.injEq] at hafter
  obtain ⟨hquestion, hpassed, htotal⟩ := hafter
  have hlast := h examCatalogue (envRaising []) 7 3 examBody row [countsReport 5 0] hrow _
    List.mem_cons_self
  have hle := (hlast.1 hquestion).2
  rw [hpassed, htotal] at hle
  exact absurd hle (by decide)

private theorem created_exam :
    letI := plainRuntime
    ∃ row, row ∈ (performCreate examCatalogue (envRaising []) 7 3 examBody).dispatch.row := by
  let := plainRuntime
  have hsome : (performCreate examCatalogue (envRaising []) 7 3 examBody).dispatch.row.isSome =
      true := by
    decide +kernel
  exact Option.isSome_iff_exists.mp hsome

theorem counts_in_range_one_of_two :
    letI := plainRuntime
    ∃ row ∈ (performCreate examCatalogue (envRaising []) 7 3 examBody).dispatch.row,
      ∀ p ∈ transitions (callbackStep (questionOf examCatalogue row)) row
          [countsReport 1 2],
        CountsInRange (questionOf examCatalogue row)
          (callbackStep (questionOf examCatalogue row) p.1 p.2) := by
  let := plainRuntime
  obtain ⟨row, hrow⟩ := created_exam
  refine ⟨row, hrow, (counts_in_range_iff hrow [countsReport 1 2]).mpr ?_⟩
  rw [transitions_cons, transitions_nil, List.forall_mem_singleton]
  rintro payload ⟨hbody, -, -, -⟩
  cases hbody
  constructor
  · intro hzero
    have htotal : (2 : Int) = 0 := hzero
    omega
  · intro hpassed
    have hstatus : Json.str "SUCCESS" = .str "PASSED" := hpassed
    simp at hstatus

theorem redelivery_harmless_one_of_two :
    letI := plainRuntime
    ∃ row ∈ (performCreate examCatalogue (envRaising []) 7 3 examBody).dispatch.row,
      let question := questionOf examCatalogue row
      callbackStep question (callbackStep question row (countsReport 1 2)) (countsReport 1 2) =
        callbackStep question row (countsReport 1 2) := by
  let := plainRuntime
  obtain ⟨row, hrow⟩ := created_exam
  exact ⟨row, hrow, redelivery_harmless hrow [] rfl true true⟩

end JudgeVortex.System
