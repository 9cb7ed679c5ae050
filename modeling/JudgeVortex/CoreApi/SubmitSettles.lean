import JudgeVortex.CoreApi.Submit

/-!
# What becomes of a submitted row

When a submit request ends, its row should be deleted, have a terminal status, or be
pending with its job handed to the producer.  Which of the steps after the commit may
raise without leaving the row stranded is settled here.
-/

namespace JudgeVortex.CoreApi

open JudgeVortex.Executor JudgeVortex.Python JudgeVortex.Shared

def Terminal (row : Submission) : Prop := row.status ∉ ["PENDING", "PROCESSING"]

def Describes (job : Job) (row : Submission) : Prop :=
  job.submissionId = row.id ∧ job.code = row.code ∧ job.files = row.files ∧
    job.entryFile = row.entryFile ∧ job.language = row.language

def Dispatch.Settled (dispatch : Dispatch) : Prop :=
  ∀ row ∈ dispatch.row, Terminal row ∨
    row.status = "PENDING" ∧ dispatch.flushed = true ∧
      ∃ message ∈ dispatch.sent, Describes message.job row

def LaterStepsSettle (env : SubmitEnv) (row : Submission) : Prop :=
  env.raises .recordReceived = false ∧
  (row.questionId.isSome → env.raises .upsertSnapshot = false ∧
    env.raises .detectPatterns = false) ∧
  if RunsInline env row then
    env.raises .runInline = false ∧ env.raises .saveResult = false
  else
    env.raises .getProducer = false ∧
      match getRouteForLanguage row.language with
      | .error _ => env.raises .deleteSubmission = false
      | .ok _ => env.raises .send ∨ env.raises .flush → env.raises .saveFailure = false

/-! ## Inline execution ends with a terminal status -/

theorem inlineCases_ok (results : Nat → SandboxResult) (timeLimitMs total : Int)
    (cases : List TestCase) (index : Nat) (passed time : Int) (lastOutput : String) :
    ∃ status output time' passed' executed,
      inlineCases (fun i => .ok (results i)) timeLimitMs total cases index passed time
          lastOutput =
        (.ok ⟨.str status, .str output, some time', .int passed', .int total⟩, executed) ∧
      status ∈ sandboxStatuses := by
  induction cases generalizing index passed time lastOutput with
  | nil => exact ⟨"SUCCESS", lastOutput, time, passed, [], rfl, by decide⟩
  | cons case rest ih =>
      simp only [inlineCases]
      split
      · exact ⟨_, _, _, _, _, rfl, by decide⟩
      split
      · exact ⟨_, _, _, _, _, rfl, by decide⟩
      split
      next hstatus =>
        refine ⟨_, _, _, _, _, rfl, ?_⟩
        simp only [List.mem_cons, List.not_mem_nil, or_false] at hstatus
        rcases hstatus with hstatus | hstatus | hstatus <;> rw [hstatus] <;> decide
      split
      · obtain ⟨status, output, time', passed', executed, hrest, hstatus⟩ :=
          ih (index + 1) (passed + 1) (time + (results index).timeMs) (results index).output
        exact ⟨status, output, time', passed', _, by rw [hrest], hstatus⟩
      · exact ⟨_, _, _, _, _, rfl, by decide⟩

def Storable (report : Report) : Prop :=
  (∃ status ∈ sandboxStatuses, report.status = .str status) ∧
    Readable report.passedTestcases ∧ Readable report.totalTestcases

theorem inlineReport_storable (timeLimitMs : Int) (result : SandboxResult) :
    Storable (inlineReport timeLimitMs result) := by
  unfold inlineReport
  split
  · exact ⟨⟨"TLE", by decide, rfl⟩, readable_null, readable_null⟩
  split
  · exact ⟨⟨"MLE", by decide, rfl⟩, readable_null, readable_null⟩
  split
  next hstatus =>
    refine ⟨⟨result.status, ?_, rfl⟩, readable_null, readable_null⟩
    simp only [List.mem_cons, List.not_mem_nil, or_false] at hstatus
    rcases hstatus with hstatus | hstatus | hstatus <;> rw [hstatus] <;> decide
  · exact ⟨⟨"SUCCESS", by decide, rfl⟩, readable_null, readable_null⟩

theorem executeSubmissionInline_storable (userInput : Json) (judgeCases : List TestCase)
    (timeLimitMs : Int) (answers : SandboxAnswers) :
    ∃ report, (executeSubmissionInline userInput judgeCases timeLimitMs answers.env).report =
      .ok report ∧ Storable report := by
  obtain ⟨preparation, results, hfailed, hresults⟩ := answers
  unfold executeSubmissionInline
  split
  · cases preparation with
    | failed result =>
        exact ⟨_, rfl, inlineReport_storable timeLimitMs result⟩
    | ready => exact ⟨_, rfl, inlineReport_storable timeLimitMs (results 0)⟩
  · cases preparation with
    | failed result =>
        have hstatus : result.status ∈ sandboxStatuses := by
          have hsubset : ["COMPILATION_ERROR", "SYSTEM_ERROR"] ⊆ sandboxStatuses := by decide
          exact hsubset (hfailed result rfl)
        exact ⟨_, rfl, ⟨result.status, hstatus, rfl⟩, readable_int _, readable_int _⟩
    | ready =>
        obtain ⟨status, output, time, passed, executed, hrun, hstatus⟩ :=
          inlineCases_ok results timeLimitMs judgeCases.length judgeCases 0 0 0 ""
        refine ⟨⟨.str status, .str output, some time, .int passed, .int judgeCases.length⟩,
          ?_, ⟨status, hstatus, rfl⟩, readable_int _, readable_int _⟩
        simp only [SandboxAnswers.env, hrun]

theorem terminal_of_sandboxStatuses {row : Submission} (h : row.status ∈ sandboxStatuses) :
    Terminal row := by
  have hdisjoint : ∀ status ∈ sandboxStatuses, status ∉ ["PENDING", "PROCESSING"] := by
    decide
  exact hdisjoint row.status h

theorem storeReport_terminal [PythonRuntime] (row : Submission) {report : Report}
    (h : Storable report) : Terminal (storeReport none row report) := by
  obtain ⟨⟨status, hstatus, heq⟩, hpassed, htotal⟩ := h
  obtain ⟨passed, hpassed⟩ := (parseCount_eq_ok_iff _ row.passedTestcases).mpr hpassed
  obtain ⟨total, htotal⟩ := (parseCount_eq_ok_iff _ row.totalTestcases).mpr htotal
  apply terminal_of_sandboxStatuses
  simp only [storeReport, finalizeSubmissionResult, hpassed, htotal, bind, Except.bind, pure,
    Except.pure, settle, Submission.store, heq, columnText, Option.map_some,
    Option.getD_some, Json.toText]
  exact hstatus

/-! ## Where a row is stranded -/

theorem not_settled_raised {row : Submission} (h : row.status = "PENDING") :
    ¬ (Dispatch.raised row).Settled := by
  intro hsettled
  obtain hterminal | ⟨-, hflushed, -⟩ := hsettled row rfl
  · exact hterminal (by simp [h])
  · cases hflushed

theorem settled_dispatchInline_iff [PythonRuntime] (env : SubmitEnv)
    (prepared : PreparedSubmission) {row : Submission} (h : row.status = "PENDING") :
    (dispatchInline env prepared row).Settled ↔
      env.raises .runInline = false ∧ env.raises .saveResult = false := by
  obtain ⟨report, hreport, hstorable⟩ := executeSubmissionInline_storable prepared.userInput
    prepared.judgeCases prepared.timeLimitMs env.answers
  have hterminal := storeReport_terminal row hstorable
  simp only [dispatchInline, hreport]
  split
  next hraises =>
    refine iff_of_false (not_settled_raised h) ?_
    rintro ⟨hrun, hsave⟩
    simp [hrun, hsave] at hraises
  next hreturns =>
    refine iff_of_true ?_ (by simpa using hreturns)
    split
    · rintro _ ⟨⟩
      exact .inl hterminal
    · rintro _ ⟨⟩
      exact .inl hterminal

theorem settled_sendToQueue_iff (env : SubmitEnv) (prepared : PreparedSubmission)
    {row : Submission} (h : row.status = "PENDING") :
    (sendToQueue env prepared row).Settled ↔
      (env.raises .send ∨ env.raises .flush → env.raises .saveFailure = false) := by
  simp only [sendToQueue]
  by_cases hraises : env.raises .send ∨ env.raises .flush
  · rw [if_pos hraises, imp_iff_right hraises]
    cases hsave : env.raises .saveFailure with
    | true =>
        refine iff_of_false ?_ (by simp)
        intro hsettled
        obtain hterminal | ⟨-, hflushed, -⟩ := hsettled row rfl
        · exact hterminal (by simp [h])
        · cases hflushed
    | false =>
        refine iff_of_true ?_ rfl
        rintro _ ⟨⟩
        exact .inl (by simp [Terminal])
  · refine iff_of_true ?_ fun h => absurd h hraises
    rw [if_neg hraises]
    rw [not_or] at hraises
    rintro _ ⟨⟩
    refine .inr ⟨h, rfl, prepared.message row, ?_, rfl, rfl, rfl, rfl, rfl⟩
    simp [hraises.1]

theorem settled_dispatchQueued_iff (env : SubmitEnv) (prepared : PreparedSubmission)
    {row : Submission} (h : row.status = "PENDING") :
    (dispatchQueued env prepared row).Settled ↔ env.raises .getProducer = false ∧
      match getRouteForLanguage row.language with
      | .error _ => env.raises .deleteSubmission = false
      | .ok _ => env.raises .send ∨ env.raises .flush → env.raises .saveFailure = false := by
  unfold dispatchQueued
  split
  next hraises => exact iff_of_false (not_settled_raised h) (by simp [hraises])
  next hproducer =>
    rw [and_iff_right (by simpa using hproducer)]
    cases hroute : getRouteForLanguage row.language with
    | error error =>
        simp only [getSubmissionTopic, hroute, Except.map]
        split
        next hdelete => exact iff_of_false (not_settled_raised h) (by simp [hdelete])
        next hdelete =>
          refine iff_of_true ?_ (by simpa using hdelete)
          rintro _ ⟨⟩
    | ok route =>
        simp only [getSubmissionTopic, hroute, Except.map]
        exact settled_sendToQueue_iff env prepared h

section Requests

variable [PythonRuntime] {catalogue : Catalogue} {env : SubmitEnv} {nextId user : Int}
  {body : Dict}

theorem bookkeepingSteps_return_iff {prepared : PreparedSubmission}
    (hprepared : prepareSubmission catalogue env user body = .ok prepared)
    (hrefers : catalogue.Refers (prepared.row nextId user)) :
    (bookkeepingSteps prepared (prepared.row nextId user)).any env.raises = false ↔
      env.raises .recordReceived = false ∧
        ((prepared.row nextId user).questionId.isSome → env.raises .upsertSnapshot = false ∧
          env.raises .detectPatterns = false) := by
  obtain ⟨hnone, hquestion⟩ | ⟨id, question, hid, -, hquestion, -, hparticipant, hcontext⟩ :=
    question_of_refers hprepared hrefers
  · have hrow : (prepared.row nextId user).questionId = none := hnone
    have hcontext : ¬ HasContext (prepared.row nextId user) := by simp [HasContext, hrow]
    simp [bookkeepingSteps, hquestion, hcontext, hrow]
  · have hrow : (prepared.row nextId user).questionId = some id := hid
    simp only [bookkeepingSteps, hquestion, hparticipant, hcontext, hrow, and_self,
      if_true, Option.isSome_some, List.any_append, List.any_cons, List.any_nil, Bool.or_false,
      Bool.or_eq_false_iff, forall_const]
    tauto

/-- When a request that creates a row ends, the row is settled exactly if the steps
after the commit that nothing guards have returned. -/
theorem submission_settled_iff {row : Submission}
    (h : (performCreate catalogue env nextId user body).created = some row) :
    (performCreate catalogue env nextId user body).dispatch.Settled ↔
      LaterStepsSettle env row := by
  obtain ⟨prepared, hprepared, rfl, hrefers, hdispatch⟩ := performCreate_created h
  have hbookkeeping := bookkeepingSteps_return_iff hprepared hrefers
  have hpending : (prepared.row nextId user).status = "PENDING" := rfl
  rw [hdispatch, afterCreate, LaterStepsSettle, ← and_assoc]
  cases hany : (bookkeepingSteps prepared (prepared.row nextId user)).any env.raises with
  | true =>
      refine iff_of_false (not_settled_raised hpending) fun hsettle => ?_
      rw [hbookkeeping.mpr hsettle.1] at hany
      cases hany
  | false =>
      rw [and_iff_right (hbookkeeping.mp hany), if_neg (by decide)]
      split
      · exact settled_dispatchInline_iff env prepared hpending
      · exact settled_dispatchQueued_iff env prepared hpending

end Requests

/-! ## No broker -/

def examCatalogue : Catalogue where
  rooms := [1]
  questions := [⟨1, 1, 10, "1\n\n2", "1\n\n4"⟩]
  participants := [⟨1, 3, false, [1]⟩]
  room_pos := by decide
  question_pos := by decide

def examBody : Dict :=
  [("room_id", .int 1), ("question_id", .int 1), ("language", .str "python"),
    ("code", .str "print(1)")]

private def examRow : Submission :=
  { id := 7, userId := 3, roomId := some 1, questionId := some 1, awardedMarks := 0,
    passedTestcases := 0, totalTestcases := 2, output := none, code := "print(1)",
    files := [⟨"main.py", "print(1)"⟩], entryFile := "main.py", language := "python",
    status := "PENDING", executionTimeMs := none }

def quietSandbox : SandboxAnswers where
  preparation := .ready
  results _ := ⟨"SUCCESS", "", 1⟩
  failed_status := by simp
  result_status := by simp [sandboxStatuses]

def envRaising (steps : List SubmitStep) : SubmitEnv where
  raises step := steps.contains step
  findTool _ := none
  environ _ := none
  answers := quietSandbox

/-- Without a broker the producer is not created, outside the `try` that marks rows. -/
theorem no_broker_strands_row :
    letI := plainRuntime
    let run := performCreate examCatalogue (envRaising [.getProducer]) 7 3 examBody
    run.created = some examRow ∧ ¬ run.dispatch.Settled := by
  let := plainRuntime
  have hrun : (performCreate examCatalogue (envRaising [.getProducer]) 7 3 examBody).created =
        some examRow ∧
      (performCreate examCatalogue (envRaising [.getProducer]) 7 3 examBody).dispatch.row =
        some examRow ∧
      (performCreate examCatalogue (envRaising [.getProducer]) 7 3 examBody).dispatch.flushed =
        false := by
    decide +kernel
  refine ⟨hrun.1, fun hsettled => ?_⟩
  obtain hterminal | ⟨-, hflushed, -⟩ := hsettled examRow hrun.2.1
  · exact hterminal (by decide)
  · simp [hrun.2.2] at hflushed

theorem submission_settled_refused_send :
    letI := plainRuntime
    (performCreate examCatalogue (envRaising [.send]) 7 3 examBody).dispatch.Settled := by
  let := plainRuntime
  have hcreated : (performCreate examCatalogue (envRaising [.send]) 7 3 examBody).created =
      some examRow := by
    decide +kernel
  apply (submission_settled_iff hcreated).mpr
  refine ⟨rfl, fun _ => ⟨rfl, rfl⟩, ?_⟩
  rw [if_neg (by decide)]
  exact ⟨rfl, fun _ => rfl⟩

end JudgeVortex.CoreApi
