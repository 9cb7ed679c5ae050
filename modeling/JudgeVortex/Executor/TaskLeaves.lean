import JudgeVortex.Executor.TaskScript

/-!
# What the script of a task leaves behind

The script and the function `runGradeTask` are one task: the callbacks that the script
gets stored, its marks and its messages are those of the run, and the callback of the
script's `grade_submission` is the report of `gradeSubmission`.
-/

namespace JudgeVortex.Executor.Scripts

open JudgeVortex.Foundation JudgeVortex.Python JudgeVortex.Shared

def TaskAction.storedBody : TaskAction → Option Json
  | .patch _ body .accepted => some body
  | .patch _ body (.lost _) => some body
  | _ => none

def TaskAction.markOutcome : TaskAction → Option MarkOutcome
  | .mark _ _ outcome => some outcome
  | _ => none

def TaskAction.storedRetry : TaskAction → Option Dict
  | .retry _ message reply => if reply.stored then some message else none
  | _ => none

def TaskAction.storedDeadLetter : TaskAction → Option Dict
  | .deadLetter message reply => if reply.stored then some message else none
  | _ => none

structure Leaves (log : List TaskAction) (stored : List CallbackPayload)
    (marks : List MarkOutcome) (retry deadLetter : Option Dict) : Prop where
  stored_eq : log.filterMap TaskAction.storedBody = stored.map CallbackPayload.body
  marks_eq : log.filterMap TaskAction.markOutcome = marks
  retry_eq : log.filterMap TaskAction.storedRetry = retry.toList
  deadLetter_eq : log.filterMap TaskAction.storedDeadLetter = deadLetter.toList

theorem leaves_nil : Leaves [] [] [] none none :=
  ⟨rfl, rfl, rfl, rfl⟩

theorem Leaves.append {first second : List TaskAction} {stored stored' marks marks' retry
    retry' deadLetter deadLetter'} (hfirst : Leaves first stored marks retry deadLetter)
    (hsecond : Leaves second stored' marks' retry' deadLetter')
    (honce : retry = none ∧ deadLetter = none ∨ retry' = none ∧ deadLetter' = none) :
    Leaves (first ++ second) (stored ++ stored') (marks ++ marks') (retry.or retry')
      (deadLetter.or deadLetter') := by
  constructor
  · rw [List.filterMap_append, hfirst.stored_eq, hsecond.stored_eq, List.map_append]
  · rw [List.filterMap_append, hfirst.marks_eq, hsecond.marks_eq]
  · rw [List.filterMap_append, hfirst.retry_eq, hsecond.retry_eq]
    rcases honce with ⟨rfl, -⟩ | ⟨rfl, -⟩ <;> simp
  · rw [List.filterMap_append, hfirst.deadLetter_eq, hsecond.deadLetter_eq]
    rcases honce with ⟨-, rfl⟩ | ⟨-, rfl⟩ <;> simp

/-! ## Callbacks and marks -/

theorem patchFrom_leaves (replies : Nat → PatchReply) (submissionId : Json)
    (payload : CallbackPayload) (left attempt : Nat) (lastError : String) :
    let script := patchFrom replies submissionId payload.body left attempt lastError
    let outcome := Executor.patchFrom replies left attempt lastError
    script.result = outcome.result ∧
      Leaves script.log (List.replicate outcome.stored payload) [] none none := by
  induction left generalizing attempt lastError with
  | zero => exact ⟨rfl, leaves_nil⟩
  | succ left ih =>
      simp only [patchFrom, Executor.patchFrom]
      rw [Script.bind_of_ok (Script.result_emit _), Script.log_emit]
      cases hreply : replies attempt with
      | accepted => exact ⟨rfl, rfl, rfl, rfl, rfl⟩
      | lost error =>
          obtain ⟨hresult, hleaves⟩ := ih (attempt + 1) error
          refine ⟨hresult, ?_⟩
          have hone : Leaves [.patch submissionId payload.body (.lost error)] [payload] []
              none none := ⟨rfl, rfl, rfl, rfl⟩
          rw [List.replicate_succ]
          exact hone.append hleaves (.inl ⟨rfl, rfl⟩)
      | refused error =>
          obtain ⟨hresult, hleaves⟩ := ih (attempt + 1) error
          refine ⟨hresult, ?_⟩
          have hnone : Leaves [.patch submissionId payload.body (.refused error)] [] []
              none none := ⟨rfl, rfl, rfl, rfl⟩
          exact hnone.append hleaves (.inl ⟨rfl, rfl⟩)

def EndsAs (script : TaskScript Unit) (result : Except String Unit)
    (stored : List CallbackPayload) (retry deadLetter : Option Dict) : Prop :=
  script.result = result ∧ Leaves script.log stored [] retry deadLetter

theorem updateSubmission_ends (replies : Nat → PatchReply) (submissionId : Json)
    (status output : String) (time : Int) (counts : Option (Int × Int)) :
    EndsAs (updateSubmission replies submissionId status output (.int time) counts)
      (Executor.patchDjango replies).result
      (List.replicate (Executor.patchDjango replies).stored
        ⟨status, output, time, counts.map Prod.fst, counts.map Prod.snd⟩) none none := by
  have hbody : verdictBody status output (.int time) counts = CallbackPayload.body
      ⟨status, output, time, counts.map Prod.fst, counts.map Prod.snd⟩ := by
    cases counts <;> rfl
  unfold updateSubmission
  rw [hbody]
  exact patchFrom_leaves _ _ _ _ _ _

theorem EndsAs.then_mark {script : TaskScript Unit} {result : Except String Unit}
    {stored : List CallbackPayload} {retry deadLetter : Option Dict}
    (h : EndsAs script result stored retry deadLetter) (site : MarkSite)
    (tp : TopicPartition) (messageOffset : Int) :
    let after := thenMark result stored site tp messageOffset
    let marked := script >>= fun _ => markCompleted site tp messageOffset
    marked.result = after.result ∧
      Leaves marked.log after.stored after.marks retry deadLetter := by
  obtain ⟨rfl, hleaves⟩ := h
  cases hresult : script.result with
  | error error =>
      rw [Script.bind_of_error hresult]
      exact ⟨rfl, hleaves⟩
  | ok u =>
      rw [Script.bind_of_ok hresult]
      refine ⟨rfl, ?_⟩
      have hmark : Leaves (markCompleted site tp messageOffset).log []
          [Executor.mark site tp messageOffset] none none := ⟨rfl, rfl, rfl, rfl⟩
      have hboth := hleaves.append hmark (.inr ⟨rfl, rfl⟩)
      rw [List.append_nil, List.nil_append, Option.or_none, Option.or_none] at hboth
      exact hboth

theorem publishRetry_ends (message : Dict) (attempt : Int) (tp : TopicPartition)
    (messageOffset : Int) (error : String) (reply : PublishReply) :
    EndsAs (publishRetry message attempt tp messageOffset error reply) reply.result []
      (if reply.stored then some (retryPayload message attempt tp messageOffset error)
        else none) none := by
  cases reply <;> exact ⟨rfl, rfl, rfl, rfl, rfl⟩

theorem publishDeadLetter_ends (config : ExecutorConfig) (message : Dict)
    (tp : TopicPartition) (messageOffset : Int) (error : String) (failedAtMs : Int)
    (reply : PublishReply) :
    EndsAs (publishDeadLetter config message tp messageOffset error failedAtMs reply)
      reply.result [] none
      (if reply.stored then
        some (deadLetterPayload config message tp messageOffset error failedAtMs)
        else none) := by
  cases reply <;> exact ⟨rfl, rfl, rfl, rfl, rfl⟩

/-! ## The task -/

section Runtime

variable [PythonRuntime]

structure Answers (message : Dict) (steps : TaskSteps) (env : TaskEnv) : Prop where
  route : env.routeCallback = Executor.patchDjango steps.verdictReplies
  grade : EndsAs (gradeSubmission message steps) env.grade.result env.grade.stored none
    none
  firstMark : env.firstMark = steps.firstMark
  publish : env.publish = steps.publish
  failedAtMs : env.failedAtMs = steps.failedAtMs
  fault : env.faultCallback = Executor.patchDjango steps.faultReplies
  secondMark : env.secondMark = steps.secondMark

theorem tryGrade_leaves (config : ExecutorConfig) {message : Dict} (tp : TopicPartition)
    (messageOffset : Int) {steps : TaskSteps} {env : TaskEnv}
    (h : Answers message steps env) :
    let script := tryGrade config message tp messageOffset steps
    let outcome := Executor.tryGrade config message tp messageOffset env
    script.result = outcome.result ∧
      Leaves script.log outcome.stored outcome.marks none none := by
  unfold tryGrade Executor.tryGrade
  rw [h.firstMark]
  split
  · have hroute := updateSubmission_ends steps.verdictReplies (taskSubmission message)
      "SYSTEM_ERROR" (routeMismatch config (taskLanguage message)).output 0 none
    rw [h.route]
    exact hroute.then_mark _ _ _
  · exact h.grade.then_mark _ _ _

theorem handleFault_leaves (config : ExecutorConfig) {message : Dict} (attempt : Int)
    (tp : TopicPartition) (messageOffset : Int) {steps : TaskSteps} {env : TaskEnv}
    (h : Answers message steps env) (error : String) :
    let script := handleFault config message attempt tp messageOffset steps error
    let run := Executor.handleFault config message attempt tp messageOffset error env
    Leaves script.log run.stored run.marks run.retry run.deadLetter := by
  unfold handleFault Executor.handleFault
  simp only [h.publish, h.failedAtMs, h.fault, h.secondMark]
  split
  · have hretry := publishRetry_ends message attempt tp messageOffset error steps.publish
    have hstored : ∀ (result : Except String Unit) (site : MarkSite),
        (thenMark result [] site tp messageOffset).stored = [] := by
      intro result site
      cases result <;> rfl
    have hmarked := (hretry.then_mark steps.secondMark tp messageOffset).2
    rw [hstored] at hmarked
    exact hmarked
  · have hdead := publishDeadLetter_ends config message tp messageOffset error
      steps.failedAtMs steps.publish
    have hfault := updateSubmission_ends steps.faultReplies (taskSubmission message)
      "SYSTEM_ERROR" (executorFault error).output 0 none
    cases hresult : steps.publish.result with
    | error error' =>
        rw [Script.bind_of_error (hdead.1.trans hresult)]
        exact hdead.2
    | ok u =>
        rw [Script.bind_of_ok (hdead.1.trans hresult)]
        have hmarked := (hfault.then_mark steps.secondMark tp messageOffset).2
        have hboth := hdead.2.append hmarked (.inr ⟨rfl, rfl⟩)
        rw [List.nil_append, List.nil_append, Option.or_none, Option.or_none] at hboth
        exact hboth

/-- What the script leaves is what the run of `GradeTask` leaves. -/
theorem runGradeTask_leaves (config : ExecutorConfig) {message : Dict}
    (tp : TopicPartition) (messageOffset : Int) {steps : TaskSteps} {env : TaskEnv}
    (h : Answers message steps env) :
    let run := Executor.runGradeTask config message tp messageOffset env
    Leaves (runGradeTask config message tp messageOffset steps).log run.stored run.marks
      run.retry run.deadLetter := by
  unfold runGradeTask Executor.runGradeTask
  cases getDeliveryAttempt message with
  | error error => exact leaves_nil
  | ok attempt =>
      obtain ⟨hresult, hleaves⟩ := tryGrade_leaves config tp messageOffset h
      simp only
      cases htry : (Executor.tryGrade config message tp messageOffset env).result with
      | ok u =>
          rw [Script.tryExcept_of_ok (hresult.trans htry)]
          exact hleaves
      | error error =>
          rw [Script.tryExcept_of_error (hresult.trans htry)]
          have hfault := handleFault_leaves config attempt tp messageOffset h error
          have hquiet : ∀ script : TaskScript Unit,
              (script.tryExcept fun _ => pure ()).log = script.log := by
            intro script
            unfold Script.tryExcept
            cases script.result <;> simp
          have hboth := hleaves.append hfault (.inl ⟨rfl, rfl⟩)
          rw [Option.none_or, Option.none_or] at hboth
          rw [hquiet]
          exact hboth

/-! ## The callback of a grading -/

omit [PythonRuntime] in
def EndsWith (script : TaskScript Unit) (replies : Nat → PatchReply) :
    Except String CallbackPayload → Prop
  | .error error => EndsAs script (.error error) [] none none
  | .ok payload =>
      EndsAs script (Executor.patchDjango replies).result
        (List.replicate (Executor.patchDjango replies).stored payload) none none

def caseJson (case : TestCase) : Json :=
  .obj [("input", .str case.input), ("expected_output", .str case.expectedOutput)]

structure Describes (message : Dict) (job : Job) : Prop where
  submissionId : field? message "submission_id" = some (.int job.submissionId)
  code : field? message "code" = some (.str job.code)
  language : field? message "language" = some (.str job.language)
  timeLimit : field? message "time_limit_ms" = some (.int job.timeLimitMs)
  cases : judgeCases message = pure (job.judgeCases.map caseJson)

omit [PythonRuntime] in
theorem EndsWith.tryFinally {script last : TaskScript Unit} {replies : Nat → PatchReply}
    {report : Except String CallbackPayload} (h : EndsWith script replies report)
    (hlast : last = ⟨[], .ok ()⟩) : EndsWith (script.tryFinally last) replies report := by
  have hsame : script.tryFinally last = script := by
    simp [Script.tryFinally, hlast]
  rwa [hsame]

omit [PythonRuntime] in
theorem counted_ends (replies : Nat → PatchReply) (submissionId : Json)
    (status output : String) (time passed total : Int) :
    EndsWith (updateSubmission replies submissionId status output (.int time)
        (some (passed, total))) replies
      (.ok ⟨status, output, time, some passed, some total⟩) :=
  updateSubmission_ends replies submissionId status output time (some (passed, total))

omit [PythonRuntime] in
theorem uncounted_ends (replies : Nat → PatchReply) (submissionId : Json)
    (status output : String) (time : Int) :
    EndsWith (updateSubmission replies submissionId status output (.int time) none) replies
      (.ok ⟨status, output, time, none, none⟩) :=
  updateSubmission_ends replies submissionId status output time none

theorem gradeCases_ends (steps : TaskSteps) (submissionId : Json) (total : Int)
    (cases : List TestCase) (index : Nat) (passed time : Int) (lastOutput : String) :
    EndsWith (gradeCases steps submissionId total (cases.map caseJson) index passed time
        lastOutput) steps.verdictReplies
      (Executor.gradeCases steps.execute total cases index passed time lastOutput).1 := by
  induction cases generalizing index passed time lastOutput with
  | nil => exact counted_ends _ _ _ _ _ _ _
  | cons case rest ih =>
      simp only [List.map_cons, gradeCases, Executor.gradeCases]
      have hinput : (caseField (caseJson case) "input").result = .ok (.str case.input) := rfl
      have hexpected : (caseField (caseJson case) "expected_output").result =
          .ok (.str case.expectedOutput) := rfl
      rw [Script.bind_of_silent (caseField_log _ _) hinput]
      cases hrun : steps.execute index with
      | error error => exact ⟨rfl, leaves_nil⟩
      | ok result =>
          rw [Script.ofExcept_ok_bind]
          dsimp only
          by_cases htime : result.status = "TLE"
          · rw [if_pos htime, if_pos htime]
            exact counted_ends _ _ _ _ _ _ _
          rw [if_neg htime, if_neg htime]
          by_cases hmemory : result.status ∈ ["MEMORY_LIMIT_EXCEEDED", "MLE"]
          · rw [if_pos hmemory, if_pos hmemory]
            exact counted_ends _ _ _ _ _ _ _
          rw [if_neg hmemory, if_neg hmemory]
          by_cases herror :
              result.status ∈ ["RUNTIME_ERROR", "COMPILATION_ERROR", "SYSTEM_ERROR"]
          · rw [if_pos herror, if_pos herror]
            exact counted_ends _ _ _ _ _ _ _
          rw [if_neg herror, if_neg herror]
          rw [Script.bind_of_silent (caseField_log _ _) hexpected]
          have hsame := normalizedJson_str case.expectedOutput
          -- Left as they are, the two texts are unfolded when they are compared.
          generalize normalizedJson (.str case.expectedOutput) = expected at hsame ⊢
          generalize normalizeJudgeOutput case.expectedOutput = judged at hsame ⊢
          generalize normalizeJudgeOutput result.output = actual
          subst hsame
          by_cases hequal : actual = expected
          · rw [if_pos hequal, if_pos hequal]
            exact ih _ _ _ _
          · rw [if_neg hequal, if_neg hequal]
            exact counted_ends _ _ _ _ _ _ _

omit [PythonRuntime] in
theorem customRun_ends (steps : TaskSteps) (submissionId : Json) (timeLimitMs : Int)
    (result : SandboxResult) :
    EndsWith (reportCustomRun steps submissionId (.int timeLimitMs) result)
      steps.verdictReplies (.ok (customReport timeLimitMs result)) := by
  unfold reportCustomRun customReport
  dsimp only
  split
  · exact uncounted_ends _ _ _ _ _
  split
  · exact uncounted_ends _ _ _ _ _
  split
  · exact uncounted_ends _ _ _ _ _
  · exact uncounted_ends _ _ _ _ _

omit [PythonRuntime] in
theorem runCodeInSandbox_eq {steps : TaskSteps} (hcleanup : steps.cleanup = .ok ())
    (input : Json) :
    runCodeInSandbox steps =
      .ofExcept (Executor.runCodeInSandbox ⟨steps.prepare, steps.execute⟩ input).result := by
  unfold runCodeInSandbox Executor.runCodeInSandbox
  dsimp only
  cases steps.prepare with
  | error error => rfl
  | ok preparation =>
      cases preparation with
      | failed result => rfl
      | ready =>
          rw [Script.ofExcept_ok_bind, hcleanup]
          rfl

/-- On a message that carries the job, the script makes the callback of the report. -/
theorem gradeSubmission_ends {message : Dict} {job : Job} (h : Describes message job)
    (steps : TaskSteps) (hcleanup : steps.cleanup = .ok ()) :
    EndsWith (gradeSubmission message steps) steps.verdictReplies
      (Executor.gradeSubmission job ⟨steps.prepare, steps.execute⟩).report := by
  have hread : ∀ {key value}, field? message key = some value →
      required message key = pure value := by
    intro key value hfield
    simp only [required, hfield]
  unfold gradeSubmission Executor.gradeSubmission
  simp only [hread h.submissionId, hread h.code, hread h.language, hread h.timeLimit,
    h.cases, Script.pure_bind]
  cases hcases : job.judgeCases with
  | nil =>
      simp only [List.map_nil, if_true, runCodeInSandbox_eq hcleanup job.userInput]
      cases (Executor.runCodeInSandbox ⟨steps.prepare, steps.execute⟩ job.userInput).result with
      | error error => exact ⟨rfl, leaves_nil⟩
      | ok result => exact customRun_ends _ _ _ _
  | cons first rest =>
      have hlength : ((first :: rest).map caseJson).length = (first :: rest).length :=
        List.length_map _
      have hinput : caseField (caseJson first) "input" = pure (.str first.input) := rfl
      rw [if_neg (List.cons_ne_nil first rest)]
      simp only [List.map_cons] at hlength ⊢
      rw [hlength, hinput, Script.pure_bind]
      cases steps.prepare with
      | error error => exact ⟨rfl, leaves_nil⟩
      | ok preparation =>
          rw [Script.ofExcept_ok_bind]
          cases preparation with
          | failed result => exact counted_ends _ _ _ _ _ _ _
          | ready =>
              have hloop := gradeCases_ends steps (.int job.submissionId)
                (first :: rest).length (first :: rest) 0 0 0 ""
              exact hloop.tryFinally (congrArg Script.ofExcept hcleanup)

end Runtime

end JudgeVortex.Executor.Scripts
