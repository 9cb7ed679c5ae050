import JudgeVortex.Executor.GradeTask
import JudgeVortex.Executor.Grader
import JudgeVortex.Foundation.Script

/-!
# A grading task, action by action

`run_grade_task` and everything below it as one script over the job message: each PATCH
request, each message sent and each `mark_completed`, in the order in which they happen,
with the exits of `grade_submission` written out.  `GradeTask` keeps only what a task
leaves behind; that it is the same task is shown at the end.
-/

namespace JudgeVortex.Executor.Scripts

open JudgeVortex.Foundation JudgeVortex.Python JudgeVortex.Shared

inductive TaskAction where
  | patch (submissionId : Json) (body : Json) (reply : PatchReply)
  | retry (topic : String) (message : Dict) (reply : PublishReply)
  | deadLetter (message : Dict) (reply : PublishReply)
  | mark (tp : TopicPartition) (messageOffset : Int) (outcome : MarkOutcome)

structure TaskSteps where
  prepare : Except String Preparation
  execute : Nat → Except String SandboxResult
  cleanup : Except String Unit
  verdictReplies : Nat → PatchReply
  firstMark : MarkSite
  publish : PublishReply
  failedAtMs : Int
  faultReplies : Nat → PatchReply
  secondMark : MarkSite

abbrev TaskScript := Script TaskAction String

/-! ## Callbacks -/

def patchFrom (replies : Nat → PatchReply) (submissionId body : Json) :
    Nat → Nat → String → TaskScript Unit
  | 0, _, lastError =>
      .fail ("Failed to update Django after retries: " ++ lastError)
  | left + 1, attempt, _ => do
      .emit (.patch submissionId body (replies attempt))
      match replies attempt with
      | .accepted => pure ()
      | .lost error | .refused error =>
          patchFrom replies submissionId body left (attempt + 1) error

def verdictBody (status output : String) (timeMs : Json) (counts : Option (Int × Int)) :
    Json :=
  .obj ([("status", .str status), ("output", .str output), ("execution_time_ms", timeMs)] ++
    counts.elim [] fun counts =>
      [("passed_testcases", .int counts.1), ("total_testcases", .int counts.2)])

def updateSubmission (replies : Nat → PatchReply) (submissionId : Json)
    (status output : String) (timeMs : Json) (counts : Option (Int × Int)) :
    TaskScript Unit :=
  patchFrom replies submissionId (verdictBody status output timeMs counts) 3 1 "None"

/-! ## Reading the message -/

def typeName : Json → String
  | .null => "NoneType"
  | .bool _ => "bool"
  | .int _ => "int"
  | .float _ => "float"
  | .str _ => "str"
  | .arr _ => "list"
  | .obj _ => "dict"

/-- `message[key]`. -/
def required (message : Dict) (key : String) : TaskScript Json :=
  match field? message key with
  | some value => pure value
  | none => .fail ("'" ++ key ++ "'")

/--
`submission_data.get('judge_cases') or []`.  A value that is no list raises at `len`, or
at the read of its first case.
-/
def judgeCases (message : Dict) : TaskScript (List Json) :=
  match (fieldD message "judge_cases" .null).orElse (.arr []) with
  | .arr cases => pure cases
  | .obj _ => .fail "0"
  | .str _ => .fail "'str' object has no attribute 'get'"
  | value => .fail ("object of type '" ++ typeName value ++ "' has no len()")

def caseField (case : Json) (key : String) : TaskScript Json :=
  match case with
  | .obj fields => pure (fieldD fields key (.str ""))
  | value => .fail ("'" ++ typeName value ++ "' object has no attribute 'get'")

section Runtime

variable [PythonRuntime]

/-- `normalize_judge_output` of any value. -/
def normalizedJson : Json → String
  | .null => ""
  | value => normalizeJudgeOutput value.toText

theorem normalizedJson_str (s : String) :
    normalizedJson (.str s) = normalizeJudgeOutput s := rfl

/-! ## Grading -/

def gradeCases (steps : TaskSteps) (submissionId : Json) (total : Int) :
    List Json → Nat → Int → Int → String → TaskScript Unit
  | [], _, passed, time, lastOutput =>
      updateSubmission steps.verdictReplies submissionId "SUCCESS" lastOutput (.int time)
        (some (passed, total))
  | case :: rest, index, passed, time, _ => do
      let _ ← caseField case "input"
      let result ← .ofExcept (steps.execute index)
      let time := time + result.timeMs
      if result.status = "TLE" then
        updateSubmission steps.verdictReplies submissionId "TLE" "Time Limit Exceeded"
          (.int time) (some (passed, total))
      else if result.status ∈ ["MEMORY_LIMIT_EXCEEDED", "MLE"] then
        updateSubmission steps.verdictReplies submissionId "MLE" result.output (.int time)
          (some (passed, total))
      else if result.status ∈ ["RUNTIME_ERROR", "COMPILATION_ERROR", "SYSTEM_ERROR"] then
        updateSubmission steps.verdictReplies submissionId result.status result.output
          (.int time) (some (passed, total))
      else
        let expected ← caseField case "expected_output"
        if normalizeJudgeOutput result.output = normalizedJson expected then
          gradeCases steps submissionId total rest (index + 1) (passed + 1) time
            result.output
        else
          updateSubmission steps.verdictReplies submissionId "SUCCESS" result.output
            (.int time) (some (passed, total))

def runCodeInSandbox (steps : TaskSteps) : TaskScript SandboxResult := do
  match ← .ofExcept steps.prepare with
  | .failed result => pure result
  | .ready => .tryFinally (.ofExcept (steps.execute 0)) (.ofExcept steps.cleanup)

def reportCustomRun (steps : TaskSteps) (submissionId timeLimit : Json)
    (result : SandboxResult) : TaskScript Unit :=
  let update status output timeMs :=
    updateSubmission steps.verdictReplies submissionId status output timeMs none
  if result.status = "TLE" then update "TLE" "Time Limit Exceeded" timeLimit
  else if result.status ∈ ["MEMORY_LIMIT_EXCEEDED", "MLE"] then
    update "MLE" result.output (.int result.timeMs)
  else if result.status ∈ ["RUNTIME_ERROR", "COMPILATION_ERROR", "SYSTEM_ERROR"] then
    update result.status result.output (.int result.timeMs)
  else update "SUCCESS" result.output (.int result.timeMs)

def gradeSubmission (message : Dict) (steps : TaskSteps) : TaskScript Unit := do
  let submissionId ← required message "submission_id"
  let _ ← required message "code"
  let _ ← required message "language"
  let timeLimit ← required message "time_limit_ms"
  match ← judgeCases message with
  | [] => reportCustomRun steps submissionId timeLimit (← runCodeInSandbox steps)
  | first :: rest =>
      let total : Int := (first :: rest).length
      let _ ← caseField first "input"
      match ← .ofExcept steps.prepare with
      | .failed result =>
          updateSubmission steps.verdictReplies submissionId result.status result.output
            (.int result.timeMs) (some (0, total))
      | .ready =>
          .tryFinally (gradeCases steps submissionId total (first :: rest) 0 0 0 "")
            (.ofExcept steps.cleanup)

/-! ## The task -/

def markCompleted (site : MarkSite) (tp : TopicPartition) (messageOffset : Int) :
    TaskScript Unit := do
  let outcome := Executor.mark site tp messageOffset
  .emit (.mark tp messageOffset outcome)
  .ofExcept outcome.result

def publishRetry (message : Dict) (attempt : Int) (tp : TopicPartition)
    (messageOffset : Int) (error : String) (reply : PublishReply) : TaskScript Unit := do
  .emit (.retry tp.topic (retryPayload message attempt tp messageOffset error) reply)
  .ofExcept reply.result

def publishDeadLetter (config : ExecutorConfig) (message : Dict) (tp : TopicPartition)
    (messageOffset : Int) (error : String) (failedAtMs : Int) (reply : PublishReply) :
    TaskScript Unit := do
  .emit (.deadLetter
    (deadLetterPayload config message tp messageOffset error failedAtMs) reply)
  .ofExcept reply.result

def taskSubmission (message : Dict) : Json :=
  fieldD message "submission_id" (.str "Unknown")

def tryGrade (config : ExecutorConfig) (message : Dict) (tp : TopicPartition)
    (messageOffset : Int) (steps : TaskSteps) : TaskScript Unit := do
  if RouteMismatch config message then
    updateSubmission steps.verdictReplies (taskSubmission message) "SYSTEM_ERROR"
      (routeMismatch config (taskLanguage message)).output (.int 0) none
    markCompleted steps.firstMark tp messageOffset
  else
    gradeSubmission message steps
    markCompleted steps.firstMark tp messageOffset

def handleFault (config : ExecutorConfig) (message : Dict) (attempt : Int)
    (tp : TopicPartition) (messageOffset : Int) (steps : TaskSteps) (error : String) :
    TaskScript Unit := do
  if attempt < config.maxDeliveryAttempts then
    publishRetry message attempt tp messageOffset error steps.publish
    markCompleted steps.secondMark tp messageOffset
  else
    publishDeadLetter config message tp messageOffset error steps.failedAtMs steps.publish
    updateSubmission steps.faultReplies (taskSubmission message) "SYSTEM_ERROR"
      (executorFault error).output (.int 0) none
    markCompleted steps.secondMark tp messageOffset

def runGradeTask (config : ExecutorConfig) (message : Dict) (tp : TopicPartition)
    (messageOffset : Int) (steps : TaskSteps) : TaskScript Unit :=
  match getDeliveryAttempt message with
  | .error _ => .fail "cannot convert float infinity to integer"
  | .ok attempt =>
      (tryGrade config message tp messageOffset steps).tryExcept fun error =>
        (handleFault config message attempt tp messageOffset steps error).tryExcept
          fun _ => pure ()

end Runtime

/-! ## What stands before a mark -/

def jobKeys : List String :=
  ["submission_id", "correlation_id", "code", "files", "entry_file", "language",
    "user_input", "judge_cases", "time_limit_ms"]

def CarriesJob (message payload : Dict) : Prop :=
  ∀ key ∈ jobKeys, field? payload key = field? message key

def HasVerdict (body : Json) : Prop :=
  ∃ fields status, body = .obj fields ∧ field? fields "status" = some (.str status)

/-- An accepted callback with a verdict, or an acknowledged retry with the job. -/
def Accounts (message : Dict) : TaskAction → Prop
  | .patch submissionId body reply =>
      submissionId = taskSubmission message ∧ HasVerdict body ∧ reply = .accepted
  | .retry _ payload reply => CarriesJob message payload ∧ reply = .acknowledged
  | .deadLetter _ _ => False
  | .mark _ _ _ => False

def IsMark : TaskAction → Prop
  | .mark _ _ _ => True
  | _ => False

structure Reporting (message : Dict) (script : TaskScript Unit) : Prop where
  unmarked : ∀ a ∈ script.log, ¬ IsMark a
  accounted : script.result = .ok () → ∃ a ∈ script.log, Accounts message a

theorem reporting_bind {message : Dict} {β : Type} {x : TaskScript β}
    {f : β → TaskScript Unit} (hx : ∀ a ∈ x.log, ¬ IsMark a)
    (hf : ∀ b, x.result = .ok b → Reporting message (f b)) : Reporting message (x >>= f) where
  unmarked := Script.forall_log_bind hx fun b hb => (hf b hb).unmarked
  accounted h := Script.exists_log_bind h fun b hb hc => (hf b hb).accounted hc

theorem reporting_silent_bind {message : Dict} {β : Type} {x : TaskScript β}
    {f : β → TaskScript Unit} (hx : x.log = [])
    (hf : ∀ b, x.result = .ok b → Reporting message (f b)) : Reporting message (x >>= f) :=
  reporting_bind (by simp [hx]) hf

theorem Reporting.tryFinally {message : Dict} {script : TaskScript Unit}
    (h : Reporting message script) {last : TaskScript Unit} (hlast : last.log = []) :
    Reporting message (script.tryFinally last) := by
  constructor
  · simp only [Script.tryFinally, hlast, List.append_nil]
    exact h.unmarked
  · intro hresult
    simp only [Script.tryFinally, hlast, List.append_nil] at hresult ⊢
    cases hend : last.result with
    | error error =>
        rw [hend] at hresult
        cases hresult
    | ok u =>
        rw [hend] at hresult
        exact h.accounted hresult

theorem patchFrom_log (replies : Nat → PatchReply) (submissionId body : Json)
    (left attempt : Nat) (lastError : String) :
    ∀ a ∈ (patchFrom replies submissionId body left attempt lastError).log,
      ∃ reply, a = .patch submissionId body reply := by
  induction left generalizing attempt lastError with
  | zero => simp [patchFrom]
  | succ left ih =>
      simp only [patchFrom]
      refine Script.forall_log_bind (by simp) fun _ _ => ?_
      cases replies attempt with
      | accepted => simp
      | lost error => exact ih (attempt + 1) error
      | refused error => exact ih (attempt + 1) error

theorem patchFrom_accepted {replies : Nat → PatchReply} {submissionId body : Json}
    {left attempt : Nat} {lastError : String}
    (h : (patchFrom replies submissionId body left attempt lastError).result = .ok ()) :
    .patch submissionId body .accepted ∈
      (patchFrom replies submissionId body left attempt lastError).log := by
  induction left generalizing attempt lastError with
  | zero => cases h
  | succ left ih =>
      simp only [patchFrom] at h ⊢
      rw [Script.bind_of_ok (Script.result_emit _)] at h ⊢
      simp only [Script.log_emit, List.mem_append, List.mem_singleton] at h ⊢
      cases hreply : replies attempt with
      | accepted => exact .inl rfl
      | lost error =>
          simp only [hreply] at h
          exact .inr (ih h)
      | refused error =>
          simp only [hreply] at h
          exact .inr (ih h)

theorem reporting_update {message : Dict} {submissionId : Json}
    (hid : submissionId = taskSubmission message) (replies : Nat → PatchReply)
    (status output : String) (timeMs : Json) (counts : Option (Int × Int)) :
    Reporting message
      (updateSubmission replies submissionId status output timeMs counts) := by
  have hverdict : HasVerdict (verdictBody status output timeMs counts) := by
    refine ⟨_, status, rfl, ?_⟩
    cases counts <;> simp [field?]
  constructor
  · intro a ha
    obtain ⟨reply, rfl⟩ := patchFrom_log _ _ _ _ _ _ a ha
    exact id
  · intro h
    exact ⟨_, patchFrom_accepted h, hid, hverdict, rfl⟩

theorem required_log (message : Dict) (key : String) : (required message key).log = [] := by
  unfold required
  split <;> rfl

theorem required_submission {message : Dict} {submissionId : Json}
    (h : (required message "submission_id").result = .ok submissionId) :
    submissionId = taskSubmission message := by
  unfold required at h
  unfold taskSubmission fieldD
  cases hfield : field? message "submission_id" with
  | none =>
      rw [hfield] at h
      cases h
  | some value =>
      rw [hfield] at h
      cases h
      rfl

theorem judgeCases_log (message : Dict) : (judgeCases message).log = [] := by
  unfold judgeCases
  split <;> rfl

theorem caseField_log (case : Json) (key : String) : (caseField case key).log = [] := by
  unfold caseField
  split <;> rfl

theorem runCodeInSandbox_log (steps : TaskSteps) : (runCodeInSandbox steps).log = [] := by
  unfold runCodeInSandbox
  cases hprepare : steps.prepare with
  | error error => rfl
  | ok preparation => cases preparation <;> rfl

theorem reporting_customRun {message : Dict} {submissionId : Json}
    (hid : submissionId = taskSubmission message) (steps : TaskSteps) (timeLimit : Json)
    (result : SandboxResult) :
    Reporting message (reportCustomRun steps submissionId timeLimit result) := by
  unfold reportCustomRun
  dsimp only
  split
  · exact reporting_update hid _ _ _ _ _
  split
  · exact reporting_update hid _ _ _ _ _
  split
  · exact reporting_update hid _ _ _ _ _
  · exact reporting_update hid _ _ _ _ _

theorem carriesJob_retryPayload (message : Dict) (attempt : Int) (tp : TopicPartition)
    (messageOffset : Int) (error : String) :
    CarriesJob message (retryPayload message attempt tp messageOffset error) := by
  intro key hkey
  refine field?_append_of_not_mem fun hmem => ?_
  have hdisjoint : ∀ key ∈ jobKeys, key ∉ ["delivery_attempt", "last_executor_error",
      "last_failed_topic", "last_failed_partition", "last_failed_offset"] := by decide
  exact hdisjoint key hkey hmem

theorem reporting_publishRetry (message : Dict) (attempt : Int) (tp : TopicPartition)
    (messageOffset : Int) (error : String) (reply : PublishReply) :
    Reporting message
      (publishRetry message attempt tp messageOffset error reply) := by
  constructor
  · exact Script.forall_log_bind (by simp [IsMark]) (by simp)
  · intro h
    have hack : reply = .acknowledged := by
      cases reply with
      | acknowledged => rfl
      | lost error => cases h
      | refused error => cases h
    refine ⟨_, List.mem_singleton_self _, ?_, hack⟩
    exact carriesJob_retryPayload message attempt tp messageOffset error

theorem Reporting.then_mark {message : Dict} {script : TaskScript Unit}
    (h : Reporting message script) (site : MarkSite) (tp : TopicPartition)
    (messageOffset : Int) :
    Preceded (Accounts message) IsMark
      (script >>= fun _ => markCompleted site tp messageOffset).log :=
  preceded_bind (preceded_of_forall_not h.unmarked) fun _ hresult =>
    .inr (h.accounted hresult)

theorem handleFault_preceded (config : ExecutorConfig) (message : Dict) (attempt : Int)
    (tp : TopicPartition) (messageOffset : Int) (steps : TaskSteps) (error : String) :
    Preceded (Accounts message) IsMark
      (handleFault config message attempt tp messageOffset steps error).log := by
  unfold handleFault
  split
  · exact (reporting_publishRetry message attempt tp messageOffset error
      steps.publish).then_mark _ _ _
  · refine preceded_bind (preceded_of_forall_not ?_) fun _ _ => .inl ?_
    · exact Script.forall_log_bind (by simp [IsMark]) (by simp)
    · exact (reporting_update rfl _ _ _ _ _).then_mark _ _ _

section Runtime

variable [PythonRuntime]

theorem reporting_gradeCases {message : Dict} {submissionId : Json}
    (hid : submissionId = taskSubmission message) (steps : TaskSteps) (total : Int)
    (cases : List Json) (index : Nat) (passed time : Int) (lastOutput : String) :
    Reporting message
      (gradeCases steps submissionId total cases index passed time lastOutput) := by
  induction cases generalizing index passed time lastOutput with
  | nil => exact reporting_update hid _ _ _ _ _
  | cons case rest ih =>
      unfold gradeCases
      refine reporting_silent_bind (caseField_log _ _) fun _ _ => ?_
      refine reporting_silent_bind (Script.log_ofExcept _) fun result _ => ?_
      dsimp only
      split
      · exact reporting_update hid _ _ _ _ _
      split
      · exact reporting_update hid _ _ _ _ _
      split
      · exact reporting_update hid _ _ _ _ _
      refine reporting_silent_bind (caseField_log _ _) fun expected _ => ?_
      split
      · exact ih _ _ _ _
      · exact reporting_update hid _ _ _ _ _

theorem reporting_gradeSubmission (message : Dict) (steps : TaskSteps) :
    Reporting message (gradeSubmission message steps) := by
  unfold gradeSubmission
  refine reporting_silent_bind (required_log _ _) fun submissionId hread => ?_
  have hid := required_submission hread
  refine reporting_silent_bind (required_log _ _) fun _ _ => ?_
  refine reporting_silent_bind (required_log _ _) fun _ _ => ?_
  refine reporting_silent_bind (required_log _ _) fun timeLimit _ => ?_
  refine reporting_silent_bind (judgeCases_log _) fun cases _ => ?_
  cases cases with
  | nil =>
      refine reporting_silent_bind (runCodeInSandbox_log _) fun result _ => ?_
      exact reporting_customRun hid steps timeLimit result
  | cons first rest =>
      refine reporting_silent_bind (caseField_log _ _) fun _ _ => ?_
      refine reporting_silent_bind (Script.log_ofExcept _) fun preparation _ => ?_
      cases preparation with
      | failed result => exact reporting_update hid _ _ _ _ _
      | ready =>
          exact (reporting_gradeCases hid steps _ _ _ _ _ _).tryFinally
            (Script.log_ofExcept _)

theorem tryGrade_preceded (config : ExecutorConfig) (message : Dict)
    (tp : TopicPartition) (messageOffset : Int) (steps : TaskSteps) :
    Preceded (Accounts message) IsMark
      (tryGrade config message tp messageOffset steps).log := by
  unfold tryGrade
  split
  · exact (reporting_update rfl _ _ _ _ _).then_mark _ _ _
  · exact (reporting_gradeSubmission message steps).then_mark _ _ _

/--
`mark_completed` is called only after a callback with a verdict was accepted or a
retry with the job was acknowledged, whatever the steps of the task answer.
-/
theorem mark_accounted_for (config : ExecutorConfig) (message : Dict)
    (tp : TopicPartition) (messageOffset : Int) (steps : TaskSteps) :
    Preceded (Accounts message) IsMark
      (runGradeTask config message tp messageOffset steps).log := by
  unfold runGradeTask
  split
  · exact preceded_of_forall_not (by simp)
  · refine preceded_tryExcept (tryGrade_preceded _ _ _ _ _) fun error _ => ?_
    refine preceded_tryExcept (handleFault_preceded _ _ _ _ _ _ _) fun _ _ => ?_
    exact preceded_of_forall_not (by simp)

end Runtime

end JudgeVortex.Executor.Scripts
