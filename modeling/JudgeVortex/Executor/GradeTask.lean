import JudgeVortex.Executor.Callback
import JudgeVortex.Executor.CommitTracker

/-!
# One grading task

`run_grade_task` of `executor_service/main.py`, with `_get_delivery_attempt`,
`_publish_retry` and `_publish_dead_letter`.  Each awaited call is answered by a
`TaskEnv`; between two awaits other tasks may use the tracker, so each mark is made
on a tracker of its own.
-/

namespace JudgeVortex.Executor

open JudgeVortex.Python

structure ExecutorConfig where
  executorName : String
  supportedLanguages : List String
  maxDeliveryAttempts : Int

/-- What becomes of one published message; it may be stored although `get` raises. -/
inductive PublishReply where
  | acknowledged
  | lost (error : String)
  | refused (error : String)
  deriving DecidableEq, Repr

def PublishReply.stored : PublishReply → Bool
  | .acknowledged | .lost _ => true
  | .refused _ => false

def PublishReply.result : PublishReply → Except String Unit
  | .acknowledged => .ok ()
  | .lost error | .refused error => .error error

structure GradeOutcome where
  result : Except String Unit
  stored : List CallbackPayload

structure MarkSite where
  tracker : CommitTracker
  broker : BrokerReplies

structure TaskEnv where
  routeCallback : PatchOutcome
  grade : GradeOutcome
  firstMark : MarkSite
  publish : PublishReply
  failedAtMs : Int
  faultCallback : PatchOutcome
  secondMark : MarkSite

structure TaskRun where
  stored : List CallbackPayload
  marks : List MarkOutcome
  retry : Option Dict
  deadLetter : Option Dict

/-- `_get_delivery_attempt`; an overflow is not caught. -/
def getDeliveryAttempt (message : Dict) : Except PyError Int :=
  match (fieldD message "delivery_attempt" (.int 1)).toInt with
  | .ok n => .ok (max 1 n)
  | .error .typeError | .error .valueError => .ok 1
  | .error error => .error error

section Task

variable [PythonRuntime]

def taskLanguage (message : Dict) : String :=
  lower (strip (fieldD message "language" (.str "")).toText)

def retryPayload (message : Dict) (attempt : Int) (tp : TopicPartition)
    (messageOffset : Int) (error : String) : Dict :=
  message ++ [("delivery_attempt", .int (attempt + 1)), ("last_executor_error", .str error),
    ("last_failed_topic", .str tp.topic), ("last_failed_partition", .int tp.partition),
    ("last_failed_offset", .int messageOffset)]

def deadLetterPayload (config : ExecutorConfig) (message : Dict) (tp : TopicPartition)
    (messageOffset : Int) (error : String) (failedAtMs : Int) : Dict :=
  message ++ [("failed_executor", .str config.executorName),
    ("dead_letter_reason", .str "max_delivery_attempts_exceeded"),
    ("dead_letter_error", .str error), ("dead_letter_topic", .str tp.topic),
    ("dead_letter_partition", .int tp.partition), ("dead_letter_offset", .int messageOffset),
    ("failed_at_epoch_ms", .int failedAtMs)]

def routeMismatch (config : ExecutorConfig) (language : String) : CallbackPayload :=
  ⟨"SYSTEM_ERROR", "Executor route mismatch in " ++ config.executorName ++
    ": unsupported language '" ++ language ++ "'.", 0, none, none⟩

def executorFault (error : String) : CallbackPayload :=
  ⟨"SYSTEM_ERROR", "Executor error: " ++ error, 0, none, none⟩

def RouteMismatch (config : ExecutorConfig) (message : Dict) : Prop :=
  config.supportedLanguages ≠ [] ∧ taskLanguage message ∉ config.supportedLanguages

instance (config : ExecutorConfig) (message : Dict) :
    Decidable (RouteMismatch config message) :=
  inferInstanceAs (Decidable (_ ∧ _))

def mark (site : MarkSite) (tp : TopicPartition) (messageOffset : Int) : MarkOutcome :=
  markCompleted site.tracker tp messageOffset site.broker

structure TryOutcome where
  result : Except String Unit
  stored : List CallbackPayload
  marks : List MarkOutcome

def thenMark (result : Except String Unit) (stored : List CallbackPayload) (site : MarkSite)
    (tp : TopicPartition) (messageOffset : Int) : TryOutcome :=
  match result with
  | .error error => ⟨.error error, stored, []⟩
  | .ok () =>
      let outcome := mark site tp messageOffset
      ⟨outcome.result, stored, [outcome]⟩

def tryGrade (config : ExecutorConfig) (message : Dict) (tp : TopicPartition)
    (messageOffset : Int) (env : TaskEnv) : TryOutcome :=
  if RouteMismatch config message then
    thenMark env.routeCallback.result
      (List.replicate env.routeCallback.stored
        (routeMismatch config (taskLanguage message)))
      env.firstMark tp messageOffset
  else thenMark env.grade.result env.grade.stored env.firstMark tp messageOffset

def handleFault (config : ExecutorConfig) (message : Dict) (attempt : Int)
    (tp : TopicPartition) (messageOffset : Int) (error : String) (env : TaskEnv) : TaskRun :=
  let published payload := if env.publish.stored then some payload else none
  if attempt < config.maxDeliveryAttempts then
    let retry := published (retryPayload message attempt tp messageOffset error)
    let after := thenMark env.publish.result [] env.secondMark tp messageOffset
    ⟨[], after.marks, retry, none⟩
  else
    let deadLetter := published
      (deadLetterPayload config message tp messageOffset error env.failedAtMs)
    match env.publish.result with
    | .error _ => ⟨[], [], none, deadLetter⟩
    | .ok () =>
        let after := thenMark env.faultCallback.result
          (List.replicate env.faultCallback.stored (executorFault error)) env.secondMark tp
          messageOffset
        ⟨after.stored, after.marks, none, deadLetter⟩

/-- `run_grade_task`.  An unreadable attempt number raises before the outer `try`. -/
def runGradeTask (config : ExecutorConfig) (message : Dict) (tp : TopicPartition)
    (messageOffset : Int) (env : TaskEnv) : TaskRun :=
  match getDeliveryAttempt message with
  | .error _ => ⟨[], [], none, none⟩
  | .ok attempt =>
      let outcome := tryGrade config message tp messageOffset env
      match outcome.result with
      | .ok () => ⟨outcome.stored, outcome.marks, none, none⟩
      | .error error =>
          let handled := handleFault config message attempt tp messageOffset error env
          { handled with
            stored := outcome.stored ++ handled.stored
            marks := outcome.marks ++ handled.marks }

/-! ## Which tasks mark their offset -/

def EndsMarked (run : TaskRun) (tp : TopicPartition) (messageOffset : Int) : Prop :=
  ∃ outcome ∈ run.marks, outcome.result = .ok () ∧
    OffsetMarked outcome.tracker tp messageOffset

def FirstCallReturns (config : ExecutorConfig) (message : Dict) (env : TaskEnv) : Prop :=
  (if RouteMismatch config message then env.routeCallback.result else env.grade.result) =
    .ok ()

def MarkSite.LookupAnswers (site : MarkSite) (tp : TopicPartition) : Prop :=
  Executor.LookupAnswers site.tracker tp site.broker.committed

omit [PythonRuntime] in
private theorem exists_marks_thenMark_iff {site : MarkSite} (tp : TopicPartition)
    (messageOffset : Int) (hcommit : site.broker.commit = .acknowledged)
    (result : Except String Unit) (stored : List CallbackPayload) :
    (∃ outcome ∈ (thenMark result stored site tp messageOffset).marks,
        outcome.result = .ok () ∧ OffsetMarked outcome.tracker tp messageOffset) ↔
      result = .ok () ∧ site.LookupAnswers tp := by
  cases result with
  | error error => simp [thenMark]
  | ok u =>
      have hreturns := markCompleted_returns_iff site.tracker tp messageOffset hcommit
      simp only [thenMark, List.mem_singleton, exists_eq_left, mark, true_and]
      constructor
      · exact fun h => hreturns.mp h.1
      · exact fun h => ⟨hreturns.mpr h, offsetMarked_of_returns (hreturns.mpr h)⟩

omit [PythonRuntime] in
private theorem result_thenMark_iff {site : MarkSite} {tp : TopicPartition}
    {messageOffset : Int} (hcommit : site.broker.commit = .acknowledged)
    (result : Except String Unit) (stored : List CallbackPayload) :
    (thenMark result stored site tp messageOffset).result = .ok () ↔
      result = .ok () ∧ site.LookupAnswers tp := by
  cases result with
  | error error => simp [thenMark]
  | ok u =>
      have hreturns := markCompleted_returns_iff site.tracker tp messageOffset hcommit
      simp only [thenMark, mark, true_and]
      exact hreturns

omit [PythonRuntime] in
private theorem endsMarked_handleFault_iff (config : ExecutorConfig) (message : Dict)
    (attempt : Int) (tp : TopicPartition) (messageOffset : Int) (error : String)
    {env : TaskEnv} (hpublish : env.publish = .acknowledged)
    (hcommit : env.secondMark.broker.commit = .acknowledged) :
    EndsMarked (handleFault config message attempt tp messageOffset error env) tp
        messageOffset ↔
      (attempt < config.maxDeliveryAttempts ∨ env.faultCallback.result = .ok ()) ∧
        env.secondMark.LookupAnswers tp := by
  unfold EndsMarked handleFault
  simp only [hpublish, PublishReply.result]
  split
  case isTrue hattempt =>
      have hmarks := exists_marks_thenMark_iff tp messageOffset hcommit (.ok ()) []
      simpa [hattempt] using hmarks
  case isFalse hattempt =>
      rw [or_iff_right hattempt]
      exact exists_marks_thenMark_iff _ _ hcommit _ _

theorem endsMarked_runGradeTask_iff (config : ExecutorConfig) (message : Dict)
    (tp : TopicPartition) (messageOffset : Int) {env : TaskEnv}
    (hpublish : env.publish = .acknowledged)
    (hfirst : env.firstMark.broker.commit = .acknowledged)
    (hsecond : env.secondMark.broker.commit = .acknowledged) :
    EndsMarked (runGradeTask config message tp messageOffset env) tp messageOffset ↔
      ∃ attempt, getDeliveryAttempt message = .ok attempt ∧
        (FirstCallReturns config message env ∧ env.firstMark.LookupAnswers tp ∨
          (attempt < config.maxDeliveryAttempts ∨ env.faultCallback.result = .ok ()) ∧
            env.secondMark.LookupAnswers tp) := by
  cases hattempt : getDeliveryAttempt message with
  | error error => simp [runGradeTask, hattempt, EndsMarked]
  | ok attempt =>
      have htry : (tryGrade config message tp messageOffset env).result = .ok () ↔
          FirstCallReturns config message env ∧ env.firstMark.LookupAnswers tp := by
        unfold tryGrade FirstCallReturns
        split <;> exact result_thenMark_iff hfirst _ _
      have hmarks : EndsMarked ⟨(tryGrade config message tp messageOffset env).stored,
            (tryGrade config message tp messageOffset env).marks, none, none⟩ tp
            messageOffset ↔
          FirstCallReturns config message env ∧ env.firstMark.LookupAnswers tp := by
        unfold EndsMarked tryGrade FirstCallReturns
        split <;> exact exists_marks_thenMark_iff _ _ hfirst _ _
      simp only [runGradeTask, hattempt, Except.ok.injEq, exists_eq_left']
      cases hresult : (tryGrade config message tp messageOffset env).result with
      | ok u =>
          have hreturns := htry.mp hresult
          exact iff_of_true (hmarks.mpr hreturns) (.inl hreturns)
      | error error =>
          have hnot : ¬ (FirstCallReturns config message env ∧
              env.firstMark.LookupAnswers tp) := by
            rw [← htry, hresult]
            simp
          have hfault := endsMarked_handleFault_iff config message attempt tp messageOffset
            error hpublish hsecond
          rw [or_iff_right hnot, ← hfault]
          unfold EndsMarked at hmarks ⊢
          simp only [List.mem_append, or_and_right, exists_or]
          exact or_iff_right fun h => hnot (hmarks.mp h)

/--
With every publish and commit accepted, a task ends marked exactly if its attempt
number is readable and either the first call returns, or a retry is left, or the
fault callback is accepted; the lookup before the mark must be answered.
-/
theorem task_ends_marked_iff (config : ExecutorConfig) (message : Dict)
    (tp : TopicPartition) (messageOffset : Int) (env : TaskEnv)
    (hpublish : env.publish = .acknowledged)
    (hfirst : env.firstMark.broker.commit = .acknowledged)
    (hsecond : env.secondMark.broker.commit = .acknowledged) :
    EndsMarked (runGradeTask config message tp messageOffset env) tp messageOffset ↔
      ∃ attempt, getDeliveryAttempt message = .ok attempt ∧
        (FirstCallReturns config message env ∧ env.firstMark.LookupAnswers tp ∨
          (attempt < config.maxDeliveryAttempts ∨ env.faultCallback.result = .ok ()) ∧
            env.secondMark.LookupAnswers tp) :=
  endsMarked_runGradeTask_iff config message tp messageOffset hpublish hfirst hsecond

end Task

/-! ## A deleted submission on its last attempt -/

private def lastAttempt : Dict :=
  [("submission_id", .int 7), ("language", .str "python"), ("delivery_attempt", .int 3)]

private def coreExecutor : ExecutorConfig := ⟨"executor-core", ["python"], 3⟩

private def corePartition : TopicPartition := ⟨"code_submissions_core", 0⟩

private def committedAt (offset : Int) : MarkSite :=
  ⟨.new, ⟨.ok (some offset), .acknowledged⟩⟩

private def deletedSubmission : TaskEnv where
  routeCallback := patchDjango fun _ => .refused "404 Client Error"
  grade := ⟨(patchDjango fun _ => .refused "404 Client Error").result, []⟩
  firstMark := committedAt 5
  publish := .acknowledged
  failedAtMs := 0
  faultCallback := patchDjango fun _ => .refused "404 Client Error"
  secondMark := committedAt 5

theorem deleted_submission_stays_unmarked :
    letI := plainRuntime
    ¬ ∀ (config : ExecutorConfig) (message : Dict) (tp : TopicPartition)
        (messageOffset : Int) (env : TaskEnv), env.publish = .acknowledged →
      env.firstMark.broker.commit = .acknowledged →
      env.secondMark.broker.commit = .acknowledged →
      EndsMarked (runGradeTask config message tp messageOffset env) tp messageOffset := by
  let := plainRuntime
  intro h
  have hmarked := h coreExecutor lastAttempt corePartition 5 deletedSubmission rfl rfl rfl
  obtain ⟨attempt, hread, hends⟩ := (endsMarked_runGradeTask_iff coreExecutor lastAttempt
    corePartition 5 rfl rfl rfl).mp hmarked
  have hthird : getDeliveryAttempt lastAttempt = .ok 3 := rfl
  rw [hthird, Except.ok.injEq] at hread
  have hrefused : ∃ error, (patchDjango fun _ => .refused "404 Client Error").result =
      .error error := ⟨_, rfl⟩
  obtain ⟨error, hrefused⟩ := hrefused
  rcases hends with ⟨hfirst, -⟩ | ⟨hretry | hfault, -⟩
  · simp [FirstCallReturns, deletedSubmission, hrefused] at hfirst
  · rw [← hread] at hretry
    exact absurd hretry (by decide)
  · simp [deletedSubmission, hrefused] at hfault

private def firstAttempt : Dict :=
  [("submission_id", .int 7), ("language", .str "python"), ("delivery_attempt", .int 1)]

theorem task_ends_marked_deleted_submission :
    letI := plainRuntime
    EndsMarked (runGradeTask coreExecutor firstAttempt corePartition 5 deletedSubmission)
      corePartition 5 := by
  let := plainRuntime
  have hattempt : getDeliveryAttempt firstAttempt = .ok 1 := rfl
  have hretry : 1 < coreExecutor.maxDeliveryAttempts := by decide
  have hlookup : deletedSubmission.secondMark.LookupAnswers corePartition :=
    .inr ⟨some 5, rfl⟩
  have hmarked := task_ends_marked_iff coreExecutor firstAttempt corePartition 5
    deletedSubmission rfl rfl rfl
  exact hmarked.mpr ⟨1, hattempt, .inr ⟨.inl hretry, hlookup⟩⟩

end JudgeVortex.Executor
