import JudgeVortex.Executor.GradeTask
import JudgeVortex.System.Callbacks

/-!
# Deliveries of one job

A task that fails after a retry is left publishes the job again, and the message is
delivered to another task.  The chain of these deliveries is followed through the
rows that the web tier stores for their callbacks.
-/

namespace JudgeVortex.System

open JudgeVortex.CoreApi JudgeVortex.Executor JudgeVortex.Python

/-- One delivery: the executor that takes it, where it lies, what its calls answer. -/
structure Delivery where
  config : ExecutorConfig
  tp : TopicPartition
  messageOffset : Int
  env : TaskEnv

section Chain

variable [PythonRuntime]

def Delivery.run (d : Delivery) (message : Dict) : TaskRun :=
  runGradeTask d.config message d.tp d.messageOffset d.env

/-- The tasks that a job message and the retries of it lead to, in order. -/
def deliveryRuns : Dict → List Delivery → List TaskRun
  | _, [] => []
  | message, d :: rest =>
      d.run message :: (d.run message).retry.elim [] fun next => deliveryRuns next rest

def storedLater (message : Dict) (d : Delivery) (rest : List Delivery) :
    List CallbackPayload :=
  ((deliveryRuns message (d :: rest)).flatMap TaskRun.stored).drop d.env.grade.stored.length

def storedRows (question : Option ExamQuestion) (submission : Submission) :
    List CallbackPayload → List Submission
  | [] => []
  | payload :: rest =>
      let row := callbackRow question submission payload
      row :: storedRows question row rest

def Delivery.FirstMarkRaises (d : Delivery) : Prop :=
  (mark d.env.firstMark d.tp d.messageOffset).result ≠ .ok ()

def StoresFault (payloads : List CallbackPayload) : Prop :=
  ∃ payload ∈ payloads, payload.status = "SYSTEM_ERROR"

/--
After a grading that returned, the first mark raises, and either the job is retried
and the retry stores SYSTEM_ERROR, or it is dead-lettered and the fault callback is
stored.
-/
def Overwrites (attempt : Int) (d : Delivery) : List Delivery → Prop
  | [] =>
      d.FirstMarkRaises ∧ d.config.maxDeliveryAttempts ≤ attempt ∧
        d.env.publish = .acknowledged ∧ 0 < d.env.faultCallback.stored
  | next :: rest =>
      d.FirstMarkRaises ∧
        if attempt < d.config.maxDeliveryAttempts then
          d.env.publish.stored = true ∧
            (StoresFault next.env.grade.stored ∨ Overwrites (attempt + 1) next rest)
        else d.env.publish = .acknowledged ∧ 0 < d.env.faultCallback.stored

/-! ## The retried message -/

omit [PythonRuntime] in
theorem getDeliveryAttempt_pos {message : Dict} {attempt : Int}
    (h : getDeliveryAttempt message = .ok attempt) : 1 ≤ attempt := by
  unfold getDeliveryAttempt at h
  split at h
  · cases h
    exact le_max_left _ _
  · cases h
    exact le_rfl
  · cases h
    exact le_rfl
  · cases h

omit [PythonRuntime] in
theorem getDeliveryAttempt_retryPayload (message : Dict) {attempt : Int} (h : 1 ≤ attempt)
    (tp : TopicPartition) (messageOffset : Int) (error : String) :
    getDeliveryAttempt (retryPayload message attempt tp messageOffset error) =
      .ok (attempt + 1) := by
  have hfield : field? (retryPayload message attempt tp messageOffset error)
      "delivery_attempt" = some (.int (attempt + 1)) := by
    rw [retryPayload, field?_append]
    simp [field?]
  have hmax : max 1 (attempt + 1) = attempt + 1 := max_eq_right (by omega)
  simp [getDeliveryAttempt, fieldD, hfield, hmax]

theorem taskLanguage_retryPayload (message : Dict) (attempt : Int) (tp : TopicPartition)
    (messageOffset : Int) (error : String) :
    taskLanguage (retryPayload message attempt tp messageOffset error) =
      taskLanguage message := by
  have hfield : field? (retryPayload message attempt tp messageOffset error) "language" =
      field? message "language" := by
    rw [retryPayload, field?_append]
    simp [field?]
  simp [taskLanguage, fieldD, hfield]

/-! ## What a delivery stores after its grading -/

private theorem run_of_graded {d : Delivery} {message : Dict} {attempt : Int}
    (hattempt : getDeliveryAttempt message = .ok attempt)
    (hroute : ¬ RouteMismatch d.config message) (hgraded : d.env.grade.result = .ok ()) :
    (¬ d.FirstMarkRaises ∧ (d.run message).stored = d.env.grade.stored ∧
      (d.run message).retry = none) ∨
    (d.FirstMarkRaises ∧ attempt < d.config.maxDeliveryAttempts ∧
      (d.run message).stored = d.env.grade.stored ∧
      (d.env.publish.stored = false ∧ (d.run message).retry = none ∨
        d.env.publish.stored = true ∧ ∃ error, (d.run message).retry =
          some (retryPayload message attempt d.tp d.messageOffset error))) ∨
    (d.FirstMarkRaises ∧ d.config.maxDeliveryAttempts ≤ attempt ∧
      (d.run message).retry = none ∧
      (d.env.publish ≠ .acknowledged ∧ (d.run message).stored = d.env.grade.stored ∨
        d.env.publish = .acknowledged ∧ ∃ error, (d.run message).stored =
          d.env.grade.stored ++
            List.replicate d.env.faultCallback.stored (executorFault error))) := by
  unfold Delivery.FirstMarkRaises
  simp only [Delivery.run, runGradeTask, hattempt, tryGrade, if_neg hroute, thenMark,
    hgraded]
  cases hmark : (mark d.env.firstMark d.tp d.messageOffset).result with
  | ok u => exact .inl ⟨by simp, rfl, rfl⟩
  | error error =>
      right
      simp only [handleFault]
      by_cases hlast : attempt < d.config.maxDeliveryAttempts
      · refine .inl ⟨by simp, hlast, by simp [hlast], ?_⟩
        cases hstored : d.env.publish.stored with
        | false => exact .inl ⟨rfl, by simp [hlast]⟩
        | true => exact .inr ⟨rfl, error, by simp [hlast]⟩
      · refine .inr ⟨by simp, by omega, ?_, ?_⟩
        · cases hpublish : d.env.publish <;> simp [hlast, PublishReply.result]
        · cases hpublish : d.env.publish with
          | acknowledged =>
              refine .inr ⟨rfl, error, ?_⟩
              cases hfault : d.env.faultCallback.result <;>
                simp [hlast, PublishReply.result, thenMark]
          | lost error' => exact .inl ⟨by simp, by simp [hlast, PublishReply.result]⟩
          | refused error' => exact .inl ⟨by simp, by simp [hlast, PublishReply.result]⟩

omit [PythonRuntime] in
private theorem storesFault_append (payloads others : List CallbackPayload) :
    StoresFault (payloads ++ others) ↔ StoresFault payloads ∨ StoresFault others := by
  simp [StoresFault, or_and_right, exists_or]

omit [PythonRuntime] in
private theorem storesFault_replicate (n : Nat) (error : String) :
    StoresFault (List.replicate n (executorFault error)) ↔ 0 < n := by
  simp [StoresFault, List.mem_replicate, executorFault, Nat.pos_iff_ne_zero]

private theorem run_stored_drop {d : Delivery} {message : Dict} {attempt : Int}
    (hattempt : getDeliveryAttempt message = .ok attempt)
    (hroute : ¬ RouteMismatch d.config message) (hgraded : d.env.grade.result = .ok ()) :
    ∃ extra, (d.run message).stored = d.env.grade.stored ++ extra := by
  rcases run_of_graded hattempt hroute hgraded with ⟨-, hstored, -⟩ | ⟨-, -, hstored, -⟩ |
    ⟨-, -, -, ⟨-, hstored⟩ | ⟨-, error, hstored⟩⟩
  · exact ⟨[], by rw [hstored, List.append_nil]⟩
  · exact ⟨[], by rw [hstored, List.append_nil]⟩
  · exact ⟨[], by rw [hstored, List.append_nil]⟩
  · exact ⟨_, hstored⟩

private theorem stored_eq_append {d : Delivery} {message : Dict} {attempt : Int}
    (hattempt : getDeliveryAttempt message = .ok attempt)
    (hroute : ¬ RouteMismatch d.config message) (hgraded : d.env.grade.result = .ok ())
    (rest : List Delivery) :
    (deliveryRuns message (d :: rest)).flatMap TaskRun.stored =
      d.env.grade.stored ++ storedLater message d rest := by
  obtain ⟨extra, hextra⟩ := run_stored_drop hattempt hroute hgraded
  simp [storedLater, deliveryRuns, hextra, List.append_assoc]

private theorem storedLater_eq (message : Dict) (d : Delivery) (rest : List Delivery) :
    storedLater message d rest =
      ((d.run message).stored ++
        ((d.run message).retry.elim [] fun next => deliveryRuns next rest).flatMap
          TaskRun.stored).drop d.env.grade.stored.length := by
  rw [storedLater, deliveryRuns, List.flatMap_cons]

theorem storesFault_storedLater_iff {message : Dict} {attempt : Int}
    (hattempt : getDeliveryAttempt message = .ok attempt) (d : Delivery)
    (rest : List Delivery) (hroute : ∀ e ∈ d :: rest, ¬ RouteMismatch e.config message)
    (hgraded : ∀ e ∈ d :: rest, e.env.grade.result = .ok ()) :
    StoresFault (storedLater message d rest) ↔ Overwrites attempt d rest := by
  induction rest generalizing message attempt d with
  | nil =>
      have hnone : ∀ retry : Option Dict,
          (retry.elim [] fun next => deliveryRuns next []) = [] := by
        intro retry
        cases retry <;> rfl
      rw [storedLater_eq, hnone, List.flatMap_nil, List.append_nil, Overwrites]
      rcases run_of_graded hattempt (hroute d (by simp)) (hgraded d (by simp)) with
        ⟨hmark, hstored, -⟩ | ⟨-, hlast, hstored, -⟩ |
        ⟨hmark, hlast, -, ⟨hpublish, hstored⟩ | ⟨hpublish, error, hstored⟩⟩
      · simp [hstored, StoresFault, hmark]
      · simp [hstored, StoresFault, hlast]
      · simp [hstored, StoresFault, hpublish]
      · simp [hstored, storesFault_replicate, hmark, hlast, hpublish]
  | cons next rest ih =>
      have hpos := getDeliveryAttempt_pos hattempt
      rw [storedLater_eq, Overwrites]
      rcases run_of_graded hattempt (hroute d (by simp)) (hgraded d (by simp)) with
        ⟨hmark, hstored, hretry⟩ | ⟨hmark, hlast, hstored, ⟨hpublish, hretry⟩ |
          ⟨hpublish, error, hretry⟩⟩ |
        ⟨hmark, hlast, hretry, ⟨hpublish, hstored⟩ | ⟨hpublish, error, hstored⟩⟩
      · simp [hstored, hretry, StoresFault, hmark]
      · simp [hstored, hretry, StoresFault, hlast, hpublish]
      · -- The retry is delivered: its own gradings first, then what follows them.
        have hroute' : ∀ e ∈ next :: rest, ¬ RouteMismatch e.config
            (retryPayload message attempt d.tp d.messageOffset error) := by
          intro e he
          rw [RouteMismatch, taskLanguage_retryPayload]
          exact hroute e (List.mem_cons_of_mem _ he)
        have hgraded' : ∀ e ∈ next :: rest, e.env.grade.result = .ok () := fun e he =>
          hgraded e (List.mem_cons_of_mem _ he)
        have hattempt' := getDeliveryAttempt_retryPayload message hpos d.tp
          d.messageOffset error
        rw [hstored, hretry, List.drop_left, if_pos hlast, Option.elim_some]
        rw [stored_eq_append hattempt' (hroute' next (by simp)) (hgraded' next (by simp)),
          storesFault_append, ih hattempt' next hroute' hgraded']
        simp [hmark, hpublish]
      · have hnot : ¬ attempt < d.config.maxDeliveryAttempts := by omega
        simp [hstored, hretry, StoresFault, hpublish, hnot]
      · have hnot : ¬ attempt < d.config.maxDeliveryAttempts := by omega
        simp [hstored, hretry, storesFault_replicate, hmark, hpublish, hnot]

/-! ## The stored statuses -/

theorem callbackRow_status_fault_iff (question : Option ExamQuestion)
    (submission : Submission) (payload : CallbackPayload) :
    (callbackRow question submission payload).status = "SYSTEM_ERROR" ↔
      payload.status = "SYSTEM_ERROR" := by
  rw [callbackRow_eq]
  simp only [callbackVerdict]
  cases question with
  | none => rfl
  | some question =>
      rcases settle_question question (.str payload.status) (.str payload.output) _ _ _ with
        ⟨hsuccess, hstatus, -⟩ | ⟨hsuccess, hstatus, -⟩ | ⟨-, hstatus, -⟩
      · rw [Json.str.injEq] at hsuccess
        rw [hstatus, hsuccess, toText_str]
        decide
      · rw [Json.str.injEq] at hsuccess
        rw [hstatus, hsuccess, toText_str]
        decide
      · rw [hstatus]
        rfl

theorem storedRows_fault_iff (question : Option ExamQuestion) (submission : Submission)
    (payloads : List CallbackPayload) :
    (∃ row ∈ storedRows question submission payloads, row.status = "SYSTEM_ERROR") ↔
      StoresFault payloads := by
  induction payloads generalizing submission with
  | nil => simp [storedRows, StoresFault]
  | cons payload rest ih =>
      have hrest := ih (callbackRow question submission payload)
      simp only [storedRows, List.mem_cons, exists_eq_or_imp, hrest,
        callbackRow_status_fault_iff, StoresFault]

/--
After a grading that returned, no later callback of the task or of its retries
stores SYSTEM_ERROR, unless a mark that raises leads to one.
-/
theorem verdict_kept_iff (question : Option ExamQuestion) (submission : Submission)
    (message : Dict) (attempt : Int) (d : Delivery) (rest : List Delivery)
    (hattempt : getDeliveryAttempt message = .ok attempt)
    (hroute : ∀ e ∈ d :: rest, ¬ RouteMismatch e.config message)
    (hgraded : ∀ e ∈ d :: rest, e.env.grade.result = .ok ()) :
    (∀ row ∈ storedRows question submission (storedLater message d rest),
        row.status ≠ "SYSTEM_ERROR") ↔ ¬ Overwrites attempt d rest := by
  rw [← storesFault_storedLater_iff hattempt d rest hroute hgraded,
    ← storedRows_fault_iff question submission]
  push Not
  rfl

end Chain

/-! ## A commit that is refused after the verdict -/

private def gradedQuestion : ExamQuestion := ⟨1, 1, 10, "1", "1"⟩

private def gradedSubmission : Submission where
  id := 7
  userId := 3
  roomId := some 1
  questionId := some 1
  awardedMarks := 10
  passedTestcases := 1
  totalTestcases := 1
  output := some "1"
  code := "print(1)"
  files := [⟨"main.py", "print(1)"⟩]
  entryFile := "main.py"
  language := "python"
  status := "PASSED"
  executionTimeMs := some 20

private def thirdDelivery : Dict :=
  [("submission_id", .int 7), ("language", .str "python"), ("delivery_attempt", .int 3)]

private def siteWith (commit : CommitReply) : MarkSite :=
  ⟨.new, ⟨.ok (some 5), commit⟩⟩

private def deliveryWith (commit : CommitReply) : Delivery where
  config := ⟨"executor-core", [], 3⟩
  tp := ⟨"code_submissions_core", 0⟩
  messageOffset := 5
  env := {
    routeCallback := patchDjango fun _ => .accepted
    grade := ⟨.ok (), [⟨"SUCCESS", "1", 20, some 1, some 1⟩]⟩
    firstMark := siteWith commit
    publish := .acknowledged
    failedAtMs := 0
    faultCallback := patchDjango fun _ => .accepted
    secondMark := siteWith .acknowledged }

private theorem third_attempt : getDeliveryAttempt thirdDelivery = .ok 3 := rfl

private theorem site_advances (commit : CommitReply) :
    (mark (siteWith commit) ⟨"code_submissions_core", 0⟩ 5).result = commit.result := by
  rcases markCompleted_cases (siteWith commit).tracker ⟨"code_submissions_core", 0⟩ 5
      (siteWith commit).broker with
    ⟨error, hlookup, -⟩ | ⟨nextOffset, tracker', hlookup, hcases⟩
  · cases hlookup
  · have hnext : nextOffset = 5 := by
      have hfound : (5, _) = (nextOffset, tracker') := Except.ok.inj hlookup
      exact (Prod.mk.inj hfound).1.symm
    subst hnext
    rcases hcases with ⟨hlt, -⟩ | ⟨-, hmem, -⟩ | ⟨-, -, -, hresult, -⟩
    · omega
    · simp at hmem
    · exact hresult

theorem refused_commit_overwrites_verdict :
    letI := plainRuntime
    ¬ ∀ (question : Option ExamQuestion) (submission : Submission) (message : Dict)
        (attempt : Int) (d : Delivery) (rest : List Delivery),
      getDeliveryAttempt message = .ok attempt →
      (∀ e ∈ d :: rest, ¬ RouteMismatch e.config message) →
      (∀ e ∈ d :: rest, e.env.grade.result = .ok ()) →
      ∀ row ∈ storedRows question submission (storedLater message d rest),
        row.status ≠ "SYSTEM_ERROR" := by
  let := plainRuntime
  intro h
  let refused := deliveryWith (.refused "CommitFailedError")
  have hroute : ∀ e ∈ [refused], ¬ RouteMismatch e.config thirdDelivery := by
    simp [refused, deliveryWith, RouteMismatch]
  have hgraded : ∀ e ∈ [refused], e.env.grade.result = .ok () := by
    simp [refused, deliveryWith]
  have hoverwrites : Overwrites 3 refused [] := by
    refine ⟨fun hmark => ?_, le_rfl, rfl, Nat.one_pos⟩
    have hrefused := site_advances (.refused "CommitFailedError")
    cases hrefused.symm.trans hmark
  have hfault := (storesFault_storedLater_iff third_attempt refused [] hroute
    hgraded).mpr hoverwrites
  obtain ⟨row, hrow, hstatus⟩ := (storedRows_fault_iff (some gradedQuestion)
    gradedSubmission _).mpr hfault
  exact h _ _ _ _ _ _ third_attempt hroute hgraded row hrow hstatus

theorem verdict_kept_committed :
    letI := plainRuntime
    ¬ Overwrites 3 (deliveryWith .acknowledged) [] ∧
      ∀ row ∈ storedRows (some gradedQuestion) gradedSubmission
          (storedLater thirdDelivery (deliveryWith .acknowledged) []),
        row.status ≠ "SYSTEM_ERROR" := by
  let := plainRuntime
  have hkept := verdict_kept_iff (some gradedQuestion) gradedSubmission thirdDelivery 3
    (deliveryWith .acknowledged) [] third_attempt
    (by simp [deliveryWith, RouteMismatch]) (by simp [deliveryWith])
  have hnot : ¬ Overwrites 3 (deliveryWith .acknowledged) [] :=
    fun h => h.1 (site_advances .acknowledged)
  exact ⟨hnot, hkept.mpr hnot⟩

end JudgeVortex.System
