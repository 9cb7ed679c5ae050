import JudgeVortex.CoreApi.Admission
import JudgeVortex.Executor.TaskLeaves
import JudgeVortex.System.RetryChain

/-!
# How long a job is retried

The messages of one job, from the one that the web tier sent on: each is delivered once,
and the retry that its task publishes is the next.
-/

namespace JudgeVortex.System

open JudgeVortex.CoreApi JudgeVortex.Executor JudgeVortex.Python

open JudgeVortex.Executor.Scripts (CarriesJob jobKeys caseJson)

section Chain

variable [PythonRuntime]

/-- The message of each task of `deliveryRuns`, with the delivery that it came by. -/
def deliveredMessages : Dict → List Delivery → List (Dict × Delivery)
  | _, [] => []
  | message, d :: rest =>
      (message, d) ::
        (d.run message).retry.elim [] fun next => deliveredMessages next rest

theorem deliveryRuns_eq_map (message : Dict) (deliveries : List Delivery) :
    deliveryRuns message deliveries =
      (deliveredMessages message deliveries).map fun p => p.2.run p.1 := by
  induction deliveries generalizing message with
  | nil => rfl
  | cons d rest ih =>
      simp only [deliveryRuns, deliveredMessages, List.map_cons]
      cases (d.run message).retry with
      | none => rfl
      | some next => exact congrArg _ (ih next)

/-! ## The messages that one task publishes -/

theorem run_retry {d : Delivery} {message next : Dict} {attempt : Int}
    (hattempt : getDeliveryAttempt message = .ok attempt)
    (h : (d.run message).retry = some next) :
    attempt < d.config.maxDeliveryAttempts ∧ (d.run message).deadLetter = none ∧
      ∃ error, next = retryPayload message attempt d.tp d.messageOffset error := by
  simp only [Delivery.run, runGradeTask, hattempt] at h ⊢
  cases hresult : (tryGrade d.config message d.tp d.messageOffset d.env).result with
  | ok u => simp [hresult] at h
  | error error =>
      simp only [hresult, handleFault] at h ⊢
      by_cases hlast : attempt < d.config.maxDeliveryAttempts
      · simp only [if_pos hlast] at h ⊢
        refine ⟨hlast, trivial, error, ?_⟩
        split at h
        · exact (Option.some.inj h).symm
        · cases h
      · simp only [if_neg hlast] at h
        cases hpublish : d.env.publish.result <;> simp [hpublish] at h

theorem run_deadLetter {d : Delivery} {message payload : Dict} {attempt : Int}
    (hattempt : getDeliveryAttempt message = .ok attempt)
    (h : (d.run message).deadLetter = some payload) :
    d.config.maxDeliveryAttempts ≤ attempt ∧
      ∃ error, payload = deadLetterPayload d.config message d.tp d.messageOffset error
        d.env.failedAtMs := by
  simp only [Delivery.run, runGradeTask, hattempt] at h
  cases hresult : (tryGrade d.config message d.tp d.messageOffset d.env).result with
  | ok u => simp [hresult] at h
  | error error =>
      simp only [hresult, handleFault] at h
      by_cases hlast : attempt < d.config.maxDeliveryAttempts
      · simp only [if_pos hlast] at h
        cases h
      · simp only [if_neg hlast] at h
        refine ⟨not_lt.mp hlast, error, ?_⟩
        cases hpublish : d.env.publish.result with
        | error error' =>
            simp only [hpublish] at h
            split at h
            · exact (Option.some.inj h).symm
            · cases h
        | ok u =>
            simp only [hpublish] at h
            split at h
            · exact (Option.some.inj h).symm
            · cases h

omit [PythonRuntime] in
theorem carriesJob_deadLetterPayload (config : ExecutorConfig) (message : Dict)
    (tp : TopicPartition) (messageOffset : Int) (error : String) (failedAtMs : Int) :
    CarriesJob message
      (deadLetterPayload config message tp messageOffset error failedAtMs) := by
  intro key hkey
  refine field?_append_of_not_mem fun hmem => ?_
  have hdisjoint : ∀ key ∈ jobKeys, key ∉ ["failed_executor", "dead_letter_reason",
      "dead_letter_error", "dead_letter_topic", "dead_letter_partition",
      "dead_letter_offset", "failed_at_epoch_ms"] := by decide
  exact hdisjoint key hkey hmem

omit [PythonRuntime] in
theorem CarriesJob.trans {message next last : Dict} (h : CarriesJob message next)
    (h' : CarriesJob next last) : CarriesJob message last :=
  fun key hkey => (h' key hkey).trans (h key hkey)

/-! ## Along the chain -/

theorem retried {d : Delivery} {message next : Dict} {attempt : Int} (hpos : 1 ≤ attempt)
    (hattempt : getDeliveryAttempt message = .ok attempt) (h : (d.run message).retry = some next) :
    getDeliveryAttempt next = .ok (attempt + 1) ∧ CarriesJob message next := by
  obtain ⟨-, -, error, rfl⟩ := run_retry hattempt h
  exact ⟨getDeliveryAttempt_retryPayload message hpos d.tp d.messageOffset error,
    Scripts.carriesJob_retryPayload message attempt d.tp d.messageOffset error⟩

theorem attempt_of_delivered {message : Dict} {attempt : Int} (hpos : 1 ≤ attempt)
    (hattempt : getDeliveryAttempt message = .ok attempt) (deliveries : List Delivery)
    (k : Nat) {p : Dict × Delivery}
    (h : (deliveredMessages message deliveries)[k]? = some p) :
    getDeliveryAttempt p.1 = .ok (attempt + k) := by
  induction deliveries generalizing message attempt k with
  | nil => simp [deliveredMessages] at h
  | cons d rest ih =>
      cases k with
      | zero =>
          simp only [deliveredMessages, List.getElem?_cons_zero, Option.some.injEq] at h
          rw [← h, hattempt, Nat.cast_zero, Int.add_zero]
      | succ k =>
          simp only [deliveredMessages, List.getElem?_cons_succ] at h
          cases hretry : (d.run message).retry with
          | none => simp [hretry] at h
          | some next =>
              simp only [hretry, Option.elim_some] at h
              have hnext := (retried hpos hattempt hretry).1
              have hrest := ih (by omega) hnext k h
              rw [hrest, Except.ok.injEq]
              push_cast
              omega

theorem length_deliveredMessages_le {message : Dict} {attempt limit : Int}
    (hpos : 1 ≤ attempt) (hattempt : getDeliveryAttempt message = .ok attempt)
    (hle : attempt ≤ limit) {deliveries : List Delivery}
    (hmax : ∀ d ∈ deliveries, d.config.maxDeliveryAttempts = limit) :
    attempt + (deliveredMessages message deliveries).length ≤ limit + 1 := by
  induction deliveries generalizing message attempt with
  | nil =>
      simp only [deliveredMessages, List.length_nil, Nat.cast_zero]
      omega
  | cons d rest ih =>
      simp only [deliveredMessages, List.length_cons]
      cases hretry : (d.run message).retry with
      | none =>
          simp only [Option.elim_none, List.length_nil]
          push_cast
          omega
      | some next =>
          have hlt := (run_retry hattempt hretry).1
          rw [hmax d List.mem_cons_self] at hlt
          have hnext := (retried hpos hattempt hretry).1
          have hrest := ih (by omega) hnext (by omega)
            fun e he => hmax e (List.mem_cons_of_mem _ he)
          simp only [Option.elim_some]
          push_cast
          omega

theorem carriesJob_of_delivered {message : Dict} {attempt : Int} (hpos : 1 ≤ attempt)
    (hattempt : getDeliveryAttempt message = .ok attempt) {deliveries : List Delivery}
    {p : Dict × Delivery} (h : p ∈ deliveredMessages message deliveries) :
    CarriesJob message p.1 ∧ ∃ reached, getDeliveryAttempt p.1 = .ok reached := by
  induction deliveries generalizing message attempt with
  | nil => simp [deliveredMessages] at h
  | cons d rest ih =>
      simp only [deliveredMessages, List.mem_cons] at h
      rcases h with rfl | h
      · exact ⟨fun key _ => rfl, attempt, hattempt⟩
      · cases hretry : (d.run message).retry with
        | none => simp [hretry] at h
        | some next =>
            simp only [hretry, Option.elim_some] at h
            obtain ⟨hnext, hretried⟩ := retried hpos hattempt hretry
            obtain ⟨hcarries, hreached⟩ := ih (by omega) hnext h
            exact ⟨CarriesJob.trans hretried hcarries, hreached⟩

theorem delivery_mem_of_delivered {message : Dict} {deliveries : List Delivery}
    {p : Dict × Delivery} (h : p ∈ deliveredMessages message deliveries) :
    p.2 ∈ deliveries := by
  induction deliveries generalizing message with
  | nil => simp [deliveredMessages] at h
  | cons d rest ih =>
      simp only [deliveredMessages, List.mem_cons] at h
      rcases h with rfl | h
      · exact List.mem_cons_self
      · cases hretry : (d.run message).retry with
        | none => simp [hretry] at h
        | some next =>
            simp only [hretry, Option.elim_some] at h
            exact List.mem_cons_of_mem _ (ih h)

theorem deadLetters_length_le (message : Dict) {attempt : Int} (hpos : 1 ≤ attempt)
    (hattempt : getDeliveryAttempt message = .ok attempt) (deliveries : List Delivery) :
    ((deliveryRuns message deliveries).filterMap TaskRun.deadLetter).length ≤ 1 := by
  induction deliveries generalizing message attempt with
  | nil => simp [deliveryRuns]
  | cons d rest ih =>
      simp only [deliveryRuns]
      cases hretry : (d.run message).retry with
      | none =>
          cases hdead : (d.run message).deadLetter <;> simp [hdead]
      | some next =>
          have hnone := (run_retry hattempt hretry).2.1
          have hnext := (retried hpos hattempt hretry).1
          simp only [Option.elim_some, List.filterMap_cons, hnone]
          exact ih _ (by omega) hnext

def gradings (chain : List (Dict × Delivery)) : List (Dict × Delivery) :=
  chain.filter fun p => ¬ RouteMismatch p.2.config p.1

/--
Along the deliveries of a job whose first message has attempt 1: the k-th message has
attempt k, there are at most `limit` gradings, at most one dead letter and only at
attempt `limit`, and every published message carries the job.
-/
theorem retries_bounded (message : Dict) (limit : Int) (hpos : 1 ≤ limit)
    (hfirst : getDeliveryAttempt message = .ok 1) (deliveries : List Delivery)
    (hmax : ∀ d ∈ deliveries, d.config.maxDeliveryAttempts = limit) :
    let chain := deliveredMessages message deliveries
    (∀ (k : Nat) p, chain[k]? = some p → getDeliveryAttempt p.1 = .ok (1 + k)) ∧
    (gradings chain).length ≤ limit ∧
    (chain.filterMap fun p => (p.2.run p.1).deadLetter).length ≤ 1 ∧
    (∀ p ∈ chain, (p.2.run p.1).deadLetter ≠ none →
      getDeliveryAttempt p.1 = .ok limit) ∧
    ∀ p ∈ chain, ∀ payload, (p.2.run p.1).retry = some payload ∨
      (p.2.run p.1).deadLetter = some payload → CarriesJob message payload := by
  have hlength := length_deliveredMessages_le le_rfl hfirst hpos hmax
  refine ⟨attempt_of_delivered le_rfl hfirst deliveries, ?_, ?_, ?_, ?_⟩
  · have hsub := List.length_filter_le
      (fun p : Dict × Delivery => decide ¬ RouteMismatch p.2.config p.1)
      (deliveredMessages message deliveries)
    unfold gradings
    omega
  · have hdead := deadLetters_length_le message le_rfl hfirst deliveries
    rw [deliveryRuns_eq_map, List.filterMap_map] at hdead
    exact hdead
  · intro p hp hdead
    obtain ⟨k, hk, rfl⟩ := List.mem_iff_getElem.mp hp
    have hattempt := attempt_of_delivered le_rfl hfirst deliveries k
      (List.getElem?_eq_getElem hk)
    obtain ⟨payload, hpayload⟩ := Option.ne_none_iff_exists'.mp hdead
    have hlast := (run_deadLetter hattempt hpayload).1
    rw [hmax _ (delivery_mem_of_delivered hp)] at hlast
    rw [hattempt, Except.ok.injEq]
    omega
  · intro p hp payload hpublished
    obtain ⟨hcarries, reached, hreached⟩ := carriesJob_of_delivered le_rfl hfirst hp
    rcases hpublished with hretry | hdead
    · obtain ⟨-, -, error, rfl⟩ := run_retry hreached hretry
      exact CarriesJob.trans hcarries (Scripts.carriesJob_retryPayload _ _ _ _ _)
    · obtain ⟨-, error, rfl⟩ := run_deadLetter hreached hdead
      exact CarriesJob.trans hcarries (carriesJob_deadLetterPayload _ _ _ _ _ _)

/-! ## The first message -/

def fileJson (file : WorkspaceFile) : Json :=
  .obj [("path", .str file.path), ("content", .str file.content)]

def messagePayload (message : JobMessage) : Dict :=
  [("submission_id", .int message.job.submissionId),
    ("correlation_id", .str message.correlationId),
    ("delivery_attempt", .int message.deliveryAttempt), ("code", .str message.job.code),
    ("files", .arr (message.job.files.map fileJson)),
    ("entry_file", .str message.job.entryFile), ("language", .str message.job.language),
    ("user_input", message.job.userInput), ("time_limit_ms", .int message.job.timeLimitMs)] ++
  if message.job.judgeCases = [] then []
  else [("judge_cases", .arr (message.job.judgeCases.map caseJson))]

omit [PythonRuntime] in
theorem messagePayload_describes (message : JobMessage) :
    Scripts.Describes (messagePayload message) message.job := by
  unfold messagePayload
  by_cases hcases : message.job.judgeCases = []
  · rw [if_pos hcases, List.append_nil]
    refine ⟨rfl, rfl, rfl, rfl, ?_⟩
    rw [hcases]
    rfl
  · rw [if_neg hcases]
    refine ⟨rfl, rfl, rfl, rfl, ?_⟩
    obtain ⟨case, rest, hcons⟩ := List.exists_cons_of_ne_nil hcases
    rw [hcons]
    rfl

/-- A message that `perform_create` queues starts a chain at attempt 1. -/
theorem sent_attempt {catalogue : Catalogue} {env : SubmitEnv} {nextId user : Int}
    {body : Dict} {message : JobMessage}
    (h : message ∈ (performCreate catalogue env nextId user body).dispatch.sent) :
    getDeliveryAttempt (messagePayload message) = .ok 1 := by
  obtain ⟨prepared, -, -, rfl⟩ := performCreate_sent h
  unfold messagePayload getDeliveryAttempt
  split_ifs <;> rfl

end Chain

/-! ## A job whose grading always fails -/

def failingDelivery : Delivery where
  config := ⟨"executor-core", [], 3⟩
  tp := ⟨"code_submissions_core", 0⟩
  messageOffset := 5
  env := {
    routeCallback := patchDjango fun _ => .accepted
    grade := ⟨.error "Failed to update Django after retries: 503", []⟩
    firstMark := ⟨.new, ⟨.ok (some 5), .acknowledged⟩⟩
    publish := .acknowledged
    failedAtMs := 0
    faultCallback := patchDjango fun _ => .accepted
    secondMark := ⟨.new, ⟨.ok (some 5), .acknowledged⟩⟩ }

def failingMessage : Dict :=
  [("submission_id", .int 7), ("language", .str "python"), ("delivery_attempt", .int 1)]

theorem retries_bounded_failing :
    letI := plainRuntime
    let chain := deliveredMessages failingMessage (List.replicate 5 failingDelivery)
    chain.length = 3 ∧ (gradings chain).length ≤ (3 : Int) := by
  let := plainRuntime
  have hbounded := retries_bounded failingMessage 3 (by decide) rfl
    (List.replicate 5 failingDelivery)
    (by
      intro d hd
      rw [List.eq_of_mem_replicate hd]
      rfl)
  exact ⟨rfl, hbounded.2.1⟩

end JudgeVortex.System
