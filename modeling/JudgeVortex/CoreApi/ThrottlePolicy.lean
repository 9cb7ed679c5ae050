import JudgeVortex.CoreApi.Throttles

/-!
# What the throttle guarantees

When a submission is answered at all, whatever the remote configuration and the limiter
say, and when the answer is the one that the policy gives.
-/

namespace JudgeVortex.CoreApi

open JudgeVortex.Foundation JudgeVortex.Python JudgeVortex.Shared

/-! ## What can be read -/

structure ConfigReadable (config : Dict) : Prop where
  queue : ∃ queue, configSection config "queue_throttle" = .obj queue ∧
    ((fieldD queue "allow_when_depth_at_or_below" (.int 0)).orElse (.int 0)).IntLike
  limiter : ∃ limiter, configSection config "distributed_rate_limiter" = .obj limiter

theorem expectObject_eq_ok_iff {value : Json} {fields : Dict} :
    expectObject value = .ok fields ↔ value = .obj fields := by
  cases value <;> simp [expectObject]

section Reading

variable [PythonRuntime]

theorem readPolicy_isOk_iff (config : Dict) :
    (∃ policy, readPolicy config = .ok policy) ↔ ConfigReadable config := by
  simp only [readPolicy, bind_eq_ok_iff, expectObject_eq_ok_iff]
  constructor
  · rintro ⟨policy, queue, hqueue, threshold, hthreshold, limiter, hlimiter, -⟩
    exact ⟨⟨queue, hqueue, (toInt_isOk_iff _).mp ⟨threshold, hthreshold⟩⟩, limiter, hlimiter⟩
  · rintro ⟨⟨queue, hqueue, hthreshold⟩, limiter, hlimiter⟩
    obtain ⟨threshold, hthreshold⟩ := (toInt_isOk_iff _).mpr hthreshold
    exact ⟨_, queue, hqueue, threshold, hthreshold, limiter, hlimiter, rfl⟩

def AnswerReadable (body : Json) : Prop :=
  ∃ fields, body = .obj fields ∧
    ((fieldD fields "retry_after_seconds" (.int 0)).orElse (.int 0)).IntLike

omit [PythonRuntime] in
theorem readAnswer_isOk_iff (body : Json) :
    (∃ result, readAnswer body = .ok result) ↔ AnswerReadable body := by
  simp only [readAnswer, bind_eq_ok_iff, expectObject_eq_ok_iff]
  constructor
  · rintro ⟨result, fields, hfields, retryAfter, hretry, -⟩
    exact ⟨fields, hfields, (toInt_isOk_iff _).mp ⟨retryAfter, hretry⟩⟩
  · rintro ⟨fields, hfields, hretry⟩
    obtain ⟨retryAfter, hretry⟩ := (toInt_isOk_iff _).mpr hretry
    exact ⟨_, fields, hfields, retryAfter, hretry, rfl⟩

/-- The time limit is a number, the request's body is an object, and so is the body of the
limiter's response, with a waiting time that is an integer. -/
structure LimiterReadable (environ : String → Option String) (limiter : Dict)
    (request : ApiRequest) (reply : HttpReply) : Prop where
  timeout : (limiterTimeoutMs environ limiter).HasThousandth
  data : ∃ fields, request.data = .obj fields
  answer : ∀ body, reply.json = some body → AnswerReadable body

def LimiterAnswers (environ : String → Option String) (config : Dict) (request : ApiRequest)
    (reply : HttpReply) : Prop :=
  ∀ limiter, configSection config "distributed_rate_limiter" = .obj limiter →
    LimiterActive environ limiter → LimiterReadable environ limiter request reply

theorem askLimiter_isOk_iff (environ : String → Option String) (limiter : Dict)
    (request : ApiRequest) (reply : HttpReply) :
    (∃ result, (askLimiter environ request limiter reply).result = .ok result) ↔
      LimiterReadable environ limiter request reply := by
  simp only [askLimiter, Script.result_bind_ok_iff, Script.result_ofExcept,
    Script.result_emit, expectObject_eq_ok_iff]
  constructor
  · rintro ⟨result, _, htimeout, fields, hfields, _, -, hresult⟩
    refine ⟨(checkThousandth_isOk_iff _).mp htimeout, ⟨fields, hfields⟩, ?_⟩
    intro body hbody
    rw [hbody] at hresult
    rw [← readAnswer_isOk_iff]
    cases hread : readAnswer body with
    | error error => simp [hread, Except.map] at hresult
    | ok result => exact ⟨result, rfl⟩
  · rintro ⟨htimeout, ⟨fields, hfields⟩, hanswer⟩
    rw [← checkThousandth_isOk_iff] at htimeout
    cases hbody : reply.json with
    | none => exact ⟨_, (), htimeout, fields, hfields, (), trivial, rfl⟩
    | some body =>
        obtain ⟨result, hread⟩ := (readAnswer_isOk_iff body).mpr (hanswer body hbody)
        exact ⟨some result, (), htimeout, fields, hfields, (), trivial, by simp [hread, Except.map]⟩

theorem evaluateSubmissionRateLimit_isOk_iff (environ : String → Option String)
    (config : Dict) (request : ApiRequest) (reply : HttpReply) :
    (∃ result, (evaluateSubmissionRateLimit environ request config reply).result = .ok result) ↔
      LimiterAnswers environ config request reply := by
  unfold evaluateSubmissionRateLimit LimiterAnswers
  cases configSection config "distributed_rate_limiter" with
  | null | bool | int | float | str | arr =>
      refine iff_of_true ⟨none, rfl⟩ ?_
      rintro limiter ⟨⟩
  | obj limiter =>
      simp only [Json.obj.injEq, forall_eq']
      by_cases hactive : LimiterActive environ limiter
      · rw [if_pos hactive, forall_prop_of_true hactive]
        exact askLimiter_isOk_iff environ limiter request reply
      · rw [if_neg hactive, forall_prop_of_false hactive]
        exact iff_of_true ⟨none, rfl⟩ trivial

end Reading

/-! ## What decides -/

section Lags

variable (env : ThrottleEnv) (policy : QueuePolicy)

def LagAllows : Prop :=
  ∃ lag, KnowsLag env.kafka (getTopicConsumerGroups env.environ) lag ∧
    lag ≤ policy.busyThreshold ∧ policy.limiterMode ≠ "always"

/-- The lag is not known, but what was added up of it is small. -/
def PartialLagAllows : Prop :=
  ∃ lag, CutShort env.kafka (getTopicConsumerGroups env.environ) lag ∧
    lag ≤ policy.busyThreshold ∧ policy.limiterMode ≠ "always"

variable {env policy} {lag : Int}

theorem KnowsLag.not_cutShort {kafka : Kafka} {groups : List (String × String)}
    {partialLag : Int} (h : KnowsLag kafka groups lag) : ¬ CutShort kafka groups partialLag := by
  rintro ⟨-, hreads, -⟩
  obtain ⟨-, lags, hall, -⟩ := h
  exact hreads ⟨lags, hall⟩

theorem lagAllows_iff (h : KnowsLag env.kafka (getTopicConsumerGroups env.environ) lag) :
    LagAllows env policy ↔ lag ≤ policy.busyThreshold ∧ policy.limiterMode ≠ "always" := by
  constructor
  · rintro ⟨lag', hlag', hle, hmode⟩
    have heq := (measureLag_of_knowsLag hlag').symm.trans (measureLag_of_knowsLag h)
    simp only [Prod.mk.injEq, Option.some.injEq, and_true] at heq
    exact ⟨heq ▸ hle, hmode⟩
  · rintro ⟨hle, hmode⟩
    exact ⟨lag, h, hle, hmode⟩

theorem partialLagAllows_iff
    (h : CutShort env.kafka (getTopicConsumerGroups env.environ) lag) :
    PartialLagAllows env policy ↔
      lag ≤ policy.busyThreshold ∧ policy.limiterMode ≠ "always" := by
  constructor
  · rintro ⟨lag', ⟨-, -, hlag'⟩, hle, hmode⟩
    obtain ⟨-, -, hlag⟩ := h
    rw [hlag, ← hlag']
    exact ⟨hle, hmode⟩
  · rintro ⟨hle, hmode⟩
    exact ⟨lag, h, hle, hmode⟩

theorem asksLimiter_some_iff (depth : Int) :
    policy.asksLimiter (some depth) = true ↔
      ¬ (depth ≤ policy.busyThreshold ∧ policy.limiterMode ≠ "always") := by
  rw [QueuePolicy.asksLimiter, Bool.or_eq_true, beq_iff_eq, decide_eq_true_iff, not_and_or,
    not_le, ne_eq, not_not, or_comm]

/-- The external limiter is asked unless the lag, or the part of it that is known, is small. -/
theorem asksLimiter_iff :
    policy.asksLimiter (measureLag env.kafka (getTopicConsumerGroups env.environ)).1 = true ↔
      ¬ LagAllows env policy ∧ ¬ PartialLagAllows env policy := by
  rcases lag_cases env.kafka (getTopicConsumerGroups env.environ) with
    ⟨lag, hlag⟩ | ⟨lag, hlag⟩ | hlag
  · have hpart : ¬ PartialLagAllows env policy := by
      rintro ⟨_, hcut, -⟩
      exact hlag.not_cutShort hcut
    rw [measureLag_of_knowsLag hlag, asksLimiter_some_iff, and_iff_left hpart,
      lagAllows_iff hlag]
  · have hallows : ¬ LagAllows env policy := by
      rintro ⟨_, hknows, -⟩
      exact hknows.not_cutShort hlag
    obtain ⟨error, hmeasure⟩ := measureLag_of_cutShort hlag
    rw [hmeasure, asksLimiter_some_iff, and_iff_right hallows, partialLagAllows_iff hlag]
  · obtain ⟨error, hmeasure⟩ := measureLag_of_not_connected
      (getTopicConsumerGroups env.environ) hlag
    rw [hmeasure]
    refine iff_of_true (Bool.or_true _) ⟨?_, ?_⟩
    · rintro ⟨_, hknows, -⟩
      exact hlag hknows.1
    · rintro ⟨_, hcut, -⟩
      exact hlag hcut.1

end Lags

/-! ## The branches of `allow_request` -/

section Branches

variable {env : ThrottleEnv} {config : Dict} {request : ApiRequest} {policy : QueuePolicy}

theorem askFramework_result (env : ThrottleEnv) (policy : QueuePolicy) :
    (askFramework env policy).result =
      .ok ⟨if policy.fallbackToDrf then env.drf.getD true else true, none⟩ := by
  unfold askFramework
  split <;> rfl

theorem askDrf_mem_askFramework_iff :
    .askDrf ∈ (askFramework env policy).log ↔ policy.fallbackToDrf = true := by
  unfold askFramework
  split
  next h => exact iff_of_true (.head _) h
  next h => exact iff_of_false List.not_mem_nil h

variable [PythonRuntime]

theorem askLimiter_log {environ : String → Option String} {limiter : Dict} {reply : HttpReply} :
    ∀ a ∈ (askLimiter environ request limiter reply).log, ∃ post, a = .postEvaluate post := by
  refine Script.forall_log_bind nofun fun _ _ => ?_
  refine Script.forall_log_bind nofun fun fields _ => ?_
  refine Script.forall_log_bind ?_ fun _ _ => ?_
  · intro a ha
    exact ⟨_, List.mem_singleton.mp ha⟩
  · cases reply.json <;> exact nofun

theorem evaluateSubmissionRateLimit_log {environ : String → Option String} {reply : HttpReply} :
    ∀ a ∈ (evaluateSubmissionRateLimit environ request config reply).log,
      ∃ post, a = .postEvaluate post := by
  unfold evaluateSubmissionRateLimit
  split
  next limiter _ =>
    split
    next => exact askLimiter_log
    next => exact nofun
  next => exact nofun

structure Throttles (config : Dict) (request : ApiRequest) (policy : QueuePolicy) : Prop where
  submission : isSubmission request = true
  notStaff : isStaff request = false
  read : readPolicy config = .ok policy

theorem allowRequest_of_lagAllows (h : Throttles config request policy)
    (hallows : LagAllows env policy) :
    ∃ lag, allowRequest env config request = ⟨[.setQueueDepth lag], .ok ⟨true, none⟩⟩ := by
  obtain ⟨lag, hlag, hsmall⟩ := hallows
  refine ⟨lag, ?_⟩
  rw [allowRequest, h.submission, h.notStaff, h.read, measureLag_of_knowsLag hlag]
  simp only [Bool.not_true, Bool.or_self, Bool.false_eq_true, if_false,
    Script.ofExcept_ok_bind]
  rw [if_pos hsmall]
  rfl

theorem allowRequest_of_not_lagAllows (h : Throttles config request policy)
    (hallows : ¬ LagAllows env policy) :
    ∃ depth, allowRequest env config request =
      Script.emit (.setQueueDepth depth) >>= fun _ => askLimiters env config request policy
        (measureLag env.kafka (getTopicConsumerGroups env.environ)).1 := by
  rw [allowRequest, h.submission, h.notStaff, h.read]
  simp only [Bool.not_true, Bool.or_self, Bool.false_eq_true, if_false,
    Script.ofExcept_ok_bind]
  rcases lag_cases env.kafka (getTopicConsumerGroups env.environ) with
    ⟨lag, hlag⟩ | ⟨lag, hlag⟩ | hlag
  · refine ⟨lag, ?_⟩
    rw [lagAllows_iff hlag] at hallows
    rw [measureLag_of_knowsLag hlag]
    simp only [if_neg hallows]
  · obtain ⟨error, hmeasure⟩ := measureLag_of_cutShort hlag
    rw [hmeasure]
    exact ⟨0, rfl⟩
  · obtain ⟨error, hmeasure⟩ := measureLag_of_not_connected
      (getTopicConsumerGroups env.environ) hlag
    rw [hmeasure]
    exact ⟨0, rfl⟩

omit [PythonRuntime] in
theorem useAnswer_of_applied {result : ExternalRateLimitResult} (h : result.applied = true) :
    useAnswer env policy (some result) =
      pure ⟨result.allowed, if result.allowed then none else some result.retryAfterSeconds⟩ := by
  rw [useAnswer, if_pos h]
  cases result.allowed <;> rfl

omit [PythonRuntime] in
theorem useAnswer_of_not_applied {result : Option ExternalRateLimitResult}
    (h : ∀ decision ∈ result, ¬ decision.applied = true) :
    useAnswer env policy result = askFramework env policy := by
  cases result with
  | none => rfl
  | some result => rw [useAnswer, if_neg (h result rfl)]

omit [PythonRuntime] in
theorem useAnswer_isOk (env : ThrottleEnv) (policy : QueuePolicy)
    (result : Option ExternalRateLimitResult) :
    ∃ answer, (useAnswer env policy result).result = .ok answer := by
  by_cases h : ∃ decision ∈ result, decision.applied = true
  · obtain ⟨decision, rfl, happlied⟩ := h
    rw [useAnswer_of_applied happlied]
    exact ⟨_, rfl⟩
  · rw [useAnswer_of_not_applied fun decision hmem happlied => h ⟨decision, hmem, happlied⟩]
    exact ⟨_, askFramework_result env policy⟩

theorem askLimiters_of_asked {queueDepth : Option Int}
    (h : policy.asksLimiter queueDepth = true) :
    askLimiters env config request policy queueDepth =
      Script.emit .consultLimiter >>= fun _ =>
        evaluateSubmissionRateLimit env.environ request config env.reply >>= fun result =>
          useAnswer env policy result := by
  rw [askLimiters, if_pos h]

theorem askLimiters_of_not_asked {queueDepth : Option Int}
    (h : ¬ policy.asksLimiter queueDepth = true) :
    askLimiters env config request policy queueDepth = askFramework env policy := by
  rw [askLimiters, if_neg h]

theorem allowRequest_of_answer (h : Throttles config request policy)
    (hallows : ¬ LagAllows env policy) (hpart : ¬ PartialLagAllows env policy)
    {result : Option ExternalRateLimitResult}
    (hresult : (evaluateSubmissionRateLimit env.environ request config env.reply).result =
      .ok result) :
    ∃ depth, allowRequest env config request =
      ⟨.setQueueDepth depth :: .consultLimiter ::
          ((evaluateSubmissionRateLimit env.environ request config env.reply).log ++
            (useAnswer env policy result).log),
        (useAnswer env policy result).result⟩ := by
  obtain ⟨depth, heq⟩ := allowRequest_of_not_lagAllows h hallows
  refine ⟨depth, ?_⟩
  rw [heq, askLimiters_of_asked (asksLimiter_iff.mpr ⟨hallows, hpart⟩),
    Script.bind_of_ok hresult]
  rfl

theorem allowRequest_isOk_of_asked (h : Throttles config request policy)
    (hallows : ¬ LagAllows env policy) (hpart : ¬ PartialLagAllows env policy) :
    (∃ answer, (allowRequest env config request).result = .ok answer) ↔
      LimiterAnswers env.environ config request env.reply := by
  rw [← evaluateSubmissionRateLimit_isOk_iff]
  constructor
  · rintro ⟨answer, hanswer⟩
    obtain ⟨depth, heq⟩ := allowRequest_of_not_lagAllows h hallows
    rw [heq, askLimiters_of_asked (asksLimiter_iff.mpr ⟨hallows, hpart⟩)] at hanswer
    simp only [Script.result_bind_ok_iff] at hanswer
    obtain ⟨-, -, -, -, result, hresult, -⟩ := hanswer
    exact ⟨result, hresult⟩
  · rintro ⟨result, hresult⟩
    obtain ⟨depth, heq⟩ := allowRequest_of_answer h hallows hpart hresult
    rw [heq]
    exact useAnswer_isOk env policy result

/-- Where the part of the lag that is known is small, the limiter is passed over. -/
theorem allowRequest_of_partialLagAllows (h : Throttles config request policy)
    (hallows : ¬ LagAllows env policy) (hpart : PartialLagAllows env policy) :
    ∃ depth, allowRequest env config request =
      ⟨.setQueueDepth depth :: (askFramework env policy).log,
        (askFramework env policy).result⟩ := by
  obtain ⟨depth, heq⟩ := allowRequest_of_not_lagAllows h hallows
  have hasks := fun hasked => (asksLimiter_iff.mp hasked).2 hpart
  rw [askLimiters_of_not_asked hasks] at heq
  exact ⟨depth, heq⟩

/--
The throttle answers exactly if it does not look at the request, or can read both sections
of the configuration and, where it turns to an active limiter, also the time limit, the
body of the request and the answer.
-/
theorem allowRequest_returns_iff (env : ThrottleEnv) (value : Dict) (request : ApiRequest) :
    (∃ answer, (allowRequest env (deepMerge defaultRuntimeConfig value) request).result =
        .ok answer) ↔
      isSubmission request = false ∨ isStaff request = true ∨
        (ConfigReadable (deepMerge defaultRuntimeConfig value) ∧
          ∀ policy, readPolicy (deepMerge defaultRuntimeConfig value) = .ok policy →
            LagAllows env policy ∨ PartialLagAllows env policy ∨
              LimiterAnswers env.environ (deepMerge defaultRuntimeConfig value) request
                env.reply) := by
  generalize deepMerge defaultRuntimeConfig value = config
  cases hsubmission : isSubmission request with
  | false => exact iff_of_true ⟨⟨true, none⟩, by rw [allowRequest, hsubmission]; rfl⟩ (.inl rfl)
  | true =>
      cases hstaff : isStaff request with
      | true =>
          refine iff_of_true ⟨⟨true, none⟩, ?_⟩ (.inr (.inl rfl))
          rw [allowRequest, hstaff, Bool.or_true]
          rfl
      | false =>
          simp only [Bool.true_eq_false, Bool.false_eq_true, false_or]
          rw [← readPolicy_isOk_iff]
          cases hread : readPolicy config with
          | error error =>
              refine iff_of_false ?_ (fun h => nomatch h.1)
              rw [allowRequest, hsubmission, hstaff, hread]
              exact nofun
          | ok policy =>
              have h : Throttles config request policy := ⟨hsubmission, hstaff, hread⟩
              simp only [Except.ok.injEq, exists_eq', true_and, forall_eq']
              by_cases hallows : LagAllows env policy
              · obtain ⟨lag, heq⟩ := allowRequest_of_lagAllows h hallows
                rw [heq]
                exact iff_of_true ⟨_, rfl⟩ (.inl hallows)
              · by_cases hpart : PartialLagAllows env policy
                · obtain ⟨depth, heq⟩ := allowRequest_of_partialLagAllows h hallows hpart
                  rw [heq]
                  exact iff_of_true ⟨_, askFramework_result env policy⟩ (.inr (.inl hpart))
                · rw [or_iff_right hallows, or_iff_right hpart]
                  exact allowRequest_isOk_of_asked h hallows hpart

def idleKafka : Kafka where
  getConsumer := .ok ()
  getAdmin := .ok ()
  topic _ := ⟨.ok none, .ok fun _ => .ok none, .ok fun _ => .ok none⟩

def studentPost (data : Json) : ApiRequest where
  method := "POST"
  path := "/api/submissions/submit/"
  user := some ⟨1, false, true⟩
  forwardedFor := none
  remoteAddr := some "127.0.0.1"
  data := data

omit [PythonRuntime] in
/-- A threshold that is a word takes every submission down. -/
theorem allowRequest_raises :
    ¬ ∃ answer, (@allowRequest plainRuntime ⟨fun _ => none, idleKafka, .failed, some true⟩
      (deepMerge defaultRuntimeConfig
        [("queue_throttle", .obj [("allow_when_depth_at_or_below", .str "many")])])
      (studentPost (.obj []))).result = .ok answer := by
  have hresult : (@allowRequest plainRuntime ⟨fun _ => none, idleKafka, .failed, some true⟩
      (deepMerge defaultRuntimeConfig
        [("queue_throttle", .obj [("allow_when_depth_at_or_below", .str "many")])])
      (studentPost (.obj []))).result = .error .valueError := by decide
  rw [hresult]
  exact nofun

end Branches

/-! ## The policy -/

section Policy

variable [PythonRuntime]

structure WellFormedConfig (environ : String → Option String) (config : Dict) : Prop where
  readable : ConfigReadable config
  timeout : ∀ limiter, configSection config "distributed_rate_limiter" = .obj limiter →
    (limiterTimeoutMs environ limiter).HasThousandth

omit [PythonRuntime] in
theorem wellFormedConfig_enabled (environ : String → Option String) (enabled : Bool) :
    WellFormedConfig environ (deepMerge defaultRuntimeConfig
      [("distributed_rate_limiter", .obj [("enabled", .bool enabled)])]) := by
  refine ⟨⟨⟨_, rfl, trivial⟩, _, rfl⟩, ?_⟩
  intro limiter hlimiter
  obtain rfl := Json.obj.inj hlimiter
  have hsmall : (500 : Int).natAbs < thousandthLimit := by decide +kernel
  exact hsmall

/-- The limiter's decision that counts, if it gives one. -/
def Applies (env : ThrottleEnv) (config : Dict) (request : ApiRequest)
    (decision : ExternalRateLimitResult) : Prop :=
  (evaluateSubmissionRateLimit env.environ request config env.reply).result =
    .ok (some decision) ∧ decision.applied = true

structure FollowsPolicy (env : ThrottleEnv) (config : Dict) (request : ApiRequest)
    (policy : QueuePolicy) : Prop where
  direct_iff : ((allowRequest env config request).result = .ok ⟨true, none⟩ ∧
    .consultLimiter ∉ (allowRequest env config request).log ∧
    .askDrf ∉ (allowRequest env config request).log) ↔ LagAllows env policy
  consulted : ¬ LagAllows env policy →
    .consultLimiter ∈ (allowRequest env config request).log
  final : ¬ LagAllows env policy → ∀ decision, Applies env config request decision →
    .askDrf ∉ (allowRequest env config request).log ∧
      ∃ answer, (allowRequest env config request).result = .ok answer ∧
        answer.allowed = decision.allowed ∧
        (answer.allowed = false → ∀ {α : Type} (frameworkWait : α),
          wait answer frameworkWait = .inl decision.retryAfterSeconds)
  fallback : ¬ LagAllows env policy → (∀ decision, ¬ Applies env config request decision) →
    (.askDrf ∈ (allowRequest env config request).log ↔ policy.fallbackToDrf = true) ∧
      (allowRequest env config request).result =
        .ok ⟨if policy.fallbackToDrf then env.drf.getD true else true, none⟩

variable {env : ThrottleEnv} {config : Dict} {request : ApiRequest} {policy : QueuePolicy}

omit [PythonRuntime] in
theorem PartialLagAllows.not_lagAllows (h : PartialLagAllows env policy) :
    ¬ LagAllows env policy := by
  obtain ⟨partialLag, hcut, -⟩ := h
  rintro ⟨lag, hlag, -⟩
  exact hlag.not_cutShort hcut

theorem not_followsPolicy_of_partialLagAllows (h : Throttles config request policy)
    (hpart : PartialLagAllows env policy) : ¬ FollowsPolicy env config request policy := by
  intro hfollows
  have hallows := hpart.not_lagAllows
  have hconsulted := hfollows.consulted hallows
  obtain ⟨depth, heq⟩ := allowRequest_of_partialLagAllows h hallows hpart
  rw [heq] at hconsulted
  unfold askFramework at hconsulted
  split at hconsulted <;> simp [bind, Script.andThen, Script.emit, pure] at hconsulted

theorem followsPolicy_of_lagAllows (h : Throttles config request policy)
    (hallows : LagAllows env policy) : FollowsPolicy env config request policy := by
  obtain ⟨depth, heq⟩ := allowRequest_of_lagAllows h hallows
  refine ⟨?_, absurd hallows, absurd hallows, absurd hallows⟩
  rw [heq]
  exact iff_of_true ⟨rfl, by simp, by simp⟩ hallows

theorem followsPolicy_of_answer (h : Throttles config request policy)
    (hallows : ¬ LagAllows env policy) (hpart : ¬ PartialLagAllows env policy)
    {result : Option ExternalRateLimitResult}
    (hresult : (evaluateSubmissionRateLimit env.environ request config env.reply).result =
      .ok result) : FollowsPolicy env config request policy := by
  obtain ⟨depth, heq⟩ := allowRequest_of_answer h hallows hpart hresult
  have hsilent : .askDrf ∉
      (evaluateSubmissionRateLimit env.environ request config env.reply).log := by
    intro hmem
    obtain ⟨post, hpost⟩ := evaluateSubmissionRateLimit_log _ hmem
    cases hpost
  have hconsulted : .consultLimiter ∈ (allowRequest env config request).log := by simp [heq]
  have hdrf : .askDrf ∈ (allowRequest env config request).log ↔
      .askDrf ∈ (useAnswer env policy result).log := by simp [heq, hsilent]
  have hanswer : (allowRequest env config request).result =
      (useAnswer env policy result).result := by rw [heq]
  constructor
  · exact iff_of_false (fun hdirect => hdirect.2.1 hconsulted) hallows
  · exact fun _ => hconsulted
  · rintro - decision ⟨hdecision, happlied⟩
    obtain rfl : result = some decision := Except.ok.inj (hresult.symm.trans hdecision)
    rw [hdrf, hanswer, useAnswer_of_applied happlied]
    refine ⟨List.not_mem_nil, _, rfl, rfl, ?_⟩
    intro hrefused α frameworkWait
    simp only at hrefused
    simp only [hrefused, Bool.false_eq_true, if_false, wait]
  · intro _ hnone
    have happlied : ∀ decision ∈ result, ¬ decision.applied = true := by
      rintro decision rfl happlied
      exact hnone decision ⟨hresult, happlied⟩
    rw [hdrf, hanswer, useAnswer_of_not_applied happlied]
    exact ⟨askDrf_mem_askFramework_iff, askFramework_result env policy⟩

theorem FollowsPolicy.isOk (h : FollowsPolicy env config request policy)
    (hallows : ¬ LagAllows env policy) :
    ∃ answer, (allowRequest env config request).result = .ok answer := by
  by_cases hdecision : ∃ decision, Applies env config request decision
  · obtain ⟨decision, happlies⟩ := hdecision
    obtain ⟨-, answer, hanswer, -⟩ := h.final hallows decision happlies
    exact ⟨answer, hanswer⟩
  · exact ⟨_, (h.fallback hallows (not_exists.mp hdecision)).2⟩

/--
On a submission of a student the throttle follows its policy unless the measurement of the
lag is cut short when little of it is added up yet (then the limiter is passed over), or
the limiter is to be asked and its answer or the request's body cannot be read.
-/
theorem allowRequest_followsPolicy_iff (env : ThrottleEnv) (config : Dict)
    (request : ApiRequest) (hsubmission : isSubmission request = true)
    (hstaff : isStaff request = false) (hconfig : WellFormedConfig env.environ config) :
    ∃ policy, readPolicy config = .ok policy ∧
      (FollowsPolicy env config request policy ↔
        ¬ PartialLagAllows env policy ∧
          (¬ LagAllows env policy →
            ∀ limiter, configSection config "distributed_rate_limiter" = .obj limiter →
              LimiterActive env.environ limiter →
                (∃ fields, request.data = .obj fields) ∧
                  ∀ body, env.reply.json = some body → AnswerReadable body)) := by
  obtain ⟨policy, hread⟩ := (readPolicy_isOk_iff config).mpr hconfig.readable
  have h : Throttles config request policy := ⟨hsubmission, hstaff, hread⟩
  refine ⟨policy, hread, ?_⟩
  constructor
  · intro hfollows
    have hpart : ¬ PartialLagAllows env policy :=
      fun hpart => not_followsPolicy_of_partialLagAllows h hpart hfollows
    refine ⟨hpart, fun hallows limiter hlimiter hactive => ?_⟩
    have hanswers := (allowRequest_isOk_of_asked h hallows hpart).mp (hfollows.isOk hallows)
    have hreadable := hanswers limiter hlimiter hactive
    exact ⟨hreadable.data, hreadable.answer⟩
  · rintro ⟨hpart, hanswers⟩
    by_cases hallows : LagAllows env policy
    · exact followsPolicy_of_lagAllows h hallows
    · have hlimiter : LimiterAnswers env.environ config request env.reply := by
        intro limiter hlimiter hactive
        obtain ⟨hdata, hanswer⟩ := hanswers hallows limiter hlimiter hactive
        exact ⟨hconfig.timeout limiter hlimiter, hdata, hanswer⟩
      obtain ⟨result, hresult⟩ := (evaluateSubmissionRateLimit_isOk_iff _ _ _ _).mpr hlimiter
      exact followsPolicy_of_answer h hallows hpart hresult

end Policy

def limiterEnviron (name : String) : Option String :=
  if name = "RATE_LIMITER_BASE_URL" then some "http://limiter"
  else if name = "RATE_LIMITER_SERVICE_TOKEN" then some "token"
  else none

def busyKafka : Kafka where
  getConsumer := .ok ()
  getAdmin := .ok ()
  topic _ := ⟨.ok (some [0]), .ok fun _ => .ok (some 5), .ok fun _ => .ok (some 3)⟩

def limiterRefusal : Json :=
  .obj [("allowed", .bool false), ("applied", .bool true), ("retry_after_seconds", .int 9)]

def limiterConfig : Dict :=
  deepMerge defaultRuntimeConfig [("distributed_rate_limiter", .obj [("enabled", .bool true)])]

theorem readPolicy_limiterConfig :
    @readPolicy plainRuntime limiterConfig = .ok ⟨0, "queue_busy", true⟩ := by
  rfl

/-- The queue is busy, so the limiter is asked, and its refusal is the answer. -/
theorem allowRequest_followsPolicy_busy :
    letI := plainRuntime
    let env : ThrottleEnv :=
      ⟨limiterEnviron, busyKafka, .response 200 (some limiterRefusal), some true⟩
    (allowRequest env limiterConfig (studentPost (.obj []))).result.toOption =
        some ⟨false, some 9⟩ ∧
      ∃ policy, readPolicy limiterConfig = .ok policy ∧ ¬ LagAllows env policy ∧
        FollowsPolicy env limiterConfig (studentPost (.obj [])) policy := by
  let := plainRuntime
  intro env
  obtain ⟨policy, hread, hiff⟩ := allowRequest_followsPolicy_iff env limiterConfig
    (studentPost (.obj [])) (by decide) (by decide) (wellFormedConfig_enabled _ true)
  obtain rfl := Except.ok.inj (readPolicy_limiterConfig.symm.trans hread)
  have hlag : KnowsLag env.kafka (getTopicConsumerGroups env.environ) 4 :=
    ⟨⟨rfl, rfl⟩, [2, 2], by rfl, rfl⟩
  have hbusy : ¬ LagAllows env ⟨0, "queue_busy", true⟩ := by
    rw [lagAllows_iff hlag]
    decide
  refine ⟨by decide +kernel, _, hread, hbusy,
    hiff.mpr ⟨fun ⟨_, hcut, _⟩ => hlag.not_cutShort hcut, ?_⟩⟩
  refine fun _ limiter _ _ => ⟨⟨[], rfl⟩, fun body hbody => ?_⟩
  obtain rfl : limiterRefusal = body := Option.some_inj.mp hbody
  exact ⟨_, rfl, trivial⟩

def brokenKafka : Kafka where
  getConsumer := .ok ()
  getAdmin := .ok ()
  topic _ := ⟨.ok (some [0]), .error ⟨"NodeNotReadyError"⟩, .ok fun _ => .ok none⟩

/-- The limiter would refuse the request, but no lag is added up when Kafka fails. -/
theorem allowRequest_passes_over_limiter :
    WellFormedConfig limiterEnviron (deepMerge defaultRuntimeConfig
      [("distributed_rate_limiter", .obj [("enabled", .bool true)])]) ∧
    isSubmission (studentPost (.obj [])) = true ∧
    isStaff (studentPost (.obj [])) = false ∧
    ∃ policy, @readPolicy plainRuntime (deepMerge defaultRuntimeConfig
        [("distributed_rate_limiter", .obj [("enabled", .bool true)])]) = .ok policy ∧
      ¬ @FollowsPolicy plainRuntime
        ⟨limiterEnviron, brokenKafka,
          .response 200 (some (.obj [("allowed", .bool false), ("applied", .bool true),
            ("retry_after_seconds", .int 9)])), some true⟩
        (deepMerge defaultRuntimeConfig
          [("distributed_rate_limiter", .obj [("enabled", .bool true)])])
        (studentPost (.obj [])) policy := by
  refine ⟨wellFormedConfig_enabled _ true, by decide, by decide, ⟨0, "queue_busy", true⟩,
    by rfl, ?_⟩
  apply @not_followsPolicy_of_partialLagAllows plainRuntime
  · exact @Throttles.mk plainRuntime _ _ _ (by decide) (by decide) (by rfl)
  · refine ⟨0, ⟨⟨rfl, rfl⟩, ?_, by rfl⟩, le_refl 0, by decide⟩
    rintro ⟨_ | ⟨lag, lags⟩, hreads⟩
    · cases hreads
    · cases hreads

end JudgeVortex.CoreApi
