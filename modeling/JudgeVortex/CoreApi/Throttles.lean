import JudgeVortex.CoreApi.Integrations
import JudgeVortex.Foundation.Accumulation
import JudgeVortex.Shared.Routing
import Mathlib.Data.List.Sort

/-!
# The throttle of the submit endpoint

`throttles.py`: the lag of the executors' consumer groups, measured partition by partition,
decides whether a submission is let through or a limiter is asked.
-/

namespace JudgeVortex.CoreApi

open JudgeVortex.Foundation JudgeVortex.Python JudgeVortex.Shared

/-! ## The lag -/

structure KafkaError where
  text : String

structure TopicReply where
  partitionsForTopic : Except KafkaError (Option (List Int))
  endOffsets : Except KafkaError (Int → Except KafkaError (Option Int))
  committedOffsets : Except KafkaError (Int → Except KafkaError (Option Int))

structure Kafka where
  getConsumer : Except KafkaError Unit
  getAdmin : Except KafkaError Unit
  topic : Nat → TopicReply

def partitionLag (endOffsets committedOffsets : Int → Except KafkaError (Option Int))
    (partition_ : Int) : Except KafkaError Int := do
  let highWatermark := (← endOffsets partition_).getD 0
  let committed :=
    match ← committedOffsets partition_ with
    | none => 0
    | some offset => if offset < 0 then 0 else offset
  pure (max (highWatermark - committed) 0)

def addTopicLag (queueDepth : Int) (reply : TopicReply) : Int × Option KafkaError :=
  match reply.partitionsForTopic with
  | .error error => (queueDepth, some error)
  | .ok partitions =>
      if partitions.getD [] = [] then (queueDepth, none)
      else
        match reply.endOffsets, reply.committedOffsets with
        | .error error, _ | .ok _, .error error => (queueDepth, some error)
        | .ok endOffsets, .ok committedOffsets =>
            loopUntil
              (fun depth partition_ =>
                addReading depth (partitionLag endOffsets committedOffsets partition_))
              queueDepth ((partitions.getD []).insertionSort (· ≤ ·))

section Lag

variable (kafka : Kafka) (groups : List (String × String))

def topicReplies : List TopicReply := groups.zipIdx.map fun entry => kafka.topic entry.2

def measureLag : Option Int × Option KafkaError :=
  match kafka.getConsumer, kafka.getAdmin with
  | .error error, _ | .ok _, .error error => (none, some error)
  | .ok _, .ok _ =>
      let (queueDepth, error) := loopUntil addTopicLag 0 (topicReplies kafka groups)
      (some queueDepth, error)

end Lag

/-! ## The decision -/

/-- The return value of `allow_request`, and `_external_wait_seconds` after it. -/
structure Throttled where
  allowed : Bool
  externalWaitSeconds : Option Int
  deriving DecidableEq, Repr

def isSubmission (request : ApiRequest) : Bool :=
  request.method == "POST" &&
    Python.endsWith (rstripChar '/' request.path) "/api/submissions/submit"

def isStaff (request : ApiRequest) : Bool :=
  match request.user with
  | some user => user.isStaff
  | none => false

section Decision

variable [PythonRuntime]

structure QueuePolicy where
  busyThreshold : Int
  limiterMode : String
  fallbackToDrf : Bool

def readPolicy (runtimeConfig : Dict) : Except PyError QueuePolicy := do
  let queue ← expectObject (configSection runtimeConfig "queue_throttle")
  let busyThreshold ←
    ((fieldD queue "allow_when_depth_at_or_below" (.int 0)).orElse (.int 0)).toInt
  let limiter ← expectObject (configSection runtimeConfig "distributed_rate_limiter")
  pure {
    busyThreshold := busyThreshold
    limiterMode := lower (strip (fieldD limiter "mode" (.str "queue_busy")).toText)
    fallbackToDrf := (fieldD queue "fallback_to_drf" (.bool true)).truthy }

/-- What the rest of the system answers during one request: Kafka, the limiter, and the
throttle of the framework, which is absent if it raises. -/
structure ThrottleEnv where
  environ : String → Option String
  kafka : Kafka
  reply : HttpReply
  drf : Option Bool

variable (env : ThrottleEnv) (runtimeConfig : Dict) (request : ApiRequest)

def QueuePolicy.asksLimiter (policy : QueuePolicy) (queueDepth : Option Int) : Bool :=
  policy.limiterMode == "always" ||
    match queueDepth with
    | none => true
    | some depth => decide (policy.busyThreshold < depth)

def askFramework (policy : QueuePolicy) : ThrottleScript Throttled :=
  if policy.fallbackToDrf then do
    Script.emit .askDrf
    pure ⟨env.drf.getD true, none⟩
  else pure ⟨true, none⟩

def useAnswer (policy : QueuePolicy) :
    Option ExternalRateLimitResult → ThrottleScript Throttled
  | some result =>
      if result.applied then
        if result.allowed then pure ⟨true, none⟩
        else pure ⟨false, some result.retryAfterSeconds⟩
      else askFramework env policy
  | none => askFramework env policy

def askLimiters (policy : QueuePolicy) (queueDepth : Option Int) : ThrottleScript Throttled :=
  if policy.asksLimiter queueDepth then do
    Script.emit .consultLimiter
    let result ← evaluateSubmissionRateLimit env.environ request runtimeConfig env.reply
    useAnswer env policy result
  else askFramework env policy

def allowRequest : ThrottleScript Throttled := do
  if !isSubmission request || isStaff request then pure ⟨true, none⟩
  else
    let policy ← Script.ofExcept (readPolicy runtimeConfig)
    match measureLag env.kafka (getTopicConsumerGroups env.environ) with
    | (some queueDepth, none) =>
        Script.emit (.setQueueDepth queueDepth)
        if queueDepth ≤ policy.busyThreshold ∧ policy.limiterMode ≠ "always" then
          pure ⟨true, none⟩
        else askLimiters env runtimeConfig request policy (some queueDepth)
    | (queueDepth, _) =>
        Script.emit (.setQueueDepth 0)
        askLimiters env runtimeConfig request policy queueDepth

end Decision

def wait {α : Type} (throttled : Throttled) (frameworkWait : α) : Int ⊕ α :=
  match throttled.externalWaitSeconds with
  | some seconds => .inl seconds
  | none => .inr frameworkWait

/-! ## The readings of the lag -/

def topicReadings (reply : TopicReply) : List (Except KafkaError Int) :=
  match reply.partitionsForTopic with
  | .error error => [.error error]
  | .ok partitions =>
      if partitions.getD [] = [] then []
      else
        match reply.endOffsets, reply.committedOffsets with
        | .error error, _ | .ok _, .error error => [.error error]
        | .ok endOffsets, .ok committedOffsets =>
            ((partitions.getD []).insertionSort (· ≤ ·)).map
              (partitionLag endOffsets committedOffsets)

theorem addTopicLag_eq (queueDepth : Int) (reply : TopicReply) :
    addTopicLag queueDepth reply = loopUntil addReading queueDepth (topicReadings reply) := by
  unfold addTopicLag topicReadings
  cases reply.partitionsForTopic with
  | error error => rfl
  | ok partitions =>
      by_cases hempty : partitions.getD [] = []
      · simp only [if_pos hempty]
        rfl
      · simp only [if_neg hempty]
        cases reply.endOffsets with
        | error error => rfl
        | ok endOffsets =>
            cases reply.committedOffsets with
            | error error => rfl
            | ok committedOffsets =>
                exact loopUntil_map addReading _ _ _

section Readings

variable (kafka : Kafka) (groups : List (String × String))

def Kafka.Connected : Prop := kafka.getConsumer = .ok () ∧ kafka.getAdmin = .ok ()

def lagReadings : List (Except KafkaError Int) :=
  (topicReplies kafka groups).flatMap topicReadings

def KnowsLag (lag : Int) : Prop :=
  kafka.Connected ∧ ∃ lags, ReadsAll (lagReadings kafka groups) lags ∧ lag = lags.sum

/-- A reading raises after `lag` has been added up. -/
def CutShort (lag : Int) : Prop :=
  kafka.Connected ∧ (¬ ∃ lags, ReadsAll (lagReadings kafka groups) lags) ∧
    lag = (readBefore (lagReadings kafka groups)).sum

variable {kafka groups}

theorem measureLag_of_connected (h : kafka.Connected) :
    measureLag kafka groups =
      (some (readBefore (lagReadings kafka groups)).sum,
        (loopUntil addReading 0 (lagReadings kafka groups)).2) := by
  have hloop : loopUntil addTopicLag 0 (topicReplies kafka groups) =
      loopUntil addReading 0 (lagReadings kafka groups) :=
    loopUntil_flatMap addTopicLag_eq 0 _
  have hsum := loopUntil_addReading_fst 0 (lagReadings kafka groups)
  rw [zero_add] at hsum
  rw [measureLag, h.1, h.2]
  simp only [hloop, hsum]

theorem measureLag_of_not_connected (groups : List (String × String))
    (h : ¬ kafka.Connected) :
    ∃ error, measureLag kafka groups = (none, some error) := by
  unfold measureLag
  cases hconsumer : kafka.getConsumer with
  | error error => exact ⟨error, rfl⟩
  | ok _ =>
      cases hadmin : kafka.getAdmin with
      | error error => exact ⟨error, rfl⟩
      | ok _ => exact absurd ⟨hconsumer, hadmin⟩ h

theorem measureLag_of_knowsLag {lag : Int} (h : KnowsLag kafka groups lag) :
    measureLag kafka groups = (some lag, none) := by
  obtain ⟨hconnected, lags, hreads, rfl⟩ := h
  rw [measureLag_of_connected hconnected, hreads.readBefore_eq,
    (loopUntil_addReading_snd 0 _).mpr ⟨lags, hreads⟩]

theorem measureLag_of_cutShort {lag : Int} (h : CutShort kafka groups lag) :
    ∃ error, measureLag kafka groups = (some lag, some error) := by
  obtain ⟨hconnected, hreads, rfl⟩ := h
  rw [measureLag_of_connected hconnected]
  cases herror : (loopUntil addReading 0 (lagReadings kafka groups)).2 with
  | none => exact absurd ((loopUntil_addReading_snd 0 _).mp herror) hreads
  | some error => exact ⟨error, rfl⟩

theorem lag_cases (kafka : Kafka) (groups : List (String × String)) :
    (∃ lag, KnowsLag kafka groups lag) ∨ (∃ lag, CutShort kafka groups lag) ∨
      ¬ kafka.Connected := by
  by_cases hconnected : kafka.Connected
  · by_cases hreads : ∃ lags, ReadsAll (lagReadings kafka groups) lags
    · obtain ⟨lags, hreads⟩ := hreads
      exact .inl ⟨lags.sum, hconnected, lags, hreads, rfl⟩
    · exact .inr (.inl ⟨_, hconnected, hreads, rfl⟩)
  · exact .inr (.inr hconnected)

end Readings

end JudgeVortex.CoreApi
