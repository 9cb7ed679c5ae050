import JudgeVortex.Foundation.Script
import JudgeVortex.Python.Value

/-!
# The control plane and the external limiter

`integrations.py`: the runtime configuration with its defaults, and one question to the
distributed rate limiter.  A request over HTTP either fails or is answered with a status
and a body.
-/

namespace JudgeVortex.CoreApi

open JudgeVortex.Foundation JudgeVortex.Python

/-! ## The runtime configuration -/

def defaultRuntimeConfig : Dict :=
  [("distributed_rate_limiter", .obj
      [("enabled", .bool false), ("mode", .str "queue_busy"),
        ("route", .str "/api/submissions/submit/"), ("timeout_ms", .int 500),
        ("fail_open", .bool true)]),
    ("queue_throttle", .obj
      [("allow_when_depth_at_or_below", .int 0), ("fallback_to_drf", .bool true)])]

mutual

/-- What a key that held `old` holds after a round of the loop of `_deep_merge`. -/
def mergeValue (old : Option Json) : Json → Json
  | .obj fields =>
      match old with
      | some (.obj inner) => .obj (deepMerge inner fields)
      | _ => .obj fields
  | value => value

def deepMerge (base : Dict) : List (String × Json) → Dict
  | [] => base
  | (key, value) :: rest =>
      deepMerge (setItem base key (mergeValue (field? base key) value)) rest

end

theorem deepMerge_ne_nil {base : Dict} (hbase : base ≠ []) (override : Dict) :
    deepMerge base override ≠ [] := by
  induction override generalizing base with
  | nil => rwa [deepMerge]
  | cons item rest ih =>
      obtain ⟨key, value⟩ := item
      rw [deepMerge]
      apply ih
      rw [setItem]
      split
      · rwa [ne_eq, List.map_eq_nil_iff]
      · exact List.append_ne_nil_of_left_ne_nil hbase _

def configSection (config : Dict) (key : String) : Json :=
  (fieldD config key .null).orElse (.obj [])

/-! ## The environment -/

def envBool (environ : String → Option String) (name : String) (default : Bool) : Bool :=
  match environ name with
  | none => default
  | some value => decide (lower (strip value) ∈ ["1", "true", "yes", "on"])

def envInt (environ : String → Option String) (name : String) (default : Int) : Int :=
  match environ name with
  | none => default
  | some value => (parseInt value).getD default

def envUrl (environ : String → Option String) (name : String) : String :=
  rstripChar '/' (strip ((environ name).getD ""))

/-! ## Requests -/

structure RequestUser where
  id : Int
  isStaff : Bool
  isAuthenticated : Bool

structure ApiRequest where
  method : String
  path : String
  user : Option RequestUser
  forwardedFor : Option String
  remoteAddr : Option String
  data : Json

def extractClientIp (request : ApiRequest) : Option String :=
  match request.forwardedFor with
  | some forwarded =>
      if forwarded = "" then request.remoteAddr
      else some (strip ((splitChar ',' forwarded).headD ""))
  | none => request.remoteAddr

inductive HttpReply where
  | failed
  | response (status : Nat) (body : Option Json)

/-- `raise_for_status` and `json`; the body is absent where it is not JSON. -/
def HttpReply.json : HttpReply → Option Json
  | .failed => none
  | .response status body => if 400 ≤ status ∧ status < 600 then none else body

/-! ## One question to the limiter -/

structure ExternalRateLimitResult where
  allowed : Bool
  applied : Bool
  retryAfterSeconds : Int
  degraded : Bool
  localFallback : Bool
  policyName : Json

/-- The request to the limiter; its time limit is a thousandth of `timeoutMs`, but at least
a tenth of a second. -/
structure EvaluatePost where
  url : String
  serviceToken : String
  payload : Dict
  timeoutMs : Json

inductive ThrottleAction where
  | setQueueDepth (depth : Int)
  | consultLimiter
  | postEvaluate (post : EvaluatePost)
  | askDrf

abbrev ThrottleScript := Script ThrottleAction PyError

def expectObject : Json → Except PyError Dict
  | .obj fields => .ok fields
  | _ => .error .attributeError

def jsonText : Option String → Json
  | some text => .str text
  | none => .null

section Evaluate

variable [PythonRuntime] (environ : String → Option String) (request : ApiRequest)

def evaluatePayload (limiter fields : Dict) : Dict :=
  let route := (fieldD limiter "route" .null).orElse (.str request.path)
  let roomId := fieldD fields "room_id" .null
  [("route", .str route.toText),
    ("user_id", match request.user with
      | some user => if user.isAuthenticated then .str (toString user.id) else .null
      | none => .null),
    ("ip_address", jsonText (extractClientIp request)),
    ("tenant_id", if roomId.truthy then .str roomId.toText else .null),
    ("api_key", .null)]

def limiterTimeoutMs (limiter : Dict) : Json :=
  (fieldD limiter "timeout_ms" .null).orElse
    (.int (envInt environ "RATE_LIMITER_TIMEOUT_MS" 500))

def readAnswer (body : Json) : Except PyError ExternalRateLimitResult := do
  let fields ← expectObject body
  let retryAfter ← ((fieldD fields "retry_after_seconds" (.int 0)).orElse (.int 0)).toInt
  pure {
    allowed := (fieldD fields "allowed" (.bool true)).truthy
    applied := (fieldD fields "applied" (.bool false)).truthy
    retryAfterSeconds := max retryAfter 0
    degraded := (fieldD fields "degraded" (.bool false)).truthy
    localFallback := (fieldD fields "local_fallback" (.bool false)).truthy
    policyName := match fieldD fields "policy" .null with
      | .obj policy => fieldD policy "name" .null
      | _ => .null }

def failedAnswer (limiter : Dict) : Option ExternalRateLimitResult :=
  if envBool environ "RATE_LIMITER_FAIL_OPEN"
      (fieldD limiter "fail_open" (.bool true)).truthy then none
  else some ⟨false, true, 0, true, false, .null⟩

def LimiterActive (limiter : Dict) : Prop :=
  (fieldD limiter "enabled" (.bool false)).truthy ∧
    envUrl environ "RATE_LIMITER_BASE_URL" ≠ "" ∧
    strip ((environ "RATE_LIMITER_SERVICE_TOKEN").getD "") ≠ ""

instance (limiter : Dict) : Decidable (LimiterActive environ limiter) :=
  inferInstanceAs (Decidable (_ ∧ _ ∧ _))

/-- The question to an active limiter; `reply` is what it answers. -/
def askLimiter (limiter : Dict) (reply : HttpReply) :
    ThrottleScript (Option ExternalRateLimitResult) := do
  let timeoutMs := limiterTimeoutMs environ limiter
  Script.ofExcept timeoutMs.checkThousandth
  let fields ← Script.ofExcept (expectObject request.data)
  Script.emit (.postEvaluate ⟨envUrl environ "RATE_LIMITER_BASE_URL" ++ "/internal/evaluate",
    strip ((environ "RATE_LIMITER_SERVICE_TOKEN").getD ""),
    evaluatePayload request limiter fields, timeoutMs⟩)
  match reply.json with
  | none => pure (failedAnswer environ limiter)
  | some body => Script.ofExcept ((readAnswer body).map some)

def evaluateSubmissionRateLimit (config : Dict) (reply : HttpReply) :
    ThrottleScript (Option ExternalRateLimitResult) :=
  match configSection config "distributed_rate_limiter" with
  | .obj limiter =>
      if LimiterActive environ limiter then askLimiter environ request limiter reply
      else pure none
  | _ => pure none

end Evaluate

end JudgeVortex.CoreApi
