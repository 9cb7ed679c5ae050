import JudgeVortex.CoreApi.Suspicion
import JudgeVortex.Foundation.Cooldown
import JudgeVortex.Foundation.Runs
import Mathlib.Algebra.Order.Ring.Int

/-!
# Suspicious events over a run

Submissions and results, one after another: the detectors of `core_api/suspicion.py` read
the event log that they append to.
-/

namespace JudgeVortex.CoreApi

open JudgeVortex.Foundation JudgeVortex.Python

def suspiciousTypes : List String := [submissionBurst, codeReuse, failureStorm]

def patternKey (event : TimedEvent) : Option (String × Int × Int) :=
  if event.eventType ∈ suspiciousTypes then
    event.roomId.map fun room => (event.eventType, room, event.participantId)
  else none

structure PatternLog where
  submissions : List TimedSubmission
  events : List TimedEvent
  user_ne_zero : ∀ row ∈ submissions, row.userId ≠ 0

/--
A submission, whose row is new, a result, which is stored in its row, another event, or
another write to the rows: one that could not be queued has failed, or is deleted.  The
clocks are those of the patterns that are checked.
-/
inductive PatternRequest where
  | submit (row : TimedSubmission) (huser : row.userId ≠ 0)
      (burstClock reuseClock : PatternClock)
  | result (id : Int) (verdict : Verdict) (clock : PatternClock)
  | record (event : TimedEvent) (htype : event.eventType ∉ suspiciousTypes)
  | write (submissions : List TimedSubmission) (husers : ∀ row ∈ submissions, row.userId ≠ 0)

def PatternRequest.readings : PatternRequest → List Time
  | submit _ _ burstClock reuseClock =>
      [burstClock.windowEnd, burstClock.checked, burstClock.created, reuseClock.windowEnd,
        reuseClock.checked, reuseClock.created]
  | result _ _ clock => [clock.windowEnd, clock.checked, clock.created]
  | record event _ => [event.createdAt]
  | write _ _ => []

namespace PatternLog

variable [PythonRuntime] (limits : PatternLimits) (username : Int → String)
  (sha256 : String → String) (log : PatternLog)

def graded (id : Int) (verdict : Verdict) : Option TimedSubmission :=
  (log.submissions.find? fun row => row.id = id).bind fun row =>
    (row.toSubmission.store verdict).map fun stored => { row with toSubmission := stored }

def rows : PatternRequest → List TimedSubmission
  | .submit row _ _ _ => log.submissions ++ [row]
  | .result id verdict _ =>
      match log.graded id verdict with
      | none => log.submissions
      | some graded => log.submissions.map fun row => if row.id = id then graded else row
  | .record _ _ => log.submissions
  | .write submissions _ => submissions

def recorded (request : PatternRequest) : List TimedEvent :=
  match request with
  | .submit row _ burstClock reuseClock =>
      detectSuspiciousSubmissionPatterns limits (username row.userId) sha256 burstClock reuseClock
        (log.rows request) log.events row.toSubmission
  | .result id verdict clock =>
      match log.graded id verdict with
      | none => []
      | some graded =>
          detectSuspiciousResultPatterns limits (username graded.userId) clock
            (log.rows request) log.events graded.toSubmission
  | .record event _ => [event]
  | .write _ _ => []

theorem userId_graded {log : PatternLog} {id : Int} {verdict : Verdict}
    {graded : TimedSubmission} (h : log.graded id verdict = some graded) :
    graded.userId ≠ 0 := by
  obtain ⟨row, hrow, hstore⟩ := Option.bind_eq_some_iff.mp h
  obtain ⟨stored, hstored, rfl⟩ := Option.map_eq_some_iff.mp hstore
  obtain ⟨status, -, rfl⟩ := Option.map_eq_some_iff.mp hstored
  exact log.user_ne_zero row (List.mem_of_find?_eq_some hrow)

theorem user_ne_zero_rows (request : PatternRequest) :
    ∀ row ∈ log.rows request, row.userId ≠ 0 := by
  intro row hrow
  cases request with
  | submit new huser burstClock reuseClock =>
      rcases List.mem_append.mp hrow with hrow | hrow
      · exact log.user_ne_zero row hrow
      · rwa [List.mem_singleton.mp hrow]
  | result id verdict clock =>
      rw [rows] at hrow
      split at hrow
      next => exact log.user_ne_zero row hrow
      next graded hgraded =>
        obtain ⟨old, hold, rfl⟩ := List.mem_map.mp hrow
        split
        next => exact userId_graded hgraded
        next => exact log.user_ne_zero old hold
  | record event htype => exact log.user_ne_zero row hrow
  | write submissions husers => exact husers row hrow

def step (request : PatternRequest) : PatternLog where
  submissions := log.rows request
  events := log.events ++ log.recorded limits username sha256 request
  user_ne_zero := log.user_ne_zero_rows request

end PatternLog

/-! ## The window of one pattern -/

section Window

variable {limits : PatternLimits}

abbrev EventsSpaced (limits : PatternLimits) (events : List TimedEvent) : Prop :=
  Spaced patternKey TimedEvent.createdAt (limits.dedupWindowSeconds * 1000000 : Time) events

abbrev PatternQuiet (limits : PatternLimits) (now : Time) (events : List TimedEvent)
    (k : String × Int × Int) : Prop :=
  Quiet patternKey TimedEvent.createdAt (limits.dedupWindowSeconds * 1000000 : Time) now events k

theorem patternKey_eq_some_iff {event : TimedEvent} {eventType : String} {room user : Int} :
    patternKey event = some (eventType, room, user) ↔
      eventType ∈ suspiciousTypes ∧ event.eventType = eventType ∧ event.roomId = some room ∧
        event.participantId = user := by
  unfold patternKey
  split
  next hmem =>
    simp only [Option.map_eq_some_iff, Prod.mk.injEq]
    constructor
    · rintro ⟨other, hroom, rfl, rfl, huser⟩
      exact ⟨hmem, rfl, hroom, huser⟩
    · rintro ⟨-, htype, hroom, huser⟩
      exact ⟨room, hroom, htype, rfl, huser⟩
  next hmem =>
    refine iff_of_false nofun ?_
    rintro ⟨hsuspicious, rfl, -, -⟩
    exact hmem hsuspicious

theorem patternLoggedRecently_eq_false_iff {now : Time} {events : List TimedEvent}
    {submission : Submission} {eventType : String} {room : Int}
    (htype : eventType ∈ suspiciousTypes) (hroom : submission.roomId = some room)
    (htruthy : truthyId submission.roomId = true) (huser : submission.userId ≠ 0) :
    patternLoggedRecently limits now events submission eventType = false ↔
      PatternQuiet limits now events (eventType, room, submission.userId) := by
  have hguard : (truthyId submission.roomId && decide (submission.userId ≠ 0)) = true := by
    rw [htruthy, decide_eq_true huser, Bool.and_true]
  unfold patternLoggedRecently
  rw [hguard, Bool.true_and, List.any_eq_false]
  refine forall₂_congr fun event _ => ?_
  rw [patternKey_eq_some_iff, decide_eq_true_eq, hroom]
  constructor
  · rintro h ⟨-, heventType, heventRoom, heventUser⟩
    exact not_le.mp fun hle => h ⟨heventRoom, heventUser, heventType, hle⟩
  · rintro h ⟨heventRoom, heventUser, heventType, hle⟩
    exact absurd hle (not_le.mpr (h ⟨htype, heventType, heventRoom, heventUser⟩))

def RecordsOnce (limits : PatternLimits) (clock : PatternClock) (events : List TimedEvent)
    (submission : Submission) (eventType : String) (event? : Option TimedEvent) : Prop :=
  event? = none ∨ ∃ message metadata,
    event? = recordSuspiciousEvent limits clock events submission eventType message metadata

variable {clock : PatternClock} {events : List TimedEvent} {submission : Submission}
  {eventType username : String} {sha256 : String → String} {submissions : List TimedSubmission}

theorem truthyId_eq_true_iff {id : Option Int} :
    truthyId id = true ↔ ∃ value, id = some value ∧ value ≠ 0 := by
  cases id <;> simp [truthyId]

theorem RecordsOnce.spaced {event? : Option TimedEvent}
    (hrecords : RecordsOnce limits clock events submission eventType event?)
    (h : EventsSpaced limits events) (htype : eventType ∈ suspiciousTypes)
    (htruthy : truthyId submission.roomId = true) (huser : submission.userId ≠ 0)
    (hclock : clock.checked ≤ clock.created) :
    EventsSpaced limits (events ++ event?.toList) := by
  obtain ⟨room, hroom, -⟩ := truthyId_eq_true_iff.mp htruthy
  cases event? with
  | none => rwa [Option.toList_none, List.append_nil]
  | some event =>
      obtain ⟨message, metadata, hevent⟩ := hrecords.resolve_left nofun
      obtain ⟨hquiet, heventType, heventRoom, heventUser, hcreated⟩ :=
        recordSuspiciousEvent_eq_some hevent.symm
      have hnow : clock.checked ≤ event.createdAt := hcreated ▸ hclock
      refine h.append_quiet (fun k hk => ?_) hnow
      have hkey : patternKey event = some (eventType, room, submission.userId) :=
        patternKey_eq_some_iff.mpr ⟨htype, heventType, heventRoom.trans hroom, heventUser⟩
      rw [hkey] at hk
      obtain rfl := Option.some.inj hk
      exact (patternLoggedRecently_eq_false_iff htype hroom htruthy huser).mp hquiet

variable (clock events submission username submissions) in
theorem recordsOnce_burstEvent : RecordsOnce limits clock events submission submissionBurst
    (burstEvent limits username clock submissions events submission) := by
  unfold burstEvent
  simp only
  split
  · exact .inr ⟨_, _, rfl⟩
  · exact .inl rfl

variable (clock events submission username sha256 submissions) in
theorem recordsOnce_reuseEvent : RecordsOnce limits clock events submission codeReuse
    (reuseEvent limits username sha256 clock submissions events submission) := by
  unfold reuseEvent
  simp only
  cases (reuseCandidates submissions submission).find? fun prior =>
      normalizeWorkspaceSignature sha256 prior.toSubmission =
        normalizeWorkspaceSignature sha256 submission with
  | none => exact .inl rfl
  | some prior => exact .inr ⟨_, _, rfl⟩

theorem spaced_submissionPatterns {burstClock reuseClock : PatternClock}
    (h : EventsSpaced limits events) (huser : submission.userId ≠ 0)
    (hburst : burstClock.checked ≤ burstClock.created)
    (hreuse : reuseClock.checked ≤ reuseClock.created) :
    EventsSpaced limits (events ++ detectSuspiciousSubmissionPatterns limits username sha256
      burstClock reuseClock submissions events submission) := by
  rw [detectSuspiciousSubmissionPatterns]
  split
  next hguard =>
    have htruthy := (Bool.and_eq_true_iff.mp hguard).1
    have hfirst := (recordsOnce_burstEvent burstClock events submission username
      submissions).spaced h (by decide) htruthy huser hburst
    have hsecond := (recordsOnce_reuseEvent reuseClock _ submission username sha256
      submissions).spaced hfirst (by decide) htruthy huser hreuse
    rwa [List.append_assoc] at hsecond
  next => rwa [List.append_nil]

theorem spaced_resultPatterns (h : EventsSpaced limits events) (huser : submission.userId ≠ 0)
    (hclock : clock.checked ≤ clock.created) :
    EventsSpaced limits (events ++ detectSuspiciousResultPatterns limits username clock
      submissions events submission) := by
  simp only [detectSuspiciousResultPatterns]
  split
  next hguard =>
    have htruthy := (Bool.and_eq_true_iff.mp hguard).1
    split
    · exact RecordsOnce.spaced (.inr ⟨_, _, rfl⟩) h (by decide) htruthy huser hclock
    · rwa [List.append_nil]
  next => rwa [List.append_nil]

def recentCount (limits : PatternLimits) (clock : PatternClock)
    (submissions : List TimedSubmission) (submission : Submission) : ℕ :=
  submissions.countP fun row =>
    row.userId = submission.userId ∧ row.roomId = submission.roomId ∧
      since clock.windowEnd limits.burstWindowSeconds ≤ row.submittedAt

def recentFailures (limits : PatternLimits) (clock : PatternClock)
    (submissions : List TimedSubmission) (submission : Submission) : ℕ :=
  submissions.countP fun row =>
    row.userId = submission.userId ∧ row.roomId = submission.roomId ∧
      row.status ∈ failureStatuses ∧
      since clock.windowEnd limits.failureWindowSeconds ≤ row.submittedAt

theorem exists_recorded {event? : Option TimedEvent} {room : Int} {message : String}
    {metadata : Dict} (hroom : submission.roomId = some room)
    (htruthy : truthyId submission.roomId = true) (huser : submission.userId ≠ 0)
    (htype : eventType ∈ suspiciousTypes)
    (hevent : event? =
      recordSuspiciousEvent limits clock events submission eventType message metadata)
    (hquiet : PatternQuiet limits clock.checked events (eventType, room, submission.userId)) :
    ∃ event ∈ event?, patternKey event = some (eventType, room, submission.userId) := by
  have hlogged := (patternLoggedRecently_eq_false_iff htype hroom htruthy huser).mpr hquiet
  have hsome : event?.isSome = true := by
    rw [hevent, recordSuspiciousEvent_isSome, hlogged]
    rfl
  obtain ⟨event, rfl⟩ := Option.isSome_iff_exists.mp hsome
  obtain ⟨-, heventType, heventRoom, heventUser, -⟩ := recordSuspiciousEvent_eq_some hevent.symm
  exact ⟨event, rfl,
    patternKey_eq_some_iff.mpr ⟨htype, heventType, heventRoom.trans hroom, heventUser⟩⟩

theorem burst_recorded {burstClock reuseClock : PatternClock} {room : Int}
    (hcontext : HasContext submission) (hroom : submission.roomId = some room)
    (huser : submission.userId ≠ 0)
    (hmet : limits.burstThreshold ≤ recentCount limits burstClock submissions submission)
    (hquiet : PatternQuiet limits burstClock.checked events
      (submissionBurst, room, submission.userId)) :
    ∃ event ∈ detectSuspiciousSubmissionPatterns limits username sha256 burstClock reuseClock
      submissions events submission,
      patternKey event = some (submissionBurst, room, submission.userId) := by
  obtain ⟨event, hevent, hkey⟩ := exists_recorded hroom hcontext.1 huser (by decide)
    (show burstEvent limits username burstClock submissions events submission = _ from
      if_pos hmet) hquiet
  have hguard : (truthyId submission.roomId && truthyId submission.questionId) = true :=
    Bool.and_eq_true_iff.mpr hcontext
  refine ⟨event, ?_, hkey⟩
  rw [detectSuspiciousSubmissionPatterns, if_pos hguard]
  exact List.mem_append_left _ (Option.mem_toList.mpr hevent)

theorem failureStorm_recorded {room : Int} (hroom : submission.roomId = some room)
    (htruthy : truthyId submission.roomId = true) (huser : submission.userId ≠ 0)
    (hstatus : submission.status ∈ failureStatuses)
    (hmet : limits.failureThreshold ≤ recentFailures limits clock submissions submission)
    (hquiet : PatternQuiet limits clock.checked events (failureStorm, room, submission.userId)) :
    ∃ event ∈ detectSuspiciousResultPatterns limits username clock submissions events submission,
      patternKey event = some (failureStorm, room, submission.userId) := by
  obtain ⟨event, hevent, hkey⟩ := exists_recorded hroom htruthy huser (by decide) rfl hquiet
  refine ⟨event, ?_, hkey⟩
  simp only [detectSuspiciousResultPatterns, htruthy, hstatus, decide_true, Bool.and_true,
    if_true]
  exact (if_pos hmet).symm ▸ Option.mem_toList.mpr hevent

end Window

/-! ## A run of requests -/

section Runs

variable [PythonRuntime] (limits : PatternLimits) (username : Int → String)
  (sha256 : String → String)

/-- A submission that meets the threshold of bursts is answered by an event, unless there is
one in the window. -/
def BurstAnswered (log : PatternLog) (request : PatternRequest) : Prop :=
  ∀ row huser burstClock reuseClock room,
    request = .submit row huser burstClock reuseClock → row.roomId = some room → room ≠ 0 →
    limits.burstThreshold ≤
      recentCount limits burstClock (log.rows request) row.toSubmission →
    PatternQuiet limits burstClock.checked log.events (submissionBurst, room, row.userId) →
    ∃ event ∈ log.recorded limits username sha256 request,
      patternKey event = some (submissionBurst, room, row.userId)

/-- A result that meets the threshold of failures is answered by an event, unless there is
one in the window. -/
def StormAnswered (log : PatternLog) (request : PatternRequest) : Prop :=
  ∀ id verdict clock graded room,
    request = .result id verdict clock → log.graded id verdict = some graded →
    graded.roomId = some room → room ≠ 0 →
    limits.failureThreshold ≤
      recentFailures limits clock (log.rows request) graded.toSubmission →
    PatternQuiet limits clock.checked log.events (failureStorm, room, graded.userId) →
    ∃ event ∈ log.recorded limits username sha256 request,
      patternKey event = some (failureStorm, room, graded.userId)

def ForQuestion : PatternRequest → Prop
  | .submit row _ _ _ => truthyId row.questionId = true
  | _ => True

def Fails (log : PatternLog) : PatternRequest → Prop
  | .result id verdict _ => ∀ graded ∈ log.graded id verdict, graded.status ∈ failureStatuses
  | _ => True

structure RateLimited (log : PatternLog) (request : PatternRequest) : Prop where
  spaced : EventsSpaced limits (log.step limits username sha256 request).events
  burst : ForQuestion request → BurstAnswered limits username sha256 log request
  storm : Fails log request → StormAnswered limits username sha256 log request

variable {limits username sha256}

omit [PythonRuntime] in
theorem PatternRequest.readings_pairwise {requests : List PatternRequest}
    (hclock : (requests.flatMap PatternRequest.readings).Pairwise (· ≤ ·))
    {request : PatternRequest} (h : request ∈ requests) :
    request.readings.Pairwise (· ≤ ·) :=
  (List.pairwise_flatMap.mp hclock).1 request h

theorem spaced_step {log : PatternLog} (h : EventsSpaced limits log.events)
    {request : PatternRequest} (hclock : request.readings.Pairwise (· ≤ ·)) :
    EventsSpaced limits (log.step limits username sha256 request).events := by
  cases request with
  | submit row huser burstClock reuseClock =>
      have hreadings : burstClock.checked ≤ burstClock.created ∧
          reuseClock.checked ≤ reuseClock.created := by
        simp only [PatternRequest.readings, List.pairwise_cons, List.forall_mem_cons] at hclock
        exact ⟨hclock.2.1.1, hclock.2.2.2.2.1.1⟩
      exact spaced_submissionPatterns h huser hreadings.1 hreadings.2
  | result id verdict clock =>
      have hreadings : clock.checked ≤ clock.created := by
        simp only [PatternRequest.readings, List.pairwise_cons, List.forall_mem_cons] at hclock
        exact hclock.2.1.1
      change EventsSpaced limits (log.events ++ log.recorded limits username sha256 _)
      cases hgraded : log.graded id verdict with
      | none => simpa only [PatternLog.recorded, hgraded, List.append_nil] using h
      | some graded =>
          simp only [PatternLog.recorded, hgraded]
          exact spaced_resultPatterns h (PatternLog.userId_graded hgraded) hreadings
  | record event htype => exact h.append_unkeyed (if_neg htype)
  | write submissions husers =>
      change EventsSpaced limits (log.events ++ [])
      rwa [List.append_nil]

theorem rateLimited_step {log : PatternLog} (h : EventsSpaced limits log.events)
    {request : PatternRequest} (hclock : request.readings.Pairwise (· ≤ ·)) :
    RateLimited limits username sha256 log request where
  spaced := spaced_step h hclock
  burst := by
    rintro hquestion row huser burstClock reuseClock room rfl hroom hne hmet hquiet
    exact burst_recorded ⟨truthyId_eq_true_iff.mpr ⟨room, hroom, hne⟩, hquestion⟩ hroom huser
      hmet hquiet
  storm := by
    rintro hfails id verdict clock graded room rfl hgraded hroom hne hmet hquiet
    simp only [PatternLog.recorded, hgraded]
    exact failureStorm_recorded hroom (truthyId_eq_true_iff.mpr ⟨room, hroom, hne⟩)
      (PatternLog.userId_graded hgraded) (hfails graded hgraded) hmet hquiet

variable (limits username sha256)

theorem suspicion_rate_limited (log : PatternLog) (hlog : EventsSpaced limits log.events)
    (requests : List PatternRequest)
    (hclock : (requests.flatMap PatternRequest.readings).Pairwise (· ≤ ·)) :
    ∀ p ∈ transitions (PatternLog.step limits username sha256) log requests,
      RateLimited limits username sha256 p.1 p.2 := by
  have hmem : ∀ p ∈ transitions (PatternLog.step limits username sha256) log requests,
      p.2.readings.Pairwise (· ≤ ·) :=
    fun p hp => PatternRequest.readings_pairwise hclock (label_mem_of_mem_transitions _ hp)
  have hspaced := transitions_invariant_of (PatternLog.step limits username sha256)
    (I := fun log => EventsSpaced limits log.events)
    (G := fun _ request => request.readings.Pairwise (· ≤ ·))
    (fun _ _ h hreadings => spaced_step h hreadings) hlog requests hmem
  exact fun p hp => rateLimited_step (hspaced p hp) (hmem p hp)

end Runs

/-! ### A run of Run Tests -/

def shortLimits : PatternLimits where
  burstWindowSeconds := 40
  burstThreshold := 2
  failureWindowSeconds := 700
  failureThreshold := 2
  dedupWindowSeconds := 30
  burstWindow_le := by decide
  burstThreshold_le := by decide
  failureWindow_le := by decide
  failureThreshold_le := by decide
  dedupWindow_le := by decide

def timedRunTest (id : Int) (submittedAt : Time) (questionId : Option Int) : TimedSubmission where
  toSubmission := { sampleSubmission [] with id := id, questionId := questionId }
  submittedAt := submittedAt

def submitAt (id : Int) (now : Time) (questionId : Option Int) : PatternRequest :=
  .submit (timedRunTest id now questionId) (by change (7 : Int) ≠ 0; decide) ⟨now, now, now⟩
    ⟨now, now, now⟩

def resultAt (id : Int) (now : Time) (status : String) : PatternRequest :=
  .result id ⟨.str status, .null, 0, 0, 1, none⟩ ⟨now, now, now⟩

def emptyPatternLog : PatternLog := ⟨[], [], by simp⟩

def burstRequests : List PatternRequest :=
  [submitAt 1 0 (some 5), submitAt 2 0 (some 5), submitAt 3 20000000 (some 5),
    submitAt 4 31000000 (some 5)]

theorem suspicion_rate_limited_burst :
    let := plainRuntime
    (burstRequests.foldl (PatternLog.step shortLimits (fun _ => "ada") sampleSha256)
        emptyPatternLog).events.map (fun event => event.createdAt) = [0, 31000000] ∧
      ∀ p ∈ transitions (PatternLog.step shortLimits (fun _ => "ada") sampleSha256)
          emptyPatternLog burstRequests,
        RateLimited shortLimits (fun _ => "ada") sampleSha256 p.1 p.2 := by
  let := plainRuntime
  exact ⟨by decide, suspicion_rate_limited shortLimits (fun _ => "ada") sampleSha256
    emptyPatternLog .nil burstRequests (by decide)⟩

def runTests : List PatternRequest :=
  [submitAt 1 0 none, submitAt 2 0 none, resultAt 1 1000000 "RUNTIME_ERROR",
    resultAt 2 1000000 "RUNTIME_ERROR", submitAt 3 60000000 none, resultAt 3 60000000 "SUCCESS"]

theorem runTests_unanswered :
    let := plainRuntime
    ¬ (∀ p ∈ transitions (PatternLog.step shortLimits (fun _ => "ada") sampleSha256)
        emptyPatternLog runTests,
      BurstAnswered shortLimits (fun _ => "ada") sampleSha256 p.1 p.2) ∧
    ¬ (∀ p ∈ transitions (PatternLog.step shortLimits (fun _ => "ada") sampleSha256)
        emptyPatternLog runTests,
      StormAnswered shortLimits (fun _ => "ada") sampleSha256 p.1 p.2) := by
  let := plainRuntime
  let step := PatternLog.step shortLimits (fun _ => "ada") sampleSha256
  constructor
  · intro h
    have hsecond := h (runTests.take 1 |>.foldl step emptyPatternLog, submitAt 2 0 none)
      (.tail _ (.head _))
    obtain ⟨event, hevent, -⟩ := hsecond _ _ _ _ 3 rfl rfl (by decide) (by decide) (by
      intro event hevent
      cases hevent)
    cases hevent
  · intro h
    have hlast := h (runTests.take 5 |>.foldl step emptyPatternLog, resultAt 3 60000000 "SUCCESS")
      (.tail _ (.tail _ (.tail _ (.tail _ (.tail _ (.head _))))))
    have htimes : ∀ event ∈ (runTests.take 5 |>.foldl step emptyPatternLog).events,
        event.createdAt < 60000000 - shortLimits.dedupWindowSeconds * 1000000 := by
      decide
    obtain ⟨event, hevent, -⟩ := hlast _ _ _ _ 3 rfl rfl rfl (by decide) (by decide)
      fun event hevent _ => htimes event hevent
    cases hevent

end JudgeVortex.CoreApi
