import JudgeVortex.CoreApi.SubmitWrites
import JudgeVortex.Foundation.SortedLists
import JudgeVortex.Python.JsonText

/-!
# Suspicious patterns

`core_api/suspicion.py`: the signature of a workspace, and the events that the pattern
detectors record.
-/

namespace JudgeVortex.CoreApi

open JudgeVortex.Foundation JudgeVortex.Python

/-! ## The signature of a workspace -/

def WorkspaceFile.Le (a b : WorkspaceFile) : Prop :=
  a.path < b.path ∨ a.path = b.path ∧ a.content ≤ b.content

instance : DecidableRel WorkspaceFile.Le :=
  fun _ _ => inferInstanceAs (Decidable (_ < _ ∨ _ = _ ∧ _ ≤ _))

instance : Std.Total WorkspaceFile.Le where
  total a b := by
    rcases lt_trichotomy a.path b.path with hlt | heq | hgt
    · exact .inl (.inl hlt)
    · exact (le_total a.content b.content).imp (fun h => .inr ⟨heq, h⟩)
        fun h => .inr ⟨heq.symm, h⟩
    · exact .inr (.inl hgt)

instance : IsTrans WorkspaceFile WorkspaceFile.Le where
  trans := by
    rintro a b c (hab | ⟨hab, hab'⟩) (hbc | ⟨hbc, hbc'⟩)
    · exact .inl (hab.trans hbc)
    · exact .inl (hbc ▸ hab)
    · exact .inl (hab ▸ hbc)
    · exact .inr ⟨hab.trans hbc, hab'.trans hbc'⟩

instance : Std.Antisymm WorkspaceFile.Le where
  antisymm := by
    rintro ⟨path, content⟩ ⟨path', content'⟩ (hab | ⟨hab, hab'⟩) (hba | ⟨hba, hba'⟩)
    · exact absurd hab hba.asymm
    · exact absurd hab (hba ▸ lt_irrefl _)
    · exact absurd hba (hab ▸ lt_irrefl _)
    · exact WorkspaceFile.mk.injEq .. ▸ ⟨hab, le_antisymm hab' hba'⟩

def strippedFile (file : WorkspaceFile) : WorkspaceFile := ⟨strip file.path, file.content⟩

def signaturePayload (submission : Submission) : Json :=
  let normalizedFiles := (submission.files.map strippedFile).insertionSort WorkspaceFile.Le
  .obj [("entry_file", .str submission.entryFile), ("language", .str submission.language),
    ("code", .str submission.code),
    ("files", .arr (normalizedFiles.map fun file =>
      .obj [("path", .str file.path), ("content", .str file.content)]))]

/-- `_normalize_workspace_signature`; `sha256` is the hexdigest of the UTF-8 bytes of a
text. -/
def normalizeWorkspaceSignature (sha256 : String → String) (submission : Submission) : String :=
  sha256 (jsonDumps (signaturePayload submission))

private theorem sortKeys_signaturePayload (submission : Submission) :
    (signaturePayload submission).sortKeys =
      .obj [("code", .str submission.code), ("entry_file", .str submission.entryFile),
        ("files", .arr (((submission.files.map strippedFile).insertionSort WorkspaceFile.Le).map
          fun file => .obj [("content", .str file.content), ("path", .str file.path)])),
        ("language", .str submission.language)] := by
  simp [signaturePayload, Json.sortKeys, Json.sortKeysFields]

theorem jsonDumps_signaturePayload_inj (a b : Submission) :
    jsonDumps (signaturePayload a) = jsonDumps (signaturePayload b) ↔
      a.language = b.language ∧ a.entryFile = b.entryFile ∧ a.code = b.code ∧
        (a.files.map strippedFile).Perm (b.files.map strippedFile) := by
  have htextual : ∀ submission : Submission, (signaturePayload submission).sortKeys.Textual := by
    intro submission
    rw [sortKeys_signaturePayload]
    simp [Json.Textual, Json.TextualFields]
  rw [jsonDumps_inj (htextual a) (htextual b), sortKeys_signaturePayload,
    sortKeys_signaturePayload, ← insertionSort_eq_iff_perm WorkspaceFile.Le]
  have hfile : Function.Injective fun file : WorkspaceFile =>
      Json.obj [("content", .str file.content), ("path", .str file.path)] := by
    rintro ⟨path, content⟩ ⟨path', content'⟩ h
    simp_all
  rw [Json.obj.injEq]
  simp only [List.cons.injEq, Prod.mk.injEq, true_and, Json.str.injEq, Json.arr.injEq,
    (List.map_injective_iff.mpr hfile).eq_iff, and_true]
  tauto

/-- Without collisions, equal signatures mean equal workspaces. -/
theorem normalizeWorkspaceSignature_eq_iff {sha256 : String → String}
    (hsha : Function.Injective sha256) (a b : Submission) :
    normalizeWorkspaceSignature sha256 a = normalizeWorkspaceSignature sha256 b ↔
      a.language = b.language ∧ a.entryFile = b.entryFile ∧ a.code = b.code ∧
        (a.files.map strippedFile).Perm (b.files.map strippedFile) := by
  rw [normalizeWorkspaceSignature, normalizeWorkspaceSignature, hsha.eq_iff,
    jsonDumps_signaturePayload_inj]

def sampleText : String :=
  "\x7b\"code\":\"x=1\",\"entry_file\":\"main.py\",\"files\":[" ++
    "\x7b\"content\":\"\\u00e9\",\"path\":\"a.py\"\x7d," ++
    "\x7b\"content\":\"x=1\",\"path\":\"main.py\"\x7d],\"language\":\"python\"\x7d"

/-- SHA-256 on the one text that is hashed below, and elsewhere without collisions. -/
def sampleSha256 (text : String) : String :=
  if text = sampleText then
    "b8a1b04c81f973f0296c28cc71475f6af7920d648e20ead961c40027c219684b"
  else "-" ++ text

theorem sampleSha256_injective : Function.Injective sampleSha256 := by
  have hhead : ∀ text, ("-" ++ text).toList.head? = some '-' := fun text => by simp
  intro a b h
  unfold sampleSha256 at h
  split_ifs at h with ha hb hb
  · exact ha.trans hb.symm
  · have := congrArg (fun text => text.toList.head?) h
    simp only [hhead] at this
    exact absurd this (by decide)
  · have := congrArg (fun text => text.toList.head?) h
    simp only [hhead] at this
    exact absurd this (by decide)
  · exact String.append_right_inj "-" |>.mp h

def sampleSubmission (files : List WorkspaceFile) : Submission where
  id := 1
  userId := 7
  roomId := some 3
  questionId := some 5
  awardedMarks := 0
  passedTestcases := 0
  totalTestcases := 1
  output := none
  code := "x=1"
  files := files
  entryFile := "main.py"
  language := "python"
  status := "PENDING"
  executionTimeMs := none

theorem normalizeWorkspaceSignature_swapped :
    normalizeWorkspaceSignature sampleSha256
        (sampleSubmission [⟨" a.py", "é"⟩, ⟨"main.py", "x=1"⟩]) =
      normalizeWorkspaceSignature sampleSha256
        (sampleSubmission [⟨"main.py", "x=1"⟩, ⟨"a.py", "é"⟩]) ∧
    normalizeWorkspaceSignature sampleSha256
        (sampleSubmission [⟨"main.py", "x=1"⟩, ⟨"a.py", "é"⟩]) =
      "b8a1b04c81f973f0296c28cc71475f6af7920d648e20ead961c40027c219684b" :=
  ⟨(normalizeWorkspaceSignature_eq_iff sampleSha256_injective _ _).mpr ⟨rfl, rfl, rfl,
    by decide⟩, by decide +kernel⟩

/-! ## The detectors -/

structure TimedEvent extends ExamEvent where
  createdAt : Time

structure PatternLimits where
  burstWindowSeconds : Nat
  burstThreshold : Nat
  failureWindowSeconds : Nat
  failureThreshold : Nat
  dedupWindowSeconds : Nat
  burstWindow_le : 10 ≤ burstWindowSeconds
  burstThreshold_le : 2 ≤ burstThreshold
  failureWindow_le : 30 ≤ failureWindowSeconds
  failureThreshold_le : 2 ≤ failureThreshold
  dedupWindow_le : 30 ≤ dedupWindowSeconds

def defaultPatternLimits : PatternLimits where
  burstWindowSeconds := 45
  burstThreshold := 5
  failureWindowSeconds := 180
  failureThreshold := 4
  dedupWindowSeconds := 600
  burstWindow_le := by decide
  burstThreshold_le := by decide
  failureWindow_le := by decide
  failureThreshold_le := by decide
  dedupWindow_le := by decide

def failureStatuses : List String := ["COMPILATION_ERROR", "RUNTIME_ERROR", "SYSTEM_ERROR"]

/-- The clock, each time that one detection reads it. -/
structure PatternClock where
  windowEnd : Time
  checked : Time
  created : Time

def since (now : Time) (seconds : Nat) : Time := now - seconds * 1000000

def truthyId (id : Option Int) : Bool := (id.filter fun id => id ≠ 0).isSome

section Detectors

variable (limits : PatternLimits) (username : String)

def patternLoggedRecently (now : Time) (events : List TimedEvent) (submission : Submission)
    (eventType : String) : Bool :=
  truthyId submission.roomId && submission.userId ≠ 0 &&
    events.any fun event =>
      event.roomId = submission.roomId ∧ event.participantId = submission.userId ∧
        event.eventType = eventType ∧ since now limits.dedupWindowSeconds ≤ event.createdAt

def recordSuspiciousEvent (clock : PatternClock) (events : List TimedEvent)
    (submission : Submission) (eventType message : String) (metadata : Dict) :
    Option TimedEvent :=
  if patternLoggedRecently limits clock.checked events submission eventType then none
  else some
    { toExamEvent := submissionEvent submission eventType "warning" message submission.id metadata
      createdAt := clock.created }

def submissionBurst : String := "suspicious.submission_burst"

def codeReuse : String := "suspicious.cross_question_code_reuse"

def failureStorm : String := "suspicious.failure_storm"

def burstEvent (clock : PatternClock) (submissions : List TimedSubmission)
    (events : List TimedEvent) (submission : Submission) : Option TimedEvent :=
  let recentCount := submissions.countP fun row =>
    row.userId = submission.userId ∧ row.roomId = submission.roomId ∧
      since clock.windowEnd limits.burstWindowSeconds ≤ row.submittedAt
  if limits.burstThreshold ≤ recentCount then
    recordSuspiciousEvent limits clock events submission submissionBurst
      (username ++ " submitted " ++ toString recentCount ++ " times in under " ++
        toString limits.burstWindowSeconds ++ " seconds.")
      [("recent_submission_count", .int recentCount),
        ("window_seconds", .int limits.burstWindowSeconds)]
  else none

/-- The rows that are compared, newest first; `exclude(question_id=…)` keeps the rows whose
column is null. -/
def reuseCandidates (submissions : List TimedSubmission) (submission : Submission) :
    List TimedSubmission :=
  (submissions.filter fun row =>
    row.userId = submission.userId ∧ row.roomId = submission.roomId ∧
      row.language = submission.language ∧ row.id ≠ submission.id ∧
      row.questionId ≠ submission.questionId).insertionSort
    fun a b => b.submittedAt ≤ a.submittedAt

def reuseEvent (sha256 : String → String) (clock : PatternClock)
    (submissions : List TimedSubmission) (events : List TimedEvent) (submission : Submission) :
    Option TimedEvent :=
  let signature := normalizeWorkspaceSignature sha256 submission
  ((reuseCandidates submissions submission).find? fun prior =>
      normalizeWorkspaceSignature sha256 prior.toSubmission = signature).bind fun prior =>
    recordSuspiciousEvent limits clock events submission codeReuse
      (username ++ " reused an identical workspace across multiple exam questions.")
      [("current_question_id", submission.questionId.elim .null .int),
        ("prior_question_id", prior.questionId.elim .null .int),
        ("prior_submission_id", .int prior.id),
        ("workspace_signature", .str signature)]

/-- `detect_suspicious_submission_patterns`: the events that it records, in order; the two
clocks are those of the two patterns. -/
def detectSuspiciousSubmissionPatterns (sha256 : String → String)
    (burstClock reuseClock : PatternClock) (submissions : List TimedSubmission)
    (events : List TimedEvent) (submission : Submission) : List TimedEvent :=
  if truthyId submission.roomId && truthyId submission.questionId then
    let burst := (burstEvent limits username burstClock submissions events submission).toList
    burst ++ (reuseEvent limits username sha256 reuseClock submissions (events ++ burst)
      submission).toList
  else []

def detectSuspiciousResultPatterns (clock : PatternClock) (submissions : List TimedSubmission)
    (events : List TimedEvent) (submission : Submission) : List TimedEvent :=
  if truthyId submission.roomId && submission.status ∈ failureStatuses then
    let recentFailures := submissions.countP fun row =>
      row.userId = submission.userId ∧ row.roomId = submission.roomId ∧
        row.status ∈ failureStatuses ∧
        since clock.windowEnd limits.failureWindowSeconds ≤ row.submittedAt
    if limits.failureThreshold ≤ recentFailures then
      (recordSuspiciousEvent limits clock events submission failureStorm
        (username ++ " triggered " ++ toString recentFailures ++
          " execution failures in a short window.")
        [("recent_failure_count", .int recentFailures),
          ("window_seconds", .int limits.failureWindowSeconds),
          ("latest_status", .str submission.status)]).toList
    else []
  else []

end Detectors

/-! ## When code reuse is flagged -/

section Reuse

variable {limits : PatternLimits} {username : String} {sha256 : String → String}
  {burstClock reuseClock : PatternClock}

theorem recordSuspiciousEvent_eq_some {clock : PatternClock} {events : List TimedEvent}
    {submission : Submission} {eventType message : String} {metadata : Dict} {event : TimedEvent}
    (h : recordSuspiciousEvent limits clock events submission eventType message metadata =
      some event) :
    patternLoggedRecently limits clock.checked events submission eventType = false ∧
      event.eventType = eventType ∧ event.roomId = submission.roomId ∧
      event.participantId = submission.userId ∧ event.createdAt = clock.created := by
  unfold recordSuspiciousEvent at h
  split at h
  · cases h
  next hlogged =>
    obtain rfl := Option.some.inj h
    exact ⟨by simpa using hlogged, rfl, rfl, rfl, rfl⟩

theorem recordSuspiciousEvent_isSome (clock : PatternClock) (events : List TimedEvent)
    (submission : Submission) (eventType message : String) (metadata : Dict) :
    (recordSuspiciousEvent limits clock events submission eventType message metadata).isSome =
      !patternLoggedRecently limits clock.checked events submission eventType := by
  unfold recordSuspiciousEvent
  cases patternLoggedRecently limits clock.checked events submission eventType <;> rfl

theorem eventType_of_burstEvent {clock : PatternClock} {submissions : List TimedSubmission}
    {events : List TimedEvent} {submission : Submission} {event : TimedEvent}
    (h : burstEvent limits username clock submissions events submission = some event) :
    event.eventType = submissionBurst := by
  unfold burstEvent at h
  simp only at h
  split at h
  · exact (recordSuspiciousEvent_eq_some h).2.1
  · cases h

theorem eventType_of_reuseEvent {clock : PatternClock} {submissions : List TimedSubmission}
    {events : List TimedEvent} {submission : Submission} {event : TimedEvent}
    (h : reuseEvent limits username sha256 clock submissions events submission = some event) :
    event.eventType = codeReuse := by
  obtain ⟨prior, -, h⟩ := Option.bind_eq_some_iff.mp h
  exact (recordSuspiciousEvent_eq_some h).2.1

theorem eventType_of_submissionPatterns {submissions : List TimedSubmission}
    {events : List TimedEvent} {submission : Submission} {event : TimedEvent}
    (h : event ∈ detectSuspiciousSubmissionPatterns limits username sha256 burstClock reuseClock
      submissions events submission) :
    event.eventType = submissionBurst ∨ event.eventType = codeReuse := by
  rw [detectSuspiciousSubmissionPatterns] at h
  split at h
  · rcases List.mem_append.mp h with h | h
    · exact .inl (eventType_of_burstEvent (Option.mem_toList.mp h))
    · exact .inr (eventType_of_reuseEvent (Option.mem_toList.mp h))
  · cases h

theorem eventType_of_resultPatterns {clock : PatternClock} {submissions : List TimedSubmission}
    {events : List TimedEvent} {submission : Submission} {event : TimedEvent}
    (h : event ∈ detectSuspiciousResultPatterns limits username clock submissions events
      submission) : event.eventType = failureStorm := by
  simp only [detectSuspiciousResultPatterns] at h
  split at h
  · split at h
    · exact (recordSuspiciousEvent_eq_some (Option.mem_toList.mp h)).2.1
    · cases h
  · cases h

theorem patternLoggedRecently_append {now : Time} {events more : List TimedEvent}
    {submission : Submission} {eventType : String} (h : ∀ e ∈ more, e.eventType ≠ eventType) :
    patternLoggedRecently limits now (events ++ more) submission eventType =
      patternLoggedRecently limits now events submission eventType := by
  have hmore : (more.any fun event => event.roomId = submission.roomId ∧
      event.participantId = submission.userId ∧ event.eventType = eventType ∧
      since now limits.dedupWindowSeconds ≤ event.createdAt) = false := by
    rw [List.any_eq_false]
    intro event hevent
    simp [h event hevent]
  unfold patternLoggedRecently
  rw [List.any_append, hmore, Bool.or_false]

structure SameWorkspace (sha256 : String → String) (submission : Submission)
    (prior : TimedSubmission) : Prop where
  user : prior.userId = submission.userId
  room : prior.roomId = submission.roomId
  language : prior.language = submission.language
  signature : normalizeWorkspaceSignature sha256 prior.toSubmission =
    normalizeWorkspaceSignature sha256 submission

def ReuseFlagged (recorded : List TimedEvent) : Prop := ∃ e ∈ recorded, e.eventType = codeReuse

def ReusedAcrossQuestions (sha256 : String → String) (history : List TimedSubmission)
    (submission : Submission) : Prop :=
  ∃ prior ∈ history, SameWorkspace sha256 submission prior ∧
    ∃ question, prior.questionId = some question ∧ submission.questionId ≠ some question

/-- The student had the workspace in an earlier Run Test, which has no question. -/
def ReusedFromRunTest (sha256 : String → String) (history : List TimedSubmission)
    (submission : Submission) : Prop :=
  ∃ prior ∈ history, SameWorkspace sha256 submission prior ∧ prior.questionId = none

theorem mem_reuseCandidates {submissions : List TimedSubmission} {submission : Submission}
    {prior : TimedSubmission} :
    prior ∈ reuseCandidates submissions submission ↔
      prior ∈ submissions ∧ prior.userId = submission.userId ∧
        prior.roomId = submission.roomId ∧ prior.language = submission.language ∧
        prior.id ≠ submission.id ∧ prior.questionId ≠ submission.questionId := by
  rw [reuseCandidates, List.mem_insertionSort, List.mem_filter, decide_eq_true_iff]

private theorem find_reuseCandidates_isSome {history : List TimedSubmission}
    {submission : TimedSubmission} (hfresh : ∀ prior ∈ history, prior.id ≠ submission.id)
    (hquestion : submission.questionId ≠ none) :
    ((reuseCandidates (history ++ [submission]) submission.toSubmission).find? fun prior =>
        normalizeWorkspaceSignature sha256 prior.toSubmission =
          normalizeWorkspaceSignature sha256 submission.toSubmission).isSome ↔
      ReusedAcrossQuestions sha256 history submission.toSubmission ∨
        ReusedFromRunTest sha256 history submission.toSubmission := by
  rw [List.find?_isSome]
  simp only [mem_reuseCandidates, decide_eq_true_eq]
  constructor
  · rintro ⟨prior, ⟨hmem, huser, hroom, hlanguage, hid, hother⟩, hsignature⟩
    have hprior : prior ∈ history := by
      rcases List.mem_append.mp hmem with hmem | hmem
      · exact hmem
      · exact absurd (by rw [List.mem_singleton.mp hmem]) hid
    have hsame : SameWorkspace sha256 submission.toSubmission prior :=
      ⟨huser, hroom, hlanguage, hsignature⟩
    cases hcase : prior.questionId with
    | none => exact .inr ⟨prior, hprior, hsame, hcase⟩
    | some question => exact .inl ⟨prior, hprior, hsame, question, hcase,
        fun heq => hother (hcase.trans heq.symm)⟩
  · have hcandidate : ∀ prior ∈ history, SameWorkspace sha256 submission.toSubmission prior →
        prior.questionId ≠ submission.questionId → ∃ prior : TimedSubmission,
        (prior ∈ history ++ [submission] ∧ prior.userId = submission.userId ∧
          prior.roomId = submission.roomId ∧ prior.language = submission.language ∧
          prior.id ≠ submission.id ∧ prior.questionId ≠ submission.questionId) ∧
        normalizeWorkspaceSignature sha256 prior.toSubmission =
          normalizeWorkspaceSignature sha256 submission.toSubmission := by
      intro prior hprior hsame hother
      exact ⟨prior, ⟨List.mem_append_left _ hprior, hsame.user, hsame.room, hsame.language,
        hfresh prior hprior, hother⟩, hsame.signature⟩
    rintro (⟨prior, hprior, hsame, question, hcase, hother⟩ | ⟨prior, hprior, hsame, hcase⟩)
    · exact hcandidate prior hprior hsame fun heq => hother (heq ▸ hcase)
    · exact hcandidate prior hprior hsame fun heq => hquestion (heq ▸ hcase)

private theorem reuseEvent_isSome (username : String) {clock : PatternClock}
    {submissions : List TimedSubmission}
    {events : List TimedEvent} {submission : Submission} :
    (reuseEvent limits username sha256 clock submissions events submission).isSome ↔
      patternLoggedRecently limits clock.checked events submission codeReuse = false ∧
        ((reuseCandidates submissions submission).find? fun prior =>
          normalizeWorkspaceSignature sha256 prior.toSubmission =
            normalizeWorkspaceSignature sha256 submission).isSome := by
  unfold reuseEvent
  simp only
  cases (reuseCandidates submissions submission).find? fun prior =>
      normalizeWorkspaceSignature sha256 prior.toSubmission =
        normalizeWorkspaceSignature sha256 submission with
  | none => simp
  | some prior => simp [recordSuspiciousEvent_isSome]

theorem reuseFlagged_iff {history : List TimedSubmission} {submission : TimedSubmission}
    (events : List TimedEvent) (hfresh : ∀ prior ∈ history, prior.id ≠ submission.id) :
    ReuseFlagged (detectSuspiciousSubmissionPatterns limits username sha256 burstClock reuseClock
        (history ++ [submission]) events submission.toSubmission) ↔
      HasContext submission.toSubmission ∧
        patternLoggedRecently limits reuseClock.checked events submission.toSubmission codeReuse =
          false ∧
        (ReusedAcrossQuestions sha256 history submission.toSubmission ∨
          ReusedFromRunTest sha256 history submission.toSubmission) := by
  have hcontext : (truthyId submission.roomId && truthyId submission.questionId) = true ↔
      HasContext submission.toSubmission := Bool.and_eq_true_iff
  rw [detectSuspiciousSubmissionPatterns]
  by_cases h : HasContext submission.toSubmission
  · have hquestion : submission.questionId ≠ none := by
      intro hnone
      have := h.2
      simp [hnone] at this
    let burst := (burstEvent limits username burstClock (history ++ [submission]) events
      submission.toSubmission).toList
    have hburst : ∀ e ∈ burst, e.eventType ≠ codeReuse := by
      intro e he
      rw [eventType_of_burstEvent (Option.mem_toList.mp he)]
      decide
    rw [if_pos (hcontext.mpr h), and_iff_right h, ← find_reuseCandidates_isSome hfresh hquestion,
      ← patternLoggedRecently_append hburst, ← reuseEvent_isSome username]
    constructor
    · rintro ⟨e, he, htype⟩
      rcases List.mem_append.mp he with he | he
      · exact absurd htype (hburst e he)
      · exact Option.isSome_iff_exists.mpr ⟨e, Option.mem_toList.mp he⟩
    · intro hsome
      obtain ⟨e, he⟩ := Option.isSome_iff_exists.mp hsome
      exact ⟨e, List.mem_append_right _ (Option.mem_toList.mpr he), eventType_of_reuseEvent he⟩
  · rw [if_neg (fun hguard => h (hcontext.mp hguard))]
    exact iff_of_false (by simp [ReuseFlagged]) fun hall => h hall.1

/--
A flag is justified unless an earlier Run Test has the workspace: such a row has no
question, so that it is not excluded, but the student did not reuse it across questions.
-/
theorem reuseFlagged_justified_iff {history : List TimedSubmission} {submission : TimedSubmission}
    (events : List TimedEvent) (hfresh : ∀ prior ∈ history, prior.id ≠ submission.id) :
    (ReuseFlagged (detectSuspiciousSubmissionPatterns limits username sha256 burstClock reuseClock
        (history ++ [submission]) events submission.toSubmission) →
      ReusedAcrossQuestions sha256 history submission.toSubmission) ↔
      (ReusedFromRunTest sha256 history submission.toSubmission →
        HasContext submission.toSubmission →
        patternLoggedRecently limits reuseClock.checked events submission.toSubmission codeReuse =
          false →
        ReusedAcrossQuestions sha256 history submission.toSubmission) := by
  rw [reuseFlagged_iff events hfresh]
  tauto

end Reuse

def samplePrior (questionId : Option Int) : TimedSubmission where
  toSubmission := { sampleSubmission [⟨"a.py", "é"⟩, ⟨"main.py", "x=1"⟩] with
    questionId := questionId }
  submittedAt := 0

def sampleSubmit : TimedSubmission where
  toSubmission := { sampleSubmission [⟨"a.py", "é"⟩, ⟨"main.py", "x=1"⟩] with id := 2 }
  submittedAt := 60000000

def sampleClock : PatternClock := ⟨60000000, 60000000, 60000000⟩

theorem reuseFlagged_justified_sample :
    ReuseFlagged (detectSuspiciousSubmissionPatterns defaultPatternLimits "ada" sampleSha256
        sampleClock sampleClock ([samplePrior (some 4)] ++ [sampleSubmit]) []
        sampleSubmit.toSubmission) ∧
      ReusedAcrossQuestions sampleSha256 [samplePrior (some 4)] sampleSubmit.toSubmission := by
  have hreused : ReusedAcrossQuestions sampleSha256 [samplePrior (some 4)]
      sampleSubmit.toSubmission :=
    ⟨samplePrior (some 4), by simp, ⟨rfl, rfl, rfl, rfl⟩, 4, rfl, by decide⟩
  have hflagged : ReuseFlagged (detectSuspiciousSubmissionPatterns defaultPatternLimits "ada"
      sampleSha256 sampleClock sampleClock ([samplePrior (some 4)] ++ [sampleSubmit]) []
      sampleSubmit.toSubmission) :=
    (reuseFlagged_iff [] (by decide)).mpr ⟨by decide, by decide, .inl hreused⟩
  exact ⟨hflagged, (reuseFlagged_justified_iff [] (by decide)).mpr (fun _ _ _ => hreused)
    hflagged⟩

theorem runTest_is_flagged :
    ReuseFlagged (detectSuspiciousSubmissionPatterns defaultPatternLimits "ada" sampleSha256
        sampleClock sampleClock ([samplePrior none] ++ [sampleSubmit]) []
        sampleSubmit.toSubmission) ∧
      ¬ ReusedAcrossQuestions sampleSha256 [samplePrior none] sampleSubmit.toSubmission := by
  constructor
  · refine (reuseFlagged_iff [] (by decide)).mpr ⟨by decide, by decide, .inr ?_⟩
    exact ⟨samplePrior none, by simp, ⟨rfl, rfl, rfl, rfl⟩, rfl⟩
  · rintro ⟨prior, hprior, -, question, hquestion, -⟩
    rw [List.mem_singleton.mp hprior] at hquestion
    cases hquestion

end JudgeVortex.CoreApi
