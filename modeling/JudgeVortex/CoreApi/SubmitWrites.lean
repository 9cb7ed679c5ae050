import JudgeVortex.CoreApi.ParticipantLock
import JudgeVortex.Foundation.Script

/-!
# What a submit request writes

`SubmissionCreateView` once more, with every write to the tables of the exam in its order:
the participant's row, the submission, the workspace snapshot and the exam events.  A
request that is refused has made the writes up to its refusal.
-/

namespace JudgeVortex.CoreApi

open JudgeVortex.Executor JudgeVortex.Foundation JudgeVortex.Python JudgeVortex.Shared

structure StoredParticipant extends RoomParticipant where
  accessLockedAt : Option Time
  lastPresenceAt : Option Time

def StoredParticipant.row (participant : StoredParticipant) : ParticipantRow :=
  ⟨participant.accessLocked, participant.accessLockedAt, participant.lastPresenceAt⟩

def StoredParticipant.withRow (participant : StoredParticipant) (row : ParticipantRow) :
    StoredParticipant :=
  { participant with
    accessLocked := row.accessLocked
    accessLockedAt := row.accessLockedAt
    lastPresenceAt := row.lastPresenceAt }

structure WorkspaceSnapshot where
  language : String
  code : String
  files : List WorkspaceFile
  entryFile : String
  deriving DecidableEq, Repr

structure ExamEvent where
  eventType : String
  severity : String
  message : String
  roomId : Option Int
  questionId : Option Int
  submissionId : Option Int
  actorId : Int
  participantId : Int
  metadata : Dict

structure ExamStore where
  rooms : List Int
  questions : List ExamQuestion
  participants : List StoredParticipant
  submissions : List Submission
  snapshots : Int × Int × Int → Option WorkspaceSnapshot
  events : List ExamEvent
  room_pos : ∀ id ∈ rooms, 0 < id
  question_pos : ∀ question ∈ questions, 0 < question.id

def ExamStore.catalogue (store : ExamStore) : Catalogue where
  rooms := store.rooms
  questions := store.questions
  participants := store.participants.map StoredParticipant.toRoomParticipant
  room_pos := store.room_pos
  question_pos := store.question_pos

inductive SubmitWrite where
  | saveParticipant (roomId studentId : Int) (save : Save)
  | insertSubmission (row : Submission)
  | updateSubmission (row : Submission)
  | deleteSubmission (id : Int)
  | upsertSnapshot (roomId studentId questionId : Int) (snapshot : WorkspaceSnapshot)
  | recordEvent (event : ExamEvent)

/-- An event outlives its submission (`SET_NULL`). -/
def ExamEvent.unlink (id : Int) (event : ExamEvent) : ExamEvent :=
  if event.submissionId = some id then { event with submissionId := none } else event

def ExamStore.write (store : ExamStore) : SubmitWrite → ExamStore
  | .saveParticipant roomId studentId save => { store with
      participants := store.participants.map fun participant =>
        if participant.roomId = roomId ∧ participant.studentId = studentId then
          participant.withRow (participant.row.save save)
        else participant }
  | .insertSubmission row => { store with submissions := store.submissions ++ [row] }
  | .updateSubmission row => { store with
      submissions := store.submissions.map fun old => if old.id = row.id then row else old }
  | .deleteSubmission id => { store with
      submissions := store.submissions.filter fun row => row.id ≠ id
      events := store.events.map (.unlink id) }
  | .upsertSnapshot roomId studentId questionId snapshot => { store with
      snapshots := Function.update store.snapshots (roomId, studentId, questionId)
        (some snapshot) }
  | .recordEvent event => { store with events := store.events ++ [event] }

/-- What the request meets besides the tables: its user's name, the clock, the checks of the
framework's serializer, the events that the pattern detectors record, and the text of an
exception of the producer. -/
structure SubmitContext where
  username : String
  now : Time
  serializerError : Dict → Option (String × String)
  submissionPatterns : Submission → List ExamEvent
  resultPatterns : Submission → List ExamEvent
  sendError : String

abbrev SubmitScript := Script SubmitWrite RequestError

/-- A step that raises makes none of its writes. -/
def attempt (env : SubmitEnv) (step : SubmitStep) (writes : List SubmitWrite) :
    SubmitScript Unit :=
  if env.raises step then .fail .raised else ⟨writes, .ok ()⟩

section Writes

variable (context : SubmitContext) (store : ExamStore) (env : SubmitEnv) (nextId user : Int)
  (body : Dict)

def participantWrites (participant : Option RoomParticipant)
    (save? : Time → ParticipantRow → Option Save) : List SubmitWrite :=
  match participant with
  | none => []
  | some participant =>
      match store.participants.find? fun stored =>
          stored.roomId = participant.roomId ∧ stored.studentId = participant.studentId with
      | none => []
      | some stored =>
          ((save? context.now stored.row).map fun save =>
            SubmitWrite.saveParticipant participant.roomId participant.studentId save).toList

def savePresent (participant : Option RoomParticipant) (autoDisqualified : Bool) :
    SubmitScript Unit :=
  if participant.isSome ∧ ¬ autoDisqualified then
    attempt env .markPresent (participantWrites context store participant markParticipantPresent)
  else pure ()

def prepareScript [PythonRuntime] : SubmitScript PreparedSubmission := do
  let catalogue := store.catalogue
  let timeLimitMs ← Script.ofExcept (requestedTimeLimit body)
  let autoDisqualified := decide
    (fieldD body "user_input" (.str "") = .str autoDisqualifySentinel)
  let roomId ← Script.ofExcept (parseIdentifier (fieldD body "room_id" .null))
  let questionId ← Script.ofExcept (parseIdentifier (fieldD body "question_id" .null))
  let resolved ← Script.ofExcept (resolveQuestion catalogue roomId questionId body)
  let participant ←
    Script.ofExcept (admitParticipant catalogue user resolved.roomId autoDisqualified)
  Script.ofExcept (checkAssigned resolved.question participant)
  savePresent context store env participant autoDisqualified
  let workspace ← Script.ofExcept (normalizeSubmissionFiles (fieldD body "language" .null)
    (fieldD body "code" (.str "")) (fieldD body "files" .null)
    ((fieldD body "entry_file" .null).orElse (.str "")))
  let language ← Script.ofExcept (validateSubmissionLanguage
    ((fieldD body "language" .null).orElse (.str "python")) workspace.entryFile)
  pure ⟨resolved.roomId, questionId, resolved.question, participant, resolved.judgeCases,
    resolved.userInput, timeLimitMs, workspace, language, autoDisqualified⟩

variable (prepared : PreparedSubmission) (row : Submission)

def submissionEvent (eventType severity message : String) (submissionId : Option Int)
    (metadata : Dict) : ExamEvent where
  eventType := eventType
  severity := severity
  message := message
  roomId := row.roomId
  questionId := if submissionId.isSome then row.questionId else none
  submissionId := submissionId
  actorId := row.userId
  participantId := row.userId
  metadata := metadata

def lockedEvent : ExamEvent :=
  submissionEvent row "participant.locked" "warning"
    (context.username ++ " was auto-locked after leaving the exam context.") none
    [("reason", .str "auto_disqualify_submit")]

def submissionMode : String := if row.questionId.any (· ≠ 0) then "hidden" else "visible"

def receivedEvent : ExamEvent :=
  submissionEvent row "submission.received" "info"
    ("Submission " ++ toString row.id ++ " received for " ++ row.language ++ ".") row.id
    [("language", .str row.language), ("mode", .str (submissionMode row)),
      ("entry_file", .str row.entryFile), ("workspace_file_count", .int row.files.length),
      ("judge_case_count", .int prepared.judgeCases.length)]

def saveScript : SubmitScript Unit :=
  if env.raises .saveSubmission ∨ ¬ store.catalogue.Refers row then .fail .raised
  else
    ⟨.insertSubmission row ::
      if prepared.participant.isSome && prepared.autoDisqualified then
        participantWrites context store prepared.participant lockParticipantAccess ++
          [.recordEvent (lockedEvent context row)]
      else [], .ok ()⟩

def snapshotOf : WorkspaceSnapshot := ⟨row.language, row.code, row.files, row.entryFile⟩

def snapshotScript : SubmitScript Unit :=
  match prepared.participant, prepared.question with
  | some participant, some question =>
      attempt env .upsertSnapshot
        [.upsertSnapshot participant.roomId user question.id (snapshotOf row)]
  | _, _ => pure ()

def patternsScript : SubmitScript Unit :=
  if HasContext row then
    attempt env .detectPatterns ((context.submissionPatterns row).map .recordEvent)
  else pure ()

def bookkeepingScript : SubmitScript Unit := do
  snapshotScript env user prepared row
  attempt env .recordReceived [.recordEvent (receivedEvent prepared row)]
  patternsScript context env row

def resultSeverity (status : String) : String :=
  if status ∈ ["COMPILATION_ERROR", "SYSTEM_ERROR"] then "error"
  else if status ∈ ["WRONG_ANSWER", "TLE", "MLE", "RUNTIME_ERROR"] then "warning"
  else "info"

def updatedEvent (report : Report) : ExamEvent :=
  submissionEvent row "submission.updated" (resultSeverity row.status)
    ("Submission " ++ toString row.id ++ " finished with " ++ row.status ++ ".") row.id
    [("executor_status", report.status), ("awarded_marks", .int row.awardedMarks),
      ("passed_testcases", .int row.passedTestcases),
      ("total_testcases", .int row.totalTestcases),
      ("execution_time_ms", row.executionTimeMs.elim .null .int)]

def inlineScript [PythonRuntime] : SubmitScript Submission := do
  let run := executeSubmissionInline prepared.userInput prepared.judgeCases
    prepared.timeLimitMs env.answers.env
  let report ← Script.ofExcept (run.report.mapError fun _ => RequestError.raised)
  attempt env .runInline []
  let row := storeReport none row report
  attempt env .saveResult [.updateSubmission row]
  attempt env .recordResult
    (.recordEvent (updatedEvent row report) :: (context.resultPatterns row).map .recordEvent)
  pure row

def failedEvent (topic : String) : ExamEvent :=
  submissionEvent row "submission.queue_failed" "error"
    ("Submission " ++ toString row.id ++ " failed to enqueue.") row.id
    [("topic", .str topic), ("error", .str context.sendError)]

def queuedEvent (topic : String) : ExamEvent :=
  submissionEvent row "submission.queued" "info"
    ("Submission " ++ toString row.id ++ " queued on " ++ topic ++ ".") row.id
    [("topic", .str topic), ("mode", .str (submissionMode row))]

def sendScript (topic : String) : SubmitScript Submission :=
  if env.raises .send ∨ env.raises .flush then do
    let failed := { row with
      status := "SYSTEM_ERROR"
      output := some "Submission queue is temporarily unavailable." }
    attempt env .saveFailure [.updateSubmission failed]
    attempt env .recordFailure [.recordEvent (failedEvent context failed topic)]
    .fail (.unavailable "Judging queue is temporarily unavailable. Please retry.")
  else do
    attempt env .recordQueued [.recordEvent (queuedEvent row topic)]
    pure row

def queueScript : SubmitScript Submission := do
  attempt env .getProducer []
  match getSubmissionTopic env.environ row.language with
  | .error error => do
      attempt env .deleteSubmission [.deleteSubmission row.id]
      .fail (.validation "error" error)
  | .ok topic => sendScript context env row topic

def afterScript [PythonRuntime] : SubmitScript Submission := do
  bookkeepingScript context env user prepared row
  if RunsInline env row then inlineScript context env prepared row
  else queueScript context env row

def createScript [PythonRuntime] : SubmitScript Submission := do
  let prepared ← prepareScript context store env user body
  let row := prepared.row nextId user
  saveScript context store env prepared row
  afterScript context env user prepared row

def submitScript [PythonRuntime] : SubmitScript Submission :=
  match context.serializerError body with
  | some (field, message) => .fail (.validation field message)
  | none => createScript context store env nextId user body

def ExamStore.submit [PythonRuntime] : ExamStore :=
  (submitScript context store env nextId user body).log.foldl ExamStore.write store

end Writes

/-! ## The same request as before -/

section Agreement

variable {context : SubmitContext} {store : ExamStore} {env : SubmitEnv} {nextId user : Int}
  {body : Dict} {prepared : PreparedSubmission} {row : Submission}

def stepsResult (env : SubmitEnv) (steps : List SubmitStep) : Except RequestError Unit :=
  if steps.any env.raises then .error .raised else .ok ()

theorem stepsResult_append (first rest : List SubmitStep) :
    (stepsResult env first >>= fun _ => stepsResult env rest) =
      stepsResult env (first ++ rest) := by
  simp only [stepsResult, List.any_append]
  cases first.any env.raises <;> rfl

theorem forall_log_attempt {P : SubmitWrite → Prop} {writes : List SubmitWrite}
    (h : ∀ write ∈ writes, P write) (step : SubmitStep) :
    ∀ write ∈ (attempt env step writes).log, P write := by
  rw [attempt]
  split
  · simp
  · exact h

theorem result_attempt (env : SubmitEnv) (step : SubmitStep) (writes : List SubmitWrite) :
    (attempt env step writes).result = stepsResult env [step] := by
  simp only [attempt, stepsResult, List.any_cons, List.any_nil, Bool.or_false]
  split <;> rfl

theorem result_savePresent (participant : Option RoomParticipant) (autoDisqualified : Bool) :
    (savePresent context store env participant autoDisqualified).result =
      markPresent env participant autoDisqualified := by
  rw [savePresent, markPresent]
  by_cases hmarks : participant.isSome ∧ ¬ autoDisqualified
  · rw [if_pos hmarks, result_attempt]
    simp [stepsResult, hmarks.1, hmarks.2]
  · rw [if_neg hmarks, if_neg fun h => hmarks ⟨h.1, h.2.1⟩]
    rfl

theorem result_saveScript : (saveScript context store env prepared row).result =
    if env.raises .saveSubmission ∨ ¬ store.catalogue.Refers row then .error .raised
    else .ok () := by
  rw [saveScript]
  split <;> rfl

theorem result_snapshotScript : (snapshotScript env user prepared row).result =
    stepsResult env (if prepared.participant.isSome ∧ prepared.question.isSome then
      [.upsertSnapshot] else []) := by
  rw [snapshotScript]
  split
  next hparticipant hquestion =>
    rw [result_attempt, if_pos (by simp [hparticipant, hquestion])]
  next hnone =>
    rw [if_neg, Script.result_pure]
    · rfl
    rintro ⟨hparticipant, hquestion⟩
    obtain ⟨participant, hparticipant⟩ := Option.isSome_iff_exists.mp hparticipant
    obtain ⟨question, hquestion⟩ := Option.isSome_iff_exists.mp hquestion
    exact hnone participant question hparticipant hquestion

theorem result_patternsScript : (patternsScript context env row).result =
    stepsResult env (if HasContext row then [.detectPatterns] else []) := by
  rw [patternsScript]
  split
  · exact result_attempt ..
  · rfl

theorem result_bookkeepingScript : (bookkeepingScript context env user prepared row).result =
    stepsResult env (bookkeepingSteps prepared row) := by
  rw [bookkeepingScript, Script.result_bind, Script.result_bind, result_snapshotScript,
    result_attempt, result_patternsScript, stepsResult_append, stepsResult_append,
    bookkeepingSteps, List.append_assoc]

theorem result_sendScript (topic : String) : (sendScript context env row topic).result =
    (sendToQueue env prepared row).response := by
  rw [sendScript, sendToQueue]
  by_cases hraises : env.raises .send ∨ env.raises .flush
  · simp only [if_pos hraises, Script.result_bind, result_attempt, stepsResult, List.any_cons,
      List.any_nil, Bool.or_false]
    cases env.raises .saveFailure <;> cases env.raises .recordFailure <;> rfl
  · simp only [if_neg hraises, Script.result_bind, result_attempt, stepsResult, List.any_cons,
      List.any_nil, Bool.or_false]
    cases env.raises .recordQueued <;> rfl

theorem result_queueScript : (queueScript context env row).result =
    (dispatchQueued env prepared row).response := by
  simp only [queueScript, Script.result_bind, result_attempt, stepsResult, List.any_cons,
    List.any_nil, Bool.or_false]
  rw [dispatchQueued]
  cases env.raises .getProducer with
  | true => rfl
  | false =>
      cases getSubmissionTopic env.environ row.language with
      | error error =>
          simp only [Script.result_bind, result_attempt, stepsResult, List.any_cons,
            List.any_nil, Bool.or_false]
          cases env.raises .deleteSubmission <;> rfl
      | ok topic => exact result_sendScript topic

section Runtime

variable [PythonRuntime]

theorem result_prepareScript : (prepareScript context store env user body).result =
    prepareSubmission store.catalogue env user body := by
  simp only [prepareScript, prepareSubmission, Script.result_bind, Script.result_ofExcept,
    result_savePresent]
  rfl

theorem result_inlineScript : (inlineScript context env prepared row).result =
    (dispatchInline env prepared row).response := by
  simp only [inlineScript, dispatchInline, Script.result_bind, Script.result_ofExcept,
    result_attempt, stepsResult, List.any_cons, List.any_nil, Bool.or_false]
  cases (executeSubmissionInline prepared.userInput prepared.judgeCases prepared.timeLimitMs
      env.answers.env).report with
  | error error => rfl
  | ok report =>
      cases env.raises .runInline <;> cases env.raises .saveResult <;>
        cases env.raises .recordResult <;> rfl

theorem result_afterScript : (afterScript context env user prepared row).result =
    (afterCreate env prepared row).response := by
  rw [afterScript, Script.result_bind, result_bookkeepingScript, stepsResult, afterCreate]
  by_cases hraises : (bookkeepingSteps prepared row).any env.raises = true
  · rw [if_pos hraises, if_pos hraises]
    rfl
  · rw [if_neg hraises, if_neg hraises]
    by_cases hinline : RunsInline env row
    · rw [if_pos hinline, if_pos hinline]
      exact result_inlineScript
    · rw [if_neg hinline, if_neg hinline]
      exact result_queueScript

theorem result_createScript : (createScript context store env nextId user body).result =
    (performCreate store.catalogue env nextId user body).dispatch.response := by
  rw [createScript, Script.result_bind, result_prepareScript, performCreate]
  cases prepareSubmission store.catalogue env user body with
  | error error => rfl
  | ok prepared =>
      simp only [bind, Except.bind]
      change (saveScript context store env prepared (prepared.row nextId user) >>= fun _ =>
        afterScript context env user prepared (prepared.row nextId user)).result = _
      rw [Script.result_bind, result_saveScript]
      split
      · rfl
      · exact result_afterScript

end Runtime

end Agreement

/-! ## Tables before and after -/

def StoredParticipant.lock (participant : StoredParticipant) :
    Int × Int × Bool × Option Time :=
  (participant.roomId, participant.studentId, participant.accessLocked,
    participant.accessLockedAt)

/-- Nothing is to be seen of the request in the submissions, the snapshots, the locks and
the events. -/
structure NoTrace (before after : ExamStore) : Prop where
  submissions : after.submissions = before.submissions
  snapshots : after.snapshots = before.snapshots
  locks : after.participants.map StoredParticipant.lock =
    before.participants.map StoredParticipant.lock
  events : after.events = before.events

def IsPresence : SubmitWrite → Prop
  | .saveParticipant _ _ save => save.updateFields = [.lastPresenceAt]
  | _ => False

def IsEvent : SubmitWrite → Bool
  | .recordEvent _ => true
  | _ => false

theorem NoTrace.trans {a b c : ExamStore} (hab : NoTrace a b) (hbc : NoTrace b c) :
    NoTrace a c :=
  ⟨hbc.submissions.trans hab.submissions, hbc.snapshots.trans hab.snapshots,
    hbc.locks.trans hab.locks, hbc.events.trans hab.events⟩

theorem noTrace_of_presence (store : ExamStore) {write : SubmitWrite} (h : IsPresence write) :
    NoTrace store (store.write write) := by
  cases write with
  | saveParticipant roomId studentId save =>
      refine ⟨rfl, rfl, ?_, rfl⟩
      have hfields : save.updateFields = [.lastPresenceAt] := h
      simp only [ExamStore.write, List.map_map]
      refine List.map_congr_left fun participant _ => ?_
      simp only [Function.comp]
      split
      · simp [StoredParticipant.lock, StoredParticipant.withRow, StoredParticipant.row,
          ParticipantRow.save, hfields]
      · rfl
  | _ => cases h

theorem noTrace_of_presences {log : List SubmitWrite} (h : ∀ write ∈ log, IsPresence write)
    (store : ExamStore) : NoTrace store (log.foldl ExamStore.write store) := by
  induction log generalizing store with
  | nil => exact ⟨rfl, rfl, rfl, rfl⟩
  | cons write log ih =>
      rw [List.forall_mem_cons] at h
      exact (noTrace_of_presence store h.1).trans (ih h.2 _)

theorem length_events_foldl (log : List SubmitWrite) (store : ExamStore) :
    (log.foldl ExamStore.write store).events.length =
      store.events.length + log.countP IsEvent := by
  induction log generalizing store with
  | nil => rfl
  | cons write log ih =>
      rw [List.foldl_cons, ih, List.countP_cons]
      cases write <;> simp [ExamStore.write, IsEvent]
      omega

theorem not_noTrace_of_event {log : List SubmitWrite} {store : ExamStore} {event : ExamEvent}
    (h : .recordEvent event ∈ log) : ¬ NoTrace store (log.foldl ExamStore.write store) := by
  intro hsame
  have hlength := length_events_foldl log store
  have hpos : 0 < log.countP IsEvent := List.countP_pos_iff.mpr ⟨_, h, rfl⟩
  rw [hsame.events] at hlength
  omega

/-! ## Refused requests -/

section Refused

variable [PythonRuntime] {context : SubmitContext} {store : ExamStore} {env : SubmitEnv}
  {nextId user : Int} {body : Dict} {field message : String}

def LateRejection (context : SubmitContext) (store : ExamStore) (env : SubmitEnv) (user : Int)
    (body : Dict) : Prop :=
  context.serializerError body = none ∧
    ∃ prepared, prepareSubmission store.catalogue env user body = .ok prepared ∧
      ∃ error, getSubmissionTopic env.environ prepared.language = .error error

omit [PythonRuntime] in
theorem log_savePresent (participant : Option RoomParticipant) (autoDisqualified : Bool) :
    ∀ write ∈ (savePresent context store env participant autoDisqualified).log,
      IsPresence write := by
  rw [savePresent]
  split
  swap
  · simp
  apply forall_log_attempt
  intro write hwrite
  simp only [participantWrites] at hwrite
  split at hwrite
  · cases hwrite
  split at hwrite
  · cases hwrite
  rw [Option.mem_toList, Option.map_eq_some_iff] at hwrite
  obtain ⟨save, hsave, rfl⟩ := hwrite
  rw [markParticipantPresent] at hsave
  split at hsave
  · cases hsave
  · cases hsave
    rfl

theorem log_prepareScript :
    ∀ write ∈ (prepareScript context store env user body).log, IsPresence write := by
  have hsilent : ∀ {β : Type} (result : Except RequestError β),
      ∀ write ∈ (Script.ofExcept result : SubmitScript β).log, IsPresence write := by
    simp
  unfold prepareScript
  refine Script.forall_log_bind (hsilent _) fun _ _ => ?_
  refine Script.forall_log_bind (hsilent _) fun _ _ => ?_
  refine Script.forall_log_bind (hsilent _) fun _ _ => ?_
  refine Script.forall_log_bind (hsilent _) fun _ _ => ?_
  refine Script.forall_log_bind (hsilent _) fun _ _ => ?_
  refine Script.forall_log_bind (hsilent _) fun _ _ => ?_
  refine Script.forall_log_bind (log_savePresent _ _) fun _ _ => ?_
  refine Script.forall_log_bind (hsilent _) fun _ _ => ?_
  refine Script.forall_log_bind (hsilent _) fun _ _ => ?_
  simp

/-- After the transaction only a missing executor is a validation error. -/
theorem topic_of_afterCreate {prepared : PreparedSubmission} {row : Submission}
    (h : (afterCreate env prepared row).response = .error (.validation field message)) :
    ∃ error, getSubmissionTopic env.environ row.language = .error error := by
  rw [afterCreate] at h
  split at h
  · cases h
  split at h
  · rw [dispatchInline] at h
    split at h
    · cases h
    split at h
    · cases h
    · split at h <;> cases h
  rw [dispatchQueued] at h
  split at h
  · cases h
  split at h
  next error htopic => exact ⟨error, htopic⟩
  next topic htopic =>
    rw [sendToQueue] at h
    split at h
    · split at h
      · cases h
      · split at h <;> cases h
    · simp only at h
      split at h <;> cases h

omit [PythonRuntime] in
theorem received_of_bookkeepingScript {prepared : PreparedSubmission} {row : Submission}
    (h : (bookkeepingScript context env user prepared row).result = .ok ()) :
    .recordEvent (receivedEvent prepared row) ∈
      (bookkeepingScript context env user prepared row).log := by
  rw [bookkeepingScript] at h ⊢
  obtain ⟨_, hsnapshot, h⟩ := Script.result_bind_ok_iff.mp h
  obtain ⟨_, hreceived, -⟩ := Script.result_bind_ok_iff.mp h
  refine Script.mem_log_bind_right hsnapshot (Script.mem_log_bind_left ?_ _)
  rw [attempt] at hreceived ⊢
  split at hreceived
  · cases hreceived
  next hreturns =>
    rw [if_neg hreturns]
    exact List.mem_singleton_self _

theorem bookkeeping_of_validation {prepared : PreparedSubmission} {row : Submission}
    (h : (afterScript context env user prepared row).result =
      .error (.validation field message)) :
    (bookkeepingScript context env user prepared row).result = .ok () := by
  rw [afterScript, Script.result_bind, result_bookkeepingScript] at h
  rw [result_bookkeepingScript]
  rw [stepsResult] at h ⊢
  split
  next hraises =>
    rw [if_pos hraises] at h
    cases h
  next => rfl

theorem received_of_lateRejection (hlate : LateRejection context store env user body)
    (h : (submitScript context store env nextId user body).result =
      .error (.validation field message)) :
    ∃ event, .recordEvent event ∈ (submitScript context store env nextId user body).log := by
  obtain ⟨hserializer, prepared, hprepared, -⟩ := hlate
  have hprepare : (prepareScript context store env user body).result = .ok prepared := by
    rw [result_prepareScript, hprepared]
  simp only [submitScript, hserializer] at h ⊢
  rw [createScript] at h ⊢
  rw [Script.bind_of_ok hprepare] at h
  simp only at h
  have hsave : (saveScript context store env prepared (prepared.row nextId user)).result =
      .ok () := by
    rw [Script.result_bind, result_saveScript] at h
    rw [result_saveScript]
    split
    next hraises =>
      rw [if_pos hraises] at h
      cases h
    next => rfl
  rw [Script.bind_of_ok hsave] at h
  refine ⟨receivedEvent prepared (prepared.row nextId user), ?_⟩
  refine Script.mem_log_bind_right hprepare (Script.mem_log_bind_right hsave ?_)
  rw [afterScript]
  refine Script.mem_log_bind_left ?_ _
  exact received_of_bookkeepingScript (bookkeeping_of_validation h)

theorem presences_of_early (hearly : ¬ LateRejection context store env user body)
    (h : (submitScript context store env nextId user body).result =
      .error (.validation field message)) :
    ∀ write ∈ (submitScript context store env nextId user body).log, IsPresence write := by
  rw [submitScript] at h ⊢
  split
  next => simp
  next hserializer =>
    rw [hserializer] at h
    simp only at h
    cases hprepared : prepareSubmission store.catalogue env user body with
    | error error =>
        rw [createScript, Script.bind_of_error (by rw [result_prepareScript, hprepared])]
        exact log_prepareScript
    | ok prepared =>
        -- A check that comes after these is the search for an executor.
        rw [result_createScript, performCreate, hprepared] at h
        simp only at h
        split at h
        · cases h
        obtain ⟨error, htopic⟩ := topic_of_afterCreate h
        exact absurd ⟨hserializer, prepared, hprepared, error, htopic⟩ hearly

/--
A request that ends in a validation error leaves no trace exactly if it is not the missing
executor of its language that refuses it.
-/
theorem refused_leaves_no_trace_iff
    (h : (submitScript context store env nextId user body).result =
      .error (.validation field message)) :
    NoTrace store (store.submit context env nextId user body) ↔
      ¬ LateRejection context store env user body := by
  constructor
  · intro hsame hlate
    obtain ⟨event, hevent⟩ := received_of_lateRejection hlate h
    exact not_noTrace_of_event hevent hsame
  · exact fun hearly => noTrace_of_presences (presences_of_early hearly h) store

end Refused

def twoCaseQuestion : ExamQuestion := ⟨1, 1, 10, "1\n\n2", "1\n\n4"⟩

private theorem examRoom_pos (id : Int) (h : id ∈ [(1 : Int)]) : 0 < id := by
  rw [List.mem_singleton.mp h]
  exact Int.one_pos

private theorem twoCaseQuestion_pos (question : ExamQuestion) (h : question ∈ [twoCaseQuestion]) :
    0 < question.id := by
  rw [List.mem_singleton.mp h]
  exact Int.one_pos

def examStore : ExamStore where
  rooms := [1]
  questions := [twoCaseQuestion]
  participants := [⟨⟨1, 3, false, [1]⟩, none, none⟩]
  submissions := []
  snapshots _ := none
  events := []
  room_pos := examRoom_pos
  question_pos := twoCaseQuestion_pos

def quietContext : SubmitContext where
  username := "ada"
  now := 0
  serializerError _ := none
  submissionPatterns _ := []
  resultPatterns _ := []
  sendError := ""

theorem refused_leaves_no_trace_stranger :
    letI := plainRuntime
    NoTrace examStore (examStore.submit quietContext (envRaising []) 7 4 examBody) ↔
      ¬ LateRejection quietContext examStore (envRaising []) 4 examBody := by
  let := plainRuntime
  have h : (submitScript quietContext examStore (envRaising []) 7 4 examBody).result =
      .error (.validation "error"
        "Access Denied. You are not a registered participant of this exam room.") := by
    decide +kernel
  exact refused_leaves_no_trace_iff h

def cobolBody : Dict :=
  [("room_id", .int 1), ("question_id", .int 1), ("language", .str "cobol"),
    ("code", .str "STOP RUN."), ("user_input", .str "DISQUALIFIED_AUTO_SUBMIT")]

theorem unsupported_language_leaves_traces :
    letI := plainRuntime
    ¬ ∀ (context : SubmitContext) (store : ExamStore) (env : SubmitEnv) (nextId user : Int)
        (body : Dict) (field message : String),
      (submitScript context store env nextId user body).result =
          .error (.validation field message) →
        NoTrace store (store.submit context env nextId user body) := by
  let := plainRuntime
  intro h
  have hrefused : (submitScript quietContext examStore (envRaising []) 7 3 cobolBody).result =
      .error (.validation "error" "Unsupported submission language: cobol") := by
    decide +kernel
  have htraces :
      let after := examStore.submit quietContext (envRaising []) 7 3 cobolBody
      after.participants.map StoredParticipant.lock = [(1, 3, true, some 0)] ∧
        (after.snapshots (1, 3, 1)).isSome ∧
        after.events.map ExamEvent.eventType = ["participant.locked", "submission.received"] := by
    decide +kernel
  have hlocks := (h _ _ _ _ _ _ _ _ hrefused).locks
  rw [htraces.1] at hlocks
  exact absurd hlocks (by decide)

end JudgeVortex.CoreApi
