import JudgeVortex.CoreApi.InlineExecution
import JudgeVortex.CoreApi.Workspace
import JudgeVortex.Executor.Grader
import JudgeVortex.Shared.Routing

/-!
# Submitting

`SubmissionCreateView.perform_create`: what it checks, the row it creates, and the
steps after the row is committed.  Each step that can raise is named; a `SubmitEnv`
tells which of them do.
-/

namespace JudgeVortex.CoreApi

open JudgeVortex.Executor JudgeVortex.Python JudgeVortex.Shared

inductive SubmitStep where
  | markPresent
  | saveSubmission
  | upsertSnapshot
  | recordReceived
  | detectPatterns
  | runInline
  | saveResult
  | recordResult
  | getProducer
  | deleteSubmission
  | send
  | flush
  | saveFailure
  | recordFailure
  | recordQueued
  deriving DecidableEq, Repr

structure SubmitEnv where
  raises : SubmitStep → Bool
  findTool : String → Option String
  environ : String → Option String
  answers : SandboxAnswers

structure JobMessage where
  correlationId : String
  deliveryAttempt : Int
  job : Job

structure PreparedSubmission where
  roomId : Option Int
  questionId : Option Int
  question : Option ExamQuestion
  participant : Option RoomParticipant
  judgeCases : List TestCase
  userInput : Json
  timeLimitMs : Int
  workspace : Workspace
  language : String
  autoDisqualified : Bool

section Preparing

variable [PythonRuntime]

def autoDisqualifySentinel : String := "DISQUALIFIED_AUTO_SUBMIT"

def requestedTimeLimit (body : Dict) : Except RequestError Int :=
  match parseCount (fieldD body "time_limit_ms" (.int 10000)) 10000 with
  | .ok n => .ok (intOr n 10000)
  | .error _ => .error .raised

def parseIdentifier (value : Json) : Except RequestError (Option Int) :=
  if value.truthy then
    match value.toInt with
    | .ok n => .ok (some n)
    | .error .typeError | .error .valueError =>
        .error (.validation "error" "Invalid room or question identifier.")
    | .error _ => .error .raised
  else .ok none

def readJudgeCase : Json → Except RequestError TestCase
  | .obj fields => .ok ⟨(fieldD fields "input" .null).textOrEmpty,
      normalizeJudgeValue ((fieldD fields "expected_output" .null).orElse (.str ""))⟩
  | _ => .error (.validation "judge_cases" "Each testcase must be an object.")

def normalizeJudgeCasesPayload (payload : Json) : Except RequestError (List TestCase) := do
  let parsed ← parseArray "judge_cases" "Invalid testcase payload: "
    "Visible testcases must be sent as an array." payload
  parsed.mapM readJudgeCase

structure ResolvedQuestion where
  roomId : Option Int
  question : Option ExamQuestion
  judgeCases : List TestCase
  userInput : Json

def resolveQuestion (catalogue : Catalogue) (roomId questionId : Option Int) (body : Dict) :
    Except RequestError ResolvedQuestion :=
  match questionId.filter fun id => id ≠ 0 with
  | some id =>
      match catalogue.question? id with
      | none => .error .notFound
      | some question =>
          if roomId.all fun id => id = question.roomId then
            .ok ⟨some (roomId.getD question.roomId), some question,
              buildTestcases question.testcaseInput question.expectedOutput,
              .str question.testcaseInput⟩
          else .error (.validation "error"
            "The selected question does not belong to this exam room.")
  | none => do
      let cases ← normalizeJudgeCasesPayload (fieldD body "judge_cases" .null)
      pure ⟨roomId, none, cases, fieldD body "user_input" (.str "")⟩

def admitParticipant (catalogue : Catalogue) (user : Int) (roomId : Option Int)
    (autoDisqualified : Bool) : Except RequestError (Option RoomParticipant) :=
  match roomId.filter fun id => id ≠ 0 with
  | none => .ok none
  | some roomId =>
      match catalogue.participants.find? fun participant =>
          participant.roomId = roomId ∧ participant.studentId = user with
      | none => .error (.validation "error"
          "Access Denied. You are not a registered participant of this exam room.")
      | some participant =>
          if participant.accessLocked ∧ ¬ autoDisqualified then
            .error (.validation "error" "Your access to this exam room has been locked.")
          else .ok (some participant)

def checkAssigned : Option ExamQuestion → Option RoomParticipant → Except RequestError Unit
  | some question, some participant =>
      if question.id ∈ participant.assignedQuestions then .ok ()
      else .error (.validation "error"
        "This question is not assigned to you for this exam.")
  | _, _ => .ok ()

def markPresent (env : SubmitEnv) (participant : Option RoomParticipant)
    (autoDisqualified : Bool) : Except RequestError Unit :=
  if participant.isSome ∧ ¬ autoDisqualified ∧ env.raises .markPresent then .error .raised
  else .ok ()

def prepareSubmission (catalogue : Catalogue) (env : SubmitEnv) (user : Int) (body : Dict) :
    Except RequestError PreparedSubmission := do
  let timeLimitMs ← requestedTimeLimit body
  let autoDisqualified := decide
    (fieldD body "user_input" (.str "") = .str autoDisqualifySentinel)
  let roomId ← parseIdentifier (fieldD body "room_id" .null)
  let questionId ← parseIdentifier (fieldD body "question_id" .null)
  let resolved ← resolveQuestion catalogue roomId questionId body
  let participant ← admitParticipant catalogue user resolved.roomId autoDisqualified
  checkAssigned resolved.question participant
  markPresent env participant autoDisqualified
  let workspace ← normalizeSubmissionFiles (fieldD body "language" .null)
    (fieldD body "code" (.str "")) (fieldD body "files" .null)
    ((fieldD body "entry_file" .null).orElse (.str ""))
  let language ← validateSubmissionLanguage
    ((fieldD body "language" .null).orElse (.str "python")) workspace.entryFile
  pure ⟨resolved.roomId, questionId, resolved.question, participant, resolved.judgeCases,
    resolved.userInput, timeLimitMs, workspace, language, autoDisqualified⟩

end Preparing

/-! ## After the row is committed -/

def PreparedSubmission.row (prepared : PreparedSubmission) (id user : Int) : Submission where
  id := id
  userId := user
  roomId := prepared.roomId
  questionId := prepared.questionId
  awardedMarks := 0
  passedTestcases := 0
  totalTestcases := prepared.judgeCases.length
  output := none
  code := prepared.workspace.code
  files := prepared.workspace.files
  entryFile := prepared.workspace.entryFile
  language := prepared.language
  status := "PENDING"
  executionTimeMs := none

/-- Absent judge cases are no cases. -/
def PreparedSubmission.message (prepared : PreparedSubmission) (row : Submission) :
    JobMessage where
  correlationId := "sub-" ++ toString row.id
  deliveryAttempt := 1
  job :=
    { submissionId := row.id
      code := row.code
      language := row.language
      files := row.files
      entryFile := row.entryFile
      userInput := prepared.userInput
      timeLimitMs := prepared.timeLimitMs
      judgeCases := prepared.judgeCases }

/-- How the steps after the transaction end: the row, if it is still there, the message
that `send` took, whether `flush` returned, and the answer to the client. -/
structure Dispatch where
  row : Option Submission
  sent : Option JobMessage
  flushed : Bool
  response : Except RequestError Submission

def Dispatch.raised (row : Submission) : Dispatch := ⟨some row, none, false, .error .raised⟩

def dispatchInline [PythonRuntime] (env : SubmitEnv) (prepared : PreparedSubmission)
    (row : Submission) : Dispatch :=
  let run := executeSubmissionInline prepared.userInput prepared.judgeCases
    prepared.timeLimitMs env.answers.env
  match run.report with
  | .error _ => .raised row
  | .ok report =>
      if env.raises .runInline ∨ env.raises .saveResult then .raised row
      else
        let row := storeReport none row report
        if env.raises .recordResult then .raised row
        else ⟨some row, none, false, .ok row⟩

def sendToQueue (env : SubmitEnv) (prepared : PreparedSubmission) (row : Submission) :
    Dispatch :=
  let sent := if env.raises .send then none else some (prepared.message row)
  if env.raises .send ∨ env.raises .flush then
    if env.raises .saveFailure then { Dispatch.raised row with sent := sent }
    else
      let failed := { row with
        status := "SYSTEM_ERROR"
        output := some "Submission queue is temporarily unavailable." }
      let error := if env.raises .recordFailure then .raised
        else .unavailable "Judging queue is temporarily unavailable. Please retry."
      ⟨some failed, sent, false, .error error⟩
  else
    ⟨some row, sent, true, if env.raises .recordQueued then .error .raised else .ok row⟩

def dispatchQueued (env : SubmitEnv) (prepared : PreparedSubmission) (row : Submission) :
    Dispatch :=
  if env.raises .getProducer then .raised row
  else
    match getSubmissionTopic env.environ row.language with
    | .error error =>
        if env.raises .deleteSubmission then .raised row
        else ⟨none, none, false, .error (.validation "error" error)⟩
    | .ok _ => sendToQueue env prepared row

def RunsInline (env : SubmitEnv) (row : Submission) : Prop :=
  row.questionId = none ∧ getMissingRuntimeTools env.findTool row.language = []

instance (env : SubmitEnv) (row : Submission) : Decidable (RunsInline env row) :=
  inferInstanceAs (Decidable (_ ∧ _))

def HasContext (row : Submission) : Prop :=
  (row.roomId.filter fun id => id ≠ 0).isSome ∧
    (row.questionId.filter fun id => id ≠ 0).isSome

instance (row : Submission) : Decidable (HasContext row) :=
  inferInstanceAs (Decidable (_ ∧ _))

def bookkeepingSteps (prepared : PreparedSubmission) (row : Submission) : List SubmitStep :=
  (if prepared.participant.isSome ∧ prepared.question.isSome then [.upsertSnapshot]
    else []) ++ [.recordReceived] ++ if HasContext row then [.detectPatterns] else []

def afterCreate [PythonRuntime] (env : SubmitEnv) (prepared : PreparedSubmission)
    (row : Submission) : Dispatch :=
  if (bookkeepingSteps prepared row).any env.raises then .raised row
  else if RunsInline env row then dispatchInline env prepared row
  else dispatchQueued env prepared row

structure SubmitRun where
  created : Option Submission
  locksAccess : Bool
  dispatch : Dispatch

def SubmitRun.rejected (error : RequestError) : SubmitRun :=
  ⟨none, false, none, none, false, .error error⟩

/-- `perform_create`; a row that breaks a foreign key is not committed. -/
def performCreate [PythonRuntime] (catalogue : Catalogue) (env : SubmitEnv) (nextId user : Int)
    (body : Dict) : SubmitRun :=
  match prepareSubmission catalogue env user body with
  | .error error => .rejected error
  | .ok prepared =>
      let row := prepared.row nextId user
      if env.raises .saveSubmission ∨ ¬ catalogue.Refers row then .rejected .raised
      else ⟨some row, prepared.participant.isSome && prepared.autoDisqualified,
        afterCreate env prepared row⟩

/-! ## What is prepared -/

section Prepared

variable [PythonRuntime] {catalogue : Catalogue} {env : SubmitEnv} {nextId user : Int}
  {body : Dict} {prepared : PreparedSubmission}

theorem prepareSubmission_ok
    (h : prepareSubmission catalogue env user body = .ok prepared) :
    ∃ roomId, resolveQuestion catalogue roomId prepared.questionId body =
        .ok ⟨prepared.roomId, prepared.question, prepared.judgeCases, prepared.userInput⟩ ∧
      admitParticipant catalogue user prepared.roomId prepared.autoDisqualified =
        .ok prepared.participant := by
  simp only [prepareSubmission, bind_eq_ok_iff] at h
  obtain ⟨_, -, roomId, -, _, -, _, hresolved, _, hadmitted, -, -, -, -, _, -, _, -, h⟩ := h
  cases h
  exact ⟨roomId, hresolved, hadmitted⟩

theorem resolveQuestion_ok {roomId questionId : Option Int} {resolved : ResolvedQuestion}
    (h : resolveQuestion catalogue roomId questionId body = .ok resolved) :
    (questionId.filter (fun id => id ≠ 0) = none ∧ resolved.question = none) ∨
      ∃ id question, questionId = some id ∧ catalogue.question? id = some question ∧
        resolved = ⟨some question.roomId, some question,
          buildTestcases question.testcaseInput question.expectedOutput,
          .str question.testcaseInput⟩ := by
  unfold resolveQuestion at h
  split at h
  next id hid =>
    right
    obtain ⟨hsome, -⟩ := Option.filter_eq_some_iff.mp hid
    split at h
    · cases h
    next question hquestion =>
      split at h
      next hroom =>
        cases h
        refine ⟨id, question, hsome, hquestion, ?_⟩
        cases roomId with
        | none => rfl
        | some roomId => simpa using hroom
      · cases h
  next hnone =>
    left
    obtain ⟨cases', -, h⟩ := bind_eq_ok_iff.mp h
    cases h
    exact ⟨hnone, rfl⟩

omit [PythonRuntime] in
theorem admitParticipant_isSome {roomId : Option Int} {autoDisqualified : Bool}
    {participant : Option RoomParticipant}
    (h : admitParticipant catalogue user roomId autoDisqualified = .ok participant) :
    participant.isSome = (roomId.filter fun id => id ≠ 0).isSome := by
  unfold admitParticipant at h
  split at h
  next hnone =>
    cases h
    rw [hnone]
    rfl
  next hsome =>
    rw [hsome]
    split at h
    · cases h
    · split at h
      · cases h
      · cases h
        rfl

theorem performCreate_created {row : Submission}
    (h : (performCreate catalogue env nextId user body).created = some row) :
    ∃ prepared, prepareSubmission catalogue env user body = .ok prepared ∧
      row = prepared.row nextId user ∧ catalogue.Refers row ∧
      (performCreate catalogue env nextId user body).dispatch =
        afterCreate env prepared row := by
  unfold performCreate at h ⊢
  split at h
  · cases h
  next prepared hprepared =>
    simp only at h ⊢
    split at h
    · cases h
    next hsaved =>
      cases h
      rw [if_neg hsaved]
      rw [not_or, not_not] at hsaved
      exact ⟨prepared, hprepared, rfl, hsaved.2, rfl⟩

theorem performCreate_rejected
    (h : (performCreate catalogue env nextId user body).created = none) :
    ∃ error, performCreate catalogue env nextId user body = .rejected error := by
  unfold performCreate at h ⊢
  split
  · exact ⟨_, rfl⟩
  next prepared hprepared =>
    simp only [hprepared] at h ⊢
    split
    · exact ⟨_, rfl⟩
    next hsaved =>
      rw [if_neg hsaved] at h
      cases h

/-- A committed row has a question exactly if its cases are the hidden ones; then it has
a room and a participant too. -/
theorem question_of_refers (hprepared : prepareSubmission catalogue env user body = .ok prepared)
    (hrefers : catalogue.Refers (prepared.row nextId user)) :
    (prepared.questionId = none ∧ prepared.question = none) ∨
      ∃ id question, prepared.questionId = some id ∧
        catalogue.question? id = some question ∧ prepared.question = some question ∧
        prepared.judgeCases =
          buildTestcases question.testcaseInput question.expectedOutput ∧
        prepared.participant.isSome ∧ HasContext (prepared.row nextId user) := by
  obtain ⟨roomId, hresolved, hadmitted⟩ := prepareSubmission_ok hprepared
  have hpositive : ∀ id question, catalogue.question? id = some question → id ≠ 0 := by
    intro id question hquestion hzero
    have hid := List.find?_some hquestion
    have hpos := catalogue.question_pos question (List.mem_of_find?_eq_some hquestion)
    simp only [decide_eq_true_eq] at hid
    omega
  obtain ⟨hnone, hquestion⟩ | ⟨id, question, hid, hquestion, heq⟩ :=
    resolveQuestion_ok hresolved
  · left
    refine ⟨?_, hquestion⟩
    cases hid : prepared.questionId with
    | none => rfl
    | some id =>
        obtain ⟨question, hfound⟩ := Option.isSome_iff_exists.mp (hrefers.2 id hid)
        have hne := hpositive id question hfound
        simp [hid, Option.filter, hne] at hnone
  · right
    simp only [ResolvedQuestion.mk.injEq] at heq
    obtain ⟨hroom, hsome, hcases, -⟩ := heq
    have hroomPos : (0 : Int) < question.roomId := by
      refine catalogue.room_pos _ (hrefers.1 _ ?_)
      exact hroom
    have hroomSome : (prepared.roomId.filter fun id => id ≠ 0).isSome := by
      rw [hroom, Option.filter_some, if_pos (by simpa using hroomPos.ne')]
      rfl
    refine ⟨id, question, hid, hquestion, hsome, hcases, ?_, hroomSome, ?_⟩
    · rw [admitParticipant_isSome hadmitted]
      exact hroomSome
    · simp [PreparedSubmission.row, hid, Option.filter, hpositive id question hquestion]

/-! ## Rows for the queue -/

omit [PythonRuntime] in
theorem not_runsInline_of_question {row : Submission} (h : row.questionId ≠ none) :
    ¬ RunsInline env row := fun hruns => h hruns.1

theorem row_afterCreate {row new : Submission} (hinline : ¬ RunsInline env row)
    (h : new ∈ (afterCreate env prepared row).row) :
    new = row ∨ new = { row with
      status := "SYSTEM_ERROR"
      output := some "Submission queue is temporarily unavailable." } := by
  simp only [afterCreate, hinline, if_false] at h
  split at h
  · exact .inl (Option.some.inj h).symm
  unfold dispatchQueued at h
  split at h
  · exact .inl (Option.some.inj h).symm
  split at h
  · split at h
    · exact .inl (Option.some.inj h).symm
    · cases h
  simp only [sendToQueue] at h
  by_cases hraises : env.raises .send ∨ env.raises .flush
  · rw [if_pos hraises] at h
    split at h
    · exact .inl (Option.some.inj h).symm
    · exact .inr (Option.some.inj h).symm
  · rw [if_neg hraises] at h
    exact .inl (Option.some.inj h).symm

omit [PythonRuntime] in
theorem sent_sendToQueue {row : Submission} {message : JobMessage}
    (h : message ∈ (sendToQueue env prepared row).sent) : message = prepared.message row := by
  have hsent : (sendToQueue env prepared row).sent =
      if env.raises .send then none else some (prepared.message row) := by
    simp only [sendToQueue]
    by_cases hraises : env.raises .send ∨ env.raises .flush
    · rw [if_pos hraises]
      split <;> rfl
    · rw [if_neg hraises]
  rw [hsent] at h
  split at h
  · cases h
  · exact (Option.some.inj h).symm

theorem sent_afterCreate {row : Submission} {message : JobMessage}
    (h : message ∈ (afterCreate env prepared row).sent) : message = prepared.message row := by
  unfold afterCreate at h
  split at h
  · cases h
  split at h
  · simp only [dispatchInline] at h
    split at h
    · cases h
    split at h
    · cases h
    · split at h <;> cases h
  unfold dispatchQueued at h
  split at h
  · cases h
  split at h
  · split at h <;> cases h
  · exact sent_sendToQueue h

end Prepared

end JudgeVortex.CoreApi
