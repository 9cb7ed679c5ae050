import JudgeVortex.System.InlineAgreement
import JudgeVortex.System.RetryBound

/-!
# What a student reads

The responses of `core_api/views.py` to a student, with the serializers that they use,
and the event `submission.update`.
-/

namespace JudgeVortex.System

open JudgeVortex.CoreApi JudgeVortex.Executor JudgeVortex.Python JudgeVortex.Shared

open JudgeVortex.Executor.Scripts (caseJson)

structure DescribedQuestion extends ExamQuestion where
  title : String
  description : String
  visibleTestcaseInput : String
  visibleExpectedOutput : String

structure SubmissionRow extends Submission where
  submittedAt : String

structure ExamRoom where
  id : Int
  title : String
  teacherName : String
  startTime : Option String
  deadline : String
  questionsToAssign : Nat

def studentExamQuestion (question : DescribedQuestion) : Json :=
  .obj [("id", .int question.id), ("title", .str question.title),
    ("description", .str question.description), ("total_marks", .int question.totalMarks),
    ("testcase_count",
      .int (getTestcaseCount question.testcaseInput question.expectedOutput)),
    ("visible_testcase_count", .int (getTestcaseCount question.visibleTestcaseInput
      question.visibleExpectedOutput)),
    ("visible_testcases", .arr ((buildTestcases question.visibleTestcaseInput
      question.visibleExpectedOutput).map caseJson))]

def submissionData (username : String) (row : SubmissionRow) : Json :=
  .obj [("id", .int row.id), ("user", .int row.userId), ("username", .str username),
    ("room", countValue row.roomId), ("question", countValue row.questionId),
    ("code", .str row.code), ("files", .arr (row.files.map fileJson)),
    ("entry_file", .str row.entryFile), ("language", .str row.language),
    ("status", .str row.status), ("output", outputValue row.output),
    ("execution_time_ms", countValue row.executionTimeMs),
    ("submitted_at", .str row.submittedAt), ("awarded_marks", .int row.awardedMarks),
    ("passed_testcases", .int row.passedTestcases),
    ("total_testcases", .int row.totalTestcases)]

/-- The event that `finalize_submission_result` emits after it saved the row. -/
def submissionUpdate (row : Submission) : Json :=
  .obj [("schema_version", .int 1), ("event_type", .str "submission.update"),
    ("submission_id", .int row.id), ("room_id", countValue row.roomId),
    ("question_id", countValue row.questionId), ("status", .str row.status),
    ("output", outputValue row.output),
    ("execution_time", countValue row.executionTimeMs),
    ("awarded_marks", .int row.awardedMarks),
    ("passed_testcases", .int row.passedTestcases),
    ("total_testcases", .int row.totalTestcases)]

/-- What the responses to one student depend on; rows stand in the order of creation. -/
structure Portal where
  userId : Int
  username : String
  room : ExamRoom
  participant : Option RoomParticipant
  questions : List DescribedQuestion
  rows : List SubmissionRow

namespace Portal

variable (p : Portal)

def assignedQuestions (participant : RoomParticipant) : List DescribedQuestion :=
  p.questions.filter fun question => question.id ∈ participant.assignedQuestions

def solvedQuestionIds (participant : RoomParticipant) : List Int :=
  let passed := p.rows.filter fun row => row.roomId = some participant.roomId ∧
    row.userId = participant.studentId ∧ row.status = "PASSED"
  let assigned := (p.assignedQuestions participant).map fun question => question.id
  ((passed.filterMap fun row => row.questionId).filter fun id => id ∈ assigned).dedup

def roomFields (assigned : List DescribedQuestion) (solved : List Int) : Dict :=
  [("room_title", .str p.room.title), ("room_id", .int p.room.id),
    ("teacher_name", .str p.room.teacherName),
    ("start_time", outputValue p.room.startTime), ("deadline", .str p.room.deadline),
    ("assigned_questions", .arr (assigned.map studentExamQuestion)),
    ("solved_question_ids", .arr (solved.map .int))]

def accessLocked : Json :=
  .obj [("error", .str "Your access to this exam room has been locked.")]

/--
`join_room_view` on an active room.  `late` tells whether the deadline passed, and
`sample` is the sample of the room's questions, by index.
-/
def joinRoom (late : Bool) (sample : List Nat) : Json :=
  match p.participant with
  | some participant =>
      if participant.accessLocked then accessLocked
      else .obj (("message", .str "Resumed room successfully!") ::
        p.roomFields (p.assignedQuestions participant) (p.solvedQuestionIds participant))
  | none =>
      if late then .obj [("error", .str "The deadline to join this exam has passed.")]
      else
        let questions := p.questions.filter fun question => question.roomId = p.room.id
        if questions.length < p.room.questionsToAssign then
          .obj [("error",
            .str "The teacher has not added enough questions to the pool yet.")]
        else
          .obj (("message", .str "Successfully joined room!") ::
            p.roomFields (sample.filterMap fun i => questions[i]?) [])

def roomState : Json :=
  match p.participant with
  | none => .obj [("error", .str "You are not a participant in this exam room.")]
  | some participant =>
      if participant.accessLocked then accessLocked
      else .obj (p.roomFields (p.assignedQuestions participant)
        (p.solvedQuestionIds participant))

def ownRows : List SubmissionRow := p.rows.filter fun row => row.userId = p.userId

def submissionList : Json := .arr (p.ownRows.reverse.map (submissionData p.username))

/-- `SubmissionDetailView`; nothing is found where it answers 404. -/
def submissionDetail (id : Int) : Option Json :=
  (p.ownRows.find? fun row => row.id = id).map (submissionData p.username)

end Portal

theorem submissionUpdate_output {a b : Submission}
    (h : submissionUpdate a = submissionUpdate b) : a.output = b.output := by
  have hvalue : outputValue a.output = outputValue b.output := by
    simp only [submissionUpdate, Json.obj.injEq, List.cons.injEq, Prod.mk.injEq] at h
    exact h.2.2.2.2.2.2.1.2
  cases ha : a.output <;> cases hb : b.output <;> simp_all [outputValue]

/-! ## One question in two versions -/

structure HiddenTexts where
  testcaseInput : String
  expectedOutput : String

def HiddenTexts.cases (texts : HiddenTexts) : List TestCase :=
  buildTestcases texts.testcaseInput texts.expectedOutput

def DescribedQuestion.withHidden (question : DescribedQuestion) (texts : HiddenTexts) :
    DescribedQuestion :=
  { question with
    testcaseInput := texts.testcaseInput
    expectedOutput := texts.expectedOutput }

def putQuestion (question other : DescribedQuestion) : DescribedQuestion :=
  if other.id = question.id then question else other

def putRow (graded : Submission) (row : SubmissionRow) : SubmissionRow :=
  if row.id = graded.id then { row with toSubmission := graded } else row

def Portal.holding (p : Portal) (question : DescribedQuestion) (graded : Submission) :
    Portal :=
  { p with
    questions := p.questions.map (putQuestion question)
    rows := p.rows.map (putRow graded) }

structure StudentReads where
  join : Bool → List Nat → Json
  roomState : Json
  submissionList : Json
  submissionDetail : Int → Option Json
  update : Json

def Portal.reads (p : Portal) (question : DescribedQuestion) (graded : Submission) :
    StudentReads :=
  let p := p.holding question graded
  ⟨p.joinRoom, p.roomState, p.submissionList, p.submissionDetail,
    submissionUpdate graded⟩

/-! ## Tables that show alike -/

structure ShownAlike (a b : DescribedQuestion) : Prop where
  view : studentExamQuestion a = studentExamQuestion b
  id : a.id = b.id
  roomId : a.roomId = b.roomId

theorem ShownAlike.refl (question : DescribedQuestion) : ShownAlike question question :=
  ⟨rfl, rfl, rfl⟩

theorem shownAlike_withHidden (question : DescribedQuestion) {texts₁ texts₂ : HiddenTexts}
    (hcount : texts₁.cases.length = texts₂.cases.length) :
    ShownAlike (question.withHidden texts₁) (question.withHidden texts₂) := by
  refine ⟨?_, rfl, rfl⟩
  have hcases : getTestcaseCount texts₁.testcaseInput texts₁.expectedOutput =
      getTestcaseCount texts₂.testcaseInput texts₂.expectedOutput := hcount
  simp only [studentExamQuestion, DescribedQuestion.withHidden, hcases]

theorem ShownAlike.putQuestion {a b : DescribedQuestion} (h : ShownAlike a b)
    (questions : List DescribedQuestion) :
    List.Forall₂ ShownAlike (questions.map (putQuestion a))
      (questions.map (putQuestion b)) := by
  rw [List.forall₂_map_left_iff, List.forall₂_map_right_iff, List.forall₂_same]
  intro other _
  unfold System.putQuestion
  rw [h.id]
  split
  · exact h
  · exact .refl other

theorem forall₂_getElem? {α β : Type*} {R : α → β → Prop} {xs : List α} {ys : List β}
    (h : List.Forall₂ R xs ys) (i : Nat) : Option.Rel R (xs[i]?) (ys[i]?) := by
  induction h generalizing i with
  | nil => exact .none
  | cons hhead _ ih =>
      cases i with
      | zero => exact .some hhead
      | succ i => exact ih i

theorem map_eq_of_forall₂ {α β : Type*} {R : α → α → Prop} {f : α → β} {xs ys : List α}
    (h : List.Forall₂ R xs ys) (hf : ∀ a b, R a b → f a = f b) : xs.map f = ys.map f := by
  induction h with
  | nil => rfl
  | cons hhead _ ih => rw [List.map_cons, List.map_cons, hf _ _ hhead, ih]

/-- Two portals that differ only in questions that show alike. -/
structure PortalsAlike (p q : Portal) : Prop where
  room : p.room = q.room
  participant : p.participant = q.participant
  rows : p.rows = q.rows
  userId : p.userId = q.userId
  username : p.username = q.username
  questions : List.Forall₂ ShownAlike p.questions q.questions

namespace PortalsAlike

variable {p q : Portal}

theorem assignedQuestions (h : PortalsAlike p q) (participant : RoomParticipant) :
    List.Forall₂ ShownAlike (p.assignedQuestions participant)
      (q.assignedQuestions participant) := by
  apply List.rel_filter _ h.questions
  intro a b hab
  simp only [hab.id]

theorem solvedQuestionIds (h : PortalsAlike p q) (participant : RoomParticipant) :
    p.solvedQuestionIds participant = q.solvedQuestionIds participant := by
  have hids : (p.assignedQuestions participant).map (fun question => question.id) =
      (q.assignedQuestions participant).map fun question => question.id :=
    map_eq_of_forall₂ (h.assignedQuestions participant) fun _ _ hab => hab.id
  simp only [Portal.solvedQuestionIds, h.rows, hids]

theorem roomFields (h : PortalsAlike p q) {assigned₁ assigned₂ : List DescribedQuestion}
    (hassigned : List.Forall₂ ShownAlike assigned₁ assigned₂) (solved : List Int) :
    p.roomFields assigned₁ solved = q.roomFields assigned₂ solved := by
  have hshown : assigned₁.map studentExamQuestion = assigned₂.map studentExamQuestion :=
    map_eq_of_forall₂ hassigned fun _ _ hab => hab.view
  simp only [Portal.roomFields, h.room, hshown]

theorem joinRoom (h : PortalsAlike p q) (late : Bool) (sample : List Nat) :
    p.joinRoom late sample = q.joinRoom late sample := by
  unfold Portal.joinRoom
  rw [h.participant]
  cases q.participant with
  | some participant =>
      simp only [h.roomFields (h.assignedQuestions participant),
        h.solvedQuestionIds participant]
  | none =>
      have hpool : List.Forall₂ ShownAlike
          (p.questions.filter fun question => question.roomId = q.room.id)
          (q.questions.filter fun question => question.roomId = q.room.id) := by
        apply List.rel_filter _ h.questions
        intro a b hab
        simp only [hab.roomId]
      have hindices : List.Forall₂ Eq sample sample :=
        List.forall₂_same.mpr fun _ _ => rfl
      have hsample := List.rel_filterMap (R := Eq) (P := ShownAlike) (fun i j hij => by
        subst hij
        exact forall₂_getElem? hpool i) hindices
      simp only [h.room, hpool.length_eq]
      rw [h.roomFields hsample]

theorem roomState (h : PortalsAlike p q) : p.roomState = q.roomState := by
  unfold Portal.roomState
  rw [h.participant]
  cases q.participant with
  | none => rfl
  | some participant =>
      simp only [h.roomFields (h.assignedQuestions participant),
        h.solvedQuestionIds participant]

theorem ownRows (h : PortalsAlike p q) : p.ownRows = q.ownRows := by
  simp only [Portal.ownRows, h.rows, h.userId]

end PortalsAlike

theorem reads_withHidden (p : Portal) (question : DescribedQuestion) (row : Submission)
    {texts₁ texts₂ : HiddenTexts} (hcount : texts₁.cases.length = texts₂.cases.length) :
    p.reads (question.withHidden texts₁) row = p.reads (question.withHidden texts₂) row := by
  have halike : PortalsAlike (p.holding (question.withHidden texts₁) row)
      (p.holding (question.withHidden texts₂) row) :=
    ⟨rfl, rfl, rfl, rfl, rfl,
      (shownAlike_withHidden question hcount).putQuestion p.questions⟩
  have hjoin : (p.holding (question.withHidden texts₁) row).joinRoom =
      (p.holding (question.withHidden texts₂) row).joinRoom := by
    funext late sample
    exact halike.joinRoom late sample
  rw [Portal.reads, hjoin, halike.roomState]
  rfl

end JudgeVortex.System
