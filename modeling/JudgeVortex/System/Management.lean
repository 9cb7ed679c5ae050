import JudgeVortex.CoreApi.SubmitWrites
import JudgeVortex.Foundation.Tables
import JudgeVortex.System.StudentView
import Mathlib.Data.List.Sort

/-!
# The room-management endpoints

The views of `core_api/views.py` that a teacher manages rooms with, over the tables of
`core_api/models.py`: the lookups of every request, its writes and its response.
Parsing of a body, the text of a time and the users' names are parameters.
-/

namespace JudgeVortex.System

open JudgeVortex.CoreApi JudgeVortex.Foundation JudgeVortex.Python JudgeVortex.Shared

open JudgeVortex.Executor.Scripts (caseJson)

/-! ## The tables -/

structure RoomRow where
  id : Int
  teacherId : Int
  roomCode : String
  title : String
  startTime : Option Time
  joinDeadline : Time
  questionsToAssign : Int
  createdAt : Time
  deriving DecidableEq

structure EnrolledParticipant extends StoredParticipant where
  joinedAt : Time

structure SnapshotRow extends WorkspaceSnapshot where
  id : Int
  roomId : Int
  studentId : Int
  questionId : Int
  updatedAt : Time

structure EventDraft where
  eventType : String
  message : String
  severity : String := "info"
  roomId : Option Int := none
  questionId : Option Int := none
  submissionId : Option Int := none
  actorId : Option Int := none
  participantId : Option Int := none
  metadata : Dict := []

structure EventRow extends EventDraft where
  id : Int
  createdAt : Time

structure ExamTables where
  rooms : Table RoomRow RoomRow.id
  questions : Table DescribedQuestion fun question => question.id
  participants : List EnrolledParticipant
  submissions : Table TimedSubmission fun row => row.id
  snapshots : Table SnapshotRow SnapshotRow.id
  events : Table EventRow EventRow.id

def ExamTables.empty : ExamTables where
  rooms := .empty
  questions := .empty
  participants := []
  submissions := .empty
  snapshots := .empty
  events := .empty

namespace ExamTables

variable (db : ExamTables)

def Teaches (teacherId roomId : Int) : Prop :=
  ∃ room ∈ db.rooms.rows, room.id = roomId ∧ room.teacherId = teacherId

instance (teacherId roomId : Int) : Decidable (db.Teaches teacherId roomId) :=
  inferInstanceAs (Decidable (∃ room ∈ db.rooms.rows, _))

def questionsOf (roomId : Int) : List DescribedQuestion :=
  db.questions.rows.filter fun question => question.roomId = roomId

def questionTitle (id : Int) : Option String :=
  (db.questions.get? id).map fun question => question.title

def assignedQuestions (participant : EnrolledParticipant) : List DescribedQuestion :=
  db.questions.rows.filter fun question => question.id ∈ participant.assignedQuestions

/-! ## Writes -/

def insertQuestion (make : Int → DescribedQuestion) (hmake : ∀ id, (make id).id = id) :
    ExamTables :=
  { db with questions := db.questions.insert make hmake }

def saveQuestion (question : DescribedQuestion) : ExamTables :=
  { db with questions := db.questions.replace question }

def saveRow (room : RoomRow) : ExamTables := { db with rooms := db.rooms.replace room }

def saveParticipant (roomId studentId : Int) (save : Save) : ExamTables :=
  { db with
    participants := db.participants.map fun participant =>
      if participant.roomId = roomId ∧ participant.studentId = studentId then
        { participant with
          toStoredParticipant := participant.withRow (participant.row.save save) }
      else participant }

structure Gone where
  room : Int → Bool
  question : Int → Bool

namespace Gone

variable (gone : Gone)

def Submission (row : TimedSubmission) : Prop :=
  row.roomId.any gone.room ∨ row.questionId.any gone.question

instance (row : TimedSubmission) : Decidable (gone.Submission row) :=
  inferInstanceAs (Decidable (_ ∨ _))

def Snapshot (row : SnapshotRow) : Prop := gone.room row.roomId ∨ gone.question row.questionId

instance (row : SnapshotRow) : Decidable (gone.Snapshot row) :=
  inferInstanceAs (Decidable (_ ∨ _))

def unassign (participant : EnrolledParticipant) : EnrolledParticipant :=
  { participant with
    assignedQuestions := participant.assignedQuestions.filter fun id => ! gone.question id }

/-- An event outlives what it is about (`SET_NULL`). -/
def unlink (submissionGone : Int → Bool) (event : EventRow) : EventRow :=
  { event with
    roomId := event.roomId.filter fun id => ! gone.room id
    questionId := event.questionId.filter fun id => ! gone.question id
    submissionId := event.submissionId.filter fun id => ! submissionGone id }

end Gone

def SubmissionGone (gone : Gone) (id : Int) : Prop :=
  ∃ row ∈ db.submissions.rows, row.id = id ∧ gone.Submission row

instance (gone : Gone) (id : Int) : Decidable (db.SubmissionGone gone id) :=
  inferInstanceAs (Decidable (∃ row ∈ db.submissions.rows, _))

/-- The `on_delete` rules of `core_api/models.py`. -/
def cascade (gone : Gone) : ExamTables where
  rooms := db.rooms.restrict fun room => ! gone.room room.id
  questions := db.questions.restrict fun question => ! gone.question question.id
  participants := (db.participants.filter fun participant =>
    ! gone.room participant.roomId).map gone.unassign
  submissions := db.submissions.restrict fun row => ¬ gone.Submission row
  snapshots := db.snapshots.restrict fun row => ¬ gone.Snapshot row
  events := db.events.modify (gone.unlink fun id => db.SubmissionGone gone id) fun _ => rfl

def goneWithQuestion (id : Int) : Gone where
  room _ := false
  question other := other = id

def goneWithRoom (id : Int) : Gone where
  room other := other = id
  question other := ∃ question ∈ db.questions.rows, question.id = other ∧ question.roomId = id

def deleteQuestion (id : Int) : ExamTables := db.cascade (goneWithQuestion id)

def deleteRoom (id : Int) : ExamTables := db.cascade (db.goneWithRoom id)

end ExamTables

/-! ## What a request meets besides the tables -/

structure NewRoom where
  title : String
  questionsToAssign : Option Int
  startTime : Option Time
  joinDeadline : Time

structure RoomPatch where
  title : Option String
  questionsToAssign : Option Int
  startTime : Option (Option Time)
  joinDeadline : Option Time

/-- The fields of `ExamQuestionSerializer` that a body can set: `room` is read only. -/
structure NewQuestion where
  title : String
  description : String
  visibleTestcaseInput : Option String
  visibleExpectedOutput : Option String
  testcaseInput : Option String
  expectedOutput : String
  totalMarks : Option Int

structure QuestionPatch where
  title : Option String
  description : Option String
  visibleTestcaseInput : Option String
  visibleExpectedOutput : Option String
  testcaseInput : Option String
  expectedOutput : Option String
  totalMarks : Option Int

/-- The clock, the codes that are drawn in turn, the users, how times are written, and the
checks that the framework makes of the fields of a body. -/
structure ManagementEnv where
  now : Time
  codes : ℕ → String
  username : Int → String
  sortsBefore : String → String → Bool
  isoformat : Time → String
  apiTime : Time → String
  activeWindow : ℕ
  parseRoom : Json → Except Json NewRoom
  parseRoomPatch : Json → Except Json RoomPatch
  parseQuestion : Json → Except Json NewQuestion
  parseQuestionPatch : Json → Except Json QuestionPatch

structure Response where
  status : ℕ
  data : Json

def notFound (model : String) : Response :=
  ⟨404, .obj [("detail", .str ("No " ++ model ++ " matches the given query."))]⟩

def raised : Response := ⟨500, .null⟩

def message (text : String) : Response := ⟨200, .obj [("message", .str text)]⟩

/-! ## Serializers -/

section Serializers

variable (env : ManagementEnv)

def roomData (totalQuestions : ℕ) (room : RoomRow) : Json :=
  .obj [("id", .int room.id), ("title", .str room.title), ("room_code", .str room.roomCode),
    ("questions_to_assign", .int room.questionsToAssign),
    ("start_time", outputValue (room.startTime.map env.apiTime)),
    ("join_deadline", .str (env.apiTime room.joinDeadline)),
    ("created_at", .str (env.apiTime room.createdAt)),
    ("total_questions", .int totalQuestions),
    ("teacher_username", .str (env.username room.teacherId))]

def examQuestion (question : DescribedQuestion) : Json :=
  .obj [("id", .int question.id), ("room", .int question.roomId),
    ("title", .str question.title), ("description", .str question.description),
    ("visible_testcase_input", .str question.visibleTestcaseInput),
    ("visible_expected_output", .str question.visibleExpectedOutput),
    ("testcase_input", .str question.testcaseInput),
    ("expected_output", .str question.expectedOutput),
    ("total_marks", .int question.totalMarks),
    ("testcase_count",
      .int (getTestcaseCount question.testcaseInput question.expectedOutput)),
    ("testcases",
      .arr ((buildTestcases question.testcaseInput question.expectedOutput).map caseJson)),
    ("visible_testcase_count", .int (getTestcaseCount question.visibleTestcaseInput
      question.visibleExpectedOutput)),
    ("visible_testcases", .arr ((buildTestcases question.visibleTestcaseInput
      question.visibleExpectedOutput).map caseJson))]

def usernameField (field : String) (userId : Option Int) : Dict :=
  (userId.map fun id => (field, Json.str (env.username id))).toList

def eventData (event : EventRow) : Json :=
  .obj ([("id", .int event.id), ("room", countValue event.roomId),
    ("question", countValue event.questionId),
    ("submission", countValue event.submissionId), ("actor", countValue event.actorId)] ++
    usernameField env "actor_username" event.actorId ++
    [("participant", countValue event.participantId)] ++
    usernameField env "participant_username" event.participantId ++
    [("event_type", .str event.eventType), ("severity", .str event.severity),
      ("message", .str event.message), ("metadata", .obj event.metadata),
      ("created_at", .str (env.apiTime event.createdAt))])

def validateRoom (startTime joinDeadline : Option Time) (questionsToAssign : Option Int) :
    Option Response :=
  if questionsToAssign.any (· < 1) then
    some ⟨400, .obj [("questions_to_assign",
      .arr [.str "Questions to assign must be at least 1."])]⟩
  else
    match startTime, joinDeadline with
    | some start, some deadline =>
        if deadline ≤ start then
          some ⟨400, .obj [("join_deadline",
            .arr [.str "Exam end time must be later than the exam start time."])]⟩
        else none
    | _, _ => none

def participantData (titled : List DescribedQuestion) (participant : EnrolledParticipant) :
    Json :=
  .obj [("student_id", .int participant.studentId),
    ("username", .str (env.username participant.studentId)),
    ("joined_at", .str (env.isoformat participant.joinedAt)),
    ("access_locked", .bool participant.accessLocked),
    ("access_locked_at", outputValue (participant.accessLockedAt.map env.isoformat)),
    ("is_active",
      .bool (participantIsActive env.activeWindow env.now (some participant.row))),
    ("last_presence_at", outputValue (participant.lastPresenceAt.map env.isoformat)),
    ("assigned_questions", .arr (titled.map fun question =>
      .obj [("id", .int question.id), ("title", .str question.title)]))]

def roomSubmissionData (questionTitle : Option String) (row : TimedSubmission) : Json :=
  .obj [("id", .int row.id), ("student_id", .int row.userId),
    ("student_name", .str (env.username row.userId)),
    ("question_id", countValue row.questionId), ("question_title", outputValue questionTitle),
    ("status", .str row.status), ("total_score", .int row.awardedMarks),
    ("submitted_at", .str (env.isoformat row.submittedAt)), ("language", .str row.language),
    ("code", .str row.code), ("files", .arr (row.files.map fileJson)),
    ("entry_file", .str row.entryFile), ("output", outputValue row.output),
    ("execution_time_ms", countValue row.executionTimeMs),
    ("passed_testcases", .int row.passedTestcases),
    ("total_testcases", .int row.totalTestcases)]

def snapshotData (questionTitle : Option String) (row : SnapshotRow) : Json :=
  .obj [("id", .int row.id), ("student_id", .int row.studentId),
    ("student_name", .str (env.username row.studentId)), ("question_id", .int row.questionId),
    ("question_title", outputValue questionTitle), ("language", .str row.language),
    ("code", .str row.code), ("files", .arr (row.files.map fileJson)),
    ("entry_file", .str row.entryFile), ("updated_at", .str (env.isoformat row.updatedAt)),
    ("source", .str "snapshot")]

end Serializers

/-! ## The events that the views record -/

section Events

variable (env : ManagementEnv) (user : Int)

def ExamTables.recordExamEvent (db : ExamTables) (event : EventDraft) : ExamTables :=
  { db with
    events := db.events.insert (fun id => ⟨event, id, env.now⟩) fun _ => rfl }

def roomEvent (eventType done : String) (room : RoomRow) : EventDraft where
  eventType := eventType
  message := "Room " ++ room.roomCode ++ " " ++ done ++ "."
  roomId := room.id
  actorId := user
  metadata := [("title", .str room.title),
    ("questions_to_assign", .int room.questionsToAssign),
    ("start_time", outputValue (room.startTime.map env.isoformat)),
    ("join_deadline", .str (env.isoformat room.joinDeadline))]

def roomDeletedEvent (room : RoomRow) : EventDraft where
  eventType := "room.deleted"
  message := "Room " ++ room.roomCode ++ " deleted."
  severity := "warning"
  roomId := room.id
  actorId := user
  metadata := [("title", .str room.title)]

def questionMetadata (question : DescribedQuestion) : Dict :=
  [("total_marks", .int question.totalMarks),
    ("hidden_testcases",
      .int (getTestcaseCount question.testcaseInput question.expectedOutput))]

def questionEvent (eventType done : String) (metadata : Dict) (question : DescribedQuestion) :
    EventDraft where
  eventType := eventType
  message := "Question " ++ question.title ++ " " ++ done ++ "."
  roomId := question.roomId
  questionId := question.id
  actorId := user
  metadata := metadata

def participantEvent (eventType severity done reason : String) (room : RoomRow)
    (studentId : Int) : EventDraft where
  eventType := eventType
  message := env.username studentId ++ " was " ++ done ++ " room " ++ room.roomCode ++ "."
  severity := severity
  roomId := room.id
  actorId := user
  participantId := studentId
  metadata := [("reason", .str reason)]

end Events

/-! ## The views -/

section Views

variable (env : ManagementEnv) (user : Int) (db : ExamTables)

def ExamTables.totalQuestions (roomId : Int) : ℕ := (db.questionsOf roomId).length

/-- `get_object_or_404(ExamRoom, id=room_id, teacher=request.user)` -/
def ExamTables.room? (roomId : Int) : Option RoomRow :=
  db.rooms.rows.find? fun room => room.id = roomId ∧ room.teacherId = user

/-- `get_object_or_404(ExamQuestion, id=q_id, room_id=room_id, room__teacher=request.user)` -/
def ExamTables.question? (roomId questionId : Int) : Option DescribedQuestion :=
  db.questions.rows.find? fun question =>
    question.id = questionId ∧ question.roomId = roomId ∧ db.Teaches user question.roomId

def ExamTables.participant? (roomId studentId : Int) : Option EnrolledParticipant :=
  db.participants.find? fun participant =>
    participant.roomId = roomId ∧ participant.studentId = studentId

abbrev View := ExamTables × Response

def inRoom (roomId : Int) (view : RoomRow → View) : View :=
  match db.room? user roomId with
  | none => (db, notFound "ExamRoom")
  | some room => view room

def onQuestion (roomId questionId : Int) (view : DescribedQuestion → View) : View :=
  match db.question? user roomId questionId with
  | none => (db, notFound "ExamQuestion")
  | some question => view question

def onParticipant (roomId studentId : Int) (view : RoomRow → EnrolledParticipant → View) :
    View :=
  inRoom user db roomId fun room =>
    match db.participant? room.id studentId with
    | none => (db, notFound "RoomParticipant")
    | some participant => view room participant

def newestFirst {α : Type} (time : α → Time) (rows : List α) : List α :=
  rows.insertionSort fun a b => time b ≤ time a

def listRooms : View :=
  let rooms := newestFirst RoomRow.createdAt
    (db.rooms.rows.filter fun room => room.teacherId = user)
  (db, ⟨200, .arr (rooms.map fun room => roomData env (db.totalQuestions room.id) room)⟩)

/--
`ExamRoom.save` of a new room: a code that another room has is refused, and the next one is
drawn.  The refused insertion used up an id.
-/
def saveNewRoom (draft : RoomRow) : (attempts draw : ℕ) → ExamTables →
    ExamTables × Option RoomRow
  | 0, _, db => (db, none)
  | attempts + 1, draw, db =>
      if ∃ other ∈ db.rooms.rows, other.roomCode = env.codes draw then
        saveNewRoom draft attempts (draw + 1) { db with rooms := db.rooms.skip }
      else
        let make (id : Int) : RoomRow := { draft with id := id, roomCode := env.codes draw }
        ({ db with rooms := db.rooms.insert make fun _ => rfl }, some (make db.rooms.next))

def maxRoomCodeGenerationAttempts : ℕ := 12

def NewRoom.draft (fields : NewRoom) : RoomRow where
  id := 0
  teacherId := user
  roomCode := ""
  title := fields.title
  startTime := fields.startTime
  joinDeadline := fields.joinDeadline
  questionsToAssign := fields.questionsToAssign.getD 3
  createdAt := env.now

def createRoom (body : Json) : View :=
  match env.parseRoom body with
  | .error errors => (db, ⟨400, errors⟩)
  | .ok fields =>
      match validateRoom fields.startTime (some fields.joinDeadline)
        fields.questionsToAssign with
      | some refusal => (db, refusal)
      | none =>
          match saveNewRoom env (fields.draft env user) maxRoomCodeGenerationAttempts 0 db with
          | (db, none) => (db, raised)
          | (db, some room) =>
              (db.recordExamEvent env (roomEvent env user "room.created" "created" room),
                ⟨201, roomData env (db.totalQuestions room.id) room⟩)

def roomDetail (pk : Int) : View :=
  inRoom user db pk fun room =>
    (db, ⟨200, roomData env (db.totalQuestions room.id) room⟩)

/-- What the room is when the patch is saved; its teacher and its code are not fields. -/
def RoomRow.patched (room : RoomRow) (patch : RoomPatch) : RoomRow :=
  { room with
    title := patch.title.getD room.title
    questionsToAssign := patch.questionsToAssign.getD room.questionsToAssign
    startTime := patch.startTime.getD room.startTime
    joinDeadline := patch.joinDeadline.getD room.joinDeadline }

def patchRoom (pk : Int) (body : Json) : View :=
  inRoom user db pk fun room =>
    match env.parseRoomPatch body with
    | .error errors => (db, ⟨400, errors⟩)
    | .ok patch =>
        match validateRoom (patch.startTime.join.or room.startTime)
          (patch.joinDeadline.or (some room.joinDeadline))
          (patch.questionsToAssign.or (some room.questionsToAssign)) with
        | some refusal => (db, refusal)
        | none =>
            let updated := room.patched patch
            let db := (db.saveRow updated).recordExamEvent env
              (roomEvent env user "room.updated" "updated" updated)
            (db, ⟨200, roomData env (db.totalQuestions updated.id) updated⟩)

def deleteRoom (pk : Int) : View :=
  inRoom user db pk fun room =>
    ((db.recordExamEvent env (roomDeletedEvent user room)).deleteRoom room.id,
      message "Exam Room and all related data deleted successfully.")

def listQuestions (roomId : Int) : View :=
  let questions := db.questions.rows.filter fun question =>
    question.roomId = roomId ∧ db.Teaches user question.roomId
  (db, ⟨200, .arr (questions.map examQuestion)⟩)

def NewQuestion.row (fields : NewQuestion) (roomId id : Int) : DescribedQuestion where
  id := id
  roomId := roomId
  totalMarks := fields.totalMarks.getD 10
  testcaseInput := fields.testcaseInput.getD ""
  expectedOutput := fields.expectedOutput
  title := fields.title
  description := fields.description
  visibleTestcaseInput := fields.visibleTestcaseInput.getD ""
  visibleExpectedOutput := fields.visibleExpectedOutput.getD ""

def createQuestion (roomId : Int) (body : Json) : View :=
  match env.parseQuestion body with
  | .error errors => (db, ⟨400, errors⟩)
  | .ok fields =>
      match db.room? user roomId with
      | none => (db, ⟨400, .arr [.str "Room not found or you don't have permission."]⟩)
      | some room =>
          let question := fields.row room.id db.questions.next
          let event := questionEvent user "question.created"
            ("added to room " ++ room.roomCode) (questionMetadata question) question
          ((db.insertQuestion (fields.row room.id) fun _ => rfl).recordExamEvent env event,
            ⟨201, examQuestion question⟩)

/-- What the question is when the patch is saved; its room is not a field. -/
def patchedQuestion (question : DescribedQuestion) (patch : QuestionPatch) :
    DescribedQuestion :=
  { question with
    title := patch.title.getD question.title
    description := patch.description.getD question.description
    visibleTestcaseInput := patch.visibleTestcaseInput.getD question.visibleTestcaseInput
    visibleExpectedOutput := patch.visibleExpectedOutput.getD question.visibleExpectedOutput
    testcaseInput := patch.testcaseInput.getD question.testcaseInput
    expectedOutput := patch.expectedOutput.getD question.expectedOutput
    totalMarks := patch.totalMarks.getD question.totalMarks }

def patchQuestion (roomId questionId : Int) (body : Json) : View :=
  onQuestion user db roomId questionId fun question =>
    match env.parseQuestionPatch body with
    | .error errors => (db, ⟨400, errors⟩)
    | .ok patch =>
        let updated := patchedQuestion question patch
        let event := questionEvent user "question.updated" "updated"
          (questionMetadata updated) updated
        ((db.saveQuestion updated).recordExamEvent env event, ⟨200, examQuestion updated⟩)

def deleteQuestion (roomId questionId : Int) : View :=
  onQuestion user db roomId questionId fun question =>
    let event := questionEvent user "question.deleted" "deleted" [] question
    ((db.recordExamEvent env event).deleteQuestion question.id, ⟨204, .null⟩)

def listParticipants (roomId : Int) : View :=
  inRoom user db roomId fun room =>
    let inside := (db.participants.filter fun participant =>
      participant.roomId = room.id).insertionSort fun a b =>
        env.sortsBefore (env.username a.studentId) (env.username b.studentId)
    let listed := inside.filter fun participant =>
      participant.accessLocked ∨
        participantIsActive env.activeWindow env.now (some participant.row)
    (db, ⟨200, .arr (listed.map fun participant =>
      participantData env (db.assignedQuestions participant) participant)⟩)

def kickParticipant (roomId studentId : Int) : View :=
  onParticipant user db roomId studentId fun room participant =>
    let db :=
      match lockParticipantAccess env.now participant.row with
      | none => db
      | some save => (db.saveParticipant room.id studentId save).recordExamEvent env
          (participantEvent env user "participant.locked" "warning" "removed from"
            "teacher_kick" room studentId)
    (db, message "Student blocked successfully.")

def ExamTables.saveIfSome (roomId studentId : Int) (save? : Option Save) : ExamTables :=
  match save? with
  | none => db
  | some save => db.saveParticipant roomId studentId save

def patchParticipantView [PythonRuntime] (roomId studentId : Int) (body : Json) : View :=
  onParticipant user db roomId studentId fun room participant =>
    match body with
    | .obj fields =>
        let accessLocked := fieldD fields "access_locked" .null
        let saved := db.saveIfSome room.id studentId
          (patchParticipant accessLocked env.now participant.row)
        if shouldLock accessLocked then
          (saved.recordExamEvent env (participantEvent env user "participant.locked" "warning"
            "blocked in" "teacher_toggle" room studentId),
            message "Student blocked successfully.")
        else
          (saved.recordExamEvent env (participantEvent env user "participant.unlocked" "info"
            "unblocked in" "teacher_toggle" room studentId),
            message "Student unblocked successfully.")
    | _ => (db, raised)

def listSubmissions (roomId : Int) : View :=
  inRoom user db roomId fun room =>
    let rows := newestFirst TimedSubmission.submittedAt
      (db.submissions.rows.filter fun row => row.roomId = some room.id)
    (db, ⟨200, .arr (rows.map fun row =>
      roomSubmissionData env (row.questionId.bind db.questionTitle) row)⟩)

def listWorkspaces (roomId : Int) : View :=
  inRoom user db roomId fun room =>
    let rows := newestFirst SnapshotRow.updatedAt
      (db.snapshots.rows.filter fun row => row.roomId = room.id)
    (db, ⟨200, .arr (rows.map fun row =>
      snapshotData env (db.questionTitle row.questionId) row)⟩)

def listEvents (roomId : Int) : View :=
  inRoom user db roomId fun room =>
    let rows := newestFirst EventRow.createdAt
      (db.events.rows.filter fun event => event.roomId = some room.id)
    (db, ⟨200, .arr ((rows.take 200).map (eventData env))⟩)

end Views

inductive ManagementRequest where
  | listRooms
  | createRoom (body : Json)
  | roomDetail (pk : Int)
  | patchRoom (pk : Int) (body : Json)
  | deleteRoom (pk : Int)
  | listQuestions (roomId : Int)
  | createQuestion (roomId : Int) (body : Json)
  | patchQuestion (roomId questionId : Int) (body : Json)
  | deleteQuestion (roomId questionId : Int)
  | listParticipants (roomId : Int)
  | kickParticipant (roomId studentId : Int)
  | patchParticipant (roomId studentId : Int) (body : Json)
  | listSubmissions (roomId : Int)
  | listWorkspaces (roomId : Int)
  | listEvents (roomId : Int)

def ExamTables.manage [PythonRuntime] (env : ManagementEnv) (user : Int) (db : ExamTables) :
    ManagementRequest → View
  | .listRooms => listRooms env user db
  | .createRoom body => createRoom env user db body
  | .roomDetail pk => roomDetail env user db pk
  | .patchRoom pk body => patchRoom env user db pk body
  | .deleteRoom pk => System.deleteRoom env user db pk
  | .listQuestions roomId => listQuestions user db roomId
  | .createQuestion roomId body => createQuestion env user db roomId body
  | .patchQuestion roomId questionId body => patchQuestion env user db roomId questionId body
  | .deleteQuestion roomId questionId => System.deleteQuestion env user db roomId questionId
  | .listParticipants roomId => listParticipants env user db roomId
  | .kickParticipant roomId studentId => kickParticipant env user db roomId studentId
  | .patchParticipant roomId studentId body =>
      patchParticipantView env user db roomId studentId body
  | .listSubmissions roomId => listSubmissions env user db roomId
  | .listWorkspaces roomId => listWorkspaces env user db roomId
  | .listEvents roomId => listEvents env user db roomId

end JudgeVortex.System
