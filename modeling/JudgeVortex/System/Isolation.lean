import JudgeVortex.System.ExamRuns

/-!
# Teachers are isolated

A request to the room-management endpoints leaves the rows of every other teacher as they
are, and its response does not depend on them.
-/

namespace JudgeVortex.System

open JudgeVortex.CoreApi JudgeVortex.Foundation JudgeVortex.Python

/-- The response without the id and the code of a room. -/
def Response.withoutCode (response : Response) : Response :=
  match response.data with
  | .obj fields => { response with
      data := .obj (fields.filter fun field => field.1 ∉ ["id", "room_code"]) }
  | _ => response

/-- What a response shows, apart from what is drawn for a new room. -/
def ManagementRequest.shown (response : Response) : ManagementRequest → Response
  | .createRoom _ => response.withoutCode
  | _ => response

namespace ExamTables

/-! ## The tables without the rows of another teacher -/

section Without

variable {db : ExamTables} {user other : Int} {id : Int}

theorem room_stays (hne : user ≠ other) {room : RoomRow} (hroom : room ∈ db.rooms.rows)
    (hteacher : room.teacherId = user) : db.taught other room.id = false :=
  not_taught_of_teaches hne ⟨room, hroom, rfl, hteacher⟩

theorem teaches_without (hne : user ≠ other) :
    (db.without other).Teaches user id ↔ db.Teaches user id := by
  constructor
  · rintro ⟨room, hroom, hid, hteacher⟩
    exact ⟨room, List.mem_of_mem_filter hroom, hid, hteacher⟩
  · rintro ⟨room, hroom, hid, hteacher⟩
    have hstays := room_stays hne hroom hteacher
    exact ⟨room, List.mem_filter.mpr ⟨hroom, by rw [hstays]; rfl⟩, hid, hteacher⟩

theorem rooms_without (hne : user ≠ other) :
    (db.without other).rooms.rows.filter (fun room => room.teacherId = user) =
      db.rooms.rows.filter fun room => room.teacherId = user := by
  apply filter_filter_of_kept
  intro room hroom hteacher
  rw [room_stays hne hroom (of_decide_eq_true hteacher)]
  rfl

theorem room?_without (hne : user ≠ other) :
    (db.without other).room? user id = db.room? user id := by
  apply find?_filter_of_kept
  intro room hroom hfound
  rw [room_stays hne hroom (of_decide_eq_true hfound).2]
  rfl

theorem question?_without (hne : user ≠ other) {questionId : Int} :
    (db.without other).question? user id questionId = db.question? user id questionId := by
  simp only [question?, teaches_without hne]
  apply find?_filter_of_kept
  intro question _ hfound
  obtain ⟨-, -, hteaches⟩ := of_decide_eq_true hfound
  rw [not_taught_of_teaches hne hteaches]
  rfl

theorem questions_without (hne : user ≠ other) :
    (db.without other).questions.rows.filter
        (fun question => question.roomId = id ∧ (db.without other).Teaches user question.roomId) =
      db.questions.rows.filter fun question =>
        question.roomId = id ∧ db.Teaches user question.roomId := by
  simp only [teaches_without hne]
  apply filter_filter_of_kept
  intro question _ hasked
  rw [not_taught_of_teaches hne (of_decide_eq_true hasked).2]
  rfl

section Room

variable (hroom : db.taught other id = false)

include hroom

theorem filter_room_without {α : Type} (roomId : α → Int) (rows : List α) :
    (rows.filter fun row => ! db.taught other (roomId row)).filter (fun row => roomId row = id) =
      rows.filter fun row => roomId row = id := by
  apply filter_filter_of_kept
  intro row _ hasked
  rw [of_decide_eq_true hasked, hroom]
  rfl

theorem filter_optionalRoom_without {α : Type} (roomId : α → Option Int) (rows : List α) :
    (rows.filter fun row => ! (roomId row).any (db.taught other)).filter
        (fun row => roomId row = some id) = rows.filter fun row => roomId row = some id := by
  apply filter_filter_of_kept
  intro row _ hasked
  rw [of_decide_eq_true hasked, Option.any_some, hroom]
  rfl

theorem totalQuestions_without :
    (db.without other).totalQuestions id = db.totalQuestions id :=
  congrArg List.length
    (filter_room_without hroom (fun question : DescribedQuestion => question.roomId) _)

theorem participants_without :
    (db.without other).participants.filter (fun participant => participant.roomId = id) =
      db.participants.filter fun participant => participant.roomId = id :=
  filter_room_without hroom (fun participant : EnrolledParticipant => participant.roomId) _

theorem participant?_without {studentId : Int} :
    (db.without other).participant? id studentId = db.participant? id studentId := by
  apply find?_filter_of_kept
  intro participant _ hfound
  rw [(of_decide_eq_true hfound).1, hroom]
  rfl

theorem submissions_without :
    (db.without other).submissions.rows.filter (fun row => row.roomId = some id) =
      db.submissions.rows.filter fun row => row.roomId = some id :=
  filter_optionalRoom_without hroom (fun row : TimedSubmission => row.roomId) _

theorem snapshots_without :
    (db.without other).snapshots.rows.filter (fun row => row.roomId = id) =
      db.snapshots.rows.filter fun row => row.roomId = id :=
  filter_room_without hroom SnapshotRow.roomId _

theorem events_without :
    (db.without other).events.rows.filter (fun event => event.roomId = some id) =
      db.events.rows.filter fun event => event.roomId = some id :=
  filter_optionalRoom_without hroom (fun event : EventRow => event.roomId) _

theorem question_stays {question : DescribedQuestion} (hmem : question ∈ db.questions.rows)
    (h : db.HasQuestion question.id (some id)) : db.taught other question.roomId = false := by
  obtain ⟨same, hsame, hid, hsameRoom⟩ := h
  rw [← db.questions.eq_of_key hsame hmem hid, ← Option.some.inj hsameRoom, hroom]

theorem questionTitle_without {questionId : Int} (h : db.HasQuestion questionId (some id)) :
    (db.without other).questionTitle questionId = db.questionTitle questionId := by
  apply congrArg (Option.map _)
  apply find?_filter_of_kept
  intro question hmem hasked
  have hid : question.id = questionId := of_decide_eq_true hasked
  rw [← hid] at h
  rw [question_stays hroom hmem h]
  rfl

theorem assignedQuestions_without (hconsistent : db.Consistent)
    {participant : EnrolledParticipant} (hparticipant : participant ∈ db.participants)
    (hid : participant.roomId = id) :
    (db.without other).assignedQuestions participant = db.assignedQuestions participant := by
  apply filter_filter_of_kept
  intro question hmem hasked
  have h := hconsistent.assigned participant hparticipant question.id (of_decide_eq_true hasked)
  rw [hid] at h
  rw [question_stays hroom hmem h]
  rfl

end Room

end Without

/-! ## The responses -/

section Responses

variable {env : ManagementEnv} {db : ExamTables} {user other roomId : Int}

theorem inRoom_without (hne : user ≠ other) {view view' : RoomRow → View}
    (h : ∀ room ∈ db.rooms.rows, db.taught other room.id = false → (view' room).2 = (view room).2) :
    (inRoom user (db.without other) roomId view').2 = (inRoom user db roomId view).2 := by
  unfold inRoom
  rw [room?_without hne]
  cases hfound : db.room? user roomId with
  | none => rfl
  | some room =>
      obtain ⟨hroom, -, hteacher⟩ := room?_eq_some hfound
      exact h room hroom (room_stays hne hroom hteacher)

theorem onParticipant_without (hne : user ≠ other) {studentId : Int}
    {view view' : RoomRow → EnrolledParticipant → View}
    (h : ∀ room participant, (view' room participant).2 = (view room participant).2) :
    (onParticipant user (db.without other) roomId studentId view').2 =
      (onParticipant user db roomId studentId view).2 := by
  apply inRoom_without hne
  intro room _ hroom
  rw [participant?_without hroom]
  cases db.participant? room.id studentId with
  | none => rfl
  | some participant => exact h room participant

theorem onQuestion_without (hne : user ≠ other) {questionId : Int}
    {view view' : DescribedQuestion → View}
    (h : ∀ question, (view' question).2 = (view question).2) :
    (onQuestion user (db.without other) roomId questionId view').2 =
      (onQuestion user db roomId questionId view).2 := by
  unfold onQuestion
  rw [question?_without hne]
  cases db.question? user roomId questionId with
  | none => rfl
  | some question => exact h question

theorem mem_newestFirst {α : Type} {time : α → Time} {rows : List α} {row : α} :
    row ∈ newestFirst time rows ↔ row ∈ rows :=
  List.mem_insertionSort _

theorem listRooms_without (hne : user ≠ other) :
    (listRooms env user (db.without other)).2 = (listRooms env user db).2 := by
  simp only [listRooms, rooms_without hne]
  congr 2
  apply List.map_congr_left
  intro room hroom
  obtain ⟨hmem, hteacher⟩ := List.mem_filter.mp (mem_newestFirst.mp hroom)
  rw [totalQuestions_without (room_stays hne hmem (of_decide_eq_true hteacher))]

theorem roomDetail_without (hne : user ≠ other) :
    (roomDetail env user (db.without other) roomId).2 = (roomDetail env user db roomId).2 := by
  apply inRoom_without hne
  intro room _ hroom
  rw [totalQuestions_without hroom]

theorem patchRoom_without (hne : user ≠ other) (body : Json) :
    (patchRoom env user (db.without other) roomId body).2 =
      (patchRoom env user db roomId body).2 := by
  apply inRoom_without hne
  intro room _ hroom
  cases env.parseRoomPatch body with
  | error errors => rfl
  | ok patch =>
      dsimp only
      split
      next => rfl
      next =>
        have htotal : (db.without other).totalQuestions room.id = db.totalQuestions room.id :=
          totalQuestions_without hroom
        exact congrArg (fun total => (⟨200, roomData env total (room.patched patch)⟩ : Response))
          htotal

theorem createQuestion_without (hne : user ≠ other) (body : Json) :
    (createQuestion env user (db.without other) roomId body).2 =
      (createQuestion env user db roomId body).2 := by
  unfold createQuestion
  rw [room?_without hne]
  cases env.parseQuestion body with
  | error errors => rfl
  | ok fields =>
      cases db.room? user roomId with
      | none => rfl
      | some room => rfl

theorem listParticipants_without (hne : user ≠ other) (hconsistent : db.Consistent) :
    (listParticipants env user (db.without other) roomId).2 =
      (listParticipants env user db roomId).2 := by
  apply inRoom_without hne
  intro room _ hroom
  simp only [participants_without hroom]
  congr 2
  apply List.map_congr_left
  intro participant hlisted
  have hinside := List.mem_insertionSort _ |>.mp (List.mem_of_mem_filter hlisted)
  obtain ⟨hmem, hid⟩ := List.mem_filter.mp hinside
  rw [assignedQuestions_without hroom hconsistent hmem (of_decide_eq_true hid)]

theorem listSubmissions_without (hne : user ≠ other) (hconsistent : db.Consistent) :
    (listSubmissions env user (db.without other) roomId).2 =
      (listSubmissions env user db roomId).2 := by
  apply inRoom_without hne
  intro room _ hroom
  simp only [submissions_without hroom]
  congr 2
  apply List.map_congr_left
  intro row hrow
  obtain ⟨hmem, hid⟩ := List.mem_filter.mp (mem_newestFirst.mp hrow)
  have hquestion := hconsistent.submission row hmem
  rw [of_decide_eq_true hid] at hquestion
  cases hquestionId : row.questionId with
  | none => rfl
  | some questionId =>
      rw [Option.bind_some, Option.bind_some,
        questionTitle_without hroom (hquestion questionId hquestionId)]

theorem listWorkspaces_without (hne : user ≠ other) (hconsistent : db.Consistent) :
    (listWorkspaces env user (db.without other) roomId).2 =
      (listWorkspaces env user db roomId).2 := by
  apply inRoom_without hne
  intro room _ hroom
  simp only [snapshots_without hroom]
  congr 2
  apply List.map_congr_left
  intro row hrow
  obtain ⟨hmem, hid⟩ := List.mem_filter.mp (mem_newestFirst.mp hrow)
  have hquestion := hconsistent.snapshot row hmem
  rw [of_decide_eq_true hid] at hquestion
  rw [questionTitle_without hroom hquestion]

theorem listEvents_without (hne : user ≠ other) :
    (listEvents env user (db.without other) roomId).2 = (listEvents env user db roomId).2 := by
  apply inRoom_without hne
  intro room _ hroom
  simp only [events_without hroom]

end Responses

/-! ### The response to a creation -/

section Creation

variable {env : ManagementEnv} {db : ExamTables} {user other : Int}

def HasFreeCode (db : ExamTables) (env : ManagementEnv) : Prop :=
  ∃ draw < maxRoomCodeGenerationAttempts, ∀ room ∈ db.rooms.rows,
    room.roomCode ≠ env.codes draw

theorem HasFreeCode.without (h : db.HasFreeCode env) : (db.without other).HasFreeCode env := by
  obtain ⟨draw, hdraw, hfree⟩ := h
  exact ⟨draw, hdraw, fun room hroom => hfree room (List.mem_of_mem_filter hroom)⟩

theorem saveNewRoom_of_free (draft : RoomRow) {attempts draw : ℕ}
    (h : ∃ k < attempts, ∀ room ∈ db.rooms.rows, room.roomCode ≠ env.codes (draw + k)) :
    ∃ after room, saveNewRoom env draft attempts draw db = (after, some room) := by
  induction attempts generalizing draw db with
  | zero =>
      obtain ⟨k, hk, -⟩ := h
      cases hk
  | succ attempts ih =>
      rw [saveNewRoom]
      split
      next htaken =>
        apply ih
        obtain ⟨k, hk, hfree⟩ := h
        cases k with
        | zero =>
            obtain ⟨room, hroom, hcode⟩ := htaken
            exact absurd hcode (hfree room hroom)
        | succ k =>
            refine ⟨k, Nat.lt_of_succ_lt_succ hk, fun room hroom => ?_⟩
            rw [Nat.add_assoc, Nat.add_comm 1 k]
            exact hfree room hroom
      next => exact ⟨_, _, rfl⟩

theorem totalQuestions_of_next_le (h : db.Consistent) {roomId : Int}
    (hid : db.rooms.next ≤ roomId) : db.totalQuestions roomId = 0 := by
  rw [totalQuestions, List.length_eq_zero_iff]
  apply List.filter_eq_nil_iff.mpr
  intro question hquestion heq
  obtain ⟨room, hroom, hroomId⟩ := h.questionRoom question hquestion
  have hlt := db.rooms.lt_next hroom
  rw [hroomId, of_decide_eq_true heq] at hlt
  omega

theorem createRoom_withoutCode (hfree : db.HasFreeCode env)
    (hnew : ∀ id, db.rooms.next ≤ id → db.totalQuestions id = 0) {body : Json} {fields : NewRoom}
    (hparse : env.parseRoom body = .ok fields)
    (hvalid : validateRoom fields.startTime (some fields.joinDeadline)
      fields.questionsToAssign = none) :
    (createRoom env user db body).2.withoutCode =
      Response.withoutCode ⟨201, roomData env 0 (fields.draft env user)⟩ := by
  obtain ⟨draw, hdraw, hcodes⟩ := hfree
  obtain ⟨after, room, hsaved⟩ := saveNewRoom_of_free (fields.draft env user)
    ⟨draw, hdraw, by rw [Nat.zero_add]; exact hcodes⟩
  obtain ⟨hnext, hquestions, hroom⟩ := saveNewRoom_some hsaved
  have htotal : after.totalQuestions room.id = 0 := by
    rw [totalQuestions, questionsOf, hquestions]
    exact hnew room.id hnext
  simp only [createRoom, hparse, hvalid, hsaved, htotal]
  rw [hroom]
  rfl

theorem createRoom_without (hne : user ≠ other) (h : db.Consistent) (hfree : db.HasFreeCode env)
    (body : Json) :
    (createRoom env user (db.without other) body).2.withoutCode =
      (createRoom env user db body).2.withoutCode := by
  cases hparse : env.parseRoom body with
  | error errors => simp only [createRoom, hparse]
  | ok fields =>
      cases hvalid : validateRoom fields.startTime (some fields.joinDeadline)
          fields.questionsToAssign with
      | some refusal => simp only [createRoom, hparse, hvalid]
      | none =>
          have hnew (id : Int) (hid : db.rooms.next ≤ id) : db.totalQuestions id = 0 :=
            totalQuestions_of_next_le h hid
          have hnewWithout (id : Int) (hid : db.rooms.next ≤ id) :
              (db.without other).totalQuestions id = 0 := by
            rw [totalQuestions_without (onlyFor_of_next_le hid other hne), hnew id hid]
          rw [createRoom_withoutCode hfree hnew hparse hvalid,
            createRoom_withoutCode hfree.without hnewWithout hparse hvalid]

end Creation

def FindsCode (db : ExamTables) (env : ManagementEnv) : ManagementRequest → Prop
  | .createRoom _ => db.HasFreeCode env
  | _ => True

theorem shown_without [PythonRuntime] {env : ManagementEnv} {db : ExamTables} {user other : Int}
    (hne : user ≠ other) (h : db.Consistent) {request : ManagementRequest}
    (hcode : db.FindsCode env request) :
    request.shown ((db.without other).manage env user request).2 =
      request.shown (db.manage env user request).2 := by
  cases request with
  | listRooms => exact listRooms_without hne
  | createRoom body => exact createRoom_without hne h hcode body
  | roomDetail pk => exact roomDetail_without hne
  | patchRoom pk body => exact patchRoom_without hne body
  | deleteRoom pk => exact inRoom_without hne fun _ _ _ => rfl
  | listQuestions roomId =>
      exact congrArg (fun questions : List DescribedQuestion =>
        (⟨200, .arr (questions.map examQuestion)⟩ : Response)) (questions_without hne)
  | createQuestion roomId body => exact createQuestion_without hne body
  | patchQuestion roomId questionId body =>
      apply onQuestion_without hne
      intro question
      cases env.parseQuestionPatch body with
      | error errors => rfl
      | ok patch => rfl
  | deleteQuestion roomId questionId => exact onQuestion_without hne fun _ => rfl
  | listParticipants roomId => exact listParticipants_without hne h
  | kickParticipant roomId studentId => exact onParticipant_without hne fun _ _ => rfl
  | patchParticipant roomId studentId body =>
      apply onParticipant_without hne
      intro room participant
      cases body with
      | obj fields =>
          dsimp only
          split
          next => rfl
          next => rfl
      | _ => rfl
  | listSubmissions roomId => exact listSubmissions_without hne h
  | listWorkspaces roomId => exact listWorkspaces_without hne h
  | listEvents roomId => exact listEvents_without hne

end ExamTables

/-! ## Isolation -/

/-- Tables whose references stay inside a room, as in every state that is reached. -/
structure ExamDatabase extends ExamTables where
  consistent : toExamTables.Consistent

namespace ExamDatabase

variable [PythonRuntime]

def manage (env : ManagementEnv) (user : Int) (db : ExamDatabase) (request : ManagementRequest) :
    ExamDatabase × Response :=
  let view := db.toExamTables.manage env user request
  (⟨view.1, (ExamTables.managed_manage db.consistent request).consistent⟩, view.2)

/--
A request leaves the rows in the rooms of another teacher as they are.  Its response is the
same whatever they are, up to the code and the id of a room that is created, if a code is
found for it.
-/
theorem teachers_isolated (env : ManagementEnv) {user other : Int} (hne : user ≠ other)
    (request : ManagementRequest) :
    (∀ db : ExamDatabase, (db.manage env user request).1.rowsOf other = db.rowsOf other) ∧
    ∀ db₁ db₂ : ExamDatabase, db₁.without other = db₂.without other →
      db₁.FindsCode env request → db₂.FindsCode env request →
      request.shown (db₁.manage env user request).2 =
        request.shown (db₂.manage env user request).2 := by
  constructor
  · intro db
    exact ((ExamTables.managed_manage db.consistent request).spares other hne).rowsOf
  · intro db₁ db₂ hwithout hcode₁ hcode₂
    have h₁ := ExamTables.shown_without hne db₁.consistent hcode₁
    have h₂ := ExamTables.shown_without hne db₂.consistent hcode₂
    rw [hwithout] at h₁
    exact h₁.symm.trans h₂

end ExamDatabase

/-! ### A code that another teacher's room has -/

def takenCode : ExamDatabase where
  toExamTables := { ExamTables.empty with
    rooms := ⟨[⟨1, 2, "AAAAAA", "Midterm", none, 9, 1, 0⟩], 2, by simp, by omega, by simp⟩ }
  consistent := by constructor <;> exact fun _ h => absurd h List.not_mem_nil

def freeCode : ExamDatabase where
  toExamTables := { ExamTables.empty with
    rooms := ⟨[], 2, by simp, by omega, by simp⟩ }
  consistent := by constructor <;> exact fun _ h => absurd h List.not_mem_nil

def drawing (codes : ℕ → String) : ManagementEnv where
  now := 5
  codes := codes
  username _ := "teacher"
  sortsBefore _ _ := true
  isoformat _ := "2026-01-01T00:00:00+00:00"
  apiTime _ := "2026-01-01T00:00:00Z"
  activeWindow := 20
  parseRoom _ := .ok ⟨"Final", none, none, 9⟩
  parseRoomPatch body := .error body
  parseQuestion body := .error body
  parseQuestionPatch body := .error body

theorem teachers_isolated_second_code :
    let := plainRuntime
    let env := drawing fun draw => if draw = 0 then "AAAAAA" else "BBBBBB"
    (takenCode.manage env 1 (.createRoom .null)).1.rowsOf 2 = takenCode.rowsOf 2 ∧
      (takenCode.manage env 1 (.createRoom .null)).2.withoutCode =
        (freeCode.manage env 1 (.createRoom .null)).2.withoutCode := by
  let := plainRuntime
  let env := drawing fun draw => if draw = 0 then "AAAAAA" else "BBBBBB"
  have h := ExamDatabase.teachers_isolated env (show (1 : Int) ≠ 2 by decide) (.createRoom .null)
  exact ⟨h.1 takenCode, h.2 takenCode freeCode rfl ⟨1, by decide, by decide⟩
    ⟨1, by decide, by decide⟩⟩

theorem createRoom_without_code :
    let := plainRuntime
    let env := drawing fun _ => "AAAAAA"
    takenCode.without 2 = freeCode.without 2 ∧
      (takenCode.manage env 1 (.createRoom .null)).2.status = 500 ∧
      (freeCode.manage env 1 (.createRoom .null)).2.status = 201 :=
  ⟨rfl, rfl, rfl⟩

end JudgeVortex.System
