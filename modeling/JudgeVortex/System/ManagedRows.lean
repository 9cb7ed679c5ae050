import JudgeVortex.System.RoomRows

/-!
# What a managing request writes

Every request to the room-management endpoints keeps the references between the rows, and
spares the rows of every teacher but its user.
-/

namespace JudgeVortex.System

open JudgeVortex.CoreApi JudgeVortex.Foundation JudgeVortex.Python

namespace ExamTables

/-! ## What the views look up -/

section Lookups

variable {db : ExamTables} {user roomId : Int}

theorem room?_eq_some {room : RoomRow} (h : db.room? user roomId = some room) :
    room ∈ db.rooms.rows ∧ room.id = roomId ∧ room.teacherId = user := by
  have hfound := List.find?_some h
  exact ⟨List.mem_of_find?_eq_some h, of_decide_eq_true hfound⟩

theorem question?_eq_some {questionId : Int} {question : DescribedQuestion}
    (h : db.question? user roomId questionId = some question) :
    question ∈ db.questions.rows ∧ question.id = questionId ∧ question.roomId = roomId ∧
      db.Teaches user question.roomId := by
  have hfound := List.find?_some h
  exact ⟨List.mem_of_find?_eq_some h, of_decide_eq_true hfound⟩

theorem inRoom_tables {P : ExamTables → Prop} {view : RoomRow → View} (h : P db)
    (hview : ∀ room ∈ db.rooms.rows, room.teacherId = user → P (view room).1) :
    P (inRoom user db roomId view).1 := by
  unfold inRoom
  cases hroom : db.room? user roomId with
  | none => exact h
  | some room =>
      obtain ⟨hmem, -, hteacher⟩ := room?_eq_some hroom
      exact hview room hmem hteacher

theorem onQuestion_tables {P : ExamTables → Prop} {questionId : Int}
    {view : DescribedQuestion → View} (h : P db)
    (hview : ∀ question ∈ db.questions.rows, db.Teaches user question.roomId →
      P (view question).1) :
    P (onQuestion user db roomId questionId view).1 := by
  unfold onQuestion
  cases hquestion : db.question? user roomId questionId with
  | none => exact h
  | some question =>
      obtain ⟨hmem, -, -, hteaches⟩ := question?_eq_some hquestion
      exact hview question hmem hteaches

theorem onParticipant_tables {P : ExamTables → Prop} {studentId : Int}
    {view : RoomRow → EnrolledParticipant → View} (h : P db)
    (hview : ∀ room ∈ db.rooms.rows, room.teacherId = user → ∀ participant,
      P (view room participant).1) :
    P (onParticipant user db roomId studentId view).1 := by
  apply inRoom_tables h
  intro room hroom hteacher
  cases db.participant? room.id studentId with
  | none => exact h
  | some participant => exact hview room hroom hteacher participant

end Lookups

/-! ## The rows of others -/

def OnlyFor (db : ExamTables) (user roomId : Int) : Prop :=
  ∀ other, user ≠ other → db.taught other roomId = false

structure Managed (user : Int) (db after : ExamTables) : Prop where
  consistent : after.Consistent
  spares : ∀ other, user ≠ other → Spares other db after

section Frame

variable {env : ManagementEnv} {user : Int} {db mid : ExamTables}

theorem onlyFor_of_teaches {roomId : Int} (h : db.Teaches user roomId) :
    db.OnlyFor user roomId :=
  fun _ hne => not_taught_of_teaches hne h

theorem onlyFor_of_next_le {roomId : Int} (h : db.rooms.next ≤ roomId) :
    db.OnlyFor user roomId := by
  intro other _
  rw [taught_eq_false]
  rintro ⟨room, hroom, rfl, -⟩
  have hlt := db.rooms.lt_next hroom
  omega

namespace Managed

theorem refl (h : db.Consistent) : Managed user db db := ⟨h, fun _ _ => .refl db⟩

theorem recordExamEvent {event : EventDraft} {roomId : Int} (h : Managed user db mid)
    (hevent : event.roomId = some roomId) (hroom : db.OnlyFor user roomId)
    (hquestion : ∀ id ∈ event.questionId, mid.HasQuestion id event.roomId)
    (hsubmission : event.submissionId = none) :
    Managed user db (mid.recordExamEvent env event) where
  consistent := h.consistent.recordExamEvent env hquestion (by rw [hsubmission]; rintro _ ⟨⟩)
  spares other hne := by
    have hmid := h.spares other hne
    apply hmid.trans
    apply spares_recordExamEvent
    rw [hmid.taught, hevent]
    exact hroom other hne

theorem recordRoomEvent {event : EventDraft} {roomId : Int} (h : Managed user db mid)
    (hevent : event.roomId = some roomId) (hroom : db.OnlyFor user roomId)
    (hquestion : event.questionId = none) (hsubmission : event.submissionId = none) :
    Managed user db (mid.recordExamEvent env event) :=
  h.recordExamEvent hevent hroom (by rw [hquestion]; rintro _ ⟨⟩) hsubmission

theorem cascade {gone : Gone} (h : Managed user db mid) (hclosed : gone.Closed mid)
    (havoids : ∀ other, user ≠ other → gone.Avoids mid other) :
    Managed user db (mid.cascade gone) where
  consistent := h.consistent.cascade hclosed
  spares other hne := (h.spares other hne).trans (spares_cascade h.consistent (havoids other hne))

end Managed

theorem saveNewRoom_some {draft room : RoomRow} {after : ExamTables} {attempts draw : ℕ}
    (h : saveNewRoom env draft attempts draw db = (after, some room)) :
    db.rooms.next ≤ room.id ∧ after.questions = db.questions ∧
      room = { draft with id := room.id, roomCode := room.roomCode } := by
  induction attempts generalizing draw db with
  | zero => cases h
  | succ attempts ih =>
      rw [saveNewRoom] at h
      split at h
      next =>
        obtain ⟨hnext, hquestions, hroom⟩ := ih h
        exact ⟨Int.le_of_lt (Int.lt_of_lt_of_le (Int.lt_succ _) hnext), hquestions, hroom⟩
      next =>
        obtain ⟨rfl, hroom⟩ := Prod.mk.inj h
        cases hroom
        exact ⟨le_refl _, rfl, rfl⟩

theorem managed_createRoom (h : db.Consistent) (body : Json) :
    Managed user db (createRoom env user db body).1 := by
  unfold createRoom
  split
  next => exact .refl h
  next fields _ =>
    split
    next => exact .refl h
    next =>
      have hsaved : Managed user db (saveNewRoom env (fields.draft env user)
          maxRoomCodeGenerationAttempts 0 db).1 :=
        ⟨h.saveNewRoom env _ _ _, fun other hne => spares_saveNewRoom env hne _ _ _⟩
      split
      next after heq =>
        rw [heq] at hsaved
        exact hsaved
      next after room heq =>
        rw [heq] at hsaved
        exact hsaved.recordRoomEvent rfl (onlyFor_of_next_le (saveNewRoom_some heq).1) rfl rfl

theorem managed_patchRoom (h : db.Consistent) (pk : Int) (body : Json) :
    Managed user db (patchRoom env user db pk body).1 := by
  apply inRoom_tables (.refl h)
  intro room hroom hteacher
  split
  next => exact .refl h
  next patch _ =>
    split
    next => exact .refl h
    next =>
      have hsaved : Managed user db (db.saveRow (room.patched patch)) :=
        ⟨h.saveRow _, fun other hne => spares_saveRow hroom rfl rfl (by
          rw [← hteacher] at hne
          exact hne)⟩
      exact hsaved.recordRoomEvent rfl (onlyFor_of_teaches ⟨room, hroom, rfl, hteacher⟩) rfl rfl

theorem managed_deleteRoom (h : db.Consistent) (pk : Int) :
    Managed user db (System.deleteRoom env user db pk).1 := by
  apply inRoom_tables (.refl h)
  intro room hroom hteacher
  have honly : db.OnlyFor user room.id := onlyFor_of_teaches ⟨room, hroom, rfl, hteacher⟩
  have hrecorded : Managed user db (db.recordExamEvent env (roomDeletedEvent user room)) :=
    (Managed.refl h).recordRoomEvent rfl honly rfl rfl
  exact hrecorded.cascade (closed_goneWithRoom _)
    fun other hne => avoids_goneWithRoom (honly other hne)

theorem managed_createQuestion (h : db.Consistent) (roomId : Int) (body : Json) :
    Managed user db (createQuestion env user db roomId body).1 := by
  unfold createQuestion
  split
  next => exact .refl h
  next fields _ =>
    cases hfound : db.room? user roomId with
    | none => exact .refl h
    | some room =>
        obtain ⟨hroom, -, hteacher⟩ := room?_eq_some hfound
        have honly : db.OnlyFor user room.id :=
          onlyFor_of_teaches ⟨room, hroom, rfl, hteacher⟩
        have hinserted : Managed user db (db.insertQuestion (fields.row room.id) fun _ => rfl) :=
          ⟨h.insertQuestion _ ⟨room, hroom, rfl⟩,
            fun other hne => spares_insertQuestion _ (honly other hne)⟩
        refine hinserted.recordExamEvent rfl honly ?_ rfl
        rintro _ ⟨⟩
        exact ⟨fields.row room.id db.questions.next, List.mem_append_right _ (.head _), rfl, rfl⟩

theorem managed_patchQuestion (h : db.Consistent) (roomId questionId : Int) (body : Json) :
    Managed user db (System.patchQuestion env user db roomId questionId body).1 := by
  apply onQuestion_tables (.refl h)
  intro question hquestion hteaches
  split
  next => exact .refl h
  next patch _ =>
    have honly : db.OnlyFor user question.roomId := onlyFor_of_teaches hteaches
    have hsaved : Managed user db (db.saveQuestion (patchedQuestion question patch)) :=
      ⟨h.saveQuestion hquestion rfl rfl,
        fun other hne => spares_saveQuestion hquestion rfl rfl (honly other hne)⟩
    refine hsaved.recordExamEvent rfl honly ?_ rfl
    rintro _ ⟨⟩
    exact ⟨patchedQuestion question patch, Table.mem_replace_self hquestion rfl, rfl, rfl⟩

theorem managed_deleteQuestion (h : db.Consistent) (roomId questionId : Int) :
    Managed user db (System.deleteQuestion env user db roomId questionId).1 := by
  apply onQuestion_tables (.refl h)
  intro question hquestion hteaches
  have honly : db.OnlyFor user question.roomId := onlyFor_of_teaches hteaches
  have hrecorded : Managed user db (db.recordExamEvent env
      (questionEvent user "question.deleted" "deleted" [] question)) := by
    refine (Managed.refl h).recordExamEvent rfl honly ?_ rfl
    rintro _ ⟨⟩
    exact ⟨question, hquestion, rfl, rfl⟩
  exact hrecorded.cascade (closed_goneWithQuestion _)
    fun other hne => avoids_goneWithQuestion hquestion (honly other hne)

theorem managed_saveParticipant (h : db.Consistent) {roomId : Int} (hroom : db.OnlyFor user roomId)
    (studentId : Int) (save : Save) :
    Managed user db (db.saveParticipant roomId studentId save) :=
  ⟨h.saveParticipant .., fun other hne => spares_saveParticipant studentId save (hroom other hne)⟩

theorem managed_kickParticipant (h : db.Consistent) (roomId studentId : Int) :
    Managed user db (kickParticipant env user db roomId studentId).1 := by
  apply onParticipant_tables (.refl h)
  intro room hroom hteacher participant
  have honly : db.OnlyFor user room.id := onlyFor_of_teaches ⟨room, hroom, rfl, hteacher⟩
  dsimp only
  split
  next => exact .refl h
  next save _ =>
    exact (managed_saveParticipant h honly studentId save).recordRoomEvent rfl honly rfl rfl

theorem managed_patchParticipant [PythonRuntime] (h : db.Consistent) (roomId studentId : Int)
    (body : Json) :
    Managed user db (patchParticipantView env user db roomId studentId body).1 := by
  apply onParticipant_tables (.refl h)
  intro room hroom hteacher participant
  have honly : db.OnlyFor user room.id := onlyFor_of_teaches ⟨room, hroom, rfl, hteacher⟩
  split
  next fields =>
    have hsaved : Managed user db (db.saveIfSome room.id studentId
        (patchParticipant (fieldD fields "access_locked" .null) env.now participant.row)) := by
      unfold saveIfSome
      split
      next => exact .refl h
      next save _ => exact managed_saveParticipant h honly studentId save
    dsimp only
    split
    next => exact hsaved.recordRoomEvent rfl honly rfl rfl
    next => exact hsaved.recordRoomEvent rfl honly rfl rfl
  next => exact .refl h

theorem managed_inRoom (h : db.Consistent) (roomId : Int) (response : RoomRow → Response) :
    Managed user db (inRoom user db roomId fun room => (db, response room)).1 :=
  inRoom_tables (.refl h) fun _ _ _ => .refl h

theorem managed_manage [PythonRuntime] (h : db.Consistent) (request : ManagementRequest) :
    Managed user db (db.manage env user request).1 := by
  cases request with
  | listRooms => exact .refl h
  | createRoom body => exact managed_createRoom h body
  | roomDetail pk => exact managed_inRoom h pk _
  | patchRoom pk body => exact managed_patchRoom h pk body
  | deleteRoom pk => exact managed_deleteRoom h pk
  | listQuestions roomId => exact .refl h
  | createQuestion roomId body => exact managed_createQuestion h roomId body
  | patchQuestion roomId questionId body => exact managed_patchQuestion h roomId questionId body
  | deleteQuestion roomId questionId => exact managed_deleteQuestion h roomId questionId
  | listParticipants roomId => exact managed_inRoom h roomId _
  | kickParticipant roomId studentId => exact managed_kickParticipant h roomId studentId
  | patchParticipant roomId studentId body =>
      exact managed_patchParticipant h roomId studentId body
  | listSubmissions roomId => exact managed_inRoom h roomId _
  | listWorkspaces roomId => exact managed_inRoom h roomId _
  | listEvents roomId => exact managed_inRoom h roomId _

end Frame

end ExamTables

end JudgeVortex.System
