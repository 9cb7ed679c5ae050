import JudgeVortex.Foundation.Runs
import JudgeVortex.System.Isolation

/-!
# The schedules of the rooms

`ExamRoomSerializer.validate` judges the values of the request, and of the stored row where
the request gives none or `null`; what is stored are the request's own values.  Every
stored room has a valid schedule all the same.
-/

namespace JudgeVortex.System

open JudgeVortex.CoreApi JudgeVortex.Foundation JudgeVortex.Python

structure RoomRow.ScheduleValid (room : RoomRow) : Prop where
  questionsToAssign : 1 ≤ room.questionsToAssign
  startTime : ∀ start, room.startTime = some start → start < room.joinDeadline

theorem validateRoom_eq_none_iff {startTime joinDeadline : Option Time}
    {questionsToAssign : Option Int} :
    validateRoom startTime joinDeadline questionsToAssign = none ↔
      (∀ questions, questionsToAssign = some questions → 1 ≤ questions) ∧
        ∀ start deadline, startTime = some start → joinDeadline = some deadline →
          start < deadline := by
  have hquestions : questionsToAssign.any (· < 1) = true ↔
      ¬ ∀ questions, questionsToAssign = some questions → 1 ≤ questions := by
    cases questionsToAssign <;> simp [Int.lt_iff_add_one_le]
  unfold validateRoom
  by_cases h : questionsToAssign.any (· < 1) = true
  · rw [if_pos h]
    exact iff_of_false nofun fun hvalid => hquestions.mp h hvalid.1
  · rw [if_neg h, and_iff_right (not_not.mp fun hvalid => h (hquestions.mpr hvalid))]
    cases startTime with
    | none => simp
    | some start =>
        cases joinDeadline with
        | none => simp
        | some deadline => simp

theorem NewRoom.scheduleValid_draft (env : ManagementEnv) (user : Int) {fields : NewRoom}
    (h : validateRoom fields.startTime (some fields.joinDeadline) fields.questionsToAssign =
      none) : (fields.draft env user).ScheduleValid := by
  obtain ⟨hquestions, hstart⟩ := validateRoom_eq_none_iff.mp h
  refine ⟨?_, fun start hsome => hstart start _ hsome rfl⟩
  change 1 ≤ fields.questionsToAssign.getD 3
  cases hgiven : fields.questionsToAssign with
  | none => decide
  | some questions => exact hquestions questions hgiven

/-- A start time that the patch clears was judged, but nothing is left to judge. -/
theorem RoomRow.ScheduleValid.patched {room : RoomRow} (hroom : room.ScheduleValid)
    {patch : RoomPatch}
    (h : validateRoom (patch.startTime.join.or room.startTime)
      (patch.joinDeadline.or (some room.joinDeadline))
      (patch.questionsToAssign.or (some room.questionsToAssign)) = none) :
    (room.patched patch).ScheduleValid := by
  obtain ⟨hquestions, hstart⟩ := validateRoom_eq_none_iff.mp h
  constructor
  · change 1 ≤ patch.questionsToAssign.getD room.questionsToAssign
    cases hgiven : patch.questionsToAssign with
    | none => exact hroom.questionsToAssign
    | some questions => exact hquestions questions (by rw [hgiven, Option.some_or])
  · intro start hsome
    change patch.startTime.getD room.startTime = some start at hsome
    change start < patch.joinDeadline.getD room.joinDeadline
    apply hstart
    · cases hgiven : patch.startTime with
      | none => rwa [hgiven] at hsome
      | some given =>
          rw [hgiven] at hsome
          obtain rfl : given = some start := hsome
          rfl
    · cases patch.joinDeadline <;> rfl

namespace ExamTables

def SchedulesValid (db : ExamTables) : Prop := ∀ room ∈ db.rooms.rows, room.ScheduleValid

section Requests

variable {db : ExamTables}

theorem SchedulesValid.saveRow (h : db.SchedulesValid) {room : RoomRow}
    (hroom : room.ScheduleValid) : (db.saveRow room).SchedulesValid := by
  intro other hother
  rcases Table.mem_replace hother with rfl | hother
  · exact hroom
  · exact h other hother

theorem SchedulesValid.saveNewRoom (env : ManagementEnv) {draft : RoomRow}
    (hdraft : draft.ScheduleValid) (attempts draw : ℕ) {db : ExamTables}
    (h : db.SchedulesValid) : (saveNewRoom env draft attempts draw db).1.SchedulesValid := by
  induction attempts generalizing draw db with
  | zero => exact h
  | succ attempts ih =>
      rw [System.saveNewRoom]
      split
      next => exact ih (draw + 1) h
      next =>
        intro room hroom
        rcases List.mem_append.mp hroom with hroom | hroom
        · exact h room hroom
        · rw [List.mem_singleton.mp hroom]
          exact ⟨hdraft.questionsToAssign, hdraft.startTime⟩

variable {env : ManagementEnv} {user : Int}

theorem schedulesValid_createRoom (h : db.SchedulesValid) (body : Json) :
    (createRoom env user db body).1.SchedulesValid := by
  unfold createRoom
  split
  next => exact h
  next fields _ =>
    split
    next => exact h
    next haccepted =>
      have hsaved := h.saveNewRoom env (fields.scheduleValid_draft env user haccepted)
        maxRoomCodeGenerationAttempts 0
      split
      next after heq =>
        rw [heq] at hsaved
        exact hsaved
      next after room heq =>
        rw [heq] at hsaved
        exact hsaved

theorem schedulesValid_patchRoom (h : db.SchedulesValid) (pk : Int) (body : Json) :
    (patchRoom env user db pk body).1.SchedulesValid := by
  apply inRoom_tables h
  intro room hroom _
  split
  next => exact h
  next patch _ =>
    split
    next => exact h
    next haccepted => exact h.saveRow ((h room hroom).patched haccepted)

def LeavesRooms (db after : ExamTables) : Prop := after.rooms.rows ⊆ db.rooms.rows

theorem LeavesRooms.refl (db : ExamTables) : LeavesRooms db db := List.Subset.refl _

theorem leavesRooms_deleteRoom (pk : Int) :
    LeavesRooms db (System.deleteRoom env user db pk).1 := by
  apply inRoom_tables (.refl db)
  intro room _ _ other hother
  exact List.mem_of_mem_filter hother

theorem leavesRooms_createQuestion (roomId : Int) (body : Json) :
    LeavesRooms db (createQuestion env user db roomId body).1 := by
  unfold createQuestion
  split
  next => exact .refl db
  next fields _ => split <;> exact .refl db

theorem leavesRooms_patchQuestion (roomId questionId : Int) (body : Json) :
    LeavesRooms db (patchQuestion env user db roomId questionId body).1 := by
  apply onQuestion_tables (.refl db)
  intro question _ _
  split <;> exact .refl db

theorem leavesRooms_deleteQuestion (roomId questionId : Int) :
    LeavesRooms db (System.deleteQuestion env user db roomId questionId).1 := by
  apply onQuestion_tables (.refl db)
  intro question _ _ other hother
  exact List.mem_of_mem_filter hother

theorem leavesRooms_kickParticipant (roomId studentId : Int) :
    LeavesRooms db (kickParticipant env user db roomId studentId).1 := by
  apply onParticipant_tables (.refl db)
  intro room _ _ participant
  dsimp only
  split <;> exact .refl db

theorem leavesRooms_patchParticipant [PythonRuntime] (roomId studentId : Int) (body : Json) :
    LeavesRooms db (patchParticipantView env user db roomId studentId body).1 := by
  apply onParticipant_tables (.refl db)
  intro room _ _ participant
  split
  next fields =>
    dsimp only
    unfold saveIfSome
    cases patchParticipant (fieldD fields "access_locked" .null) env.now participant.row with
    | none => split <;> exact .refl db
    | some save => split <;> exact .refl db
  next => exact .refl db

theorem SchedulesValid.of_leavesRooms (h : db.SchedulesValid) {after : ExamTables}
    (hrooms : LeavesRooms db after) : after.SchedulesValid :=
  fun room hroom => h room (hrooms hroom)

theorem SchedulesValid.manage [PythonRuntime] (h : db.SchedulesValid)
    (request : ManagementRequest) : (db.manage env user request).1.SchedulesValid := by
  have hread : ∀ roomId (response : RoomRow → Response),
      LeavesRooms db (inRoom user db roomId fun room => (db, response room)).1 :=
    fun roomId response => inRoom_tables (.refl db) fun _ _ _ => .refl db
  cases request with
  | createRoom body => exact schedulesValid_createRoom h body
  | patchRoom pk body => exact schedulesValid_patchRoom h pk body
  | listRooms => exact h
  | listQuestions roomId => exact h
  | roomDetail pk => exact h.of_leavesRooms (hread pk _)
  | listParticipants roomId => exact h.of_leavesRooms (hread roomId _)
  | listSubmissions roomId => exact h.of_leavesRooms (hread roomId _)
  | listWorkspaces roomId => exact h.of_leavesRooms (hread roomId _)
  | listEvents roomId => exact h.of_leavesRooms (hread roomId _)
  | deleteRoom pk => exact h.of_leavesRooms (leavesRooms_deleteRoom pk)
  | createQuestion roomId body => exact h.of_leavesRooms (leavesRooms_createQuestion roomId body)
  | patchQuestion roomId questionId body =>
      exact h.of_leavesRooms (leavesRooms_patchQuestion roomId questionId body)
  | deleteQuestion roomId questionId =>
      exact h.of_leavesRooms (leavesRooms_deleteQuestion roomId questionId)
  | kickParticipant roomId studentId =>
      exact h.of_leavesRooms (leavesRooms_kickParticipant roomId studentId)
  | patchParticipant roomId studentId body =>
      exact h.of_leavesRooms (leavesRooms_patchParticipant roomId studentId body)

end Requests

def runRequests [PythonRuntime] (db : ExamTables)
    (steps : List (ManagementEnv × Int × ManagementRequest)) : ExamTables :=
  steps.foldl (fun db step => (db.manage step.1 step.2.1 step.2.2).1) db

theorem schedules_valid [PythonRuntime] (db : ExamTables) (hdb : db.SchedulesValid)
    (steps : List (ManagementEnv × Int × ManagementRequest)) :
    (db.runRequests steps).SchedulesValid :=
  foldl_invariant _ (fun _ step h => h.manage step.2.2) hdb steps

def scheduleSteps : List (ManagementEnv × Int × ManagementRequest) :=
  let env : ManagementEnv := { drawing fun _ => "AAAAAA" with
    parseRoom _ := .ok ⟨"Final", none, some 7, 9⟩
    parseRoomPatch
      | .null => .ok ⟨none, none, some none, none⟩
      | _ => .ok ⟨none, some 1, none, some 5⟩ }
  [(env, 1, .createRoom .null), (env, 1, .patchRoom 1 .null),
    (env, 1, .patchRoom 1 (.bool true))]

theorem schedules_valid_cleared_start :
    let := plainRuntime
    ((empty.runRequests scheduleSteps).rooms.rows.map fun room =>
        (room.startTime, room.joinDeadline, room.questionsToAssign)) = [(none, 5, 1)] ∧
      (empty.runRequests scheduleSteps).SchedulesValid := by
  let := plainRuntime
  exact ⟨by decide, schedules_valid empty (fun _ hroom => absurd hroom List.not_mem_nil)
    scheduleSteps⟩

end ExamTables

end JudgeVortex.System
