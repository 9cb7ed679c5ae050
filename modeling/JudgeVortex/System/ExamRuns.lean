import JudgeVortex.CoreApi.Admission
import JudgeVortex.System.ManagedRows

/-!
# The states of the tables

The writes of the requests of students and of the executor, and with the managing requests
every state that the tables can reach: its references stay inside a room.
-/

namespace JudgeVortex.System

open JudgeVortex.CoreApi JudgeVortex.Foundation JudgeVortex.Python

inductive StudentWrite where
  | enroll (roomId studentId : Int) (joinedAt : Time)
  | assignQuestions (roomId studentId : Int) (questionIds : List Int)
  | saveParticipant (roomId studentId : Int) (save : Save)
  | createSubmission (row : Submission) (submittedAt : Time)
  | saveSubmission (row : Submission)
  | deleteSubmission (id : Int)
  | upsertSnapshot (roomId studentId questionId : Int) (snapshot : WorkspaceSnapshot)
      (updatedAt : Time)
  | recordEvent (env : ManagementEnv) (event : EventDraft)

namespace ExamTables

section Writes

variable (db : ExamTables)

def enroll (roomId studentId : Int) (joinedAt : Time) : ExamTables :=
  let participant : EnrolledParticipant :=
    { roomId, studentId, accessLocked := false, assignedQuestions := [],
      accessLockedAt := none, lastPresenceAt := none, joinedAt }
  { db with participants := db.participants ++ [participant] }

def assignQuestions (roomId studentId : Int) (questionIds : List Int) : ExamTables :=
  { db with
    participants := db.participants.map fun participant =>
      if participant.roomId = roomId ∧ participant.studentId = studentId then
        { participant with assignedQuestions := questionIds }
      else participant }

def createSubmission (row : Submission) (submittedAt : Time) : ExamTables :=
  { db with
    submissions := db.submissions.insert (fun id => ⟨{ row with id }, submittedAt⟩)
      fun _ => rfl }

def saveSubmission (row : Submission) : ExamTables :=
  { db with
    submissions := db.submissions.modify
      (fun old => if old.id = row.id then { old with toSubmission := row } else old) fun old => by
        split
        next heq => exact heq.symm
        next => rfl }

def deleteSubmission (id : Int) : ExamTables :=
  { db with
    submissions := db.submissions.restrict fun row => row.id ≠ id
    events := db.events.modify
      (fun event => { event with
        submissionId := event.submissionId.filter fun other => other ≠ id })
      fun _ => rfl }

def upsertSnapshot (roomId studentId questionId : Int) (snapshot : WorkspaceSnapshot)
    (updatedAt : Time) : ExamTables :=
  let found := db.snapshots.rows.find? fun row =>
    row.roomId = roomId ∧ row.studentId = studentId ∧ row.questionId = questionId
  match found with
  | some row => { db with
      snapshots := db.snapshots.replace { row with toWorkspaceSnapshot := snapshot, updatedAt } }
  | none => { db with
      snapshots := db.snapshots.insert
        (fun id => ⟨snapshot, id, roomId, studentId, questionId, updatedAt⟩) fun _ => rfl }

def write : StudentWrite → ExamTables
  | .enroll roomId studentId joinedAt => db.enroll roomId studentId joinedAt
  | .assignQuestions roomId studentId questionIds => db.assignQuestions roomId studentId questionIds
  | .saveParticipant roomId studentId save => db.saveParticipant roomId studentId save
  | .createSubmission row submittedAt => db.createSubmission row submittedAt
  | .saveSubmission row => db.saveSubmission row
  | .deleteSubmission id => db.deleteSubmission id
  | .upsertSnapshot roomId studentId questionId snapshot updatedAt =>
      db.upsertSnapshot roomId studentId questionId snapshot updatedAt
  | .recordEvent env event => db.recordExamEvent env event

end Writes

/-- What the requests have checked before they write: questions that are assigned, submitted
to or snapshotted are of the room, a saved submission keeps its room and question, and an
event is about one room. -/
def Checked (db : ExamTables) : StudentWrite → Prop
  | .enroll .. | .saveParticipant .. | .deleteSubmission .. => True
  | .assignQuestions roomId _ questionIds => ∀ id ∈ questionIds, db.HasQuestion id (some roomId)
  | .createSubmission row _ => ∀ id ∈ row.questionId, db.HasQuestion id row.roomId
  | .saveSubmission row => ∃ old ∈ db.submissions.rows,
      old.id = row.id ∧ old.roomId = row.roomId ∧ old.questionId = row.questionId
  | .upsertSnapshot roomId _ questionId _ _ => db.HasQuestion questionId (some roomId)
  | .recordEvent _ event => (∀ id ∈ event.questionId, db.HasQuestion id event.roomId) ∧
      ∀ id ∈ event.submissionId, db.HasSubmission id event.roomId

/-! ## The submissions that are created -/

section Submit

variable [PythonRuntime] {db : ExamTables} {env : SubmitEnv} {nextId user : Int} {body : Dict}

def catalogue (db : ExamTables) : Catalogue where
  rooms := db.rooms.rows.map RoomRow.id
  questions := db.questions.rows.map DescribedQuestion.toExamQuestion
  participants := db.participants.map fun participant => participant.toRoomParticipant
  room_pos id hid := by
    obtain ⟨room, hroom, rfl⟩ := List.mem_map.mp hid
    exact (db.rooms.bounds room hroom).1
  question_pos question hquestion := by
    obtain ⟨row, hrow, rfl⟩ := List.mem_map.mp hquestion
    exact (db.questions.bounds row hrow).1

/-- `perform_create` creates only submissions to a question of their room. -/
theorem checked_performCreate {row : Submission}
    (h : (performCreate db.catalogue env nextId user body).created = some row)
    (submittedAt : Time) : db.Checked (.createSubmission row submittedAt) := by
  intro id hid
  obtain ⟨question, _, hfound, hroom, -⟩ := (submission_admitted h).2 id hid
  obtain ⟨stored, hstored, rfl⟩ := List.mem_map.mp (List.mem_of_find?_eq_some hfound)
  have hkey := List.find?_some hfound
  exact ⟨stored, hstored, of_decide_eq_true hkey, hroom⟩

end Submit

/-! ## Every write keeps the references -/

section Consistency

variable {db : ExamTables}

theorem Consistent.enroll (h : db.Consistent) (roomId studentId : Int) (joinedAt : Time) :
    (db.enroll roomId studentId joinedAt).Consistent := by
  refine { h with assigned := ?_ }
  intro participant hparticipant
  rcases List.mem_append.mp hparticipant with hparticipant | hparticipant
  · exact h.assigned participant hparticipant
  · rw [List.mem_singleton.mp hparticipant]
    exact fun _ hid => absurd hid List.not_mem_nil

theorem Consistent.assignQuestions (h : db.Consistent) {roomId : Int} (studentId : Int)
    {questionIds : List Int} (hids : ∀ id ∈ questionIds, db.HasQuestion id (some roomId)) :
    (db.assignQuestions roomId studentId questionIds).Consistent := by
  refine { h with assigned := ?_ }
  intro participant hparticipant
  obtain ⟨old, hold, rfl⟩ := List.mem_map.mp hparticipant
  split
  next hkey =>
    intro id hid
    have hhas := hids id hid
    rw [← hkey.1] at hhas
    exact hhas
  next => exact h.assigned old hold

theorem Consistent.createSubmission {row : Submission} (h : db.Consistent) (submittedAt : Time)
    (hquestion : ∀ id ∈ row.questionId, db.HasQuestion id row.roomId) :
    (db.createSubmission row submittedAt).Consistent := by
  refine { h with submission := ?_, eventSubmission := ?_ }
  · intro created hcreated
    rcases List.mem_append.mp hcreated with hcreated | hcreated
    · exact h.submission created hcreated
    · rw [List.mem_singleton.mp hcreated]
      exact hquestion
  · intro event hevent id hid
    obtain ⟨found, hfound, hfoundId, hroom⟩ := h.eventSubmission event hevent id hid
    exact ⟨found, List.mem_append_left _ hfound, hfoundId, hroom⟩

theorem Consistent.saveSubmission {old : TimedSubmission} {row : Submission} (h : db.Consistent)
    (hold : old ∈ db.submissions.rows) (hid : old.id = row.id) (hroom : old.roomId = row.roomId)
    (hquestion : old.questionId = row.questionId) : (db.saveSubmission row).Consistent := by
  have hsaved : ∀ other ∈ db.submissions.rows, other.id = row.id → other = old :=
    fun other hother heq => db.submissions.eq_of_key hother hold (heq.trans hid.symm)
  refine { h with submission := ?_, eventSubmission := ?_ }
  · intro saved hmem
    obtain ⟨other, hother, rfl⟩ := List.mem_map.mp hmem
    split
    next heq =>
      have hhas := h.submission old hold
      rw [hquestion, hroom] at hhas
      exact hhas
    next => exact h.submission other hother
  · intro event hevent id hmem
    obtain ⟨found, hfound, hfoundId, hfoundRoom⟩ := h.eventSubmission event hevent id hmem
    refine ⟨_, List.mem_map_of_mem hfound, ?_⟩
    split
    next heq =>
      rw [hsaved found hfound heq] at hfoundRoom
      exact ⟨heq.symm.trans hfoundId, hroom.symm.trans hfoundRoom⟩
    next => exact ⟨hfoundId, hfoundRoom⟩

theorem Consistent.deleteSubmission (h : db.Consistent) (id : Int) :
    (db.deleteSubmission id).Consistent := by
  refine { h with submission := ?_, eventQuestion := ?_, eventSubmission := ?_ }
  · intro row hrow
    exact h.submission row (List.mem_of_mem_filter hrow)
  · intro event hevent
    obtain ⟨old, hold, rfl⟩ := List.mem_map.mp hevent
    exact h.eventQuestion old hold
  · intro event hevent other hother
    obtain ⟨old, hold, rfl⟩ := List.mem_map.mp hevent
    obtain ⟨hother, hne⟩ := Option.mem_filter_iff.mp hother
    obtain ⟨row, hrow, rfl, hroom⟩ := h.eventSubmission old hold other hother
    exact ⟨row, List.mem_filter.mpr ⟨hrow, hne⟩, rfl, hroom⟩

theorem Consistent.upsertSnapshot (h : db.Consistent) {roomId questionId : Int} (studentId : Int)
    (snapshot : WorkspaceSnapshot) (updatedAt : Time)
    (hquestion : db.HasQuestion questionId (some roomId)) :
    (db.upsertSnapshot roomId studentId questionId snapshot updatedAt).Consistent := by
  unfold ExamTables.upsertSnapshot
  dsimp only
  split
  next found hfound =>
    refine { h with snapshot := ?_ }
    intro row hrow
    rcases Table.mem_replace hrow with rfl | hrow
    · exact h.snapshot found (List.mem_of_find?_eq_some hfound)
    · exact h.snapshot row hrow
  next =>
    refine { h with snapshot := ?_ }
    intro row hrow
    rcases List.mem_append.mp hrow with hrow | hrow
    · exact h.snapshot row hrow
    · rw [List.mem_singleton.mp hrow]
      exact hquestion

theorem Consistent.write (h : db.Consistent) {write : StudentWrite} (hchecked : db.Checked write) :
    (db.write write).Consistent := by
  cases write with
  | enroll roomId studentId joinedAt => exact h.enroll roomId studentId joinedAt
  | assignQuestions roomId studentId questionIds => exact h.assignQuestions studentId hchecked
  | saveParticipant roomId studentId save => exact h.saveParticipant roomId studentId save
  | createSubmission row submittedAt => exact h.createSubmission submittedAt hchecked
  | saveSubmission row =>
      obtain ⟨old, hold, hid, hroom, hquestion⟩ := hchecked
      exact h.saveSubmission hold hid hroom hquestion
  | deleteSubmission id => exact h.deleteSubmission id
  | upsertSnapshot roomId studentId questionId snapshot updatedAt =>
      exact h.upsertSnapshot studentId snapshot updatedAt hchecked
  | recordEvent env event => exact h.recordExamEvent env hchecked.1 hchecked.2

end Consistency

/-! ## Runs -/

/-- A managing request, or a write of another one. -/
inductive Reachable [PythonRuntime] : ExamTables → Prop
  | empty : Reachable empty
  | manage {db : ExamTables} (env : ManagementEnv) (user : Int) (request : ManagementRequest) :
      Reachable db → Reachable (db.manage env user request).1
  | write {db : ExamTables} {write : StudentWrite} :
      db.Checked write → Reachable db → Reachable (db.write write)

theorem Reachable.consistent [PythonRuntime] {db : ExamTables} (h : Reachable db) :
    db.Consistent := by
  induction h with
  | empty => exact consistent_empty
  | manage env user request _ ih => exact (managed_manage ih request).consistent
  | write hchecked _ ih => exact ih.write hchecked

end ExamTables

end JudgeVortex.System
