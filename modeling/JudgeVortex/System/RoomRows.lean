import JudgeVortex.System.Management

/-!
# The rows of a teacher

What each write to the tables of the exams leaves as it was: the rows in the rooms of a
teacher, and the references between the rows of a room.
-/

namespace JudgeVortex.System

open JudgeVortex.CoreApi JudgeVortex.Foundation JudgeVortex.Python

namespace ExamTables

/-! ## Tables whose references stay inside a room -/

section References

variable (db : ExamTables)

def HasQuestion (id : Int) (roomId : Option Int) : Prop :=
  ∃ question ∈ db.questions.rows, question.id = id ∧ roomId = some question.roomId

def HasSubmission (id : Int) (roomId : Option Int) : Prop :=
  ∃ row ∈ db.submissions.rows, row.id = id ∧ row.roomId = roomId

structure Consistent : Prop where
  questionRoom : ∀ question ∈ db.questions.rows,
    ∃ room ∈ db.rooms.rows, room.id = question.roomId
  assigned : ∀ participant ∈ db.participants, ∀ id ∈ participant.assignedQuestions,
    db.HasQuestion id (some participant.roomId)
  submission : ∀ row ∈ db.submissions.rows, ∀ id ∈ row.questionId, db.HasQuestion id row.roomId
  snapshot : ∀ row ∈ db.snapshots.rows, db.HasQuestion row.questionId (some row.roomId)
  eventQuestion : ∀ event ∈ db.events.rows, ∀ id ∈ event.questionId,
    db.HasQuestion id event.roomId
  eventSubmission : ∀ event ∈ db.events.rows, ∀ id ∈ event.submissionId,
    db.HasSubmission id event.roomId

def Gone.Closed (gone : Gone) : Prop :=
  ∀ question ∈ db.questions.rows, gone.room question.roomId → gone.question question.id

end References

/-! ## The rows of a teacher -/

@[ext]
structure RoomRows where
  rooms : List RoomRow
  questions : List DescribedQuestion
  participants : List EnrolledParticipant
  submissions : List TimedSubmission
  snapshots : List SnapshotRow
  events : List EventRow

section Rows

variable (db : ExamTables) (teacherId : Int)

def rowsIn (inside : Int → Bool) : RoomRows where
  rooms := db.rooms.rows.filter fun room => inside room.id
  questions := db.questions.rows.filter fun question => inside question.roomId
  participants := db.participants.filter fun participant => inside participant.roomId
  submissions := db.submissions.rows.filter fun row => row.roomId.any inside
  snapshots := db.snapshots.rows.filter fun row => inside row.roomId
  events := db.events.rows.filter fun event => event.roomId.any inside

def taught (roomId : Int) : Bool := db.Teaches teacherId roomId

def rowsOf : RoomRows := db.rowsIn (db.taught teacherId)

/-- The tables as if the teacher had nothing in them. -/
def without : ExamTables where
  rooms := db.rooms.restrict fun room => ! db.taught teacherId room.id
  questions := db.questions.restrict fun question => ! db.taught teacherId question.roomId
  participants := db.participants.filter fun participant =>
    ! db.taught teacherId participant.roomId
  submissions := db.submissions.restrict fun row => ! row.roomId.any (db.taught teacherId)
  snapshots := db.snapshots.restrict fun row => ! db.taught teacherId row.roomId
  events := db.events.restrict fun event => ! event.roomId.any (db.taught teacherId)

end Rows

section Taught

variable {db : ExamTables} {user other roomId : Int}

theorem taught_eq_true : db.taught user roomId = true ↔ db.Teaches user roomId :=
  decide_eq_true_iff

theorem taught_eq_false : db.taught user roomId = false ↔ ¬ db.Teaches user roomId :=
  decide_eq_false_iff_not

theorem not_taught_of_teaches (hne : user ≠ other) (h : db.Teaches user roomId) :
    db.taught other roomId = false := by
  rw [taught_eq_false]
  rintro ⟨room, hroom, hid, hteacher⟩
  obtain ⟨mine, hmine, hmineId, hmineTeacher⟩ := h
  have heq : mine = room := db.rooms.eq_of_key hmine hroom (hmineId.trans hid.symm)
  rw [heq, hteacher] at hmineTeacher
  exact hne hmineTeacher.symm

theorem taught_congr {after : ExamTables}
    (h : ∀ room, room.teacherId = other → (room ∈ after.rooms.rows ↔ room ∈ db.rooms.rows)) :
    after.taught other = db.taught other := by
  funext id
  apply decide_eq_decide.mpr
  constructor
  · rintro ⟨room, hroom, hid, hteacher⟩
    exact ⟨room, (h room hteacher).mp hroom, hid, hteacher⟩
  · rintro ⟨room, hroom, hid, hteacher⟩
    exact ⟨room, (h room hteacher).mpr hroom, hid, hteacher⟩

end Taught

/-! ## Requests spare the rows of others -/

/-- The teacher has the same rooms, and the same rows in them. -/
structure Spares (teacherId : Int) (before after : ExamTables) : Prop where
  taught : after.taught teacherId = before.taught teacherId
  rows : after.rowsIn (before.taught teacherId) = before.rowsIn (before.taught teacherId)

namespace Spares

variable {other : Int} {db mid after : ExamTables}

theorem refl (db : ExamTables) : Spares other db db := ⟨rfl, rfl⟩

theorem trans (h : Spares other db mid) (h' : Spares other mid after) :
    Spares other db after :=
  ⟨h'.taught.trans h.taught, by rw [← h.rows, ← h.taught, h'.rows]⟩

theorem rowsOf (h : Spares other db after) : after.rowsOf other = db.rowsOf other := by
  rw [ExamTables.rowsOf, h.taught, h.rows, ExamTables.rowsOf]

end Spares

section Writes

variable {other : Int} {db : ExamTables}

theorem spares_recordExamEvent {event : EventDraft} (env : ManagementEnv)
    (h : event.roomId.any (db.taught other) = false) :
    Spares other db (db.recordExamEvent env event) :=
  ⟨rfl, congrArg (fun events => { db.rowsIn (db.taught other) with events })
    (filter_append_of_not_asked (fun event : EventRow => event.roomId.any _) h)⟩

theorem spares_insertQuestion {make : Int → DescribedQuestion}
    (hmake : ∀ id, (make id).id = id)
    (h : db.taught other (make db.questions.next).roomId = false) :
    Spares other db (db.insertQuestion make hmake) :=
  ⟨rfl, congrArg (fun questions => { db.rowsIn (db.taught other) with questions })
    (filter_append_of_not_asked (fun question : DescribedQuestion =>
      db.taught other question.roomId) h)⟩

theorem spares_saveQuestion {old question : DescribedQuestion}
    (hold : old ∈ db.questions.rows) (hid : old.id = question.id)
    (hroom : old.roomId = question.roomId) (h : db.taught other question.roomId = false) :
    Spares other db (db.saveQuestion question) := by
  refine ⟨rfl, congrArg (fun questions => { db.rowsIn (db.taught other) with questions })
    (Table.filter_replace_of_not_asked (fun question : DescribedQuestion =>
      db.taught other question.roomId) hold hid ?_ h)⟩
  rw [hroom]
  exact h

theorem spares_saveParticipant {roomId : Int} (studentId : Int) (save : Save)
    (h : db.taught other roomId = false) :
    Spares other db (db.saveParticipant roomId studentId save) := by
  refine ⟨rfl, congrArg (fun participants => { db.rowsIn (db.taught other) with participants })
    (filter_map_of_fixed ?_ ?_)⟩
  · intro participant _
    split
    next => rfl
    next => rfl
  · intro participant _ htaught
    split
    next hkey =>
      rw [hkey.1, h] at htaught
      cases htaught
    next => rfl

theorem spares_saveRow {old room : RoomRow} (hold : old ∈ db.rooms.rows)
    (hid : old.id = room.id) (hteacher : old.teacherId = room.teacherId)
    (hne : room.teacherId ≠ other) : Spares other db (db.saveRow room) := by
  have hroom : db.taught other room.id = false :=
    not_taught_of_teaches hne ⟨old, hold, hid, hteacher⟩
  constructor
  · apply taught_congr
    intro found hfoundTeacher
    constructor
    · intro hfound
      rcases Table.mem_replace hfound with rfl | hfound
      · exact absurd hfoundTeacher hne
      · exact hfound
    · intro hfound
      apply Table.mem_replace_of_ne hfound
      intro heq
      rw [taught_eq_false] at hroom
      exact hroom ⟨found, hfound, heq, hfoundTeacher⟩
  · exact congrArg (fun rooms => { db.rowsIn (db.taught other) with rooms })
      (Table.filter_replace_of_not_asked (fun room : RoomRow => db.taught other room.id)
        hold hid (by rw [hid, hroom]) hroom)

theorem spares_insertRoom {make : Int → RoomRow} (hmake : ∀ id, (make id).id = id)
    (hne : (make db.rooms.next).teacherId ≠ other) :
    Spares other db { db with rooms := db.rooms.insert make hmake } := by
  have hnext : db.taught other db.rooms.next = false := by
    rw [taught_eq_false]
    rintro ⟨room, hroom, hid, -⟩
    exact absurd (db.rooms.lt_next hroom) (by rw [hid]; exact lt_irrefl _)
  constructor
  · apply taught_congr
    intro found hteacher
    constructor
    · intro hfound
      rcases List.mem_append.mp hfound with hfound | hfound
      · exact hfound
      · rw [List.mem_singleton.mp hfound] at hteacher
        exact absurd hteacher hne
    · exact List.mem_append_left _
  · exact congrArg (fun rooms => { db.rowsIn (db.taught other) with rooms })
      (filter_append_of_not_asked (fun room : RoomRow => db.taught other room.id)
        (by rw [hmake]; exact hnext))

theorem spares_saveNewRoom (env : ManagementEnv) {draft : RoomRow}
    (hne : draft.teacherId ≠ other) (attempts draw : ℕ) (db : ExamTables) :
    Spares other db (saveNewRoom env draft attempts draw db).1 := by
  induction attempts generalizing draw db with
  | zero => exact .refl db
  | succ attempts ih =>
      rw [saveNewRoom]
      split
      next =>
        have hskip : Spares other db { db with rooms := db.rooms.skip } := ⟨rfl, rfl⟩
        exact hskip.trans (ih ..)
      next => exact spares_insertRoom _ hne

end Writes

/-! ### Deletions -/

theorem filter_eq_of_any_eq_false {id : Option Int} {gone : Int → Bool}
    (h : id.any gone = false) : id.filter (fun id => ! gone id) = id := by
  cases id with
  | none => rfl
  | some id =>
      have hid : gone id = false := h
      rw [Option.filter_some, if_pos (by rw [hid]; rfl)]

section Deletions

variable {other : Int} {db : ExamTables} {gone : Gone}

structure Gone.Avoids (gone : Gone) (db : ExamTables) (teacherId : Int) : Prop where
  room : ∀ id, gone.room id → db.taught teacherId id = false
  question : ∀ question ∈ db.questions.rows, gone.question question.id →
    db.taught teacherId question.roomId = false

namespace Gone.Avoids

variable (h : gone.Avoids db other)

include h

theorem room_stays {id : Int} (hid : db.taught other id = true) : gone.room id = false := by
  cases hgone : gone.room id with
  | false => rfl
  | true => exact absurd hid (by rw [h.room id hgone]; exact Bool.false_ne_true)

theorem rooms_stay {roomId : Option Int} (hid : roomId.any (db.taught other) = true) :
    roomId.any gone.room = false := by
  cases roomId with
  | none => rfl
  | some id => exact h.room_stays hid

theorem question_stays {id : Int} {roomId : Option Int} (hquestion : db.HasQuestion id roomId)
    (hroom : roomId.any (db.taught other) = true) : gone.question id = false := by
  obtain ⟨question, hmem, rfl, rfl⟩ := hquestion
  cases hgone : gone.question question.id with
  | false => rfl
  | true =>
      have htaught : db.taught other question.roomId = true := hroom
      rw [h.question question hmem hgone] at htaught
      cases htaught

theorem questions_stay {questionId roomId : Option Int}
    (hquestion : ∀ id ∈ questionId, db.HasQuestion id roomId)
    (hroom : roomId.any (db.taught other) = true) : questionId.any gone.question = false := by
  cases questionId with
  | none => rfl
  | some id => exact h.question_stays (hquestion id rfl) hroom

variable (hconsistent : db.Consistent)

include hconsistent

theorem submission_stays {row : TimedSubmission} (hrow : row ∈ db.submissions.rows)
    (hroom : row.roomId.any (db.taught other) = true) : ¬ gone.Submission row := by
  rintro (hgone | hgone)
  · rw [h.rooms_stay hroom] at hgone
    cases hgone
  · rw [h.questions_stay (hconsistent.submission row hrow) hroom] at hgone
    cases hgone

theorem submissionGone_stays {event : EventRow} (hevent : event ∈ db.events.rows)
    (hroom : event.roomId.any (db.taught other) = true) :
    event.submissionId.any (fun id => db.SubmissionGone gone id) = false := by
  cases hid : event.submissionId with
  | none => rfl
  | some id =>
      apply decide_eq_false
      rintro ⟨row, hrow, hrowId, hgone⟩
      obtain ⟨same, hsame, hsameId, hsameRoom⟩ := hconsistent.eventSubmission event hevent id hid
      have heq : row = same :=
        db.submissions.eq_of_key hrow hsame (hrowId.trans hsameId.symm)
      rw [← hsameRoom, ← heq] at hroom
      exact h.submission_stays hconsistent hrow hroom hgone

theorem unassign_eq {participant : EnrolledParticipant}
    (hparticipant : participant ∈ db.participants)
    (hroom : db.taught other participant.roomId = true) :
    gone.unassign participant = participant := by
  have hassigned : participant.assignedQuestions.filter (fun id => ! gone.question id) =
      participant.assignedQuestions := by
    apply List.filter_eq_self.mpr
    intro id hid
    rw [h.question_stays (hconsistent.assigned participant hparticipant id hid) hroom]
    rfl
  rw [Gone.unassign, hassigned]

theorem unlink_eq {event : EventRow} (hevent : event ∈ db.events.rows)
    (hroom : event.roomId.any (db.taught other) = true) :
    gone.unlink (fun id => db.SubmissionGone gone id) event = event := by
  rw [Gone.unlink, filter_eq_of_any_eq_false (h.rooms_stay hroom),
    filter_eq_of_any_eq_false
      (h.questions_stay (hconsistent.eventQuestion event hevent) hroom),
    filter_eq_of_any_eq_false (h.submissionGone_stays hconsistent hevent hroom)]

end Gone.Avoids

theorem Gone.Avoids.any_unlink (h : gone.Avoids db other) (submissionGone : Int → Bool)
    (event : EventRow) :
    (gone.unlink submissionGone event).roomId.any (db.taught other) =
      event.roomId.any (db.taught other) := by
  cases hroom : event.roomId with
  | none => simp [Gone.unlink, hroom]
  | some id =>
      cases hgone : gone.room id with
      | false => simp [Gone.unlink, hroom, hgone]
      | true => simp [Gone.unlink, hroom, hgone, h.room id hgone]

theorem taught_cascade (h : gone.Avoids db other) :
    (db.cascade gone).taught other = db.taught other := by
  apply taught_congr
  intro room hteacher
  constructor
  · exact List.mem_of_mem_filter
  · intro hroom
    have hstays : gone.room room.id = false :=
      h.room_stays (taught_eq_true.mpr ⟨room, hroom, rfl, hteacher⟩)
    exact List.mem_filter.mpr ⟨hroom, by rw [hstays]; rfl⟩

theorem spares_cascade (hconsistent : db.Consistent) (h : gone.Avoids db other) :
    Spares other db (db.cascade gone) := by
  refine ⟨taught_cascade h, RoomRows.ext ?rooms ?questions ?participants ?submissions
    ?snapshots ?events⟩
  case rooms =>
    apply filter_filter_of_kept
    intro room _ hroom
    rw [h.room_stays hroom]
    rfl
  case questions =>
    apply filter_filter_of_kept
    intro question hquestion hroom
    rw [h.question_stays ⟨question, hquestion, rfl, rfl⟩ hroom]
    rfl
  case participants =>
    simp only [rowsIn, cascade]
    rw [filter_map_of_fixed]
    · apply filter_filter_of_kept
      intro participant _ hroom
      rw [h.room_stays hroom]
      rfl
    · intro participant _
      rfl
    · intro participant hparticipant hroom
      exact h.unassign_eq hconsistent (List.mem_of_mem_filter hparticipant) hroom
  case submissions =>
    apply filter_filter_of_kept
    intro row hrow hroom
    exact decide_eq_true (h.submission_stays hconsistent hrow hroom)
  case snapshots =>
    apply filter_filter_of_kept
    intro row hrow hroom
    apply decide_eq_true
    rintro (hgone | hgone)
    · rw [h.room_stays hroom] at hgone
      cases hgone
    · rw [h.question_stays (hconsistent.snapshot row hrow) hroom] at hgone
      cases hgone
  case events =>
    apply filter_map_of_fixed
    · intro event _
      exact h.any_unlink _ event
    · intro event hevent hroom
      exact h.unlink_eq hconsistent hevent hroom

theorem avoids_goneWithQuestion {question : DescribedQuestion}
    (hquestion : question ∈ db.questions.rows) (h : db.taught other question.roomId = false) :
    (goneWithQuestion question.id).Avoids db other := by
  constructor
  · intro id hid
    cases hid
  · intro same hsame hid
    have hkey : same.id = question.id := of_decide_eq_true hid
    rw [db.questions.eq_of_key hsame hquestion hkey, h]

theorem avoids_goneWithRoom {roomId : Int} (h : db.taught other roomId = false) :
    (db.goneWithRoom roomId).Avoids db other := by
  constructor
  · intro id hid
    rw [show id = roomId from of_decide_eq_true hid, h]
  · intro question hquestion hgone
    obtain ⟨same, hsame, hid, hroom⟩ := of_decide_eq_true hgone
    rw [← db.questions.eq_of_key hsame hquestion hid, hroom, h]

end Deletions

/-! ## Requests keep the references -/

section Consistency

variable {db : ExamTables} {roomId : Option Int} {id : Int}

theorem consistent_empty : empty.Consistent := by
  constructor <;> exact fun _ h => absurd h List.not_mem_nil

theorem Consistent.withQuestions {questions : Table DescribedQuestion fun question => question.id}
    (h : db.Consistent)
    (hroom : ∀ question ∈ questions.rows, ∃ room ∈ db.rooms.rows, room.id = question.roomId)
    (hkept : ∀ question ∈ db.questions.rows, ∃ same ∈ questions.rows,
      same.id = question.id ∧ same.roomId = question.roomId) :
    Consistent { db with questions } := by
  have hhas {id : Int} {roomId : Option Int} (hquestion : db.HasQuestion id roomId) :
      HasQuestion { db with questions } id roomId := by
    obtain ⟨question, hmem, rfl, rfl⟩ := hquestion
    obtain ⟨same, hsame, hid, hroomId⟩ := hkept question hmem
    exact ⟨same, hsame, hid, by rw [hroomId]⟩
  exact
    { questionRoom := hroom
      assigned := fun participant hmem id hid => hhas (h.assigned participant hmem id hid)
      submission := fun row hrow id hid => hhas (h.submission row hrow id hid)
      snapshot := fun row hrow => hhas (h.snapshot row hrow)
      eventQuestion := fun event hmem id hid => hhas (h.eventQuestion event hmem id hid)
      eventSubmission := h.eventSubmission }

theorem Consistent.withRooms {rooms : Table RoomRow RoomRow.id} (h : db.Consistent)
    (hkept : ∀ room ∈ db.rooms.rows, ∃ same ∈ rooms.rows, same.id = room.id) :
    Consistent { db with rooms } := by
  refine { h with questionRoom := ?_ }
  intro question hquestion
  obtain ⟨room, hroom, hid⟩ := h.questionRoom question hquestion
  obtain ⟨same, hsame, hsameId⟩ := hkept room hroom
  exact ⟨same, hsame, hsameId.trans hid⟩

theorem Consistent.recordExamEvent {event : EventDraft} (h : db.Consistent)
    (env : ManagementEnv)
    (hquestion : ∀ id ∈ event.questionId, db.HasQuestion id event.roomId)
    (hsubmission : ∀ id ∈ event.submissionId, db.HasSubmission id event.roomId) :
    (db.recordExamEvent env event).Consistent := by
  refine { h with eventQuestion := ?_, eventSubmission := ?_ }
  · intro row hrow
    rcases List.mem_append.mp hrow with hrow | hrow
    · exact h.eventQuestion row hrow
    · rw [List.mem_singleton.mp hrow]
      exact hquestion
  · intro row hrow
    rcases List.mem_append.mp hrow with hrow | hrow
    · exact h.eventSubmission row hrow
    · rw [List.mem_singleton.mp hrow]
      exact hsubmission

theorem Consistent.insertQuestion {make : Int → DescribedQuestion} (h : db.Consistent)
    (hmake : ∀ id, (make id).id = id)
    (hroom : ∃ room ∈ db.rooms.rows, room.id = (make db.questions.next).roomId) :
    (db.insertQuestion make hmake).Consistent := by
  apply h.withQuestions
  · intro question hquestion
    rcases List.mem_append.mp hquestion with hquestion | hquestion
    · exact h.questionRoom question hquestion
    · rw [List.mem_singleton.mp hquestion]
      exact hroom
  · intro question hquestion
    exact ⟨question, List.mem_append_left _ hquestion, rfl, rfl⟩

theorem Consistent.saveQuestion {old question : DescribedQuestion} (h : db.Consistent)
    (hold : old ∈ db.questions.rows) (hid : old.id = question.id)
    (hroom : old.roomId = question.roomId) : (db.saveQuestion question).Consistent := by
  apply h.withQuestions
  · intro other hother
    rcases Table.mem_replace hother with rfl | hother
    · rw [← hroom]
      exact h.questionRoom old hold
    · exact h.questionRoom other hother
  · intro other hother
    by_cases heq : other.id = question.id
    · have hsame : other = old := db.questions.eq_of_key hother hold (heq.trans hid.symm)
      refine ⟨question, Table.mem_replace_self hother heq, heq.symm, ?_⟩
      rw [hsame, hroom]
    · exact ⟨other, Table.mem_replace_of_ne hother heq, rfl, rfl⟩

theorem Consistent.saveRow (room : RoomRow) (h : db.Consistent) :
    (db.saveRow room).Consistent := by
  apply h.withRooms
  intro other hother
  by_cases heq : other.id = room.id
  · exact ⟨room, Table.mem_replace_self hother heq, heq.symm⟩
  · exact ⟨other, Table.mem_replace_of_ne hother heq, rfl⟩

theorem Consistent.saveParticipant (h : db.Consistent) (roomId studentId : Int) (save : Save) :
    (db.saveParticipant roomId studentId save).Consistent := by
  refine { h with assigned := ?_ }
  intro participant hparticipant
  obtain ⟨old, hold, rfl⟩ := List.mem_map.mp hparticipant
  split
  next => exact h.assigned old hold
  next => exact h.assigned old hold

theorem Consistent.saveNewRoom (h : db.Consistent) (env : ManagementEnv) (draft : RoomRow)
    (attempts draw : ℕ) : (saveNewRoom env draft attempts draw db).1.Consistent := by
  induction attempts generalizing draw db with
  | zero => exact h
  | succ attempts ih =>
      rw [System.saveNewRoom]
      split
      next =>
        have hskip : Consistent { db with rooms := db.rooms.skip } :=
          h.withRooms fun room hroom => ⟨room, hroom, rfl⟩
        exact ih hskip _
      next => exact h.withRooms fun room hroom => ⟨room, List.mem_append_left _ hroom, rfl⟩

/-! ### Deletions -/

section Deletions

variable {gone : Gone}

theorem HasQuestion.cascade (h : db.HasQuestion id roomId) (hstays : gone.question id = false) :
    (db.cascade gone).HasQuestion id roomId := by
  obtain ⟨question, hmem, rfl, hroom⟩ := h
  exact ⟨question, List.mem_filter.mpr ⟨hmem, by rw [hstays]; rfl⟩, rfl, hroom⟩

theorem HasQuestion.filter_room (h : db.HasQuestion id roomId) (hclosed : gone.Closed db)
    (hstays : gone.question id = false) : roomId.filter (fun id => ! gone.room id) = roomId := by
  obtain ⟨question, hmem, rfl, rfl⟩ := h
  apply filter_eq_of_any_eq_false
  cases hgone : gone.room question.roomId with
  | false => exact hgone
  | true =>
      rw [hclosed question hmem hgone] at hstays
      cases hstays

theorem Consistent.event_cascade (h : db.Consistent) (hclosed : gone.Closed db)
    {event : EventRow} (hevent : event ∈ db.events.rows) :
    (∀ id ∈ event.questionId.filter fun id => ! gone.question id,
      (db.cascade gone).HasQuestion id (event.roomId.filter fun id => ! gone.room id)) ∧
    ∀ id ∈ event.submissionId.filter fun id => ! decide (db.SubmissionGone gone id),
      (db.cascade gone).HasSubmission id (event.roomId.filter fun id => ! gone.room id) := by
  constructor
  · intro id hid
    obtain ⟨hid, hstays⟩ := Option.mem_filter_iff.mp hid
    rw [Bool.not_eq_true'] at hstays
    have hquestion := h.eventQuestion event hevent id hid
    rw [hquestion.filter_room hclosed hstays]
    exact hquestion.cascade hstays
  · intro id hid
    obtain ⟨hid, hstays⟩ := Option.mem_filter_iff.mp hid
    rw [Bool.not_eq_true', decide_eq_false_iff_not] at hstays
    obtain ⟨row, hrow, rfl, hroom⟩ := h.eventSubmission event hevent id hid
    have hrowStays : ¬ gone.Submission row := fun hgone => hstays ⟨row, hrow, rfl, hgone⟩
    refine ⟨row, List.mem_filter.mpr ⟨hrow, decide_eq_true hrowStays⟩, rfl, ?_⟩
    rw [← hroom, filter_eq_of_any_eq_false]
    exact Bool.eq_false_iff.mpr fun hgone => hrowStays (.inl hgone)

theorem Consistent.cascade (h : db.Consistent) (hclosed : gone.Closed db) :
    (db.cascade gone).Consistent where
  questionRoom question hquestion := by
    obtain ⟨hmem, hstays⟩ := List.mem_filter.mp hquestion
    obtain ⟨room, hroom, hid⟩ := h.questionRoom question hmem
    refine ⟨room, List.mem_filter.mpr ⟨hroom, ?_⟩, hid⟩
    cases hgone : gone.room room.id with
    | false => rfl
    | true =>
        rw [hclosed question hmem (by rw [← hid, hgone])] at hstays
        cases hstays
  assigned participant hparticipant id hid := by
    obtain ⟨old, hold, rfl⟩ := List.mem_map.mp hparticipant
    obtain ⟨hid, hstays⟩ := List.mem_filter.mp hid
    rw [Bool.not_eq_true'] at hstays
    exact (h.assigned old (List.mem_of_mem_filter hold) id hid).cascade hstays
  submission row hrow id hid := by
    obtain ⟨hmem, hstays⟩ := List.mem_filter.mp hrow
    have hstays : ¬ gone.Submission row := of_decide_eq_true hstays
    apply (h.submission row hmem id hid).cascade
    apply Bool.eq_false_iff.mpr
    intro hgone
    exact hstays (.inr (by rw [Option.mem_def.mp hid]; exact hgone))
  snapshot row hrow := by
    obtain ⟨hmem, hstays⟩ := List.mem_filter.mp hrow
    have hstays : ¬ gone.Snapshot row := of_decide_eq_true hstays
    exact (h.snapshot row hmem).cascade
      (Bool.eq_false_iff.mpr fun hgone => hstays (.inr hgone))
  eventQuestion event hevent := by
    obtain ⟨old, hold, rfl⟩ := List.mem_map.mp hevent
    exact (h.event_cascade hclosed hold).1
  eventSubmission event hevent := by
    obtain ⟨old, hold, rfl⟩ := List.mem_map.mp hevent
    exact (h.event_cascade hclosed hold).2

theorem closed_goneWithQuestion (question : Int) : (goneWithQuestion question).Closed db :=
  fun _ _ h => absurd h Bool.false_ne_true

theorem closed_goneWithRoom (room : Int) : (db.goneWithRoom room).Closed db :=
  fun question hquestion h =>
    decide_eq_true ⟨question, hquestion, rfl, of_decide_eq_true h⟩

end Deletions

end Consistency

end ExamTables

end JudgeVortex.System
