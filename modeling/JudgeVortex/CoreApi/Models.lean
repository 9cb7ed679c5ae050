import Mathlib.Init

/-!
# Stored rows

The rows of `core_api/models.py` that grading reads and writes.
-/

namespace JudgeVortex.CoreApi

structure WorkspaceFile where
  path : String
  content : String
  deriving DecidableEq, Repr

structure ExamQuestion where
  id : Int
  roomId : Int
  totalMarks : Int
  testcaseInput : String
  expectedOutput : String
  deriving DecidableEq, Repr

structure Submission where
  id : Int
  userId : Int
  roomId : Option Int
  questionId : Option Int
  awardedMarks : Int
  passedTestcases : Int
  totalTestcases : Int
  output : Option String
  code : String
  files : List WorkspaceFile
  entryFile : String
  language : String
  status : String
  executionTimeMs : Option Int
  deriving DecidableEq, Repr

/-- The time in microseconds. -/
abbrev Time := Int

structure TimedSubmission extends Submission where
  submittedAt : Time

structure RoomParticipant where
  roomId : Int
  studentId : Int
  accessLocked : Bool
  assignedQuestions : List Int
  deriving DecidableEq, Repr

/-- The tables that a submission refers to.  Primary keys start at 1. -/
structure Catalogue where
  rooms : List Int
  questions : List ExamQuestion
  participants : List RoomParticipant
  room_pos : ∀ id ∈ rooms, 0 < id
  question_pos : ∀ question ∈ questions, 0 < question.id

def Catalogue.question? (catalogue : Catalogue) (id : Int) : Option ExamQuestion :=
  catalogue.questions.find? fun question => question.id = id

def Catalogue.Refers (catalogue : Catalogue) (submission : Submission) : Prop :=
  (∀ id ∈ submission.roomId, id ∈ catalogue.rooms) ∧
    ∀ id ∈ submission.questionId, (catalogue.question? id).isSome

instance (catalogue : Catalogue) (submission : Submission) :
    Decidable (catalogue.Refers submission) :=
  inferInstanceAs (Decidable (_ ∧ _))

end JudgeVortex.CoreApi
