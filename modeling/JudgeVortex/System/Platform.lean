import JudgeVortex.CoreApi.SubmitSettles
import JudgeVortex.System.Grading

/-!
# The platform as one system

The web tier's rows, the messages the broker holds, and the executors' callbacks that
may still reach the web tier.  A step is one request, one grading of a message or one
delivery of a callback; messages and callbacks stay, so both may happen again.
-/

namespace JudgeVortex.System

open JudgeVortex.CoreApi JudgeVortex.Executor JudgeVortex.Python JudgeVortex.Shared

structure Grading where
  job : Job
  answers : SandboxAnswers

/-- `hiddenCases` remembers the hidden cases of a submission's question when it was
made, and `gradings` what the executors ran; no step reads them. -/
structure Platform where
  catalogue : Catalogue
  submissions : List Submission
  nextId : Int
  messages : List JobMessage
  callbacks : List (Int × CallbackPayload)
  gradings : List Grading
  hiddenCases : List (Int × List TestCase)

def Platform.start (catalogue : Catalogue) : Platform :=
  ⟨catalogue, [], 1, [], [], [], []⟩

/-- `change` stands for every other endpoint: none of them writes a submission, but a
room or a question that goes takes its submissions along. -/
inductive Event where
  | submit (env : SubmitEnv) (user : Int) (body : Dict)
  | update (id : Int) (body : Json) (saved : Bool)
  | delete (user id : Int)
  | change (catalogue : Catalogue)
  | grade (index : Nat) (answers : SandboxAnswers)
  | fault (index : Nat) (output : String)
  | callback (index : Nat)

def questionOf (catalogue : Catalogue) (row : Submission) : Option ExamQuestion :=
  row.questionId.bind catalogue.question?

def faultPayload (output : String) : CallbackPayload :=
  ⟨"SYSTEM_ERROR", output, 0, none, none⟩

def Platform.updateRow (p : Platform) (id : Int) (f : Submission → Submission) : Platform :=
  { p with submissions := p.submissions.map fun row => if row.id = id then f row else row }

section Step

variable [PythonRuntime]

def Platform.submit (p : Platform) (env : SubmitEnv) (user : Int) (body : Dict) : Platform :=
  let run := performCreate p.catalogue env p.nextId user body
  match run.created with
  | none => p
  | some row =>
      { p with
        submissions := p.submissions ++ run.dispatch.row.toList
        nextId := p.nextId + 1
        messages := p.messages ++ run.dispatch.sent.toList
        hiddenCases := p.hiddenCases ++ ((questionOf p.catalogue row).map fun question =>
          (row.id, buildTestcases question.testcaseInput question.expectedOutput)).toList }

def Platform.grade (p : Platform) (job : Job) (answers : SandboxAnswers) : Platform :=
  let report := (gradeSubmission job answers.env).report
  { p with
    gradings := p.gradings ++ [⟨job, answers⟩]
    callbacks := p.callbacks ++ report.toOption.toList.map fun payload =>
      (job.submissionId, payload) }

def Platform.step (p : Platform) : Event → Platform
  | .submit env user body => p.submit env user body
  | .update id body saved =>
      p.updateRow id fun row => patchSubmission (questionOf p.catalogue row) row body saved
  | .delete user id =>
      { p with submissions := p.submissions.filter fun row =>
          ¬ (row.id = id ∧ row.userId = user) }
  | .change catalogue =>
      { p with
        catalogue := catalogue
        submissions := p.submissions.filter fun row => catalogue.Refers row }
  | .grade index answers =>
      match p.messages[index]? with
      | none => p
      | some message => p.grade message.job answers
  | .fault index output =>
      match p.messages[index]? with
      | none => p
      | some message =>
          { p with callbacks :=
              p.callbacks ++ [(message.job.submissionId, faultPayload output)] }
  | .callback index =>
      match p.callbacks[index]? with
      | none => p
      | some (id, payload) =>
          p.updateRow id fun row => callbackRow (questionOf p.catalogue row) row payload

end Step

/-! ## What verdicts leave alone -/

structure SameWork (new old : Submission) : Prop where
  id_eq : new.id = old.id
  questionId_eq : new.questionId = old.questionId
  code_eq : new.code = old.code
  files_eq : new.files = old.files
  entryFile_eq : new.entryFile = old.entryFile
  language_eq : new.language = old.language

theorem SameWork.refl (row : Submission) : SameWork row row := ⟨rfl, rfl, rfl, rfl, rfl, rfl⟩

theorem SameWork.symm {new old : Submission} (h : SameWork new old) : SameWork old new :=
  ⟨h.id_eq.symm, h.questionId_eq.symm, h.code_eq.symm, h.files_eq.symm,
    h.entryFile_eq.symm, h.language_eq.symm⟩

theorem SameWork.describes {new old : Submission} (h : SameWork new old) {job : Job}
    (hjob : Describes job old) : Describes job new := by
  obtain ⟨hid, hcode, hfiles, hentry, hlanguage⟩ := hjob
  exact ⟨hid.trans h.id_eq.symm, hcode.trans h.code_eq.symm, hfiles.trans h.files_eq.symm,
    hentry.trans h.entryFile_eq.symm, hlanguage.trans h.language_eq.symm⟩

theorem SameWork.questionOf {new old : Submission} (h : SameWork new old)
    (catalogue : Catalogue) :
    System.questionOf catalogue new = System.questionOf catalogue old := by
  rw [System.questionOf, System.questionOf, h.questionId_eq]

section Stored

variable [PythonRuntime]

theorem store_sameWork (row : Submission) (verdict : Verdict) :
    SameWork ((row.store verdict).getD row) row := by
  by_cases hnull : verdict.status = .null
  · rw [store_of_null hnull]
    exact .refl row
  · rw [store_of_ne_null row hnull]
    exact ⟨rfl, rfl, rfl, rfl, rfl, rfl⟩

theorem patchSubmission_sameWork (question : Option ExamQuestion) (row : Submission)
    (body : Json) (saved : Bool) :
    SameWork (patchSubmission question row body saved) row := by
  unfold patchSubmission
  split
  · split
    · exact store_sameWork row _
    · exact .refl row
  · exact .refl row

theorem storeReport_sameWork (question : Option ExamQuestion) (row : Submission)
    (report : Report) : SameWork (storeReport question row report) row := by
  unfold storeReport
  split
  · exact store_sameWork row _
  · exact .refl row

theorem afterCreate_sameWork {env : SubmitEnv} {prepared : PreparedSubmission}
    {row new : Submission} (h : new ∈ (afterCreate env prepared row).row) :
    SameWork new row := by
  by_cases hinline : RunsInline env row
  · simp only [afterCreate, hinline, if_true] at h
    split at h
    · cases h
      exact .refl row
    simp only [dispatchInline] at h
    split at h
    · cases h
      exact .refl row
    next report _ =>
      split at h
      · cases h
        exact .refl row
      split at h
      · cases h
        exact storeReport_sameWork none row report
      · cases h
        exact storeReport_sameWork none row report
  · obtain rfl | rfl := row_afterCreate hinline h
    · exact .refl _
    · exact ⟨rfl, rfl, rfl, rfl, rfl, rfl⟩

end Stored

end JudgeVortex.System
