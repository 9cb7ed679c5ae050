import JudgeVortex.CoreApi.SubmitSettles

/-!
# Who may submit what

What the checks of `SubmissionCreateView.perform_create` guarantee about a row that
is committed, and which fields of the request reach the conditions of judging.
-/

namespace JudgeVortex.CoreApi

open JudgeVortex.Executor JudgeVortex.Python JudgeVortex.Shared

def Catalogue.participant? (catalogue : Catalogue) (roomId user : Int) :
    Option RoomParticipant :=
  catalogue.participants.find? fun participant =>
    participant.roomId = roomId ∧ participant.studentId = user

def AutoDisqualifies (body : Dict) : Prop :=
  fieldD body "user_input" (.str "") = .str autoDisqualifySentinel

instance (body : Dict) : Decidable (AutoDisqualifies body) :=
  inferInstanceAs (Decidable (_ = _))

structure AdmittedTo (catalogue : Catalogue) (user : Int) (body : Dict) (roomId : Int)
    (participant : RoomParticipant) : Prop where
  found : catalogue.participant? roomId user = some participant
  unlocked : participant.accessLocked = true → AutoDisqualifies body

section Requests

variable [PythonRuntime] {catalogue : Catalogue} {env : SubmitEnv} {nextId user : Int}
  {body : Dict} {prepared : PreparedSubmission}

structure Checked (catalogue : Catalogue) (user : Int) (body : Dict)
    (prepared : PreparedSubmission) : Prop where
  timeLimit : requestedTimeLimit body = .ok prepared.timeLimitMs
  sentinel : prepared.autoDisqualified = true ↔ AutoDisqualifies body
  questionId : parseIdentifier (fieldD body "question_id" .null) = .ok prepared.questionId
  resolved : ∃ roomId, resolveQuestion catalogue roomId prepared.questionId body =
    .ok ⟨prepared.roomId, prepared.question, prepared.judgeCases, prepared.userInput⟩
  admitted : admitParticipant catalogue user prepared.roomId prepared.autoDisqualified =
    .ok prepared.participant
  assigned : checkAssigned prepared.question prepared.participant = .ok ()
  files : normalizeSubmissionFiles (fieldD body "language" .null)
    (fieldD body "code" (.str "")) (fieldD body "files" .null)
    ((fieldD body "entry_file" .null).orElse (.str "")) = .ok prepared.workspace
  language : validateSubmissionLanguage
    ((fieldD body "language" .null).orElse (.str "python")) prepared.workspace.entryFile =
      .ok prepared.language

theorem checked_of_prepareSubmission
    (h : prepareSubmission catalogue env user body = .ok prepared) :
    Checked catalogue user body prepared := by
  simp only [prepareSubmission, bind_eq_ok_iff] at h
  obtain ⟨_, htime, roomId, -, _, hquestion, _, hresolved, _, hadmitted, _, hassigned, _, -,
    _, hfiles, _, hlanguage, h⟩ := h
  cases h
  exact ⟨htime, decide_eq_true_iff, hquestion, ⟨roomId, hresolved⟩, hadmitted, hassigned,
    hfiles, hlanguage⟩

omit [PythonRuntime] in
theorem admitted_of_admitParticipant {roomId : Int} {participant : Option RoomParticipant}
    {autoDisqualified : Bool} (hpos : 0 < roomId)
    (hsentinel : autoDisqualified = true ↔ AutoDisqualifies body)
    (h : admitParticipant catalogue user (some roomId) autoDisqualified = .ok participant) :
    ∃ found, participant = some found ∧ AdmittedTo catalogue user body roomId found := by
  have hfilter : (some roomId).filter (fun id => decide (id ≠ 0)) = some roomId := by
    rw [Option.filter_some, if_pos (by simpa using hpos.ne')]
  rw [admitParticipant, hfilter] at h
  simp only at h
  split at h
  · cases h
  next found hfound =>
    split at h
    · cases h
    next hopen =>
      cases h
      refine ⟨found, rfl, hfound, fun hlocked => ?_⟩
      by_contra hnot
      exact hopen ⟨hlocked, fun hauto => hnot (hsentinel.mp hauto)⟩

omit [PythonRuntime] in
theorem assigned_of_checkAssigned {question : ExamQuestion} {participant : RoomParticipant}
    (h : checkAssigned (some question) (some participant) = .ok ()) :
    question.id ∈ participant.assignedQuestions := by
  unfold checkAssigned at h
  split at h
  next heq => simp_all
  next heq => simp_all

theorem Checked.question_of_refers (h : Checked catalogue user body prepared)
    (hrefers : catalogue.Refers (prepared.row nextId user)) {questionId : Int}
    (hid : prepared.questionId = some questionId) :
    ∃ question, catalogue.question? questionId = some question ∧
      prepared.question = some question ∧ prepared.roomId = some question.roomId ∧
      prepared.judgeCases =
        buildTestcases question.testcaseInput question.expectedOutput ∧
      prepared.userInput = .str question.testcaseInput := by
  obtain ⟨found, hfound⟩ := Option.isSome_iff_exists.mp (hrefers.2 questionId hid)
  obtain ⟨roomId, hresolved⟩ := h.resolved
  obtain ⟨hnone, -⟩ | ⟨id, question, hsome, hquestion, heq⟩ := resolveQuestion_ok hresolved
  · -- A row with this id exists, so the id is not 0.
    have hpos := catalogue.question_pos found (List.mem_of_find?_eq_some hfound)
    have hfoundId : found.id = questionId := by simpa using List.find?_some hfound
    rw [hid, Option.filter_some, if_pos (by simpa using (by omega : questionId ≠ 0))] at hnone
    cases hnone
  · rw [hid] at hsome
    cases hsome
    rw [ResolvedQuestion.mk.injEq] at heq
    exact ⟨question, hquestion, heq.2.1, heq.1, heq.2.2.1, heq.2.2.2⟩

theorem Checked.admitted_of_refers (h : Checked catalogue user body prepared)
    (hrefers : catalogue.Refers (prepared.row nextId user)) {roomId : Int}
    (hroom : prepared.roomId = some roomId) :
    ∃ participant, prepared.participant = some participant ∧
      AdmittedTo catalogue user body roomId participant := by
  have hpos : 0 < roomId := catalogue.room_pos roomId (hrefers.1 roomId hroom)
  have hadmitted := h.admitted
  rw [hroom] at hadmitted
  exact admitted_of_admitParticipant hpos h.sentinel hadmitted

/-- A row that is committed belongs to a participant who may submit it. -/
theorem submission_admitted {row : Submission}
    (h : (performCreate catalogue env nextId user body).created = some row) :
    (∀ roomId, row.roomId = some roomId →
      ∃ participant, AdmittedTo catalogue user body roomId participant) ∧
    ∀ questionId, row.questionId = some questionId → ∃ question participant,
      catalogue.question? questionId = some question ∧
      row.roomId = some question.roomId ∧
      AdmittedTo catalogue user body question.roomId participant ∧
      question.id ∈ participant.assignedQuestions ∧
      ∀ message ∈ (performCreate catalogue env nextId user body).dispatch.sent,
        message.job.judgeCases =
          buildTestcases question.testcaseInput question.expectedOutput := by
  obtain ⟨prepared, hprepared, rfl, hrefers, hdispatch⟩ := performCreate_created h
  have hchecked := checked_of_prepareSubmission hprepared
  constructor
  · intro roomId hroom
    obtain ⟨participant, -, hadmitted⟩ := hchecked.admitted_of_refers hrefers hroom
    exact ⟨participant, hadmitted⟩
  · intro questionId hid
    obtain ⟨question, hfound, hquestion, hroom, hcases, -⟩ :=
      hchecked.question_of_refers hrefers hid
    obtain ⟨participant, hparticipant, hadmitted⟩ :=
      hchecked.admitted_of_refers hrefers hroom
    refine ⟨question, participant, hfound, hroom, hadmitted, ?_, ?_⟩
    · have hassigned := hchecked.assigned
      rw [hquestion, hparticipant] at hassigned
      exact assigned_of_checkAssigned hassigned
    · intro message hsent
      rw [hdispatch] at hsent
      rw [sent_afterCreate hsent]
      exact hcases

/-! ## The conditions of judging -/

theorem performCreate_sent {message : JobMessage}
    (h : message ∈ (performCreate catalogue env nextId user body).dispatch.sent) :
    ∃ prepared, Checked catalogue user body prepared ∧
      catalogue.Refers (prepared.row nextId user) ∧
      message = prepared.message (prepared.row nextId user) := by
  cases hcreated : (performCreate catalogue env nextId user body).created with
  | some row =>
      obtain ⟨prepared, hprepared, rfl, hrefers, hdispatch⟩ := performCreate_created hcreated
      rw [hdispatch] at h
      exact ⟨prepared, checked_of_prepareSubmission hprepared, hrefers, sent_afterCreate h⟩
  | none =>
      obtain ⟨error, hrejected⟩ := performCreate_rejected hcreated
      rw [hrejected] at h
      cases h

end Requests

def workFields : List String := ["question_id", "code", "files", "entry_file", "language"]

def SubmitsSameWork (body₁ body₂ : Dict) : Prop :=
  ∀ key ∈ workFields, field? body₁ key = field? body₂ key

/-- Two jobs are judged alike: they agree on all that the grader reads but the id. -/
structure JudgedAlike (a b : Job) : Prop where
  code_eq : a.code = b.code
  files_eq : a.files = b.files
  entryFile_eq : a.entryFile = b.entryFile
  language_eq : a.language = b.language
  judgeCases_eq : a.judgeCases = b.judgeCases
  userInput_eq : a.userInput = b.userInput
  timeLimitMs_eq : a.timeLimitMs = b.timeLimitMs

section Requests

variable [PythonRuntime] {catalogue : Catalogue} {user : Int} {body₁ body₂ : Dict}

/-- Two final submits of the same work are judged alike exactly if the time limits that
they ask for are the same. -/
theorem judging_conditions_agree_iff {env₁ env₂ : SubmitEnv} {nextId₁ nextId₂ : Int}
    {message₁ message₂ : JobMessage} (hwork : SubmitsSameWork body₁ body₂)
    (hfinal : (fieldD body₁ "question_id" .null).truthy = true)
    (h₁ : message₁ ∈ (performCreate catalogue env₁ nextId₁ user body₁).dispatch.sent)
    (h₂ : message₂ ∈ (performCreate catalogue env₂ nextId₂ user body₂).dispatch.sent) :
    JudgedAlike message₁.job message₂.job ↔
      requestedTimeLimit body₁ = requestedTimeLimit body₂ := by
  have hfield : ∀ key ∈ workFields, ∀ default,
      fieldD body₁ key default = fieldD body₂ key default := by
    intro key hkey default
    rw [fieldD, fieldD, hwork key hkey]
  obtain ⟨prepared₁, hchecked₁, hrefers₁, rfl⟩ := performCreate_sent h₁
  obtain ⟨prepared₂, hchecked₂, hrefers₂, rfl⟩ := performCreate_sent h₂
  have hid : prepared₁.questionId = prepared₂.questionId := by
    have hparsed := hchecked₁.questionId
    rw [hfield _ (by decide), hchecked₂.questionId] at hparsed
    exact (Except.ok.inj hparsed).symm
  obtain ⟨questionId, hsome⟩ : ∃ id, prepared₁.questionId = some id := by
    have hparsed := hchecked₁.questionId
    rw [parseIdentifier, if_pos hfinal] at hparsed
    split at hparsed
    · exact ⟨_, (Except.ok.inj hparsed).symm⟩
    all_goals cases hparsed
  obtain ⟨question, hfound, -, -, hcases₁, hinput₁⟩ :=
    hchecked₁.question_of_refers hrefers₁ hsome
  obtain ⟨other, hother, -, -, hcases₂, hinput₂⟩ :=
    hchecked₂.question_of_refers hrefers₂ (hid ▸ hsome)
  obtain rfl : question = other := Option.some.inj (hfound.symm.trans hother)
  have hworkspace : prepared₁.workspace = prepared₂.workspace := by
    have hfiles := hchecked₁.files
    rw [hfield _ (by decide), hfield _ (by decide), hfield _ (by decide),
      hfield _ (by decide), hchecked₂.files] at hfiles
    exact (Except.ok.inj hfiles).symm
  have hlanguage : prepared₁.language = prepared₂.language := by
    have hvalidated := hchecked₁.language
    rw [hfield _ (by decide), hworkspace, hchecked₂.language] at hvalidated
    exact (Except.ok.inj hvalidated).symm
  rw [hchecked₁.timeLimit, hchecked₂.timeLimit, Except.ok.injEq]
  constructor
  · exact fun halike => halike.timeLimitMs_eq
  · intro htime
    exact {
      code_eq := congrArg Workspace.code hworkspace
      files_eq := congrArg Workspace.files hworkspace
      entryFile_eq := congrArg Workspace.entryFile hworkspace
      language_eq := hlanguage
      judgeCases_eq := hcases₁.trans hcases₂.symm
      userInput_eq := hinput₁.trans hinput₂.symm
      timeLimitMs_eq := htime }

end Requests

/-! ## Requests of one student -/

theorem submission_admitted_exam :
    letI := plainRuntime
    ∃ participant, AdmittedTo examCatalogue 3 examBody 1 participant := by
  let := plainRuntime
  have hroom : (performCreate examCatalogue (envRaising []) 7 3 examBody).created.map
      Submission.roomId = some (some 1) := by
    decide +kernel
  obtain ⟨row, hcreated, hroom⟩ := Option.map_eq_some_iff.mp hroom
  exact (submission_admitted hcreated).1 1 hroom

def customInputBody : Dict := examBody ++ [("user_input", .str "9")]

def longTimeLimitBody : Dict := examBody ++ [("time_limit_ms", .int 3600000)]

private theorem submitsSameWork_append {body extra : Dict}
    (h : ∀ key ∈ workFields, key ∉ extra.map Prod.fst) :
    SubmitsSameWork body (body ++ extra) :=
  fun key hkey => (field?_append_of_not_mem (h key hkey)).symm

private theorem sent_exam (body : Dict) (timeLimitMs : Int)
    (h : letI := plainRuntime
      (performCreate examCatalogue (envRaising []) 7 3 body).dispatch.sent.map
        (fun message => message.job.timeLimitMs) = some timeLimitMs) :
    letI := plainRuntime
    ∃ message ∈ (performCreate examCatalogue (envRaising []) 7 3 body).dispatch.sent,
      message.job.timeLimitMs = timeLimitMs := by
  let := plainRuntime
  obtain ⟨message, hsent, htime⟩ := Option.map_eq_some_iff.mp h
  exact ⟨message, hsent, htime⟩

theorem judging_conditions_agree_custom_input :
    letI := plainRuntime
    ∃ message₁ ∈ (performCreate examCatalogue (envRaising []) 7 3 examBody).dispatch.sent,
      ∃ message₂ ∈
        (performCreate examCatalogue (envRaising []) 7 3 customInputBody).dispatch.sent,
      JudgedAlike message₁.job message₂.job := by
  let := plainRuntime
  obtain ⟨message₁, h₁, -⟩ := sent_exam examBody 10000 (by decide +kernel)
  obtain ⟨message₂, h₂, -⟩ := sent_exam customInputBody 10000 (by decide +kernel)
  refine ⟨message₁, h₁, message₂, h₂, ?_⟩
  exact (judging_conditions_agree_iff (submitsSameWork_append (by decide)) rfl h₁ h₂).mpr
    rfl

/-- A final submit is judged under the time limit that its own body names. -/
theorem student_sets_time_limit :
    letI := plainRuntime
    ¬ ∀ (catalogue : Catalogue) (env₁ env₂ : SubmitEnv) (nextId₁ nextId₂ user : Int)
        (body₁ body₂ : Dict) (message₁ message₂ : JobMessage),
      SubmitsSameWork body₁ body₂ → (fieldD body₁ "question_id" .null).truthy = true →
      ¬ AutoDisqualifies body₁ → ¬ AutoDisqualifies body₂ →
      message₁ ∈ (performCreate catalogue env₁ nextId₁ user body₁).dispatch.sent →
      message₂ ∈ (performCreate catalogue env₂ nextId₂ user body₂).dispatch.sent →
      JudgedAlike message₁.job message₂.job := by
  let := plainRuntime
  intro h
  obtain ⟨message₁, h₁, htime₁⟩ := sent_exam examBody 10000 (by decide +kernel)
  obtain ⟨message₂, h₂, htime₂⟩ := sent_exam longTimeLimitBody 3600000 (by decide +kernel)
  have halike := h examCatalogue (envRaising []) (envRaising []) 7 7 3 examBody
    longTimeLimitBody message₁ message₂ (submitsSameWork_append (by decide)) rfl
    (by decide) (by decide) h₁ h₂
  have htime := halike.timeLimitMs_eq
  rw [htime₁, htime₂] at htime
  exact absurd htime (by decide)

end JudgeVortex.CoreApi
