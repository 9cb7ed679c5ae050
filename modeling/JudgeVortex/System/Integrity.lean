import JudgeVortex.CoreApi.Passing
import JudgeVortex.System.Platform

/-!
# Who can pass a submission

A submission of a question should be PASSED only on the report of an executor that
graded it.  The update endpoint takes a verdict from any client, and this is the one
way around.
-/

namespace JudgeVortex.System

open JudgeVortex.CoreApi JudgeVortex.Executor JudgeVortex.Foundation JudgeVortex.Python
  JudgeVortex.Shared

def Grading.ReportsAllPassed (grading : Grading) : Prop :=
  ∃ output time, (gradeSubmission grading.job grading.answers.env).report =
    .ok ⟨"SUCCESS", output, time, some grading.job.judgeCases.length,
      some grading.job.judgeCases.length⟩

/-- An executor graded the work of the row on the hidden cases, and all passed. -/
def HonestlyPassed (p : Platform) (row : Submission) : Prop :=
  ∃ grading ∈ p.gradings, Describes grading.job row ∧
    (row.id, grading.job.judgeCases) ∈ p.hiddenCases ∧ grading.ReportsAllPassed

def Integrity (p : Platform) : Prop :=
  ∀ row ∈ p.submissions, row.questionId ≠ none → row.status = "PASSED" →
    HonestlyPassed p row

/-- A stored update asks to pass a row of a question that no executor has passed. -/
def ForgesPass [PythonRuntime] (p : Platform) : Event → Prop
  | .update id body saved => saved = true ∧
      ∃ row ∈ p.submissions, row.id = id ∧ row.questionId ≠ none ∧
        (∃ question ∈ questionOf p.catalogue row, AsksForPass question row body) ∧
        ¬ HonestlyPassed p row
  | _ => False

/-! ## Where messages, gradings and callbacks come from -/

/-- Messages carry the stored work with its hidden cases, executors grade messages, and
callbacks report a fault or what was graded. -/
structure Sound (p : Platform) : Prop where
  rows_old : ∀ row ∈ p.submissions, row.id < p.nextId
  messages_old : ∀ message ∈ p.messages, message.job.submissionId < p.nextId
  messages_true : ∀ message ∈ p.messages, ∀ row ∈ p.submissions, row.questionId ≠ none →
    row.id = message.job.submissionId → Describes message.job row ∧
      (row.id, message.job.judgeCases) ∈ p.hiddenCases ∧ message.job.judgeCases ≠ []
  gradings_true : ∀ grading ∈ p.gradings, ∃ message ∈ p.messages, grading.job = message.job
  callbacks_true : ∀ callback ∈ p.callbacks, (∃ output, callback.2 = faultPayload output) ∨
    ∃ grading ∈ p.gradings, grading.job.submissionId = callback.1 ∧
      (gradeSubmission grading.job grading.answers.env).report = .ok callback.2
  questions_known : ∀ row ∈ p.submissions, row.questionId ≠ none →
    (questionOf p.catalogue row).isSome

theorem start_sound (catalogue : Catalogue) : Sound (.start catalogue) := by
  constructor <;> simp [Platform.start]

theorem Sound.of_rows {p : Platform} (h : Sound p) {catalogue : Catalogue}
    {submissions : List Submission}
    (hrows : ∀ new ∈ submissions, ∃ old ∈ p.submissions, SameWork new old)
    (hknown : ∀ new ∈ submissions, new.questionId ≠ none →
      (questionOf catalogue new).isSome) :
    Sound { p with catalogue := catalogue, submissions := submissions } where
  rows_old := by
    intro new hnew
    obtain ⟨old, hold, hwork⟩ := hrows new hnew
    rw [hwork.id_eq]
    exact h.rows_old old hold
  messages_old := h.messages_old
  messages_true := by
    intro message hmessage new hnew hquestion hid
    obtain ⟨old, hold, hwork⟩ := hrows new hnew
    rw [hwork.questionId_eq] at hquestion
    rw [hwork.id_eq] at hid ⊢
    obtain ⟨hdescribes, hcases⟩ := h.messages_true message hmessage old hold hquestion hid
    exact ⟨hwork.describes hdescribes, hcases⟩
  gradings_true := h.gradings_true
  callbacks_true := h.callbacks_true
  questions_known := hknown

theorem Sound.updateRow {p : Platform} (h : Sound p) (id : Int)
    {f : Submission → Submission} (hf : ∀ row, SameWork (f row) row) :
    Sound (p.updateRow id f) := by
  have hrows : ∀ new ∈ (p.updateRow id f).submissions,
      ∃ old ∈ p.submissions, SameWork new old := by
    intro new hnew
    obtain ⟨old, hold, rfl⟩ := List.mem_map.mp hnew
    refine ⟨old, hold, ?_⟩
    split
    · exact hf old
    · exact .refl old
  refine h.of_rows hrows fun new hnew hquestion => ?_
  obtain ⟨old, hold, hwork⟩ := hrows new hnew
  rw [hwork.questionOf]
  exact h.questions_known old hold (hwork.questionId_eq ▸ hquestion)

theorem Sound.filter {p : Platform} (h : Sound p) {catalogue : Catalogue}
    (keep : Submission → Bool)
    (hknown : ∀ row ∈ p.submissions, keep row = true → row.questionId ≠ none →
      (questionOf catalogue row).isSome) :
    Sound { p with
      catalogue := catalogue
      submissions := p.submissions.filter keep } := by
  refine h.of_rows (fun row hrow => ⟨row, List.mem_of_mem_filter hrow, .refl row⟩) ?_
  intro row hrow hquestion
  obtain ⟨hmem, hkeep⟩ := List.mem_filter.mp hrow
  exact hknown row hmem hkeep hquestion

theorem Sound.callback {p : Platform} (h : Sound p) (id : Int) (output : String) :
    Sound { p with callbacks := p.callbacks ++ [(id, faultPayload output)] } where
  rows_old := h.rows_old
  messages_old := h.messages_old
  messages_true := h.messages_true
  gradings_true := h.gradings_true
  callbacks_true := by
    intro callback hcallback
    rw [List.mem_append, List.mem_singleton] at hcallback
    obtain hold | rfl := hcallback
    · exact h.callbacks_true callback hold
    · exact .inl ⟨output, rfl⟩
  questions_known := h.questions_known

theorem Sound.grade {p : Platform} (h : Sound p) {message : JobMessage}
    (hmessage : message ∈ p.messages) (answers : SandboxAnswers) :
    Sound (p.grade message.job answers) where
  rows_old := h.rows_old
  messages_old := h.messages_old
  messages_true := h.messages_true
  gradings_true := by
    intro grading hgrading
    rw [Platform.grade, List.mem_append, List.mem_singleton] at hgrading
    obtain hold | rfl := hgrading
    · exact h.gradings_true grading hold
    · exact ⟨message, hmessage, rfl⟩
  callbacks_true := by
    intro callback hcallback
    simp only [Platform.grade, List.mem_append, List.mem_map, Option.mem_toList] at hcallback ⊢
    obtain hold | ⟨payload, hpayload, rfl⟩ := hcallback
    · refine (h.callbacks_true callback hold).imp_right ?_
      rintro ⟨grading, hgrading, hreport⟩
      exact ⟨grading, .inl hgrading, hreport⟩
    · right
      refine ⟨⟨message.job, answers⟩, .inr (List.mem_singleton_self _), rfl, ?_⟩
      cases hreport : (gradeSubmission message.job answers.env).report with
      | error error => simp [hreport, Except.toOption] at hpayload
      | ok report => simp_all [Except.toOption]
  questions_known := h.questions_known

section Steps

variable [PythonRuntime]

theorem hiddenCases_of_refers {catalogue : Catalogue} {env : SubmitEnv} {user nextId : Int}
    {body : Dict} {prepared : PreparedSubmission}
    (hprepared : prepareSubmission catalogue env user body = .ok prepared)
    (hrefers : catalogue.Refers (prepared.row nextId user))
    (hquestion : (prepared.row nextId user).questionId ≠ none) :
    ∃ question, questionOf catalogue (prepared.row nextId user) = some question ∧
      prepared.judgeCases =
        buildTestcases question.testcaseInput question.expectedOutput := by
  obtain ⟨hnone, -⟩ | ⟨id, question, hsome, hfound, -, hcases, -⟩ :=
    question_of_refers hprepared hrefers
  · exact absurd hnone hquestion
  · refine ⟨question, ?_, hcases⟩
    change prepared.questionId.bind catalogue.question? = some question
    rw [hsome]
    exact hfound

theorem Sound.submit {p : Platform} (h : Sound p) (env : SubmitEnv) (user : Int)
    (body : Dict) : Sound (p.submit env user body) := by
  unfold Platform.submit
  cases hcreated : (performCreate p.catalogue env p.nextId user body).created with
  | none => simpa only [hcreated] using h
  | some row =>
  obtain ⟨prepared, hprepared, rfl, hrefers, hdispatch⟩ := performCreate_created hcreated
  simp only [hcreated, hdispatch]
  set row := prepared.row p.nextId user with hrow
  have hwork : ∀ new ∈ (afterCreate env prepared row).row, SameWork new row :=
    fun new hnew => afterCreate_sameWork hnew
  have hid : row.id = p.nextId := rfl
  constructor
  · intro new hnew
    rw [List.mem_append, Option.mem_toList] at hnew
    obtain hold | hnew := hnew
    · exact (h.rows_old new hold).trans (lt_add_one p.nextId)
    · rw [(hwork new hnew).id_eq, hid]
      exact lt_add_one p.nextId
  · intro message hmessage
    rw [List.mem_append, Option.mem_toList] at hmessage
    obtain hold | hnew := hmessage
    · exact (h.messages_old message hold).trans (lt_add_one p.nextId)
    · rw [sent_afterCreate hnew]
      exact lt_add_one p.nextId
  · intro message hmessage new hnew hquestion hsame
    rw [List.mem_append, Option.mem_toList] at hmessage hnew
    obtain hmessage | hmessage := hmessage <;> obtain hnew | hnew := hnew
    · obtain ⟨hdescribes, hcases, hne⟩ :=
        h.messages_true message hmessage new hnew hquestion hsame
      exact ⟨hdescribes, List.mem_append_left _ hcases, hne⟩
    · have hlt := h.messages_old message hmessage
      rw [(hwork new hnew).id_eq, hid] at hsame
      omega
    · have hlt := h.rows_old new hnew
      rw [sent_afterCreate hmessage] at hsame
      change new.id = p.nextId at hsame
      omega
    · rw [sent_afterCreate hmessage]
      have hnewWork := hwork new hnew
      rw [hnewWork.questionId_eq] at hquestion
      obtain ⟨question, hlookup, hcases⟩ :=
        hiddenCases_of_refers hprepared hrefers hquestion
      refine ⟨hnewWork.describes ⟨rfl, rfl, rfl, rfl, rfl⟩, ?_, ?_⟩
      · rw [hlookup, hnewWork.id_eq]
        apply List.mem_append_right
        simp [PreparedSubmission.message, hcases]
      · change prepared.judgeCases ≠ []
        rw [hcases]
        exact buildTestcases_ne_nil _ _
  · intro grading hgrading
    obtain ⟨message, hmessage, heq⟩ := h.gradings_true grading hgrading
    exact ⟨message, List.mem_append_left _ hmessage, heq⟩
  · exact h.callbacks_true
  · intro new hnew hquestion
    rw [List.mem_append, Option.mem_toList] at hnew
    obtain hold | hnew := hnew
    · exact h.questions_known new hold hquestion
    · rw [(hwork new hnew).questionOf]
      rw [(hwork new hnew).questionId_eq] at hquestion
      obtain ⟨id, hquestionId⟩ := Option.ne_none_iff_exists'.mp hquestion
      change (row.questionId.bind p.catalogue.question?).isSome
      rw [hquestionId]
      exact hrefers.2 id hquestionId

theorem step_sound {p : Platform} (h : Sound p) (event : Event) : Sound (p.step event) := by
  cases event with
  | submit env user body => exact h.submit env user body
  | update id body saved =>
      exact h.updateRow id fun row => patchSubmission_sameWork _ row body saved
  | delete user id => exact h.filter _ fun row hrow _ => h.questions_known row hrow
  | change catalogue =>
      refine h.filter _ fun row _ hkeep hquestion => ?_
      obtain ⟨id, hid⟩ := Option.ne_none_iff_exists'.mp hquestion
      simp only [decide_eq_true_eq] at hkeep
      rw [questionOf, hid]
      exact hkeep.2 id hid
  | grade index answers =>
      simp only [Platform.step]
      split
      · exact h
      next hmessage => exact h.grade (List.mem_of_getElem? hmessage) answers
  | fault index output =>
      simp only [Platform.step]
      split
      · exact h
      · exact h.callback _ output
  | callback index =>
      simp only [Platform.step]
      split
      · exact h
      · exact h.updateRow _ fun row => patchSubmission_sameWork _ row _ true

/-! ## What one step does to integrity -/

omit [PythonRuntime] in
theorem HonestlyPassed.mono {p q : Platform} {new old : Submission}
    (h : HonestlyPassed p old) (hgradings : p.gradings ⊆ q.gradings)
    (hcases : p.hiddenCases ⊆ q.hiddenCases) (hwork : SameWork new old) :
    HonestlyPassed q new := by
  obtain ⟨grading, hgrading, hdescribes, hmem, hreports⟩ := h
  refine ⟨grading, hgradings hgrading, hwork.describes hdescribes, ?_, hreports⟩
  rw [hwork.id_eq]
  exact hcases hmem

omit [PythonRuntime] in
theorem Integrity.of_subset {p q : Platform} (h : Integrity p)
    (hrows : q.submissions ⊆ p.submissions) (hgradings : p.gradings ⊆ q.gradings)
    (hcases : p.hiddenCases ⊆ q.hiddenCases) : Integrity q :=
  fun row hrow hquestion hpassed =>
    (h row (hrows hrow) hquestion hpassed).mono hgradings hcases (.refl row)

theorem Integrity.submit {p : Platform} (h : Integrity p) (env : SubmitEnv) (user : Int)
    (body : Dict) : Integrity (p.submit env user body) := by
  unfold Platform.submit
  cases hcreated : (performCreate p.catalogue env p.nextId user body).created with
  | none => simpa only [hcreated] using h
  | some row =>
  obtain ⟨prepared, -, rfl, -, hdispatch⟩ := performCreate_created hcreated
  simp only [hcreated, hdispatch]
  intro new hnew hquestion hpassed
  rw [List.mem_append, Option.mem_toList] at hnew
  obtain hold | hnew := hnew
  · exact (h new hold hquestion hpassed).mono (List.Subset.refl _)
      (List.subset_append_left _ _) (.refl new)
  · -- A new row with a question is pending or marked as a system error.
    rw [(afterCreate_sameWork hnew).questionId_eq] at hquestion
    obtain rfl | rfl := row_afterCreate (not_runsInline_of_question hquestion) hnew <;>
      simp [PreparedSubmission.row] at hpassed

theorem reportsAllPassed_of_callbackRow {question : ExamQuestion} {row : Submission}
    {grading : Grading} {payload : CallbackPayload} (hcases : grading.job.judgeCases ≠ [])
    (hreport : (gradeSubmission grading.job grading.answers.env).report = .ok payload)
    (hpassed : (callbackRow (some question) row payload).status = "PASSED") :
    grading.ReportsAllPassed := by
  obtain ⟨job, preparation, results, hfailed, hresults⟩ := grading
  simp only [SandboxAnswers.env] at hreport hcases ⊢
  cases preparation with
  | failed result =>
      have hstatus := hfailed result rfl
      obtain ⟨other, hother, hgraded, -⟩ := graded_of_failed question row job hcases hstatus
        fun i => .ok (results i)
      obtain rfl := Except.ok.inj (hreport.symm.trans hother)
      have heq := hgraded.status_eq
      rw [hpassed] at heq
      rw [← heq] at hstatus
      simp at hstatus
  | ready =>
      obtain hall | ⟨k, hk⟩ := allPass_or_firstFails results 0 job.judgeCases
      · obtain ⟨output, time, hloop⟩ :=
          gradeCases_of_allPass hall job.judgeCases.length 0 0 ""
        rw [Int.zero_add] at hloop
        refine ⟨output, time, ?_⟩
        simp only [gradeSubmission, SandboxAnswers.env, if_neg hcases, hloop]
      · obtain ⟨other, hother, hgraded, -⟩ := graded_of_firstFails question row job hk (hresults k)
        obtain rfl := Except.ok.inj (hreport.symm.trans hother)
        exact absurd (hgraded.status_eq.symm.trans hpassed) (failedStatus_ne_passed (hresults k))

omit [PythonRuntime] in
theorem Integrity.updateRow {p : Platform} (h : Integrity p) (id : Int)
    {f : Submission → Submission} (hf : ∀ row, SameWork (f row) row)
    (hhonest : ∀ row ∈ p.submissions, row.id = id → row.questionId ≠ none →
      (f row).status = "PASSED" → HonestlyPassed p row) : Integrity (p.updateRow id f) := by
  intro new hnew hquestion hpassed
  obtain ⟨row, hrow, rfl⟩ := List.mem_map.mp hnew
  by_cases hid : row.id = id
  · simp only [if_pos hid] at hquestion hpassed ⊢
    rw [(hf row).questionId_eq] at hquestion
    exact (hhonest row hrow hid hquestion hpassed).mono (List.Subset.refl _)
      (List.Subset.refl _) (hf row)
  · simp only [if_neg hid] at hquestion hpassed ⊢
    exact (h row hrow hquestion hpassed).mono (List.Subset.refl _) (List.Subset.refl _)
      (.refl row)

theorem integrity_update_iff {p : Platform} (hsound : Sound p) (h : Integrity p) (id : Int)
    (body : Json) (saved : Bool) :
    Integrity (p.step (.update id body saved)) ↔ ¬ ForgesPass p (.update id body saved) := by
  have hwork (row : Submission) :=
    patchSubmission_sameWork (questionOf p.catalogue row) row body saved
  constructor
  · rintro hintegrity ⟨rfl, row, hrow, rfl, hquestion, ⟨question, hlookup, hasks⟩, hnot⟩
    have hstored : patchSubmission (questionOf p.catalogue row) row body true ∈
        (p.step (.update row.id body true)).submissions :=
      List.mem_map.mpr ⟨row, hrow, if_pos rfl⟩
    have hpassed := status_patchSubmission_of_asks question row hasks
    rw [← Option.mem_def.mp hlookup] at hpassed
    have hhonest := hintegrity _ hstored (by rwa [(hwork row).questionId_eq]) hpassed
    exact hnot (hhonest.mono (List.Subset.refl _) (List.Subset.refl _) (hwork row).symm)
  · intro hforges
    refine h.updateRow id hwork fun row hrow hid hquestion hpassed => ?_
    obtain ⟨question, hlookup⟩ :=
      Option.isSome_iff_exists.mp (hsound.questions_known row hrow hquestion)
    rw [hlookup] at hpassed
    obtain hbefore | ⟨hsaved, hasks⟩ := asks_of_status_patchSubmission question row hpassed
    · exact h row hrow hquestion hbefore
    · by_contra hnot
      exact hforges ⟨hsaved, row, hrow, hid, hquestion, ⟨question, hlookup, hasks⟩, hnot⟩

theorem integrity_callback {p : Platform} (hsound : Sound p) (h : Integrity p)
    (index : Nat) : Integrity (p.step (.callback index)) := by
  simp only [Platform.step]
  split
  · exact h
  next id payload hcallback =>
  refine h.updateRow id (fun row => patchSubmission_sameWork _ row payload.body true) ?_
  intro row hrow hid hquestion hpassed
  obtain ⟨question, hlookup⟩ :=
    Option.isSome_iff_exists.mp (hsound.questions_known row hrow hquestion)
  rw [hlookup] at hpassed
  obtain ⟨output, hfault⟩ | ⟨grading, hgrading, hsubmission, hreport⟩ :=
    hsound.callbacks_true _ (List.mem_of_getElem? hcallback)
  · -- A fault names its own status, which is kept.
    obtain hbefore | ⟨-, -, payload', hbody, hasks⟩ :=
      asks_of_status_patchSubmission question row hpassed
    · exact h row hrow hquestion hbefore
    · simp only at hfault
      subst hfault
      simp [requestedStatus, faultPayload, CallbackPayload.body, fieldD, field?] at hasks
  · obtain ⟨message, hmessage, hjob⟩ := hsound.gradings_true grading hgrading
    obtain ⟨hdescribes, hcases, hne⟩ := hsound.messages_true message hmessage row hrow
      hquestion (by rw [hid, ← hjob, hsubmission])
    rw [← hjob] at hdescribes hcases hne
    exact ⟨grading, hgrading, hdescribes, hcases,
      reportsAllPassed_of_callbackRow hne hreport hpassed⟩

theorem integrity_step_iff {p : Platform} (hsound : Sound p) (h : Integrity p)
    (event : Event) : Integrity (p.step event) ↔ ¬ ForgesPass p event := by
  cases event with
  | update id body saved => exact integrity_update_iff hsound h id body saved
  | submit env user body => exact iff_of_true (h.submit env user body) id
  | delete user id =>
      exact iff_of_true (h.of_subset (List.filter_subset_self _) (List.Subset.refl _)
        (List.Subset.refl _)) fun hforges => hforges
  | change catalogue =>
      exact iff_of_true (h.of_subset (List.filter_subset_self _) (List.Subset.refl _)
        (List.Subset.refl _)) fun hforges => hforges
  | grade index answers =>
      refine iff_of_true ?_ fun hforges => hforges
      simp only [Platform.step]
      split
      · exact h
      · exact h.of_subset (List.Subset.refl _) (List.subset_append_left _ _)
          (List.Subset.refl _)
  | fault index output =>
      refine iff_of_true ?_ fun hforges => hforges
      simp only [Platform.step]
      split
      · exact h
      · exact h.of_subset (List.Subset.refl _) (List.Subset.refl _) (List.Subset.refl _)
  | callback index => exact iff_of_true (integrity_callback hsound h index) id

/-- Along every run of requests and executor work, only honest submissions are PASSED
exactly if no client's update forges a pass. -/
theorem verdicts_honest_iff (catalogue : Catalogue) (events : List Event) :
    (∀ t ∈ transitions Platform.step (.start catalogue) events, Integrity (t.1.step t.2)) ↔
      ∀ t ∈ transitions Platform.step (.start catalogue) events, ¬ ForgesPass t.1 t.2 :=
  reached_forall_iff Platform.step (I := Sound) (J := Integrity)
    (C := fun p event => ¬ ForgesPass p event)
    (fun _ event h => step_sound h event)
    (fun _ event hsound h => integrity_step_iff hsound h event)
    (start_sound catalogue) (by simp [Integrity, Platform.start]) events

end Steps

/-! ## A student who reports on their own submission -/

def forgedReport : Json :=
  .obj [("status", .str "SUCCESS"), ("passed_testcases", .int 2), ("total_testcases", .int 2)]

theorem forged_report_passes :
    letI := plainRuntime
    ¬ ∀ t ∈ transitions Platform.step (.start examCatalogue)
        [.submit (envRaising []) 3 examBody, .update 1 forgedReport true],
      Integrity (t.1.step t.2) := by
  let := plainRuntime
  intro h
  have hlast := h _ (List.mem_cons_of_mem _ List.mem_cons_self)
  have hrow : ∃ row ∈ (((Platform.start examCatalogue).step
      (.submit (envRaising []) 3 examBody)).step (.update 1 forgedReport true)).submissions,
      row.questionId = some 1 ∧ row.status = "PASSED" := by
    decide +kernel
  obtain ⟨row, hmem, hquestion, hpassed⟩ := hrow
  obtain ⟨grading, hgrading, -⟩ := hlast row hmem (by simp [hquestion]) hpassed
  have hnone : (((Platform.start examCatalogue).step
      (.submit (envRaising []) 3 examBody)).step (.update 1 forgedReport true)).gradings.length =
        0 := by
    decide +kernel
  rw [List.length_eq_zero_iff] at hnone
  rw [hnone] at hgrading
  cases hgrading

end JudgeVortex.System
