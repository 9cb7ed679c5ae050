import JudgeVortex.System.Snapshots
import JudgeVortex.Templates.StudentCodes

/-!
# The room on display

The teacher's page as rooms are opened and the responses for them arrive, in any order: a response
is taken while its room is on display.  The dialog then shows, of a student's submissions and
workspace for a question, the newest.
-/

namespace JudgeVortex.Templates

open JudgeVortex.CoreApi JudgeVortex.Foundation JudgeVortex.Python JudgeVortex.System

structure TeacherPage extends CodeLookups where
  currentRoomId : Option Int

/-- A failed request answers none. -/
inductive PageEvent where
  | selectRoom (roomId : Int)
  -- `fetchRooms` with `preserveSelection`.
  | roomsListed (roomIds : List Int)
  | roomDeleted (roomId : Int)
  | participants (roomId : Int) (answer : Option (List ParticipantEntry))
  | submissions (roomId : Int) (answer : Option (List CodeEntry))
  | workspaces (roomId : Int) (answer : Option (List CodeEntry))

def loadedDashboard : TeacherPage := ⟨.empty, none⟩

/-- A response is dropped when another room is on display by now. -/
def TeacherPage.take {α : Type} (page : TeacherPage) (roomId : Int) (answer : Option α)
    (store : α → CodeLookups) : TeacherPage :=
  match answer with
  | none => page
  | some response =>
      if page.currentRoomId = some roomId then { page with toCodeLookups := store response }
      else page

section Steps

variable (js : DialogText)

def pageStep (page : TeacherPage) : PageEvent → TeacherPage
  | .selectRoom roomId => { page with currentRoomId := roomId }
  | .roomsListed roomIds =>
      { page with currentRoomId := page.currentRoomId.filter (· ∈ roomIds) }
  | .roomDeleted roomId =>
      { page with currentRoomId := page.currentRoomId.filter (· ≠ roomId) }
  | .participants roomId answer => page.take roomId answer fun students =>
      { page.toCodeLookups with participants := participantLookup students }
  | .submissions roomId answer => page.take roomId answer fun submissions =>
      { page.toCodeLookups with submissions := submissionLookup js submissions }
  | .workspaces roomId answer => page.take roomId answer fun snapshots =>
      { page.toCodeLookups with snapshots := snapshotLookup js snapshots }

def dashboardAt (events : List PageEvent) : TeacherPage :=
  events.foldl (pageStep js) loadedDashboard

/-- Of these responses the page has taken this one last, for this room. -/
def LastTaken {α : Type} (event : Int → Option α → PageEvent) (roomId : Int) (response : α)
    (events : List PageEvent) : Prop :=
  Since (pageStep js)
    (fun page e => e = event roomId (some response) ∧ page.currentRoomId = some roomId)
    (fun page e => ∀ other later, e = event other (some later) →
      page.currentRoomId ≠ some other) loadedDashboard events

variable {js} {roomId : Int} {events : List PageEvent}

theorem take_cases {α : Type} (page : TeacherPage) (roomId : Int) (answer : Option α)
    (store : α → CodeLookups) :
    page.take roomId answer store = page ∨
      ∃ response, answer = some response ∧ page.currentRoomId = some roomId ∧
        page.take roomId answer store = { page with toCodeLookups := store response } := by
  cases answer with
  | none => exact .inl rfl
  | some response =>
      by_cases hroom : page.currentRoomId = some roomId
      · exact .inr ⟨response, rfl, hroom, if_pos hroom⟩
      · exact .inl (if_neg hroom)

theorem pageStep_cases (js : DialogText) (page : TeacherPage) (e : PageEvent) :
    (pageStep js page e).toCodeLookups = page.toCodeLookups ∨
      ∃ roomId, page.currentRoomId = some roomId ∧
        ((∃ students, e = .participants roomId (some students) ∧
            (pageStep js page e).toCodeLookups =
              { page.toCodeLookups with participants := participantLookup students }) ∨
          (∃ submissions, e = .submissions roomId (some submissions) ∧
            (pageStep js page e).toCodeLookups =
              { page.toCodeLookups with submissions := submissionLookup js submissions }) ∨
          ∃ snapshots, e = .workspaces roomId (some snapshots) ∧
            (pageStep js page e).toCodeLookups =
              { page.toCodeLookups with snapshots := snapshotLookup js snapshots }) := by
  cases e with
  | selectRoom | roomsListed | roomDeleted => exact .inl rfl
  | participants roomId answer =>
      obtain hsame | ⟨students, rfl, hroom, htaken⟩ := take_cases page roomId answer _
      · exact .inl (congrArg _ hsame)
      · exact .inr ⟨roomId, hroom, .inl ⟨students, rfl, congrArg _ htaken⟩⟩
  | submissions roomId answer =>
      obtain hsame | ⟨submissions, rfl, hroom, htaken⟩ := take_cases page roomId answer _
      · exact .inl (congrArg _ hsame)
      · exact .inr ⟨roomId, hroom, .inr (.inl ⟨submissions, rfl, congrArg _ htaken⟩)⟩
  | workspaces roomId answer =>
      obtain hsame | ⟨snapshots, rfl, hroom, htaken⟩ := take_cases page roomId answer _
      · exact .inl (congrArg _ hsame)
      · exact .inr ⟨roomId, hroom, .inr (.inr ⟨snapshots, rfl, congrArg _ htaken⟩)⟩

theorem submissions_dashboardAt {submissions : List CodeEntry}
    (h : LastTaken js .submissions roomId submissions events) :
    (dashboardAt js events).submissions = submissionLookup js submissions := by
  refine holds_of_since (J := fun page => page.submissions = submissionLookup js submissions)
    (pageStep js) ?_ ?_ h
  · rintro page e ⟨rfl, hroom⟩
    rw [pageStep, TeacherPage.take, if_pos hroom]
  · intro page e hpage hother
    obtain hsame | ⟨room, hroom, ⟨_, -, htaken⟩ | ⟨later, rfl, -⟩ | ⟨_, -, htaken⟩⟩ :=
      pageStep_cases js page e
    · rw [hsame, hpage]
    · rw [htaken, hpage]
    · exact absurd hroom (hother room later rfl)
    · rw [htaken, hpage]

theorem snapshots_dashboardAt {snapshots : List CodeEntry}
    (h : LastTaken js .workspaces roomId snapshots events) :
    (dashboardAt js events).snapshots = snapshotLookup js snapshots := by
  refine holds_of_since (J := fun page => page.snapshots = snapshotLookup js snapshots)
    (pageStep js) ?_ ?_ h
  · rintro page e ⟨rfl, hroom⟩
    rw [pageStep, TeacherPage.take, if_pos hroom]
  · intro page e hpage hother
    obtain hsame | ⟨room, hroom, ⟨_, -, htaken⟩ | ⟨_, -, htaken⟩ | ⟨later, rfl, -⟩⟩ :=
      pageStep_cases js page e
    · rw [hsame, hpage]
    · rw [htaken, hpage]
    · rw [htaken, hpage]
    · exact absurd hroom (hother room later rfl)

end Steps

/-! ## The responses of the server -/

def readObject {α : Type} (read : Dict → α) : Json → α
  | .obj fields => read fields
  | _ => read []

theorem map_objects {α β : Type} (read : Dict → β) {data : α → Json}
    (hdata : ∀ a, ∃ fields, data a = .obj fields) (rows : List α) :
    (objects (.arr (rows.map data))).map read = rows.map fun a => readObject read (data a) := by
  induction rows with
  | nil => rfl
  | cons a rows ih =>
      obtain ⟨fields, hfields⟩ := hdata a
      rw [List.map_cons, List.map_cons, hfields]
      exact congrArg (read fields :: ·) ih

section Server

variable (js : DialogText) (env : ManagementEnv) (db : ExamTables)

def submissionCodes (row : TimedSubmission) : CodeEntry :=
  readObject readCodes (roomSubmissionData env (row.questionId.bind db.questionTitle) row)

def snapshotCodes (row : SnapshotRow) : CodeEntry :=
  readObject readCodes (snapshotData env (db.questionTitle row.questionId) row)

def submissionsFor (roomId student question : Int) : List TimedSubmission :=
  db.submissions.rows.filter fun row =>
    row.roomId = some roomId ∧ row.userId = student ∧ row.questionId = some question

def workspacesFor (roomId student question : Int) : List SnapshotRow :=
  db.snapshots.rows.filter fun row =>
    row.roomId = roomId ∧ row.studentId = student ∧ row.questionId = question

structure ReadsTime (ms : Time → Int) (time : Time) : Prop where
  nonempty : env.isoformat time ≠ ""
  read : js.getTime (env.isoformat time) = some (ms time)
  epoch : 0 ≤ ms time

/-- Users have ids, and their rows have times that the browser reads. -/
def ReadableSubmissions (ms : Time → Int) : Prop :=
  ∀ row ∈ db.submissions.rows, row.userId ≠ 0 ∧ ReadsTime js env ms row.submittedAt

def ReadableWorkspaces (ms : Time → Int) : Prop :=
  ∀ row ∈ db.snapshots.rows, row.studentId ≠ 0 ∧ ReadsTime js env ms row.updatedAt

/-- The files that are shown for stored code; without files it is the entry file's. -/
def shownFiles (language code entryFile : String) (files : List WorkspaceFile) :
    List WorkspaceFile :=
  let unnamed := (truthyText (some entryFile)).getD
    (CodeEntry.getDefaultSubmissionFile js (some language))
  if files = [] then [⟨unnamed, code⟩]
  else files.map fun file => ⟨if file.path = "" then unnamed else file.path, file.content⟩

/-- The tab shows the newest of the submissions and the workspaces; at the same time a workspace is
newer. -/
structure ShowsNewest (ms : Time → Int) (mine : List TimedSubmission)
    (kept : List SnapshotRow) (tab : QuestionCodes) : Prop where
  empty : tab.source = .empty → mine = [] ∧ kept = []
  submission : tab.source = .submission → ∃ row ∈ mine,
    tab.submission.normalizeSubmissionFiles js =
        shownFiles js row.language row.code row.entryFile row.files ∧
      tab.attemptCount = mine.length ∧
      (∀ other ∈ mine, ms other.submittedAt ≤ ms row.submittedAt) ∧
      ∀ saved ∈ kept, ms saved.updatedAt < ms row.submittedAt
  snapshot : tab.source = .snapshot → ∃ saved ∈ kept,
    tab.submission.normalizeSubmissionFiles js =
        shownFiles js saved.language saved.code saved.entryFile saved.files ∧
      ∀ row ∈ mine, ms row.submittedAt ≤ ms saved.updatedAt

variable {js env db} {ms : Time → Int} {roomId student question : Int}

theorem encodeURIComponent_toString (n : Int) : encodeURIComponent (toString n) = toString n := by
  rw [encodeURIComponent]
  have hplain : ∀ c ∈ (toString n).toList, (if c.isAlphanum ∨ c ∈ "-_.!~*'()".toList then [c]
      else (String.utf8EncodeChar c).flatMap fun byte =>
        '%' :: [byte.toNat / 16, byte.toNat % 16].map fun digit =>
          (Nat.digitChar digit).toUpper) = [c] := by
    intro c hc
    refine if_pos ?_
    obtain hdigit | rfl := symbols_toString n c hc
    · exact .inl (by rw [Char.isAlphanum, hdigit, Bool.or_true])
    · exact .inr (by decide)
  rw [List.flatMap_congr hplain, List.flatMap_singleton', String.ofList_toList]

theorem normalizeQuestionLookupKey_eq_iff (sub : SubmissionEntry) (question : Int) :
    sub.normalizeQuestionLookupKey = "question-" ++ toString question ↔
      sub.questionNumber = some question := by
  rw [SubmissionEntry.normalizeQuestionLookupKey]
  cases sub.questionNumber with
  | none =>
      refine iff_of_false (fun h => ?_) (by simp)
      have hlists := congrArg String.toList h
      simp only [String.toList_append] at hlists
      exact absurd (List.head_eq_of_cons_eq hlists) (by decide)
  | some other =>
      rw [String.append_right_inj, Option.some_inj]
      exact Int.repr_inj

theorem questionNumber_submissionCodes (row : TimedSubmission) :
    (submissionCodes env db row).questionNumber = row.questionId.filter (· ≠ 0) := by
  have hread : (submissionCodes env db row).questionId = row.questionId := by
    change numberField _ _ = _
    cases hid : row.questionId <;> simp [numberField, field?, countValue]
  have hother : (submissionCodes env db row).question = none := rfl
  rw [SubmissionEntry.questionNumber, hread, hother]
  exact Option.or_none

theorem time_submissionCodes (db : ExamTables) {row : TimedSubmission}
    (h : ReadsTime js env ms row.submittedAt) :
    (submissionCodes env db row).time js.toBrowserText = some (ms row.submittedAt) := by
  have hread : (submissionCodes env db row).submittedAt = some (env.isoformat row.submittedAt) :=
    rfl
  rw [SubmissionEntry.time, hread, truthyText, Option.filter_some_pos (by simpa using h.nonempty)]
  exact h.read

theorem updateTime_snapshotCodes (db : ExamTables) {row : SnapshotRow}
    (h : ReadsTime js env ms row.updatedAt) :
    (snapshotCodes env db row).updateTime js = some (ms row.updatedAt) := by
  have hread : (snapshotCodes env db row).updatedAt = some (env.isoformat row.updatedAt) := rfl
  rw [CodeEntry.updateTime, hread, truthyText, Option.filter_some_pos (by simpa using h.nonempty)]
  exact h.read

theorem getD_truthyText (text : String) : (truthyText (some text)).getD "" = text := by
  by_cases hempty : text = "" <;> simp [truthyText, Option.filter_some, hempty]

theorem normalizeSubmissionFiles_read {sub : CodeEntry} {language code entryFile : String}
    {files : List WorkspaceFile} (hlanguage : sub.language = some language)
    (hcode : sub.code = some code) (hentry : sub.entryFile = some entryFile)
    (hfiles : sub.files = files.map fun file => ⟨some file.path, none, some file.content⟩) :
    sub.normalizeSubmissionFiles js = shownFiles js language code entryFile files := by
  rw [CodeEntry.normalizeSubmissionFiles, shownFiles, hlanguage, hcode, hentry, hfiles]
  cases files with
  | nil => simp [getD_truthyText]
  | cons file files =>
      rw [if_pos (by simp), if_neg (by simp), List.map_map]
      refine List.map_congr_left fun file _ => ?_
      simp only [Function.comp_apply, getD_truthyText]
      by_cases hempty : file.path = "" <;> simp [truthyText, Option.filter_some, hempty]

theorem files_read (files : List WorkspaceFile) :
    (objects (.arr (files.map fileJson))).map readFileEntry =
      files.map fun file => ⟨some file.path, none, some file.content⟩ :=
  map_objects readFileEntry (fun _ => ⟨_, rfl⟩) files

theorem files_submissionCodes (row : TimedSubmission) :
    (submissionCodes env db row).normalizeSubmissionFiles js =
      shownFiles js row.language row.code row.entryFile row.files :=
  normalizeSubmissionFiles_read rfl rfl rfl (files_read row.files)

theorem files_snapshotCodes (row : SnapshotRow) :
    (snapshotCodes env db row).normalizeSubmissionFiles js =
      shownFiles js row.language row.code row.entryFile row.files :=
  normalizeSubmissionFiles_read rfl rfl rfl (files_read row.files)

/-! ## What the dialog finds of the server's rows -/

def submissionRows (db : ExamTables) (roomId : Int) : List TimedSubmission :=
  newestFirst TimedSubmission.submittedAt
    (db.submissions.rows.filter fun row => row.roomId = some roomId)

theorem perm_submissionsFor (db : ExamTables) (roomId student question : Int) :
    ((submissionRows db roomId).filter fun row =>
      row.userId = student ∧ row.questionId = some question).Perm
        (submissionsFor db roomId student question) := by
  refine ((List.perm_insertionSort _ _).filter _).trans (.of_eq ?_)
  rw [List.filter_filter, submissionsFor]
  refine List.filter_congr fun row _ => ?_
  simp only [Bool.decide_and]
  exact Bool.and_comm _ _

theorem studentKey_submissionCodes {row : TimedSubmission} (hid : row.userId ≠ 0) :
    (submissionCodes env db row).studentKey = toString row.userId :=
  studentKey_entry env db.questionTitle hid

theorem plainKeys_submissionRows (h : ReadableSubmissions js env db ms) (roomId : Int) :
    PlainKeys ((submissionRows db roomId).map (submissionCodes env db)) := by
  intro sub hsub
  obtain ⟨row, hrow, rfl⟩ := List.mem_map.mp hsub
  have hstored : row ∈ db.submissions.rows :=
    List.mem_of_mem_filter ((List.perm_insertionSort _ _).subset hrow)
  rw [studentKey_submissionCodes (h row hstored).1]
  exact ⟨toString_not_mem_prototype _, encodeURIComponent_toString _⟩

theorem codesOf_submissionRows (h : ReadableSubmissions js env db ms) (hquestion : question ≠ 0) :
    ((codesOf ((submissionRows db roomId).map (submissionCodes env db))
        (toString student)).filter fun sub =>
          sub.normalizeQuestionLookupKey = "question-" ++ toString question) =
      ((submissionRows db roomId).filter fun row =>
        row.userId = student ∧ row.questionId = some question).map (submissionCodes env db) := by
  rw [codesOf, List.filter_filter, List.filter_map]
  congr 1
  refine List.filter_congr fun row hrow => ?_
  have hstored : row ∈ db.submissions.rows :=
    List.mem_of_mem_filter ((List.perm_insertionSort _ _).subset hrow)
  have hkey : (submissionCodes env db row).studentKey = toString student ↔
      row.userId = student := by
    rw [studentKey_submissionCodes (h row hstored).1]
    exact Int.repr_inj
  have hnumber : (submissionCodes env db row).normalizeQuestionLookupKey =
      "question-" ++ toString question ↔ row.questionId = some question := by
    rw [normalizeQuestionLookupKey_eq_iff, questionNumber_submissionCodes,
      Option.filter_eq_some_iff]
    simp [hquestion]
  simp only [Function.comp_apply, hkey, hnumber, Bool.decide_and, Bool.and_comm]

theorem submittedCodes_server (h : ReadableSubmissions js env db ms) (roomId student : Int)
    (hquestion : question ≠ 0) :
    let mine := submissionsFor db roomId student question
    let found := submittedCodes js ((submissionRows db roomId).map (submissionCodes env db))
      (toString student) ("question-" ++ toString question)
    (mine = [] ∧ found = none) ∨
      ∃ row ∈ mine, (∀ other ∈ mine, ms other.submittedAt ≤ ms row.submittedAt) ∧
        found = some ((submissionCodes env db row).asSubmission js
          ("question-" ++ toString question) mine.length) := by
  intro mine found
  have hperm := perm_submissionsFor db roomId student question
  have hfound : found = (newest (CodeEntry.NotBefore js)
      (((submissionRows db roomId).filter fun row =>
        row.userId = student ∧ row.questionId = some question).map
          (submissionCodes env db))).map fun sub =>
            sub.asSubmission js ("question-" ++ toString question) mine.length := by
    rw [← hperm.length_eq, ← List.length_map (submissionCodes env db),
      ← codesOf_submissionRows h hquestion]
    rfl
  generalize (submissionRows db roomId).filter (fun row =>
    row.userId = student ∧ row.questionId = some question) = group at hperm hfound
  have htime : ∀ row ∈ group, (submissionCodes env db row).time js.toBrowserText =
      some (ms row.submittedAt) := by
    intro row hrow
    have hstored : row ∈ db.submissions.rows := List.mem_of_mem_filter (hperm.subset hrow)
    exact time_submissionCodes db (h row hstored).2
  have hordered : OrderedBy (CodeEntry.NotBefore js)
      (fun sub => (sub.time js.toBrowserText).getD 0) (group.map (submissionCodes env db)) := by
    intro first hfirst second hsecond
    obtain ⟨a, ha, rfl⟩ := List.mem_map.mp hfirst
    obtain ⟨b, hb, rfl⟩ := List.mem_map.mp hsecond
    simp [CodeEntry.NotBefore, SubmissionEntry.NotBefore, htime a ha, htime b hb]
  cases hnewest : newest (CodeEntry.NotBefore js) (group.map (submissionCodes env db)) with
  | none =>
      have hgroup := List.map_eq_nil_iff.mp ((newest_eq_none_iff _).mp hnewest)
      rw [hgroup] at hperm
      exact .inl ⟨hperm.symm.eq_nil, by rw [hfound, hnewest]; rfl⟩
  | some sub =>
      have hisNewest := (newest_eq_some_iff hordered).mp hnewest
      obtain ⟨row, hrow, rfl⟩ := List.mem_map.mp hisNewest.mem
      refine .inr ⟨row, hperm.subset hrow, fun other hother => ?_, by rw [hfound, hnewest]; rfl⟩
      have hmem := hperm.symm.subset hother
      have hle := hisNewest.le (List.mem_map_of_mem hmem)
      rwa [htime other hmem, htime row hrow, Option.getD_some, Option.getD_some] at hle

theorem mem_workspacesFor {row : SnapshotRow} :
    row ∈ workspacesFor db roomId student question ↔
      row ∈ workspaceRows db roomId ∧ row.studentId = student ∧ row.questionId = question := by
  rw [workspacesFor, List.mem_filter, decide_eq_true_eq, mem_workspaceRows, and_assoc]

theorem snapshotStudentKey_eq_iff {row : SnapshotRow} (hid : row.studentId ≠ 0) :
    snapshotStudentKey (snapshotCodes env db row) = toString student ↔
      row.studentId = student := by
  have hread : (snapshotCodes env db row).studentId = some row.studentId := rfl
  rw [snapshotStudentKey, studentLookupKey, hread, truthyNumber,
    Option.filter_some_pos (by simpa using hid), Option.elim_some, encodeURIComponent_toString]
  exact Int.repr_inj

theorem lookupKey_snapshotCodes (row : SnapshotRow) (hquestion : question ≠ 0) :
    (snapshotCodes env db row).normalizeQuestionLookupKey = "question-" ++ toString question ↔
      row.questionId = question := by
  have hread : (snapshotCodes env db row).questionId = some row.questionId := rfl
  have hother : (snapshotCodes env db row).question = none := rfl
  rw [normalizeQuestionLookupKey_eq_iff, SubmissionEntry.questionNumber, hread, hother,
    truthyNumber, truthyNumber, Option.filter_none, Option.or_none, Option.filter_eq_some_iff]
  constructor
  · rintro ⟨hsame, -⟩
    exact Option.some_inj.mp hsame
  · rintro rfl
    exact ⟨rfl, by simpa using hquestion⟩

theorem savedCodes_server (h : ReadableWorkspaces js env db ms) (hunique : db.UniqueSnapshots)
    (roomId student : Int) (hquestion : question ≠ 0) :
    let kept := workspacesFor db roomId student question
    let found := savedCodes js ((workspaceRows db roomId).map (snapshotCodes env db))
      (toString student) ("question-" ++ toString question)
    (kept = [] ∧ found = none) ∨
      ∃ saved ∈ kept, (∀ other ∈ kept, other = saved) ∧
        found = some ((snapshotCodes env db saved).asSnapshot js) := by
  intro kept found
  have hgroup : (((workspaceRows db roomId).map (snapshotCodes env db)).filter fun snapshot =>
      snapshotStudentKey snapshot = toString student).filter (fun snapshot =>
        snapshot.normalizeQuestionLookupKey = "question-" ++ toString question) =
      ((workspaceRows db roomId).filter fun row =>
        row.questionId = question ∧ row.studentId = student).map (snapshotCodes env db) := by
    rw [List.filter_filter, List.filter_map]
    congr 1
    refine List.filter_congr fun row hrow => ?_
    have hid := (h row (mem_workspaceRows.mp hrow).1).1
    simp only [Function.comp_apply, snapshotStudentKey_eq_iff hid,
      lookupKey_snapshotCodes row hquestion, Bool.decide_and]
  have hmem : ∀ row, row ∈ (workspaceRows db roomId).filter (fun row =>
      row.questionId = question ∧ row.studentId = student) ↔ row ∈ kept := by
    intro row
    rw [mem_workspacesFor, List.mem_filter, decide_eq_true_eq, and_comm (a := _ = question)]
  have hfound : found = (((workspaceRows db roomId).filter fun row =>
      row.questionId = question ∧ row.studentId = student).map
        (snapshotCodes env db)).getLast?.map (CodeEntry.asSnapshot js) := by
    rw [← hgroup]
    rfl
  rw [List.getLast?_map] at hfound
  cases hlast : ((workspaceRows db roomId).filter fun row =>
      row.questionId = question ∧ row.studentId = student).getLast? with
  | none =>
      refine .inl ⟨List.eq_nil_iff_forall_not_mem.mpr fun row hrow => ?_, by
        rw [hfound, hlast]; rfl⟩
      rw [List.getLast?_eq_none_iff.mp hlast] at hmem
      exact List.not_mem_nil ((hmem row).mpr hrow)
  | some saved =>
      have hsaved := (hmem saved).mp (List.mem_of_mem_getLast? hlast)
      refine .inr ⟨saved, hsaved, fun other hother => ?_, by rw [hfound, hlast]; rfl⟩
      obtain ⟨hlisted, hstudent, hquestion⟩ := mem_workspacesFor.mp hsaved
      obtain ⟨hotherListed, hotherStudent, hotherQuestion⟩ := mem_workspacesFor.mp hother
      refine List.inj_on_of_nodup_map (workspaceRows_nodup hunique roomId) hotherListed hlisted ?_
      rw [hstudent, hquestion, hotherStudent, hotherQuestion]

/-! ## The dialog of a page that has loaded the room -/

def submissionsAnswer (env : ManagementEnv) (teacher : Int) (db : ExamTables) (roomId : Int) :
    List CodeEntry :=
  (objects (listSubmissions env teacher db roomId).2.data).map readCodes

def workspacesAnswer (env : ManagementEnv) (teacher : Int) (db : ExamTables) (roomId : Int) :
    List CodeEntry :=
  (objects (listWorkspaces env teacher db roomId).2.data).map readCodes

theorem answers_of_teaches (env : ManagementEnv) {teacher : Int}
    (hteaches : db.Teaches teacher roomId) :
    submissionsAnswer env teacher db roomId =
        (submissionRows db roomId).map (submissionCodes env db) ∧
      workspacesAnswer env teacher db roomId =
        (workspaceRows db roomId).map (snapshotCodes env db) := by
  obtain ⟨room, hroom, hkey⟩ := hteaches
  have hsome : (db.room? teacher roomId).isSome :=
    List.find?_isSome.mpr ⟨room, hroom, decide_eq_true hkey⟩
  obtain ⟨found, hfound⟩ := Option.isSome_iff_exists.mp hsome
  obtain ⟨-, rfl, -⟩ := ExamTables.room?_eq_some hfound
  constructor
  · rw [submissionsAnswer, listSubmissions, inRoom, hfound]
    exact map_objects readCodes (fun _ => ⟨_, rfl⟩) _
  · rw [workspacesAnswer, listWorkspaces, inRoom, hfound]
    exact map_objects readCodes (fun _ => ⟨_, rfl⟩) _

theorem keepNewest_emptyCodes (entry : QuestionCodes) {time : Int}
    (htime : entry.latestTime = some time) (hepoch : 0 ≤ time)
    (participant : Option ParticipantEntry) (key : String) :
    keepNewest QuestionCodes.NotBefore (emptyCodes participant key) entry = entry := by
  cases hempty : emptyCodes participant key with
  | none => rfl
  | some slot =>
      obtain ⟨participant, -, hslot⟩ := Option.bind_eq_some_iff.mp hempty
      obtain ⟨question, -, rfl⟩ := Option.map_eq_some_iff.mp hslot
      exact if_pos ⟨time, htime, hepoch⟩

theorem source_emptyCodes {participant : Option ParticipantEntry} {key : String}
    {slot : QuestionCodes} (h : emptyCodes participant key = some slot) : slot.source = .empty := by
  obtain ⟨participant, -, hslot⟩ := Option.bind_eq_some_iff.mp h
  obtain ⟨question, -, rfl⟩ := Option.map_eq_some_iff.mp hslot
  rfl

variable {mine : List TimedSubmission} {kept : List SnapshotRow}

theorem ShowsNewest.of_empty {tab : QuestionCodes} (hsource : tab.source = .empty)
    (hmine : mine = []) (hkept : kept = []) : ShowsNewest js ms mine kept tab where
  empty _ := ⟨hmine, hkept⟩
  submission hother := by rw [hsource] at hother; cases hother
  snapshot hother := by rw [hsource] at hother; cases hother

theorem ShowsNewest.asSubmission {row : TimedSubmission} (hrow : row ∈ mine)
    (hlatest : ∀ other ∈ mine, ms other.submittedAt ≤ ms row.submittedAt)
    (hlater : ∀ saved ∈ kept, ms saved.updatedAt < ms row.submittedAt) (key : String) :
    ShowsNewest js ms mine kept
      ((submissionCodes env db row).asSubmission js key mine.length) where
  empty hother := by cases hother
  submission _ := ⟨row, hrow, files_submissionCodes row, rfl, hlatest, hlater⟩
  snapshot hother := by cases hother

theorem ShowsNewest.asSnapshot {saved : SnapshotRow} (hsaved : saved ∈ kept)
    (hlater : ∀ row ∈ mine, ms row.submittedAt ≤ ms saved.updatedAt) :
    ShowsNewest js ms mine kept ((snapshotCodes env db saved).asSnapshot js) where
  empty hother := by cases hother
  submission hother := by cases hother
  snapshot _ := ⟨saved, hsaved, files_snapshotCodes saved, hlater⟩

theorem found_of_showsNewest {found : Option QuestionCodes} {tab : QuestionCodes}
    (hfound : found = some tab) (hshows : ShowsNewest js ms mine kept tab) :
    (mine ≠ [] ∨ kept ≠ [] → found.isSome) ∧ ∀ tab ∈ found, ShowsNewest js ms mine kept tab := by
  subst hfound
  refine ⟨fun _ => rfl, fun other hother => ?_⟩
  obtain rfl := Option.some_inj.mp hother
  exact hshows

theorem showsNewest_server {submitted saved : ExamTables}
    (hsubmissions : ReadableSubmissions js env submitted ms)
    (hworkspaces : ReadableWorkspaces js env saved ms) (hunique : saved.UniqueSnapshots)
    (roomId student : Int) (hquestion : question ≠ 0)
    (participants : InsertionMap String ParticipantEntry) :
    let found := (mergedCodes ⟨participants,
      submissionLookup js ((submissionRows submitted roomId).map (submissionCodes env submitted)),
      snapshotLookup js ((workspaceRows saved roomId).map (snapshotCodes env saved))⟩
        (toString student)).get? ("question-" ++ toString question)
    let mine := submissionsFor submitted roomId student question
    let kept := workspacesFor saved roomId student question
    (mine ≠ [] ∨ kept ≠ [] → found.isSome) ∧ ∀ tab ∈ found, ShowsNewest js ms mine kept tab := by
  intro found mine kept
  have hmerged := get?_mergedCodes js participants
    ((workspaceRows saved roomId).map (snapshotCodes env saved))
    (plainKeys_submissionRows hsubmissions roomId)
    (toString student) ("question-" ++ toString question)
  have hmine : ∀ row ∈ mine, ReadsTime js env ms row.submittedAt := fun row hrow =>
    (hsubmissions row (List.mem_of_mem_filter hrow)).2
  have hkept : ∀ row ∈ kept, ReadsTime js env ms row.updatedAt := fun row hrow =>
    (hworkspaces row (List.mem_of_mem_filter hrow)).2
  obtain ⟨hnoneMine, hsubmitted⟩ | ⟨row, hrow, hlatest, hsubmitted⟩ :=
    submittedCodes_server hsubmissions roomId student hquestion
  · obtain ⟨hnoneKept, hsaved⟩ | ⟨workspace, hmem, -, hsaved⟩ :=
      savedCodes_server hworkspaces hunique roomId student hquestion
    · rw [hsubmitted, hsaved] at hmerged
      refine ⟨fun hsome => (hsome.elim (· hnoneMine) (· hnoneKept)).elim, fun tab htab => ?_⟩
      exact .of_empty (source_emptyCodes (hmerged.symm.trans htab)) hnoneMine hnoneKept
    · have htime := updateTime_snapshotCodes saved (hkept workspace hmem)
      rw [hsubmitted, hsaved] at hmerged
      have hshown : found = some ((snapshotCodes env saved workspace).asSnapshot js) :=
        hmerged.trans
          (congrArg some (keepNewest_emptyCodes _ htime (hkept workspace hmem).epoch _ _))
      refine found_of_showsNewest hshown (.asSnapshot hmem fun row hrow => ?_)
      exact absurd hrow (List.eq_nil_iff_forall_not_mem.mp hnoneMine row)
  · have hrowTime := time_submissionCodes submitted (hmine row hrow)
    generalize hlast : (submissionCodes env submitted row).asSubmission js
      ("question-" ++ toString question) mine.length = last at hsubmitted
    have hlastTime : last.latestTime = some (ms row.submittedAt) := hlast ▸ hrowTime
    have hfirst := keepNewest_emptyCodes last hlastTime (hmine row hrow).epoch
      (participants.get? (toString student)) ("question-" ++ toString question)
    obtain ⟨hnoneKept, hsaved⟩ | ⟨workspace, hmem, honly, hsaved⟩ :=
      savedCodes_server hworkspaces hunique roomId student hquestion
    · rw [hsubmitted, hsaved] at hmerged
      have hshown : found = some last := hmerged.trans (congrArg some hfirst)
      refine found_of_showsNewest hshown (hlast ▸ .asSubmission hrow hlatest ?_ _)
      exact fun other hother => absurd hother (List.eq_nil_iff_forall_not_mem.mp hnoneKept other)
    · have htime := updateTime_snapshotCodes saved (hkept workspace hmem)
      rw [hsubmitted, hsaved] at hmerged
      have hshown : found =
          some (keepNewest QuestionCodes.NotBefore (some last)
            ((snapshotCodes env saved workspace).asSnapshot js)) :=
        hmerged.trans (congrArg (fun held => some (keepNewest QuestionCodes.NotBefore (some held)
          ((snapshotCodes env saved workspace).asSnapshot js))) hfirst)
      have hcompare : ((snapshotCodes env saved workspace).asSnapshot js).NotBefore last ↔
          ms row.submittedAt ≤ ms workspace.updatedAt := by
        simp [QuestionCodes.NotBefore, CodeEntry.asSnapshot, htime, hlastTime]
      rw [keepNewest] at hshown
      by_cases hlater : ms row.submittedAt ≤ ms workspace.updatedAt
      · rw [if_pos (hcompare.mpr hlater)] at hshown
        exact found_of_showsNewest hshown
          (.asSnapshot hmem fun other hother => (hlatest other hother).trans hlater)
      · rw [if_neg fun hnot => hlater (hcompare.mp hnot)] at hshown
        refine found_of_showsNewest hshown (hlast ▸ .asSubmission hrow hlatest ?_ _)
        intro other hother
        rw [honly other hother]
        exact not_le.mp hlater

end Server

/--
Once a page has loaded a room, whatever else it was answered and whichever rooms were opened before,
the dialog has one tab for a question and shows there the newest of the student's submissions and
workspaces, as the server had them when it answered.
-/
theorem dialog_shows_newest_work [PythonRuntime] (js : DialogText) (env : ManagementEnv)
    (ms : Time → Int) (submitted saved : List ExamStep)
    (hmeets : ∀ p ∈ transitions examStep .empty saved, p.2.Meets p.1) (teacher roomId : Int)
    (hsubmittedTeaches : (examAt submitted).Teaches teacher roomId)
    (hsavedTeaches : (examAt saved).Teaches teacher roomId)
    (hsubmittedTimes : ReadableSubmissions js env (examAt submitted) ms)
    (hsavedTimes : ReadableWorkspaces js env (examAt saved) ms) (events : List PageEvent)
    (hsubmissions : LastTaken js .submissions roomId
      (submissionsAnswer env teacher (examAt submitted) roomId) events)
    (hworkspaces : LastTaken js .workspaces roomId
      (workspacesAnswer env teacher (examAt saved) roomId) events)
    (student question : Int) (hquestion : question ≠ 0) :
    let tabs := buildStudentQuestionSnapshots js (dashboardAt js events).toCodeLookups
      (toString student)
    let mine := submissionsFor (examAt submitted) roomId student question
    let kept := workspacesFor (examAt saved) roomId student question
    (tabs.map QuestionCodes.key).Nodup ∧
      (mine ≠ [] ∨ kept ≠ [] → ∃ tab ∈ tabs, tab.key = "question-" ++ toString question) ∧
      ∀ tab ∈ tabs, tab.key = "question-" ++ toString question →
        ShowsNewest js ms mine kept tab := by
  intro tabs mine kept
  rw [(answers_of_teaches env hsubmittedTeaches).1] at hsubmissions
  rw [(answers_of_teaches env hsavedTeaches).2] at hworkspaces
  have hlookups : (dashboardAt js events).toCodeLookups =
      ⟨(dashboardAt js events).participants,
        submissionLookup js ((submissionRows (examAt submitted) roomId).map
          (submissionCodes env (examAt submitted))),
        snapshotLookup js ((workspaceRows (examAt saved) roomId).map
          (snapshotCodes env (examAt saved)))⟩ := by
    rw [← submissions_dashboardAt hsubmissions, ← snapshots_dashboardAt hworkspaces]
  obtain ⟨hnodup, htabs⟩ := mem_buildStudentQuestionSnapshots js
    (dashboardAt js events).participants
    ((workspaceRows (examAt saved) roomId).map (snapshotCodes env (examAt saved)))
    (plainKeys_submissionRows hsubmittedTimes roomId) (toString student)
  obtain ⟨hfound, hshows⟩ := showsNewest_server hsubmittedTimes hsavedTimes
    (examAt_sound hmeets).unique roomId student hquestion (dashboardAt js events).participants
  rw [← hlookups] at hnodup htabs hfound hshows
  refine ⟨hnodup, fun hwork => ?_, fun tab htab hkey => hshows tab ((htabs tab _).mp ⟨htab, hkey⟩)⟩
  obtain ⟨tab, htab⟩ := Option.isSome_iff_exists.mp (hfound hwork)
  obtain ⟨hmem, hkey⟩ := (htabs tab _).mpr htab
  exact ⟨tab, hmem, hkey⟩

/-! ### A workspace that is saved after the submission, on the teacher's page -/

def lessonClock (time : Time) : String := "2026-01-01T00:00:0" ++ toString time ++ "+00:00"

def lessonMillis (time : Time) : Int := 1767225600000 + 1000 * time

def pageEnv : ManagementEnv := { lessonEnv 5 with isoformat := lessonClock }

def lessonText : DialogText where
  toUpperCase text := .ofList (text.toList.map Char.toUpper)
  toLowerCase text := .ofList (text.toList.map Char.toLower)
  getTime text := ([1, 2, 3, 4, 5].find? fun time => text = lessonClock time).map lessonMillis
  localeCompare left right := if left = right then 0 else if left < right then -1 else 1

def submittedOnce : List ExamStep :=
  savedTwice ++ [.write (.createSubmission
    { id := 1, userId := 3, roomId := some 1, questionId := some 1, awardedMarks := 0,
      passedTestcases := 0, totalTestcases := 1, output := none, code := "print(1)", files := [],
      entryFile := "main.py", language := "python", status := "PENDING",
      executionTimeMs := none } 3)]

/-- Another room is opened first, and its workspaces come too late. -/
def lessonOpened (submissions snapshots : List CodeEntry) : List PageEvent :=
  [.selectRoom 2, .participants 2 none, .selectRoom 1, .workspaces 1 (some snapshots),
    .workspaces 2 (some []), .submissions 1 (some submissions), .roomsListed [1, 2]]

theorem dialog_shows_second_save :
    letI := plainRuntime
    let db := examAt submittedOnce
    let events := lessonOpened (submissionsAnswer pageEnv 1 db 1)
      (workspacesAnswer pageEnv 1 (examAt savedTwice) 1)
    let tabs := buildStudentQuestionSnapshots lessonText
      (dashboardAt lessonText events).toCodeLookups (toString (3 : Int))
    let mine := submissionsFor db 1 3 1
    let kept := workspacesFor (examAt savedTwice) 1 3 1
    (tabs.map QuestionCodes.key).Nodup ∧
      (mine ≠ [] ∨ kept ≠ [] → ∃ tab ∈ tabs, tab.key = "question-" ++ toString (1 : Int)) ∧
      ∀ tab ∈ tabs, tab.key = "question-" ++ toString (1 : Int) →
        ShowsNewest lessonText lessonMillis mine kept tab := by
  let := plainRuntime
  have hthree : ReadsTime lessonText pageEnv lessonMillis 3 :=
    ⟨by decide +kernel, by decide +kernel, by decide⟩
  have hfour : ReadsTime lessonText pageEnv lessonMillis 4 :=
    ⟨by decide +kernel, by decide +kernel, by decide⟩
  have hsubmitted : ∀ row ∈ (examAt submittedOnce).submissions.rows,
      row.userId ≠ 0 ∧ row.submittedAt = 3 := by
    decide +kernel
  have hsaved : ∀ row ∈ (examAt savedTwice).snapshots.rows,
      row.studentId ≠ 0 ∧ row.updatedAt = 4 := by
    decide +kernel
  refine dialog_shows_newest_work lessonText pageEnv lessonMillis submittedOnce savedTwice
    savedTwice_meets 1 1 (by decide +kernel) (by decide +kernel)
    (fun row hrow => ⟨(hsubmitted row hrow).1, (hsubmitted row hrow).2 ▸ hthree⟩)
    (fun row hrow => ⟨(hsaved row hrow).1, (hsaved row hrow).2 ▸ hfour⟩) _
    ⟨[.selectRoom 2, .participants 2 none, .selectRoom 1, .workspaces 1 (some _),
      .workspaces 2 (some [])], _, [.roomsListed [1, 2]], rfl, ⟨rfl, rfl⟩, ?_⟩
    ⟨[.selectRoom 2, .participants 2 none, .selectRoom 1], _,
      [.workspaces 2 (some []), .submissions 1 (some _), .roomsListed [1, 2]], rfl, ⟨rfl, rfl⟩, ?_⟩
    3 1 (by decide)
  · simp [transitions]
  · simp [transitions, pageStep, TeacherPage.take, loadedDashboard]

end JudgeVortex.Templates
