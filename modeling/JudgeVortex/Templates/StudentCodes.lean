import JudgeVortex.Foundation.Newest
import JudgeVortex.Templates.Leaderboard

/-!
# The codes of a student

The dialog of `teacher-dashboard.html` that shows a student's work question by question: the
lookups that `fetchParticipants`, `fetchSubmissions` and `fetchWorkspaceSnapshots` fill, and
`buildStudentQuestionSnapshots`, which merges them.
-/

namespace JudgeVortex.Templates

open JudgeVortex.CoreApi JudgeVortex.Foundation JudgeVortex.Python JudgeVortex.System

structure DialogText extends BrowserText where
  toLowerCase : String → String
  localeCompare : String → String → Int

/-! ## The responses -/

structure FileEntry where
  path : Option String
  name : Option String
  content : Option String

structure CodeEntry extends SubmissionEntry where
  questionTitle : Option String
  language : Option String
  code : Option String
  files : List FileEntry
  entryFile : Option String
  updatedAt : Option String

def readFileEntry (fields : Dict) : FileEntry where
  path := textField fields "path"
  name := textField fields "name"
  content := textField fields "content"

def objects : Json → List Dict
  | .arr items => items.filterMap fun
      | .obj fields => some fields
      | _ => none
  | _ => []

def readCodes (fields : Dict) : CodeEntry where
  toSubmissionEntry := readEntry fields
  questionTitle := textField fields "question_title"
  language := textField fields "language"
  code := textField fields "code"
  files := ((field? fields "files").elim [] objects).map readFileEntry
  entryFile := textField fields "entry_file"
  updatedAt := textField fields "updated_at"

structure AssignedQuestion where
  id : Option Int
  title : Option String

structure ParticipantEntry where
  id : Option Int
  userId : Option Int
  studentId : Option Int
  username : Option String
  studentName : Option String
  assignedQuestions : List AssignedQuestion

/-! ## Lookup keys -/

/-- `encodeURIComponent`, of a text without lone surrogates. -/
def encodeURIComponent (text : String) : String :=
  .ofList (text.toList.flatMap fun c =>
    if c.isAlphanum ∨ c ∈ "-_.!~*'()".toList then [c]
    else (String.utf8EncodeChar c).flatMap fun byte =>
      '%' :: [byte.toNat / 16, byte.toNat % 16].map fun digit => (Nat.digitChar digit).toUpper)

/-- `normalizeStudentLookupKey` of an id, or of a name where there is none. -/
def studentLookupKey (id : Option Int) (name : String) : String :=
  encodeURIComponent ((truthyNumber id).elim name toString)

namespace ParticipantEntry

variable (participant : ParticipantEntry)

def student : Option Int :=
  ((truthyNumber participant.id).or (truthyNumber participant.userId)).or
    (truthyNumber participant.studentId)

def lookupKey : String :=
  studentLookupKey participant.student
    (((truthyText participant.username).or (truthyText participant.studentName)).getD "unknown")

def name : String :=
  ((truthyText participant.username).or (truthyText participant.studentName)).getD "Unknown"

end ParticipantEntry

/-! ## What the dialog keeps of a question -/

inductive CodeSource where
  | empty
  | submission
  | snapshot
  deriving DecidableEq, Repr

/-- `latestTime` is none for `NaN`. -/
structure QuestionCodes where
  key : String
  label : String
  attemptCount : ℕ
  latestTime : Option Int
  source : CodeSource
  submission : CodeEntry

namespace CodeEntry

variable (js : DialogText) (sub : CodeEntry)

def getSubmissionQuestionLabel : String :=
  (truthyText sub.questionTitle).getD
    ((truthyNumber sub.questionId).elim "Practice" fun id => "Question " ++ toString id)

def updateTime : Option Int :=
  match truthyText sub.updatedAt with
  | some text => js.getTime text
  | none => some 0

/-- `subTime >= previousSubTime` -/
def NotBefore (js : DialogText) (sub previous : CodeEntry) : Prop :=
  sub.toSubmissionEntry.NotBefore js.toBrowserText previous.toSubmissionEntry

instance (js : DialogText) : DecidableRel (NotBefore js) :=
  fun _ _ => inferInstanceAs (Decidable (SubmissionEntry.NotBefore _ _ _))

def defaultSubmissionFiles : List (String × String) :=
  [("python", "main.py"), ("javascript", "main.js"), ("ruby", "main.rb"), ("php", "main.php"),
    ("cpp", "main.cpp"), ("c", "main.c"), ("go", "main.go"), ("rust", "main.rs"),
    ("java", "Main.java"), ("typescript", "main.ts"), ("sql", "query.sql")]

def getDefaultSubmissionFile (language : Option String) : String :=
  ((defaultSubmissionFiles.find? fun entry =>
    entry.1 = js.toLowerCase ((truthyText language).getD "")).map Prod.snd).getD "main.txt"

def normalizeSubmissionFiles : List WorkspaceFile :=
  if sub.files ≠ [] then
    sub.files.map fun file =>
      ⟨(((truthyText file.path).or (truthyText file.name)).or (truthyText sub.entryFile)).getD
        (getDefaultSubmissionFile js sub.language), (truthyText file.content).getD ""⟩
  else
    [⟨(truthyText sub.entryFile).getD (getDefaultSubmissionFile js sub.language),
      (truthyText sub.code).getD ""⟩]

def asSubmission (key : String) (attemptCount : ℕ) : QuestionCodes where
  key := key
  label := sub.getSubmissionQuestionLabel
  attemptCount := attemptCount
  latestTime := sub.time js.toBrowserText
  source := .submission
  submission := sub

def asSnapshot : QuestionCodes where
  key := sub.normalizeQuestionLookupKey
  label := sub.getSubmissionQuestionLabel
  attemptCount := 1
  latestTime := sub.updateTime js
  source := .snapshot
  submission := sub

end CodeEntry

/-! ## The lookups -/

structure StudentCodes where
  questionAttempts : InsertionMap String ℕ
  questionLatestSubmissions : InsertionMap String CodeEntry

def StudentCodes.fresh : StudentCodes := ⟨.empty, .empty⟩

section Lookups

variable (js : DialogText)

/-- The part of the loop's body that `StudentStats.add` has without the codes. -/
def StudentCodes.add (codes : StudentCodes) (sub : CodeEntry) : StudentCodes :=
  let key := sub.normalizeQuestionLookupKey
  { questionAttempts :=
      codes.questionAttempts.set key ((codes.questionAttempts.get? key).getD 0 + 1)
    questionLatestSubmissions :=
      codes.questionLatestSubmissions.setNewest (CodeEntry.NotBefore js) key sub }

def studentCodes (submissions : List CodeEntry) : InsertionMap String StudentCodes :=
  submissions.foldl
    (.update (fun sub => sub.studentKey) fun codes sub => (codes.getD .fresh).add js sub) .empty

def StudentCodes.questionSubmissions (codes : StudentCodes) : List QuestionCodes :=
  (codes.questionLatestSubmissions.entries.map fun entry =>
    entry.2.asSubmission js entry.1
      (((codes.questionAttempts.get? entry.1).filter (· ≠ 0)).getD 1)).insertionSort
    fun left right => ∀ t ∈ left.latestTime, ∀ u ∈ right.latestTime, u ≤ t

/-- `teacherStudentSubmissionLookup` after a response: the keys are set row by row, and a student
key that every object has raises before that. -/
def submissionLookup (submissions : List CodeEntry) : InsertionMap String (List QuestionCodes) :=
  if ∃ sub ∈ submissions, sub.studentKey ∈ objectPrototypeNames then .empty
  else
    (studentCodes js submissions).entries.foldl (fun lookup entry =>
      lookup.set (encodeURIComponent entry.1) (entry.2.questionSubmissions js)) .empty

def snapshotStudentKey (snapshot : CodeEntry) : String :=
  studentLookupKey snapshot.studentId ((truthyText snapshot.studentName).getD "unknown")

def snapshotLookup (snapshots : List CodeEntry) :
    InsertionMap String (InsertionMap String QuestionCodes) :=
  snapshots.foldl
    (.update snapshotStudentKey fun held snapshot =>
      (held.getD .empty).set snapshot.normalizeQuestionLookupKey (snapshot.asSnapshot js)) .empty

def participantLookup (students : List ParticipantEntry) : InsertionMap String ParticipantEntry :=
  students.foldl (fun lookup student => lookup.set student.lookupKey student) .empty

end Lookups

/-! ## The dialog -/

structure CodeLookups where
  participants : InsertionMap String ParticipantEntry
  submissions : InsertionMap String (List QuestionCodes)
  snapshots : InsertionMap String (InsertionMap String QuestionCodes)

def CodeLookups.empty : CodeLookups := ⟨.empty, .empty, .empty⟩

namespace AssignedQuestion

variable (question : AssignedQuestion)

def idText : String := question.id.elim "undefined" toString

def label : String := (truthyText question.title).getD ("Question " ++ question.idText)

def slot (participant : ParticipantEntry) : QuestionCodes where
  key := "question-" ++ question.idText
  label := question.label
  attemptCount := 0
  latestTime := some 0
  source := .empty
  submission :=
    { id := none
      studentName := participant.name
      username := none
      userUsername := none
      studentId := participant.student
      questionId := question.id
      question := none
      status := "NO_CODE_YET"
      totalScore := some 0
      score := none
      marks := none
      submittedAt := none
      createdAt := none
      questionTitle := question.label
      language := "-"
      code := "No code synced for this question yet."
      files := []
      entryFile := ""
      updatedAt := none }

end AssignedQuestion

namespace QuestionCodes

/-- `entry.latestTime >= (existing.latestTime || 0)` -/
def NotBefore (entry existing : QuestionCodes) : Prop :=
  ∃ time ∈ entry.latestTime, existing.latestTime.getD 0 ≤ time

instance : DecidableRel NotBefore :=
  fun _ _ => inferInstanceAs (Decidable (∃ time ∈ _, _ ≤ time))

/-- The comparator of the tabs; a key without `question_id` ends with the number of its question,
if it has one. -/
def tabBefore (js : DialogText) (left right : QuestionCodes) : Bool :=
  let leftQuestionId := left.submission.questionNumber.getD 0
  let rightQuestionId := right.submission.questionNumber.getD 0
  if leftQuestionId ≠ 0 ∧ rightQuestionId ≠ 0 ∧ leftQuestionId ≠ rightQuestionId then
    leftQuestionId ≤ rightQuestionId
  else js.localeCompare left.label right.label ≤ 0

end QuestionCodes

def assignedCodes (participant : ParticipantEntry) : InsertionMap String QuestionCodes :=
  participant.assignedQuestions.foldl (fun merged question =>
    merged.set (question.slot participant).key (question.slot participant)) .empty

section Dialog

variable (js : DialogText) (lookups : CodeLookups) (studentKey : String)

def mergedCodes : InsertionMap String QuestionCodes :=
  let merged := ((lookups.participants.get? studentKey).map assignedCodes).getD .empty
  let merged := ((lookups.submissions.get? studentKey).getD []).foldl
    (fun merged entry => merged.setNewest QuestionCodes.NotBefore entry.key entry) merged
  ((lookups.snapshots.get? studentKey).getD .empty).entries.foldl
    (fun merged entry => merged.setNewest QuestionCodes.NotBefore entry.1 entry.2) merged

def buildStudentQuestionSnapshots : List QuestionCodes :=
  (mergedCodes lookups studentKey).values.mergeSort (QuestionCodes.tabBefore js)

end Dialog

/-! ## What is kept under one key -/

section Student

variable (js : DialogText)

theorem questionLatestSubmissions_foldl_add (codes : StudentCodes) (group : List CodeEntry)
    (key : String) :
    (group.foldl (StudentCodes.add js) codes).questionLatestSubmissions.get? key =
      newestFrom (CodeEntry.NotBefore js) (codes.questionLatestSubmissions.get? key)
        (group.filter fun sub => sub.normalizeQuestionLookupKey = key) := by
  have hfold : (group.foldl (StudentCodes.add js) codes).questionLatestSubmissions =
      group.foldl (fun m (sub : CodeEntry) =>
          m.setNewest (CodeEntry.NotBefore js) sub.normalizeQuestionLookupKey sub)
        codes.questionLatestSubmissions := by
    induction group generalizing codes with
    | nil => rfl
    | cons sub group ih => exact ih (codes.add js sub)
  rw [hfold]
  exact (InsertionMap.get?_foldl_setNewest _ _ id _ _ _).trans (by rw [List.map_id])

theorem questionAttempts_foldl_add (group : List CodeEntry) (key : String) :
    (((group.foldl (StudentCodes.add js) .fresh).questionAttempts.get? key).getD 0) =
      (group.filter fun sub => sub.normalizeQuestionLookupKey = key).length := by
  have hfold : ∀ codes : StudentCodes, (group.foldl (StudentCodes.add js) codes).questionAttempts =
      group.foldl (.update (fun sub : CodeEntry => sub.normalizeQuestionLookupKey)
        fun count _ => count.getD 0 + 1) codes.questionAttempts := by
    induction group with
    | nil => exact fun _ => rfl
    | cons sub group ih => exact fun codes => ih (codes.add js sub)
  rw [hfold, InsertionMap.get?_foldl_update]
  generalize group.filter (fun sub => sub.normalizeQuestionLookupKey = key) = subs
  induction subs using List.reverseRecOn with
  | nil => rfl
  | append_singleton subs sub ih => simp [ih]

def codesOf (submissions : List CodeEntry) (studentKey : String) : List CodeEntry :=
  submissions.filter fun sub => sub.studentKey = studentKey

theorem get?_studentCodes (submissions : List CodeEntry) (studentKey : String) :
    (studentCodes js submissions).get? studentKey =
      (codesOf submissions studentKey).head?.map fun _ =>
        (codesOf submissions studentKey).foldl (StudentCodes.add js) .fresh := by
  rw [studentCodes, InsertionMap.get?_foldl_update, ← codesOf, InsertionMap.get?_empty]
  cases codesOf submissions studentKey with
  | nil => rfl
  | cons first rest =>
      rw [List.foldl_cons, InsertionMap.foldl_some]
      rfl

theorem filter_questionSubmissions (codes : StudentCodes) (key : String) :
    ((codes.questionSubmissions js).filter fun entry => entry.key = key) =
      ((codes.questionLatestSubmissions.get? key).map fun sub =>
        sub.asSubmission js key
          (((codes.questionAttempts.get? key).filter (· ≠ 0)).getD 1)).toList := by
  generalize hshown : (fun sub : CodeEntry => sub.asSubmission js key
    (((codes.questionAttempts.get? key).filter (· ≠ 0)).getD 1)) = shown
  have hperm : ((codes.questionSubmissions js).filter fun entry => entry.key = key).Perm
      (((codes.questionLatestSubmissions.entries.filter fun entry => entry.1 = key).map
        Prod.snd).map shown) := by
    refine ((List.perm_insertionSort _ _).filter _).trans (.of_eq ?_)
    rw [List.filter_map, List.map_map]
    refine List.map_congr_left fun entry hentry => ?_
    rw [← hshown, ← of_decide_eq_true (List.mem_filter.mp hentry).2]
    rfl
  rw [InsertionMap.filter_entries] at hperm
  cases hlatest : codes.questionLatestSubmissions.get? key with
  | none =>
      rw [hlatest] at hperm
      exact hperm.eq_nil
  | some sub =>
      rw [hlatest] at hperm
      exact List.perm_singleton.mp hperm

def submittedCodes (submissions : List CodeEntry) (studentKey key : String) :
    Option QuestionCodes :=
  let group := (codesOf submissions studentKey).filter fun sub =>
    sub.normalizeQuestionLookupKey = key
  (newest (CodeEntry.NotBefore js) group).map fun sub => sub.asSubmission js key group.length

def PlainKeys (submissions : List CodeEntry) : Prop :=
  ∀ sub ∈ submissions, sub.studentKey ∉ objectPrototypeNames ∧
    encodeURIComponent sub.studentKey = sub.studentKey

variable {submissions : List CodeEntry}

theorem get?_submissionLookup
    (hplain : PlainKeys submissions) (studentKey : String) :
    (submissionLookup js submissions).get? studentKey =
      ((studentCodes js submissions).get? studentKey).map
        (StudentCodes.questionSubmissions js) := by
  have hencode : ∀ entry ∈ (studentCodes js submissions).entries,
      encodeURIComponent entry.1 = entry.1 := by
    intro entry hentry
    have hkey : entry.1 ∈ (studentCodes js submissions).keys := List.mem_map_of_mem hentry
    rw [studentCodes, InsertionMap.mem_keys_foldl_update] at hkey
    obtain ⟨sub, hsub, hsame⟩ := List.mem_map.mp (hkey.resolve_left List.not_mem_nil)
    rw [← hsame]
    exact (hplain sub hsub).2
  rw [submissionLookup, if_neg fun ⟨sub, hsub, hmem⟩ => (hplain sub hsub).1 hmem,
    InsertionMap.get?_foldl_set, InsertionMap.get?_empty, Option.or_none]
  have hfilter : ((studentCodes js submissions).entries.filter fun entry =>
      encodeURIComponent entry.1 = studentKey) =
        (studentCodes js submissions).entries.filter fun entry => entry.1 = studentKey :=
    List.filter_congr fun entry hentry => by rw [hencode entry hentry]
  rw [hfilter, ← Function.comp_def (StudentCodes.questionSubmissions js) Prod.snd,
    ← Option.map_map, ← List.getLast?_map, InsertionMap.filter_entries]
  cases (studentCodes js submissions).get? studentKey with
  | none => rfl
  | some codes => rfl

theorem filter_submissionLookup
    (hplain : PlainKeys submissions) (studentKey key : String) :
    ((((submissionLookup js submissions).get? studentKey).getD []).filter fun entry =>
        entry.key = key) = (submittedCodes js submissions studentKey key).toList := by
  rw [get?_submissionLookup js hplain, get?_studentCodes, submittedCodes]
  cases hgroup : codesOf submissions studentKey with
  | nil => rfl
  | cons first rest =>
      dsimp only [List.head?_cons, Option.map_some, Option.getD_some]
      rw [filter_questionSubmissions, questionLatestSubmissions_foldl_add]
      have hattempts := questionAttempts_foldl_add js (first :: rest) key
      generalize (first :: rest).filter (fun sub => sub.normalizeQuestionLookupKey = key) =
        group at hattempts ⊢
      cases group with
      | nil => rfl
      | cons sub group =>
          have hcount : (((((first :: rest).foldl (StudentCodes.add js)
              .fresh).questionAttempts.get? key).filter (· ≠ 0)).getD 1) =
                (sub :: group).length := by
            cases hget : ((first :: rest).foldl (StudentCodes.add js)
                .fresh).questionAttempts.get? key with
            | none =>
                rw [hget] at hattempts
                cases hattempts
            | some count =>
                rw [hget, Option.getD_some] at hattempts
                rw [hattempts]
                rfl
          rw [hcount]
          rfl

end Student

section Merged

variable (js : DialogText)

def savedCodes (snapshots : List CodeEntry) (studentKey key : String) : Option QuestionCodes :=
  ((snapshots.filter fun snapshot => snapshotStudentKey snapshot = studentKey).filter
    fun snapshot => snapshot.normalizeQuestionLookupKey = key).getLast?.map
      (CodeEntry.asSnapshot js)

theorem get?_snapshotLookup (snapshots : List CodeEntry) (studentKey key : String) :
    (((snapshotLookup js snapshots).get? studentKey).getD InsertionMap.empty).get? key =
      savedCodes js snapshots studentKey key := by
  have hgroup : ((snapshotLookup js snapshots).get? studentKey).getD InsertionMap.empty =
      (snapshots.filter fun snapshot => snapshotStudentKey snapshot = studentKey).foldl
        (fun held snapshot =>
          held.set snapshot.normalizeQuestionLookupKey (snapshot.asSnapshot js))
          InsertionMap.empty := by
    rw [snapshotLookup, InsertionMap.get?_foldl_update, InsertionMap.get?_empty]
    change (List.foldl _ none (snapshots.filter fun snapshot =>
      snapshotStudentKey snapshot = studentKey)).getD InsertionMap.empty = _
    cases snapshots.filter fun snapshot => snapshotStudentKey snapshot = studentKey with
    | nil => rfl
    | cons first rest =>
        rw [List.foldl_cons, InsertionMap.foldl_some]
        rfl
  rw [hgroup, InsertionMap.get?_foldl_set, InsertionMap.get?_empty, Option.or_none, savedCodes]

def emptyCodes (participant : Option ParticipantEntry) (key : String) : Option QuestionCodes :=
  participant.bind fun participant =>
    (participant.assignedQuestions.filter fun question =>
      (question.slot participant).key = key).getLast?.map fun question =>
        question.slot participant

variable {submissions : List CodeEntry}

/-- Of the slot, the submissions and the workspace of a question, the dialog shows the newest. -/
theorem get?_mergedCodes (participants : InsertionMap String ParticipantEntry)
    (snapshots : List CodeEntry)
    (hplain : PlainKeys submissions) (studentKey key : String) :
    (mergedCodes ⟨participants, submissionLookup js submissions,
        snapshotLookup js snapshots⟩ studentKey).get? key =
      newestFrom QuestionCodes.NotBefore (emptyCodes (participants.get? studentKey) key)
        ((submittedCodes js submissions studentKey key).toList ++
          (savedCodes js snapshots studentKey key).toList) := by
  have hempty : (((participants.get? studentKey).map assignedCodes).getD
      InsertionMap.empty).get? key = emptyCodes (participants.get? studentKey) key := by
    rw [emptyCodes]
    cases participants.get? studentKey with
    | none => rfl
    | some participant =>
        rw [Option.map_some, Option.getD_some, Option.bind_some, assignedCodes,
          InsertionMap.get?_foldl_set (fun question => (question.slot participant).key)
            fun question => AssignedQuestion.slot question participant,
          InsertionMap.get?_empty, Option.or_none]
  have hsubmitted : ∀ merged : InsertionMap String QuestionCodes,
      ((((submissionLookup js submissions).get? studentKey).getD []).foldl
          (fun merged entry => merged.setNewest QuestionCodes.NotBefore entry.key entry)
          merged).get? key =
        newestFrom QuestionCodes.NotBefore (merged.get? key)
          (submittedCodes js submissions studentKey key).toList := by
    intro merged
    rw [← filter_submissionLookup js hplain]
    exact (InsertionMap.get?_foldl_setNewest _ _ id _ _ _).trans (by rw [List.map_id])
  rw [mergedCodes, InsertionMap.get?_foldl_setNewest, InsertionMap.filter_entries, hsubmitted,
    hempty, get?_snapshotLookup, newestFrom_append]

variable {participants : InsertionMap String ParticipantEntry} {snapshots : List CodeEntry}

theorem key_of_get?_mergedCodes
    (hplain : PlainKeys submissions) {studentKey key : String}
    {tab : QuestionCodes}
    (h : (mergedCodes ⟨participants, submissionLookup js submissions,
      snapshotLookup js snapshots⟩ studentKey).get? key = some tab) : tab.key = key := by
  rw [get?_mergedCodes js participants snapshots hplain] at h
  obtain hempty | hcode := mem_of_newestFrom _ h
  · obtain ⟨participant, -, hslot⟩ := Option.bind_eq_some_iff.mp hempty
    obtain ⟨question, hlast, rfl⟩ := Option.map_eq_some_iff.mp hslot
    exact of_decide_eq_true (List.mem_filter.mp (List.mem_of_mem_getLast? hlast)).2
  · obtain hsubmitted | hsaved := List.mem_append.mp hcode
    · obtain ⟨sub, -, rfl⟩ := Option.map_eq_some_iff.mp (Option.mem_toList.mp hsubmitted)
      rfl
    · obtain ⟨snapshot, hlast, rfl⟩ := Option.map_eq_some_iff.mp (Option.mem_toList.mp hsaved)
      exact of_decide_eq_true (List.mem_filter.mp (List.mem_of_mem_getLast? hlast)).2

theorem mem_buildStudentQuestionSnapshots (participants : InsertionMap String ParticipantEntry)
    (snapshots : List CodeEntry) (hplain : PlainKeys submissions) (studentKey : String) :
    let lookups : CodeLookups :=
      ⟨participants, submissionLookup js submissions, snapshotLookup js snapshots⟩
    ((buildStudentQuestionSnapshots js lookups studentKey).map QuestionCodes.key).Nodup ∧
      ∀ tab key, tab ∈ buildStudentQuestionSnapshots js lookups studentKey ∧ tab.key = key ↔
        (mergedCodes lookups studentKey).get? key = some tab := by
  intro lookups
  have hperm := List.mergeSort_perm (mergedCodes lookups studentKey).values
    (QuestionCodes.tabBefore js)
  have hkeys : ∀ entry ∈ (mergedCodes lookups studentKey).entries, entry.2.key = entry.1 :=
    fun entry hentry =>
      key_of_get?_mergedCodes js hplain (InsertionMap.mem_entries_iff.mp hentry)
  constructor
  · refine ((hperm.map QuestionCodes.key).nodup_iff).mpr ?_
    rw [InsertionMap.values, List.map_map]
    exact (List.map_congr_left hkeys) ▸ (mergedCodes lookups studentKey).nodup
  · intro tab key
    rw [← InsertionMap.mem_entries_iff, buildStudentQuestionSnapshots, hperm.mem_iff,
      InsertionMap.values, List.mem_map]
    constructor
    · rintro ⟨⟨entry, hentry, rfl⟩, rfl⟩
      rw [hkeys entry hentry]
      exact hentry
    · intro hentry
      exact ⟨⟨_, hentry, rfl⟩, hkeys _ hentry⟩

end Merged

end JudgeVortex.Templates
