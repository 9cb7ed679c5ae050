import JudgeVortex.System.Snapshots
import JudgeVortex.System.WorkspaceAgreement
import JudgeVortex.Templates.EditorLanguage

/-!
# From the editor to the executor

What the page submits is what the web tier accepts and the executor runs: the same files,
the same entry file, the same code, unless the web tier's bounds are passed.
-/

namespace JudgeVortex.System

open JudgeVortex.CoreApi JudgeVortex.Foundation JudgeVortex.Python JudgeVortex.Shared
open JudgeVortex.Templates

def submittedFiles (files : List WorkspaceFile) : Json :=
  .arr (files.map fun file => filePayload file.path file.content)

/-! ## Two tables of endings -/

/-- The page's table of endings, entry by entry, is the one of the web tier. -/
theorem entryFileLanguageByExtension_eq :
    entryFileLanguageByExtension =
      languagePathMatchers.flatMap fun entry => entry.2.map fun ending => (ending, entry.1) := by
  decide

theorem find?_any_eq_find?_flatMap {α β : Type*} (table : List (α × List β)) (p : β → Bool) :
    (table.find? fun entry => entry.2.any p).map Prod.fst =
      ((table.flatMap fun entry => entry.2.map fun b => (b, entry.1)).find? fun entry =>
        p entry.1).map Prod.snd := by
  induction table with
  | nil => rfl
  | cons entry table ih =>
      rw [List.flatMap_cons, List.find?_append, List.find?_map, Option.map_or, ← ih,
        List.find?_cons]
      cases hfound : entry.2.find? p with
      | none =>
          have hany : entry.2.any p = false := by simpa using hfound
          simp [hany, hfound]
      | some b =>
          have hany : entry.2.any p = true :=
            List.any_eq_true.mpr ⟨b, List.mem_of_find?_eq_some hfound, List.find?_some hfound⟩
          simp [hany, hfound]

section Reading

variable [PythonRuntime]

theorem textOrEmpty_str (s : String) : (Json.str s).textOrEmpty = s := by
  by_cases hs : s = "" <;> simp [Json.textOrEmpty, Json.truthy, hs]

theorem inferLanguage_agrees {path : String} (hsettled : Settled path)
    (hsafe : safePath (some maxFilePathLength) path = some path) :
    inferLanguageFromEntryFile (.str path) = inferLanguageFromPath (some path) := by
  rw [inferLanguageFromEntryFile, inferLanguageFromPath, sanitizeRelativeFilePath,
    textOrEmpty_str, hsafe, hsettled.sanitize]
  simp only
  rw [entryFileLanguageByExtension_eq, find?_any_eq_find?_flatMap]

theorem readFile_filePayload {file : WorkspaceFile} (hpath : file.path ≠ "")
    (read : WorkspaceFile) :
    readFile (filePayload file.path file.content) = .ok read ↔
      safePath (some maxFilePathLength) file.path = some read.path ∧
        read.content = file.content := by
  have hraw : rawPath [("path", .str file.path), ("content", .str file.content)] =
      .str file.path := by
    simp [rawPath, fieldD, field?, Json.orElse, Json.truthy, hpath]
  have hcontent : fieldD [("path", .str file.path), ("content", .str file.content)] "content"
      .null = .str file.content := rfl
  rw [filePayload, readFile, hraw, sanitizeRelativeFilePath, textOrEmpty_str, hcontent,
    textOrEmpty_str]
  cases safePath (some maxFilePathLength) file.path with
  | none => simp
  | some path =>
      cases read
      simp [eq_comm]

theorem readFile_self {file : WorkspaceFile} (hpath : file.path ≠ "") :
    readFile (filePayload file.path file.content) = .ok file ↔
      safePath (some maxFilePathLength) file.path = some file.path := by
  rw [readFile_filePayload hpath]
  exact and_iff_left rfl

theorem addFiles_of_forall₂ {raws : List Json} {files : List WorkspaceFile}
    (h : List.Forall₂ (fun raw file => readFile raw = .ok file) raws files) (s : FileSet) :
    addFiles s raws = .ok (files.foldl (Keyed.add WorkspaceFile.path) s) := by
  induction h generalizing s with
  | nil => rfl
  | cons hread _ ih =>
      rw [addFiles, hread]
      exact ih _

theorem forall₂_readFile_iff {files : List WorkspaceFile} (hsound : FilesSound files) :
    List.Forall₂ (fun raw file => readFile raw = .ok file)
        (files.map fun file => filePayload file.path file.content) files ↔
      ∀ path ∈ paths files, safePath (some maxFilePathLength) path = some path := by
  rw [List.forall₂_map_left_iff, List.forall₂_same, paths, List.forall_mem_map]
  exact forall₂_congr fun file hfile =>
    readFile_self (hsound.safe _ (List.mem_map_of_mem hfile)).nonempty

/-! ## What the web tier and the executor make of the request -/

/-- The web tier keeps the files when there is room for them and it reads every path as it is. -/
theorem addFiles_submitted_iff {files : List WorkspaceFile} (hsound : FilesSound files) :
    (∃ s, addFiles .empty ((files.map fun file => filePayload file.path file.content).take
        maxSubmissionFiles) = .ok s ∧ s.entries = files) ↔
      files.length ≤ maxSubmissionFiles ∧
        ∀ path ∈ paths files, safePath (some maxFilePathLength) path = some path := by
  have hempty := Keyed.empty_wellFormed WorkspaceFile.path
  rw [← forall₂_readFile_iff hsound]
  constructor
  · rintro ⟨s, hadd, hentries⟩
    obtain ⟨read, hread, rfl⟩ := addFiles_ok hadd
    rw [Keyed.foldl_eq_lastOf WorkspaceFile.path hempty] at hentries
    replace hentries : lastOf WorkspaceFile.path read = files := hentries
    have hsub : files.Sublist read := hentries ▸ lastOf_sublist WorkspaceFile.path read
    have hlength := hread.length_eq
    rw [List.length_take, List.length_map] at hlength
    have hle := hsub.length_le
    have hroom : files.length ≤ maxSubmissionFiles := by omega
    have hsame : files = read := hsub.eq_of_length (by omega)
    rw [List.take_of_length_le (by simpa using hroom), ← hsame] at hread
    exact ⟨hroom, hread⟩
  · rintro ⟨hroom, hread⟩
    rw [List.take_of_length_le (by simpa using hroom)]
    refine ⟨_, addFiles_of_forall₂ hread _, ?_⟩
    rw [Keyed.foldl_of_nodup WorkspaceFile.path hempty hsound.nodup]
    rfl

theorem normalizeSubmissionFiles_submitted_iff {files : List WorkspaceFile}
    (hsound : FilesSound files) {entry code : String} (hcode : contentAt files entry = some code)
    (language rawCode : Json) :
    normalizeSubmissionFiles language rawCode (submittedFiles files) (.str entry) =
        .ok ⟨files, entry, code⟩ ↔
      files.length ≤ maxSubmissionFiles ∧
        ∀ path ∈ paths files, safePath (some maxFilePathLength) path = some path := by
  have hmem := mem_paths_of_contentAt hcode
  have hempty := Keyed.empty_wellFormed WorkspaceFile.path
  rw [← addFiles_submitted_iff hsound]
  constructor
  · intro h
    obtain ⟨parsed, s, hparse, hadd, -, hfiles⟩ := normalizeSubmissionFiles_ok h
    cases hparse
    refine ⟨s, hadd, ?_⟩
    obtain ⟨-, hfiles⟩ | ⟨hnone, -⟩ := hfiles
    · exact hfiles.symm
    · -- A payload of some files leaves some file.
      obtain ⟨read, hread, rfl⟩ := addFiles_ok hadd
      have hlength := hread.length_eq
      rw [List.length_take, List.length_map] at hlength
      have hsome := List.length_pos_of_ne_nil hsound.nonempty
      have hroom : 0 < maxSubmissionFiles := by decide
      obtain ⟨file, rest, rfl⟩ := List.exists_cons_of_length_pos (l := read) (by omega)
      have hkept := (Keyed.mem_keys_foldl WorkspaceFile.path hempty (file :: rest)
        file.path).mpr (.inr (by simp))
      rw [hnone] at hkept
      cases hkept
  · rintro ⟨s, hadd, hentries⟩
    have hread := ((addFiles_submitted_iff hsound).mp ⟨s, hadd, hentries⟩).2 entry hmem
    obtain ⟨read, -, rfl⟩ := addFiles_ok hadd
    have hseen : entry ∈ (read.foldl (Keyed.add WorkspaceFile.path) .empty).seen := by
      rw [(Keyed.foldl_wellFormed WorkspaceFile.path hempty read).seen_iff, hentries]
      exact hmem
    have hparse : parseFiles (submittedFiles files) =
        .ok (files.map fun file => filePayload file.path file.content) := rfl
    have hrequested : sanitizeRelativeFilePath (.str entry) = some entry := by
      rw [sanitizeRelativeFilePath, textOrEmpty_str, hread]
    obtain ⟨content, hfound, -⟩ := find_entry hmem
    have hcontent : content = code := by
      rw [contentAt, Foundation.valueAt, hfound, Option.map_some] at hcode
      exact Option.some.inj hcode
    obtain ⟨first, rest, rfl⟩ := List.exists_cons_of_ne_nil hsound.nonempty
    simp only [normalizeSubmissionFiles, bind_eq_ok_iff]
    refine ⟨_, hparse, _, hadd, ?_⟩
    simp only [hentries, hrequested, resolveEntryFile, if_pos hseen, hfound, hcontent]
    rfl

theorem validateSubmissionLanguage_of_fits {language entry : String}
    (hlanguage : language ∈ languageOptions) (hsettled : Settled entry)
    (hsafe : safePath (some maxFilePathLength) entry = some entry)
    (hinferred : ∀ inferred ∈ inferLanguageFromPath (some entry), inferred = language) :
    validateSubmissionLanguage (.str language) entry = .ok language := by
  have htable : ∀ language ∈ languageOptions,
      language ≠ "" ∧ lower (strip language) = language := by
    decide +kernel
  obtain ⟨hne, hnormalized⟩ := htable language hlanguage
  have horElse : (Json.str language).orElse (.str "python") = .str language :=
    if_pos (decide_eq_true hne)
  rw [validateSubmissionLanguage, inferLanguage_agrees hsettled hsafe, horElse, toText_str]
  simp only [hnormalized, if_neg hne]
  split
  next inferred hfound => rw [if_neg (not_not.mpr (hinferred inferred hfound))]
  next => rfl

def WithinBounds (files : List WorkspaceFile) : Prop :=
  files.length ≤ maxSubmissionFiles ∧
    ∀ path ∈ paths files, strip path = path ∧ path.length ≤ maxFilePathLength

section Payload

variable {view : TextComponent} {s : Session}

omit [PythonRuntime] in
theorem payload_safe_iff (h : SessionFits view s) :
    (∀ path ∈ paths (getWorkspacePayload s.editor).2.files,
        safePath (some maxFilePathLength) path = some path) ↔
      ∀ path ∈ paths (getWorkspacePayload s.editor).2.files,
        strip path = path ∧ path.length ≤ maxFilePathLength := by
  refine forall₂_congr fun path hpath => ?_
  have hplain := (settled_iff_plain path).mp
    ((getWorkspacePayload_fits h.sound h.editor).settled path hpath)
  rw [safePath_self_iff hplain.safe hplain.no_backslash hplain.no_dot hplain.no_tilde]
  simp

theorem normalizeSubmissionFiles_payload_iff (h : SessionFits view s) (language rawCode : Json) :
    normalizeSubmissionFiles language rawCode
        (submittedFiles (getWorkspacePayload s.editor).2.files)
        (.str (getWorkspacePayload s.editor).2.entryFile) =
      .ok ⟨(getWorkspacePayload s.editor).2.files, (getWorkspacePayload s.editor).2.entryFile,
        (getWorkspacePayload s.editor).2.code⟩ ↔
      WithinBounds (getWorkspacePayload s.editor).2.files := by
  have hsound : FilesSound (getWorkspacePayload s.editor).2.files :=
    (getWorkspacePayload_sound h.sound).files
  rw [normalizeSubmissionFiles_submitted_iff hsound (getWorkspacePayload_code h.sound),
    payload_safe_iff h]
  rfl

theorem validateSubmissionLanguage_payload (h : SessionFits view s)
    (hbounds : WithinBounds (getWorkspacePayload s.editor).2.files) :
    validateSubmissionLanguage (.str s.editor.language) (getWorkspacePayload s.editor).2.entryFile =
      .ok s.editor.language := by
  have hentry := mem_paths_of_contentAt (getWorkspacePayload_code h.sound)
  exact validateSubmissionLanguage_of_fits h.editor.language
    ((getWorkspacePayload_fits h.sound h.editor).settled _ hentry)
    ((payload_safe_iff h).mpr hbounds.2 _ hentry)
    (h.editor.entry _ (getWorkspacePayload_entry h.sound h.editor))

end Payload

end Reading

/-! ## Whole sessions -/

def buildActiveExamSnapshotPayload (s : Session) : Option ((Int × Int) × Dict) :=
  match activeKey s with
  | none => none
  | some (roomId, questionId) =>
      if !s.inExamMode ∨ !s.isExamActive ∨ s.isDisqualified then none
      else
        let payload := (getWorkspacePayload s.editor).2
        some ((roomId, questionId),
          [("room_id", .int roomId), ("question_id", .int questionId),
            ("code", .str payload.code), ("files", submittedFiles payload.files),
            ("entry_file", .str payload.entryFile), ("language", .str s.editor.language)])

def shownWorkspace (e : Editor) : WorkspaceSnapshot :=
  ⟨e.language, (getWorkspacePayload e).2.code, (getWorkspacePayload e).2.files,
    (getWorkspacePayload e).2.entryFile⟩

section Saving

variable [PythonRuntime] {view : TextComponent} {s : Session} {roomId questionId : Int}
  {fields : Dict}

omit [PythonRuntime] in
theorem orElse_empty (s : String) : (Json.str s).orElse (.str "") = .str s := by
  by_cases hs : s = "" <;> simp [Json.orElse, Json.truthy, hs]

theorem bodyWorkspace_payload (h : SessionFits view s)
    (hpayload : buildActiveExamSnapshotPayload s = some ((roomId, questionId), fields)) :
    let payload := (getWorkspacePayload s.editor).2
    bodyWorkspace fields =
      (normalizeSubmissionFiles (.str s.editor.language) (.str payload.code)
        (submittedFiles payload.files) (.str payload.entryFile)).bind fun workspace =>
      (validateSubmissionLanguage (.str s.editor.language) workspace.entryFile).bind fun language =>
      .ok ⟨language, workspace.code, workspace.files, workspace.entryFile⟩ := by
  have hne : ∀ language ∈ languageOptions, language ≠ "" := by decide
  have hlanguage : (Json.str s.editor.language).orElse (.str "python") = .str s.editor.language :=
    if_pos (decide_eq_true (hne _ h.editor.language))
  unfold buildActiveExamSnapshotPayload at hpayload
  split at hpayload
  next => cases hpayload
  next =>
    split at hpayload
    next => cases hpayload
    next =>
      cases hpayload
      rw [bodyWorkspace, show fieldD _ "language" .null = .str s.editor.language from rfl,
        show fieldD _ "entry_file" .null = .str (getWorkspacePayload s.editor).2.entryFile from rfl,
        orElse_empty, hlanguage]
      rfl

theorem bodyWorkspace_shown_iff (h : SessionFits view s)
    (hpayload : buildActiveExamSnapshotPayload s = some ((roomId, questionId), fields)) :
    bodyWorkspace fields = .ok (shownWorkspace s.editor) ↔
      WithinBounds (getWorkspacePayload s.editor).2.files := by
  have hkept := normalizeSubmissionFiles_payload_iff h (.str s.editor.language)
    (.str (getWorkspacePayload s.editor).2.code)
  rw [bodyWorkspace_payload h hpayload]
  constructor
  · intro hread
    obtain ⟨workspace, hnormalized, hread⟩ := bind_eq_ok_iff.mp hread
    obtain ⟨language, -, heq⟩ := bind_eq_ok_iff.mp hread
    obtain ⟨files, entry, code⟩ := workspace
    obtain ⟨-, rfl, rfl, rfl⟩ := WorkspaceSnapshot.mk.inj (Except.ok.inj heq)
    exact hkept.mp hnormalized
  · intro hbounds
    exact bind_eq_ok_iff.mpr ⟨_, hkept.mpr hbounds, bind_eq_ok_iff.mpr
      ⟨_, validateSubmissionLanguage_payload h hbounds, rfl⟩⟩

omit [PythonRuntime] in
theorem refusal_status (error : RequestError) : (refusal error).status ≠ 200 := by
  cases error <;> simp [refusal, raised]

theorem checkSnapshot_admitted {db : ExamTables} {user : Int} {participant : EnrolledParticipant}
    (hconsistent : db.Consistent) (hfound : db.participant? roomId user = some participant)
    (hunlocked : participant.accessLocked = false)
    (hassigned : questionId ∈ participant.assignedQuestions) :
    checkSnapshot user db roomId questionId (.obj fields) =
      match bodyWorkspace fields with
      | .ok snapshot => .ok (participant, snapshot)
      | .error error => .error (refusal error) := by
  have hkey := List.find?_some hfound
  obtain ⟨hroomId, -⟩ := of_decide_eq_true hkey
  have hquestion := hconsistent.assigned participant (List.mem_of_find?_eq_some hfound) questionId
    hassigned
  rw [hroomId] at hquestion
  obtain ⟨asked, hasked⟩ := Option.isSome_iff_exists.mp
    (ExamTables.hasQuestion_iff_find?.mp hquestion)
  have haskedKey := List.find?_some hasked
  have haskedId : asked.id = questionId := (of_decide_eq_true haskedKey).1
  obtain ⟨question, hmem, -, hsame⟩ := hquestion
  obtain ⟨room, hroomMem, hid⟩ := hconsistent.questionRoom question hmem
  have hroomSome : (db.rooms.get? roomId).isSome := List.find?_isSome.mpr
    ⟨room, hroomMem, decide_eq_true (hid.trans (Option.some.inj hsame).symm)⟩
  obtain ⟨room, hroom⟩ := Option.isSome_iff_exists.mp hroomSome
  rw [← haskedId] at hassigned
  unfold checkSnapshot
  cases hread : bodyWorkspace fields with
  | ok snapshot =>
      simp only [hroom, hfound, hunlocked, Bool.false_eq_true, if_false, hasked,
        if_pos hassigned, hread]
  | error error =>
      simp only [hroom, hfound, hunlocked, Bool.false_eq_true, if_false, hasked,
        if_pos hassigned, hread]

theorem postSnapshot_keeps_iff (h : SessionFits view s)
    (hpayload : buildActiveExamSnapshotPayload s = some ((roomId, questionId), fields))
    {db : ExamTables} (hsound : db.SnapshotsSound) {user : Int} {participant : EnrolledParticipant}
    (hfound : db.participant? roomId user = some participant)
    (hunlocked : participant.accessLocked = false)
    (hassigned : questionId ∈ participant.assignedQuestions) (env : ManagementEnv) :
    let posted := postSnapshot env (fun _ => false) user db roomId questionId (.obj fields)
    posted.2.status = 200 ∧
        posted.1.Holds (roomId, user, questionId) (shownWorkspace s.editor, env.now) ↔
      WithinBounds (getWorkspacePayload s.editor).2.files := by
  rw [← bodyWorkspace_shown_iff h hpayload, postSnapshot,
    checkSnapshot_admitted hsound.consistent hfound hunlocked hassigned]
  cases hread : bodyWorkspace fields with
  | error error =>
      refine iff_of_false ?_ (fun heq => by cases heq)
      rintro ⟨hstatus, -⟩
      exact refusal_status error hstatus
  | ok snapshot =>
      simp only [Bool.false_eq_true, if_false, true_and, ExamTables.Holds,
        ExamTables.saveIfSome_snapshots]
      refine (ExamTables.holds_upsertSnapshot hsound.unique _ _).trans ?_
      simp [eq_comm]

end Saving

/--
In a session of plain names, the page of a student who is let in saves what it shows, and the
teacher's rows have it, exactly when there are at most 32 files and no path is longer than 180
symbols or has outer whitespace of Python's kind.
-/
theorem page_workspace_kept_iff [PythonRuntime] (view : TextComponent) (initialLang : String)
    (stored : InsertionMap String SavedWorkspace) (events : List SessionEvent)
    (hinitial : initialLang ∈ languageOptions) (hstored : FittingStore stored)
    (hplain : ∀ e ∈ events, PlainSession e) (requests : List ExamStep)
    (hmeets : ∀ p ∈ transitions examStep .empty requests, p.2.Meets p.1) (env : ManagementEnv)
    (user roomId questionId : Int) :
    let s := events.foldl (sessionStep view initialLang) (initialSession view initialLang stored)
    let db := examAt requests
    activeKey s = some (roomId, questionId) → s.inExamMode → s.isExamActive → ¬ s.isDisqualified →
      (∃ participant, db.participant? roomId user = some participant ∧
        participant.accessLocked = false ∧ questionId ∈ participant.assignedQuestions) →
      ∃ fields, buildActiveExamSnapshotPayload s = some ((roomId, questionId), fields) ∧
        let posted := postSnapshot env (fun _ => false) user db roomId questionId (.obj fields)
        (posted.2.status = 200 ∧
            ∃ row ∈ workspaceRows posted.1 roomId, row.studentId = user ∧
              row.questionId = questionId ∧
              (row.toWorkspaceSnapshot, row.updatedAt) = (shownWorkspace s.editor, env.now)) ↔
          (shownWorkspace s.editor).files.length ≤ maxSubmissionFiles ∧
            ∀ path ∈ paths (shownWorkspace s.editor).files,
              strip path = path ∧ path.length ≤ maxFilePathLength := by
  intro s db hkey hmode hactive hqualified hadmitted
  obtain ⟨participant, hfound, hunlocked, hassigned⟩ := hadmitted
  have hpayload : ∃ fields, buildActiveExamSnapshotPayload s =
      some ((roomId, questionId), fields) := by
    simp [buildActiveExamSnapshotPayload, hkey, hmode, hactive, hqualified]
  obtain ⟨fields, hpayload⟩ := hpayload
  refine ⟨fields, hpayload, ?_⟩
  have hkept := postSnapshot_keeps_iff
    (reached_fits view initialLang stored events hinitial hstored hplain) hpayload
    (examAt_sound hmeets) hfound hunlocked hassigned env
  dsimp only at hkept
  rw [holds_iff_workspaceRows] at hkept
  exact hkept

def examPage : List SessionEvent :=
  [.renderExamMode 1 [1] false true, .setActiveQuestion 1 (some 1) true,
    .setFlags true true false [1], .edit (.addFile (some "lib/util.py")),
    .edit (.type "x = 1\n")]

theorem page_workspace_kept_exam :
    letI := plainRuntime
    let s := examPage.foldl (sessionStep lineComponent "python")
      (initialSession lineComponent "python" .empty)
    ∃ fields, buildActiveExamSnapshotPayload s = some ((1, 1), fields) ∧
      let posted := postSnapshot (lessonEnv 6) (fun _ => false) 3 (examAt savedTwice) 1 1
        (.obj fields)
      (posted.2.status = 200 ∧
          ∃ row ∈ workspaceRows posted.1 1, row.studentId = 3 ∧ row.questionId = 1 ∧
            (row.toWorkspaceSnapshot, row.updatedAt) = (shownWorkspace s.editor, 6)) ↔
        (shownWorkspace s.editor).files.length ≤ maxSubmissionFiles ∧
          ∀ path ∈ paths (shownWorkspace s.editor).files,
            strip path = path ∧ path.length ≤ maxFilePathLength := by
  let := plainRuntime
  have hadmitted : ((examAt savedTwice).participant? 1 3).any fun participant =>
      ! participant.accessLocked ∧ 1 ∈ participant.assignedQuestions := by decide +kernel
  obtain ⟨participant, hfound, hadmitted⟩ := (Option.any_eq_true ..).mp hadmitted
  obtain ⟨hunlocked, hassigned⟩ := of_decide_eq_true hadmitted
  exact page_workspace_kept_iff lineComponent "python" .empty examPage (by decide)
    (fun _ _ h => by cases h) (by simp [examPage, PlainSession, PlainEdit]; decide +kernel)
    savedTwice savedTwice_meets (lessonEnv 6) 3 1 1 (by decide +kernel) (by decide +kernel)
    (by decide +kernel) (by decide +kernel)
    ⟨participant, hfound, by simpa using hunlocked, hassigned⟩

end JudgeVortex.System
