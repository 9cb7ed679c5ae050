import JudgeVortex.Templates.SavedWorkspaces
import Mathlib

/-!
# Switching between questions

A student's work on a question comes back as it was left, whatever happens to the other
questions in between.
-/

namespace JudgeVortex.Templates

open JudgeVortex.CoreApi JudgeVortex.Foundation JudgeVortex.Python JudgeVortex.Shared

/-! ## Keys -/

theorem underscore_not_mem_toString (n : Int) : '_' ∉ (toString n).toList := by
  intro hmem
  obtain hdigit | hminus := symbols_toString n '_' hmem
  · exact absurd hdigit (by decide)
  · exact absurd hminus (by decide)

theorem savedKey_injective {roomId questionId room question : Int}
    (h : savedKey (some roomId) (some questionId) = savedKey (some room) (some question)) :
    roomId = room ∧ questionId = question := by
  have hlists := congrArg String.toList h
  have hunderscore : "_".toList = ['_'] := by decide
  simp only [savedKey, idText, String.toList_append, hunderscore, List.append_assoc,
    List.singleton_append] at hlists
  obtain ⟨hrooms, -, hquestions⟩ := (List.append_cons_inj_of_notMem
    (underscore_not_mem_toString roomId) (underscore_not_mem_toString questionId)).mp hlists
  exact ⟨Int.repr_inj.mp (String.toList_injective hrooms),
    Int.repr_inj.mp (String.toList_injective hquestions)⟩

/-! ## One workspace, saved and restored -/

/-- The same texts under the same names, in the same order, with the same file open and the same one
to run. -/
structure SameWork (view : TextComponent) (a b : Editor) : Prop where
  documents : documents view a = documents view b
  order : paths a.workspaceFiles = paths b.workspaceFiles
  active : a.activeFilePath = b.activeFilePath
  entry : a.workspaceEntryFilePath = b.workspaceEntryFilePath
  language : a.language = b.language

structure Restorable (view : TextComponent) (e : Editor) : Prop where
  sound : EditorSound view e
  settled : ∀ path ∈ paths e.workspaceFiles, Settled path
  language : e.language ∈ languageOptions

def savedOf (e : Editor) : SavedWorkspace :=
  ⟨(saveActiveFileContent e).workspaceFiles, e.activeFilePath, e.workspaceEntryFilePath,
    e.language⟩

section Restore

variable {view : TextComponent} {initialLang : String} {e : Editor}

theorem Restorable.save (h : Restorable view e) : Restorable view (saveActiveFileContent e) := by
  have hpaths := paths_saveActiveFileContent e
  refine ⟨saveActiveFileContent_sound h.sound, hpaths ▸ h.settled, ?_⟩
  rw [saveActiveFileContent_frame]
  exact h.language

theorem resetWorkspaceFiles_of_settled (view : TextComponent) {files : List WorkspaceFile}
    {active content : String} (hfiles : FilesSound files)
    (hsettled : ∀ path ∈ paths files, Settled path)
    (hcontent : contentAt files active = some content)
    (language : String) (primaryContent : Option String) (other : Editor) :
    resetWorkspaceFiles view language (some (files.map .ofFile)) (some active) primaryContent
        other =
      { other with
        workspaceFiles := files
        workspaceEntryFilePath := some active
        activeFilePath := some active
        doc := view.read content } := by
  have hmem := mem_paths_of_contentAt hcontent
  have hnormalized := normalizeWorkspaceFiles_of_settled hfiles.nonempty hfiles.nodup hsettled
    language primaryContent
  obtain ⟨first, rest, rfl⟩ := List.exists_cons_of_ne_nil hfiles.nonempty
  unfold resetWorkspaceFiles
  simp only [hnormalized, (hsettled active hmem).sanitize, Option.getD_some,
    resolveWorkspaceEntryFile_settled (hsettled active hmem) hmem]
  rw [contentAt, Foundation.valueAt, Option.map_eq_some_iff] at hcontent
  obtain ⟨file, hfound, rfl⟩ := hcontent
  have hpath : file.path = active := by simpa using List.find?_some hfound
  rw [hfound, Option.getD_some, hpath]

theorem restoreWorkspace_of_settled (view : TextComponent) (initialLang : String)
    {saved : SavedWorkspace} {active entry content : String}
    (hfiles : FilesSound saved.files) (hsettled : ∀ path ∈ paths saved.files, Settled path)
    (hactive : saved.activeFile = some active)
    (hcontent : contentAt saved.files active = some content)
    (hentry : saved.entryFile = some entry) (hmem : entry ∈ paths saved.files)
    (hlanguage : saved.language ∈ languageOptions) (other : Editor) :
    ∃ previous, restoreWorkspace view initialLang saved other =
      { workspaceFiles := saved.files
        activeFilePath := some active
        workspaceEntryFilePath := some entry
        doc := view.read content
        language := saved.language
        previousLanguage := previous } := by
  have hne : saved.language ≠ "" := by
    intro hempty
    rw [hempty] at hlanguage
    exact absurd hlanguage (by decide)
  have hsettledEntry := hsettled entry hmem
  have hpointed : (nonemptyText saved.entryFile).or (some active) = some entry := by
    have hentryNe : entry ≠ "" := ((settled_iff_plain entry).mp hsettledEntry).safe.nonempty
    rw [hentry, nonemptyText, Option.filter_some, if_pos (by simpa using hentryNe),
      Option.some_or]
  obtain ⟨previous, hselected⟩ : ∃ previous,
      (if saved.language ≠ "" ∧ other.language ≠ saved.language then
        syncEditorLanguage initialLang saved.language true other else other) =
          { other with language := saved.language, previousLanguage := previous } := by
    split
    next hboth =>
      refine ⟨saved.language, ?_⟩
      rw [syncEditorLanguage]
      simp only [if_neg hne, true_and, if_pos hboth.2, if_pos hlanguage]
    next hnot =>
      rw [not_and, not_not] at hnot
      exact ⟨other.previousLanguage, by rw [← hnot hne]⟩
  refine ⟨previous, ?_⟩
  unfold restoreWorkspace
  simp only [hselected, hpointed, hactive, if_neg hne,
    resetWorkspaceFiles_of_settled view hfiles hsettled hcontent,
    resolveWorkspaceEntryFile_settled hsettledEntry hmem]

/-- Restoring what was saved gives the saved workspace, whatever the editor shows before. -/
theorem restoreWorkspace_savedOf (initialLang : String) (h : Restorable view e) (other : Editor) :
    ∃ previous, restoreWorkspace view initialLang (savedOf e) other =
      { saveActiveFileContent e with previousLanguage := previous } := by
  have hsaved := h.save
  obtain ⟨active, hactive, hisActive⟩ := h.sound.active
  obtain ⟨entry, hentry, hisEntry⟩ := h.sound.entry
  have hpaths := paths_saveActiveFileContent e
  have hcontent : contentAt (saveActiveFileContent e).workspaceFiles active = some e.doc := by
    rw [saveActiveFileContent_eq hisActive hactive, contentAt_overwrite hactive, if_pos rfl]
  obtain ⟨previous, hrestored⟩ := restoreWorkspace_of_settled view initialLang
    (show FilesSound (savedOf e).files from hsaved.sound.files) hsaved.settled hisActive
    hcontent hisEntry (hpaths ▸ hentry) h.language other
  refine ⟨previous, ?_⟩
  rw [hrestored, h.sound.doc, ← hisActive, ← hisEntry, saveActiveFileContent_frame]
  rfl

theorem SameWork.trans {a b c : Editor} (hab : SameWork view a b) (hbc : SameWork view b c) :
    SameWork view a c :=
  ⟨hab.documents.trans hbc.documents, hab.order.trans hbc.order, hab.active.trans hbc.active,
    hab.entry.trans hbc.entry, hab.language.trans hbc.language⟩

theorem sameWork_previousLanguage (previous : String) :
    SameWork view { e with previousLanguage := previous } e :=
  ⟨rfl, rfl, rfl, rfl, rfl⟩

theorem sameWork_save (h : EditorSound view e) : SameWork view (saveActiveFileContent e) e := by
  have hframe := saveActiveFileContent_frame e
  refine ⟨documents_saveActiveFileContent h, paths_saveActiveFileContent e, ?_, ?_, ?_⟩
  · rw [hframe]
  · rw [hframe]
  · rw [hframe]

/-- Reading the payload resolves the entry file, which leaves a settled one where it is. -/
theorem sameWork_payload (h : Restorable view e) : SameWork view (getWorkspacePayload e).1 e := by
  obtain ⟨entry, hentry, hisEntry⟩ := h.sound.entry
  have hsaved := sameWork_save h.sound
  refine ⟨documents_getWorkspacePayload h.sound, hsaved.order, hsaved.active, ?_, hsaved.language⟩
  have hpaths := paths_saveActiveFileContent e
  have hpointer : (saveActiveFileContent e).workspaceEntryFilePath = some entry :=
    hsaved.entry.trans hisEntry
  unfold getWorkspacePayload
  simp only [hpointer]
  rw [resolveWorkspaceEntryFile_settled (h.settled entry hentry) (hpaths ▸ hentry), hisEntry]

theorem Restorable.of_sameWork {a b : Editor} (h : Restorable view b) (ha : EditorSound view a)
    (hsame : SameWork view a b) : Restorable view a :=
  ⟨ha, hsame.order ▸ h.settled, hsame.language ▸ h.language⟩

end Restore

/-! ## The store of an exam -/

section Store

variable {view : TextComponent} {initialLang : String} {s : Session}

theorem syncActiveExamSnapshot_frame (s : Session) :
    syncActiveExamSnapshot s = { s with editor := (syncActiveExamSnapshot s).editor } := by
  unfold syncActiveExamSnapshot
  split <;> rfl

theorem sameWork_syncActiveExamSnapshot (h : Restorable view s.editor) :
    SameWork view (syncActiveExamSnapshot s).editor s.editor := by
  unfold syncActiveExamSnapshot
  split
  next => exact ⟨rfl, rfl, rfl, rfl, rfl⟩
  next => exact sameWork_payload h

theorem store_syncActiveExamSnapshot (s : Session) :
    (syncActiveExamSnapshot s).savedCode = s.savedCode ∧
      (syncActiveExamSnapshot s).stored = s.stored := by
  rw [syncActiveExamSnapshot_frame]
  exact ⟨rfl, rfl⟩

theorem store_persistCurrentCode {roomId questionId : Int} (stores : Bool)
    (hkey : activeKey s = some (roomId, questionId)) :
    let savedCode := s.savedCode.set (savedKey (some roomId) (some questionId)) (savedOf s.editor)
    (persistCurrentCode stores s).savedCode = savedCode ∧
      (persistCurrentCode stores s).stored = if stores then savedCode else s.stored := by
  have hsaved : savedOf s.editor =
      ⟨(saveActiveFileContent s.editor).workspaceFiles,
        (saveActiveFileContent s.editor).activeFilePath,
        (saveActiveFileContent s.editor).workspaceEntryFilePath,
        (saveActiveFileContent s.editor).language⟩ := by
    rw [saveActiveFileContent_frame]
    rfl
  unfold persistCurrentCode
  rw [hkey, hsaved]
  exact store_syncActiveExamSnapshot _

theorem persistCurrentCode_of_no_key (stores : Bool) (hkey : activeKey s = none) :
    persistCurrentCode stores s = s := by
  unfold persistCurrentCode
  rw [hkey]

/-- The workspace of this key, in memory and in `localStorage`. -/
structure Kept (key : Int × Int) (saved : SavedWorkspace) (s : Session) : Prop where
  inMemory : s.savedCode.get? (savedKey (some key.1) (some key.2)) = some saved
  inStorage : s.stored.get? (savedKey (some key.1) (some key.2)) = some saved

variable {key : Int × Int} {saved : SavedWorkspace}

theorem Kept.of_store {t : Session} (h : Kept key saved s)
    (hstore : t.savedCode = s.savedCode ∧ t.stored = s.stored) : Kept key saved t :=
  ⟨hstore.1 ▸ h.inMemory, hstore.2 ▸ h.inStorage⟩

theorem persistCurrentCode_kept (h : Kept key saved s) (hclosed : activeKey s ≠ some key)
    (stores : Bool) : Kept key saved (persistCurrentCode stores s) := by
  cases hkey : activeKey s with
  | none => rwa [persistCurrentCode_of_no_key stores hkey]
  | some other =>
      obtain ⟨hmemory, hstorage⟩ := store_persistCurrentCode stores hkey
      have hne : savedKey (some key.1) (some key.2) ≠ savedKey (some other.1) (some other.2) := by
        intro heq
        obtain ⟨hroom, hquestion⟩ := savedKey_injective heq
        exact hclosed (hkey.trans (congrArg some (Prod.ext hroom.symm hquestion.symm)))
      constructor
      · rw [hmemory, InsertionMap.get?_set, if_neg hne, h.inMemory]
      · rw [hstorage]
        split
        next => rw [InsertionMap.get?_set, if_neg hne, h.inMemory]
        next => exact h.inStorage

theorem store_setActiveQuestion (view : TextComponent) (initialLang : String) (qId : Int)
    (roomId : Option Int) (stores : Bool) (s : Session) :
    (setActiveQuestion view initialLang qId roomId stores s).savedCode =
        (persistCurrentCode stores s).savedCode ∧
      (setActiveQuestion view initialLang qId roomId stores s).stored =
        (persistCurrentCode stores s).stored := by
  unfold setActiveQuestion restoreSavedCode
  dsimp only
  refine (store_syncActiveExamSnapshot _).imp (·.trans ?_) (·.trans ?_)
  · split
    next restored hrestored =>
      obtain ⟨saved, -, rfl⟩ := Option.map_eq_some_iff.mp hrestored
      rfl
    next => rfl
  · split
    next restored hrestored =>
      obtain ⟨saved, -, rfl⟩ := Option.map_eq_some_iff.mp hrestored
      rfl
    next => rfl

theorem setActiveQuestion_kept (view : TextComponent) (initialLang : String)
    (h : Kept key saved s) (hclosed : activeKey s ≠ some key)
    (qId : Int) (roomId : Option Int) (stores : Bool) :
    Kept key saved (setActiveQuestion view initialLang qId roomId stores s) :=
  (persistCurrentCode_kept h hclosed stores).of_store (store_setActiveQuestion _ _ _ _ _ _)

theorem loadPastCode_kept (h : Kept key saved s) (hclosed : activeKey s ≠ some key)
    (sub : PastSubmission) (stores : Bool) :
    Kept key saved (loadPastCode view initialLang sub stores s) := by
  unfold loadPastCode
  split
  next => exact h
  next =>
    obtain hopened | ⟨qId, roomId, hopened⟩ :=
      openPastQuestion_cases view initialLang sub.questionId stores s
    · rw [hopened]
      exact h.of_store ⟨rfl, rfl⟩
    · rw [hopened]
      exact (setActiveQuestion_kept view initialLang h hclosed qId roomId stores).of_store
        ⟨rfl, rfl⟩

theorem sessionStep_kept (s : Session) (e : SessionEvent) (h : Kept key saved s)
    (hclosed : activeKey s ≠ some key) : Kept key saved (sessionStep view initialLang s e) := by
  cases e with
  | edit e => exact h.of_store ⟨rfl, rfl⟩
  | persist stores => exact persistCurrentCode_kept h hclosed stores
  | setActiveQuestion qId roomId stores => exact setActiveQuestion_kept _ _ h hclosed _ _ _
  | renderExamMode roomId assigned preserveSelection stores =>
      rw [sessionStep, renderExamMode]
      split
      next => exact (persistCurrentCode_kept h hclosed stores).of_store ⟨rfl, rfl⟩
      next => exact h.of_store ⟨rfl, rfl⟩
  | leaveRoom => exact h.of_store ⟨rfl, rfl⟩
  | setFlags inExamMode isExamActive isDisqualified assigned => exact h.of_store ⟨rfl, rfl⟩
  | loadPastCode sub stores => exact loadPastCode_kept h hclosed _ _
  | reload => exact ⟨h.inStorage, h.inStorage⟩

theorem setActiveQuestion_keeps (view : TextComponent) (initialLang : String)
    (hkey : activeKey s = some key) (qId : Int)
    (roomId : Option Int) :
    Kept key (savedOf s.editor) (setActiveQuestion view initialLang qId roomId true s) := by
  obtain ⟨hmemory, hstorage⟩ := store_setActiveQuestion view initialLang
    qId roomId true s
  obtain ⟨hsaved, hstored⟩ := store_persistCurrentCode true hkey
  constructor
  · rw [hmemory, hsaved, InsertionMap.get?_set, if_pos rfl]
  · rw [hstorage, hstored, if_pos rfl, InsertionMap.get?_set, if_pos rfl]

theorem setActiveQuestion_restores {e : Editor} (he : Restorable view e)
    (h : Kept key (savedOf e) s) (hclosed : activeKey s ≠ some key) (hroom : key.1 ≠ 0)
    (stores : Bool) :
    SameWork view
      (setActiveQuestion view initialLang key.2 (some key.1) stores s).editor e := by
  have hkept := persistCurrentCode_kept h hclosed stores
  obtain ⟨previous, hrestored⟩ := restoreWorkspace_savedOf initialLang he
    (persistCurrentCode stores s).editor
  have htruthy : truthyId (some key.1) = some key.1 := by
    rw [truthyId, Option.filter_some, if_pos (by simpa using hroom)]
  have hsame : SameWork view { saveActiveFileContent e with previousLanguage := previous } e :=
    (sameWork_previousLanguage previous).trans (sameWork_save he.sound)
  have hsound := saveActiveFileContent_sound he.sound
  unfold setActiveQuestion restoreSavedCode
  dsimp only
  simp only [htruthy, Option.some_or, hkept.inMemory, Option.map_some, hrestored]
  refine (sameWork_syncActiveExamSnapshot ?_).trans hsame
  exact he.of_sameWork ⟨hsound.files, hsound.active, hsound.entry, hsound.doc⟩ hsame

end Store

/-! ## Whole exams -/

theorem activeKey_room_ne_zero {s : Session} {key : Int × Int} (h : activeKey s = some key) :
    key.1 ≠ 0 := by
  unfold activeKey at h
  split at h
  next roomId questionId hroom hquestion =>
    obtain rfl := Option.some.inj h
    simpa using (Option.filter_eq_some_iff.mp hroom).2
  next => cases h

/--
A student works on a question, opens another one, and does whatever there is to do with
the page while the question is closed: other questions, other rooms, past submissions, a
reload.  When the question is opened again, every file has the text it had.
-/
theorem work_comes_back (view : TextComponent) (initialLang : String)
    (stored : InsertionMap String SavedWorkspace) (before events : List SessionEvent)
    (key : Int × Int) (nextQuestion : Int) (nextRoom : Option Int) (stores : Bool)
    (hkey : activeKey (before.foldl (sessionStep view initialLang)
      (initialSession view initialLang stored)) = some key)
    (hsettled : ∀ path ∈ paths (before.foldl (sessionStep view initialLang)
      (initialSession view initialLang stored)).editor.workspaceFiles, Settled path)
    (hlanguage : (before.foldl (sessionStep view initialLang)
      (initialSession view initialLang stored)).editor.language ∈ languageOptions)
    (hclosed : ∀ p ∈ transitions (sessionStep view initialLang)
      (setActiveQuestion view initialLang nextQuestion nextRoom true
        (before.foldl (sessionStep view initialLang) (initialSession view initialLang stored)))
      events, activeKey p.1 ≠ some key)
    (hlast : activeKey (events.foldl (sessionStep view initialLang)
      (setActiveQuestion view initialLang nextQuestion nextRoom true
        (before.foldl (sessionStep view initialLang)
          (initialSession view initialLang stored)))) ≠ some key) :
    SameWork view
      (setActiveQuestion view initialLang key.2 (some key.1) stores
        (events.foldl (sessionStep view initialLang)
          (setActiveQuestion view initialLang nextQuestion nextRoom true
            (before.foldl (sessionStep view initialLang)
              (initialSession view initialLang stored))))).editor
      (before.foldl (sessionStep view initialLang)
        (initialSession view initialLang stored)).editor := by
  have hsound := reached_sound view initialLang stored before
  generalize before.foldl (sessionStep view initialLang) (initialSession view initialLang stored) =
    s at *
  have hkept := setActiveQuestion_keeps view initialLang hkey
    nextQuestion nextRoom
  have hend := foldl_invariant_of (sessionStep view initialLang)
    (I := Kept key (savedOf s.editor)) (G := fun s _ => activeKey s ≠ some key)
    sessionStep_kept hkept events hclosed
  exact setActiveQuestion_restores ⟨hsound, hsettled, hlanguage⟩ hend hlast
    (activeKey_room_ne_zero hkey) stores

def firstQuestion : List SessionEvent :=
  [.renderExamMode 7 [1, 2] false true, .setActiveQuestion 1 (some 7) true,
    .edit (.addFile (some "lib/util.py")), .edit (.type "x = 1\n")]

def secondQuestion : List SessionEvent :=
  [.edit (.changeLanguage "java"), .edit (.type "class Main"), .persist false, .reload,
    .renderExamMode 7 [1, 2] false true]

theorem work_comes_back_after_reload :
    SameWork lineComponent
      (setActiveQuestion lineComponent "python" 1 (some 7) true
        (secondQuestion.foldl (sessionStep lineComponent "python")
          (setActiveQuestion lineComponent "python" 2 none true
            (firstQuestion.foldl (sessionStep lineComponent "python")
              (initialSession lineComponent "python" .empty))))).editor
      (firstQuestion.foldl (sessionStep lineComponent "python")
        (initialSession lineComponent "python" .empty)).editor :=
  work_comes_back lineComponent "python" .empty firstQuestion secondQuestion (7, 1) 2 none true
    (by decide +kernel) (by decide +kernel) (by decide +kernel) (by decide +kernel)
    (by decide +kernel)

end JudgeVortex.Templates
