import JudgeVortex.Templates.EditorRuns

/-!
# The language and the file to run

The page refuses to run a file whose name belongs to another language than the selected
one.  The handlers keep the two together, so that this never happens.
-/

namespace JudgeVortex.Templates

open JudgeVortex.CoreApi JudgeVortex.Foundation JudgeVortex.Python JudgeVortex.Shared

/-- Paths that read back as themselves, a language of the selector, and a file to run whose name
belongs to no other language. -/
structure Fits (e : Editor) : Prop where
  settled : ∀ path ∈ paths e.workspaceFiles, Settled path
  language : e.language ∈ languageOptions
  entry : ∀ entry ∈ e.workspaceEntryFilePath, ∀ inferred ∈ inferLanguageFromPath (some entry),
    inferred = e.language

def PlainEdit : EditorEvent → Prop
  | .addFile requestedPath => ∀ path ∈ sanitizeWorkspacePath requestedPath, Settled path
  | .finishImport picked => ∀ path ∈ paths (importedFiles picked), Settled path
  | _ => True

theorem inferLanguageFromPath_mem {path : Option String} {language : String}
    (h : inferLanguageFromPath path = some language) : language ∈ languageOptions := by
  have htable : ∀ entry ∈ languagePathMatchers, entry.1 ∈ languageOptions := by decide
  unfold inferLanguageFromPath at h
  split at h
  next => cases h
  next =>
    obtain ⟨entry, hfound, rfl⟩ := Option.map_eq_some_iff.mp h
    exact htable entry (List.mem_of_find?_eq_some hfound)

section Steps

variable {view : TextComponent} {s : Editor}

theorem Fits.of_same {t : Editor} (h : Fits s)
    (hpaths : ∀ path ∈ paths t.workspaceFiles, path ∈ paths s.workspaceFiles)
    (hentry : t.workspaceEntryFilePath = s.workspaceEntryFilePath)
    (hlanguage : t.language = s.language) : Fits t :=
  ⟨fun path hpath => h.settled path (hpaths path hpath), hlanguage ▸ h.language,
    hentry ▸ hlanguage ▸ h.entry⟩

theorem saveActiveFileContent_fits (h : Fits s) : Fits (saveActiveFileContent s) := by
  have hframe := saveActiveFileContent_frame s
  refine h.of_same (fun path hpath => paths_saveActiveFileContent s ▸ hpath) ?_ ?_
  · rw [hframe]
  · rw [hframe]

theorem setActiveFile_fits (h : Fits s) (path : Option String) :
    Fits (setActiveFile view path s) := by
  obtain hsame | ⟨opened, content, -, -, ⟨-, hset⟩ | ⟨-, hset⟩⟩ := setActiveFile_cases view path s
  · rwa [hsame]
  · rw [hset]
    exact h.of_same (fun _ hpath => hpath) rfl rfl
  · have hsaved := saveActiveFileContent_fits h
    rw [hset]
    exact hsaved.of_same (fun _ hpath => hpath) rfl rfl

theorem resolve_entry (hsound : EditorSound view s) (h : Fits s) (files : List WorkspaceFile)
    (hkept : ∀ entry ∈ s.workspaceEntryFilePath, entry ∈ paths files) :
    some (resolveWorkspaceEntryFile s.language files s.workspaceEntryFilePath) =
      s.workspaceEntryFilePath := by
  obtain ⟨entry, hmem, hentry⟩ := hsound.entry
  rw [hentry, resolveWorkspaceEntryFile_settled (h.settled entry hmem) (hkept entry hentry)]

theorem onSetEntryFile_fits (hsound : EditorSound view s) (h : Fits s) (initialLang : String) :
    Fits (onSetEntryFile initialLang s) := by
  obtain ⟨active, hmem, hactive⟩ := hsound.active
  unfold onSetEntryFile
  split
  next => exact h
  next path hpath =>
    unfold syncLanguageToEntryFile
    split
    next hnone =>
      refine ⟨h.settled, h.language, ?_⟩
      rintro entry hentry inferred hinferred
      obtain rfl := Option.some.inj hentry
      rw [hnone] at hinferred
      cases hinferred
    next inferred hinferred =>
      have hoption := inferLanguageFromPath_mem hinferred
      have hentry : ∀ entry ∈ some path, ∀ other ∈ inferLanguageFromPath (some entry),
          other = inferred := by
        rintro entry hentry other hother
        obtain rfl := Option.some.inj hentry
        exact Option.some.inj (hother.symm.trans hinferred)
      split
      next hlanguage => exact ⟨h.settled, h.language, hlanguage ▸ hentry⟩
      next hlanguage =>
        have hne : inferred ≠ "" := by
          rintro rfl
          exact absurd hoption (by decide)
        have hselected : (syncEditorLanguage initialLang inferred true
            { s with workspaceEntryFilePath := some path }).language = inferred := by
          rw [syncEditorLanguage]
          simp only [if_neg hne, true_and, if_pos (Ne.symm hlanguage), if_pos hoption]
        exact ⟨h.settled, hselected.symm ▸ hoption, hselected.symm ▸ hentry⟩

theorem onAddFile_fits (hsound : EditorSound view s) (h : Fits s) {requestedPath : Option String}
    (hplain : PlainEdit (.addFile requestedPath)) : Fits (onAddFile view requestedPath s) := by
  have hsaved := saveActiveFileContent_fits h
  have hsavedSound := saveActiveFileContent_sound hsound
  unfold onAddFile
  simp only
  generalize saveActiveFileContent s = saved at hsaved hsavedSound ⊢
  split
  next => exact hsaved
  next path hpath =>
    split
    next => exact hsaved
    next =>
      obtain ⟨entry, -, hentry⟩ := hsavedSound.entry
      apply setActiveFile_fits
      refine ⟨?_, hsaved.language, ?_⟩
      · rw [paths, List.map_append, List.map_singleton, List.forall_mem_append,
          List.forall_mem_singleton]
        exact ⟨hsaved.settled, hplain path hpath⟩
      · rw [hentry, Option.some_or, ← hentry]
        exact hsaved.entry

theorem finishImport_fits (hsound : EditorSound view s) (h : Fits s) {picked : List WorkspaceFile}
    (hplain : PlainEdit (.finishImport picked)) : Fits (finishImport view picked s) := by
  cases hfiles : importedFiles picked with
  | nil =>
      unfold finishImport
      rw [hfiles]
      exact h
  | cons first rest =>
      rw [PlainEdit, hfiles] at hplain
      simp only [finishImport_cons hfiles]
      have hkeys (path : String) := mem_keys_foldl_put WorkspaceFile.path s.workspaceFiles
        (first :: rest) path
      apply setActiveFile_fits
      rw [resolve_entry hsound h _]
      · refine ⟨fun path hpath => ?_, h.language, h.entry⟩
        exact ((hkeys path).mp hpath).elim (hplain path) (h.settled path)
      · intro entry hentry
        obtain ⟨other, hmem, hother⟩ := hsound.entry
        obtain rfl : other = entry := Option.some.inj (hother.symm.trans hentry)
        exact (hkeys other).mpr (.inr hmem)

theorem onDeleteFile_fits (hsound : EditorSound view s) (h : Fits s) (confirmed : Bool) :
    Fits (onDeleteFile view confirmed s) := by
  unfold onDeleteFile
  split
  next => exact h
  next hdelete =>
    rw [not_or] at hdelete
    have hsub : ∀ path ∈ paths (s.workspaceFiles.filter fun file =>
        some file.path ≠ s.activeFilePath), path ∈ paths s.workspaceFiles :=
      fun path hpath => (List.filter_sublist.map _).subset hpath
    have hentry := resolve_entry hsound h (s.workspaceFiles.filter fun file =>
      some file.path ≠ s.activeFilePath) (by
        intro entry hentry
        obtain ⟨other, hmem, hother⟩ := hsound.entry
        obtain rfl : other = entry := Option.some.inj (hother.symm.trans hentry)
        obtain ⟨file, hfile, rfl⟩ := List.mem_map.mp hmem
        refine List.mem_map_of_mem (List.mem_filter.mpr ⟨hfile, ?_⟩)
        rw [decide_eq_true_eq, ← hother]
        exact fun heq => hdelete.1 heq.symm)
    simp only [hentry]
    split
    next => exact h.of_same hsub rfl rfl
    next => exact h.of_same hsub rfl rfl

theorem getWorkspacePayload_fits (hsound : EditorSound view s) (h : Fits s) :
    Fits (getWorkspacePayload s).1 := by
  have hsaved := saveActiveFileContent_fits h
  have hsavedSound := saveActiveFileContent_sound hsound
  unfold getWorkspacePayload
  dsimp only
  rw [resolve_entry hsavedSound hsaved _]
  · exact hsaved
  · intro entry hentry
    obtain ⟨other, hmem, hother⟩ := hsavedSound.entry
    obtain rfl : other = entry := Option.some.inj (hother.symm.trans hentry)
    exact hmem

/-- In a workspace of plain names the renaming always ends at a file of the new language. -/
theorem rename_of_settled (hsound : EditorSound view s)
    (hsettled : ∀ path ∈ paths s.workspaceFiles, Settled path) (initialLang lang : String) :
    ∃ renamed entry, entry ∈ paths s.workspaceFiles ∧
      renameEntryWorkspaceFileForLanguage initialLang lang s =
        (renamed, some (getLanguageAdjustedFilePath (some entry) lang)) ∧
      getLanguageAdjustedFilePath (some entry) lang ∈ paths renamed.workspaceFiles ∧
      (∀ path ∈ paths renamed.workspaceFiles, Settled path) ∧ renamed.language = s.language := by
  obtain ⟨entry, hmem, hentry⟩ := hsound.entry
  have hsettledEntry := hsettled entry hmem
  have hsource : (sanitizeWorkspacePath s.workspaceEntryFilePath).or
      (sanitizeWorkspacePath s.activeFilePath) = some entry := by
    rw [hentry, hsettledEntry.sanitize, Option.some_or]
  obtain ⟨content, hcontent⟩ := Option.isSome_iff_exists.mp (contentAt_isSome_iff.mpr hmem)
  have hne := (safeRelative_adjusted (some entry) lang).nonempty
  unfold renameEntryWorkspaceFileForLanguage
  simp only [hsource, hcontent, if_neg hne]
  split
  next heq => exact ⟨s, entry, hmem, by rw [heq], heq.symm ▸ hmem, hsettled, rfl⟩
  next =>
    split
    next hexists => exact ⟨s, entry, hmem, rfl, hexists, hsettled, rfl⟩
    next =>
      have hkeys (next : String) := mem_keys_replaceFirst hsound.files.nodup hmem
        ⟨getLanguageAdjustedFilePath (some entry) lang, next⟩
      refine ⟨_, entry, hmem, rfl, (hkeys _ _).mpr (.inl rfl), fun path hpath => ?_, rfl⟩
      obtain rfl | ⟨hold, -⟩ := (hkeys _ path).mp hpath
      · exact settled_adjusted hsettledEntry lang
      · exact hsettled path hold

theorem onLanguageChange_fits (hsound : EditorSound view s) (h : Fits s) (initialLang : String)
    {lang : String} (hlang : lang ∈ languageOptions) :
    Fits (onLanguageChange view initialLang lang s) := by
  have hchosen := languageChosen_sound hsound initialLang lang
  have hpaths : paths (languageChosen initialLang lang s).workspaceFiles =
      paths s.workspaceFiles := paths_saveActiveFileContent { s with language := lang }
  have hlanguage : (languageChosen initialLang lang s).language = lang := by
    rw [languageChosen, syncEditorLanguage, saveActiveFileContent_frame]
    rfl
  obtain ⟨renamed, entry, hmem, hrename, htarget, hsettled, hkept⟩ :=
    rename_of_settled hchosen (hpaths ▸ h.settled) initialLang lang
  have hinferred := inferLanguage_adjusted (h.settled entry (hpaths ▸ hmem)) hlang
  unfold onLanguageChange
  simp only
  rw [← languageChosen, if_neg hchosen.files.nonempty, hrename]
  simp only [resolveWorkspaceEntryFile_settled (hsettled _ htarget) htarget]
  apply setActiveFile_fits
  refine ⟨hsettled, ?_, ?_⟩
  · rw [hkept, hlanguage]
    exact hlang
  · rintro path hpath inferred hother
    obtain rfl := Option.some.inj hpath
    rw [hinferred] at hother
    rw [hkept, hlanguage, Option.some.inj hother]

theorem editorStep_fits (hsound : EditorSound view s) (h : Fits s) (initialLang : String)
    {e : EditorEvent} (hplain : PlainEdit e) : Fits (editorStep view initialLang s e) := by
  cases e with
  | type text => exact ⟨h.settled, h.language, h.entry⟩
  | selectFile path => exact setActiveFile_fits h _
  | setEntryFile => exact onSetEntryFile_fits hsound h _
  | addFile requestedPath => exact onAddFile_fits hsound h hplain
  | startImport => exact saveActiveFileContent_fits h
  | finishImport picked => exact finishImport_fits hsound h hplain
  | deleteFile confirmed => exact onDeleteFile_fits hsound h _
  | changeLanguage lang =>
      rw [editorStep]
      split
      next hlang => exact onLanguageChange_fits hsound h _ hlang
      next => exact h
  | readPayload => exact getWorkspacePayload_fits hsound h

end Steps

/-! ## Sessions -/

structure FittingFiles (files : List WorkspaceFile) (entryFile : Option String)
    (language : String) : Prop where
  sound : FilesSound files
  settled : ∀ path ∈ paths files, Settled path
  selectable : language ∈ languageOptions
  entry : ∃ entry ∈ paths files, entryFile = some entry ∧
    ∀ inferred ∈ inferLanguageFromPath (some entry), inferred = language

structure FittingWorkspace (saved : SavedWorkspace) : Prop
    extends FittingFiles saved.files saved.entryFile saved.language where
  active : ∃ active ∈ paths saved.files, saved.activeFile = some active

def FittingStore (store : InsertionMap String SavedWorkspace) : Prop :=
  ∀ key saved, store.get? key = some saved → FittingWorkspace saved

structure SessionFits (view : TextComponent) (s : Session) : Prop where
  sound : EditorSound view s.editor
  editor : Fits s.editor
  savedCode : FittingStore s.savedCode
  stored : FittingStore s.stored

/-- A submission that is shown has a language of the selector, and no files of its own or ones that
fit. -/
def PlainSession : SessionEvent → Prop
  | .edit e => PlainEdit e
  | .loadPastCode sub _ => sub.language ∈ languageOptions ∧
      (sub.files = [] ∨ FittingFiles sub.files sub.entryFile sub.language)
  | _ => True

section Sessions

variable {view : TextComponent} {initialLang : String} {s : Session}

theorem inferLanguage_primaryFile {language : String} (h : language ∈ languageOptions) :
    inferLanguageFromPath (some (getPrimaryFileForLanguage language)) = some language := by
  have htable : ∀ language ∈ languageOptions,
      inferLanguageFromPath (some (getPrimaryFileForLanguage language)) = some language := by
    decide +kernel
  exact htable language h

theorem fits_of_single {e : Editor} (hsound : EditorSound view e)
    (hlanguage : e.language ∈ languageOptions)
    (hsingle : ∀ path ∈ paths e.workspaceFiles, path = getPrimaryFileForLanguage e.language) :
    Fits e := by
  refine ⟨fun path hpath => ?_, hlanguage, ?_⟩
  · rw [hsingle path hpath]
    exact settled_primaryFile _
  · intro entry hentry inferred hinferred
    obtain ⟨other, hmem, hother⟩ := hsound.entry
    obtain rfl : other = entry := Option.some.inj (hother.symm.trans hentry)
    rw [hsingle other hmem, inferLanguage_primaryFile hlanguage] at hinferred
    exact (Option.some.inj hinferred).symm

theorem resetWorkspaceFiles_single (view : TextComponent) (language : String)
    {preferredFiles : Option (List IncomingFile)} (hnone : preferredFiles.getD [] = [])
    (preferredActiveFile primaryContent : Option String) (e : Editor) :
    let reset :=
      resetWorkspaceFiles view language preferredFiles preferredActiveFile primaryContent e
    reset.language = e.language ∧
      ∀ path ∈ paths reset.workspaceFiles, path = getPrimaryFileForLanguage language := by
  obtain ⟨content, hfiles⟩ : ∃ content,
      normalizeWorkspaceFiles language preferredFiles primaryContent =
        [⟨getPrimaryFileForLanguage language, content⟩] := by
    unfold normalizeWorkspaceFiles
    rw [hnone]
    exact ⟨_, rfl⟩
  unfold resetWorkspaceFiles
  simp only [hfiles]
  exact ⟨trivial, fun path => List.mem_singleton.mp⟩

theorem resetWorkspaceFiles_fits {e : Editor} (hlanguage : e.language ∈ languageOptions)
    {preferredFiles : Option (List IncomingFile)} (hnone : preferredFiles.getD [] = [])
    (preferredActiveFile primaryContent : Option String) :
    Fits (resetWorkspaceFiles view e.language preferredFiles preferredActiveFile primaryContent
      e) := by
  obtain ⟨hkept, hsingle⟩ := resetWorkspaceFiles_single view e.language hnone
    preferredActiveFile primaryContent e
  exact fits_of_single (resetWorkspaceFiles_sound _ _ _ _ _ _) (hkept.symm ▸ hlanguage)
    (hkept.symm ▸ hsingle)

theorem restoreWorkspace_fits {saved : SavedWorkspace} (h : FittingWorkspace saved)
    (other : Editor) : Fits (restoreWorkspace view initialLang saved other) := by
  obtain ⟨active, hactive, hisActive⟩ := h.active
  obtain ⟨entry, hentry, hisEntry, hinferred⟩ := h.entry
  obtain ⟨content, hcontent⟩ := Option.isSome_iff_exists.mp (contentAt_isSome_iff.mpr hactive)
  obtain ⟨previous, hrestored⟩ := restoreWorkspace_of_settled view
    initialLang h.sound h.settled hisActive hcontent hisEntry hentry
    h.selectable other
  rw [hrestored]
  refine ⟨h.settled, h.selectable, ?_⟩
  rintro path hpath
  obtain rfl := Option.some.inj hpath
  exact hinferred

theorem Fits.workspace {e : Editor} (h : Fits e) (hsound : EditorSound view e) :
    FittingWorkspace ⟨e.workspaceFiles, e.activeFilePath, e.workspaceEntryFilePath, e.language⟩ :=
  have ⟨entry, hentry, hisEntry⟩ := hsound.entry
  { sound := hsound.files
    settled := h.settled
    selectable := h.language
    entry := ⟨entry, hentry, hisEntry, h.entry entry hisEntry⟩
    active := hsound.active }

theorem FittingStore.set {store : InsertionMap String SavedWorkspace} (h : FittingStore store)
    {saved : SavedWorkspace} (hsaved : FittingWorkspace saved) (key : String) :
    FittingStore (store.set key saved) := by
  intro other found hfound
  rw [InsertionMap.get?_set] at hfound
  split at hfound
  next => exact Option.some.inj hfound ▸ hsaved
  next => exact h other found hfound

theorem syncActiveExamSnapshot_fits (h : SessionFits view s) :
    SessionFits view (syncActiveExamSnapshot s) := by
  unfold syncActiveExamSnapshot
  split
  next => exact h
  next =>
    exact ⟨getWorkspacePayload_sound h.sound, getWorkspacePayload_fits h.sound h.editor,
      h.savedCode, h.stored⟩

theorem persistCurrentCode_fits (h : SessionFits view s) (stores : Bool) :
    SessionFits view (persistCurrentCode stores s) := by
  have hsound := saveActiveFileContent_sound h.sound
  have hsaved := saveActiveFileContent_fits h.editor
  unfold persistCurrentCode
  split
  next => exact h
  next roomId questionId hkey =>
    have hstore := h.savedCode.set (hsaved.workspace hsound)
      (savedKey (some roomId) (some questionId))
    apply syncActiveExamSnapshot_fits
    refine ⟨hsound, hsaved, hstore, ?_⟩
    dsimp only
    split
    next => exact hstore
    next => exact h.stored

theorem setActiveQuestion_fits (h : SessionFits view s) (qId : Int) (roomId : Option Int)
    (stores : Bool) :
    SessionFits view (setActiveQuestion view initialLang qId roomId stores s) := by
  have hsaved := persistCurrentCode_fits h stores
  unfold setActiveQuestion
  apply syncActiveExamSnapshot_fits
  unfold restoreSavedCode
  split
  next restored hrestored =>
    obtain ⟨saved, hfound, rfl⟩ := Option.map_eq_some_iff.mp hrestored
    exact ⟨restoreWorkspace_sound _ _, restoreWorkspace_fits (hsaved.savedCode _ _ hfound) _,
      hsaved.savedCode, hsaved.stored⟩
  next =>
    dsimp only
    refine ⟨?_, ?_, hsaved.savedCode, hsaved.stored⟩
    · dsimp only
      exact resetWorkspaceFiles_sound _ _ _ _ _ _
    · dsimp only
      exact resetWorkspaceFiles_fits hsaved.editor.language (by rfl) _ _

theorem syncEditorLanguage_selects (initialLang : String) {language : String}
    (h : language ∈ languageOptions) (e : Editor) :
    (syncEditorLanguage initialLang language true e).language = language := by
  have hne : language ≠ "" := by
    rintro rfl
    exact absurd h (by decide)
  rw [syncEditorLanguage]
  simp only [if_neg hne, true_and, if_pos h]
  split
  next => rfl
  next hsame => exact not_not.mp hsame

theorem showPastCode_fits {sub : PastSubmission} (hlanguage : sub.language ∈ languageOptions)
    (hfiles : sub.files = [] ∨ FittingFiles sub.files sub.entryFile sub.language) (e : Editor) :
    let shown := resetWorkspaceFiles view sub.language (some (sub.files.map .ofFile))
      ((nonemptyText sub.entryFile).or sub.activeFile) (some sub.code)
      (syncEditorLanguage initialLang sub.language true e)
    Fits { shown with
      workspaceEntryFilePath :=
        some (resolveWorkspaceEntryFile sub.language shown.workspaceFiles sub.entryFile) } := by
  intro shown
  have hselected := syncEditorLanguage_selects initialLang hlanguage e
  obtain hempty | hfits := hfiles
  · have hsound : EditorSound view shown := resetWorkspaceFiles_sound _ _ _ _ _ _
    obtain ⟨hkept, hsingle⟩ := resetWorkspaceFiles_single view sub.language
      (show (some (sub.files.map IncomingFile.ofFile)).getD [] = [] by rw [hempty]; rfl)
      ((nonemptyText sub.entryFile).or sub.activeFile) (some sub.code)
      (syncEditorLanguage initialLang sub.language true e)
    have hlanguageShown : shown.language = sub.language := hkept.trans hselected
    exact fits_of_single
      (hsound.with_entry (resolveWorkspaceEntryFile_mem hsound.files.nonempty _ _))
      (hlanguageShown.symm ▸ hlanguage) (hlanguageShown.symm ▸ hsingle)
  · obtain ⟨entry, hentry, hisEntry, hinferred⟩ := hfits.entry
    have hentryNe : entry ≠ "" :=
      ((settled_iff_plain entry).mp (hfits.settled entry hentry)).safe.nonempty
    have hpointed : (nonemptyText sub.entryFile).or sub.activeFile = some entry := by
      rw [hisEntry, nonemptyText, Option.filter_some, if_pos (by simpa using hentryNe),
        Option.some_or]
    obtain ⟨content, hcontent⟩ :=
      Option.isSome_iff_exists.mp (contentAt_isSome_iff.mpr hentry)
    have hreset := resetWorkspaceFiles_of_settled view hfits.sound hfits.settled
      hcontent sub.language (some sub.code) (syncEditorLanguage initialLang sub.language true e)
    simp only [shown, hpointed, hreset]
    simp only [hisEntry, resolveWorkspaceEntryFile_settled (hfits.settled entry hentry) hentry]
    refine ⟨hfits.settled, hselected.symm ▸ hlanguage, ?_⟩
    rintro path hpath
    obtain rfl := Option.some.inj hpath
    rw [hselected]
    exact hinferred

theorem loadPastCode_fits (h : SessionFits view s) (sub : PastSubmission) (stores : Bool)
    (hlanguage : sub.language ∈ languageOptions)
    (hfiles : sub.files = [] ∨ FittingFiles sub.files sub.entryFile sub.language) :
    SessionFits view (loadPastCode view initialLang sub stores s) := by
  have hsound := loadPastCode_sound initialLang h.sound sub stores
  unfold loadPastCode at hsound ⊢
  split
  next => exact h
  next hshown =>
    rw [if_neg hshown] at hsound
    have hopened :
        SessionFits view (openPastQuestion view initialLang sub.questionId stores s) := by
      obtain hsame | ⟨qId, roomId, hopens⟩ :=
        openPastQuestion_cases view initialLang sub.questionId stores s
      · rw [hsame]
        exact h
      · rw [hopens]
        exact setActiveQuestion_fits h _ _ _
    exact ⟨hsound, showPastCode_fits hlanguage hfiles _, hopened.savedCode, hopened.stored⟩

theorem initialEditor_fits (h : initialLang ∈ languageOptions) :
    Fits (initialEditor view initialLang) := by
  unfold initialEditor
  exact resetWorkspaceFiles_fits (e := ⟨[], none, none, "", initialLang, initialLang⟩) h
    (by rfl) _ _

theorem sessionStep_fits (hinitial : initialLang ∈ languageOptions) (h : SessionFits view s)
    {e : SessionEvent} (hplain : PlainSession e) :
    SessionFits view (sessionStep view initialLang s e) := by
  have hsound := sessionStep_sound initialLang s e h.sound
  cases e with
  | edit e => exact ⟨hsound, editorStep_fits h.sound h.editor _ hplain, h.savedCode, h.stored⟩
  | persist stores => exact persistCurrentCode_fits h stores
  | setActiveQuestion qId roomId stores => exact setActiveQuestion_fits h _ _ _
  | renderExamMode roomId assigned preserveSelection stores =>
      rw [sessionStep, renderExamMode] at hsound ⊢
      split
      next =>
        have hsaved := persistCurrentCode_fits h stores
        exact ⟨hsaved.sound, hsaved.editor, hsaved.savedCode, hsaved.stored⟩
      next => exact ⟨h.sound, h.editor, h.savedCode, h.stored⟩
  | leaveRoom => exact ⟨hsound, h.editor, h.savedCode, h.stored⟩
  | setFlags inExamMode isExamActive isDisqualified assigned =>
      exact ⟨hsound, h.editor, h.savedCode, h.stored⟩
  | loadPastCode sub stores => exact loadPastCode_fits h sub stores hplain.1 hplain.2
  | reload => exact ⟨hsound, initialEditor_fits hinitial, h.stored, h.stored⟩

theorem getWorkspacePayload_entry (hsound : EditorSound view s.editor) (h : Fits s.editor) :
    s.editor.workspaceEntryFilePath = some (getWorkspacePayload s.editor).2.entryFile := by
  have hsaved := saveActiveFileContent_sound hsound
  have hpointer : (saveActiveFileContent s.editor).workspaceEntryFilePath =
      s.editor.workspaceEntryFilePath := by rw [saveActiveFileContent_frame]
  have hresolved := resolve_entry hsaved (saveActiveFileContent_fits h)
    (saveActiveFileContent s.editor).workspaceFiles (by
      intro entry hentry
      obtain ⟨other, hmem, hother⟩ := hsaved.entry
      obtain rfl : other = entry := Option.some.inj (hother.symm.trans hentry)
      exact hmem)
  exact hpointer.symm.trans hresolved.symm

theorem fits_never_refused (hsound : EditorSound view s.editor) (h : Fits s.editor) :
    ensureEntryFileLanguageMatches (getWorkspacePayload s.editor).2.entryFile
      s.editor.language = true := by
  have hentry := getWorkspacePayload_entry hsound h
  unfold ensureEntryFileLanguageMatches
  split
  next => rfl
  next path hpath =>
    obtain ⟨entry, hmem, hisEntry⟩ := hsound.entry
    obtain rfl := Option.some.inj (hisEntry.symm.trans hentry)
    rw [(h.settled _ hmem).sanitize] at hpath
    obtain rfl := Option.some.inj hpath
    split
    next => rfl
    next inferred hinferred =>
      exact decide_eq_true (.inr (h.entry _ hisEntry _ hinferred))

end Sessions

theorem reached_fits (view : TextComponent) (initialLang : String)
    (stored : InsertionMap String SavedWorkspace) (events : List SessionEvent)
    (hinitial : initialLang ∈ languageOptions) (hstored : FittingStore stored)
    (hplain : ∀ e ∈ events, PlainSession e) :
    SessionFits view (events.foldl (sessionStep view initialLang)
      (initialSession view initialLang stored)) :=
  foldl_invariant_of (sessionStep view initialLang) (I := SessionFits view)
    (G := fun _ e => PlainSession e) (fun _ _ h hplain => sessionStep_fits hinitial h hplain)
    ⟨initialEditor_sound _ _, initialEditor_fits hinitial, hstored, hstored⟩ events
    (fun _ hp => hplain _ (label_mem_of_mem_transitions _ hp))

/--
In a session of plain names the page runs the entry file that it shows, and never refuses it for
its language, whatever the student does with the files, the questions and the selector.
-/
theorem entry_file_never_refused (view : TextComponent) (initialLang : String)
    (stored : InsertionMap String SavedWorkspace) (events : List SessionEvent)
    (hinitial : initialLang ∈ languageOptions) (hstored : FittingStore stored)
    (hplain : ∀ e ∈ events, PlainSession e) :
    let e := editorAt view initialLang stored events
    e.workspaceEntryFilePath = some (getWorkspacePayload e).2.entryFile ∧
      ensureEntryFileLanguageMatches (getWorkspacePayload e).2.entryFile e.language = true := by
  have hend := reached_fits view initialLang stored events hinitial hstored hplain
  exact ⟨getWorkspacePayload_entry hend.sound hend.editor,
    fits_never_refused hend.sound hend.editor⟩

theorem entry_file_runs_in_second_question :
    let e := editorAt lineComponent "python" .empty (firstQuestion ++ secondQuestion)
    e.workspaceEntryFilePath = some (getWorkspacePayload e).2.entryFile ∧
      ensureEntryFileLanguageMatches (getWorkspacePayload e).2.entryFile e.language = true :=
  entry_file_never_refused lineComponent "python" .empty (firstQuestion ++ secondQuestion)
    (by decide) (fun _ _ h => by cases h)
    (by simp [firstQuestion, secondQuestion, PlainSession, PlainEdit]; decide +kernel)

end JudgeVortex.Templates
