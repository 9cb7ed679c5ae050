import JudgeVortex.Templates.WorkspaceEditor

/-!
# The texts in the editor

What a student sees of the workspace: the text in the editor for the active file, the
stored text for every other.  The page is a working copy of the list of files, and each
handler is an operation on it.
-/

namespace JudgeVortex.Templates

open JudgeVortex.CoreApi JudgeVortex.Foundation JudgeVortex.Python JudgeVortex.Shared

def Editor.copy (view : TextComponent) (s : Editor) : WorkingCopy String String where
  stored path := (contentAt s.workspaceFiles path).map view.read
  opened := s.activeFilePath
  text := s.doc

def documents (view : TextComponent) (s : Editor) : String → Option String :=
  (s.copy view).documents

/-- The editor shows a text for the active file that is not the one in the list. -/
def Unsaved (view : TextComponent) (s : Editor) : Prop :=
  ∃ active ∈ s.activeFilePath, ∃ content ∈ contentAt s.workspaceFiles active,
    view.read content ≠ s.doc

instance (view : TextComponent) (s : Editor) : Decidable (Unsaved view s) :=
  inferInstanceAs (Decidable (∃ active ∈ s.activeFilePath,
    ∃ content ∈ contentAt s.workspaceFiles active, view.read content ≠ s.doc))

section Steps

variable {view : TextComponent} {s : Editor}

theorem documents_eq (path : String) :
    documents view s path =
      if s.activeFilePath = some path then some s.doc
      else (contentAt s.workspaceFiles path).map view.read := rfl

theorem contentAt_overwrite {files : List WorkspaceFile} {path : String}
    (hmem : path ∈ paths files) (content other : String) :
    contentAt (replaceFirst WorkspaceFile.path path ⟨path, content⟩ files) other =
      if other = path then some content else contentAt files other := by
  unfold contentAt
  exact valueAt_replaceFirst_same (by rfl) hmem other

theorem copy_saveActiveFileContent (h : EditorSound view s) :
    (saveActiveFileContent s).copy view = (s.copy view).save := by
  obtain ⟨active, hmem, hactive⟩ := h.active
  rw [saveActiveFileContent_eq hactive hmem, WorkingCopy.save, Editor.copy, Editor.copy]
  congr 1
  funext path
  rw [contentAt_overwrite hmem, WorkingCopy.documents]
  by_cases hpath : path = active
  · rw [if_pos hpath, if_pos (hpath ▸ hactive), Option.map_some, h.doc]
  · have hother : s.activeFilePath ≠ some path := by
      rw [hactive]
      exact fun heq => hpath (Option.some.inj heq).symm
    rw [if_neg hpath, if_neg hother]

theorem documents_saveActiveFileContent (h : EditorSound view s) :
    documents view (saveActiveFileContent s) = documents view s := by
  rw [documents, copy_saveActiveFileContent h, WorkingCopy.documents_save]
  rfl

theorem not_unsaved_saveActiveFileContent (h : EditorSound view s) :
    ¬ Unsaved view (saveActiveFileContent s) := by
  obtain ⟨active, hmem, hactive⟩ := h.active
  rw [saveActiveFileContent_eq hactive hmem]
  rintro ⟨path, hpath, content, hcontent, hne⟩
  obtain rfl : active = path := Option.some.inj (hactive.symm.trans hpath)
  rw [contentAt_overwrite hmem, if_pos rfl] at hcontent
  exact hne (Option.some.inj hcontent ▸ h.doc)

/-- Opening another file is the working copy's `openAt`; opening the active one again puts the
stored text over the one in the editor. -/
theorem documents_setActiveFile (h : EditorSound view s) (path : Option String) :
    documents view (setActiveFile view path s) = documents view s ∨
      ∃ active content, sanitizeWorkspacePath path = some active ∧
        s.activeFilePath = some active ∧ contentAt s.workspaceFiles active = some content ∧
        setActiveFile view path s = { s with doc := view.read content } := by
  obtain hsame | ⟨opened, content, hpath, hcontent, ⟨hactive, hset⟩ | ⟨hactive, hset⟩⟩ :=
    setActiveFile_cases view path s
  · exact .inl (by rw [hsame])
  · exact .inr ⟨opened, content, hpath, hactive, hcontent, hset⟩
  · refine .inl ?_
    have hsome : (s.copy view).documents opened = some (view.read content) := by
      rw [WorkingCopy.documents_of_not_opened _ _ hactive]
      exact congrArg (Option.map view.read) hcontent
    have hcopy : (setActiveFile view path s).copy view = (s.copy view).openAt opened "" := by
      have hsaved := congrArg WorkingCopy.stored (copy_saveActiveFileContent h)
      rw [hset, WorkingCopy.openAt, hsome, Option.getD_some, Editor.copy]
      congr 1
    rw [documents, hcopy, WorkingCopy.documents_openAt_of_isSome]
    · rfl
    · rw [hsome]
      rfl

theorem unsaved_iff {active content : String} (hactive : s.activeFilePath = some active)
    (hcontent : contentAt s.workspaceFiles active = some content) :
    Unsaved view s ↔ view.read content ≠ s.doc := by
  constructor
  · rintro ⟨other, hother, stored, hstored, hne⟩
    obtain rfl : active = other := Option.some.inj (hactive.symm.trans hother)
    obtain rfl : content = stored := Option.some.inj (hcontent.symm.trans hstored)
    exact hne
  · exact fun hne => ⟨active, hactive, content, hcontent, hne⟩

theorem setActiveFile_active {path : Option String} {active content : String}
    (hpath : sanitizeWorkspacePath path = some active) (hactive : s.activeFilePath = some active)
    (hcontent : contentAt s.workspaceFiles active = some content) :
    setActiveFile view path s = { s with doc := view.read content } := by
  unfold setActiveFile
  simp only [hpath, hcontent]
  cases s
  cases hactive
  simp

/-- Clicking a file keeps every text, unless it is the active one with unsaved changes. -/
theorem documents_setActiveFile_iff (h : EditorSound view s) (path : Option String) :
    documents view (setActiveFile view path s) = documents view s ↔
      ¬ (sanitizeWorkspacePath path = s.activeFilePath ∧ Unsaved view s) := by
  obtain ⟨active, hmem, hactive⟩ := h.active
  obtain ⟨content, hcontent⟩ := Option.isSome_iff_exists.mp (contentAt_isSome_iff.mpr hmem)
  by_cases hpath : sanitizeWorkspacePath path = s.activeFilePath
  · rw [setActiveFile_active (hpath.trans hactive) hactive hcontent, unsaved_iff hactive hcontent]
    have hedit := (s.copy view).documents_edit_eq_iff hactive (view.read content)
    rw [show documents view { s with doc := view.read content } =
      ((s.copy view).edit (view.read content)).documents from rfl, documents, hedit]
    simp only [hpath, true_and, not_not]
    rfl
  · refine iff_of_true ?_ fun hboth => hpath hboth.1
    refine (documents_setActiveFile h path).resolve_right ?_
    rintro ⟨other, -, hopened, hother, -⟩
    exact hpath (hopened.trans hother.symm)

theorem documents_setActiveFile_of_ne (h : EditorSound view s) (path : Option String)
    {other : String} (hother : s.activeFilePath ≠ some other) :
    documents view (setActiveFile view path s) other = documents view s other := by
  obtain hsame | ⟨active, content, -, -, -, hset⟩ := documents_setActiveFile h path
  · rw [hsame]
  · rw [hset, documents_eq, documents_eq, if_neg hother, if_neg hother]

theorem documents_setActiveFile_of_saved (h : EditorSound view s) (hsaved : ¬ Unsaved view s)
    (path : Option String) :
    documents view (setActiveFile view path s) = documents view s :=
  (documents_setActiveFile_iff h path).mpr fun hboth => hsaved hboth.2

theorem documents_setActiveFile_of_same {t : Editor} (h : EditorSound view s)
    (hsaved : ¬ Unsaved view t) {path : String}
    (hactive : s.activeFilePath = some path ↔ t.activeFilePath = some path)
    (hdoc : s.doc = t.doc)
    (hcontent : contentAt s.workspaceFiles path = contentAt t.workspaceFiles path)
    (opened : Option String) :
    documents view (setActiveFile view opened s) path = documents view t path := by
  have hbefore : documents view s path = documents view t path := by
    rw [documents_eq, documents_eq]
    simp only [hactive, hdoc, hcontent]
  refine Eq.trans ?_ hbefore
  by_cases hopen : s.activeFilePath = some path
  · refine congrFun (documents_setActiveFile_of_saved h ?_ _) path
    rintro ⟨other, hother, stored, hstored, hne⟩
    obtain rfl : path = other := Option.some.inj (hopen.symm.trans hother)
    exact hsaved ⟨path, hactive.mp hopen, stored, hcontent ▸ hstored, hdoc ▸ hne⟩
  · exact documents_setActiveFile_of_ne h _ hopen

/-! ## The handlers that change the list -/

theorem contentAt_append {files : List WorkspaceFile} (file : WorkspaceFile)
    (hnew : file.path ∉ paths files) (path : String) :
    contentAt (files ++ [file]) path =
      if path = file.path then some file.content else contentAt files path :=
  valueAt_append_new hnew path

theorem documents_of_shown {file : WorkspaceFile} (hnodup : (paths s.workspaceFiles).Nodup)
    (hfile : file ∈ s.workspaceFiles) (hactive : s.activeFilePath = some file.path)
    (hdoc : s.doc = view.read file.content) (path : String) :
    documents view s path = (contentAt s.workspaceFiles path).map view.read := by
  rw [documents_eq]
  split
  next hpath =>
    obtain rfl : file.path = path := Option.some.inj (hactive.symm.trans hpath)
    have hcontent : contentAt s.workspaceFiles file.path = some file.content :=
      valueAt_of_mem hnodup hfile
    rw [hcontent, Option.map_some, hdoc]
  next => rfl

theorem documents_append (h : EditorSound view s) (file : WorkspaceFile)
    (hnew : file.path ∉ paths s.workspaceFiles) (entry : Option String) (path : String) :
    documents view { s with
        workspaceFiles := s.workspaceFiles ++ [file], workspaceEntryFilePath := entry } path =
      if path = file.path then some (view.read file.content) else documents view s path := by
  obtain ⟨active, hmem, hactive⟩ := h.active
  rw [documents_eq, documents_eq, contentAt_append file hnew]
  by_cases hpath : path = file.path
  · have hother : s.activeFilePath ≠ some path := by
      rw [hactive, hpath]
      exact fun heq => hnew (Option.some.inj heq ▸ hmem)
    rw [if_neg hother, if_pos hpath, if_pos hpath, Option.map_some]
  · rw [if_neg hpath, if_neg hpath]

theorem documents_onAddFile (h : EditorSound view s) (requestedPath : Option String)
    (path : String) :
    documents view (onAddFile view requestedPath s) path =
      if sanitizeWorkspacePath requestedPath = some path ∧ path ∉ paths s.workspaceFiles then
        some (view.read "")
      else documents view s path := by
  have hsaved := saveActiveFileContent_sound h
  have hdocuments := documents_saveActiveFileContent h
  have hunsaved := not_unsaved_saveActiveFileContent h
  have hpaths := paths_saveActiveFileContent s
  rw [← hdocuments, ← hpaths]
  unfold onAddFile
  simp only
  generalize saveActiveFileContent s = saved at hsaved hunsaved ⊢
  split
  next hnone => rw [if_neg fun hboth => by simp [hnone] at hboth]
  next added hadded =>
    rw [hadded]
    split
    next hmem => rw [if_neg fun hboth => hboth.2 (Option.some.inj hboth.1 ▸ hmem)]
    next hnew =>
      obtain ⟨active, hactive, hisActive⟩ := hsaved.active
      obtain ⟨entry, hentry, hisEntry⟩ := hsaved.entry
      have hsub {other : String} (hother : other ∈ paths saved.workspaceFiles) :
          other ∈ paths (saved.workspaceFiles ++ [⟨added, ""⟩]) := by
        rw [paths, List.map_append]
        exact List.mem_append_left _ hother
      have hpushed : EditorSound view { saved with
          workspaceFiles := saved.workspaceFiles ++ [⟨added, ""⟩]
          workspaceEntryFilePath := saved.workspaceEntryFilePath.or (some added) } :=
        ⟨hsaved.files.append (sanitizeWorkspacePath_safe hadded) hnew,
          ⟨active, hsub hactive, hisActive⟩,
          ⟨entry, hsub hentry, by rw [hisEntry, Option.some_or]⟩, hsaved.doc⟩
      have hstill : ¬ Unsaved view { saved with
          workspaceFiles := saved.workspaceFiles ++ [⟨added, ""⟩]
          workspaceEntryFilePath := saved.workspaceEntryFilePath.or (some added) } := by
        rintro ⟨other, hother, content, hcontent, hne⟩
        refine hunsaved ⟨other, hother, content, ?_, hne⟩
        have hne : other ≠ added := by
          rintro rfl
          exact hnew (Option.some.inj (hisActive.symm.trans hother) ▸ hactive)
        rwa [contentAt_append ⟨added, ""⟩ hnew, if_neg hne] at hcontent
      rw [documents_setActiveFile_of_saved hpushed hstill,
        documents_append hsaved ⟨added, ""⟩ hnew]
      by_cases hpath : path = added
      · rw [if_pos hpath, if_pos ⟨congrArg some hpath.symm, hpath ▸ hnew⟩]
      · rw [if_neg hpath, if_neg fun hboth => hpath (Option.some.inj hboth.1).symm]

theorem contentAt_filter {files : List WorkspaceFile} (active path : String) :
    contentAt (files.filter fun file => some file.path ≠ some active) path =
      if path = active then none else contentAt files path := by
  have hsame : (files.filter fun file => some file.path ≠ some active) =
      files.filter fun file => file.path ≠ active := by
    refine List.filter_congr fun file _ => ?_
    simp
  rw [hsame, contentAt, valueAt_filter_ne]
  rfl

/-- Deleting drops the active file, unless it is the entry file. -/
theorem documents_onDeleteFile (h : EditorSound view s) (confirmed : Bool) (path : String) :
    documents view (onDeleteFile view confirmed s) path =
      if s.activeFilePath = some path ∧ s.activeFilePath ≠ s.workspaceEntryFilePath ∧
          confirmed = true then none
      else documents view s path := by
  obtain ⟨active, hactive, hisActive⟩ := h.active
  obtain ⟨entry, hentry, hisEntry⟩ := h.entry
  unfold onDeleteFile
  split
  next hkept =>
    rw [if_neg]
    rintro ⟨-, hne, hconfirmed⟩
    simp [hne, hconfirmed] at hkept
  next hdelete =>
    rw [not_or, Bool.not_eq_false] at hdelete
    obtain ⟨hne, hconfirmed⟩ := hdelete
    simp only [hisActive]
    obtain ⟨file, hfile, rfl⟩ := List.mem_map.mp hentry
    have hother : file.path ≠ active := by
      rintro rfl
      exact hne (hisActive.trans hisEntry.symm)
    have hkept : file ∈ s.workspaceFiles.filter fun file => some file.path ≠ some active := by
      rw [List.mem_filter]
      exact ⟨hfile, by simpa using hother⟩
    split
    next hnil =>
      rw [hnil] at hkept
      cases hkept
    next first rest hcons =>
      have hfirst := hcons.symm ▸ (List.mem_cons_self : first ∈ first :: rest)
      have hnodup : (paths (s.workspaceFiles.filter fun file =>
          some file.path ≠ some active)).Nodup :=
        h.files.nodup.sublist (List.filter_sublist.map _)
      refine (documents_of_shown hnodup (getD_find_mem hfirst _) rfl rfl path).trans ?_
      rw [contentAt_filter, documents_eq, hisActive]
      by_cases hpath : path = active
      · rw [if_pos hpath, if_pos ⟨hpath ▸ rfl, hisActive ▸ hne, hconfirmed⟩, Option.map_none]
      · have hsome : some active ≠ some path := fun heq => hpath (Option.some.inj heq).symm
        rw [if_neg hpath, if_neg fun hall => hsome hall.1, if_neg hsome]

theorem contentAt_rename {files : List WorkspaceFile} {source : String} (file : WorkspaceFile)
    (hnodup : (paths files).Nodup) (hmem : source ∈ paths files) (hnew : file.path ∉ paths files)
    (path : String) :
    contentAt (replaceFirst WorkspaceFile.path source file files) path =
      if path = file.path then some file.content
      else if path = source then none else contentAt files path :=
  valueAt_replaceFirst hnodup hmem hnew path

/-- The file that a change to `lang` renames: it exists, and its new name is free. -/
def Renames (lang : String) (s : Editor) (source : String) : Prop :=
  (sanitizeWorkspacePath s.workspaceEntryFilePath).or (sanitizeWorkspacePath s.activeFilePath) =
      some source ∧
    source ∈ paths s.workspaceFiles ∧
    getLanguageAdjustedFilePath (some source) lang ∉ paths s.workspaceFiles

def languageChosen (initialLang lang : String) (s : Editor) : Editor :=
  syncEditorLanguage initialLang lang false (saveActiveFileContent { s with language := lang })

theorem languageChosen_sound (h : EditorSound view s) (initialLang lang : String) :
    EditorSound view (languageChosen initialLang lang s) := by
  have hshown : EditorSound view { s with language := lang } :=
    ⟨h.files, h.active, h.entry, h.doc⟩
  exact syncEditorLanguage_sound (saveActiveFileContent_sound hshown) _ _ _

theorem languageChosen_saved (h : EditorSound view s) (initialLang lang : String) :
    ¬ Unsaved view (languageChosen initialLang lang s) := by
  have hshown : EditorSound view { s with language := lang } :=
    ⟨h.files, h.active, h.entry, h.doc⟩
  exact not_unsaved_saveActiveFileContent hshown

theorem documents_languageChosen (h : EditorSound view s) (initialLang lang : String) :
    documents view (languageChosen initialLang lang s) = documents view s := by
  have hshown : EditorSound view { s with language := lang } :=
    ⟨h.files, h.active, h.entry, h.doc⟩
  exact documents_saveActiveFileContent hshown

theorem renames_languageChosen_iff (initialLang lang source : String) :
    Renames lang (languageChosen initialLang lang s) source ↔ Renames lang s source := by
  have hpaths : paths (languageChosen initialLang lang s).workspaceFiles =
      paths s.workspaceFiles :=
    paths_saveActiveFileContent { s with language := lang }
  have hpointers : (languageChosen initialLang lang s).workspaceEntryFilePath =
        s.workspaceEntryFilePath ∧
      (languageChosen initialLang lang s).activeFilePath = s.activeFilePath := by
    rw [languageChosen, syncEditorLanguage, saveActiveFileContent_frame]
    exact ⟨rfl, rfl⟩
  rw [Renames, Renames, hpaths, hpointers.1, hpointers.2]

theorem onLanguageChange_cases (h : EditorSound view s) (initialLang lang : String) :
    ∃ entry : Option String, ∃ opened : Option String,
      let renamed :=
        renameEntryWorkspaceFileForLanguage initialLang lang (languageChosen initialLang lang s)
      (entry = renamed.1.workspaceEntryFilePath ∨
          ∃ path ∈ paths renamed.1.workspaceFiles, entry = some path) ∧
        onLanguageChange view initialLang lang s =
          setActiveFile view opened { renamed.1 with workspaceEntryFilePath := entry } := by
  have hsame (t : Editor) : t = setActiveFile view none t := by
    unfold setActiveFile
    have hnone : sanitizeWorkspacePath none = none := by
      delta sanitizeWorkspacePath
      decide +kernel
    rw [hnone]
  have hsound := languageChosen_sound h initialLang lang
  unfold onLanguageChange
  simp only
  rw [← languageChosen, if_neg hsound.files.nonempty]
  have hrenamed := rename_sound hsound initialLang lang
  split
  next renamed path hrename =>
    rw [hrename] at hrenamed ⊢
    exact ⟨_, _, .inr ⟨_, resolveWorkspaceEntryFile_mem hrenamed.files.nonempty _ _, rfl⟩, rfl⟩
  next renamed hrename =>
    rw [hrename] at hrenamed ⊢
    split
    next path hpath =>
      refine ⟨_, _, .inr ⟨path, ?_, rfl⟩, rfl⟩
      obtain hfound | ⟨-, hfound⟩ := Option.or_eq_some_iff.mp hpath
      · exact getPreferred_mem hfound
      · exact getPreferred_mem hfound
    next =>
      split
      next => exact ⟨_, none, .inl rfl, hsame _⟩
      next =>
        exact ⟨_, _, .inr ⟨_, resolveWorkspaceEntryFile_mem hrenamed.files.nonempty _ _, rfl⟩, rfl⟩

/-- A change of the language keeps every text but that of the file that it renames. -/
theorem documents_onLanguageChange (h : EditorSound view s) (initialLang lang path : String) :
    documents view (onLanguageChange view initialLang lang s) path = documents view s path ∨
      ∃ source, Renames lang s source ∧
        (path = source ∨ path = getLanguageAdjustedFilePath (some source) lang) := by
  obtain ⟨entry, opened, hentry, hchange⟩ := onLanguageChange_cases h initialLang lang
  have hsound := languageChosen_sound h initialLang lang
  have hsaved := languageChosen_saved h initialLang lang
  have hdocuments := documents_languageChosen h initialLang lang
  have hrenames := renames_languageChosen_iff (s := s) initialLang lang
  have hrenamed := rename_sound hsound initialLang lang
  rw [hchange, ← hdocuments]
  generalize languageChosen initialLang lang s = t at *
  have hpointed : EditorSound view
      { (renameEntryWorkspaceFileForLanguage initialLang lang t).1 with
        workspaceEntryFilePath := entry } := by
    refine ⟨hrenamed.files, hrenamed.active, ?_, hrenamed.doc⟩
    exact hentry.elim (fun heq => heq ▸ hrenamed.entry) id
  obtain hsame | ⟨source, content, next, hsource, hcontent, hnew, hrename⟩ :=
    rename_cases initialLang lang t
  · rw [hsame] at hpointed ⊢
    exact .inl (congrFun (documents_setActiveFile_of_saved hpointed hsaved _) path)
  have hmem := mem_paths_of_contentAt hcontent
  by_cases htouched : path = source ∨ path = getLanguageAdjustedFilePath (some source) lang
  · exact .inr ⟨source, (hrenames source).mp ⟨hsource, hmem, hnew⟩, htouched⟩
  rw [not_or] at htouched
  rw [hrename] at hpointed ⊢
  have hkept := contentAt_rename ⟨getLanguageAdjustedFilePath (some source) lang, next⟩
    hsound.files.nodup hmem hnew path
  rw [if_neg htouched.2, if_neg htouched.1] at hkept
  have hopened : (if t.activeFilePath = some source then
      some (getLanguageAdjustedFilePath (some source) lang) else t.activeFilePath) = some path ↔
        t.activeFilePath = some path := by
    split
    next hactive =>
      rw [hactive, Option.some.injEq, Option.some.injEq]
      exact ⟨fun heq => absurd heq.symm htouched.2, fun heq => absurd heq.symm htouched.1⟩
    next => rfl
  exact .inl (documents_setActiveFile_of_same hpointed hsaved hopened rfl hkept _)

/-! ## Importing -/

def importedText (picked : List WorkspaceFile) (path : String) : Option String :=
  Foundation.valueAt WorkspaceFile.path WorkspaceFile.content (importedFiles picked).reverse path

def afterImport (view : TextComponent) (picked : List WorkspaceFile)
    (before : String → Option String) (path : String) : Option String :=
  ((importedText picked path).map view.read).or (before path)

/-- If `path` is open: either the import opens it again, and nothing unsaved is lost by that, or it
leaves the editor on it, and the list gets no other text for it. -/
def ImportKeeps (view : TextComponent) (picked : List WorkspaceFile) (s : Editor)
    (path : String) : Prop :=
  s.activeFilePath = some path → ∀ first ∈ (importedFiles picked).head?,
    if sanitizeWorkspacePath (some first.path) = some path then
      importedText picked path = none → ¬ Unsaved view s
    else ∀ content ∈ importedText picked path, view.read content = s.doc

theorem finishImport_cons {picked : List WorkspaceFile} {first : WorkspaceFile}
    {rest : List WorkspaceFile} (hfiles : importedFiles picked = first :: rest) (s : Editor) :
    let files := (first :: rest).foldl (fun files file => put WorkspaceFile.path file files)
      s.workspaceFiles
    finishImport view picked s = setActiveFile view (some first.path)
      { s with
        workspaceFiles := files
        workspaceEntryFilePath :=
          some (resolveWorkspaceEntryFile s.language files s.workspaceEntryFilePath) } := by
  unfold finishImport
  rw [hfiles]

/-- An imported text arrives, and another one stays, exactly when the open file allows it. -/
theorem documents_finishImport_iff (h : EditorSound view s) (picked : List WorkspaceFile)
    (path : String) :
    documents view (finishImport view picked s) path =
        afterImport view picked (documents view s) path ↔ ImportKeeps view picked s path := by
  have hsafe := importedFiles_safe picked
  cases hfiles : importedFiles picked with
  | nil =>
      have hsame : finishImport view picked s = s := by
        unfold finishImport
        rw [hfiles]
      rw [hsame, afterImport, importedText, hfiles, ImportKeeps, hfiles]
      simp [Foundation.valueAt]
  | cons first rest =>
      have hcontent (other : String) : contentAt ((first :: rest).foldl
            (fun files file => put WorkspaceFile.path file files) s.workspaceFiles) other =
          (importedText picked other).or (contentAt s.workspaceFiles other) := by
        rw [contentAt, valueAt_foldl_put, importedText, hfiles]
        rfl
      rw [hfiles] at hsafe
      have hall := h.files.putAll hsafe
      simp only [finishImport_cons hfiles]
      generalize (first :: rest).foldl (fun files file => put WorkspaceFile.path file files)
        s.workspaceFiles = files at hcontent hall ⊢
      obtain ⟨active, hmem, hactive⟩ := h.active
      obtain ⟨stored, hstored⟩ :=
        Option.isSome_iff_exists.mp (contentAt_isSome_iff.mpr hmem)
      have hactiveContent : contentAt files active =
          some ((importedText picked active).getD stored) := by
        rw [hcontent, hstored]
        cases importedText picked active <;> rfl
      have hsound : EditorSound view { s with
          workspaceFiles := files
          workspaceEntryFilePath := some
            (resolveWorkspaceEntryFile s.language files s.workspaceEntryFilePath) } :=
        ⟨hall, ⟨active, mem_paths_of_contentAt hactiveContent, hactive⟩,
          ⟨_, resolveWorkspaceEntryFile_mem hall.nonempty _ _, rfl⟩, h.doc⟩
      by_cases hpath : path = active
      · subst hpath
        have hkeeps : ImportKeeps view picked s path ↔
            if sanitizeWorkspacePath (some first.path) = some path then
              importedText picked path = none → view.read stored = s.doc
            else ∀ content ∈ importedText picked path, view.read content = s.doc := by
          rw [ImportKeeps, hfiles]
          simp only [hactive, true_implies, List.head?_cons, Option.mem_def, Option.some.injEq,
            forall_eq', unsaved_iff hactive hstored, not_not]
        rw [hkeeps, afterImport, documents_eq (s := s), if_pos hactive]
        split
        next hopens =>
          rw [setActiveFile_active (s := { s with
            workspaceFiles := files
            workspaceEntryFilePath := some
              (resolveWorkspaceEntryFile s.language files s.workspaceEntryFilePath) })
            hopens hactive hactiveContent, documents_eq, if_pos hactive]
          cases importedText picked path <;> simp
        next hopens =>
          rw [(documents_setActiveFile_iff hsound (some first.path)).mpr
            fun hboth => hopens (hboth.1.trans hactive), documents_eq, if_pos hactive]
          cases importedText picked path with
          | none => simp
          | some text => simp [eq_comm]
      · have hother : s.activeFilePath ≠ some path := by
          rw [hactive]
          exact fun heq => hpath (Option.some.inj heq).symm
        refine iff_of_true ?_ fun hopen => absurd hopen hother
        rw [documents_setActiveFile_of_ne hsound _ hother, documents_eq, if_neg hother, hcontent,
          afterImport, documents_eq, if_neg hother]
        cases importedText picked path <;> rfl

/-! ## Runs -/

def Touches (view : TextComponent) (s : Editor) (path : String) : EditorEvent → Prop
  | .type _ => s.activeFilePath = some path
  | .selectFile clicked =>
      s.activeFilePath = some path ∧ sanitizeWorkspacePath (some clicked) = some path ∧
        Unsaved view s
  | .addFile requestedPath =>
      sanitizeWorkspacePath requestedPath = some path ∧ path ∉ paths s.workspaceFiles
  | .finishImport picked =>
      (importedText picked path).isSome ∨
        s.activeFilePath = some path ∧ Unsaved view s ∧
          ∃ first ∈ (importedFiles picked).head?,
            sanitizeWorkspacePath (some first.path) = some path
  | .deleteFile confirmed =>
      s.activeFilePath = some path ∧ s.activeFilePath ≠ s.workspaceEntryFilePath ∧
        confirmed = true
  | .changeLanguage lang =>
      ∃ source ∈ (sanitizeWorkspacePath s.workspaceEntryFilePath).or
          (sanitizeWorkspacePath s.activeFilePath),
        source ∈ paths s.workspaceFiles ∧
          getLanguageAdjustedFilePath (some source) lang ∉ paths s.workspaceFiles ∧
          (path = source ∨ path = getLanguageAdjustedFilePath (some source) lang)
  | .setEntryFile | .startImport | .readPayload => False

instance (view : TextComponent) (s : Editor) (path : String) :
    (e : EditorEvent) → Decidable (Touches view s path e)
  | .type _ => inferInstanceAs (Decidable (_ = _))
  | .selectFile _ => inferInstanceAs (Decidable (_ ∧ _ ∧ _))
  | .addFile _ => inferInstanceAs (Decidable (_ ∧ _))
  | .finishImport picked => inferInstanceAs (Decidable (_ ∨ _ ∧ _ ∧
      ∃ first ∈ (importedFiles picked).head?, sanitizeWorkspacePath (some first.path) = some path))
  | .deleteFile _ => inferInstanceAs (Decidable (_ ∧ _ ∧ _))
  | .changeLanguage lang => inferInstanceAs (Decidable (
      ∃ source ∈ (sanitizeWorkspacePath s.workspaceEntryFilePath).or
          (sanitizeWorkspacePath s.activeFilePath),
        source ∈ paths s.workspaceFiles ∧
          getLanguageAdjustedFilePath (some source) lang ∉ paths s.workspaceFiles ∧
          (path = source ∨ path = getLanguageAdjustedFilePath (some source) lang)))
  | .setEntryFile | .startImport | .readPayload => inferInstanceAs (Decidable False)

theorem documents_congr {t : Editor} (hfiles : s.workspaceFiles = t.workspaceFiles)
    (hactive : s.activeFilePath = t.activeFilePath) (hdoc : s.doc = t.doc) :
    documents view s = documents view t := by
  rw [documents, documents, Editor.copy, Editor.copy, hfiles, hactive, hdoc]

theorem documents_onSetEntryFile (initialLang : String) (s : Editor) :
    documents view (onSetEntryFile initialLang s) = documents view s := by
  unfold onSetEntryFile
  split
  next => rfl
  next active hactive =>
    unfold syncLanguageToEntryFile
    split
    next => exact documents_congr rfl rfl rfl
    next =>
      split
      next => exact documents_congr rfl rfl rfl
      next => exact documents_congr rfl rfl rfl

theorem documents_getWorkspacePayload (h : EditorSound view s) :
    documents view (getWorkspacePayload s).1 = documents view s :=
  documents_saveActiveFileContent h

/-- A step keeps the text of every path that it does not touch. -/
theorem documents_step_of_not_touches (h : EditorSound view s) (initialLang : String)
    {path : String} {e : EditorEvent} (huntouched : ¬ Touches view s path e) :
    documents view (editorStep view initialLang s e) path = documents view s path := by
  cases e with
  | type text =>
      have hother : s.activeFilePath ≠ some path := huntouched
      rw [editorStep, documents_eq, documents_eq, if_neg hother, if_neg hother]
  | selectFile clicked =>
      rw [editorStep]
      by_cases hactive : s.activeFilePath = some path
      · refine congrFun ((documents_setActiveFile_iff h _).mpr ?_) path
        exact fun hboth => huntouched ⟨hactive, hboth.1.trans hactive, hboth.2⟩
      · exact documents_setActiveFile_of_ne h _ hactive
  | setEntryFile => exact congrFun (documents_onSetEntryFile initialLang s) path
  | addFile requestedPath =>
      rw [editorStep, documents_onAddFile h]
      exact if_neg huntouched
  | startImport => exact congrFun (documents_saveActiveFileContent h) path
  | finishImport picked =>
      rw [Touches, not_or, Option.not_isSome_iff_eq_none] at huntouched
      rw [editorStep, (documents_finishImport_iff h picked path).mpr, afterImport, huntouched.1,
        Option.map_none, Option.none_or]
      intro hactive first hfirst
      split
      next hopens =>
        exact fun _ hunsaved => huntouched.2 ⟨hactive, hunsaved, first, hfirst, hopens⟩
      next =>
        intro content hcontent
        rw [huntouched.1] at hcontent
        cases hcontent
  | deleteFile confirmed =>
      rw [editorStep, documents_onDeleteFile h]
      exact if_neg huntouched
  | changeLanguage lang =>
      rw [editorStep]
      split
      next =>
        refine (documents_onLanguageChange h initialLang lang path).resolve_right ?_
        rintro ⟨source, ⟨hsource, hmem, hnew⟩, htouched⟩
        exact huntouched ⟨source, hsource, hmem, hnew, htouched⟩
      next => rfl
  | readPayload => exact congrFun (documents_getWorkspacePayload h) path

end Steps

end JudgeVortex.Templates
