import JudgeVortex.Foundation.Runs
import JudgeVortex.Templates.WorkspaceFiles

/-!
# The editor of the workspace page

The file explorer of `workspace.html`: one text component shows the active file, and the
list of files learns of its text when the page saves.  Every handler is a function on
the state of the page.
-/

namespace JudgeVortex.Templates

open JudgeVortex.CoreApi JudgeVortex.Foundation JudgeVortex.Python JudgeVortex.Shared

/-- The text component: what a text that is put into it reads as.  It works on lines, so the ends
of these can change, the first time. -/
structure TextComponent where
  read : String → String
  read_read : ∀ text, read (read text) = read text

/-- Lines that end in any of the three usual ways, and are joined by newlines again. -/
def lineComponent : TextComponent where
  read := replaceCarriageReturns
  read_read text :=
    replaceCarriageReturns_of_not_mem (replaceCarriageReturns_not_mem text)

structure Editor where
  workspaceFiles : List WorkspaceFile
  activeFilePath : Option String
  workspaceEntryFilePath : Option String
  doc : String
  language : String
  previousLanguage : String
  deriving DecidableEq, Repr

structure WorkspacePayload where
  code : String
  files : List WorkspaceFile
  entryFile : String
  deriving DecidableEq, Repr

section Handlers

variable (view : TextComponent)

def saveActiveFileContent (s : Editor) : Editor :=
  match s.activeFilePath with
  | none => s
  | some active =>
      if active ∈ paths s.workspaceFiles then
        { s with
          workspaceFiles :=
            replaceFirst WorkspaceFile.path active ⟨active, s.doc⟩ s.workspaceFiles }
      else s

def setActiveFile (path : Option String) (s : Editor) : Editor :=
  match sanitizeWorkspacePath path with
  | none => s
  | some normalizedPath =>
      match contentAt s.workspaceFiles normalizedPath with
      | none => s
      | some content =>
          -- The file that is open already is not saved.
          let saved :=
            if s.activeFilePath ≠ some normalizedPath then saveActiveFileContent s else s
          { saved with activeFilePath := some normalizedPath, doc := view.read content }

def resetWorkspaceFiles (language : String) (preferredFiles : Option (List IncomingFile))
    (preferredActiveFile primaryContent : Option String) (s : Editor) : Editor :=
  let files := normalizeWorkspaceFiles language preferredFiles primaryContent
  match files with
  | [] => s
  | first :: _ =>
      let wanted := (sanitizeWorkspacePath preferredActiveFile).getD first.path
      let nextFile := (files.find? fun file => file.path = wanted).getD first
      { s with
        workspaceFiles := files
        workspaceEntryFilePath :=
          some (resolveWorkspaceEntryFile language files preferredActiveFile)
        activeFilePath := some nextFile.path
        doc := view.read nextFile.content }

def syncEditorLanguage (initialLang language : String) (updateSelector : Bool) (s : Editor) :
    Editor :=
  let nextLanguage := if language = "" then initialLang else language
  { s with
    language :=
      if updateSelector ∧ s.language ≠ nextLanguage then
        if nextLanguage ∈ languageOptions then nextLanguage else ""
      else s.language
    previousLanguage := nextLanguage }

def syncLanguageToEntryFile (initialLang : String) (entryPath : Option String) (s : Editor) :
    Editor :=
  match inferLanguageFromPath entryPath with
  | none => s
  | some inferred =>
      if inferred = s.language then s else syncEditorLanguage initialLang inferred true s

def renameEntryWorkspaceFileForLanguage (initialLang language : String) (s : Editor) :
    Editor × Option String :=
  match (sanitizeWorkspacePath s.workspaceEntryFilePath).or
      (sanitizeWorkspacePath s.activeFilePath) with
  | none => (s, none)
  | some sourcePath =>
      match contentAt s.workspaceFiles sourcePath with
      | none => (s, none)
      | some content =>
          let targetPath := getLanguageAdjustedFilePath (some sourcePath) language
          if targetPath = "" then (s, none)
          else if targetPath = sourcePath then (s, some sourcePath)
          else if targetPath ∈ paths s.workspaceFiles then (s, some targetPath)
          else
            let previousLanguage := (inferLanguageFromPath (some sourcePath)).getD
              (if s.previousLanguage = "" then initialLang else s.previousLanguage)
            let previousBoilerplate :=
              jsTrim (getBoilerplateForLanguage previousLanguage (some sourcePath))
            let nextContent :=
              if jsTrim content = previousBoilerplate then
                getBoilerplateForLanguage language (some targetPath)
              else content
            ({ s with
                workspaceFiles := replaceFirst WorkspaceFile.path sourcePath
                  ⟨targetPath, nextContent⟩ s.workspaceFiles
                activeFilePath :=
                  if s.activeFilePath = some sourcePath then some targetPath
                  else s.activeFilePath
                workspaceEntryFilePath :=
                  if s.workspaceEntryFilePath = some sourcePath then some targetPath
                  else s.workspaceEntryFilePath },
              some targetPath)

def getPreferredWorkspaceFileForLanguage (language : String) (preferredPath : Option String)
    (s : Editor) : Option String :=
  let languageFiles := (paths s.workspaceFiles).filter fun path =>
    inferLanguageFromPath (some path) = some language
  match languageFiles with
  | [] => none
  | first :: _ =>
      match (sanitizeWorkspacePath preferredPath).filter (· ∈ languageFiles) with
      | some path => some path
      | none =>
          let defaultPath := getPrimaryFileForLanguage language
          if defaultPath ∈ languageFiles then some defaultPath else some first

/-- The `change` handler of the language selector, which shows the chosen option already. -/
def onLanguageChange (initialLang lang : String) (s : Editor) : Editor :=
  let s := saveActiveFileContent { s with language := lang }
  let s := syncEditorLanguage initialLang lang false s
  if s.workspaceFiles = [] then
    let primaryFilePath := getPrimaryFileForLanguage lang
    resetWorkspaceFiles view lang none (some primaryFilePath)
      (some (getBoilerplateForLanguage lang (some primaryFilePath))) s
  else
    match renameEntryWorkspaceFileForLanguage initialLang lang s with
    | (s, some renamedEntryFile) =>
        let entry := resolveWorkspaceEntryFile lang s.workspaceFiles (some renamedEntryFile)
        setActiveFile view (some entry) { s with workspaceEntryFilePath := some entry }
    | (s, none) =>
        match (getPreferredWorkspaceFileForLanguage lang s.workspaceEntryFilePath s).or
            (getPreferredWorkspaceFileForLanguage lang s.activeFilePath s) with
        | some matchingEntryFile =>
            setActiveFile view (some matchingEntryFile)
              { s with workspaceEntryFilePath := some matchingEntryFile }
        | none =>
            if ∃ path ∈ s.activeFilePath, path ∈ paths s.workspaceFiles then s
            else
              let entry :=
                resolveWorkspaceEntryFile lang s.workspaceFiles s.workspaceEntryFilePath
              setActiveFile view (some entry) { s with workspaceEntryFilePath := some entry }

def onSetEntryFile (initialLang : String) (s : Editor) : Editor :=
  match s.activeFilePath with
  | none => s
  | some active =>
      syncLanguageToEntryFile initialLang (some active)
        { s with workspaceEntryFilePath := some active }

def onAddFile (requestedPath : Option String) (s : Editor) : Editor :=
  let s := saveActiveFileContent s
  match sanitizeWorkspacePath requestedPath with
  | none => s
  | some normalizedPath =>
      if normalizedPath ∈ paths s.workspaceFiles then s
      else
        setActiveFile view (some normalizedPath)
          { s with
            workspaceFiles := s.workspaceFiles ++ [⟨normalizedPath, ""⟩]
            workspaceEntryFilePath := s.workspaceEntryFilePath.or (some normalizedPath) }

def importedFiles (picked : List WorkspaceFile) : List WorkspaceFile :=
  picked.filterMap fun file =>
    (sanitizeWorkspacePath (some file.path)).map fun path => ⟨path, file.content⟩

def finishImport (picked : List WorkspaceFile) (s : Editor) : Editor :=
  match importedFiles picked with
  | [] => s
  | first :: rest =>
      let files := (first :: rest).foldl (fun files file => put WorkspaceFile.path file files)
        s.workspaceFiles
      setActiveFile view (some first.path)
        { s with
          workspaceFiles := files
          workspaceEntryFilePath :=
            some (resolveWorkspaceEntryFile s.language files s.workspaceEntryFilePath) }

def onDeleteFile (confirmed : Bool) (s : Editor) : Editor :=
  if s.activeFilePath = s.workspaceEntryFilePath ∨ confirmed = false then s
  else
    let files := s.workspaceFiles.filter fun file => some file.path ≠ s.activeFilePath
    let entry := resolveWorkspaceEntryFile s.language files s.workspaceEntryFilePath
    let s := { s with workspaceFiles := files, workspaceEntryFilePath := some entry }
    match files with
    | [] => s
    | first :: _ =>
        let nextFile := (files.find? fun file => file.path = entry).getD first
        { s with activeFilePath := some nextFile.path, doc := view.read nextFile.content }

def getWorkspacePayload (s : Editor) : Editor × WorkspacePayload :=
  let s := saveActiveFileContent s
  let entryPath := resolveWorkspaceEntryFile s.language s.workspaceFiles s.workspaceEntryFilePath
  let primaryContent := ((contentAt s.workspaceFiles entryPath).or
    (s.workspaceFiles.head?.map WorkspaceFile.content)).getD s.doc
  ({ s with workspaceEntryFilePath := some entryPath },
    ⟨primaryContent, s.workspaceFiles, entryPath⟩)

def ensureEntryFileLanguageMatches (entryPath selectedLanguage : String) : Bool :=
  match sanitizeWorkspacePath (some entryPath) with
  | none => true
  | some path =>
      match inferLanguageFromPath (some path) with
      | none => true
      | some inferred => selectedLanguage = "" ∨ inferred = selectedLanguage

inductive EditorEvent where
  | type (text : String)
  | selectFile (path : String)
  | setEntryFile
  | addFile (requestedPath : Option String)
  -- The two ends of `importLocalFiles`; anything can happen while it reads the files.
  | startImport
  | finishImport (picked : List WorkspaceFile)
  | deleteFile (confirmed : Bool)
  | changeLanguage (lang : String)
  | readPayload
  deriving DecidableEq, Repr

def editorStep (initialLang : String) (s : Editor) : EditorEvent → Editor
  | .type text => { s with doc := view.read text }
  | .selectFile path => setActiveFile view (some path) s
  | .setEntryFile => onSetEntryFile initialLang s
  | .addFile requestedPath => onAddFile view requestedPath s
  | .startImport => saveActiveFileContent s
  | .finishImport picked => finishImport view picked s
  | .deleteFile confirmed => onDeleteFile view confirmed s
  | .changeLanguage lang =>
      if lang ∈ languageOptions then onLanguageChange view initialLang lang s else s
  | .readPayload => (getWorkspacePayload s).1

end Handlers

/-! ## What every handler keeps -/

theorem FilesSound.of_paths {files others : List WorkspaceFile} (h : FilesSound files)
    (hpaths : paths others = paths files) : FilesSound others := by
  refine ⟨?_, hpaths ▸ h.nodup, hpaths ▸ h.safe⟩
  rintro rfl
  exact h.nonempty (List.map_eq_nil_iff.mp hpaths.symm)

theorem paths_overwrite (files : List WorkspaceFile) (path content : String) :
    paths (replaceFirst WorkspaceFile.path path ⟨path, content⟩ files) = paths files :=
  keys_replaceFirst_same rfl

theorem FilesSound.append {files : List WorkspaceFile} (h : FilesSound files) {file : WorkspaceFile}
    (hsafe : SafeRelative file.path) (hnew : file.path ∉ paths files) :
    FilesSound (files ++ [file]) := by
  have hpaths : paths (files ++ [file]) = paths files ++ [file.path] := by simp [paths]
  refine ⟨by simp, ?_, ?_⟩
  · rw [hpaths, List.nodup_append]
    refine ⟨h.nodup, List.nodup_singleton _, ?_⟩
    rintro path hpath other hother rfl
    exact hnew (List.mem_singleton.mp hother ▸ hpath)
  · rw [hpaths, List.forall_mem_append, List.forall_mem_singleton]
    exact ⟨h.safe, hsafe⟩

theorem FilesSound.rename {files : List WorkspaceFile} (h : FilesSound files) {path : String}
    {file : WorkspaceFile} (hmem : path ∈ paths files) (hsafe : SafeRelative file.path)
    (hnew : file.path ∉ paths files) :
    FilesSound (replaceFirst WorkspaceFile.path path file files) := by
  have hkeys := mem_keys_replaceFirst h.nodup hmem file
  refine ⟨?_, nodup_keys_replaceFirst h.nodup hmem hnew, ?_⟩
  · intro hnil
    have hin := (hkeys file.path).mpr (.inl rfl)
    rw [hnil] at hin
    cases hin
  · intro other hother
    obtain rfl | ⟨hin, -⟩ := (hkeys other).mp hother
    · exact hsafe
    · exact h.safe other hin

theorem FilesSound.putAll {files : List WorkspaceFile} (h : FilesSound files)
    {news : List WorkspaceFile} (hsafe : ∀ file ∈ news, SafeRelative file.path) :
    FilesSound (news.foldl (fun files file => put WorkspaceFile.path file files) files) := by
  have hkeys (path : String) := mem_keys_foldl_put WorkspaceFile.path files news path
  refine ⟨?_, nodup_keys_foldl_put h.nodup, ?_⟩
  · obtain ⟨file, rest, rfl⟩ := List.exists_cons_of_ne_nil h.nonempty
    intro hnil
    have hin := (hkeys file.path).mpr (.inr (by simp))
    rw [hnil] at hin
    cases hin
  · intro path hpath
    obtain hnew | hold := (hkeys path).mp hpath
    · obtain ⟨file, hfile, rfl⟩ := List.mem_map.mp hnew
      exact hsafe file hfile
    · exact h.safe path hold

theorem FilesSound.filter {files : List WorkspaceFile} (h : FilesSound files)
    {kept : WorkspaceFile → Bool} (hne : files.filter kept ≠ []) :
    FilesSound (files.filter kept) :=
  ⟨hne, h.nodup.sublist (List.filter_sublist.map _),
    fun path hpath => h.safe path ((List.filter_sublist.map _).subset hpath)⟩

/-- There are files, all in different places below the workspace, and the page shows and runs ones
that exist. -/
structure EditorSound (view : TextComponent) (s : Editor) : Prop where
  files : FilesSound s.workspaceFiles
  active : ∃ path ∈ paths s.workspaceFiles, s.activeFilePath = some path
  entry : ∃ path ∈ paths s.workspaceFiles, s.workspaceEntryFilePath = some path
  doc : view.read s.doc = s.doc

theorem contentAt_isSome_iff {files : List WorkspaceFile} {path : String} :
    (contentAt files path).isSome ↔ path ∈ paths files := isSome_valueAt_iff

theorem mem_paths_of_contentAt {files : List WorkspaceFile} {path content : String}
    (h : contentAt files path = some content) : path ∈ paths files :=
  contentAt_isSome_iff.mp (by rw [h]; rfl)

section Sound

variable {view : TextComponent} {s : Editor}

theorem saveActiveFileContent_eq {active : String} (hactive : s.activeFilePath = some active)
    (hmem : active ∈ paths s.workspaceFiles) :
    saveActiveFileContent s = { s with
      workspaceFiles :=
        replaceFirst WorkspaceFile.path active ⟨active, s.doc⟩ s.workspaceFiles } := by
  unfold saveActiveFileContent
  rw [hactive]
  exact if_pos hmem

theorem paths_saveActiveFileContent (s : Editor) :
    paths (saveActiveFileContent s).workspaceFiles = paths s.workspaceFiles := by
  unfold saveActiveFileContent
  split
  next => rfl
  next =>
    split
    next => exact paths_overwrite _ _ _
    next => rfl

theorem saveActiveFileContent_frame (s : Editor) :
    saveActiveFileContent s =
      { s with workspaceFiles := (saveActiveFileContent s).workspaceFiles } := by
  unfold saveActiveFileContent
  split
  next => rfl
  next => split <;> rfl

theorem saveActiveFileContent_sound (h : EditorSound view s) :
    EditorSound view (saveActiveFileContent s) := by
  rw [saveActiveFileContent_frame]
  have hpaths := paths_saveActiveFileContent s
  exact ⟨h.files.of_paths hpaths, hpaths ▸ h.active, hpaths ▸ h.entry, h.doc⟩

theorem setActiveFile_cases (view : TextComponent) (path : Option String) (s : Editor) :
    setActiveFile view path s = s ∨
      ∃ normalizedPath content, sanitizeWorkspacePath path = some normalizedPath ∧
        contentAt s.workspaceFiles normalizedPath = some content ∧
        ((s.activeFilePath = some normalizedPath ∧
            setActiveFile view path s = { s with doc := view.read content }) ∨
          (s.activeFilePath ≠ some normalizedPath ∧
            setActiveFile view path s = { saveActiveFileContent s with
              activeFilePath := some normalizedPath, doc := view.read content })) := by
  unfold setActiveFile
  split
  next => exact .inl rfl
  next normalizedPath hpath =>
    split
    next => exact .inl rfl
    next content hcontent =>
      refine .inr ⟨normalizedPath, content, hpath, hcontent, ?_⟩
      by_cases hactive : s.activeFilePath = some normalizedPath
      · refine .inl ⟨hactive, ?_⟩
        cases s
        cases hactive
        simp
      · exact .inr ⟨hactive, by simp only [if_pos hactive]⟩

theorem setActiveFile_sound (h : EditorSound view s) (path : Option String) :
    EditorSound view (setActiveFile view path s) := by
  obtain hsame | ⟨opened, content, -, hcontent, ⟨-, hset⟩ | ⟨-, hset⟩⟩ :=
    setActiveFile_cases view path s
  · rwa [hsame]
  · rw [hset]
    exact ⟨h.files, h.active, h.entry, view.read_read content⟩
  · have hsaved := saveActiveFileContent_sound h
    rw [hset]
    refine ⟨hsaved.files, ⟨opened, ?_, rfl⟩, hsaved.entry, view.read_read content⟩
    exact (paths_saveActiveFileContent s).symm ▸ mem_paths_of_contentAt hcontent

theorem getD_find_mem {files : List WorkspaceFile} {first : WorkspaceFile} (hfirst : first ∈ files)
    (path : String) :
    (files.find? fun file => file.path = path).getD first ∈ files := by
  cases hfound : files.find? fun file => file.path = path with
  | none => exact hfirst
  | some file => exact List.mem_of_find?_eq_some hfound

theorem resetWorkspaceFiles_sound (view : TextComponent) (language : String)
    (preferredFiles : Option (List IncomingFile))
    (preferredActiveFile primaryContent : Option String) (s : Editor) :
    EditorSound view
      (resetWorkspaceFiles view language preferredFiles preferredActiveFile primaryContent s) := by
  have hfiles := normalizeWorkspaceFiles_sound language preferredFiles primaryContent
  unfold resetWorkspaceFiles
  simp only
  split
  next hnil => exact absurd hnil hfiles.nonempty
  next first rest hcons =>
    have hfirst : first ∈ normalizeWorkspaceFiles language preferredFiles primaryContent := by
      simp [hcons]
    refine ⟨hfiles, ⟨_, ?_, rfl⟩, ⟨_, ?_, rfl⟩, view.read_read _⟩
    · exact List.mem_map_of_mem (getD_find_mem hfirst _)
    · exact resolveWorkspaceEntryFile_mem hfiles.nonempty _ _

theorem syncEditorLanguage_sound (h : EditorSound view s) (initialLang language : String)
    (updateSelector : Bool) :
    EditorSound view (syncEditorLanguage initialLang language updateSelector s) :=
  ⟨h.files, h.active, h.entry, h.doc⟩

/-- The renaming finds nothing to do, or one file gets a name that is free. -/
theorem rename_cases (initialLang language : String) (s : Editor) :
    (renameEntryWorkspaceFileForLanguage initialLang language s).1 = s ∨
      ∃ source content next,
        let target := getLanguageAdjustedFilePath (some source) language
        (sanitizeWorkspacePath s.workspaceEntryFilePath).or
            (sanitizeWorkspacePath s.activeFilePath) = some source ∧
          contentAt s.workspaceFiles source = some content ∧
          target ∉ paths s.workspaceFiles ∧
          renameEntryWorkspaceFileForLanguage initialLang language s =
            ({ s with
                workspaceFiles :=
                  replaceFirst WorkspaceFile.path source ⟨target, next⟩ s.workspaceFiles
                activeFilePath :=
                  if s.activeFilePath = some source then some target else s.activeFilePath
                workspaceEntryFilePath :=
                  if s.workspaceEntryFilePath = some source then some target
                  else s.workspaceEntryFilePath },
              some target) := by
  unfold renameEntryWorkspaceFileForLanguage
  split
  next => exact .inl rfl
  next source hsource =>
    split
    next => exact .inl rfl
    next content hcontent =>
      simp only
      split
      next => exact .inl rfl
      next =>
        split
        next => exact .inl rfl
        next =>
          split
          next => exact .inl rfl
          next hnew => exact .inr ⟨source, content, _, hsource, hcontent, hnew, rfl⟩

theorem rename_sound (h : EditorSound view s) (initialLang language : String) :
    EditorSound view (renameEntryWorkspaceFileForLanguage initialLang language s).1 := by
  obtain hsame | ⟨source, content, next, -, hcontent, hnew, hrename⟩ :=
    rename_cases initialLang language s
  · rwa [hsame]
  have hmem := mem_paths_of_contentAt hcontent
  have hkeys := mem_keys_replaceFirst h.files.nodup hmem
    ⟨getLanguageAdjustedFilePath (some source) language, next⟩
  -- A path that points at the renamed file follows it.
  have hfollows {pointer : Option String}
      (hpointer : ∃ path ∈ paths s.workspaceFiles, pointer = some path) :
      ∃ path ∈ paths (replaceFirst WorkspaceFile.path source
          ⟨getLanguageAdjustedFilePath (some source) language, next⟩ s.workspaceFiles),
        (if pointer = some source then
          some (getLanguageAdjustedFilePath (some source) language) else pointer) = some path := by
    obtain ⟨path, hpath, rfl⟩ := hpointer
    split
    next => exact ⟨_, (hkeys _).mpr (.inl rfl), rfl⟩
    next hne => exact ⟨path, (hkeys _).mpr (.inr ⟨hpath, fun heq => hne (heq ▸ rfl)⟩), rfl⟩
  rw [hrename]
  exact ⟨h.files.rename hmem (safeRelative_adjusted _ _) hnew, hfollows h.active,
    hfollows h.entry, h.doc⟩

theorem EditorSound.with_entry (h : EditorSound view s) {entry : String}
    (hentry : entry ∈ paths s.workspaceFiles) :
    EditorSound view { s with workspaceEntryFilePath := some entry } :=
  ⟨h.files, h.active, ⟨entry, hentry, rfl⟩, h.doc⟩

theorem getPreferred_mem {language : String} {preferredPath : Option String} {path : String}
    (h : getPreferredWorkspaceFileForLanguage language preferredPath s = some path) :
    path ∈ paths s.workspaceFiles := by
  unfold getPreferredWorkspaceFileForLanguage at h
  simp only at h
  have hsub {other : String} (hother : other ∈ (paths s.workspaceFiles).filter fun path =>
      inferLanguageFromPath (some path) = some language) : other ∈ paths s.workspaceFiles :=
    List.mem_of_mem_filter hother
  split at h
  next => cases h
  next first rest hfiles =>
    split at h
    next preferred hpreferred =>
      obtain rfl := Option.some.inj h
      exact hsub (of_decide_eq_true (Option.filter_eq_some_iff.mp hpreferred).2)
    next =>
      split at h
      next hdefault =>
        obtain rfl := Option.some.inj h
        exact hsub hdefault
      next =>
        obtain rfl := Option.some.inj h
        exact hsub (hfiles ▸ List.mem_cons_self)

theorem onLanguageChange_sound (h : EditorSound view s) (initialLang lang : String) :
    EditorSound view (onLanguageChange view initialLang lang s) := by
  unfold onLanguageChange
  have hshown : EditorSound view { s with language := lang } :=
    ⟨h.files, h.active, h.entry, h.doc⟩
  have hsaved := syncEditorLanguage_sound (saveActiveFileContent_sound hshown) initialLang lang
    false
  simp only
  generalize syncEditorLanguage initialLang lang false
    (saveActiveFileContent { s with language := lang }) = saved at hsaved ⊢
  split
  next hnone => exact absurd hnone hsaved.files.nonempty
  next =>
    have hrenamed := rename_sound hsaved initialLang lang
    split
    next renamed path hrename =>
      rw [hrename] at hrenamed
      exact setActiveFile_sound (hrenamed.with_entry
        (resolveWorkspaceEntryFile_mem hrenamed.files.nonempty _ _)) _
    next renamed hrename =>
      rw [hrename] at hrenamed
      split
      next path hpath =>
        refine setActiveFile_sound (hrenamed.with_entry ?_) _
        obtain hfound | ⟨-, hfound⟩ := Option.or_eq_some_iff.mp hpath
        · exact getPreferred_mem hfound
        · exact getPreferred_mem hfound
      next =>
        split
        next => exact hrenamed
        next => exact setActiveFile_sound (hrenamed.with_entry
          (resolveWorkspaceEntryFile_mem hrenamed.files.nonempty _ _)) _

theorem onSetEntryFile_sound (h : EditorSound view s) (initialLang : String) :
    EditorSound view (onSetEntryFile initialLang s) := by
  obtain ⟨active, hmem, hactive⟩ := h.active
  unfold onSetEntryFile
  split
  next => exact h
  next path hpath =>
    obtain rfl : active = path := Option.some.inj (hactive.symm.trans hpath)
    have hentry := h.with_entry hmem
    unfold syncLanguageToEntryFile
    split
    next => exact hentry
    next =>
      split
      next => exact hentry
      next => exact syncEditorLanguage_sound hentry _ _ _

theorem onAddFile_sound (h : EditorSound view s) (requestedPath : Option String) :
    EditorSound view (onAddFile view requestedPath s) := by
  have hsaved := saveActiveFileContent_sound h
  unfold onAddFile
  simp only
  generalize saveActiveFileContent s = saved at hsaved ⊢
  split
  next => exact hsaved
  next path hpath =>
    split
    next => exact hsaved
    next hnew =>
      obtain ⟨active, hactive, hisActive⟩ := hsaved.active
      obtain ⟨entry, hentry, hisEntry⟩ := hsaved.entry
      have hpaths : paths (saved.workspaceFiles ++ [⟨path, ""⟩]) =
          paths saved.workspaceFiles ++ [path] := by simp [paths]
      apply setActiveFile_sound
      refine ⟨?_, ⟨active, ?_, hisActive⟩, ⟨entry, ?_, ?_⟩, hsaved.doc⟩
      · exact hsaved.files.append (sanitizeWorkspacePath_safe hpath) hnew
      · exact hpaths ▸ List.mem_append_left _ hactive
      · exact hpaths ▸ List.mem_append_left _ hentry
      · simp only [hisEntry, Option.some_or]

theorem importedFiles_safe (picked : List WorkspaceFile) :
    ∀ file ∈ importedFiles picked, SafeRelative file.path := by
  intro file hfile
  obtain ⟨raw, -, hraw⟩ := List.mem_filterMap.mp hfile
  obtain ⟨path, hpath, rfl⟩ := Option.map_eq_some_iff.mp hraw
  exact sanitizeWorkspacePath_safe hpath

theorem finishImport_sound (h : EditorSound view s) (picked : List WorkspaceFile) :
    EditorSound view (finishImport view picked s) := by
  have hsafe := importedFiles_safe picked
  unfold finishImport
  split
  next => exact h
  next first rest hfiles =>
    rw [hfiles] at hsafe
    have hall := h.files.putAll hsafe
    obtain ⟨active, hactive, hisActive⟩ := h.active
    apply setActiveFile_sound
    refine ⟨hall, ⟨active, ?_, hisActive⟩, ⟨_, ?_, rfl⟩, h.doc⟩
    · exact (mem_keys_foldl_put _ _ _ _).mpr (.inr hactive)
    · exact resolveWorkspaceEntryFile_mem hall.nonempty _ _

theorem onDeleteFile_sound (h : EditorSound view s) (confirmed : Bool) :
    EditorSound view (onDeleteFile view confirmed s) := by
  obtain ⟨active, hactive, hisActive⟩ := h.active
  obtain ⟨entry, hentry, hisEntry⟩ := h.entry
  unfold onDeleteFile
  split
  next => exact h
  next hdelete =>
    rw [not_or, hisActive, hisEntry, Option.some.injEq] at hdelete
    obtain ⟨file, hfile, rfl⟩ := List.mem_map.mp hentry
    have hkept : file ∈ s.workspaceFiles.filter fun file => some file.path ≠ s.activeFilePath := by
      rw [List.mem_filter, hisActive]
      exact ⟨hfile, by simpa using fun heq => hdelete.1 heq.symm⟩
    simp only
    split
    next hnil =>
      rw [hnil] at hkept
      cases hkept
    next first rest hcons =>
      have hfiles := h.files.filter (List.ne_nil_of_mem hkept)
      have hfirst := hcons.symm ▸ (List.mem_cons_self : first ∈ first :: rest)
      refine ⟨hfiles, ⟨_, ?_, rfl⟩, ⟨_, ?_, rfl⟩, view.read_read _⟩
      · exact List.mem_map_of_mem (getD_find_mem hfirst _)
      · exact resolveWorkspaceEntryFile_mem hfiles.nonempty _ _

theorem getWorkspacePayload_sound (h : EditorSound view s) :
    EditorSound view (getWorkspacePayload s).1 := by
  have hsaved := saveActiveFileContent_sound h
  exact hsaved.with_entry (resolveWorkspaceEntryFile_mem hsaved.files.nonempty _ _)

theorem editorStep_sound (h : EditorSound view s) (initialLang : String) (e : EditorEvent) :
    EditorSound view (editorStep view initialLang s e) := by
  cases e with
  | type text => exact ⟨h.files, h.active, h.entry, view.read_read text⟩
  | selectFile path => exact setActiveFile_sound h _
  | setEntryFile => exact onSetEntryFile_sound h _
  | addFile requestedPath => exact onAddFile_sound h _
  | startImport => exact saveActiveFileContent_sound h
  | finishImport picked => exact finishImport_sound h _
  | deleteFile confirmed => exact onDeleteFile_sound h _
  | changeLanguage lang =>
      rw [editorStep]
      split
      next => exact onLanguageChange_sound h _ _
      next => exact h
  | readPayload => exact getWorkspacePayload_sound h

end Sound

end JudgeVortex.Templates
