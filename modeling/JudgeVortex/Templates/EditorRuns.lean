import JudgeVortex.Templates.QuestionSwitching

/-!
# Runs of the workspace page

What holds at every moment of a session, from the load of the page on: which steps change
a text, what is submitted, and that the language fits the file that is run.
-/

namespace JudgeVortex.Templates

open JudgeVortex.CoreApi JudgeVortex.Foundation JudgeVortex.Python JudgeVortex.Shared

theorem getWorkspacePayload_code {view : TextComponent} {e : Editor} (hsound : EditorSound view e) :
    contentAt (getWorkspacePayload e).2.files (getWorkspacePayload e).2.entryFile =
      some (getWorkspacePayload e).2.code := by
  have hentry : (getWorkspacePayload e).2.entryFile ∈ paths (getWorkspacePayload e).2.files :=
    resolveWorkspaceEntryFile_mem (saveActiveFileContent_sound hsound).files.nonempty _ _
  obtain ⟨content, hcontent⟩ := Option.isSome_iff_exists.mp (contentAt_isSome_iff.mpr hentry)
  have hcode : (getWorkspacePayload e).2.code =
      ((contentAt (getWorkspacePayload e).2.files (getWorkspacePayload e).2.entryFile).or
        ((getWorkspacePayload e).2.files.head?.map WorkspaceFile.content)).getD _ := rfl
  rw [hcode, hcontent, Option.some_or, Option.getD_some]

section Runs

variable (view : TextComponent) (initialLang : String)
  (stored : InsertionMap String SavedWorkspace) (before : List SessionEvent)

def editorAt : Editor :=
  (before.foldl (sessionStep view initialLang) (initialSession view initialLang stored)).editor

/-- There is always a file, all files stay below the workspace under different names, and the open
file and the file to run are among them. -/
theorem every_page_sound :
    FilesSound (editorAt view initialLang stored before).workspaceFiles ∧
      (∃ path ∈ paths (editorAt view initialLang stored before).workspaceFiles,
        (editorAt view initialLang stored before).activeFilePath = some path) ∧
      ∃ path ∈ paths (editorAt view initialLang stored before).workspaceFiles,
        (editorAt view initialLang stored before).workspaceEntryFilePath = some path :=
  have hsound := reached_sound view initialLang stored before
  ⟨hsound.files, hsound.active, hsound.entry⟩

theorem text_kept_over_run (events : List EditorEvent) (path : String)
    (huntouched : ∀ p ∈ transitions (editorStep view initialLang)
      (editorAt view initialLang stored before) events, ¬ Touches view p.1 path p.2) :
    documents view (events.foldl (editorStep view initialLang)
        (editorAt view initialLang stored before)) path =
      documents view (editorAt view initialLang stored before) path := by
  have hsound : EditorSound view (editorAt view initialLang stored before) :=
    reached_sound _ _ stored before
  have hend := foldl_invariant_of (editorStep view initialLang)
    (I := fun s => EditorSound view s ∧ documents view s path =
      documents view (editorAt view initialLang stored before) path)
    (G := fun s e => ¬ Touches view s path e)
    (fun s e hs hstep => ⟨editorStep_sound hs.1 _ _,
      (documents_step_of_not_touches hs.1 _ hstep).trans hs.2⟩)
    ⟨hsound, rfl⟩ events huntouched
  exact hend.2

theorem util_kept_while_main_changes :
    documents lineComponent
        ([EditorEvent.selectFile "main.py", .type "import lib", .changeLanguage "java",
          .addFile (some "b.py"), .deleteFile true, .readPayload].foldl
          (editorStep lineComponent "python")
          (editorAt lineComponent "python" .empty firstQuestion)) "lib/util.py" =
      documents lineComponent (editorAt lineComponent "python" .empty firstQuestion)
        "lib/util.py" :=
  text_kept_over_run lineComponent "python" .empty firstQuestion _ _ (by decide +kernel)

def Browsing : EditorEvent → Prop
  | .selectFile _ | .setEntryFile | .startImport | .readPayload => True
  | _ => False

/-- Who only browses loses no text, unless the open file is clicked while the list is behind. -/
theorem browsing_keeps_texts_iff (events : List EditorEvent)
    (hbrowsing : ∀ e ∈ events, Browsing e) :
    (∀ p ∈ transitions (editorStep view initialLang) (editorAt view initialLang stored before)
        events, documents view (editorStep view initialLang p.1 p.2) = documents view p.1) ↔
      ∀ p ∈ transitions (editorStep view initialLang) (editorAt view initialLang stored before)
        events, ∀ clicked, p.2 = .selectFile clicked →
          ¬ (sanitizeWorkspacePath (some clicked) = p.1.activeFilePath ∧ Unsaved view p.1) := by
  have hsound : EditorSound view (editorAt view initialLang stored before) :=
    reached_sound _ _ stored before
  have hreached := transitions_invariant (editorStep view initialLang)
    (I := EditorSound view) (fun s e hs => editorStep_sound hs _ _) hsound events
  refine forall₂_congr fun p hp => ?_
  have hs := hreached p hp
  have hbrowse := hbrowsing p.2 (label_mem_of_mem_transitions _ hp)
  obtain ⟨s, e⟩ := p
  dsimp only at hs hbrowse ⊢
  cases e with
  | selectFile path =>
      rw [editorStep, documents_setActiveFile_iff hs]
      simp only [EditorEvent.selectFile.injEq, forall_eq']
  | setEntryFile =>
      exact iff_of_true (documents_onSetEntryFile _ _) fun _ heq => by cases heq
  | startImport =>
      exact iff_of_true (documents_saveActiveFileContent hs) fun _ heq => by cases heq
  | readPayload =>
      exact iff_of_true (documents_getWorkspacePayload hs) fun _ heq => by cases heq
  | _ => exact hbrowse.elim

theorem browsing_after_typing :
    (∀ p ∈ transitions (editorStep lineComponent "python")
        (editorAt lineComponent "python" .empty firstQuestion)
        [.selectFile "lib/util.py", .readPayload],
      documents lineComponent (editorStep lineComponent "python" p.1 p.2) =
        documents lineComponent p.1) ↔
      ∀ p ∈ transitions (editorStep lineComponent "python")
        (editorAt lineComponent "python" .empty firstQuestion)
        [.selectFile "lib/util.py", .readPayload], ∀ clicked, p.2 = .selectFile clicked →
          ¬ (sanitizeWorkspacePath (some clicked) = p.1.activeFilePath ∧
            Unsaved lineComponent p.1) :=
  browsing_keeps_texts_iff lineComponent "python" .empty firstQuestion _ (by simp [Browsing])

/-- An import brings its texts and leaves the others exactly when it spares the open file. -/
theorem import_arrives_iff (picked : List WorkspaceFile) :
    documents view (finishImport view picked (editorAt view initialLang stored before)) =
        afterImport view picked (documents view (editorAt view initialLang stored before)) ↔
      ∀ path, ImportKeeps view picked (editorAt view initialLang stored before) path := by
  rw [funext_iff]
  exact forall_congr' fun path => documents_finishImport_iff (reached_sound _ _ stored before) _ _

/--
What is submitted is what the page shows: every file with its text, and the text of the file to
run as the code.  Reading it changes no text.
-/
theorem payload_shows_every_text :
    (∀ path, (contentAt (getWorkspacePayload (editorAt view initialLang stored before)).2.files
        path).map view.read = documents view (editorAt view initialLang stored before) path) ∧
      paths (getWorkspacePayload (editorAt view initialLang stored before)).2.files =
        paths (editorAt view initialLang stored before).workspaceFiles ∧
      contentAt (getWorkspacePayload (editorAt view initialLang stored before)).2.files
          (getWorkspacePayload (editorAt view initialLang stored before)).2.entryFile =
        some (getWorkspacePayload (editorAt view initialLang stored before)).2.code ∧
      documents view (getWorkspacePayload (editorAt view initialLang stored before)).1 =
        documents view (editorAt view initialLang stored before) := by
  have hsound : EditorSound view (editorAt view initialLang stored before) :=
    reached_sound _ _ stored before
  exact ⟨congrFun (congrArg WorkingCopy.stored (copy_saveActiveFileContent hsound)),
    paths_saveActiveFileContent _, getWorkspacePayload_code hsound,
    documents_getWorkspacePayload hsound⟩

end Runs

end JudgeVortex.Templates
