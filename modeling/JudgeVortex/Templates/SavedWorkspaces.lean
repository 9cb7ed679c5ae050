import JudgeVortex.Foundation.InsertionMap
import JudgeVortex.Templates.EditorDocuments

/-!
# Saved workspaces

How `workspace.html` keeps a workspace for every question of an exam:
`persistCurrentCode`, `restoreSavedCode`, `setActiveQuestion` and what else opens or
leaves a question.
-/

namespace JudgeVortex.Templates

open JudgeVortex.CoreApi JudgeVortex.Foundation JudgeVortex.Python JudgeVortex.Shared

structure SavedWorkspace where
  files : List WorkspaceFile
  activeFile : Option String
  entryFile : Option String
  language : String
  deriving DecidableEq, Repr

structure PastSubmission where
  code : String
  files : List WorkspaceFile
  entryFile : Option String
  activeFile : Option String
  language : String
  questionId : Option Int
  deriving DecidableEq, Repr

structure Session where
  editor : Editor
  savedCode : InsertionMap String SavedWorkspace
  stored : InsertionMap String SavedWorkspace
  activeExamRoomId : Option Int
  activeExamQuestionId : Option Int
  assignedQuestionBank : List Int
  inExamMode : Bool
  isExamActive : Bool
  isDisqualified : Bool

def truthyId (id : Option Int) : Option Int := id.filter (· ≠ 0)

def idText : Option Int → String
  | none => "null"
  | some id => toString id

def savedKey (roomId questionId : Option Int) : String := idText roomId ++ "_" ++ idText questionId

def nonemptyText (text : Option String) : Option String := text.filter (· ≠ "")

def activeKey (s : Session) : Option (Int × Int) :=
  match truthyId s.activeExamRoomId, truthyId s.activeExamQuestionId with
  | some roomId, some questionId => some (roomId, questionId)
  | _, _ => none

section Handlers

variable (view : TextComponent) (initialLang : String)

def initialEditor : Editor :=
  let primaryFile := getPrimaryFileForLanguage initialLang
  resetWorkspaceFiles view initialLang none (some primaryFile)
    (some (getBoilerplateForLanguage initialLang (some primaryFile)))
    ⟨[], none, none, "", initialLang, initialLang⟩

def initialSession (stored : InsertionMap String SavedWorkspace) : Session where
  editor := initialEditor view initialLang
  savedCode := stored
  stored := stored
  activeExamRoomId := none
  activeExamQuestionId := none
  assignedQuestionBank := []
  inExamMode := false
  isExamActive := false
  isDisqualified := false

/-- `buildActiveExamSnapshotPayload` reads the payload, which saves and resolves the entry file. -/
def syncActiveExamSnapshot (s : Session) : Session :=
  if activeKey s = none ∨ !s.inExamMode ∨ !s.isExamActive ∨ s.isDisqualified then s
  else { s with editor := (getWorkspacePayload s.editor).1 }

/-- `persistCurrentCode`; `stores` is false when `localStorage` is full. -/
def persistCurrentCode (stores : Bool) (s : Session) : Session :=
  match activeKey s with
  | none => s
  | some (roomId, questionId) =>
      let editor := saveActiveFileContent s.editor
      let savedCode := s.savedCode.set (savedKey (some roomId) (some questionId))
        ⟨editor.workspaceFiles, editor.activeFilePath, editor.workspaceEntryFilePath,
          editor.language⟩
      syncActiveExamSnapshot { s with
        editor := editor
        savedCode := savedCode
        stored := if stores then savedCode else s.stored }

def restoreWorkspace (saved : SavedWorkspace) (e : Editor) : Editor :=
  let e :=
    if saved.language ≠ "" ∧ e.language ≠ saved.language then
      syncEditorLanguage initialLang saved.language true e
    else e
  let language := if saved.language = "" then e.language else saved.language
  let pointed := (nonemptyText saved.entryFile).or saved.activeFile
  let e := resetWorkspaceFiles view language (some (saved.files.map .ofFile)) saved.activeFile
    (some (getBoilerplateForLanguage language pointed)) e
  let language := if saved.language = "" then e.language else saved.language
  { e with
    workspaceEntryFilePath := some (resolveWorkspaceEntryFile language e.workspaceFiles pointed) }

def restoreSavedCode (roomId questionId : Option Int) (s : Session) : Option Session :=
  (s.savedCode.get? (savedKey roomId questionId)).map fun saved =>
    { s with editor := restoreWorkspace view initialLang saved s.editor }

def setActiveQuestion (qId : Int) (roomId : Option Int) (stores : Bool) (s : Session) : Session :=
  let s := persistCurrentCode stores s
  let resolvedRoomId := (truthyId roomId).or s.activeExamRoomId
  let s := { s with activeExamRoomId := resolvedRoomId, activeExamQuestionId := some qId }
  let s :=
    match restoreSavedCode view initialLang resolvedRoomId (some qId) s with
    | some restored => restored
    | none =>
        let lang := s.editor.language
        let primaryFilePath := getPrimaryFileForLanguage lang
        { s with
          editor := resetWorkspaceFiles view lang none (some primaryFilePath)
            (some (getBoilerplateForLanguage lang (some primaryFilePath))) s.editor }
  syncActiveExamSnapshot s

def renderExamMode (roomId : Int) (assigned : List Int) (preserveSelection stores : Bool)
    (s : Session) : Session :=
  let s := if preserveSelection then persistCurrentCode stores s else s
  let questionId := if preserveSelection then s.activeExamQuestionId else none
  { s with
    activeExamRoomId := some roomId
    activeExamQuestionId := questionId.filter (· ∈ assigned)
    assignedQuestionBank := assigned
    inExamMode := true
    isExamActive := true
    isDisqualified := false }

def leaveRoom (s : Session) : Session :=
  { s with
    activeExamRoomId := none
    activeExamQuestionId := none
    assignedQuestionBank := []
    isExamActive := false }

def openPastQuestion (questionId : Option Int) (stores : Bool) (s : Session) : Session :=
  match truthyId questionId with
  | none => s
  | some questionId =>
      if s.isExamActive ∧ (truthyId s.activeExamRoomId).isSome ∧
          questionId ∈ s.assignedQuestionBank then
        setActiveQuestion view initialLang questionId s.activeExamRoomId stores s
      else s

theorem openPastQuestion_cases (questionId : Option Int) (stores : Bool) (s : Session) :
    openPastQuestion view initialLang questionId stores s = s ∨
      ∃ qId roomId, openPastQuestion view initialLang questionId stores s =
        setActiveQuestion view initialLang qId roomId stores s := by
  unfold openPastQuestion
  cases truthyId questionId with
  | none => exact .inl rfl
  | some qId =>
      by_cases hopens : s.isExamActive ∧ (truthyId s.activeExamRoomId).isSome ∧
          qId ∈ s.assignedQuestionBank
      · exact .inr ⟨qId, s.activeExamRoomId, if_pos hopens⟩
      · exact .inl (if_neg hopens)

def loadPastCode (sub : PastSubmission) (stores : Bool) (s : Session) : Session :=
  if sub.code = "" ∧ sub.files = [] then s
  else
    let s := openPastQuestion view initialLang sub.questionId stores s
    let e := syncEditorLanguage initialLang sub.language true s.editor
    let e := resetWorkspaceFiles view sub.language (some (sub.files.map .ofFile))
      ((nonemptyText sub.entryFile).or sub.activeFile) (some sub.code) e
    { s with
      editor := { e with
        workspaceEntryFilePath :=
          some (resolveWorkspaceEntryFile sub.language e.workspaceFiles sub.entryFile) } }

inductive SessionEvent where
  | edit (e : EditorEvent)
  | persist (stores : Bool)
  | setActiveQuestion (qId : Int) (roomId : Option Int) (stores : Bool)
  | renderExamMode (roomId : Int) (assigned : List Int) (preserveSelection stores : Bool)
  | leaveRoom
  -- The timers, the mode switch and the disqualification set these and nothing else.
  | setFlags (inExamMode isExamActive isDisqualified : Bool) (assigned : List Int)
  | loadPastCode (sub : PastSubmission) (stores : Bool)
  | reload

def sessionStep (s : Session) : SessionEvent → Session
  | .edit e => { s with editor := editorStep view initialLang s.editor e }
  | .persist stores => persistCurrentCode stores s
  | .setActiveQuestion qId roomId stores =>
      setActiveQuestion view initialLang qId roomId stores s
  | .renderExamMode roomId assigned preserveSelection stores =>
      renderExamMode roomId assigned preserveSelection stores s
  | .leaveRoom => leaveRoom s
  | .setFlags inExamMode isExamActive isDisqualified assigned =>
      { s with
        inExamMode := inExamMode
        isExamActive := isExamActive
        isDisqualified := isDisqualified
        assignedQuestionBank := assigned }
  | .loadPastCode sub stores => loadPastCode view initialLang sub stores s
  | .reload => initialSession view initialLang s.stored

end Handlers

/-! ## Every page that is reached is sound -/

section Sound

variable {view : TextComponent} {initialLang : String} {s : Session}

theorem initialEditor_sound (view : TextComponent) (initialLang : String) :
    EditorSound view (initialEditor view initialLang) := by
  unfold initialEditor
  exact resetWorkspaceFiles_sound _ _ _ _ _ _

theorem syncActiveExamSnapshot_sound (h : EditorSound view s.editor) :
    EditorSound view (syncActiveExamSnapshot s).editor := by
  unfold syncActiveExamSnapshot
  split
  next => exact h
  next => exact getWorkspacePayload_sound h

theorem persistCurrentCode_sound (h : EditorSound view s.editor) (stores : Bool) :
    EditorSound view (persistCurrentCode stores s).editor := by
  unfold persistCurrentCode
  split
  next => exact h
  next => exact syncActiveExamSnapshot_sound (saveActiveFileContent_sound h)

theorem restoreWorkspace_sound (saved : SavedWorkspace) (e : Editor) :
    EditorSound view (restoreWorkspace view initialLang saved e) := by
  have hreset := fun language => resetWorkspaceFiles_sound view language
    (some (saved.files.map .ofFile)) saved.activeFile
  exact (hreset _ _ _).with_entry
    (resolveWorkspaceEntryFile_mem (hreset _ _ _).files.nonempty _ _)

theorem setActiveQuestion_sound (qId : Int) (roomId : Option Int) (stores : Bool) (s : Session) :
    EditorSound view (setActiveQuestion view initialLang qId roomId stores s).editor := by
  unfold setActiveQuestion
  apply syncActiveExamSnapshot_sound
  unfold restoreSavedCode
  split
  next restored hrestored =>
    obtain ⟨saved, -, rfl⟩ := Option.map_eq_some_iff.mp hrestored
    exact restoreWorkspace_sound _ _
  next =>
    dsimp only
    exact resetWorkspaceFiles_sound _ _ _ _ _ _

theorem loadPastCode_sound (initialLang : String) (h : EditorSound view s.editor)
    (sub : PastSubmission) (stores : Bool) :
    EditorSound view (loadPastCode view initialLang sub stores s).editor := by
  unfold loadPastCode
  split
  next => exact h
  next =>
    have hreset := fun e => resetWorkspaceFiles_sound view sub.language
      (some (sub.files.map .ofFile)) ((nonemptyText sub.entryFile).or sub.activeFile)
      (some sub.code) e
    exact (hreset _).with_entry
      (resolveWorkspaceEntryFile_mem (hreset _).files.nonempty _ _)

theorem sessionStep_sound (initialLang : String) (s : Session) (e : SessionEvent)
    (h : EditorSound view s.editor) :
    EditorSound view (sessionStep view initialLang s e).editor := by
  cases e with
  | edit e => exact editorStep_sound h _ _
  | persist stores => exact persistCurrentCode_sound h _
  | setActiveQuestion qId roomId stores => exact setActiveQuestion_sound _ _ _ _
  | renderExamMode roomId assigned preserveSelection stores =>
      rw [sessionStep, renderExamMode]
      split
      next => exact persistCurrentCode_sound h _
      next => exact h
  | leaveRoom => exact h
  | setFlags inExamMode isExamActive isDisqualified assigned => exact h
  | loadPastCode sub stores => exact loadPastCode_sound _ h _ _
  | reload => exact initialEditor_sound _ _

theorem reached_sound (view : TextComponent) (initialLang : String)
    (stored : InsertionMap String SavedWorkspace) (events : List SessionEvent) :
    EditorSound view (events.foldl (sessionStep view initialLang)
      (initialSession view initialLang stored)).editor :=
  foldl_invariant (sessionStep view initialLang) (I := fun s => EditorSound view s.editor)
    (sessionStep_sound initialLang) (initialEditor_sound _ _) events

end Sound

end JudgeVortex.Templates
