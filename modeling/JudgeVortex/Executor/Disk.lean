import JudgeVortex.CoreApi.Workspace
import JudgeVortex.Executor.Workspace
import JudgeVortex.Foundation.FileTree
import JudgeVortex.Foundation.Script
import JudgeVortex.Python.OsPath

/-!
# The workspace on disk

`_normalize_workspace_files` of `executor_service/sandbox.py` on the JSON values of a
queue message, and `_write_workspace_files`, which writes its files below a directory.
-/

namespace JudgeVortex.Executor

open JudgeVortex.CoreApi (WorkspaceFile rawPath)
open JudgeVortex.Foundation JudgeVortex.Python JudgeVortex.Shared

inductive WriteError where
  | keyError
  | typeError
  | unicodeError
  | disk (error : TreeError)
  deriving DecidableEq, Repr

section Reading

variable [PythonRuntime]

def workspaceItems (files : Json) : Except WriteError (List Json) :=
  if files.truthy then
    match files with
    | .arr items => .ok items
    | .obj fields => .ok (fields.map fun entry => .str entry.1)
    | .str s => .ok (s.toList.map fun c => .str c.toString)
    | _ => .error .typeError
  else .ok []

/-- The path and the content of a file as they are sent; what is no object is skipped. -/
def readWorkspaceFile : Json → Option WorkspaceFile
  | .obj fields =>
      some ⟨(rawPath fields).textOrEmpty, (fieldD fields "content" .null).textOrEmpty⟩
  | _ => none

def addRawFile (s : Keyed WorkspaceFile String) (raw : Json) : Keyed WorkspaceFile String :=
  match readWorkspaceFile raw with
  | none => s
  | some file => addWorkspaceFile s file

def normalizeRawFiles (language : String) (code files entryFile : Json) :
    Except WriteError (List WorkspaceFile × String) := do
  let default ← (entryFilenames.lookup language).elim (.error .keyError) .ok
  let entry := (sanitizeRelativeFilePath entryFile.textOrEmpty).getD default
  let items ← workspaceItems files
  let s := items.foldl addRawFile .empty
  pure (if entry ∈ s.seen then s.entries else ⟨entry, code.textOrEmpty⟩ :: s.entries, entry)

theorem foldl_addRawFile (s : Keyed WorkspaceFile String) (items : List Json) :
    items.foldl addRawFile s = (items.filterMap readWorkspaceFile).foldl addWorkspaceFile s := by
  induction items generalizing s with
  | nil => rfl
  | cons raw items ih =>
      rw [List.foldl_cons, ih, addRawFile, List.filterMap_cons]
      cases readWorkspaceFile raw <;> rfl

theorem normalizeRawFiles_eq_ok {language : String} {code files entryFile : Json}
    {result : List WorkspaceFile × String}
    (h : normalizeRawFiles language code files entryFile = .ok result) :
    ∃ items, workspaceItems files = .ok items ∧
      normalizeWorkspaceFiles language code.textOrEmpty (items.filterMap readWorkspaceFile)
        entryFile.textOrEmpty = some result := by
  rw [normalizeRawFiles, bind_eq_ok_iff] at h
  obtain ⟨default, hdefault, h⟩ := h
  obtain ⟨items, hitems, h⟩ := bind_eq_ok_iff.mp h
  cases hlookup : entryFilenames.lookup language with
  | none =>
      rw [hlookup] at hdefault
      cases hdefault
  | some found =>
      rw [hlookup] at hdefault
      cases hdefault
      refine ⟨items, hitems, ?_⟩
      rw [normalizeWorkspaceFiles, hlookup, ← Except.ok.inj h, foldl_addRawFile]

end Reading

/-! ## What the files are -/

structure WorkspaceRead (files : List WorkspaceFile) (entry : String) : Prop where
  safe : ∀ file ∈ files, SafeRelative file.path
  nodup : (files.map WorkspaceFile.path).Nodup
  entry_mem : entry ∈ files.map WorkspaceFile.path

theorem safeRelative_sanitized {text path : String}
    (h : sanitizeRelativeFilePath text = some path) : SafeRelative path :=
  (safePath_spec h).2.1

theorem safe_readableFiles (files : List WorkspaceFile) :
    ∀ file ∈ readableFiles files, SafeRelative file.path := by
  intro file hfile
  obtain ⟨raw, -, hraw⟩ := List.mem_filterMap.mp hfile
  obtain ⟨path, hpath, rfl⟩ := Option.map_eq_some_iff.mp hraw
  exact safeRelative_sanitized hpath

theorem normalizeWorkspaceFiles_read {language code entryFile entry : String}
    {files normalized : List WorkspaceFile}
    (h : normalizeWorkspaceFiles language code files entryFile = some (normalized, entry)) :
    WorkspaceRead normalized entry := by
  rw [normalizeWorkspaceFiles] at h
  split at h
  · cases h
  next default hdefault =>
    have hempty := Keyed.empty_wellFormed WorkspaceFile.path
    have hformed := Keyed.foldl_wellFormed WorkspaceFile.path hempty (readableFiles files)
    have hsafe : ∀ file ∈ (files.foldl addWorkspaceFile .empty).entries,
        SafeRelative file.path := by
      intro file hfile
      rw [foldl_addWorkspaceFile, Keyed.foldl_eq_lastOf _ hempty] at hfile
      have hkey := List.mem_map_of_mem (f := WorkspaceFile.path) hfile
      simp only [Keyed.empty, List.filter_nil, List.nil_append] at hkey
      rw [mem_keys_lastOf] at hkey
      obtain ⟨read, hread, heq⟩ := List.mem_map.mp hkey
      rw [← heq]
      exact safe_readableFiles files read hread
    have hentry : SafeRelative ((sanitizeRelativeFilePath entryFile).getD default) := by
      cases hread : sanitizeRelativeFilePath entryFile with
      | none => exact safeRelative_sanitized (safe_entryFilename hdefault)
      | some path => exact safeRelative_sanitized hread
    rw [foldl_addWorkspaceFile] at h hsafe
    obtain ⟨rfl, rfl⟩ := Prod.mk.inj (Option.some.inj h)
    split
    next hseen =>
      exact ⟨hsafe, hformed.nodup, (hformed.seen_iff _).mp hseen⟩
    next hseen =>
      rw [hformed.seen_iff] at hseen
      refine ⟨?_, ?_, by simp⟩
      · intro file hfile
        rcases List.mem_cons.mp hfile with rfl | hfile
        · exact hentry
        · exact hsafe file hfile
      · rw [List.map_cons, List.nodup_cons]
        exact ⟨hseen, hformed.nodup⟩

/-! ## Writing the files -/

/-- What the operating system takes: paths that may be made, and texts that UTF-8 can
encode. -/
structure FileSystem where
  takes : List String → Bool
  encodes : String → Bool

abbrev DiskTree := FileTree String String

inductive DiskAction where
  | makeDir (path : List String)
  | openFile (path : String)
  deriving DecidableEq, Repr

section Writing

variable (os : FileSystem)

def FileSystem.writtenText : Json → Except WriteError String
  | .str text => if os.encodes text then .ok text else .error .unicodeError
  | _ => .error .typeError

def openAndWrite (tree : DiskTree) (path : String) (value : Json) :
    Script DiskAction WriteError DiskTree := do
  Script.emit (.openFile path)
  let opened ← Script.ofExcept ((writeFile os.takes tree (locate path) "").mapError .disk)
  let text ← Script.ofExcept (os.writtenText value)
  pure (Function.update opened (locate path) (some (.file text)))

def writeWorkspaceFile (baseDir : String) (tree : DiskTree) (file : WorkspaceFile) :
    Script DiskAction WriteError DiskTree := do
  let filePath := osPathJoin baseDir file.path
  let tree ← (makeDirs os.takes tree [] (locate (osPathDirname filePath))).relabel .makeDir .disk
  openAndWrite os tree filePath (.str file.content)

def writeFiles (baseDir : String) (tree : DiskTree) :
    List WorkspaceFile → Script DiskAction WriteError DiskTree
  | [] => pure tree
  | file :: rest => do
      let tree ← writeWorkspaceFile os baseDir tree file
      writeFiles baseDir tree rest

def setupFile : String := "setup.sql"

/-- The input of an SQL job is the script that prepares its database. -/
def writeSetupFile (baseDir : String) (tree : DiskTree) (language : String)
    (inputData : Json) : Script DiskAction WriteError DiskTree :=
  if language = "sql" then
    openAndWrite os tree (osPathJoin baseDir setupFile) (inputData.orElse (.str ""))
  else pure tree

def writeWorkspaceFiles [PythonRuntime] (baseDir : String) (tree : DiskTree)
    (language : String) (code files entryFile inputData : Json) :
    Script DiskAction WriteError (String × DiskTree) := do
  let (normalized, entry) ← Script.ofExcept (normalizeRawFiles language code files entryFile)
  let tree ← writeFiles os baseDir tree normalized
  let tree ← writeSetupFile os baseDir tree language inputData
  pure (entry, tree)

end Writing

/-! ## Where the files go -/

theorem locate_safe (baseDir : String) {rel : String} (h : SafeRelative rel) :
    locate (osPathJoin baseDir rel) = locate baseDir ++ splitChar '/' rel :=
  locate_osPathJoin baseDir h.relative h.components

theorem safeRelative_of_parts {parts : List String} (hne : parts ≠ [])
    (hslash : ∀ part ∈ parts, '/' ∉ part.toList)
    (h : ∀ part ∈ parts, part ≠ "" ∧ part ≠ "." ∧ part ≠ "..") :
    SafeRelative (join "/" parts) ∧ splitChar '/' (join "/" parts) = parts := by
  have hsplit : splitChar '/' (join "/" parts) = parts := splitChar_join hne hslash
  refine ⟨⟨?_, ?_, by rwa [hsplit]⟩, hsplit⟩
  · intro hempty
    rw [hempty] at hsplit
    exact (h "" (by rw [← hsplit]; decide)).1 rfl
  · by_contra hstarts
    rw [startsWithChar, Bool.not_eq_false, beq_iff_eq, List.head?_eq_some_iff] at hstarts
    obtain ⟨rest, hrest⟩ := hstarts
    have hpath : join "/" parts = "" ++ ('/' : Char).toString ++ .ofList rest := by
      apply String.toList_injective
      rw [hrest]
      simp
    rw [hpath, splitChar_append] at hsplit
    exact (h "" (by rw [← hsplit]; simp [splitChar])).1 rfl

theorem exists_parts (rel : String) : ∃ dirs name, splitChar '/' rel = dirs ++ [name] := by
  obtain h | ⟨dirs, name, h⟩ := List.eq_nil_or_concat' (splitChar '/' rel)
  · exact absurd h (splitChar_ne_nil _ _)
  · exact ⟨dirs, name, h⟩

/-- What lies strictly below the directory: its path is the directory's path joined with
a safe relative one. -/
def Inside (baseDir path : String) : Prop :=
  ∃ rel, SafeRelative rel ∧ path = osPathJoin baseDir rel ∧
    ProperPrefix (locate baseDir) (locate path)

theorem inside_join (baseDir : String) {rel : String} (h : SafeRelative rel) :
    Inside baseDir (osPathJoin baseDir rel) := by
  refine ⟨rel, h, rfl, ?_⟩
  rw [locate_safe baseDir h]
  refine ⟨List.prefix_append _ _, fun heq => ?_⟩
  exact splitChar_ne_nil '/' rel (List.self_eq_append_right.mp heq)

def StaysInside (baseDir : String) : DiskAction → Prop
  | .openFile path => Inside baseDir path
  | .makeDir path => ∃ dir, Inside baseDir dir ∧ path = locate dir

variable {os : FileSystem} {baseDir : String} {tree after : DiskTree}

theorem log_openAndWrite (tree : DiskTree) (path : String) (value : Json) :
    ∀ action ∈ (openAndWrite os tree path value).log, action = .openFile path := by
  rw [openAndWrite]
  refine Script.forall_log_bind (by simp) fun _ _ => ?_
  refine Script.forall_log_bind (by simp) fun _ _ => ?_
  exact Script.forall_log_bind (by simp) (by simp)

theorem makeDir_inside {rel : String} (h : SafeRelative rel) {dirs q : List String}
    {name : String} (hparts : splitChar '/' rel = dirs ++ [name]) (hq : q ≠ [])
    (habove : q <+: dirs) : StaysInside baseDir (.makeDir (locate baseDir ++ q)) := by
  have hmem : ∀ part ∈ q, part ∈ splitChar '/' rel := by
    intro part hpart
    rw [hparts]
    exact List.mem_append_left _ (habove.subset hpart)
  obtain ⟨hsafe, hsplit⟩ := safeRelative_of_parts hq
    (fun part hpart => not_mem_of_mem_splitChar (hmem part hpart))
    (fun part hpart => h.components part (hmem part hpart))
  exact ⟨_, inside_join baseDir hsafe, by rw [locate_safe baseDir hsafe, hsplit]⟩

theorem dirname_safe (baseDir : String) {rel : String} (h : SafeRelative rel)
    {dirs : List String} {name : String} (hparts : splitChar '/' rel = dirs ++ [name]) :
    locate (osPathDirname (osPathJoin baseDir rel)) = locate baseDir ++ dirs :=
  locate_osPathDirname_join baseDir h.relative h.components hparts

theorem openAndWrite_ok_iff {path : String} {value : Json} :
    (openAndWrite os tree path value).result = .ok after ↔
      ∃ opened text, writeFile os.takes tree (locate path) "" = .ok opened ∧
        os.writtenText value = .ok text ∧
        after = Function.update tree (locate path) (some (.file text)) := by
  rw [openAndWrite, Script.bind_of_ok (Script.result_emit _)]
  simp only [Script.result_bind_ok_iff, Script.result_ofExcept]
  constructor
  · rintro ⟨opened, hopened, text, htext, h⟩
    cases hwrite : writeFile os.takes tree (locate path) "" with
    | error error =>
        rw [hwrite] at hopened
        cases hopened
    | ok written =>
        rw [hwrite] at hopened
        cases hopened
        rw [Script.result_pure, writeFile_eq_ok hwrite, Function.update_idem] at h
        exact ⟨opened, text, rfl, htext, (Except.ok.inj h).symm⟩
  · rintro ⟨opened, text, hopened, htext, rfl⟩
    refine ⟨opened, by rw [hopened]; rfl, text, htext, ?_⟩
    rw [Script.result_pure, writeFile_eq_ok hopened, Function.update_idem]

theorem stands_openAndWrite {path : String} {rel : List String} {value : Json}
    (h : Stands tree (locate baseDir)) (hrel : rel ≠ [])
    (hpath : locate path = locate baseDir ++ rel)
    (hresult : (openAndWrite os tree path value).result = .ok after) :
    Stands after (locate baseDir) := by
  obtain ⟨opened, text, -, -, rfl⟩ := openAndWrite_ok_iff.mp hresult
  rw [hpath]
  exact h.update hrel _

variable (os) in
theorem writeWorkspaceFile_inside (h : Stands tree (locate baseDir)) {file : WorkspaceFile}
    (hsafe : SafeRelative file.path) :
    (∀ action ∈ (writeWorkspaceFile os baseDir tree file).log, StaysInside baseDir action) ∧
      ∀ after, (writeWorkspaceFile os baseDir tree file).result = .ok after →
        Stands after (locate baseDir) := by
  obtain ⟨dirs, name, hparts⟩ := exists_parts file.path
  have hfile := locate_safe baseDir hsafe
  rw [writeWorkspaceFile, dirname_safe baseDir hsafe hparts, h.makeDirs_eq]
  constructor
  · refine Script.forall_log_bind ?_ fun mid _ action haction => ?_
    · intro action haction
      obtain ⟨made, hmade, rfl⟩ := List.mem_map.mp haction
      obtain ⟨q, hq, habove, rfl⟩ := makeDirs_log made hmade
      exact makeDir_inside hsafe hparts hq habove
    · rw [log_openAndWrite mid _ _ action haction]
      exact inside_join baseDir hsafe
  · intro after hresult
    obtain ⟨mid, hmid, hwrite⟩ := Script.result_bind_ok_iff.mp hresult
    rw [makeDirs_result (Script.result_relabel_ok_iff.mp hmid)] at hwrite
    exact stands_openAndWrite (h.addDirs dirs) (splitChar_ne_nil _ _) hfile hwrite

theorem writeFiles_inside (h : Stands tree (locate baseDir)) {files : List WorkspaceFile}
    (hsafe : ∀ file ∈ files, SafeRelative file.path) :
    ∀ action ∈ (writeFiles os baseDir tree files).log, StaysInside baseDir action := by
  induction files generalizing tree with
  | nil => simp [writeFiles]
  | cons file files ih =>
      obtain ⟨hfile, hafter⟩ := writeWorkspaceFile_inside os h (hsafe file (by simp))
      rw [writeFiles]
      refine Script.forall_log_bind hfile fun after hresult => ?_
      exact ih (hafter after hresult) fun file hmem => hsafe file (by simp [hmem])

theorem safeRelative_setupFile : SafeRelative setupFile := by
  have hname : splitChar '/' setupFile = [setupFile] := by decide
  refine ⟨by decide, by decide, ?_⟩
  rw [hname]
  simp [setupFile]

theorem normalizeRawFiles_read [PythonRuntime] {language entry : String}
    {code files entryFile : Json} {normalized : List WorkspaceFile}
    (h : normalizeRawFiles language code files entryFile = .ok (normalized, entry)) :
    WorkspaceRead normalized entry := by
  obtain ⟨items, -, hread⟩ := normalizeRawFiles_eq_ok h
  exact normalizeWorkspaceFiles_read hread

theorem writes_stay_inside [PythonRuntime] :
    (∀ (os : FileSystem) (baseDir : String) (tree : DiskTree) (language : String)
      (code files entryFile inputData : Json), Stands tree (locate baseDir) →
      ∀ action ∈ (writeWorkspaceFiles os baseDir tree language code files entryFile
        inputData).log, StaysInside baseDir action) ∧
    ∀ (value : Json) (path : String), CoreApi.sanitizeRelativeFilePath value = some path →
      SafeRelative path ∧ path.length ≤ CoreApi.maxFilePathLength := by
  refine ⟨?_, fun value path h => CoreApi.sanitizeRelativeFilePath_safe h⟩
  intro os baseDir tree language code files entryFile inputData hstands
  rw [writeWorkspaceFiles]
  refine Script.forall_log_bind (by simp) fun read hread => ?_
  obtain ⟨normalized, entry⟩ := read
  have hsafe := (normalizeRawFiles_read hread).safe
  refine Script.forall_log_bind (writeFiles_inside hstands hsafe) fun tree _ => ?_
  refine Script.forall_log_bind ?_ fun _ _ => by simp
  rw [writeSetupFile]
  split
  · intro action haction
    rw [log_openAndWrite _ _ _ action haction]
    exact inside_join baseDir safeRelative_setupFile
  · simp

def boxTree : DiskTree := fun path =>
  if path = [] ∨ path = ["box"] then some .directory else none

def plainDisk : FileSystem := ⟨fun _ => true, fun _ => true⟩

theorem stands_boxTree : Stands boxTree (locate "/box") := by
  have hbase : locate "/box" = ["box"] := by decide
  intro q hq
  rw [hbase] at hq
  rcases List.prefix_cons_iff.mp hq with rfl | ⟨rest, rfl, hrest⟩
  · rfl
  · rw [List.prefix_nil.mp hrest]
    rfl

theorem writes_stay_inside_box :
    let _ := plainRuntime
    ∀ action ∈ (writeWorkspaceFiles plainDisk "/box" boxTree "python" (.str "pass")
      (.arr [.obj [("path", .str "../a"), ("content", .str "")],
        .obj [("name", .str "/src\\b.py")]]) .null .null).log,
      StaysInside "/box" action :=
  let _ := plainRuntime
  writes_stay_inside.1 plainDisk "/box" boxTree "python" _ _ _ _ stands_boxTree

/-! ## What the files hold -/

structure Fresh (tree : DiskTree) (base : List String) : Prop where
  stands : Stands tree base
  empty : ∀ rel, rel ≠ [] → tree (base ++ rel) = none

abbrev filePut (file : WorkspaceFile) : List String × String :=
  (splitChar '/' file.path, file.content)

section Step

variable {files : List String → Option String} {base dirs : List String} {name : String}
  {path : String} {value : Json}

theorem openAndWrite_ok (h : Holds os.takes tree base files)
    (hpath : locate path = base ++ (dirs ++ [name]))
    (hw : Writable os.takes base files (dirs ++ [name])) {text : String}
    (htext : os.writtenText value = .ok text) :
    ∃ after, (openAndWrite os (addDirs tree base dirs) path value).result = .ok after ∧
      Holds os.takes after base (Function.update files (dirs ++ [name]) (some text)) := by
  have hopened := h.writeFile_ok hw ""
  have hput := h.put hw text
  rw [← hpath] at hopened hput
  exact ⟨_, openAndWrite_ok_iff.mpr ⟨_, text, hopened, htext, rfl⟩, hput⟩

theorem writable_of_openAndWrite (h : Holds os.takes tree base files)
    (hpath : locate path = base ++ (dirs ++ [name])) {mid : DiskTree}
    (hdirs : (makeDirs os.takes tree [] (base ++ dirs)).result = .ok mid)
    (hresult : (openAndWrite os mid path value).result = .ok after) :
    Writable os.takes base files (dirs ++ [name]) ∧
      ∃ text, os.writtenText value = .ok text := by
  obtain ⟨opened, text, hopened, htext, -⟩ := openAndWrite_ok_iff.mp hresult
  rw [hpath] at hopened
  exact ⟨h.writable_of_put hdirs hopened, text, htext⟩

end Step

section Loop

variable {files : List String → Option String}

theorem writtenText_str_ok_iff {text written : String} :
    os.writtenText (.str text) = .ok written ↔ os.encodes text = true ∧ written = text := by
  rw [FileSystem.writtenText]
  split
  next h => simp [h, eq_comm]
  next h => simp [h]

theorem writeWorkspaceFile_ok (h : Holds os.takes tree (locate baseDir) files)
    {file : WorkspaceFile} (hsafe : SafeRelative file.path)
    (hw : Writable os.takes (locate baseDir) files (splitChar '/' file.path))
    (hencodes : os.encodes file.content = true) :
    ∃ after, (writeWorkspaceFile os baseDir tree file).result = .ok after ∧
      Holds os.takes after (locate baseDir)
        (Function.update files (splitChar '/' file.path) (some file.content)) := by
  obtain ⟨dirs, name, hparts⟩ := exists_parts file.path
  have hfile := locate_safe baseDir hsafe
  rw [hparts] at hfile hw
  obtain ⟨after, hafter, hholds⟩ := openAndWrite_ok h hfile hw
    (writtenText_str_ok_iff.mpr ⟨hencodes, rfl⟩)
  rw [hparts]
  refine ⟨after, ?_, hholds⟩
  rw [writeWorkspaceFile, dirname_safe baseDir hsafe hparts, Script.result_bind_ok_iff]
  exact ⟨_, Script.result_relabel_ok_iff.mpr (h.makeDirs_ok hw), hafter⟩

theorem writeWorkspaceFile_holds (h : Holds os.takes tree (locate baseDir) files)
    {file : WorkspaceFile} (hsafe : SafeRelative file.path)
    (hresult : (writeWorkspaceFile os baseDir tree file).result = .ok after) :
    (Writable os.takes (locate baseDir) files (splitChar '/' file.path) ∧
      os.encodes file.content = true) ∧
      Holds os.takes after (locate baseDir)
        (Function.update files (splitChar '/' file.path) (some file.content)) := by
  suffices hw : Writable os.takes (locate baseDir) files (splitChar '/' file.path) ∧
      os.encodes file.content = true by
    obtain ⟨next, hnext, hholds⟩ := writeWorkspaceFile_ok h hsafe hw.1 hw.2
    obtain rfl : after = next := Except.ok.inj (hresult.symm.trans hnext)
    exact ⟨hw, hholds⟩
  obtain ⟨dirs, name, hparts⟩ := exists_parts file.path
  have hfile := locate_safe baseDir hsafe
  rw [hparts] at hfile ⊢
  rw [writeWorkspaceFile, dirname_safe baseDir hsafe hparts, Script.result_bind_ok_iff] at hresult
  obtain ⟨mid, hmid, hresult⟩ := hresult
  obtain ⟨hw, text, htext⟩ := writable_of_openAndWrite h hfile
    (Script.result_relabel_ok_iff.mp hmid) hresult
  exact ⟨hw, (writtenText_str_ok_iff.mp htext).1⟩

variable (os) in
theorem writeFiles_ok_iff (h : Holds os.takes tree (locate baseDir) files)
    {rest : List WorkspaceFile} (hsafe : ∀ file ∈ rest, SafeRelative file.path) :
    (∃ after, (writeFiles os baseDir tree rest).result = .ok after) ↔
      WritableAll os.takes (locate baseDir) files (rest.map filePut) ∧
        ∀ file ∈ rest, os.encodes file.content = true := by
  induction rest generalizing tree files with
  | nil =>
      refine ⟨fun _ => ⟨⟨?_, ?_, ?_, ?_⟩, ?_⟩, fun _ => ⟨tree, rfl⟩⟩ <;> simp
  | cons file rest ih =>
      have hfile := hsafe file (by simp)
      have hrest : ∀ file ∈ rest, SafeRelative file.path :=
        fun file hmem => hsafe file (by simp [hmem])
      rw [List.map_cons, writableAll_cons_iff]
      simp only [writeFiles, Script.result_bind_ok_iff, List.mem_cons, forall_eq_or_imp]
      constructor
      · rintro ⟨after, mid, hmid, hafter⟩
        obtain ⟨⟨hw, hencodes⟩, hholds⟩ := writeWorkspaceFile_holds h hfile hmid
        obtain ⟨hall, hencoded⟩ := (ih hholds hrest).mp ⟨after, hafter⟩
        exact ⟨⟨hw, hall⟩, hencodes, hencoded⟩
      · rintro ⟨⟨hw, hall⟩, hencodes, hencoded⟩
        obtain ⟨mid, hmid, hholds⟩ := writeWorkspaceFile_ok h hfile hw hencodes
        obtain ⟨after, hafter⟩ := (ih hholds hrest).mpr ⟨hall, hencoded⟩
        exact ⟨after, mid, hmid, hafter⟩

theorem writeFiles_holds (h : Holds os.takes tree (locate baseDir) files)
    {rest : List WorkspaceFile} (hsafe : ∀ file ∈ rest, SafeRelative file.path)
    (hresult : (writeFiles os baseDir tree rest).result = .ok after) :
    Holds os.takes after (locate baseDir) (listing files (rest.map filePut)) := by
  induction rest generalizing tree files with
  | nil =>
      cases hresult
      exact h
  | cons file rest ih =>
      rw [writeFiles, Script.result_bind_ok_iff] at hresult
      obtain ⟨mid, hmid, hafter⟩ := hresult
      obtain ⟨-, hholds⟩ := writeWorkspaceFile_holds h (hsafe file (by simp)) hmid
      exact ih hholds (fun file hmem => hsafe file (by simp [hmem])) hafter

end Loop

/-- The listed paths can be made, none lies below another, and the setup file of an SQL
job takes no listed path with another content. -/
structure Compatible (os : FileSystem) (baseDir language : String)
    (normalized : List WorkspaceFile) (inputData : Json) : Prop where
  taken : ∀ file ∈ normalized, ∀ q, q ≠ [] → q <+: splitChar '/' file.path →
    os.takes (locate baseDir ++ q) = true
  encoded : ∀ file ∈ normalized, os.encodes file.content = true
  apart : ∀ file ∈ normalized, ∀ other ∈ normalized,
    ¬ ProperPrefix (splitChar '/' file.path) (splitChar '/' other.path)
  setup : language = "sql" → ∃ text, os.writtenText (inputData.orElse (.str "")) = .ok text ∧
    os.takes (locate baseDir ++ [setupFile]) = true ∧
    (∀ file ∈ normalized, ¬ ProperPrefix [setupFile] (splitChar '/' file.path)) ∧
    ∀ file ∈ normalized, file.path = setupFile → file.content = text

def Written [PythonRuntime] (os : FileSystem) (baseDir : String) (tree : DiskTree)
    (language : String) (code files entryFile inputData : Json)
    (normalized : List WorkspaceFile) (entry : String) : Prop :=
  ∃ after, (writeWorkspaceFiles os baseDir tree language code files entryFile
      inputData).result = .ok (entry, after) ∧
    ∀ file ∈ normalized,
      after (locate (osPathJoin baseDir file.path)) = some (.file file.content)

theorem splitChar_injective {a b : String} (h : splitChar '/' a = splitChar '/' b) : a = b := by
  rw [← join_splitChar '/' a, h, join_splitChar]

theorem Fresh.holds {base : List String} (h : Fresh tree base) (takes : List String → Bool) :
    Holds takes tree base fun _ => none :=
  holds_empty h.stands h.empty

theorem writableAll_fresh_iff {base : List String} {takes : List String → Bool}
    {normalized : List WorkspaceFile} :
    WritableAll takes base (fun _ => none) (normalized.map filePut) ↔
      (∀ file ∈ normalized, ∀ q, q ≠ [] → q <+: splitChar '/' file.path →
        takes (base ++ q) = true) ∧
      ∀ file ∈ normalized, ∀ other ∈ normalized,
        ¬ ProperPrefix (splitChar '/' file.path) (splitChar '/' other.path) := by
  constructor
  · rintro ⟨htaken, -, -, hapart⟩
    simp only [List.forall_mem_map] at htaken hapart
    exact ⟨htaken, hapart⟩
  · rintro ⟨htaken, hapart⟩
    constructor <;> simp only [List.forall_mem_map]
    · exact htaken
    · simp
    · simp
    · exact hapart

section Outcome

variable {normalized : List WorkspaceFile} {entry language : String} {inputData : Json}

abbrev listed (normalized : List WorkspaceFile) : List String → Option String :=
  listing (fun _ => none) (normalized.map filePut)

theorem listed_of_mem (hread : WorkspaceRead normalized entry) {file : WorkspaceFile}
    (h : file ∈ normalized) : listed normalized (splitChar '/' file.path) = some file.content := by
  have hput : filePut file ∈ normalized.map filePut := List.mem_map_of_mem h
  refine listing_of_mem ?_ hput
  rw [List.map_map]
  have hkeys : (normalized.map (Prod.fst ∘ filePut)) =
      (normalized.map WorkspaceFile.path).map (splitChar '/') := by
    rw [List.map_map]
    rfl
  rw [hkeys]
  exact hread.nodup.map fun a b => splitChar_injective

theorem isSome_listed_iff {rel : List String} :
    (listed normalized rel).isSome ↔ ∃ file ∈ normalized, splitChar '/' file.path = rel := by
  rw [listed, isSome_listing_iff, List.map_map]
  simp

theorem writable_setup_iff (base : List String)
    (takes : List String → Bool) :
    Writable takes base (listed normalized) [setupFile] ↔ takes (base ++ [setupFile]) = true ∧
      ∀ file ∈ normalized, ¬ ProperPrefix [setupFile] (splitChar '/' file.path) := by
  constructor
  · rintro ⟨htaken, habove, -⟩
    refine ⟨htaken _ (by simp) (List.prefix_refl _), fun file hfile => ?_⟩
    exact habove _ (isSome_listed_iff.mpr ⟨file, hfile, rfl⟩)
  · rintro ⟨htaken, habove⟩
    constructor
    · intro q hq habove
      obtain rfl | ⟨q, rfl, hnil⟩ := List.prefix_cons_iff.mp habove
      · exact absurd rfl hq
      · rwa [List.prefix_nil.mp hnil]
    · intro r hr
      obtain ⟨file, hfile, rfl⟩ := isSome_listed_iff.mp hr
      exact habove file hfile
    · rintro r hr ⟨habove, hne⟩
      obtain rfl | ⟨q, rfl, hnil⟩ := List.prefix_cons_iff.mp habove
      · obtain ⟨file, -, hfile⟩ := isSome_listed_iff.mp hr
        exact splitChar_ne_nil _ _ hfile
      · exact hne (by rw [List.prefix_nil.mp hnil])

theorem locate_setupFile (baseDir : String) :
    locate (osPathJoin baseDir setupFile) = locate baseDir ++ ([] ++ [setupFile]) := by
  have hname : splitChar '/' setupFile = [setupFile] := by decide
  rw [locate_safe baseDir safeRelative_setupFile, hname, List.nil_append]

theorem setupFile_ok {value : Json} {text : String}
    (h : Holds os.takes tree (locate baseDir) (listed normalized))
    (hw : Writable os.takes (locate baseDir) (listed normalized) [setupFile])
    (htext : os.writtenText value = .ok text) :
    ∃ after, (openAndWrite os tree (osPathJoin baseDir setupFile) value).result = .ok after ∧
      Holds os.takes after (locate baseDir)
        (Function.update (listed normalized) [setupFile] (some text)) :=
  openAndWrite_ok h (locate_setupFile baseDir) hw htext

theorem setupFile_holds {value : Json}
    (h : Holds os.takes tree (locate baseDir) (listed normalized))
    (hresult : (openAndWrite os tree (osPathJoin baseDir setupFile) value).result = .ok after) :
    ∃ text, os.writtenText value = .ok text ∧
      Writable os.takes (locate baseDir) (listed normalized) [setupFile] ∧
      Holds os.takes after (locate baseDir)
        (Function.update (listed normalized) [setupFile] (some text)) := by
  have hdirs : (makeDirs os.takes tree [] (locate baseDir ++ [])).result = .ok tree := by
    rw [h.above.makeDirs_eq]
    rfl
  obtain ⟨hw, text, htext⟩ := writable_of_openAndWrite h (locate_setupFile baseDir) hdirs hresult
  obtain ⟨next, hnext, hholds⟩ := setupFile_ok h hw htext
  obtain rfl : after = next := Except.ok.inj (hresult.symm.trans hnext)
  exact ⟨text, htext, hw, hholds⟩

/-- The setup file leaves the listed files alone exactly if it is none of them, or holds
what it held. -/
theorem setup_kept_iff (h : Holds os.takes tree (locate baseDir) (listed normalized))
    (hread : WorkspaceRead normalized entry) (language : String) (inputData : Json) :
    (∃ after, (writeSetupFile os baseDir tree language inputData).result = .ok after ∧
      ∀ file ∈ normalized,
        after (locate (osPathJoin baseDir file.path)) = some (.file file.content)) ↔
    (language = "sql" → ∃ text, os.writtenText (inputData.orElse (.str "")) = .ok text ∧
      os.takes (locate baseDir ++ [setupFile]) = true ∧
      (∀ file ∈ normalized, ¬ ProperPrefix [setupFile] (splitChar '/' file.path)) ∧
      ∀ file ∈ normalized, file.path = setupFile → file.content = text) := by
  have hname : splitChar '/' setupFile = [setupFile] := by decide
  rw [writeSetupFile]
  split
  next hsql =>
    simp only [hsql, true_implies]
    constructor
    · rintro ⟨after, hresult, hkept⟩
      obtain ⟨text, htext, hw, hholds⟩ := setupFile_holds h hresult
      obtain ⟨htaken, hbelow⟩ := (writable_setup_iff _ _).mp hw
      refine ⟨text, htext, htaken, hbelow, fun file hfile hpath => ?_⟩
      have hcontent := hkept file hfile
      rw [locate_safe baseDir (hread.safe file hfile), hpath, hname,
        hholds.file_iff _ (by simp), Function.update_self] at hcontent
      exact (Option.some.inj hcontent).symm
    · rintro ⟨text, htext, htaken, hbelow, hsame⟩
      have hw := (writable_setup_iff _ _).mpr ⟨htaken, hbelow⟩
      obtain ⟨after, hafter, hholds⟩ := setupFile_ok h hw htext
      refine ⟨after, hafter, fun file hfile => ?_⟩
      rw [locate_safe baseDir (hread.safe file hfile), hholds.file_iff _ (splitChar_ne_nil _ _)]
      by_cases hpath : file.path = setupFile
      · rw [hpath, hname, Function.update_self, hsame file hfile hpath]
      · rw [Function.update_of_ne fun heq => hpath (splitChar_injective (heq.trans hname.symm))]
        exact listed_of_mem hread hfile
  next hsql =>
    simp only [hsql, false_implies, iff_true]
    refine ⟨tree, rfl, fun file hfile => ?_⟩
    rw [locate_safe baseDir (hread.safe file hfile), h.file_iff _ (splitChar_ne_nil _ _)]
    exact listed_of_mem hread hfile

theorem workspace_written_iff [PythonRuntime] {code files entryFile : Json}
    (hfresh : Fresh tree (locate baseDir))
    (hread : normalizeRawFiles language code files entryFile = .ok (normalized, entry)) :
    Written os baseDir tree language code files entryFile inputData normalized entry ↔
      Compatible os baseDir language normalized inputData := by
  have hworkspace := normalizeRawFiles_read hread
  have hloop := writeFiles_ok_iff os (hfresh.holds os.takes) hworkspace.safe
  rw [writableAll_fresh_iff] at hloop
  have hsetup : ∀ mid, (writeFiles os baseDir tree normalized).result = .ok mid → _ :=
    fun mid hmid => setup_kept_iff (writeFiles_holds (hfresh.holds os.takes) hworkspace.safe hmid)
      hworkspace language inputData
  have hwrite : ∀ after, (writeWorkspaceFiles os baseDir tree language code files entryFile
        inputData).result = .ok (entry, after) ↔
      ∃ mid, (writeFiles os baseDir tree normalized).result = .ok mid ∧
        (writeSetupFile os baseDir mid language inputData).result = .ok after := by
    intro after
    rw [writeWorkspaceFiles, hread, Script.ofExcept_ok_bind]
    simp [Script.result_bind_ok_iff]
  constructor
  · rintro ⟨after, hresult, hkept⟩
    obtain ⟨mid, hmid, hafter⟩ := (hwrite after).mp hresult
    obtain ⟨⟨htaken, hapart⟩, hencoded⟩ := hloop.mp ⟨mid, hmid⟩
    exact ⟨htaken, hencoded, hapart, (hsetup mid hmid).mp ⟨after, hafter, hkept⟩⟩
  · rintro ⟨htaken, hencoded, hapart, hsql⟩
    obtain ⟨mid, hmid⟩ := hloop.mpr ⟨⟨htaken, hapart⟩, hencoded⟩
    obtain ⟨after, hafter, hkept⟩ := (hsetup mid hmid).mpr hsql
    exact ⟨after, (hwrite after).mpr ⟨mid, hmid, hafter⟩, hkept⟩

end Outcome

theorem fresh_boxTree : Fresh boxTree (locate "/box") where
  stands := stands_boxTree
  empty := by
    have hbase : locate "/box" = ["box"] := by decide
    intro rel hrel
    rw [hbase, boxTree, if_neg (by simpa using hrel)]

theorem workspace_written_two_files :
    let _ := plainRuntime
    Written plainDisk "/box" boxTree "python" (.str "pass")
        (.arr [.obj [("path", .str "lib/a.py"), ("content", .str "x = 1")]]) .null .null
        [⟨"main.py", "pass"⟩, ⟨"lib/a.py", "x = 1"⟩] "main.py" ↔
      Compatible plainDisk "/box" "python" [⟨"main.py", "pass"⟩, ⟨"lib/a.py", "x = 1"⟩] .null :=
  let _ := plainRuntime
  workspace_written_iff fresh_boxTree (by decide +kernel)

def nestedFiles : Json :=
  .arr [.obj [("path", .str "a"), ("content", .str "1")],
    .obj [("path", .str "a/b"), ("content", .str "2")]]

/-- A file cannot be written below another file; and the setup file of an SQL job takes
the place of an entry file of that name. -/
theorem workspace_not_written :
    let _ := plainRuntime
    (normalizeRawFiles "python" (.str "pass") nestedFiles .null =
        .ok ([⟨"main.py", "pass"⟩, ⟨"a", "1"⟩, ⟨"a/b", "2"⟩], "main.py") ∧
      ¬ Written plainDisk "/box" boxTree "python" (.str "pass") nestedFiles .null .null
        [⟨"main.py", "pass"⟩, ⟨"a", "1"⟩, ⟨"a/b", "2"⟩] "main.py") ∧
    normalizeRawFiles "sql" (.str "SELECT 1") .null (.str "setup.sql") =
        .ok ([⟨"setup.sql", "SELECT 1"⟩], "setup.sql") ∧
      ¬ Written plainDisk "/box" boxTree "sql" (.str "SELECT 1") .null (.str "setup.sql") .null
        [⟨"setup.sql", "SELECT 1"⟩] "setup.sql" := by
  intro _
  refine ⟨⟨by decide +kernel, ?_⟩, by decide +kernel, ?_⟩
  · rintro ⟨after, hresult, -⟩
    have hfails : (writeWorkspaceFiles plainDisk "/box" boxTree "python" (.str "pass")
        nestedFiles .null .null).result.toOption.isNone = true := by decide +kernel
    rw [hresult] at hfails
    cases hfails
  · rintro ⟨after, hresult, hkept⟩
    have hsetup : (writeWorkspaceFiles plainDisk "/box" boxTree "sql" (.str "SELECT 1") .null
        (.str "setup.sql") .null).result.toOption.map (fun result =>
          result.2 (locate (osPathJoin "/box" "setup.sql"))) = some (some (.file "")) := by
      decide +kernel
    have hcontent := hkept ⟨"setup.sql", "SELECT 1"⟩ (by simp)
    rw [hresult] at hsetup
    simp [Except.toOption, hcontent] at hsetup

end JudgeVortex.Executor
