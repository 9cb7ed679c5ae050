import JudgeVortex.CoreApi.Models
import JudgeVortex.Foundation.LastWins
import JudgeVortex.Python.Value
import JudgeVortex.Shared.Paths

/-!
# The submitted workspace

How `core_api/views.py` reads the files, the entry file and the language of a
submission: `sanitize_relative_file_path`, `normalize_submission_files`,
`validate_submission_language`.
-/

namespace JudgeVortex.CoreApi

open JudgeVortex.Foundation JudgeVortex.Python JudgeVortex.Shared

inductive RequestError where
  | validation (field message : String)
  | notFound
  | unavailable (detail : String)
  | raised
  deriving DecidableEq, Repr

def maxSubmissionFiles : Nat := 32

def maxFilePathLength : Nat := 180

def languageEntryFiles : List (String × String) :=
  [("python", "main.py"), ("javascript", "main.js"), ("ruby", "main.rb"),
    ("php", "main.php"), ("cpp", "main.cpp"), ("c", "main.c"), ("go", "main.go"),
    ("rust", "main.rs"), ("java", "Main.java"), ("typescript", "main.ts"),
    ("sql", "query.sql")]

def entryFileLanguageByExtension : List (String × String) :=
  [(".py", "python"), (".cpp", "cpp"), (".cc", "cpp"), (".cxx", "cpp"), (".c", "c"),
    (".java", "java"), (".js", "javascript"), (".ts", "typescript"), (".rb", "ruby"),
    (".go", "go"), (".rs", "rust"), (".php", "php"), (".sql", "sql")]

structure Workspace where
  files : List WorkspaceFile
  entryFile : String
  code : String
  deriving DecidableEq, Repr

abbrev FileSet := Keyed WorkspaceFile String

section Reading

variable [PythonRuntime]

def getDefaultEntryFile (language : Json) : String :=
  (languageEntryFiles.lookup (lower (strip language.textOrEmpty))).getD "main.txt"

def sanitizeRelativeFilePath (value : Json) : Option String :=
  safePath (some maxFilePathLength) value.textOrEmpty

/-- The start of the two payload readers: a JSON text is parsed, nothing is no entries. -/
def parseArray (field invalid notArray : String) (payload : Json) :
    Except RequestError (List Json) :=
  let entries : Json → Except RequestError (List Json)
    | .null => .ok []
    | .str "" => .ok []
    | .arr items => .ok items
    | _ => .error (.validation field notArray)
  match payload with
  | .str s =>
      match PythonRuntime.loads s with
      | .error (.decode text) => .error (.validation field (invalid ++ text))
      | .error .other => .error .raised
      | .ok parsed => entries parsed
  | payload => entries payload

def parseFiles : Json → Except RequestError (List Json) :=
  parseArray "files" "Invalid files payload: " "Files payload must be an array of objects."

def rawPath (fields : Dict) : Json :=
  (fieldD fields "path" .null).orElse (fieldD fields "name" .null)

def pathOf : Json → Json
  | .obj fields => rawPath fields
  | _ => .null

def readFile : Json → Except RequestError WorkspaceFile
  | .obj fields =>
      match sanitizeRelativeFilePath (rawPath fields) with
      | none => .error (.validation "files" "Each file must use a safe relative path.")
      | some path => .ok ⟨path, (fieldD fields "content" .null).textOrEmpty⟩
  | _ => .error (.validation "files" "Each file entry must be an object.")

def addFiles : FileSet → List Json → Except RequestError FileSet
  | s, [] => .ok s
  | s, raw :: rest =>
      match readFile raw with
      | .error error => .error error
      | .ok file => addFiles (s.add WorkspaceFile.path file) rest

def resolveEntryFile (requested : Option String) (default : String) (s : FileSet)
    (first : WorkspaceFile) : String :=
  match requested with
  | some requested =>
      if requested ∈ s.seen then requested
      else if default ∈ s.seen then default
      else first.path
  | none => if default ∈ s.seen then default else first.path

def normalizeSubmissionFiles (language code filesPayload entryFile : Json) :
    Except RequestError Workspace := do
  let parsed ← parseFiles filesPayload
  let s ← addFiles .empty (parsed.take maxSubmissionFiles)
  let default := getDefaultEntryFile language
  let requested := sanitizeRelativeFilePath entryFile
  let (files, entry) : List WorkspaceFile × String :=
    match s.entries with
    | first :: _ => (s.entries, resolveEntryFile requested default s first)
    | [] =>
        let entry := requested.getD default
        ([⟨entry, code.textOrEmpty⟩], entry)
  match files.find? fun file => file.path = entry with
  | some primary => pure ⟨files, entry, primary.content⟩
  | none =>
      .error (.validation "entry_file"
        "The selected entry file was not found in the workspace.")

def inferLanguageFromEntryFile (entryFile : Json) : Option String :=
  match sanitizeRelativeFilePath entryFile with
  | none => none
  | some path =>
      (entryFileLanguageByExtension.find? fun entry => endsWith (lower path) entry.1).map
        Prod.snd

def validateSubmissionLanguage (language : Json) (entryFile : String) :
    Except RequestError String :=
  let stripped := lower (strip ((language.orElse (.str "python")).toText))
  let normalized := if stripped = "" then "python" else stripped
  match inferLanguageFromEntryFile (.str entryFile) with
  | some inferred =>
      if inferred ≠ normalized then
        .error (.validation "language"
          ("The selected language must match the entry file (" ++ entryFile ++ " -> " ++
            inferred ++ ")."))
      else .ok normalized
  | none => .ok normalized

/-! ## What an accepted workspace holds -/

def submittedPaths (filesPayload entryFile : Json) : List Json :=
  match parseFiles filesPayload with
  | .error _ => []
  | .ok [] => [entryFile]
  | .ok parsed => (parsed.take maxSubmissionFiles).map pathOf

structure Accepted (language filesPayload entryFile : Json) (workspace : Workspace) :
    Prop where
  nodup : (workspace.files.map WorkspaceFile.path).Nodup
  entry_mem : workspace.entryFile ∈ workspace.files.map WorkspaceFile.path
  path_from : ∀ path ∈ workspace.files.map WorkspaceFile.path,
    path = getDefaultEntryFile language ∨
      ∃ raw ∈ submittedPaths filesPayload entryFile,
        sanitizeRelativeFilePath raw = some path
  path_kept : ∀ raw ∈ submittedPaths filesPayload entryFile, ∀ path,
    sanitizeRelativeFilePath raw = some path →
      path ∈ workspace.files.map WorkspaceFile.path

theorem readFile_path {raw : Json} {file : WorkspaceFile} (h : readFile raw = .ok file) :
    sanitizeRelativeFilePath (pathOf raw) = some file.path := by
  cases raw with
  | obj fields =>
      rw [pathOf]
      rw [readFile] at h
      generalize sanitizeRelativeFilePath (rawPath fields) = sanitized at h ⊢
      cases sanitized with
      | none => cases h
      | some path =>
          cases h
          rfl
  | _ => cases h

theorem addFiles_ok {s t : FileSet} {raws : List Json} (h : addFiles s raws = .ok t) :
    ∃ files, List.Forall₂ (fun raw file => readFile raw = .ok file) raws files ∧
      t = files.foldl (Keyed.add WorkspaceFile.path) s := by
  induction raws generalizing s with
  | nil =>
      cases h
      exact ⟨[], .nil, rfl⟩
  | cons raw raws ih =>
      rw [addFiles] at h
      split at h
      · cases h
      next file hread =>
        obtain ⟨files, hfiles, rfl⟩ := ih h
        exact ⟨file :: files, .cons hread hfiles, rfl⟩

theorem sanitized_iff_of_read {raws : List Json} {files : List WorkspaceFile}
    (h : List.Forall₂ (fun raw file => readFile raw = .ok file) raws files) (path : String) :
    path ∈ files.map WorkspaceFile.path ↔
      ∃ raw ∈ raws.map pathOf, sanitizeRelativeFilePath raw = some path := by
  induction h with
  | nil => simp
  | cons hread _ ih =>
      simp only [List.map_cons, List.mem_cons, exists_eq_or_imp, ih, readFile_path hread,
        Option.some.injEq, eq_comm]

theorem normalizeSubmissionFiles_ok {language code filesPayload entryFile : Json}
    {workspace : Workspace}
    (h : normalizeSubmissionFiles language code filesPayload entryFile = .ok workspace) :
    ∃ parsed s, parseFiles filesPayload = .ok parsed ∧
      addFiles .empty (parsed.take maxSubmissionFiles) = .ok s ∧
      workspace.entryFile ∈ workspace.files.map WorkspaceFile.path ∧
      ((s.entries ≠ [] ∧ workspace.files = s.entries) ∨
        s.entries = [] ∧ workspace.files = [⟨(sanitizeRelativeFilePath entryFile).getD
          (getDefaultEntryFile language), code.textOrEmpty⟩]) := by
  simp only [normalizeSubmissionFiles, bind_eq_ok_iff] at h
  obtain ⟨parsed, hparse, s, hadd, h⟩ := h
  refine ⟨parsed, s, hparse, hadd, ?_⟩
  have hentry {files : List WorkspaceFile} {entry : String} {primary : WorkspaceFile}
      (hfind : files.find? (fun file => decide (file.path = entry)) = some primary) :
      entry ∈ files.map WorkspaceFile.path := by
    have hpath := List.find?_some hfind
    exact List.mem_map.mpr ⟨primary, List.mem_of_find?_eq_some hfind, by simpa using hpath⟩
  cases hentries : s.entries with
  | nil =>
      simp only [hentries] at h
      split at h
      next primary hfind =>
        cases h
        exact ⟨hentry hfind, .inr ⟨rfl, rfl⟩⟩
      next => cases h
  | cons first rest =>
      simp only [hentries] at h
      split at h
      next primary hfind =>
        cases h
        exact ⟨hentry hfind, .inl ⟨by simp, rfl⟩⟩
      next => cases h

theorem normalizeSubmissionFiles_accepted {language code filesPayload entryFile : Json}
    {workspace : Workspace}
    (h : normalizeSubmissionFiles language code filesPayload entryFile = .ok workspace) :
    Accepted language filesPayload entryFile workspace := by
  obtain ⟨parsed, s, hparse, hadd, hentry, hfiles⟩ := normalizeSubmissionFiles_ok h
  obtain ⟨read, hread, rfl⟩ := addFiles_ok hadd
  have hempty := Keyed.empty_wellFormed WorkspaceFile.path
  have hformed := Keyed.foldl_wellFormed WorkspaceFile.path hempty read
  have hkeys (path : String) : path ∈ (read.foldl (Keyed.add WorkspaceFile.path)
      .empty).entries.map WorkspaceFile.path ↔ path ∈ read.map WorkspaceFile.path := by
    rw [Keyed.mem_keys_foldl WorkspaceFile.path hempty]
    simp [Keyed.empty]
  cases parsed with
  | nil =>
      have hsubmitted : submittedPaths filesPayload entryFile = [entryFile] := by
        rw [submittedPaths, hparse]
      cases hread
      obtain ⟨hsome, -⟩ | ⟨-, hfiles⟩ := hfiles
      · exact absurd rfl hsome
      constructor
      · simp [hfiles]
      · exact hentry
      · intro path hpath
        rw [hfiles, List.map_singleton, List.mem_singleton] at hpath
        rw [hsubmitted]
        cases hrequested : sanitizeRelativeFilePath entryFile <;> simp_all
      · intro raw hraw path hpath
        rw [hsubmitted, List.mem_singleton] at hraw
        subst hraw
        simp [hfiles, hpath]
  | cons raw parsed =>
      have hsubmitted : submittedPaths filesPayload entryFile =
          ((raw :: parsed).take maxSubmissionFiles).map pathOf := by
        rw [submittedPaths, hparse]
      have hpaths : ∀ path, path ∈ workspace.files.map WorkspaceFile.path ↔
          ∃ raw ∈ submittedPaths filesPayload entryFile,
            sanitizeRelativeFilePath raw = some path := by
        intro path
        rw [hsubmitted, ← sanitized_iff_of_read hread]
        obtain ⟨-, hfiles⟩ | ⟨hnone, -⟩ := hfiles
        · rw [hfiles, hkeys]
        · cases hread with
          | cons _ _ =>
              have hmem := (hkeys _).mpr (List.mem_cons_self ..)
              rw [hnone] at hmem
              cases hmem
      constructor
      · obtain ⟨-, hfiles⟩ | ⟨-, hfiles⟩ := hfiles
        · exact hfiles ▸ hformed.nodup
        · simp [hfiles]
      · exact hentry
      · exact fun path hpath => .inr ((hpaths path).mp hpath)
      · exact fun raw hraw path hpath => (hpaths path).mpr ⟨raw, hraw, hpath⟩

/-! ## Which workspace is accepted -/

structure EntryResolved (requested : Option String) (default : String)
    (files : List WorkspaceFile) (entry : String) : Prop where
  mem : entry ∈ files.map WorkspaceFile.path
  requested_eq : ∀ path ∈ requested, path ∈ files.map WorkspaceFile.path → entry = path
  default_eq : (∀ path ∈ requested, path ∉ files.map WorkspaceFile.path) →
    default ∈ files.map WorkspaceFile.path → entry = default
  first_eq : (∀ path ∈ requested, path ∉ files.map WorkspaceFile.path) →
    default ∉ files.map WorkspaceFile.path → (files.map WorkspaceFile.path).head? = some entry

/-- The workspace of these entries of the payload: of each path the last content. -/
structure Normalizes (language code entryFile : Json) (entries : List Json)
    (workspace : Workspace) : Prop where
  files_eq : ∃ read, List.Forall₂ (fun raw file => readFile raw = .ok file) entries read ∧
    workspace.files = if read = [] then [⟨(sanitizeRelativeFilePath entryFile).getD
        (getDefaultEntryFile language), code.textOrEmpty⟩]
      else lastOf WorkspaceFile.path read
  nodup : (workspace.files.map WorkspaceFile.path).Nodup
  safe : ∀ path ∈ workspace.files.map WorkspaceFile.path, SafeRelative path
  entry : EntryResolved (sanitizeRelativeFilePath entryFile) (getDefaultEntryFile language)
    workspace.files workspace.entryFile
  code_mem : ⟨workspace.entryFile, workspace.code⟩ ∈ workspace.files

omit [PythonRuntime] in
theorem safeRelative_entryFiles :
    ∀ path ∈ "main.txt" :: languageEntryFiles.map Prod.snd, SafeRelative path := by
  have hfixed : ∀ path ∈ "main.txt" :: languageEntryFiles.map Prod.snd,
      safePath none path = some path := by
    decide +kernel
  exact fun path hpath => (safePath_spec (hfixed path hpath)).2.1

theorem safeRelative_defaultEntryFile (language : Json) :
    SafeRelative (getDefaultEntryFile language) := by
  apply safeRelative_entryFiles
  rw [getDefaultEntryFile]
  cases hlookup : languageEntryFiles.lookup (lower (strip language.textOrEmpty)) with
  | none => exact List.mem_cons_self
  | some path =>
      obtain ⟨before, after, hsplit, -⟩ := List.lookup_eq_some_iff.mp hlookup
      have hmem : (lower (strip language.textOrEmpty), path) ∈ languageEntryFiles := by
        simp [hsplit]
      exact List.mem_cons_of_mem _ (List.mem_map_of_mem (f := Prod.snd) hmem)

theorem sanitizeRelativeFilePath_safe {value : Json} {path : String}
    (h : sanitizeRelativeFilePath value = some path) :
    SafeRelative path ∧ path.length ≤ maxFilePathLength :=
  ⟨(safePath_spec h).2.1, (safePath_spec h).2.2 _ rfl⟩

theorem readFile_error {raw : Json} {error : RequestError} (h : readFile raw = .error error) :
    ∃ message, error = .validation "files" message := by
  cases raw with
  | obj fields =>
      rw [readFile] at h
      split at h
      · cases h
        exact ⟨_, rfl⟩
      · cases h
  | _ =>
      cases h
      exact ⟨_, rfl⟩

theorem addFiles_error {s : FileSet} {raws : List Json} {error : RequestError}
    (h : addFiles s raws = .error error) : ∃ message, error = .validation "files" message := by
  induction raws generalizing s with
  | nil => cases h
  | cons raw raws ih =>
      rw [addFiles] at h
      split at h
      next hread =>
        cases h
        exact readFile_error hread
      next => exact ih h

omit [PythonRuntime] in
theorem resolveEntryFile_resolved {s : FileSet} (hs : s.WellFormed WorkspaceFile.path)
    {first : WorkspaceFile} {rest : List WorkspaceFile} (hentries : s.entries = first :: rest)
    (requested : Option String) (default : String) :
    EntryResolved requested default s.entries
      (resolveEntryFile requested default s first) := by
  have hfirst : first.path ∈ s.entries.map WorkspaceFile.path := by simp [hentries]
  have hseen := hs.seen_iff
  cases requested with
  | none =>
      by_cases hdefault : default ∈ s.entries.map WorkspaceFile.path
      · rw [resolveEntryFile, if_pos ((hseen _).mpr hdefault)]
        exact ⟨hdefault, by simp, fun _ _ => rfl, fun _ hnot => absurd hdefault hnot⟩
      · rw [resolveEntryFile, if_neg ((hseen _).not.mpr hdefault)]
        exact ⟨hfirst, by simp, fun _ h => absurd h hdefault, fun _ _ => by simp [hentries]⟩
  | some path =>
      by_cases hpath : path ∈ s.entries.map WorkspaceFile.path
      · rw [resolveEntryFile, if_pos ((hseen _).mpr hpath)]
        refine ⟨hpath, by simp, fun hnone => ?_, fun hnone => ?_⟩
        · exact absurd hpath (hnone path rfl)
        · exact absurd hpath (hnone path rfl)
      · rw [resolveEntryFile, if_neg ((hseen _).not.mpr hpath)]
        have hskips : ∀ other ∈ some path, other ∈ s.entries.map WorkspaceFile.path → False :=
          fun other hother hmem => hpath (Option.some.inj hother ▸ hmem)
        by_cases hdefault : default ∈ s.entries.map WorkspaceFile.path
        · rw [if_pos ((hseen _).mpr hdefault)]
          exact ⟨hdefault, fun other hother hmem => (hskips other hother hmem).elim,
            fun _ _ => rfl, fun _ hnot => absurd hdefault hnot⟩
        · rw [if_neg ((hseen _).not.mpr hdefault)]
          exact ⟨hfirst, fun other hother hmem => (hskips other hother hmem).elim,
            fun _ h => absurd h hdefault, fun _ _ => by simp [hentries]⟩

omit [PythonRuntime] in
theorem find_entry {files : List WorkspaceFile} {entry : String}
    (h : entry ∈ files.map WorkspaceFile.path) :
    ∃ content, files.find? (fun file => decide (file.path = entry)) = some ⟨entry, content⟩ ∧
      ⟨entry, content⟩ ∈ files := by
  obtain ⟨file, hfile, rfl⟩ := List.mem_map.mp h
  have hsome : (files.find? fun other => decide (other.path = file.path)).isSome = true :=
    List.find?_isSome.mpr ⟨file, hfile, by simp⟩
  obtain ⟨⟨path, content⟩, hfound⟩ := Option.isSome_iff_exists.mp hsome
  have hpath := List.find?_some hfound
  rw [decide_eq_true_eq] at hpath
  subst hpath
  exact ⟨content, hfound, List.mem_of_find?_eq_some hfound⟩

theorem normalizes_no_entries (language code entryFile : Json) :
    let entry := (sanitizeRelativeFilePath entryFile).getD (getDefaultEntryFile language)
    Normalizes language code entryFile []
      ⟨[⟨entry, code.textOrEmpty⟩], entry, code.textOrEmpty⟩ := by
  intro entry
  have hsafe : SafeRelative entry := by
    cases hrequested : sanitizeRelativeFilePath entryFile with
    | none =>
        simp only [entry, hrequested, Option.getD_none]
        exact safeRelative_defaultEntryFile language
    | some path =>
        simp only [entry, hrequested, Option.getD_some]
        exact (sanitizeRelativeFilePath_safe hrequested).1
  refine ⟨⟨[], .nil, rfl⟩, by simp, by simpa using hsafe, ?_, by simp⟩
  cases hrequested : sanitizeRelativeFilePath entryFile <;>
    constructor <;> simp [entry, hrequested]

theorem normalizes_entries {language code entryFile : Json} {entries : List Json}
    {read : List WorkspaceFile} {entry content : String}
    (hread : List.Forall₂ (fun raw file => readFile raw = .ok file) entries read)
    (hne : read ≠ [])
    (hentry : EntryResolved (sanitizeRelativeFilePath entryFile)
      (getDefaultEntryFile language) (lastOf WorkspaceFile.path read) entry)
    (hmem : ⟨entry, content⟩ ∈ lastOf WorkspaceFile.path read) :
    Normalizes language code entryFile entries
      ⟨lastOf WorkspaceFile.path read, entry, content⟩ := by
  refine ⟨⟨read, hread, by rw [if_neg hne]⟩, nodup_keys_lastOf WorkspaceFile.path read, ?_,
    hentry, hmem⟩
  intro path hpath
  rw [mem_keys_lastOf, sanitized_iff_of_read hread] at hpath
  obtain ⟨raw, -, hsanitized⟩ := hpath
  exact (sanitizeRelativeFilePath_safe hsanitized).1

/--
A payload of entries is refused for one of the first 32 of them, or it becomes the
workspace of these; that the entry file is not found never happens.
-/
theorem normalizeSubmissionFiles_normalizes (language code filesPayload entryFile : Json)
    {items : List Json} (hparse : parseFiles filesPayload = .ok items) :
    (∃ message, normalizeSubmissionFiles language code filesPayload entryFile =
      .error (.validation "files" message)) ∨
    ∃ workspace, normalizeSubmissionFiles language code filesPayload entryFile =
        .ok workspace ∧
      Normalizes language code entryFile (items.take maxSubmissionFiles) workspace := by
  cases hadd : addFiles .empty (items.take maxSubmissionFiles) with
  | error error =>
      obtain ⟨message, rfl⟩ := addFiles_error hadd
      refine .inl ⟨message, ?_⟩
      simp only [normalizeSubmissionFiles, hparse, hadd, bind, Except.bind]
  | ok s =>
      right
      obtain ⟨read, hread, hs⟩ := addFiles_ok hadd
      have hempty := Keyed.empty_wellFormed WorkspaceFile.path
      have hformed : s.WellFormed WorkspaceFile.path :=
        hs ▸ Keyed.foldl_wellFormed WorkspaceFile.path hempty read
      have hlast : s.entries = lastOf WorkspaceFile.path read := by
        rw [hs, Keyed.foldl_eq_lastOf WorkspaceFile.path hempty]
        simp [Keyed.empty]
      cases hentries : s.entries with
      | nil =>
          have hnone : items.take maxSubmissionFiles = [] := by
            cases read with
            | nil => exact List.forall₂_nil_right_iff.mp hread
            | cons file read =>
                have hmem := (mem_keys_lastOf WorkspaceFile.path (file :: read) file.path).mpr
                  (by simp)
                rw [← hlast, hentries] at hmem
                cases hmem
          refine ⟨_, ?_, hnone ▸ normalizes_no_entries language code entryFile⟩
          simp [normalizeSubmissionFiles, hparse, hadd, hentries, bind, Except.bind, pure,
            Except.pure]
      | cons first rest =>
          have hresolved := resolveEntryFile_resolved hformed hentries
            (sanitizeRelativeFilePath entryFile) (getDefaultEntryFile language)
          obtain ⟨content, hfind, hmem⟩ := find_entry hresolved.mem
          have hne : read ≠ [] := by
            rintro rfl
            rw [hlast] at hentries
            cases hentries
          rw [hlast] at hresolved hmem
          refine ⟨_, ?_, normalizes_entries hread hne hresolved hmem⟩
          simp only [normalizeSubmissionFiles, hparse, hadd, bind, Except.bind, hentries]
          rw [← hentries, hfind, hlast]
          rfl

end Reading

/-! ## The 33rd file -/

def filePayload (path content : String) : Json :=
  .obj [("path", .str path), ("content", .str content)]

theorem normalizes_two_files :
    letI := plainRuntime
    ∃ workspace, normalizeSubmissionFiles (.str "python") (.str "")
        (.arr [filePayload "a.py" "1", filePayload "a.py" "2"]) (.str "") = .ok workspace ∧
      Normalizes (.str "python") (.str "") (.str "")
        [filePayload "a.py" "1", filePayload "a.py" "2"] workspace := by
  let := plainRuntime
  obtain ⟨message, hrefused⟩ | haccepted := normalizeSubmissionFiles_normalizes
    (.str "python") (.str "") (.arr [filePayload "a.py" "1", filePayload "a.py" "2"])
    (.str "") rfl
  · have hok : (normalizeSubmissionFiles (.str "python") (.str "")
        (.arr [filePayload "a.py" "1", filePayload "a.py" "2"]) (.str "")).isOk = true := by
      decide +kernel
    rw [hrefused] at hok
    cases hok
  · exact haccepted

/-- After 32 entries for one path a 33rd entry is dropped without an error. -/
theorem later_file_dropped :
    letI := plainRuntime
    ¬ ∀ (language code entryFile : Json) (items : List Json) (workspace : Workspace),
      normalizeSubmissionFiles language code (.arr items) entryFile = .ok workspace →
      ∀ raw ∈ items, ∀ path, sanitizeRelativeFilePath (pathOf raw) = some path →
        path ∈ workspace.files.map WorkspaceFile.path := by
  let := plainRuntime
  intro h
  let items := List.replicate 32 (filePayload "a.py" "") ++ [filePayload "b.py" ""]
  have hpaths : (normalizeSubmissionFiles (.str "python") (.str "") (.arr items)
      (.str "")).toOption.map (fun workspace => workspace.files.map WorkspaceFile.path) =
        some ["a.py"] := by
    decide +kernel
  obtain ⟨workspace, hworkspace, hpaths⟩ := Option.map_eq_some_iff.mp hpaths
  cases hrun : normalizeSubmissionFiles (.str "python") (.str "") (.arr items) (.str "") with
  | error error => simp [hrun, Except.toOption] at hworkspace
  | ok accepted =>
      simp only [hrun, Except.toOption, Option.some.injEq] at hworkspace
      have hkept := h _ _ _ items accepted hrun (filePayload "b.py" "") (by simp [items]) "b.py"
        (by decide +kernel)
      rw [hworkspace, hpaths] at hkept
      exact absurd hkept (by decide)

end JudgeVortex.CoreApi
