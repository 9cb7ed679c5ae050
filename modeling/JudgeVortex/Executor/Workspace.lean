import JudgeVortex.CoreApi.Models
import JudgeVortex.Foundation.LastWins
import JudgeVortex.Shared.Paths

/-!
# The executor's workspace

`_normalize_workspace_files` of `executor_service/sandbox.py`, on the files of a job
message: each has a path and a content.
-/

namespace JudgeVortex.Executor

open JudgeVortex.CoreApi JudgeVortex.Foundation JudgeVortex.Shared

def entryFilenames : List (String × String) :=
  [("python", "main.py"), ("javascript", "main.js"), ("ruby", "main.rb"),
    ("php", "main.php"), ("cpp", "main.cpp"), ("c", "main.c"), ("go", "main.go"),
    ("rust", "main.rs"), ("java", "Main.java"), ("typescript", "main.ts"),
    ("sql", "query.sql")]

def sanitizeRelativeFilePath (path : String) : Option String := safePath none path

def addWorkspaceFile (s : Keyed WorkspaceFile String) (file : WorkspaceFile) :
    Keyed WorkspaceFile String :=
  match sanitizeRelativeFilePath file.path with
  | none => s
  | some path => s.add WorkspaceFile.path ⟨path, file.content⟩

/-- `_normalize_workspace_files`; a language without a configuration raises. -/
def normalizeWorkspaceFiles (language code : String) (files : List WorkspaceFile)
    (entryFile : String) : Option (List WorkspaceFile × String) :=
  match entryFilenames.lookup language with
  | none => none
  | some default =>
      let entry := (sanitizeRelativeFilePath entryFile).getD default
      let s := files.foldl addWorkspaceFile .empty
      let files := if entry ∈ s.seen then s.entries else ⟨entry, code⟩ :: s.entries
      some (files, entry)

/-! ## Safe paths -/

theorem safe_entryFilename {language default : String}
    (h : entryFilenames.lookup language = some default) :
    sanitizeRelativeFilePath default = some default := by
  obtain ⟨before, after, hsplit, -⟩ := List.lookup_eq_some_iff.mp h
  have hmem : (language, default) ∈ entryFilenames := by simp [hsplit]
  have hall : ∀ entry ∈ entryFilenames, sanitizeRelativeFilePath entry.2 = some entry.2 := by
    decide +kernel
  simpa only using hall (language, default) hmem

def readableFiles (files : List WorkspaceFile) : List WorkspaceFile :=
  files.filterMap fun file => (sanitizeRelativeFilePath file.path).map
    fun path => ⟨path, file.content⟩

theorem foldl_addWorkspaceFile (s : Keyed WorkspaceFile String) (files : List WorkspaceFile) :
    files.foldl addWorkspaceFile s =
      (readableFiles files).foldl (Keyed.add WorkspaceFile.path) s := by
  induction files generalizing s with
  | nil => simp only [readableFiles, List.foldl_nil, List.filterMap_nil]
  | cons file files ih =>
      rw [List.foldl_cons, ih, readableFiles, readableFiles, List.filterMap_cons,
        addWorkspaceFile]
      generalize sanitizeRelativeFilePath file.path = sanitized
      cases sanitized with
      | none => rfl
      | some path => rfl

/-- A workspace of distinct paths is read back as it is when every path is safe as it
stands; a path that is not would have to come from a longer one. -/
theorem normalizeWorkspaceFiles_eq_self_iff {language default code entryFile : String}
    {files : List WorkspaceFile} (hlang : entryFilenames.lookup language = some default)
    (hnodup : (files.map WorkspaceFile.path).Nodup)
    (hentry : entryFile ∈ files.map WorkspaceFile.path)
    (himage : ∀ path ∈ files.map WorkspaceFile.path,
      ∃ maxLength text, safePath maxLength text = some path) :
    normalizeWorkspaceFiles language code files entryFile = some (files, entryFile) ↔
      ∀ path ∈ files.map WorkspaceFile.path, sanitizeRelativeFilePath path = some path := by
  have hempty := Keyed.empty_wellFormed WorkspaceFile.path
  have hformed := Keyed.foldl_wellFormed WorkspaceFile.path hempty (readableFiles files)
  have hkeys := Keyed.mem_keys_foldl WorkspaceFile.path hempty (readableFiles files)
  simp only [Keyed.empty, List.map_nil, List.not_mem_nil, false_or] at hkeys
  rw [normalizeWorkspaceFiles, hlang]
  simp only [foldl_addWorkspaceFile, Option.some.injEq, Prod.mk.injEq]
  constructor
  · rintro ⟨hfiles, hsame⟩
    have hfixed : sanitizeRelativeFilePath entryFile = some entryFile := by
      cases hread : sanitizeRelativeFilePath entryFile with
      | none =>
          rw [hread, Option.getD_none] at hsame
          rw [← hread, ← hsame]
          exact safe_entryFilename hlang
      | some path =>
          rw [hread, Option.getD_some] at hsame
          rw [hsame]
    apply fixed_of_covered (fun path => path.toList.length)
    · intro path hpath again hagain hne
      obtain ⟨maxLength, text, himage⟩ := himage path hpath
      exact length_safePath_lt himage hagain hne
    · intro path hpath
      by_cases heq : path = entryFile
      · exact .inl (heq ▸ hfixed)
      right
      have hcollected : path ∈ ((readableFiles files).foldl (Keyed.add WorkspaceFile.path)
          .empty).entries.map WorkspaceFile.path := by
        rw [← hfiles, hsame] at hpath
        split at hpath
        · exact hpath
        · exact (List.mem_cons.mp hpath).resolve_left heq
      rw [Keyed.empty, hkeys, readableFiles] at hcollected
      simpa [List.mem_filterMap] using hcollected
  · intro hsafe
    have hread : readableFiles files = files := by
      rw [readableFiles, List.filterMap_congr (g := some), List.filterMap_some]
      intro file hfile
      simp [hsafe file.path (List.mem_map_of_mem hfile)]
    rw [hread] at hformed
    have hentries : (files.foldl (Keyed.add WorkspaceFile.path) .empty).entries = files := by
      rw [Keyed.foldl_of_nodup WorkspaceFile.path hempty (by simpa [Keyed.empty] using hnodup)]
      simp [Keyed.empty]
    have hseen := (hformed.seen_iff entryFile).mpr (by rw [hentries]; exact hentry)
    rw [hread, hsafe entryFile hentry, Option.getD_some, if_pos hseen]
    exact ⟨hentries, rfl⟩

end JudgeVortex.Executor
