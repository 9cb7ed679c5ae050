import JudgeVortex.CoreApi.Workspace
import JudgeVortex.Executor.Workspace

/-!
# One workspace on both sides

The executor normalizes again what the web tier has normalized.  Both sides trim
whitespace before slashes, so whitespace that a slash has covered is trimmed on the
second pass only.
-/

namespace JudgeVortex.System

open JudgeVortex.CoreApi JudgeVortex.Foundation JudgeVortex.Python JudgeVortex.Shared

/-- Under the outer slashes of a text there is no more outer whitespace. -/
def NoSpaceUnderSlashes (text : String) : Prop :=
  Trimmed isSpace (pathCandidate text).toList

instance (text : String) : Decidable (NoSpaceUnderSlashes text) :=
  decidable_of_iff (trim isSpace (pathCandidate text).toList = (pathCandidate text).toList)
    (trim_eq_self_iff isSpace)

theorem languageEntryFiles_eq : languageEntryFiles = Executor.entryFilenames := rfl

section Agreement

variable [PythonRuntime]

theorem safe_getDefaultEntryFile (language : Json) :
    safePath none (getDefaultEntryFile language) = some (getDefaultEntryFile language) := by
  rw [getDefaultEntryFile, languageEntryFiles_eq]
  cases hlookup : Executor.entryFilenames.lookup (lower (strip language.textOrEmpty)) with
  | none =>
      rw [Option.getD_none]
      decide +kernel
  | some default => exact Executor.safe_entryFilename hlookup

theorem sanitized_again_iff {raw : Json} {path : String}
    (h : sanitizeRelativeFilePath raw = some path) :
    Executor.sanitizeRelativeFilePath path = some path ↔
      NoSpaceUnderSlashes raw.textOrEmpty := by
  rw [sanitizeRelativeFilePath] at h
  rw [Executor.sanitizeRelativeFilePath, safePath_again_iff h, NoSpaceUnderSlashes,
    ← safePath_eq_candidate h, ← trim_eq_self_iff, ← toList_strip, String.toList_inj]

/-- The workspaces agree exactly when no accepted path of the payload has whitespace
next to an outer slash. -/
theorem workspaces_agree_iff {language default : String}
    {rawLanguage code filesPayload entryFile : Json} {workspace : Workspace}
    (hlang : Executor.entryFilenames.lookup language = some default)
    (h : normalizeSubmissionFiles rawLanguage code filesPayload entryFile = .ok workspace) :
    Executor.normalizeWorkspaceFiles language workspace.code workspace.files
        workspace.entryFile = some (workspace.files, workspace.entryFile) ↔
      ∀ raw ∈ submittedPaths filesPayload entryFile,
        (sanitizeRelativeFilePath raw).isSome → NoSpaceUnderSlashes raw.textOrEmpty := by
  have haccepted := normalizeSubmissionFiles_accepted h
  have himage : ∀ path ∈ workspace.files.map WorkspaceFile.path,
      ∃ maxLength text, safePath maxLength text = some path := by
    intro path hpath
    obtain hdefault | ⟨raw, -, hraw⟩ := haccepted.path_from path hpath
    · rw [hdefault]
      exact ⟨_, _, safe_getDefaultEntryFile rawLanguage⟩
    · rw [sanitizeRelativeFilePath] at hraw
      exact ⟨_, _, hraw⟩
  rw [Executor.normalizeWorkspaceFiles_eq_self_iff hlang haccepted.nodup
    haccepted.entry_mem himage]
  constructor
  · intro hfixed raw hraw hsome
    obtain ⟨path, hpath⟩ := Option.isSome_iff_exists.mp hsome
    exact (sanitized_again_iff hpath).mp
      (hfixed path (haccepted.path_kept raw hraw path hpath))
  · intro hspace path hpath
    obtain hdefault | ⟨raw, hraw, hsanitized⟩ := haccepted.path_from path hpath
    · rw [Executor.sanitizeRelativeFilePath, hdefault]
      exact safe_getDefaultEntryFile rawLanguage
    · exact (sanitized_again_iff hsanitized).mpr (hspace raw hraw (by simp [hsanitized]))

end Agreement

theorem workspaces_agree_on_two_files :
    Executor.normalizeWorkspaceFiles "python" "import util"
        [⟨"util.py", "x = 1"⟩, ⟨"main.py", "import util"⟩] "main.py" =
      some ([⟨"util.py", "x = 1"⟩, ⟨"main.py", "import util"⟩], "main.py") := by
  let := plainRuntime
  have hread : normalizeSubmissionFiles (.str "python") .null
      (.arr [filePayload " util.py" "x = 1", filePayload "/main.py" "import util"]) .null =
        .ok ⟨[⟨"util.py", "x = 1"⟩, ⟨"main.py", "import util"⟩], "main.py",
          "import util"⟩ := by
    decide +kernel
  have hlang : Executor.entryFilenames.lookup "python" = some "main.py" := by decide
  apply (workspaces_agree_iff hlang hread).mpr
  decide +kernel

/-- A space under a leading slash: the web tier keeps two files, the executor one. -/
theorem executor_merges_files :
    letI := plainRuntime
    normalizeSubmissionFiles (.str "python") .null
        (.arr [filePayload "main.py" "print(1)", filePayload "/ main.py" "print(2)"]) .null =
      .ok ⟨[⟨"main.py", "print(1)"⟩, ⟨" main.py", "print(2)"⟩], "main.py", "print(1)"⟩ ∧
    Executor.normalizeWorkspaceFiles "python" "print(1)"
        [⟨"main.py", "print(1)"⟩, ⟨" main.py", "print(2)"⟩] "main.py" =
      some ([⟨"main.py", "print(2)"⟩], "main.py") := by
  decide +kernel

end JudgeVortex.System
