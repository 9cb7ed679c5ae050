import JudgeVortex.CoreApi.Models
import JudgeVortex.Foundation.LastWins
import JudgeVortex.Foundation.WorkingCopy
import JudgeVortex.Python.OsPath
import JudgeVortex.Shared.Paths
import JudgeVortex.Templates.TeacherDashboard
import Mathlib.Data.List.Find

/-!
# Files of the workspace page

The pure functions under the file explorer of `workspace.html`: the tables of
languages, `sanitizeWorkspacePath`, `inferLanguageFromPath`,
`resolveWorkspaceEntryFile`, `normalizeWorkspaceFiles` and the names that a change of
language gives.
-/

namespace JudgeVortex.Templates

open JudgeVortex.CoreApi JudgeVortex.Foundation JudgeVortex.Python JudgeVortex.Shared

/-! ## Tables -/

def languageOptions : List String :=
  ["python", "cpp", "c", "java", "javascript", "typescript", "ruby", "go", "rust", "php", "sql"]

def languagePrimaryFiles : List (String × String) :=
  [("python", "main.py"), ("cpp", "main.cpp"), ("c", "main.c"), ("java", "Main.java"),
    ("javascript", "main.js"), ("typescript", "main.ts"), ("ruby", "main.rb"),
    ("go", "main.go"), ("rust", "main.rs"), ("php", "main.php"), ("sql", "query.sql")]

/-- The languages in the order in which they are tried, with the ends of their paths. -/
def languagePathMatchers : List (String × List String) :=
  [("python", [".py"]), ("cpp", [".cpp", ".cc", ".cxx"]), ("c", [".c"]), ("java", [".java"]),
    ("javascript", [".js"]), ("typescript", [".ts"]), ("ruby", [".rb"]), ("go", [".go"]),
    ("rust", [".rs"]), ("php", [".php"]), ("sql", [".sql"])]

def boilerplate : List (String × String) :=
  [("python", "def solve():\n    print(\"Hello from Judge Vortex!\")\n\n" ++
      "if __name__ == \"__main__\":\n    solve()"),
    ("cpp", "#include <iostream>\nusing namespace std;\n\nint main() \x7b\n" ++
      "    cout << \"Hello from Judge Vortex!\\n\";\n    return 0;\n\x7d"),
    ("c", "#include <stdio.h>\n\nint main() \x7b\n" ++
      "    printf(\"Hello from Judge Vortex!\\n\");\n    return 0;\n\x7d"),
    ("javascript", "console.log(\"Hello from Judge Vortex!\");"),
    ("typescript", "const message: string = \"Hello from Judge Vortex!\";\nconsole.log(message);"),
    ("ruby", "puts \"Hello from Judge Vortex!\""),
    ("go", "package main\n\nimport \"fmt\"\n\nfunc main() \x7b\n" ++
      "\tfmt.Println(\"Hello from Judge Vortex!\")\n\x7d"),
    ("rust", "fn main() \x7b\n    println!(\"Hello from Judge Vortex!\");\n\x7d"),
    ("php", "<?php\n\necho \"Hello from Judge Vortex!\\n\";\n?>"),
    ("sql", "-- Write your query here\nSELECT \"Hello from Judge Vortex!\" AS Welcome;")]

def getPrimaryFileForLanguage (language : String) : String :=
  (languagePrimaryFiles.lookup language).getD "main.txt"

/-! ## Paths -/

def workspaceCandidate (text : String) : String :=
  stripChar '/' (jsTrim (replace "\\" "/" text))

/-- `sanitizeWorkspacePath`; a missing path counts as the empty text. -/
def sanitizeWorkspacePath (pathValue : Option String) : Option String :=
  checkCandidate none (workspaceCandidate (pathValue.getD ""))

def inferLanguageFromPath (pathValue : Option String) : Option String :=
  match sanitizeWorkspacePath pathValue with
  | none => none
  | some path =>
      (languagePathMatchers.find? fun entry => entry.2.any (Python.endsWith (lower path))).map
        Prod.fst

/-- `slice(0, lastIndexOf('.'))`; empty where there is no dot. -/
def stemBeforeLastDot (name : String) : String :=
  .ofList (name.toList.rdropWhile (· ≠ '.')).dropLast

/-- `slice(lastIndexOf('.'))`; empty where there is no dot. -/
def fromLastDot (name : String) : String :=
  if '.' ∈ name.toList then .ofList ('.' :: name.toList.rtakeWhile (· ≠ '.')) else ""

def getParentFolderPath (pathValue : Option String) : String :=
  match sanitizeWorkspacePath pathValue with
  | none => ""
  | some path =>
      if '/' ∉ path.toList then "" else join "/" (splitChar '/' path).dropLast

def fileNameOf (path : String) : String := (splitChar '/' path).getLastD ""

def isJavaNameStart (c : Char) : Bool := c.isAlpha || c == '_' || c == '$'

/-- One round of the replacement: what is no name symbol becomes an underscore for each of its
code units. -/
def javaNameSymbols (c : Char) : List Char :=
  if isJavaNameStart c ∨ c.isDigit then [c]
  else if 0x10000 ≤ c.toNat then ['_', '_'] else ['_']

def getJavaClassNameForPath (pathValue : Option String) : String :=
  let path := (sanitizeWorkspacePath pathValue).getD (getPrimaryFileForLanguage "java")
  let name := fileNameOf path
  let fileName := if name = "" then "Main.java" else name
  let stem := if '.' ∈ fileName.toList then stemBeforeLastDot fileName else fileName
  let sanitized := (stem.toList.flatMap javaNameSymbols).dropWhile fun c => !isJavaNameStart c
  if sanitized = [] then "Main" else .ofList sanitized

def getBoilerplateForLanguage (language : String) (pathValue : Option String) : String :=
  if language = "java" then
    "import java.util.Scanner;\n\npublic class " ++ getJavaClassNameForPath pathValue ++
      " \x7b\n    public static void main(String[] args) \x7b\n" ++
      "        System.out.println(\"Hello from Judge Vortex!\");\n    \x7d\n\x7d"
  else (boilerplate.lookup language).getD ((boilerplate.lookup "python").getD "")

def getFileExtensionForLanguage (language : String) : String :=
  fromLastDot (getPrimaryFileForLanguage language)

def stemOf (fileName : String) : String :=
  if stemBeforeLastDot fileName = "" then fileName else stemBeforeLastDot fileName

def getLanguageAdjustedFilePath (pathValue : Option String) (language : String) : String :=
  match sanitizeWorkspacePath pathValue with
  | none => getPrimaryFileForLanguage language
  | some path =>
      let parentFolder := getParentFolderPath (some path)
      let last := fileNameOf path
      let fileName := if last = "" then getPrimaryFileForLanguage language else last
      let safeStem :=
        if stemOf fileName = "" then stemBeforeLastDot (getPrimaryFileForLanguage language)
        else stemOf fileName
      let targetName := safeStem ++ getFileExtensionForLanguage language
      if parentFolder = "" then targetName else parentFolder ++ "/" ++ targetName

example : getLanguageAdjustedFilePath (some "src/app.test.py") "java" = "src/app.test.java" ∧
    getJavaClassNameForPath (some "src/2 nd-try.java") = "_nd_try" ∧
    inferLanguageFromPath (some "lib/A.CPP") = some "cpp" := by
  decide +kernel

/-! ## Files -/

def paths (files : List WorkspaceFile) : List String := files.map WorkspaceFile.path

def contentAt (files : List WorkspaceFile) (path : String) : Option String :=
  Foundation.valueAt WorkspaceFile.path WorkspaceFile.content files path

def resolveWorkspaceEntryFile (language : String) (files : List WorkspaceFile)
    (preferredEntryFile : Option String) : String :=
  let defaultPath := getPrimaryFileForLanguage language
  match (sanitizeWorkspacePath preferredEntryFile).filter (· ∈ paths files) with
  | some preferredPath => preferredPath
  | none =>
      if defaultPath ∈ paths files then defaultPath
      else (paths files).head?.getD defaultPath

/-- A file as it is handed to `normalizeWorkspaceFiles`: any field can be missing. -/
structure IncomingFile where
  path : Option String
  name : Option String
  content : Option String
  deriving DecidableEq, Repr

def IncomingFile.ofFile (file : WorkspaceFile) : IncomingFile :=
  ⟨some file.path, none, some file.content⟩

def readIncoming (file : IncomingFile) : Option WorkspaceFile :=
  let raw := if file.path.getD "" = "" then file.name else file.path
  (sanitizeWorkspacePath raw).map fun path => ⟨path, file.content.getD ""⟩

def normalizeWorkspaceFiles (language : String) (files : Option (List IncomingFile))
    (primaryContent : Option String) : List WorkspaceFile :=
  let normalized := (((files.getD []).filterMap readIncoming).foldl
    (Keyed.add WorkspaceFile.path) .empty).entries
  if normalized = [] then
    let primaryFilePath := getPrimaryFileForLanguage language
    [⟨primaryFilePath,
      primaryContent.getD (getBoilerplateForLanguage language (some primaryFilePath))⟩]
  else normalized

/-! ## Paths that read back as themselves -/

theorem trimmed_workspaceCandidate (text : String) :
    Trimmed (· == '/') (workspaceCandidate text).toList := by
  rw [workspaceCandidate, toList_stripChar]
  exact trimmed_trim _ _

theorem sanitizeWorkspacePath_safe {pathValue : Option String} {path : String}
    (h : sanitizeWorkspacePath pathValue = some path) : SafeRelative path := by
  rw [sanitizeWorkspacePath, checkCandidate_eq_some_iff (trimmed_workspaceCandidate _)] at h
  obtain ⟨rfl, hsafe, -⟩ := h
  exact hsafe

def Settled (path : String) : Prop := sanitizeWorkspacePath (some path) = some path

instance (path : String) : Decidable (Settled path) :=
  inferInstanceAs (Decidable (sanitizeWorkspacePath (some path) = some path))

structure Plain (path : String) : Prop where
  safe : SafeRelative path
  trimmed : Trimmed isJsSpace path.toList
  no_backslash : '\\' ∉ path.toList
  no_dot : startsWithChar '.' path = false
  no_tilde : startsWithChar '~' path = false

theorem workspaceCandidate_of_no_backslash {path : String} (h : '\\' ∉ path.toList) :
    workspaceCandidate path = stripChar '/' (jsTrim path) := by
  rw [workspaceCandidate, replace_backslash_of_not_mem h]

theorem toList_jsTrim (s : String) : (jsTrim s).toList = trim isJsSpace s.toList := by
  rw [jsTrim, String.toList_ofList]

theorem backslash_not_mem_workspaceCandidate (text : String) :
    '\\' ∉ (workspaceCandidate text).toList := by
  rw [workspaceCandidate, toList_stripChar, toList_jsTrim]
  intro hmem
  exact backslash_not_mem_replace text
    ((trim_sublist _ _).subset ((trim_sublist _ _).subset hmem))

theorem settled_iff_plain (path : String) : Settled path ↔ Plain path := by
  constructor
  · intro h
    rw [Settled, sanitizeWorkspacePath,
      checkCandidate_eq_some_iff (trimmed_workspaceCandidate _), Option.getD_some] at h
    obtain ⟨hcandidate, hsafe, hdot, htilde, -⟩ := h
    have hbackslash : '\\' ∉ path.toList :=
      hcandidate ▸ backslash_not_mem_workspaceCandidate path
    rw [← hcandidate] at hsafe hdot htilde
    refine ⟨hsafe, ?_, hbackslash, hdot, htilde⟩
    -- Both trims together keep the length, so the first one does.
    have hlength := congrArg (fun s => s.toList.length) hcandidate
    simp only [workspaceCandidate_of_no_backslash hbackslash, toList_stripChar,
      toList_jsTrim] at hlength
    have hslash := length_trim_le (· == '/') (trim isJsSpace path.toList)
    have hspace := length_trim_le isJsSpace path.toList
    exact (trim_eq_self_iff isJsSpace).mp ((length_trim_eq_iff isJsSpace).mp (by omega))
  · intro h
    have htrim : jsTrim path = path := by
      apply String.toList_injective
      rw [toList_jsTrim, trim_of_trimmed _ h.trimmed]
    have hslashes : stripChar '/' path = path := by
      apply String.toList_injective
      rw [toList_stripChar, trim_of_trimmed _ h.safe.trimmed]
    rw [Settled, sanitizeWorkspacePath, Option.getD_some,
      workspaceCandidate_of_no_backslash h.no_backslash, htrim, hslashes,
      checkCandidate_eq_some_iff h.safe.trimmed]
    exact ⟨rfl, h.safe, h.no_dot, h.no_tilde, by simp⟩

theorem Settled.sanitize {path : String} (h : Settled path) :
    sanitizeWorkspacePath (some path) = some path := h

-- As for `safePath`: from here on the checks are never evaluated.
attribute [irreducible] sanitizeWorkspacePath

/-! ## The name that a language gives -/

theorem getPrimaryFileForLanguage_mem (language : String) :
    getPrimaryFileForLanguage language ∈ "main.txt" :: languagePrimaryFiles.map Prod.snd := by
  rw [getPrimaryFileForLanguage]
  cases hlookup : languagePrimaryFiles.lookup language with
  | none => exact List.mem_cons_self
  | some path =>
      obtain ⟨before, after, hsplit, -⟩ := List.lookup_eq_some_iff.mp hlookup
      have hmem : (language, path) ∈ languagePrimaryFiles := by simp [hsplit]
      exact List.mem_cons_of_mem _ (List.mem_map_of_mem (f := Prod.snd) hmem)

theorem settled_primaryFile (language : String) :
    Settled (getPrimaryFileForLanguage language) := by
  have hall : ∀ path ∈ "main.txt" :: languagePrimaryFiles.map Prod.snd, Settled path := by
    decide +kernel
  exact hall _ (getPrimaryFileForLanguage_mem language)

structure Extension (ext : List Char) : Prop where
  long : 2 ≤ ext.length
  no_slash : '/' ∉ ext
  no_backslash : '\\' ∉ ext
  last : ∀ c ∈ ext.getLast?, isJsSpace c = false

theorem extension_of_language (language : String) :
    Extension (getFileExtensionForLanguage language).toList := by
  have hmem := getPrimaryFileForLanguage_mem language
  have hlong : ∀ path ∈ "main.txt" :: languagePrimaryFiles.map Prod.snd,
      2 ≤ (fromLastDot path).toList.length := by
    decide +kernel
  have hslash : ∀ path ∈ "main.txt" :: languagePrimaryFiles.map Prod.snd,
      '/' ∉ (fromLastDot path).toList := by
    decide +kernel
  have hbackslash : ∀ path ∈ "main.txt" :: languagePrimaryFiles.map Prod.snd,
      '\\' ∉ (fromLastDot path).toList := by
    decide +kernel
  have hlast : ∀ path ∈ "main.txt" :: languagePrimaryFiles.map Prod.snd,
      (fromLastDot path).toList.getLast?.any isJsSpace = false := by
    decide +kernel
  refine ⟨hlong _ hmem, hslash _ hmem, hbackslash _ hmem, fun c hc => ?_⟩
  have hnone := hlast _ hmem
  rw [show (fromLastDot _).toList.getLast? = some c from hc] at hnone
  exact hnone

theorem splitChar_fileName (path : String) :
    splitChar '/' path = (splitChar '/' path).dropLast ++ [fileNameOf path] := by
  rw [fileNameOf, List.getLastD_eq_getLast?,
    List.getLast?_eq_some_getLast (splitChar_ne_nil '/' path), Option.getD_some,
    List.dropLast_append_getLast]

theorem slash_not_mem_fileName (path : String) : '/' ∉ (fileNameOf path).toList := by
  apply not_mem_of_mem_splitChar (s := path)
  rw [splitChar_fileName]
  simp

theorem join_concat {parts : List String} (hne : parts ≠ []) (part : String) :
    join "/" (parts ++ [part]) = join "/" parts ++ "/" ++ part := by
  have hslash : "/".toList = ['/'] := by decide
  apply String.toList_injective
  simp only [toList_join, String.toList_append, hslash, List.map_append, List.map_singleton]
  have hjoin : joinLines '/' (parts.map String.toList ++ [part.toList]) = _ :=
    joinLines_append (by simpa using hne) (by simp)
  simpa [joinLines] using hjoin

/-- A path is its file name, or its parent folder and its file name. -/
theorem parent_cases {path : String} (h : SafeRelative path) :
    let parent := if '/' ∉ path.toList then "" else join "/" (splitChar '/' path).dropLast
    (parent = "" ∧ path = fileNameOf path) ∨
      parent ≠ "" ∧ path = parent ++ "/" ++ fileNameOf path := by
  have hslash : "/" = ('/' : Char).toString := by decide
  intro parent
  simp only [parent]
  split
  next hno =>
    refine .inl ⟨rfl, ?_⟩
    rw [fileNameOf, splitChar_of_not_mem hno]
    rfl
  next hmem =>
    rw [not_not] at hmem
    have hjoin : join "/" (splitChar '/' path) = path := by rw [hslash, join_splitChar]
    rw [splitChar_fileName] at hjoin
    have hfolders : (splitChar '/' path).dropLast ≠ [] := by
      intro hnil
      rw [hnil, List.nil_append] at hjoin
      have hpath : path = fileNameOf path := by
        conv_lhs => rw [← hjoin]
        apply String.toList_injective
        rw [toList_join, List.map_singleton, List.intercalate_singleton]
      exact slash_not_mem_fileName path (hpath ▸ hmem)
    rw [join_concat hfolders] at hjoin
    refine .inr ⟨?_, hjoin.symm⟩
    intro hempty
    rw [hempty, String.empty_append] at hjoin
    have hrelative := h.relative
    rw [← hjoin] at hrelative
    exact absurd hrelative (by simp [startsWithChar])

theorem stemOf_starts (fileName : String) : (stemOf fileName).toList <+: fileName.toList := by
  rw [stemOf]
  split
  next => exact List.prefix_rfl
  next =>
    rw [stemBeforeLastDot, String.toList_ofList]
    exact (List.dropLast_prefix _).trans (List.rdropWhile_prefix _ _)

theorem stemOf_ne_empty {fileName : String} (h : fileName ≠ "") : stemOf fileName ≠ "" := by
  rw [stemOf]
  split
  next => exact h
  next hstem => exact hstem

theorem fileNameOf_ne_empty {path : String} (h : SafeRelative path) : fileNameOf path ≠ "" := by
  refine (h.components _ ?_).1
  rw [splitChar_fileName]
  simp

theorem safeRelative_of_name {name : String} (hslash : '/' ∉ name.toList)
    (hlong : 3 ≤ name.toList.length) : SafeRelative name := by
  have hne (other : String) (hshort : other.toList.length < 3) : name ≠ other := by
    rintro rfl
    omega
  refine ⟨hne "" (by decide), ?_, ?_⟩
  · rw [startsWithChar, beq_eq_false_iff_ne]
    intro hhead
    exact hslash (List.mem_of_head? hhead)
  · intro part hpart
    rw [splitChar_of_not_mem hslash, List.mem_singleton] at hpart
    rw [hpart]
    exact ⟨hne "" (by decide), hne "." (by decide), hne ".." (by decide)⟩

theorem startsWithChar_append {s : String} (hne : s ≠ "") (c : Char) (t : String) :
    startsWithChar c (s ++ t) = startsWithChar c s := by
  have hsymbols : s.toList ≠ [] := fun hnil => hne (String.toList_injective hnil)
  rw [startsWithChar, startsWithChar, String.toList_append,
    List.head?_append_of_ne_nil _ hsymbols]

theorem safeRelative_join_iff {folder name : String} (hne : folder ≠ "") :
    SafeRelative (folder ++ "/" ++ name) ↔
      SafeRelative folder ∧ ∀ part ∈ splitChar '/' name, part ≠ "" ∧ part ≠ "." ∧ part ≠ ".." := by
  have hslash : "/" = ('/' : Char).toString := by decide
  have hparts : splitChar '/' (folder ++ "/" ++ name) =
      splitChar '/' folder ++ splitChar '/' name := by
    rw [hslash, splitChar_append]
  have hhead : startsWithChar '/' (folder ++ "/" ++ name) = startsWithChar '/' folder := by
    rw [String.append_assoc, startsWithChar_append hne]
  constructor
  · intro h
    have hcomponents := h.components
    rw [hparts, List.forall_mem_append] at hcomponents
    exact ⟨⟨hne, hhead ▸ h.relative, hcomponents.1⟩, hcomponents.2⟩
  · rintro ⟨hfolder, hname⟩
    refine ⟨?_, hhead ▸ hfolder.relative, ?_⟩
    · intro hempty
      have := congrArg String.toList hempty
      simp at this
    · rw [hparts, List.forall_mem_append]
      exact ⟨hfolder.components, hname⟩

theorem toList_ne_nil {s : String} (h : s ≠ "") : s.toList ≠ [] :=
  fun hnil => h (String.toList_injective hnil)

theorem getParentFolderPath_safe (pathValue : Option String) :
    getParentFolderPath pathValue = "" ∨ SafeRelative (getParentFolderPath pathValue) := by
  unfold getParentFolderPath
  split
  next => exact .inl rfl
  next path hpath =>
    have hsafe := sanitizeWorkspacePath_safe hpath
    obtain ⟨hparent, -⟩ | ⟨hparent, hjoin⟩ := parent_cases hsafe
    · exact .inl hparent
    · refine .inr ?_
      rw [hjoin, safeRelative_join_iff hparent] at hsafe
      exact hsafe.1

theorem safeRelative_newName {path : String} (h : SafeRelative path) (language : String) :
    SafeRelative (stemOf (fileNameOf path) ++ getFileExtensionForLanguage language) := by
  have hext := extension_of_language language
  apply safeRelative_of_name
  · rw [String.toList_append, List.mem_append, not_or]
    exact ⟨fun hmem => slash_not_mem_fileName path ((stemOf_starts _).subset hmem), hext.no_slash⟩
  · have hlong := hext.long
    have hpos := List.length_pos_of_ne_nil
      (toList_ne_nil (stemOf_ne_empty (fileNameOf_ne_empty h)))
    rw [String.toList_append, List.length_append]
    omega

theorem adjusted_eq {pathValue : Option String} {path : String}
    (h : sanitizeWorkspacePath pathValue = some path) (language : String) :
    let parent := getParentFolderPath (some path)
    let name := stemOf (fileNameOf path) ++ getFileExtensionForLanguage language
    getLanguageAdjustedFilePath pathValue language =
      if parent = "" then name else parent ++ "/" ++ name := by
  have hname := fileNameOf_ne_empty (sanitizeWorkspacePath_safe h)
  unfold getLanguageAdjustedFilePath
  simp only [h, if_neg hname, if_neg (stemOf_ne_empty hname)]

theorem safeRelative_adjusted (pathValue : Option String) (language : String) :
    SafeRelative (getLanguageAdjustedFilePath pathValue language) := by
  cases hpath : sanitizeWorkspacePath pathValue with
  | none =>
      unfold getLanguageAdjustedFilePath
      rw [hpath]
      exact ((settled_iff_plain _).mp (settled_primaryFile language)).safe
  | some path =>
      have hname := safeRelative_newName (sanitizeWorkspacePath_safe hpath) language
      simp only [adjusted_eq hpath]
      split
      next => exact hname
      next hparent =>
        rw [safeRelative_join_iff hparent]
        exact ⟨(getParentFolderPath_safe _).resolve_left hparent, hname.components⟩

theorem adjusted_cases {path : String} (h : Settled path) (language : String) :
    let stem := stemOf (fileNameOf path)
    let ext := getFileExtensionForLanguage language
    let parent := getParentFolderPath (some path)
    (path = fileNameOf path ∧
        getLanguageAdjustedFilePath (some path) language = stem ++ ext) ∨
      (path = parent ++ "/" ++ fileNameOf path ∧
        getLanguageAdjustedFilePath (some path) language = parent ++ "/" ++ (stem ++ ext)) := by
  intro stem ext parent
  have hadjusted := adjusted_eq h.sanitize language
  simp only at hadjusted
  have hparent : parent =
      if '/' ∉ path.toList then "" else join "/" (splitChar '/' path).dropLast := by
    simp only [parent]
    unfold getParentFolderPath
    rw [h.sanitize]
  obtain ⟨hempty, hpath⟩ | ⟨hne, hpath⟩ := parent_cases ((settled_iff_plain path).mp h).safe
  · exact .inl ⟨hpath, by rw [hadjusted, if_pos (hparent.trans hempty)]⟩
  · rw [← hparent] at hne hpath
    exact .inr ⟨hpath, by rw [hadjusted, if_neg hne]⟩

theorem settled_adjusted {path : String} (h : Settled path) (language : String) :
    Settled (getLanguageAdjustedFilePath (some path) language) := by
  have hplain := (settled_iff_plain path).mp h
  have hext := extension_of_language language
  have hstem := stemOf_ne_empty (fileNameOf_ne_empty hplain.safe)
  have hprefix := stemOf_starts (fileNameOf path)
  have hsafe := safeRelative_adjusted (some path) language
  have hcases := adjusted_cases h language
  simp only at hcases
  generalize getFileExtensionForLanguage language = ext at hext hcases
  generalize getLanguageAdjustedFilePath (some path) language = target at hcases hsafe ⊢
  -- Up to its extension the new name is a nonempty prefix of the old one.
  obtain ⟨front, hfront, hpre, rfl⟩ : ∃ front : String, front ≠ "" ∧
      front.toList <+: path.toList ∧ target = front ++ ext := by
    obtain ⟨hpath, rfl⟩ | ⟨hpath, rfl⟩ := hcases
    · refine ⟨stemOf (fileNameOf path), hstem, ?_, rfl⟩
      conv_rhs => rw [hpath]
      exact hprefix
    · refine ⟨getParentFolderPath (some path) ++ "/" ++ stemOf (fileNameOf path), ?_, ?_,
        String.append_assoc.symm⟩
      · intro hempty
        have := congrArg String.toList hempty
        simp at this
      · conv_rhs => rw [hpath]
        simp only [String.toList_append]
        exact (List.prefix_append_right_inj _).mpr hprefix
  have hhead (c : Char) : startsWithChar c (front ++ ext) = startsWithChar c path := by
    obtain ⟨rest, hrest⟩ := hpre
    rw [startsWithChar_append hfront, startsWithChar, startsWithChar, ← hrest,
      List.head?_append_of_ne_nil _ (toList_ne_nil hfront)]
  rw [settled_iff_plain]
  refine ⟨hsafe, ⟨?_, ?_⟩, ?_, (hhead '.').trans hplain.no_dot, (hhead '~').trans hplain.no_tilde⟩
  · intro c hc
    refine hplain.trimmed.1 c ?_
    have := hhead c
    rw [startsWithChar, startsWithChar, beq_eq_beq] at this
    exact this.mp hc
  · intro c hc
    have hne : ext.toList ≠ [] := by
      intro hnil
      have hlong := hext.long
      simp [hnil] at hlong
    rw [String.toList_append, List.getLast?_append_of_ne_nil _ hne] at hc
    exact hext.last c hc
  · rw [String.toList_append, List.mem_append, not_or]
    exact ⟨fun hmem => hplain.no_backslash (hpre.subset hmem), hext.no_backslash⟩

def DotEnding (ending : String) : Prop :=
  ending.toList.head? = some '.' ∧ '.' ∉ ending.toList.tail

instance (ending : String) : Decidable (DotEnding ending) :=
  inferInstanceAs (Decidable (_ ∧ _))

/-- What stands from the last dot on is the only such ending that a text has. -/
theorem endsWith_iff_eq {text ending other : String} (hending : DotEnding ending)
    (hother : DotEnding other) (h : Python.endsWith text ending = true) :
    Python.endsWith text other = true ↔ other = ending := by
  have hunique {symbols : List Char} (hdot : symbols.head? = some '.')
      (hrest : '.' ∉ symbols.tail) (hsuffix : symbols <:+ text.toList) :
      symbols.tail = text.toList.rtakeWhile (· ≠ '.') := by
    obtain ⟨before, htext⟩ := hsuffix
    obtain ⟨rest, rfl⟩ := List.head?_eq_some_iff.mp hdot
    have hall : ∀ c ∈ rest.reverse, decide (c ≠ '.') = true := by
      intro c hc
      rw [decide_eq_true_eq]
      rintro rfl
      exact hrest (List.mem_reverse.mp hc)
    rw [← htext, List.rtakeWhile, List.reverse_append, List.reverse_cons, List.append_assoc,
      List.takeWhile_append_of_pos hall]
    simp
  have hsame {symbols : List Char} (hdot : symbols.head? = some '.') :
      symbols = '.' :: symbols.tail := by
    obtain ⟨rest, rfl⟩ := List.head?_eq_some_iff.mp hdot
    rfl
  rw [Python.endsWith, List.isSuffixOf_iff_suffix] at h ⊢
  constructor
  · intro hsuffix
    apply String.toList_injective
    rw [hsame hending.1, hsame hother.1, hunique hending.1 hending.2 h,
      hunique hother.1 hother.2 hsuffix]
  · rintro rfl
    exact h

theorem lower_append (a b : String) : lower (a ++ b) = lower a ++ lower b := by
  apply String.toList_injective
  simp [lower]

theorem matcher_of_ending {text ending : String} (hending : DotEnding ending)
    (h : Python.endsWith text ending = true) :
    (languagePathMatchers.find? fun entry => entry.2.any (Python.endsWith text)) =
      languagePathMatchers.find? fun entry => entry.2.any (· == ending) := by
  have hdots : ∀ entry ∈ languagePathMatchers, ∀ other ∈ entry.2, DotEnding other := by
    decide +kernel
  refine List.find?_congr fun entry hentry => ?_
  rw [Bool.eq_iff_iff, List.any_eq_true, List.any_eq_true]
  refine exists_congr fun other => and_congr_right fun hother => ?_
  rw [endsWith_iff_eq hending (hdots entry hentry other hother) h, beq_iff_eq]

/-- The new name is one of the selected language. -/
theorem inferLanguage_adjusted {path language : String} (h : Settled path)
    (hlanguage : language ∈ languageOptions) :
    inferLanguageFromPath (some (getLanguageAdjustedFilePath (some path) language)) =
      some language := by
  have htable : ∀ language ∈ languageOptions,
      lower (getFileExtensionForLanguage language) = getFileExtensionForLanguage language ∧
      DotEnding (getFileExtensionForLanguage language) ∧
      (languagePathMatchers.find? fun entry =>
        entry.2.any (· == getFileExtensionForLanguage language)).map Prod.fst =
          some language := by
    decide +kernel
  obtain ⟨hlower, hending, hmatcher⟩ := htable language hlanguage
  unfold inferLanguageFromPath
  rw [(settled_adjusted h language).sanitize]
  obtain ⟨front, hfront⟩ : ∃ front, getLanguageAdjustedFilePath (some path) language =
      front ++ getFileExtensionForLanguage language := by
    obtain ⟨-, htarget⟩ | ⟨-, htarget⟩ := adjusted_cases h language
    · exact ⟨_, htarget⟩
    · exact ⟨_, htarget.trans String.append_assoc.symm⟩
  have hends : Python.endsWith (lower (getLanguageAdjustedFilePath (some path) language))
      (getFileExtensionForLanguage language) = true := by
    rw [hfront, lower_append, hlower, Python.endsWith, List.isSuffixOf_iff_suffix,
      String.toList_append]
    exact List.suffix_append _ _
  rw [← hmatcher, ← matcher_of_ending hending hends]

/-! ## What is read back -/

theorem resolveWorkspaceEntryFile_mem {files : List WorkspaceFile} (hne : files ≠ [])
    (language : String) (preferred : Option String) :
    resolveWorkspaceEntryFile language files preferred ∈ paths files := by
  unfold resolveWorkspaceEntryFile
  simp only
  split
  next path hpath =>
    obtain ⟨-, hmem⟩ := Option.filter_eq_some_iff.mp hpath
    exact of_decide_eq_true hmem
  next =>
    split
    next hmem => exact hmem
    next =>
      obtain ⟨file, rest, rfl⟩ := List.exists_cons_of_ne_nil hne
      simp [paths]

theorem resolveWorkspaceEntryFile_settled {files : List WorkspaceFile} {path : String}
    (hsettled : Settled path) (hmem : path ∈ paths files) (language : String) :
    resolveWorkspaceEntryFile language files (some path) = path := by
  unfold resolveWorkspaceEntryFile
  rw [hsettled.sanitize, Option.filter_some, if_pos (decide_eq_true hmem)]

/-- The files of a workspace: at least one, with different paths that stay inside. -/
structure FilesSound (files : List WorkspaceFile) : Prop where
  nonempty : files ≠ []
  nodup : (paths files).Nodup
  safe : ∀ path ∈ paths files, SafeRelative path

theorem readIncoming_safe {file : IncomingFile} {read : WorkspaceFile}
    (h : readIncoming file = some read) : SafeRelative read.path := by
  rw [readIncoming, Option.map_eq_some_iff] at h
  obtain ⟨path, hpath, rfl⟩ := h
  exact sanitizeWorkspacePath_safe hpath

theorem normalizeWorkspaceFiles_sound (language : String) (files : Option (List IncomingFile))
    (primaryContent : Option String) :
    FilesSound (normalizeWorkspaceFiles language files primaryContent) := by
  have hempty := Keyed.empty_wellFormed WorkspaceFile.path
  rw [normalizeWorkspaceFiles]
  simp only
  split
  next =>
    refine ⟨List.cons_ne_nil _ _, List.nodup_singleton _, ?_⟩
    simpa [paths] using ((settled_iff_plain _).mp (settled_primaryFile language)).safe
  next hne =>
    refine ⟨hne, (Keyed.foldl_wellFormed WorkspaceFile.path hempty _).nodup, ?_⟩
    intro path hpath
    rw [paths, Keyed.mem_keys_foldl WorkspaceFile.path hempty] at hpath
    obtain ⟨read, hread, rfl⟩ := List.mem_map.mp (hpath.resolve_left (by simp [Keyed.empty]))
    obtain ⟨file, -, hfile⟩ := List.mem_filterMap.mp hread
    exact readIncoming_safe hfile

theorem readIncoming_ofFile {file : WorkspaceFile} (h : Settled file.path) :
    readIncoming (.ofFile file) = some file := by
  have hne : file.path ≠ "" := ((settled_iff_plain _).mp h).safe.nonempty
  rw [readIncoming, IncomingFile.ofFile]
  simp only [Option.getD_some, if_neg hne, h.sanitize, Option.map_some]

theorem normalizeWorkspaceFiles_of_settled {files : List WorkspaceFile} (hne : files ≠ [])
    (hnodup : (paths files).Nodup) (hsettled : ∀ path ∈ paths files, Settled path)
    (language : String) (primaryContent : Option String) :
    normalizeWorkspaceFiles language (some (files.map .ofFile)) primaryContent = files := by
  have hempty := Keyed.empty_wellFormed WorkspaceFile.path
  have hread : (files.map IncomingFile.ofFile).filterMap readIncoming = files := by
    have hsame : ∀ file ∈ files, (readIncoming ∘ IncomingFile.ofFile) file = some file := by
      intro file hfile
      rw [Function.comp_apply, readIncoming_ofFile]
      exact hsettled _ (List.mem_map_of_mem hfile)
    rw [List.filterMap_map, List.filterMap_congr hsame, List.filterMap_some]
  have hkept : (files.foldl (Keyed.add WorkspaceFile.path) .empty).entries = files := by
    rw [Keyed.foldl_of_nodup WorkspaceFile.path hempty (by simpa [Keyed.empty, paths] using hnodup)]
    simp [Keyed.empty]
  rw [normalizeWorkspaceFiles]
  simp only [Option.getD_some, hread, hkept, if_neg hne]

end JudgeVortex.Templates
