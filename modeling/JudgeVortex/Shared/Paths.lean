import JudgeVortex.Foundation.Lines
import JudgeVortex.Python.Text

/-!
# Safe relative paths

The body of the two path sanitizers, `sanitize_relative_file_path` in
`core_api/views.py` and `_sanitize_relative_file_path` in
`executor_service/sandbox.py`.  They differ in a bound on the length only.
-/

namespace JudgeVortex.Shared

open JudgeVortex.Foundation JudgeVortex.Python

def pathCandidate (text : String) : String :=
  stripChar '/' (strip (replace "\\" "/" text))

def startsWithChar (c : Char) (s : String) : Bool := s.toList.head? == some c

def checkCandidate (maxLength : Option Nat) (candidate : String) : Option String :=
  if candidate = "" ∨ startsWithChar '.' candidate ∨ startsWithChar '~' candidate ∨
      containsText ['/', '/'] candidate.toList then none
  else
    let parts := (splitChar '/' candidate).filter fun part => part ≠ ""
    if parts = [] ∨ "." ∈ parts ∨ ".." ∈ parts then none
    else
      let normalized := join "/" parts
      if ∃ n ∈ maxLength, n < normalized.length then none else some normalized

def safePath (maxLength : Option Nat) (text : String) : Option String :=
  checkCandidate maxLength (pathCandidate text)

example : safePath none " /src\\main.py" = some "src/main.py" ∧
    safePath none "/ a.py" = some " a.py" := by decide

private theorem splitOn_ne_nil_of_trimmed {text : List Char} (hne : text ≠ [])
    (htrimmed : Trimmed (· == '/') text) (hdouble : ¬ ['/', '/'] <:+: text) :
    ∀ part ∈ text.splitOn '/', part ≠ [] := by
  rintro part hpart rfl
  obtain ⟨before, after, hsplit⟩ := List.append_of_mem hpart
  have hjoin : joinLines '/' (before ++ [] :: after) = text := by
    rw [← hsplit]
    exact List.intercalate_splitOn '/'
  cases before with
  | nil =>
      cases after with
      | nil => exact hne (by simpa using hjoin.symm)
      | cons next after =>
          rw [List.nil_append, joinLines_cons_cons, List.nil_append] at hjoin
          have := htrimmed.1 '/' (by rw [← hjoin]; rfl)
          simp at this
  | cons first before =>
      rw [joinLines_append (by simp) (by simp)] at hjoin
      cases after with
      | nil =>
          have := htrimmed.2 '/' (by rw [← hjoin]; simp)
          simp at this
      | cons next after =>
          rw [joinLines_cons_cons, List.nil_append] at hjoin
          refine hdouble ⟨joinLines '/' (first :: before), joinLines '/' (next :: after), ?_⟩
          rw [← hjoin]
          simp

/-- A relative path that stays below the directory that it is joined to. -/
structure SafeRelative (path : String) : Prop where
  nonempty : path ≠ ""
  relative : startsWithChar '/' path = false
  components : ∀ part ∈ splitChar '/' path, part ≠ "" ∧ part ≠ "." ∧ part ≠ ".."

theorem splitChar_ne_empty {candidate : String} (hne : candidate ≠ "")
    (htrimmed : Trimmed (· == '/') candidate.toList)
    (hdouble : ¬ ['/', '/'] <:+: candidate.toList) :
    ∀ part ∈ splitChar '/' candidate, part ≠ "" := by
  intro part hpart
  obtain ⟨symbols, hsymbols, rfl⟩ := List.mem_map.mp hpart
  have hnil := splitOn_ne_nil_of_trimmed (by simpa using hne) htrimmed hdouble symbols hsymbols
  intro hempty
  have := congrArg String.toList hempty
  simp_all

theorem SafeRelative.no_empty_component {path : String} (h : SafeRelative path)
    (before after : List Char) : path.toList ≠ before ++ '/' :: '/' :: after := by
  intro hpath
  refine (h.components "" ?_).1 rfl
  rw [splitChar, hpath, List.splitOn_append_cons_self, List.map_append, List.mem_append]
  have hempty := List.splitOn_append_cons_self (a := '/') [] after
  rw [List.nil_append] at hempty
  rw [hempty]
  exact .inr (by simp)

theorem SafeRelative.trimmed {path : String} (h : SafeRelative path) :
    Trimmed (· == '/') path.toList := by
  constructor
  · intro c hc
    have hrelative := h.relative
    rw [startsWithChar, beq_eq_false_iff_ne] at hrelative
    rw [beq_eq_false_iff_ne]
    rintro rfl
    exact hrelative hc
  · intro c hc
    rw [beq_eq_false_iff_ne]
    rintro rfl
    obtain ⟨before, hpath⟩ := List.getLast?_eq_some_iff.mp hc
    refine (h.components "" ?_).1 rfl
    rw [splitChar, hpath, List.splitOn_append_cons_self]
    simp

/-- Every check as a fact about the candidate; what passes them is the candidate itself. -/
theorem checkCandidate_eq_some_iff {maxLength : Option Nat} {candidate path : String}
    (htrimmed : Trimmed (· == '/') candidate.toList) :
    checkCandidate maxLength candidate = some path ↔
      path = candidate ∧ SafeRelative candidate ∧ startsWithChar '.' candidate = false ∧
        startsWithChar '~' candidate = false ∧ ∀ n ∈ maxLength, candidate.length ≤ n := by
  have hslash : "/" = ('/' : Char).toString := by decide
  have hfilter (hparts : ∀ part ∈ splitChar '/' candidate, part ≠ "") :
      (splitChar '/' candidate).filter (fun part => part ≠ "") = splitChar '/' candidate := by
    rw [List.filter_eq_self]
    simpa using hparts
  rw [checkCandidate]
  constructor
  · intro h
    split at h
    · cases h
    next hchecks =>
      simp only [not_or, Bool.not_eq_true] at hchecks
      obtain ⟨hne, hdot, htilde, hdouble⟩ := hchecks
      rw [← Bool.not_eq_true, containsText_iff] at hdouble
      have hparts := splitChar_ne_empty hne htrimmed hdouble
      simp only [hfilter hparts, hslash, join_splitChar] at h
      split at h
      · cases h
      next hdots =>
        split at h
        · cases h
        next hlength =>
          simp only [not_or] at hdots
          refine ⟨(Option.some.inj h).symm,
            ⟨hne, ?_, fun part hpart => ⟨hparts part hpart, ?_, ?_⟩⟩, hdot, htilde,
            fun n hn => by_contra fun hlt => hlength ⟨n, hn, by omega⟩⟩
          · rw [startsWithChar, beq_eq_false_iff_ne]
            intro hhead
            simpa using htrimmed.1 '/' hhead
          · rintro rfl
            exact hdots.2.1 hpart
          · rintro rfl
            exact hdots.2.2 hpart
  · rintro ⟨rfl, hsafe, hdot, htilde, hlength⟩
    have hdouble : containsText ['/', '/'] path.toList = false := by
      rw [← Bool.not_eq_true, containsText_iff]
      rintro ⟨before, after, hpath⟩
      exact hsafe.no_empty_component before after (by simpa using hpath.symm)
    rw [if_neg (by simp [hsafe.nonempty, hdot, htilde, hdouble])]
    simp only [hfilter fun part hpart => (hsafe.components part hpart).1, hslash, join_splitChar]
    rw [if_neg, if_neg]
    · rintro ⟨n, hn, hlt⟩
      have := hlength n hn
      omega
    · rw [not_or, not_or]
      refine ⟨by simp [splitChar, List.splitOn_ne_nil], fun hmem => ?_, fun hmem => ?_⟩
      · exact (hsafe.components _ hmem).2.1 rfl
      · exact (hsafe.components _ hmem).2.2 rfl

theorem trimmed_pathCandidate (text : String) :
    Trimmed (· == '/') (pathCandidate text).toList := by
  rw [pathCandidate, toList_stripChar]
  exact trimmed_trim _ _

theorem safePath_spec {maxLength : Option Nat} {text path : String}
    (h : safePath maxLength text = some path) :
    path = pathCandidate text ∧ SafeRelative path ∧ ∀ n ∈ maxLength, path.length ≤ n := by
  rw [safePath, checkCandidate_eq_some_iff (trimmed_pathCandidate text)] at h
  obtain ⟨rfl, hsafe, -, -, hlength⟩ := h
  exact ⟨rfl, hsafe, hlength⟩

theorem safePath_eq_candidate {maxLength : Option Nat} {text path : String}
    (h : safePath maxLength text = some path) : path = pathCandidate text :=
  (safePath_spec h).1

theorem length_pathCandidate_le (text : String) :
    (pathCandidate text).toList.length ≤ text.toList.length := by
  have hlits : "\\".toList = ['\\'] ∧ "/".toList = ['/'] := by decide
  rw [pathCandidate, toList_stripChar, toList_strip, toList_replace, hlits.1, hlits.2,
    replaceFrom_singleton]
  refine (length_trim_le _ _).trans ((length_trim_le _ _).trans ?_)
  rw [List.length_map]

theorem backslash_not_mem_replace (text : String) :
    '\\' ∉ (replace "\\" "/" text).toList := by
  have hlits : "\\".toList = ['\\'] ∧ "/".toList = ['/'] := by decide
  rw [toList_replace, hlits.1, hlits.2, replaceFrom_singleton]
  intro hmem
  obtain ⟨c, -, hc⟩ := List.mem_map.mp hmem
  split at hc
  next => exact absurd hc (by decide)
  next hne => exact hne hc

theorem replace_backslash_of_not_mem {text : String} (h : '\\' ∉ text.toList) :
    replace "\\" "/" text = text := by
  apply String.toList_injective
  rw [toList_replace]
  exact replaceFrom_of_not_mem (c := '\\') (by decide) h

theorem backslash_not_mem_pathCandidate (text : String) :
    '\\' ∉ (pathCandidate text).toList := by
  rw [pathCandidate, toList_stripChar, toList_strip]
  intro hmem
  exact backslash_not_mem_replace text
    ((trim_sublist _ _).subset ((trim_sublist _ _).subset hmem))

/-- Sanitizing again only strips whitespace, and the slashes that this bares. -/
theorem pathCandidate_pathCandidate (text : String) :
    pathCandidate (pathCandidate text) = stripChar '/' (strip (pathCandidate text)) := by
  rw [pathCandidate, replace_backslash_of_not_mem (backslash_not_mem_pathCandidate text)]

theorem pathCandidate_eq_self_iff (text : String) :
    pathCandidate (pathCandidate text) = pathCandidate text ↔
      strip (pathCandidate text) = pathCandidate text := by
  rw [pathCandidate_pathCandidate]
  constructor
  · intro h
    have hlength := congrArg (fun s => s.toList.length) h
    simp only [toList_stripChar, toList_strip] at hlength
    have hslash := length_trim_le (· == '/') (trim isSpace (pathCandidate text).toList)
    have hspace := length_trim_le isSpace (pathCandidate text).toList
    apply String.toList_injective
    rw [toList_strip]
    exact (length_trim_eq_iff isSpace).mp (by omega)
  · intro h
    rw [h]
    apply String.toList_injective
    rw [toList_stripChar, pathCandidate, toList_stripChar, trim_trim]

theorem safePath_again_iff {maxLength : Option Nat} {text path : String}
    (h : safePath maxLength text = some path) :
    safePath none path = some path ↔ strip path = path := by
  obtain rfl := safePath_eq_candidate h
  rw [← pathCandidate_eq_self_iff]
  constructor
  · exact fun hagain => (safePath_eq_candidate hagain).symm
  · intro hfixed
    have htrimmed := trimmed_pathCandidate text
    rw [safePath, checkCandidate_eq_some_iff htrimmed] at h
    obtain ⟨-, hsafe, hdot, htilde, -⟩ := h
    rw [safePath, hfixed, checkCandidate_eq_some_iff htrimmed]
    exact ⟨rfl, hsafe, hdot, htilde, by simp⟩

theorem length_safePath_lt {maxLength : Option Nat} {text path again : String}
    (h : safePath maxLength text = some path) (hagain : safePath none path = some again)
    (hne : again ≠ path) : again.toList.length < path.toList.length := by
  obtain rfl := safePath_eq_candidate hagain
  refine lt_of_le_of_ne (length_pathCandidate_le path) fun hlength => hne ?_
  obtain rfl := safePath_eq_candidate h
  rw [pathCandidate_pathCandidate, toList_stripChar, toList_strip] at hlength
  have hslash := length_trim_le (· == '/') (trim isSpace (pathCandidate text).toList)
  have hspace := length_trim_le isSpace (pathCandidate text).toList
  rw [pathCandidate_eq_self_iff]
  apply String.toList_injective
  rw [toList_strip]
  exact (length_trim_eq_iff isSpace).mp (by omega)

/-- A path that passes the checks is read back as it is, unless it is trimmed or too long. -/
theorem safePath_self_iff {maxLength : Option Nat} {path : String} (hsafe : SafeRelative path)
    (hbackslash : '\\' ∉ path.toList) (hdot : startsWithChar '.' path = false)
    (htilde : startsWithChar '~' path = false) :
    safePath maxLength path = some path ↔
      strip path = path ∧ ∀ n ∈ maxLength, path.length ≤ n := by
  have hcandidate : pathCandidate path = stripChar '/' (strip path) := by
    rw [pathCandidate, replace_backslash_of_not_mem hbackslash]
  have hslashes : stripChar '/' path = path := by
    apply String.toList_injective
    rw [toList_stripChar, trim_of_trimmed _ hsafe.trimmed]
  constructor
  · intro h
    refine ⟨?_, (safePath_spec h).2.2⟩
    have hlength := congrArg (fun s => s.toList.length) (safePath_eq_candidate h)
    simp only [hcandidate, toList_stripChar, toList_strip] at hlength
    have hslash := length_trim_le (· == '/') (trim isSpace path.toList)
    have hspace := length_trim_le isSpace path.toList
    apply String.toList_injective
    rw [toList_strip]
    exact (length_trim_eq_iff isSpace).mp (by omega)
  · rintro ⟨hstrip, hlength⟩
    rw [safePath, hcandidate, hstrip, hslashes,
      checkCandidate_eq_some_iff hsafe.trimmed]
    exact ⟨rfl, hsafe, hdot, htilde, hlength⟩

-- Later modules reason by the lemmas above and never by evaluating the checks.
attribute [irreducible] safePath

end JudgeVortex.Shared
