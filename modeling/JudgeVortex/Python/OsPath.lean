import JudgeVortex.Python.Text
import Mathlib.Data.List.DropRight

/-!
# Paths of the operating system

`os.path.join`, `dirname`, `basename` and `splitext`, and the names that a path passes on its
way from the root of a file system without symbolic links.
-/

namespace JudgeVortex.Python

def isAbsolute (path : String) : Bool := path.toList.head? == some '/'

def osPathJoin (base path : String) : String :=
  if isAbsolute path then path
  else if base = "" ∨ base.toList.getLast? = some '/' then base ++ path
  else base ++ "/" ++ path

def osPathDirname (path : String) : String :=
  let head := path.toList.rdropWhile (· != '/')
  .ofList (if head.all (· == '/') then head else head.rdropWhile (· == '/'))

def osPathBasename (path : String) : String :=
  .ofList (path.toList.rtakeWhile (· != '/'))

/-- `os.path.splitext`; leading dots of a name begin no extension. -/
def osPathSplitext (path : String) : String × String :=
  let directory := path.toList.rdropWhile (· != '/')
  let name := path.toList.rtakeWhile (· != '/')
  let stem := (name.rdropWhile (· != '.')).dropLast
  if stem.all (· == '.') then (path, "")
  else (.ofList (directory ++ stem), .ofList ('.' :: name.rtakeWhile (· != '.')))

example : osPathSplitext "a.b/Main.test.ts" = ("a.b/Main.test", ".ts") ∧
    osPathSplitext "src/..rc" = ("src/..rc", "") ∧ osPathBasename "src/a.py" = "a.py" := by
  decide

def enter (at_ : List String) (part : String) : List String :=
  if part = "" ∨ part = "." then at_
  else if part = ".." then at_.dropLast
  else at_ ++ [part]

def locate (path : String) : List String := (splitChar '/' path).foldl enter []

example : locate (osPathJoin "/box/" "src/a.py") = ["box", "src", "a.py"] ∧
    osPathDirname "/box/src/a.py" = "/box/src" := by decide

/-! ## Splitting -/

theorem splitChar_append (c : Char) (a b : String) :
    splitChar c (a ++ c.toString ++ b) = splitChar c a ++ splitChar c b := by
  have hlist : (a ++ c.toString ++ b).toList = a.toList ++ c :: b.toList := by simp
  rw [splitChar, hlist, List.splitOn_append_cons_self, List.map_append, splitChar, splitChar]

theorem splitChar_ne_nil (c : Char) (s : String) : splitChar c s ≠ [] := by
  simp [splitChar, List.splitOn_ne_nil]

theorem splitChar_of_not_mem {c : Char} {s : String} (h : c ∉ s.toList) :
    splitChar c s = [s] := by
  simp [splitChar, List.splitOn_eq_singleton h]

private theorem not_mem_of_mem_splitOn {c : Char} (text : List Char) :
    ∀ part ∈ text.splitOn c, c ∉ part := by
  induction text with
  | nil => simp
  | cons d text ih =>
      rw [List.splitOn_cons_eq_if_modifyHead]
      split
      next =>
        intro part hpart
        rcases List.mem_cons.mp hpart with rfl | hrest
        · simp
        · exact ih part hrest
      next hd =>
        cases hsplit : text.splitOn c with
        | nil => simp
        | cons first rest =>
            rw [hsplit] at ih
            intro part hpart
            rw [List.modifyHead_cons] at hpart
            rcases List.mem_cons.mp hpart with rfl | hrest
            · have hfirst := ih first (by simp)
              have hne : c ≠ d := fun heq => hd (by simp [heq])
              simp [hfirst, hne]
            · exact ih part (by simp [hrest])

theorem not_mem_of_mem_splitChar {c : Char} {s part : String} (h : part ∈ splitChar c s) :
    c ∉ part.toList := by
  obtain ⟨symbols, hsymbols, rfl⟩ := List.mem_map.mp h
  rw [String.toList_ofList]
  exact not_mem_of_mem_splitOn s.toList symbols hsymbols

theorem splitChar_join {c : Char} {parts : List String} (hne : parts ≠ [])
    (h : ∀ part ∈ parts, c ∉ part.toList) : splitChar c (join c.toString parts) = parts := by
  rw [splitChar, toList_join]
  have hsep : c.toString.toList = [c] := by simp
  rw [hsep, List.splitOn_intercalate c (by simpa using h) (by simpa using hne), List.map_map]
  have hid : String.ofList ∘ String.toList = id := funext fun s => by simp
  rw [hid, List.map_id]

/-! ## Where a joined path leads -/

theorem foldl_enter {parts : List String} (h : ∀ part ∈ parts, part ≠ "" ∧ part ≠ "." ∧ part ≠ "..")
    (start : List String) : parts.foldl enter start = start ++ parts := by
  induction parts generalizing start with
  | nil => simp
  | cons part parts ih =>
      obtain ⟨hempty, hdot, hdots⟩ := h part (by simp)
      rw [List.foldl_cons, ih fun p hp => h p (by simp [hp]), enter, if_neg (by simp [*]),
        if_neg hdots, List.append_assoc, List.singleton_append]

theorem locate_append (a b : String) :
    locate (a ++ "/" ++ b) = (splitChar '/' b).foldl enter (locate a) := by
  have hslash : "/" = ('/' : Char).toString := by decide
  rw [locate, hslash, splitChar_append, List.foldl_append, ← locate]

theorem locate_append_slash (a : String) : locate (a ++ "/") = locate a := by
  have h := locate_append a ""
  rw [String.append_empty] at h
  rw [h]
  rfl

theorem osPathJoin_cases (base : String) {path : String} (h : isAbsolute path = false) :
    osPathJoin base path = path ∧ base = "" ∨
      ∃ front, osPathJoin base path = front ++ "/" ++ path ∧ locate front = locate base := by
  rw [osPathJoin, h, if_neg (by simp)]
  split
  next hbase =>
    by_cases hempty : base = ""
    · exact .inl ⟨by rw [hempty, String.empty_append], hempty⟩
    · obtain ⟨front, hfront⟩ := List.getLast?_eq_some_iff.mp (hbase.resolve_left hempty)
      have hsplit : base = .ofList front ++ "/" := by
        apply String.toList_injective
        simp [hfront]
      exact .inr ⟨.ofList front, by rw [hsplit], by rw [hsplit, locate_append_slash]⟩
  next => exact .inr ⟨base, rfl, rfl⟩

theorem locate_osPathJoin (base : String) {path : String} (hrelative : isAbsolute path = false)
    (h : ∀ part ∈ splitChar '/' path, part ≠ "" ∧ part ≠ "." ∧ part ≠ "..") :
    locate (osPathJoin base path) = locate base ++ splitChar '/' path := by
  rcases osPathJoin_cases base hrelative with ⟨hjoin, rfl⟩ | ⟨front, hjoin, hfront⟩
  · rw [hjoin, locate, foldl_enter h]
    rfl
  · rw [hjoin, locate_append, foldl_enter h, hfront]

theorem getLast?_osPathJoin (base : String) {path : String} (hrelative : isAbsolute path = false) :
    (splitChar '/' (osPathJoin base path)).getLast? = (splitChar '/' path).getLast? := by
  rcases osPathJoin_cases base hrelative with ⟨hjoin, -⟩ | ⟨front, hjoin, -⟩
  · rw [hjoin]
  · have hslash : "/" = ('/' : Char).toString := by decide
    rw [hjoin, hslash, splitChar_append, List.getLast?_append_of_ne_nil _ (splitChar_ne_nil _ _)]

/-! ## The directory of a path -/

theorem locate_rdropWhile_slash (head : List Char) :
    locate (.ofList (head.rdropWhile (· == '/'))) = locate (.ofList head) := by
  induction head using List.reverseRecOn with
  | nil => rfl
  | append_singleton head c ih =>
      rw [List.rdropWhile_concat]
      split
      next hc =>
        have hslash : String.ofList (head ++ [c]) = .ofList head ++ "/" := by
          apply String.toList_injective
          simpa using hc
        rw [ih, hslash, locate_append_slash]
      next => rfl

theorem locate_osPathDirname (path : String) :
    locate (osPathDirname path) = locate (.ofList (path.toList.rdropWhile (· != '/'))) := by
  rw [osPathDirname]
  split
  · rfl
  · exact locate_rdropWhile_slash _

/-- A path leads into its directory, and there to its last part. -/
theorem locate_eq_enter (path : String) :
    ∃ name, (splitChar '/' path).getLast? = some name ∧
      locate path = enter (locate (osPathDirname path)) name := by
  have hsplit := List.rdropWhile_append_rtakeWhile (p := (· != '/')) (l := path.toList)
  have hlast := List.rdropWhile_last_not (· != '/') path.toList
  have hname : '/' ∉ path.toList.rtakeWhile (· != '/') := by
    intro hmem
    simpa using List.mem_rtakeWhile_imp hmem
  rw [locate_osPathDirname]
  generalize path.toList.rdropWhile (· != '/') = head at hsplit hlast ⊢
  generalize path.toList.rtakeWhile (· != '/') = tail at hsplit hname
  refine ⟨.ofList tail, ?_⟩
  rcases List.eq_nil_or_concat' head with rfl | ⟨front, c, rfl⟩
  · have hpath : path = .ofList tail := by
      apply String.toList_injective
      rw [← hsplit, List.nil_append, String.toList_ofList]
    have hparts : splitChar '/' path = [path] :=
      splitChar_of_not_mem (by rwa [hpath, String.toList_ofList])
    rw [locate, hparts, ← hpath]
    exact ⟨rfl, rfl⟩
  · have hc : c = '/' := by simpa using hlast (by simp)
    subst hc
    have hpath : path = .ofList front ++ "/" ++ .ofList tail := by
      apply String.toList_injective
      rw [← hsplit]
      simp
    have hfront : String.ofList (front ++ ['/']) = .ofList front ++ "/" := by
      apply String.toList_injective
      simp
    have hslash : "/" = ('/' : Char).toString := by decide
    have htail : splitChar '/' (.ofList tail) = [.ofList tail] :=
      splitChar_of_not_mem (by rwa [String.toList_ofList])
    rw [hfront, locate_append_slash]
    constructor
    · rw [hpath, hslash, splitChar_append, htail, List.getLast?_concat]
    · rw [hpath, locate_append, htail, List.foldl_cons, List.foldl_nil]

theorem locate_osPathDirname_join (base : String) {path : String} {dirs : List String}
    {name : String} (hrelative : isAbsolute path = false)
    (h : ∀ part ∈ splitChar '/' path, part ≠ "" ∧ part ≠ "." ∧ part ≠ "..")
    (hparts : splitChar '/' path = dirs ++ [name]) :
    locate (osPathDirname (osPathJoin base path)) = locate base ++ dirs := by
  obtain ⟨last, hlast, henter⟩ := locate_eq_enter (osPathJoin base path)
  rw [getLast?_osPathJoin base hrelative, hparts, List.getLast?_concat] at hlast
  obtain rfl := Option.some.inj hlast
  obtain ⟨hempty, hdot, hdots⟩ := h name (by rw [hparts]; simp)
  rw [locate_osPathJoin base hrelative h, hparts, enter, if_neg (by simp [*]), if_neg hdots,
    ← List.append_assoc] at henter
  exact (List.append_cancel_right henter).symm

end JudgeVortex.Python
