import JudgeVortex.Foundation.Trim

/-!
# Python strings

The string methods that the services use.  A Python `str` is a `String` here.
-/

namespace JudgeVortex.Python

open JudgeVortex.Foundation

/-- The symbols with `str.isspace`; `\s` matches the same ones. -/
def isSpace (c : Char) : Bool :=
  let n := c.toNat
  (0x09 ≤ n && n ≤ 0x0D) || (0x1C ≤ n && n ≤ 0x20) || n == 0x85 || n == 0xA0 ||
    n == 0x1680 || (0x2000 ≤ n && n ≤ 0x200A) || n == 0x2028 || n == 0x2029 ||
    n == 0x202F || n == 0x205F || n == 0x3000

@[simp] theorem isSpace_newline : isSpace '\n' = true := by decide

def strip (s : String) : String := .ofList (trim isSpace s.toList)

def rstrip (s : String) : String := .ofList (s.toList.rdropWhile isSpace)

def stripChar (c : Char) (s : String) : String := .ofList (trim (· == c) s.toList)

def rstripChar (c : Char) (s : String) : String := .ofList (s.toList.rdropWhile (· == c))

def endsWith (s suffix : String) : Bool := suffix.toList.isSuffixOf s.toList

@[simp] theorem toList_strip (s : String) :
    (strip s).toList = trim isSpace s.toList := by simp [strip]

@[simp] theorem toList_rstrip (s : String) :
    (rstrip s).toList = s.toList.rdropWhile isSpace := by simp [rstrip]

@[simp] theorem toList_stripChar (c : Char) (s : String) :
    (stripChar c s).toList = trim (· == c) s.toList := by simp [stripChar]

def splitChar (c : Char) (s : String) : List String :=
  (s.toList.splitOn c).map .ofList

def join (sep : String) (parts : List String) : String :=
  .ofList (sep.toList.intercalate (parts.map String.toList))

@[simp] theorem toList_join (sep : String) (parts : List String) :
    (join sep parts).toList = sep.toList.intercalate (parts.map String.toList) := by
  simp [join]

theorem join_splitChar (c : Char) (s : String) :
    join c.toString (splitChar c s) = s := by
  apply String.toList_injective
  rw [toList_join, splitChar, List.map_map]
  have hid : String.toList ∘ String.ofList = id := funext fun l => by simp
  simp [hid, List.intercalate_splitOn]

/--
`c.lower()`, as far as ASCII text can tell: besides the capital letters only the
Kelvin sign becomes an ASCII letter.
-/
def lowerChar (c : Char) : Char :=
  if 0x41 ≤ c.toNat ∧ c.toNat ≤ 0x5A then Char.ofNat (c.toNat + 0x20)
  else if c.toNat = 0x212A then 'k'
  else c

def lower (s : String) : String := .ofList (s.toList.map lowerChar)

/-! ## Replacement -/

/--
The scan of `replace` from left to right: `skip` symbols of the occurrence that
was replaced last are still to be dropped.
-/
def replaceFrom (old new : List Char) : Nat → List Char → List Char
  | _, [] => []
  | skip + 1, _ :: rest => replaceFrom old new skip rest
  | 0, c :: rest =>
      if old.isPrefixOf (c :: rest) then
        new ++ replaceFrom old new (old.length - 1) rest
      else c :: replaceFrom old new 0 rest

/-- `s.replace(old, new)` for a nonempty `old`. -/
def replace (old new s : String) : String :=
  .ofList (replaceFrom old.toList new.toList 0 s.toList)

@[simp] theorem toList_replace (old new s : String) :
    (replace old new s).toList = replaceFrom old.toList new.toList 0 s.toList := by
  simp [replace]

theorem replaceFrom_of_not_mem {old new text : List Char} {c : Char} (hold : c ∈ old)
    (htext : c ∉ text) : replaceFrom old new 0 text = text := by
  induction text with
  | nil => rfl
  | cons d text ih =>
      have hprefix : old.isPrefixOf (d :: text) = false := by
        rw [Bool.eq_false_iff]
        intro h
        exact htext ((List.isPrefixOf_iff_prefix.mp h).subset hold)
      rw [List.mem_cons, not_or] at htext
      simp [replaceFrom, hprefix, ih htext.2]

theorem replaceFrom_char (c : Char) (new text : List Char) :
    replaceFrom [c] new 0 text = text.flatMap fun x => if x = c then new else [x] := by
  induction text with
  | nil => rfl
  | cons x text ih =>
      simp only [replaceFrom, List.isPrefixOf, Bool.and_true, beq_iff_eq, List.length_cons,
        List.length_nil, Nat.zero_add, Nat.sub_self, ih, List.flatMap_cons]
      by_cases h : c = x
      · simp [h]
      · simp [h, Ne.symm h]

theorem replaceFrom_singleton (c d : Char) (text : List Char) :
    replaceFrom [c] [d] 0 text = text.map fun x => if x = c then d else x := by
  rw [replaceFrom_char, List.map_eq_flatMap]
  refine List.flatMap_congr fun x _ => ?_
  split <;> rfl

def replaceCarriageReturns (s : String) : String :=
  replace "\r" "\n" (replace "\r\n" "\n" s)

theorem replaceCarriageReturns_of_not_mem {s : String} (h : '\r' ∉ s.toList) :
    replaceCarriageReturns s = s := by
  apply String.toList_injective
  have hinner : replaceFrom "\r\n".toList "\n".toList 0 s.toList = s.toList :=
    replaceFrom_of_not_mem (c := '\r') (by decide) h
  rw [replaceCarriageReturns, toList_replace, toList_replace, hinner]
  exact replaceFrom_of_not_mem (c := '\r') (by decide) h

theorem replaceCarriageReturns_not_mem (s : String) :
    '\r' ∉ (replaceCarriageReturns s).toList := by
  rw [replaceCarriageReturns, toList_replace]
  have hone := replaceFrom_singleton '\r' '\n' (replace "\r\n" "\n" s).toList
  have hlits : "\r".toList = ['\r'] ∧ "\n".toList = ['\n'] := by decide
  rw [hlits.1, hlits.2, hone, List.mem_map]
  rintro ⟨x, -, hx⟩
  split at hx
  · exact absurd hx (by decide)
  · contradiction

/-! ## Line ends and the ends of a text -/

private theorem replaceFrom_pair_append {x y : Char} (new : List Char) :
    ∀ a b : List Char, ¬ (a.getLast? = some x ∧ b.head? = some y) →
      replaceFrom [x, y] new 0 (a ++ b) =
        replaceFrom [x, y] new 0 a ++ replaceFrom [x, y] new 0 b
  | [], b, _ => rfl
  | [c], b, h => by
      have hkeep : [x, y].isPrefixOf (c :: b) = false := by
        rw [Bool.eq_false_iff]
        intro hpre
        obtain ⟨rest, hrest⟩ := List.isPrefixOf_iff_prefix.mp hpre
        simp only [List.cons_append, List.nil_append, List.cons.injEq] at hrest
        exact h ⟨by simp [hrest.1], by simp [← hrest.2]⟩
      simp [replaceFrom, hkeep]
  | c :: d :: a, b, h => by
      have hlast : (c :: d :: a).getLast? = (d :: a).getLast? := by simp
      have hcons := replaceFrom_pair_append new (d :: a) b (by rwa [← hlast])
      have htail : a.getLast? = some x → (d :: a).getLast? = some x := by
        intro hsome
        cases a with
        | nil => cases hsome
        | cons e a => simpa using hsome
      have hskip := replaceFrom_pair_append new a b fun hboth => h ⟨by
        rw [hlast, htail hboth.1], hboth.2⟩
      by_cases hpre : x = c ∧ y = d
      · obtain ⟨rfl, rfl⟩ := hpre
        simp [replaceFrom, hskip]
      · have hkeep : ∀ rest, replaceFrom [x, y] new 0 (c :: d :: rest) =
            c :: replaceFrom [x, y] new 0 (d :: rest) := by
          intro rest
          have hfalse : [x, y].isPrefixOf (c :: d :: rest) = false := by
            simp only [List.isPrefixOf, Bool.and_true, Bool.and_eq_false_iff,
              beq_eq_false_iff_ne]
            tauto
          rw [replaceFrom, hfalse]
          rfl
        rw [List.cons_append] at hcons
        rw [List.cons_append, List.cons_append, hkeep, hkeep, hcons, List.cons_append]

private theorem mem_replaceFrom {old new : List Char} {c : Char} (text : List Char) (skip : Nat)
    (h : c ∈ replaceFrom old new skip text) : c ∈ new ∨ c ∈ text := by
  induction text generalizing skip with
  | nil => cases skip <;> cases h
  | cons d text ih =>
      cases skip with
      | succ skip => exact (ih skip h).imp_right (List.mem_cons_of_mem d)
      | zero =>
          rw [replaceFrom] at h
          split at h
          · exact (List.mem_append.mp h).elim .inl fun hrest =>
              (ih _ hrest).imp_right (List.mem_cons_of_mem d)
          · rcases List.mem_cons.mp h with rfl | hrest
            · exact .inr (by simp)
            · exact (ih 0 hrest).imp_right (List.mem_cons_of_mem d)

private theorem all_space_replaceCarriageReturns {s : String}
    (h : ∀ c ∈ s.toList, isSpace c = true) :
    ∀ c ∈ (replaceCarriageReturns s).toList, isSpace c = true := by
  have hnewline : ∀ c ∈ "\n".toList, isSpace c = true := by simp
  intro c hc
  rw [replaceCarriageReturns, toList_replace] at hc
  refine (mem_replaceFrom _ 0 hc).elim (hnewline c) fun hc => ?_
  rw [toList_replace] at hc
  exact (mem_replaceFrom _ 0 hc).elim (hnewline c) (h c)

private theorem replaceCarriageReturns_append {a b : String}
    (h : ¬ (a.toList.getLast? = some '\r' ∧ b.toList.head? = some '\n')) :
    replaceCarriageReturns (a ++ b) = replaceCarriageReturns a ++ replaceCarriageReturns b := by
  apply String.toList_injective
  have hpair : "\r\n".toList = ['\r', '\n'] := by decide
  have hsingle : "\r".toList = ['\r'] := by decide
  simp only [replaceCarriageReturns, toList_replace, String.toList_append, hpair, hsingle]
  rw [replaceFrom_pair_append _ _ _ h, replaceFrom_char, replaceFrom_char, replaceFrom_char,
    List.flatMap_append]

theorem strip_replaceCarriageReturns_strip (s : String) :
    strip (replaceCarriageReturns (strip s)) = strip (replaceCarriageReturns s) := by
  obtain ⟨before, after, heq, hbefore, hafter⟩ := trim_decomposition isSpace s.toList
  have hs : s = .ofList before ++ strip s ++ .ofList after := by
    apply String.toList_injective
    simpa using heq
  have htrimmed := trimmed_trim isSpace s.toList
  rw [← toList_strip] at htrimmed
  have hleft := all_space_replaceCarriageReturns (s := .ofList before) (by simpa using hbefore)
  have hright := all_space_replaceCarriageReturns (s := .ofList after) (by simpa using hafter)
  by_cases hempty : strip s = ""
  · have hall : ∀ c ∈ s.toList, isSpace c = true := by
      rw [← trim_eq_nil_iff, ← toList_strip, hempty]
      rfl
    apply String.toList_injective
    rw [hempty, toList_strip, toList_strip,
      (trim_eq_nil_iff isSpace).mpr (all_space_replaceCarriageReturns hall)]
    rfl
  · have hne : (strip s).toList ≠ [] := fun hnil => hempty (String.toList_injective hnil)
    have hjoin : replaceCarriageReturns s = replaceCarriageReturns (.ofList before) ++
        (replaceCarriageReturns (strip s) ++ replaceCarriageReturns (.ofList after)) := by
      conv_lhs => rw [hs, String.append_assoc]
      rw [replaceCarriageReturns_append, replaceCarriageReturns_append]
      · rintro ⟨hlast, -⟩
        have := htrimmed.2 _ hlast
        exact absurd this (by decide)
      · rintro ⟨-, hhead⟩
        rw [String.toList_append, List.head?_append_of_ne_nil _ hne] at hhead
        exact absurd (htrimmed.1 _ hhead) (by decide)
    apply String.toList_injective
    rw [toList_strip, toList_strip, hjoin, String.toList_append, String.toList_append,
      trim_append_left isSpace hleft, trim_append_right isSpace hright]

/-! ## Printed integers -/

theorem symbols_toString (n : Int) : ∀ c ∈ (toString n).toList, c.isDigit ∨ c = '-' := by
  have hdigits : ∀ m : ℕ, ∀ c ∈ m.repr.toList, c.isDigit := by
    intro m c hc
    rw [Nat.toList_repr] at hc
    exact Nat.isDigit_of_mem_toDigits (by decide) (by decide) hc
  intro c hc
  cases n with
  | ofNat m => exact .inl (hdigits m c hc)
  | negSucc m =>
      change c ∈ ("-" ++ (m + 1).repr).toList at hc
      rw [String.toList_append, List.mem_append] at hc
      exact hc.symm.imp (hdigits _ c) (by simp)

/-! ## Containment -/

def containsText (sub : List Char) : List Char → Bool
  | [] => sub.isEmpty
  | c :: rest => sub.isPrefixOf (c :: rest) || containsText sub rest

theorem containsText_iff (sub text : List Char) :
    containsText sub text = true ↔ sub <:+: text := by
  induction text with
  | nil => simp [containsText]
  | cons c rest ih =>
      rw [containsText, Bool.or_eq_true, List.isPrefixOf_iff_prefix, ih,
        List.infix_cons_iff]

end JudgeVortex.Python
