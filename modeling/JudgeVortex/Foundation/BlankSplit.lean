import JudgeVortex.Foundation.Lines

/-!
# Splitting a text at its blank lines

`splitBlank` is the regular-expression split at a newline, a greedy run of
whitespace and another newline.  `groupLines` says what it does to lines: the
first and the last line always belong to a group, and the other blank lines
separate the groups.
-/

namespace JudgeVortex.Foundation

section Split

variable {α : Type*} [DecidableEq α] (nl : α) (space : α → Bool)

/--
What follows the longest match of `\s*\n` at the head of a text.  A whitespace
symbol is consumed first and given back only if no newline follows it.
-/
def afterSpacesNewline : List α → Option (List α)
  | [] => none
  | c :: rest =>
      if space c then
        match afterSpacesNewline rest with
        | some tail => some tail
        | none => if c = nl then some rest else none
      else none

/--
The scan of the split, from left to right: `skip` symbols of a match are still to
be dropped, and `current` is the open piece in reverse.
-/
def splitBlankFrom : Nat → List α → List α → List (List α)
  | _, current, [] => [current.reverse]
  | skip + 1, current, _ :: rest => splitBlankFrom skip current rest
  | 0, current, c :: rest =>
      if c = nl then
        match afterSpacesNewline nl space rest with
        | some tail =>
            current.reverse :: splitBlankFrom (rest.length - tail.length) [] rest
        | none => splitBlankFrom 0 (c :: current) rest
      else splitBlankFrom 0 (c :: current) rest

/-- `re.split(r'\n\s*\n', text)`. -/
def splitBlank (text : List α) : List (List α) :=
  splitBlankFrom nl space 0 [] text

end Split

section Groups

variable {β : Type*} (blank : β → Bool)

def closeGroup : List β → List (List β)
  | [] => []
  | line :: current => [(line :: current).reverse]

def groupLinesFrom : List β → List β → List (List β)
  | current, [] => closeGroup current
  | current, [line] => [(line :: current).reverse]
  | current, line :: next :: rest =>
      if blank line then closeGroup current ++ groupLinesFrom [] (next :: rest)
      else groupLinesFrom (line :: current) (next :: rest)

def groupLines : List β → List (List β)
  | [] => []
  | first :: rest => groupLinesFrom blank [first] rest

private theorem closeGroup_flatten (current : List β) :
    (closeGroup current).flatten = current.reverse := by
  cases current with
  | nil => rfl
  | cons line current => simp [closeGroup]

private theorem groupLinesFrom_sublist (current lines : List β) :
    (groupLinesFrom blank current lines).flatten.Sublist
      (current.reverse ++ lines) := by
  induction lines generalizing current with
  | nil => simp [groupLinesFrom, closeGroup_flatten]
  | cons line lines ih =>
      cases lines with
      | nil => simp [groupLinesFrom]
      | cons next rest =>
          simp only [groupLinesFrom]
          split
          · rw [List.flatten_append, closeGroup_flatten]
            refine List.Sublist.append (List.Sublist.refl _) ?_
            exact (ih []).trans (List.sublist_cons_self _ _)
          · have hrest := ih (line :: current)
            rwa [List.reverse_cons, List.append_assoc, List.singleton_append] at hrest

theorem groupLines_sublist (lines : List β) :
    (groupLines blank lines).flatten.Sublist lines := by
  cases lines with
  | nil => exact List.Sublist.refl _
  | cons line rest => exact groupLinesFrom_sublist blank [line] rest

end Groups

/-! ## The split, line by line -/

section Lines

variable {α : Type*} [DecidableEq α] {nl : α} {space : α → Bool}

def skipBlankLines {β : Type*} (blank : β → Bool) : List β → List β
  | [] => []
  | [line] => [line]
  | line :: next :: rest =>
      if blank line then skipBlankLines blank (next :: rest)
      else line :: next :: rest

private theorem afterSpacesNewline_line {line : List α} (hline : nl ∉ line) :
    afterSpacesNewline nl space line = none := by
  induction line with
  | nil => rfl
  | cons c line ih =>
      rw [List.mem_cons, not_or] at hline
      simp [afterSpacesNewline, ih hline.2, Ne.symm hline.1]

private theorem afterSpacesNewline_blank {line : List α}
    (hblank : blankLine space line = true) (hnl : space nl = true)
    (text : List α) :
    afterSpacesNewline nl space (line ++ nl :: text) =
      some ((afterSpacesNewline nl space text).getD text) := by
  induction line with
  | nil =>
      simp only [List.nil_append, afterSpacesNewline, hnl, if_true]
      cases afterSpacesNewline nl space text <;> rfl
  | cons c line ih =>
      simp only [blankLine, List.all_cons, Bool.and_eq_true] at hblank
      simp [afterSpacesNewline, hblank.1, ih hblank.2]

private theorem afterSpacesNewline_solid {line : List α} (hline : nl ∉ line)
    (hsolid : blankLine space line = false) (text : List α) :
    afterSpacesNewline nl space (line ++ text) = none := by
  induction line with
  | nil => simp [blankLine] at hsolid
  | cons c line ih =>
      rw [List.mem_cons, not_or] at hline
      by_cases hc : space c = true
      · have hrest : blankLine space line = false := by
          simpa [blankLine, hc] using hsolid
        simp [afterSpacesNewline, ih hline.2 hrest, Ne.symm hline.1]
      · simp [afterSpacesNewline, hc]

theorem afterSpacesNewline_joinLines (hnl : space nl = true) (line : List α)
    (rest : List (List α)) (hlines : ∀ l ∈ line :: rest, nl ∉ l) :
    afterSpacesNewline nl space (joinLines nl (line :: rest)) =
      if rest ≠ [] ∧ blankLine space line = true then
        some (joinLines nl (skipBlankLines (blankLine space) rest))
      else none := by
  induction rest generalizing line with
  | nil => simp [afterSpacesNewline_line (hlines line (by simp))]
  | cons next rest ih =>
      have hnext := ih next fun l hl => hlines l (List.mem_cons_of_mem _ hl)
      rw [joinLines_cons_cons]
      cases hblank : blankLine space line with
      | false =>
          simp [afterSpacesNewline_solid (hlines line (by simp)) hblank]
      | true =>
          rw [afterSpacesNewline_blank hblank hnl, hnext]
          cases rest with
          | nil => simp [skipBlankLines]
          | cons second rest =>
              cases hskip : blankLine space next <;> simp [skipBlankLines, hskip]

theorem afterSpacesNewline_suffix {text tail : List α}
    (h : afterSpacesNewline nl space text = some tail) : tail <:+ text := by
  induction text with
  | nil => simp [afterSpacesNewline] at h
  | cons c text ih =>
      simp only [afterSpacesNewline] at h
      split at h
      · split at h
        next found =>
          cases h
          exact (ih found).trans (List.suffix_cons _ _)
        next =>
          split at h
          · cases h
            exact List.suffix_cons _ _
          · cases h
      · cases h

private theorem splitBlankFrom_skip (dropped current text : List α) :
    splitBlankFrom nl space dropped.length current (dropped ++ text) =
      splitBlankFrom nl space 0 current text := by
  induction dropped with
  | nil => rfl
  | cons c dropped ih => simpa [splitBlankFrom] using ih

private theorem splitBlankFrom_line {line : List α} (hline : nl ∉ line)
    (current text : List α) :
    splitBlankFrom nl space 0 current (line ++ text) =
      splitBlankFrom nl space 0 (line.reverse ++ current) text := by
  induction line generalizing current with
  | nil => rfl
  | cons c line ih =>
      rw [List.mem_cons, not_or] at hline
      simp [splitBlankFrom, Ne.symm hline.1, ih hline.2]

private theorem splitBlankFrom_newline (current text : List α) :
    splitBlankFrom nl space 0 current (nl :: text) =
      match afterSpacesNewline nl space text with
      | some tail => current.reverse :: splitBlankFrom nl space 0 [] tail
      | none => splitBlankFrom nl space 0 (nl :: current) text := by
  simp only [splitBlankFrom, if_true]
  cases hafter : afterSpacesNewline nl space text with
  | none => rfl
  | some tail =>
      obtain ⟨dropped, rfl⟩ := afterSpacesNewline_suffix hafter
      have hlength : (dropped ++ tail).length - tail.length = dropped.length := by
        simp
      simp only [hlength, splitBlankFrom_skip]

/--
The scan at a line boundary.  The first part is the scan inside a group, right
before the newline that ends the group's last line; the second is the scan right
after a match.
-/
private theorem splitBlankFrom_joinLines (hnl : space nl = true)
    (rest : List (List α)) (hrest : ∀ l ∈ rest, nl ∉ l) :
    (∀ current, current ≠ [] → rest ≠ [] →
      splitBlankFrom nl space 0 (joinLines nl current.reverse).reverse
          (nl :: joinLines nl rest) =
        (groupLinesFrom (blankLine space) current rest).map (joinLines nl)) ∧
    (rest ≠ [] →
      splitBlankFrom nl space 0 []
          (joinLines nl (skipBlankLines (blankLine space) rest)) =
        (groupLinesFrom (blankLine space) [] rest).map (joinLines nl)) := by
  induction rest with
  | nil => simp
  | cons line rest ih =>
      have hline : nl ∉ line := hrest line (by simp)
      obtain ⟨ihOpen, ihSkip⟩ := ih fun l hl => hrest l (List.mem_cons_of_mem _ hl)
      have hclose : ∀ current : List (List α), current ≠ [] →
          (closeGroup current).map (joinLines nl) =
            [joinLines nl current.reverse] := by
        intro current hcurrent
        cases current with
        | nil => exact absurd rfl hcurrent
        | cons last current => rfl
      -- Reading one more line of an open group extends the piece by that line.
      have hextend : ∀ current : List (List α), current ≠ [] →
          line.reverse ++ nl :: (joinLines nl current.reverse).reverse =
            (joinLines nl (line :: current).reverse).reverse := by
        intro current hcurrent
        rw [List.reverse_cons, joinLines_append (by simpa using hcurrent) (by simp)]
        simp
      cases rest with
      | nil =>
          constructor
          · intro current hcurrent _
            rw [splitBlankFrom_newline,
              afterSpacesNewline_joinLines hnl line [] (by simpa using hline)]
            simp only [ne_eq, not_true_eq_false, false_and, if_false,
              joinLines_singleton]
            rw [← List.append_nil line, splitBlankFrom_line hline,
              hextend current hcurrent]
            simp [splitBlankFrom, groupLinesFrom]
          · intro _
            simp only [skipBlankLines, joinLines_singleton]
            rw [← List.append_nil line, splitBlankFrom_line hline]
            simp [splitBlankFrom, groupLinesFrom]
      | cons next rest =>
          constructor
          · intro current hcurrent _
            rw [splitBlankFrom_newline, afterSpacesNewline_joinLines hnl line _ hrest]
            cases hblank : blankLine space line with
            | true =>
                simp only [ne_eq, reduceCtorEq, not_false_eq_true, and_self, if_true,
                  List.reverse_reverse, groupLinesFrom, hblank, List.map_append,
                  hclose current hcurrent, List.singleton_append]
                rw [ihSkip (by simp)]
            | false =>
                simp only [Bool.false_eq_true, and_false, if_false, groupLinesFrom,
                  hblank, joinLines_cons_cons]
                rw [splitBlankFrom_line hline, hextend current hcurrent]
                exact ihOpen (line :: current) (by simp) (by simp)
          · intro _
            cases hblank : blankLine space line with
            | true =>
                simp only [skipBlankLines, groupLinesFrom, hblank, if_true, closeGroup,
                  List.nil_append]
                exact ihSkip (by simp)
            | false =>
                simp only [skipBlankLines, groupLinesFrom, hblank, Bool.false_eq_true,
                  if_false, joinLines_cons_cons]
                rw [splitBlankFrom_line hline, List.append_nil]
                simpa using ihOpen [line] (by simp) (by simp)

theorem splitBlank_joinLines (hnl : space nl = true) (first : List α)
    (rest : List (List α)) (hlines : ∀ l ∈ first :: rest, nl ∉ l) :
    splitBlank nl space (joinLines nl (first :: rest)) =
      (groupLines (blankLine space) (first :: rest)).map (joinLines nl) := by
  have hfirst : nl ∉ first := hlines first (by simp)
  cases rest with
  | nil =>
      rw [splitBlank, joinLines_singleton, ← List.append_nil first,
        splitBlankFrom_line hfirst]
      simp [splitBlankFrom, groupLines, groupLinesFrom, closeGroup]
  | cons next rest =>
      rw [splitBlank, joinLines_cons_cons, splitBlankFrom_line hfirst, List.append_nil]
      have hopen := (splitBlankFrom_joinLines hnl (next :: rest)
        fun l hl => hlines l (List.mem_cons_of_mem _ hl)).1 [first] (by simp) (by simp)
      simpa [groupLines] using hopen

end Lines

end JudgeVortex.Foundation
