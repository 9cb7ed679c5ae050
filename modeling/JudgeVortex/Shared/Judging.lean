import JudgeVortex.Foundation.Paragraphs
import JudgeVortex.Python.Text

/-!
# Judge cases

`shared/judging.py`: how an output is normalized before it is compared, and how
the two texts of a question are cut into test cases.
-/

namespace JudgeVortex.Shared

open JudgeVortex.Foundation JudgeVortex.Python

structure TestCase where
  input : String
  expectedOutput : String
  deriving DecidableEq, Repr

def normalizeJudgeOutput (value : String) : String :=
  let normalized := strip (replaceCarriageReturns value)
  join "\n" ((splitChar '\n' normalized).map rstrip)

def splitCaseBlocks (value : String) : List String :=
  let normalized := stripChar '\n' (replaceCarriageReturns value)
  if normalized = "" then []
  else
    let pieces := (splitBlank '\n' isSpace normalized.toList).map String.ofList
    (pieces.filter fun block => strip block ≠ "").map (stripChar '\n')

def buildTestcases (testcaseInput expectedOutput : String) : List TestCase :=
  let inputBlocks := splitCaseBlocks testcaseInput
  let outputBlocks := (splitCaseBlocks expectedOutput).map normalizeJudgeOutput
  if 1 < outputBlocks.length ∧ inputBlocks.length = outputBlocks.length then
    List.zipWith TestCase.mk inputBlocks outputBlocks
  else [⟨testcaseInput, normalizeJudgeOutput expectedOutput⟩]

def getTestcaseCount (testcaseInput expectedOutput : String) : Nat :=
  (buildTestcases testcaseInput expectedOutput).length

example : buildTestcases "1\n\n2" "1\n\n4" = [⟨"1", "1"⟩, ⟨"2", "4"⟩] := by decide

theorem buildTestcases_ne_nil (testcaseInput expectedOutput : String) :
    buildTestcases testcaseInput expectedOutput ≠ [] := by
  intro h
  have hlength := congrArg List.length h
  unfold buildTestcases at hlength
  simp only at hlength
  split at hlength
  case isTrue hcond =>
      rw [List.length_zipWith, hcond.2, Nat.min_self, List.length_nil] at hlength
      omega
  case isFalse => simp at hlength

/-! ## Texts and their lines -/

def lines (s : String) : List (List Char) := s.toList.splitOn '\n'

def ofLines (ls : List (List Char)) : String := .ofList (joinLines '\n' ls)

def blank : List Char → Bool := blankLine isSpace

@[simp] theorem toList_ofLines (ls : List (List Char)) :
    (ofLines ls).toList = joinLines '\n' ls := by simp [ofLines]

@[simp] theorem ofLines_lines (s : String) : ofLines (lines s) = s := by
  apply String.toList_injective
  rw [toList_ofLines]
  exact List.intercalate_splitOn '\n'

theorem newline_not_mem_lines {s : String} {line : List Char} (h : line ∈ lines s) :
    '\n' ∉ line :=
  not_mem_of_mem_splitOn h

theorem lines_ofLines {ls : List (List Char)} (hne : ls ≠ [])
    (h : ∀ line ∈ ls, '\n' ∉ line) : lines (ofLines ls) = ls := by
  rw [lines, toList_ofLines]
  exact List.splitOn_intercalate '\n' h hne

theorem blank_of_isEmpty {line : List Char} (h : line.isEmpty = true) :
    blank line = true := by
  rw [List.isEmpty_iff.mp h]
  rfl

theorem stripChar_newline (s : String) :
    stripChar '\n' s = ofLines (trim List.isEmpty (lines s)) := by
  apply String.toList_injective
  have h : trim (· == '\n') (joinLines '\n' (lines s)) =
      joinLines '\n' (trim List.isEmpty (lines s)) :=
    trim_joinLines fun _ hline => newline_not_mem_lines hline
  have hjoin : joinLines '\n' (lines s) = s.toList := List.intercalate_splitOn '\n'
  rw [toList_stripChar, toList_ofLines, ← h, hjoin]

theorem stripChar_newline_ofLines {ls : List (List Char)}
    (h : ∀ line ∈ ls, '\n' ∉ line) :
    stripChar '\n' (ofLines ls) = ofLines (trim List.isEmpty ls) := by
  apply String.toList_injective
  rw [toList_stripChar, toList_ofLines, toList_ofLines, trim_joinLines h]

theorem strip_ofLines_ne_empty_iff (ls : List (List Char)) :
    strip (ofLines ls) ≠ "" ↔ hasSolid blank ls = true := by
  have hall : blankLine isSpace (joinLines '\n' ls) = ls.all (blankLine isSpace) :=
    blankLine_joinLines isSpace_newline ls
  have hempty : strip (ofLines ls) = "" ↔ (joinLines '\n' ls).all isSpace = true := by
    rw [← String.toList_inj, toList_strip, toList_ofLines, String.toList_empty,
      trim_eq_nil_iff, List.all_eq_true]
  rw [ne_eq, hempty, ← blankLine, hall, hasSolid, List.any_eq_true]
  simp [blank]

/-! ## Blocks -/

def caseGroups (s : String) : List (List (List Char)) :=
  (groupLines blank (trim List.isEmpty (lines s))).filter (hasSolid blank)

def paragraphCount (s : String) : Nat := (paragraphs blank (lines s)).length

theorem mem_of_mem_caseGroups {s : String} {group : List (List Char)}
    (hgroup : group ∈ caseGroups s) {line : List Char} (hline : line ∈ group) :
    line ∈ lines s := by
  have hmem := List.mem_flatten_of_mem (List.mem_of_mem_filter hgroup) hline
  exact (trim_sublist _ _).subset ((groupLines_sublist blank _).subset hmem)

theorem splitCaseBlocks_eq {s : String} (h : '\r' ∉ s.toList) :
    splitCaseBlocks s =
      (caseGroups s).map fun group => ofLines (trim List.isEmpty group) := by
  have hlines : ∀ line ∈ trim List.isEmpty (lines s), '\n' ∉ line := fun line hline =>
    newline_not_mem_lines ((trim_sublist _ _).subset hline)
  unfold splitCaseBlocks
  simp only [replaceCarriageReturns_of_not_mem h, stripChar_newline s]
  cases htrim : trim List.isEmpty (lines s) with
  | nil => simp [caseGroups, htrim, groupLines, ofLines]
  | cons first rest =>
      have hne : ofLines (first :: rest) ≠ "" := by
        intro hempty
        have hsolid := (trimmed_trim List.isEmpty (lines s)).1 first (by simp [htrim])
        rw [← String.toList_inj, toList_ofLines, String.toList_empty] at hempty
        cases rest with
        | nil => simp_all
        | cons next rest => simp at hempty
      rw [htrim] at hlines
      have hsplit : (splitBlank '\n' isSpace (joinLines '\n' (first :: rest))).map
          String.ofList = (groupLines blank (first :: rest)).map ofLines := by
        rw [splitBlank_joinLines isSpace_newline first rest hlines, List.map_map]
        rfl
      rw [if_neg hne, toList_ofLines, hsplit, List.filter_map, caseGroups, htrim,
        List.map_map]
      have hsame : ∀ group ∈ groupLines blank (first :: rest),
          ((fun block => decide (strip block ≠ "")) ∘ ofLines) group =
            hasSolid blank group := fun group _ =>
        Bool.eq_iff_iff.mpr (by simpa using strip_ofLines_ne_empty_iff group)
      rw [List.filter_congr hsame]
      apply List.map_congr_left
      intro group hgroup
      refine stripChar_newline_ofLines fun line hline => ?_
      refine newline_not_mem_lines (mem_of_mem_caseGroups (s := s) ?_ hline)
      rw [caseGroups, htrim]
      exact hgroup

theorem paragraphs_trim (ls : List (List Char)) :
    paragraphs blank (trim List.isEmpty ls) = paragraphs blank ls := by
  obtain ⟨before, after, heq, hbefore, hafter⟩ := trim_decomposition List.isEmpty ls
  conv_rhs => rw [heq]
  rw [paragraphs_append_blanks blank fun b hb => blank_of_isEmpty (hafter b hb),
    paragraphs_blanks_append blank fun b hb => blank_of_isEmpty (hbefore b hb)]

theorem length_caseGroups (s : String) : (caseGroups s).length = paragraphCount s := by
  rw [caseGroups, length_groupLines, paragraphCount, paragraphs_trim]

theorem length_splitCaseBlocks {s : String} (h : '\r' ∉ s.toList) :
    (splitCaseBlocks s).length = paragraphCount s := by
  rw [splitCaseBlocks_eq h, List.length_map, length_caseGroups]

/-! ## Texts that are joined with an empty line -/

theorem lines_join {texts : List String} (hne : texts ≠ []) :
    lines (join "\n\n" texts) = joinLines [] (texts.map lines) := by
  have hsep : "\n\n".toList = ['\n', '\n'] := by decide
  rw [lines, toList_join, hsep, splitOn_intercalate_empty_line (by simpa using hne),
    List.map_map]
  rfl

theorem not_mem_join {c : Char} {texts : List String} (hc : c ≠ '\n')
    (h : ∀ text ∈ texts, c ∉ text.toList) : c ∉ (join "\n\n" texts).toList := by
  intro hmem
  cases htexts : texts with
  | nil =>
      rw [htexts] at hmem
      simp at hmem
  | cons first rest =>
      rw [← ofLines_lines (join "\n\n" texts), lines_join (by simp [htexts]),
        toList_ofLines] at hmem
      rcases mem_joinLines hmem with hnl | ⟨line, hline, hmem⟩
      · exact hc hnl
      · rcases mem_joinLines hline with rfl | ⟨part, hpart, hline⟩
        · cases hmem
        · obtain ⟨text, htext, rfl⟩ := List.mem_map.mp hpart
          exact h text htext (mem_of_mem_splitOn hline hmem)

theorem paragraphs_join {texts : List String} (hne : texts ≠ []) :
    paragraphs blank (lines (join "\n\n" texts)) =
      texts.flatMap fun text => paragraphs blank (lines text) := by
  have hblank : blank [] = true := rfl
  rw [lines_join hne, paragraphs_joinLines blank hblank, List.flatMap_map]

private theorem length_le_length_flatMap {α β : Type*} {f : α → List β} {xs : List α}
    (hpos : ∀ x ∈ xs, 1 ≤ (f x).length) : xs.length ≤ (xs.flatMap f).length := by
  induction xs with
  | nil => simp
  | cons x xs ih =>
      have hrest := ih fun y hy => hpos y (List.mem_cons_of_mem _ hy)
      have hhead := hpos x (by simp)
      simp only [List.flatMap_cons, List.length_append, List.length_cons]
      omega

private theorem length_eq_one_of_length_flatMap {α β : Type*} {f : α → List β}
    {xs : List α} (hpos : ∀ x ∈ xs, 1 ≤ (f x).length)
    (h : (xs.flatMap f).length = xs.length) : ∀ x ∈ xs, (f x).length = 1 := by
  induction xs with
  | nil => simp
  | cons x xs ih =>
      have hhead := hpos x (by simp)
      have htail : ∀ y ∈ xs, 1 ≤ (f y).length := fun y hy =>
        hpos y (List.mem_cons_of_mem _ hy)
      have hrest := length_le_length_flatMap htail
      simp only [List.flatMap_cons, List.length_append, List.length_cons] at h
      rw [List.forall_mem_cons]
      exact ⟨by omega, ih htail (by omega)⟩

/-! ## Normalized outputs -/

private def trimLineEnds (normalized : String) : String :=
  join "\n" ((splitChar '\n' normalized).map rstrip)

private theorem strip_ofLines_cons {b : List Char} (hb : blank b = true)
    {ls : List (List Char)} (hne : ls ≠ []) :
    strip (ofLines (b :: ls)) = strip (ofLines ls) := by
  apply String.toList_injective
  cases ls with
  | nil => exact absurd rfl hne
  | cons next rest =>
      simp only [toList_strip, toList_ofLines, joinLines_cons_cons]
      rw [← List.singleton_append (x := '\n'), ← List.append_assoc]
      apply trim_append_left
      intro a ha
      rcases List.mem_append.mp ha with ha | ha
      · exact List.all_eq_true.mp hb a ha
      · rw [List.mem_singleton.mp ha]
        exact isSpace_newline

private theorem strip_ofLines_concat {b : List Char} (hb : blank b = true)
    {ls : List (List Char)} (hne : ls ≠ []) :
    strip (ofLines (ls ++ [b])) = strip (ofLines ls) := by
  apply String.toList_injective
  simp only [toList_strip, toList_ofLines]
  rw [joinLines_append hne (by simp), joinLines_singleton]
  apply trim_append_right
  intro a ha
  rcases List.mem_cons.mp ha with rfl | ha
  · exact isSpace_newline
  · exact List.all_eq_true.mp hb a ha

private theorem strip_ofLines_blanks {before after ls : List (List Char)}
    (hbefore : ∀ l ∈ before, blank l = true) (hafter : ∀ l ∈ after, blank l = true)
    (hne : ls ≠ []) :
    strip (ofLines (before ++ ls ++ after)) = strip (ofLines ls) := by
  induction before with
  | nil =>
      rw [List.nil_append]
      induction after using List.reverseRecOn with
      | nil => rw [List.append_nil]
      | append_singleton after b ih =>
          rw [← List.append_assoc, strip_ofLines_concat (hafter b (by simp)) (by simp [hne])]
          exact ih fun l hl => hafter l (List.mem_append_left _ hl)
  | cons b before ih =>
      rw [List.cons_append, List.cons_append,
        strip_ofLines_cons (hbefore b (by simp)) (by simp [hne])]
      exact ih fun l hl => hbefore l (List.mem_cons_of_mem _ hl)

private theorem normalizeJudgeOutput_ofLines (ls : List (List Char))
    (h : '\r' ∉ (ofLines ls).toList) :
    normalizeJudgeOutput (ofLines ls) = trimLineEnds (strip (ofLines ls)) := by
  unfold normalizeJudgeOutput
  rw [replaceCarriageReturns_of_not_mem h]
  rfl

theorem cr_not_mem_caseBlock {s : String} (h : '\r' ∉ s.toList)
    {group : List (List Char)} (hgroup : group ∈ caseGroups s) :
    '\r' ∉ (ofLines (trim List.isEmpty group)).toList := by
  rw [toList_ofLines]
  intro hmem
  rcases mem_joinLines hmem with hnl | ⟨line, hline, hmem⟩
  · exact absurd hnl (by decide)
  · have hline := mem_of_mem_caseGroups hgroup ((trim_sublist _ _).subset hline)
    exact h (mem_of_mem_splitOn hline hmem)

private theorem map_normalize_splitCaseBlocks {s : String} (h : '\r' ∉ s.toList) :
    (splitCaseBlocks s).map normalizeJudgeOutput =
      (paragraphs blank (lines s)).map fun group =>
        trimLineEnds (strip (ofLines group)) := by
  have hnormalize : ∀ group ∈ caseGroups s,
      normalizeJudgeOutput (ofLines (trim List.isEmpty group)) =
        trimLineEnds (strip (ofLines group)) := by
    intro group hgroup
    obtain ⟨before, after, heq, hbefore, hafter⟩ := trim_decomposition List.isEmpty group
    have hsolid := (List.mem_filter.mp hgroup).2
    have hne : trim List.isEmpty group ≠ [] := by
      rw [ne_eq, trim_eq_nil_iff]
      intro hall
      obtain ⟨l, hl, hsolid⟩ := List.any_eq_true.mp hsolid
      rw [blank_of_isEmpty (hall l hl)] at hsolid
      cases hsolid
    have hno := cr_not_mem_caseBlock h hgroup
    rw [normalizeJudgeOutput_ofLines _ hno]
    conv_rhs => rw [heq]
    rw [strip_ofLines_blanks (fun l hl => blank_of_isEmpty (hbefore l hl))
      (fun l hl => blank_of_isEmpty (hafter l hl)) hne]
  rw [splitCaseBlocks_eq h, List.map_map, ← paragraphs_trim, ← map_groupLines]
  · exact List.map_congr_left hnormalize
  · intro b ls hb hne
    rw [strip_ofLines_cons hb hne]
  · intro b ls hb hne
    rw [strip_ofLines_concat hb hne]

theorem hasSolid_trim (ls : List (List Char)) :
    hasSolid blank (trim List.isEmpty ls) = hasSolid blank ls := by
  obtain ⟨before, after, heq, hbefore, hafter⟩ := trim_decomposition List.isEmpty ls
  conv_rhs => rw [heq]
  have hnone : ∀ {empties : List (List Char)},
      (∀ l ∈ empties, l.isEmpty = true) → hasSolid blank empties = false := by
    intro empties h
    rw [hasSolid, List.any_eq_false]
    intro l hl
    simp [blank_of_isEmpty (h l hl)]
  unfold hasSolid at hnone ⊢
  rw [List.any_append, List.any_append, hnone hbefore, hnone hafter, Bool.false_or,
    Bool.or_false]

theorem normalizeJudgeOutput_eq_empty_iff {s : String} (h : '\r' ∉ s.toList) :
    normalizeJudgeOutput s = "" ↔ strip s = "" := by
  have hstep : normalizeJudgeOutput s = trimLineEnds (strip s) := by
    have := normalizeJudgeOutput_ofLines (lines s) (by simpa using h)
    simpa using this
  rw [hstep]
  constructor
  · intro hempty
    have hjoin : joinLines '\n' ((lines (strip s)).map (List.rdropWhile isSpace)) = [] := by
      have := congrArg String.toList hempty
      rw [trimLineEnds, toList_join, splitChar, List.map_map, List.map_map] at this
      have hcomp : (String.toList ∘ rstrip) ∘ String.ofList = List.rdropWhile isSpace :=
        funext fun l => by simp
      rw [hcomp] at this
      exact this
    -- Every line is spaces only, so the stripped text is spaces only.
    have hall : ((lines (strip s)).map (List.rdropWhile isSpace)).all
        (blankLine isSpace) = true := by
      rw [← blankLine_joinLines isSpace_newline, hjoin]
      rfl
    have hblank : ∀ line ∈ lines (strip s), blank line = true := by
      intro line hline
      have hdrop : blankLine isSpace (line.rdropWhile isSpace) = true :=
        List.all_eq_true.mp hall _ (List.mem_map_of_mem hline)
      rw [blankLine, List.all_eq_true] at hdrop
      rw [blank, blankLine, List.all_eq_true]
      intro a ha
      rw [← List.rdropWhile_append_rtakeWhile (p := isSpace) (l := line),
        List.mem_append] at ha
      exact ha.elim (hdrop a) fun hmem => List.mem_rtakeWhile_imp hmem
    have hnot : ¬ strip (ofLines (lines (strip s))) ≠ "" := by
      rw [strip_ofLines_ne_empty_iff, hasSolid, List.any_eq_true]
      rintro ⟨line, hline, hsolid⟩
      simp [hblank line hline] at hsolid
    rw [ofLines_lines, not_not] at hnot
    apply String.toList_injective
    have := congrArg String.toList hnot
    rwa [toList_strip, toList_strip, trim_trim, ← toList_strip] at this
  · intro hempty
    rw [hempty]
    rfl

theorem paragraphCount_eq_zero_iff (s : String) : paragraphCount s = 0 ↔ strip s = "" := by
  have hsolid := strip_ofLines_ne_empty_iff (lines s)
  rw [ofLines_lines, hasSolid, List.any_eq_true] at hsolid
  rw [paragraphCount, List.length_eq_zero_iff, paragraphs_eq_nil_iff, ← not_iff_not,
    ← ne_eq (strip s), hsolid]
  simp

/--
Joined with empty lines, outputs come back normalized and in order exactly if each
of them is one paragraph.
-/
theorem map_normalize_join_iff (outputs : List String) (hne : outputs ≠ [])
    (h : ∀ o ∈ outputs, '\r' ∉ o.toList) :
    (splitCaseBlocks (join "\n\n" outputs)).map normalizeJudgeOutput =
        outputs.map normalizeJudgeOutput ↔
      ∀ o ∈ outputs, paragraphCount o = 1 := by
  have hjoin : '\r' ∉ (join "\n\n" outputs).toList := not_mem_join (by decide) h
  constructor
  · intro heq
    -- No block is blank, so no output is, and there are as many blocks as outputs.
    have hpos : ∀ o ∈ outputs, 1 ≤ paragraphCount o := by
      intro o ho
      by_contra hzero
      have hempty : normalizeJudgeOutput o = "" :=
        (normalizeJudgeOutput_eq_empty_iff (h o ho)).mpr
          ((paragraphCount_eq_zero_iff o).mp (by omega))
      have hmem : "" ∈ outputs.map normalizeJudgeOutput :=
        hempty ▸ List.mem_map_of_mem ho
      rw [← heq, splitCaseBlocks_eq hjoin, List.map_map, List.mem_map] at hmem
      obtain ⟨group, hgroup, hblock⟩ := hmem
      have hno := cr_not_mem_caseBlock hjoin hgroup
      have hsolid := (List.mem_filter.mp hgroup).2
      rw [← hasSolid_trim, ← strip_ofLines_ne_empty_iff] at hsolid
      exact hsolid ((normalizeJudgeOutput_eq_empty_iff hno).mp hblock)
    apply length_eq_one_of_length_flatMap hpos
    rw [← paragraphs_join hne, ← paragraphCount, ← length_splitCaseBlocks hjoin]
    simpa using congrArg List.length heq
  · intro hone
    rw [map_normalize_splitCaseBlocks hjoin, paragraphs_join hne, List.map_flatMap,
      ← List.flatMap_singleton' (outputs.map normalizeJudgeOutput), List.flatMap_map]
    apply List.flatMap_congr
    intro o ho
    obtain ⟨group, hgroup⟩ := List.length_eq_one_iff.mp (hone o ho)
    obtain ⟨before, after, heq, hbefore, hafter⟩ :=
      eq_of_paragraphs_eq_singleton blank hgroup
    have hne : group ≠ [] := by
      rintro rfl
      rw [List.append_nil] at heq
      have : paragraphs blank (lines o) = [] := by
        rw [paragraphs_eq_nil_iff, heq]
        exact fun l hl => (List.mem_append.mp hl).elim (hbefore l) (hafter l)
      rw [this] at hgroup
      cases hgroup
    have hnormalize := normalizeJudgeOutput_ofLines (lines o) (by simpa using h o ho)
    rw [ofLines_lines] at hnormalize
    rw [hgroup, hnormalize, List.map_singleton, ← ofLines_lines o, heq,
      strip_ofLines_blanks hbefore hafter hne]

/-! ## Inputs -/

/--
Without the newlines at its ends, the text has a non-blank line, and a blank line
only as its first line if `first` holds or as its last line if `last` holds.
-/
def OneBlock (first last : Prop) (s : String) : Prop :=
  hasSolid blank (lines (stripChar '\n' s)) = true ∧
    SolidInside blank first last (lines (stripChar '\n' s))

theorem lines_stripChar_newline {s : String}
    (h : trim List.isEmpty (lines s) ≠ []) :
    lines (stripChar '\n' s) = trim List.isEmpty (lines s) := by
  rw [stripChar_newline, lines_ofLines h]
  exact fun line hline => newline_not_mem_lines ((trim_sublist _ _).subset hline)

private theorem oneBlock_iff (first last : Prop) (s : String) :
    OneBlock first last s ↔
      hasSolid blank (trim List.isEmpty (lines s)) = true ∧
        SolidInside blank first last (trim List.isEmpty (lines s)) := by
  unfold OneBlock
  cases htrim : trim List.isEmpty (lines s) with
  | nil =>
      have hempty : lines (stripChar '\n' s) = [[]] := by
        rw [stripChar_newline, htrim]
        rfl
      rw [hempty]
      constructor <;> rintro ⟨hsolid, -⟩ <;> cases hsolid
  | cons l rest =>
      rw [lines_stripChar_newline (by simp [htrim]), htrim]

private theorem trim_ne_nil_of_hasSolid {ls : List (List Char)}
    (h : hasSolid blank ls = true) : trim List.isEmpty ls ≠ [] := by
  rw [← hasSolid_trim] at h
  rintro hnil
  rw [hnil] at h
  cases h

theorem map_strip_splitCaseBlocks {s : String} (h : '\r' ∉ s.toList) :
    (splitCaseBlocks s).map (stripChar '\n') =
      (caseGroups s).map fun group => ofLines (trim List.isEmpty group) := by
  rw [splitCaseBlocks_eq h, List.map_map]
  apply List.map_congr_left
  intro group hgroup
  have hlines : ∀ line ∈ trim List.isEmpty group, '\n' ∉ line := fun line hline =>
    newline_not_mem_lines (mem_of_mem_caseGroups hgroup ((trim_sublist _ _).subset hline))
  rw [Function.comp_apply, stripChar_newline_ofLines hlines, trim_trim]

theorem oneBlock_of_map_caseGroups {s x : String} {pre post : List String}
    (h : ((caseGroups s).map fun group => ofLines (trim List.isEmpty group)) =
      (pre ++ x :: post).map (stripChar '\n')) :
    OneBlock (pre = []) (post = []) x := by
  rw [List.map_append, List.map_cons, List.map_eq_append_iff] at h
  obtain ⟨gpre, gtail, hgroups, hpre, htail⟩ := h
  obtain ⟨group, gpost, rfl, hgroup, hpost⟩ := List.map_eq_cons_iff.mp htail
  have hmem : group ∈ caseGroups s := by
    rw [hgroups]
    exact List.mem_append_right _ (by simp)
  have hsolid := (List.mem_filter.mp hmem).2
  have hlines : lines (stripChar '\n' x) = trim List.isEmpty group := by
    rw [← hgroup, lines_ofLines (trim_ne_nil_of_hasSolid hsolid)]
    exact fun line hline => newline_not_mem_lines
      (mem_of_mem_caseGroups hmem ((trim_sublist _ _).subset hline))
  rw [OneBlock, hlines]
  refine ⟨by rw [hasSolid_trim, hsolid], ?_⟩
  -- The groups before and after this one, among them those that are blank.
  obtain ⟨before, tail, hall, hbefore, htail⟩ := List.filter_eq_append_iff.mp hgroups
  obtain ⟨skipped, after, rfl, -, -, hafter⟩ := List.filter_eq_cons_iff.mp htail
  rw [← List.append_assoc] at hall
  have hinside := groupLines_solidInside blank hall
  obtain ⟨left, right, hgroup, -, -⟩ := trim_decomposition List.isEmpty group
  rw [hgroup] at hinside
  refine (hinside.of_append).mono blank ?_ ?_
  · intro hnil
    rw [List.append_eq_nil_iff] at hnil
    rw [hnil.1, List.filter_nil] at hbefore
    rw [← hbefore, List.map_nil] at hpre
    exact List.map_eq_nil_iff.mp hpre.symm
  · intro hnil
    rw [hnil, List.filter_nil] at hafter
    rw [← hafter, List.map_nil] at hpost
    exact List.map_eq_nil_iff.mp hpost.symm

private theorem caseGroups_join {first : String} {rest : List String} (hrest : rest ≠ [])
    (hone : ∀ pre x post, first :: rest = pre ++ x :: post →
      OneBlock (pre = []) (post = []) x) :
    caseGroups (join "\n\n" (first :: rest)) =
      (first :: rest).map fun x => trim List.isEmpty (lines x) := by
  have hsections : ∀ pre ls post, lines first :: rest.map lines = pre ++ ls :: post →
      hasSolid blank (trim List.isEmpty ls) = true ∧
        SolidInside blank (pre = []) (post = []) (trim List.isEmpty ls) := by
    intro pre ls post hsplit
    rw [← List.map_cons, List.map_eq_append_iff] at hsplit
    obtain ⟨xpre, xtail, hxs, rfl, htail⟩ := hsplit
    obtain ⟨x, xpost, rfl, rfl, rfl⟩ := List.map_eq_cons_iff.mp htail
    have := (oneBlock_iff _ _ x).mp (hone xpre x xpost hxs)
    simpa using this
  have hgroups : groupLines blank (trim List.isEmpty (joinLines [] (lines first ::
        rest.map lines))) = (lines first :: rest.map lines).map (trim List.isEmpty) :=
    groupLines_sections (fun l hl => blank_of_isEmpty hl) rfl (by simpa using hrest)
      fun pre ls post hsplit =>
        ⟨trim_ne_nil_of_hasSolid (by rw [← hasSolid_trim]; exact (hsections _ _ _ hsplit).1),
          (hsections _ _ _ hsplit).2⟩
  rw [caseGroups, lines_join (by simp), List.map_cons, hgroups, List.filter_eq_self.mpr]
  · simp
  · intro group hgroup
    obtain ⟨ls, hls, rfl⟩ := List.mem_map.mp hgroup
    obtain ⟨pre, post, hsplit⟩ := List.append_of_mem hls
    exact (hsections pre ls post hsplit).1

/--
Joined with empty lines, two or more inputs come back up to newlines at their ends
and in order exactly if each of them is one block where it stands.
-/
theorem map_strip_join_iff (first : String) (rest : List String) (hrest : rest ≠ [])
    (h : ∀ x ∈ first :: rest, '\r' ∉ x.toList) :
    (splitCaseBlocks (join "\n\n" (first :: rest))).map (stripChar '\n') =
        (first :: rest).map (stripChar '\n') ↔
      ∀ pre x post, first :: rest = pre ++ x :: post →
        OneBlock (pre = []) (post = []) x := by
  rw [map_strip_splitCaseBlocks (not_mem_join (by decide) h)]
  constructor
  · intro heq pre x post hsplit
    rw [hsplit] at heq
    exact oneBlock_of_map_caseGroups heq
  · intro hone
    rw [caseGroups_join hrest hone, List.map_map]
    apply List.map_congr_left
    intro x _
    rw [Function.comp_apply, trim_trim, stripChar_newline]

end JudgeVortex.Shared
