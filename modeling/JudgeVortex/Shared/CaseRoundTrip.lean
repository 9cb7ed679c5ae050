import JudgeVortex.Shared.CaseBlocks
import JudgeVortex.Shared.OutputComparison

/-!
# Cases that are decoded, joined and decoded again

Neither stripping nor normalizing a text changes how many paragraphs it has, and blocks
come back as they are from the text that they are joined to.
-/

namespace JudgeVortex.Shared

open JudgeVortex.Foundation JudgeVortex.Python

/-! ## The number of paragraphs -/

private theorem paragraphCount_ofLines_congr {s : String} {front back : List (List Char)}
    {old new : List Char} (hlines : lines s = front ++ old :: back) (hnew : '\n' ∉ new)
    (hblank : blank new = blank old) :
    paragraphCount (ofLines (front ++ new :: back)) = paragraphCount s := by
  have hnot : ∀ line ∈ front ++ new :: back, '\n' ∉ line := by
    have hall : ∀ line ∈ front ++ old :: back, '\n' ∉ line := fun line hline =>
      newline_not_mem_lines (s := s) (by rwa [hlines])
    rw [List.forall_mem_append, List.forall_mem_cons] at hall ⊢
    exact ⟨hall.1, hnew, hall.2.2⟩
  rw [paragraphCount, paragraphCount, lines_ofLines (by simp) hnot, hlines]
  apply length_paragraphs_congr
  rw [List.map_append, List.map_cons, List.map_append, List.map_cons, hblank]

private theorem paragraphCount_cons {c : Char} (hc : isSpace c = true) (s : String) :
    paragraphCount (.ofList (c :: s.toList)) = paragraphCount s := by
  by_cases hnewline : c = '\n'
  · have hlines : lines (.ofList (c :: s.toList)) = [] :: lines s := by
      have := List.splitOn_append_cons_self (a := '\n') [] s.toList
      rw [lines, lines, String.toList_ofList, hnewline]
      simpa using this
    rw [paragraphCount, hlines, paragraphs_cons blank rfl, ← paragraphCount]
  · obtain ⟨first, rest, hfirst⟩ := List.exists_cons_of_ne_nil (List.splitOn_ne_nil '\n' s.toList)
    have hjoin : String.ofList (c :: s.toList) = ofLines ([] ++ (c :: first) :: rest) := by
      apply String.toList_injective
      have hs : joinLines '\n' (first :: rest) = s.toList := by
        rw [← hfirst]
        exact List.intercalate_splitOn '\n'
      rw [List.nil_append, toList_ofLines, String.toList_ofList, ← hs]
      cases rest <;> simp
    have hlines : lines s = [] ++ first :: rest := hfirst
    have hfirstLine : '\n' ∉ first := newline_not_mem_lines (s := s) (by simp [hlines])
    have hblank : blank (c :: first) = blank first := by
      rw [blank, blankLine, List.all_cons, hc, Bool.true_and]
      rfl
    rw [hjoin]
    exact paragraphCount_ofLines_congr hlines (by simp [Ne.symm hnewline, hfirstLine]) hblank

private theorem paragraphCount_concat {c : Char} (hc : isSpace c = true) (s : String) :
    paragraphCount (.ofList (s.toList ++ [c])) = paragraphCount s := by
  by_cases hnewline : c = '\n'
  · have hlines : lines (.ofList (s.toList ++ [c])) = lines s ++ [[]] := by
      have := List.splitOn_append_cons_self (a := '\n') s.toList []
      rw [lines, lines, String.toList_ofList, hnewline]
      simpa using this
    have hlast : ∀ b ∈ [([] : List Char)], blank b = true := by simp [blank, blankLine]
    rw [paragraphCount, hlines, paragraphs_append_blanks blank hlast, ← paragraphCount]
  · obtain ⟨front, last, hlast⟩ : ∃ front last, lines s = front ++ [last] :=
      (List.eq_nil_or_concat' (lines s)).resolve_left (List.splitOn_ne_nil '\n' s.toList)
    have hjoin : String.ofList (s.toList ++ [c]) = ofLines (front ++ [last ++ [c]]) := by
      apply String.toList_injective
      have hs : joinLines '\n' (front ++ [last]) = s.toList := by
        rw [← hlast]
        exact List.intercalate_splitOn '\n'
      rw [toList_ofLines, String.toList_ofList, ← hs]
      cases front with
      | nil => simp
      | cons first front =>
          rw [joinLines_append (by simp) (by simp), joinLines_append (by simp) (by simp)]
          simp
    have hlastLine : '\n' ∉ last := newline_not_mem_lines (s := s) (by simp [hlast])
    have hblank : blank (last ++ [c]) = blank last := by
      simp [blank, blankLine, hc]
    rw [hjoin]
    exact paragraphCount_ofLines_congr hlast (by simp [Ne.symm hnewline, hlastLine]) hblank

private theorem paragraphCount_append_spaces {before after : List Char}
    (hbefore : ∀ c ∈ before, isSpace c = true) (hafter : ∀ c ∈ after, isSpace c = true)
    (s : String) :
    paragraphCount (.ofList (before ++ s.toList ++ after)) = paragraphCount s := by
  induction before with
  | nil =>
      rw [List.nil_append]
      induction after using List.reverseRecOn with
      | nil => simp
      | append_singleton after c ih =>
          have hstep := paragraphCount_concat (hafter c (by simp)) (.ofList (s.toList ++ after))
          rw [String.toList_ofList] at hstep
          rw [← List.append_assoc, hstep]
          exact ih fun c hc => hafter c (List.mem_append_left _ hc)
  | cons c before ih =>
      have hstep := paragraphCount_cons (hbefore c (by simp))
        (.ofList (before ++ s.toList ++ after))
      rw [String.toList_ofList] at hstep
      rw [List.cons_append, List.cons_append, hstep]
      exact ih fun c hc => hbefore c (List.mem_cons_of_mem _ hc)

private theorem paragraphCount_trim {p : Char → Bool} (hp : ∀ c, p c = true → isSpace c = true)
    (s : String) : paragraphCount (.ofList (trim p s.toList)) = paragraphCount s := by
  obtain ⟨before, after, heq, hbefore, hafter⟩ := trim_decomposition p s.toList
  have hs : s = .ofList (before ++ (String.ofList (trim p s.toList)).toList ++ after) := by
    apply String.toList_injective
    simpa using heq
  conv_rhs => rw [hs]
  rw [paragraphCount_append_spaces (fun c hc => hp c (hbefore c hc))
    fun c hc => hp c (hafter c hc)]

theorem paragraphCount_strip (s : String) : paragraphCount (strip s) = paragraphCount s :=
  paragraphCount_trim (fun _ hc => hc) s

theorem paragraphCount_stripChar_newline (s : String) :
    paragraphCount (stripChar '\n' s) = paragraphCount s :=
  paragraphCount_trim (p := (· == '\n')) (fun c hc => by
    rw [show c = '\n' by simpa using hc, isSpace_newline]) s

private theorem blank_rdropWhile (line : List Char) :
    blank (line.rdropWhile isSpace) = blank line := by
  rw [blank, Bool.eq_iff_iff, blankLine, blankLine, List.all_eq_true, List.all_eq_true]
  constructor
  · intro h c hc
    rw [← List.rdropWhile_append_rtakeWhile (p := isSpace) (l := line), List.mem_append] at hc
    exact hc.elim (h c) List.mem_rtakeWhile_imp
  · exact fun h c hc => h c ((List.rdropWhile_prefix _ _).subset hc)

theorem paragraphCount_normalizeJudgeOutput (value : String) :
    paragraphCount (normalizeJudgeOutput value) =
      paragraphCount (replaceCarriageReturns value) := by
  have hcompared : comparedLines value = lines (strip (replaceCarriageReturns value)) := rfl
  rw [← paragraphCount_strip (replaceCarriageReturns value), paragraphCount, paragraphCount,
    lines_normalizeJudgeOutput, hcompared]
  apply length_paragraphs_congr
  rw [List.map_map]
  exact List.map_congr_left fun line _ => blank_rdropWhile line

/-! ## Blocks -/

theorem length_splitCaseBlocks_normalize (value : String) :
    (splitCaseBlocks (normalizeJudgeOutput value)).length = (splitCaseBlocks value).length := by
  rw [length_splitCaseBlocks (cr_not_mem_normalizeJudgeOutput value),
    paragraphCount_normalizeJudgeOutput, ← splitCaseBlocks_replaceCarriageReturns value,
    length_splitCaseBlocks (replaceCarriageReturns_not_mem value)]

private theorem map_stripChar_splitCaseBlocks (value : String) :
    (splitCaseBlocks value).map (stripChar '\n') = splitCaseBlocks value := by
  have h := replaceCarriageReturns_not_mem value
  rw [← splitCaseBlocks_replaceCarriageReturns, map_strip_splitCaseBlocks h,
    splitCaseBlocks_eq h]

theorem cr_not_mem_splitCaseBlocks {value block : String} (h : block ∈ splitCaseBlocks value) :
    '\r' ∉ block.toList := by
  rw [← splitCaseBlocks_replaceCarriageReturns,
    splitCaseBlocks_eq (replaceCarriageReturns_not_mem value)] at h
  obtain ⟨group, hgroup, rfl⟩ := List.mem_map.mp h
  exact cr_not_mem_caseBlock (replaceCarriageReturns_not_mem value) hgroup

theorem oneBlock_of_splitCaseBlocks {value block : String} {pre post : List String}
    (h : splitCaseBlocks value = pre ++ block :: post) : OneBlock (pre = []) (post = []) block := by
  apply oneBlock_of_map_caseGroups (s := replaceCarriageReturns value)
  rw [← map_strip_splitCaseBlocks (replaceCarriageReturns_not_mem value),
    splitCaseBlocks_replaceCarriageReturns, h]

theorem paragraphCount_of_oneBlock {first last : Prop} {s : String} (h : OneBlock first last s) :
    paragraphCount s = 1 := by
  rw [← paragraphCount_stripChar_newline]
  exact length_paragraphs_of_solidInside blank h.1 h.2

/-- Joined with empty lines, two or more blocks are cut apart again. -/
theorem splitCaseBlocks_join_splitCaseBlocks {value : String}
    (h : 1 < (splitCaseBlocks value).length) :
    splitCaseBlocks (join "\n\n" (splitCaseBlocks value)) = splitCaseBlocks value := by
  have hcr : ∀ block ∈ splitCaseBlocks value, '\r' ∉ block.toList :=
    fun block => cr_not_mem_splitCaseBlocks
  have hone : ∀ pre block post, splitCaseBlocks value = pre ++ block :: post →
      OneBlock (pre = []) (post = []) block := fun _ _ _ => oneBlock_of_splitCaseBlocks
  have hstrip := map_stripChar_splitCaseBlocks value
  rw [← map_stripChar_splitCaseBlocks (join "\n\n" (splitCaseBlocks value))]
  generalize splitCaseBlocks value = blocks at *
  match blocks, h with
  | first :: next :: rest, _ =>
      rw [(map_strip_join_iff first (next :: rest) (by simp) hcr).mpr hone, hstrip]

theorem map_normalize_join_splitCaseBlocks {value : String} (h : splitCaseBlocks value ≠ []) :
    (splitCaseBlocks (join "\n\n" ((splitCaseBlocks value).map normalizeJudgeOutput))).map
        normalizeJudgeOutput = (splitCaseBlocks value).map normalizeJudgeOutput := by
  have hcr : ∀ output ∈ (splitCaseBlocks value).map normalizeJudgeOutput,
      '\r' ∉ output.toList := by
    intro output houtput
    obtain ⟨block, -, rfl⟩ := List.mem_map.mp houtput
    exact cr_not_mem_normalizeJudgeOutput block
  have hone : ∀ output ∈ (splitCaseBlocks value).map normalizeJudgeOutput,
      paragraphCount output = 1 := by
    intro output houtput
    obtain ⟨block, hblock, rfl⟩ := List.mem_map.mp houtput
    obtain ⟨pre, post, hsplit⟩ := List.append_of_mem hblock
    rw [paragraphCount_normalizeJudgeOutput,
      replaceCarriageReturns_of_not_mem (cr_not_mem_splitCaseBlocks hblock)]
    exact paragraphCount_of_oneBlock (oneBlock_of_splitCaseBlocks hsplit)
  rw [(map_normalize_join_iff _ (by simpa using h) hcr).mpr hone, List.map_map]
  exact List.map_congr_left fun block _ => normalizeJudgeOutput_normalizeJudgeOutput block

/-! ## Decoding by the number of blocks -/

def SeveralCases (testcaseInput expectedOutput : String) : Prop :=
  1 < (splitCaseBlocks expectedOutput).length ∧
    (splitCaseBlocks testcaseInput).length = (splitCaseBlocks expectedOutput).length

theorem buildTestcases_of_severalCases {testcaseInput expectedOutput : String}
    (h : SeveralCases testcaseInput expectedOutput) :
    buildTestcases testcaseInput expectedOutput =
      List.zipWith TestCase.mk (splitCaseBlocks testcaseInput)
        ((splitCaseBlocks expectedOutput).map normalizeJudgeOutput) := by
  unfold buildTestcases
  simp only [List.length_map]
  exact if_pos h

theorem buildTestcases_of_not_severalCases {testcaseInput expectedOutput : String}
    (h : ¬ SeveralCases testcaseInput expectedOutput) :
    buildTestcases testcaseInput expectedOutput =
      [⟨testcaseInput, normalizeJudgeOutput expectedOutput⟩] := by
  unfold buildTestcases
  simp only [List.length_map]
  exact if_neg h

end JudgeVortex.Shared
