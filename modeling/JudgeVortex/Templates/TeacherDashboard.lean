import JudgeVortex.Shared.CaseRoundTrip
import Mathlib.Data.List.Forall2

/-!
# The question form

The test-case part of `teacher-dashboard.html`: how the form collects, checks and
serializes a list of test cases, and when `build_testcases` reads the same cases
back from the two texts.
-/

namespace JudgeVortex.Templates

open JudgeVortex.Foundation JudgeVortex.Python JudgeVortex.Shared

def isJsSpace (c : Char) : Bool :=
  let n := c.toNat
  (0x09 ≤ n && n ≤ 0x0D) || n == 0x20 || n == 0xA0 || n == 0xFEFF || n == 0x1680 ||
    (0x2000 ≤ n && n ≤ 0x200A) || n == 0x2028 || n == 0x2029 || n == 0x202F ||
    n == 0x205F || n == 0x3000

def jsTrim (s : String) : String := .ofList (trim isJsSpace s.toList)

/-- The two text areas of a test case, with the text as it was typed or pasted. -/
structure Card where
  input : String
  output : String

/-- The `value` of a text area: every line break reads as one newline. -/
def textAreaValue (raw : String) : String := replaceCarriageReturns raw

def collectQuestionTestcases (cards : List Card) : List TestCase :=
  cards.map fun card =>
    ⟨textAreaValue card.input, jsTrim (textAreaValue card.output)⟩

def acceptTestcases (cards : List Card) : Option (List TestCase) :=
  let testcases := (collectQuestionTestcases cards).filter fun testcase =>
    jsTrim testcase.input ≠ "" ∨ jsTrim testcase.expectedOutput ≠ ""
  if testcases = [] ∨ ∃ testcase ∈ testcases, jsTrim testcase.expectedOutput = "" then none
  else some testcases

structure SerializedTestcases where
  testcaseInput : String
  expectedOutput : String
  deriving DecidableEq, Repr

def serializeQuestionTestcases (testcases : List TestCase) : SerializedTestcases where
  testcaseInput := join "\n\n" (testcases.map TestCase.input)
  expectedOutput := join "\n\n" (testcases.map TestCase.expectedOutput)

def SerializedTestcases.decode (stored : SerializedTestcases) : List TestCase :=
  buildTestcases stored.testcaseInput stored.expectedOutput

def SameCase (judged typed : TestCase) : Prop :=
  stripChar '\n' judged.input = stripChar '\n' typed.input ∧
    judged.expectedOutput = normalizeJudgeOutput typed.expectedOutput

def JudgedAsTyped (testcases : List TestCase) : Prop :=
  List.Forall₂ SameCase (serializeQuestionTestcases testcases).decode testcases

/--
Each typed case survives: a single case is not cut into several, and among several
cases each output is one paragraph and each input one block.
-/
def Separable : List TestCase → Prop
  | [testcase] =>
      ¬(1 < paragraphCount testcase.expectedOutput ∧
        paragraphCount testcase.input = paragraphCount testcase.expectedOutput)
  | testcases =>
      (∀ testcase ∈ testcases, paragraphCount testcase.expectedOutput = 1) ∧
        ∀ pre testcase post, testcases = pre ++ testcase :: post →
          OneBlock (pre = []) (post = []) testcase.input

/-! ## Accepted cases -/

theorem acceptTestcases_ne_nil {cards : List Card} {testcases : List TestCase}
    (h : acceptTestcases cards = some testcases) : testcases ≠ [] := by
  unfold acceptTestcases at h
  simp only at h
  split at h
  case isTrue => cases h
  case isFalse hnot =>
      cases h
      exact fun hnil => hnot (.inl hnil)

theorem acceptTestcases_newlines {cards : List Card} {testcases : List TestCase}
    (h : acceptTestcases cards = some testcases) :
    ∀ testcase ∈ testcases,
      '\r' ∉ testcase.input.toList ∧ '\r' ∉ testcase.expectedOutput.toList := by
  unfold acceptTestcases at h
  simp only at h
  split at h
  case isTrue => cases h
  case isFalse =>
      cases h
      intro testcase hmem
      obtain ⟨card, -, rfl⟩ := List.mem_map.mp (List.mem_of_mem_filter hmem)
      refine ⟨replaceCarriageReturns_not_mem card.input, fun hr => ?_⟩
      have houtput : '\r' ∈ trim isJsSpace (textAreaValue card.output).toList := by
        simpa [jsTrim] using hr
      exact replaceCarriageReturns_not_mem card.output ((trim_sublist _ _).subset houtput)

/-! ## Reading the texts back -/

private theorem forall₂_zipWith_iff {inputs outputs : List String}
    (hlength : inputs.length = outputs.length) (testcases : List TestCase) :
    List.Forall₂ SameCase (List.zipWith TestCase.mk inputs outputs) testcases ↔
      inputs.map (stripChar '\n') =
          testcases.map (fun testcase => stripChar '\n' testcase.input) ∧
        outputs = testcases.map fun testcase =>
          normalizeJudgeOutput testcase.expectedOutput := by
  induction inputs generalizing outputs testcases with
  | nil =>
      have houtputs : outputs = [] := List.length_eq_zero_iff.mp hlength.symm
      cases testcases <;> simp [houtputs]
  | cons input inputs ih =>
      cases outputs with
      | nil => simp at hlength
      | cons output outputs =>
          have hlengths : inputs.length = outputs.length := by simpa using hlength
          have hrest := ih hlengths
          cases testcases with
          | nil => simp
          | cons testcase testcases =>
              rw [List.zipWith_cons_cons, List.forall₂_cons, hrest]
              simp only [List.map_cons, List.cons.injEq, SameCase]
              tauto

private theorem judgedAsTyped_single_iff {testcase : TestCase}
    (hinput : '\r' ∉ testcase.input.toList)
    (houtput : '\r' ∉ testcase.expectedOutput.toList) :
    JudgedAsTyped [testcase] ↔ Separable [testcase] := by
  have hjoin : ∀ s, join "\n\n" [s] = s := fun s => by simp [join]
  simp only [JudgedAsTyped, SerializedTestcases.decode, serializeQuestionTestcases,
    List.map_singleton, hjoin, buildTestcases, List.length_map, Separable,
    length_splitCaseBlocks hinput, length_splitCaseBlocks houtput]
  constructor
  · rintro h ⟨hone, hsame⟩
    rw [if_pos ⟨hone, hsame⟩] at h
    have hlength := h.length_eq
    rw [List.length_zipWith, List.length_map, length_splitCaseBlocks hinput,
      length_splitCaseBlocks houtput, hsame, Nat.min_self, List.length_singleton] at hlength
    omega
  · intro h
    rw [if_neg h]
    exact .cons ⟨rfl, rfl⟩ .nil

private theorem judgedAsTyped_many_iff {first : TestCase} {rest : List TestCase}
    (hrest : rest ≠ [])
    (h : ∀ testcase ∈ first :: rest,
      '\r' ∉ testcase.input.toList ∧ '\r' ∉ testcase.expectedOutput.toList) :
    JudgedAsTyped (first :: rest) ↔
      (∀ testcase ∈ first :: rest, paragraphCount testcase.expectedOutput = 1) ∧
        ∀ pre testcase post, first :: rest = pre ++ testcase :: post →
          OneBlock (pre = []) (post = []) testcase.input := by
  have hinputs : (∀ pre testcase post, first :: rest = pre ++ testcase :: post →
        OneBlock (pre = []) (post = []) testcase.input) ↔
      (splitCaseBlocks (serializeQuestionTestcases (first :: rest)).testcaseInput).map
          (stripChar '\n') =
        (first :: rest).map fun testcase => stripChar '\n' testcase.input := by
    have := map_strip_join_iff first.input (rest.map TestCase.input)
      (by simpa using hrest) (by simpa using fun testcase hmem => (h testcase hmem).1)
    rw [← List.map_cons, List.map_map] at this
    rw [serializeQuestionTestcases]
    refine Iff.trans ?_ this.symm
    constructor
    · intro hone pre x post hsplit
      obtain ⟨tpre, ttail, hts, rfl, htail⟩ := List.map_eq_append_iff.mp hsplit
      obtain ⟨testcase, tpost, rfl, rfl, rfl⟩ := List.map_eq_cons_iff.mp htail
      simpa using hone tpre testcase tpost hts
    · intro hone pre testcase post hsplit
      have := hone (pre.map TestCase.input) testcase.input (post.map TestCase.input)
        (by rw [hsplit]; simp)
      simpa using this
  have houtputs : (∀ testcase ∈ first :: rest,
        paragraphCount testcase.expectedOutput = 1) ↔
      (splitCaseBlocks (serializeQuestionTestcases (first :: rest)).expectedOutput).map
          normalizeJudgeOutput =
        (first :: rest).map fun testcase =>
          normalizeJudgeOutput testcase.expectedOutput := by
    have := map_normalize_join_iff ((first :: rest).map TestCase.expectedOutput)
      (by simp) (by simpa using fun testcase hmem => (h testcase hmem).2)
    rw [List.map_map] at this
    rw [serializeQuestionTestcases]
    refine Iff.trans ?_ this.symm
    simp
  rw [hinputs, houtputs, JudgedAsTyped, SerializedTestcases.decode, buildTestcases]
  have htwo : 1 < (first :: rest).length := by
    have := List.length_pos_of_ne_nil hrest
    simpa using this
  constructor
  · intro hjudged
    split at hjudged
    case isTrue hcond =>
        exact ((forall₂_zipWith_iff hcond.2 _).mp hjudged).symm
    case isFalse =>
        have hlength := hjudged.length_eq
        rw [List.length_singleton] at hlength
        omega
  · rintro ⟨hout, hin⟩
    have hlengthOut := (congrArg List.length hout).trans (List.length_map _)
    have hlengthIn := congrArg List.length hin
    rw [List.length_map, List.length_map] at hlengthIn
    rw [if_pos ⟨by omega, by omega⟩, forall₂_zipWith_iff (by omega)]
    exact ⟨hin, hout⟩

theorem judgedAsTyped_iff {testcases : List TestCase} (hne : testcases ≠ [])
    (h : ∀ testcase ∈ testcases,
      '\r' ∉ testcase.input.toList ∧ '\r' ∉ testcase.expectedOutput.toList) :
    JudgedAsTyped testcases ↔ Separable testcases := by
  match testcases with
  | [] => exact absurd rfl hne
  | [testcase] =>
      have hone := h testcase (by simp)
      exact judgedAsTyped_single_iff hone.1 hone.2
  | first :: second :: rest => exact judgedAsTyped_many_iff (by simp) h

/-- What a teacher types is what is judged exactly if the typed cases are separable. -/
theorem accepted_testcases_round_trip_iff (cards : List Card) (testcases : List TestCase)
    (haccept : acceptTestcases cards = some testcases) :
    JudgedAsTyped testcases ↔ Separable testcases :=
  judgedAsTyped_iff (acceptTestcases_ne_nil haccept) (acceptTestcases_newlines haccept)

theorem accepted_testcases_round_trip_two_cases :
    acceptTestcases [⟨"1\n2", "3"⟩, ⟨"4\n5\n", "9 "⟩] =
        some [⟨"1\n2", "3"⟩, ⟨"4\n5\n", "9"⟩] ∧
      (JudgedAsTyped [⟨"1\n2", "3"⟩, ⟨"4\n5\n", "9"⟩] ↔
        Separable [⟨"1\n2", "3"⟩, ⟨"4\n5\n", "9"⟩]) :=
  ⟨by decide, accepted_testcases_round_trip_iff [⟨"1\n2", "3"⟩, ⟨"4\n5\n", "9 "⟩] _
    (by decide)⟩

/-- An empty first input is lost, and the two cases become one. -/
theorem empty_input_merges_cases :
    acceptTestcases [⟨"", "1"⟩, ⟨"2", "4"⟩] = some [⟨"", "1"⟩, ⟨"2", "4"⟩] ∧
      ¬ JudgedAsTyped [⟨"", "1"⟩, ⟨"2", "4"⟩] := by
  refine ⟨by decide, fun h => ?_⟩
  have hlength := h.length_eq
  revert hlength
  decide

/-! ## Saving a stored question again -/

private theorem join_singleton (sep text : String) : join sep [text] = text := by
  apply String.toList_injective
  simp

private theorem map_input_zipWith {inputs outputs : List String}
    (h : inputs.length = outputs.length) :
    (List.zipWith TestCase.mk inputs outputs).map TestCase.input = inputs := by
  rw [List.map_zipWith]
  exact (List.map_uncurry_zip_eq_zipWith (f := fun input _ => input)).symm.trans
    (List.map_fst_zip h.le)

private theorem map_output_zipWith {inputs outputs : List String}
    (h : inputs.length = outputs.length) :
    (List.zipWith TestCase.mk inputs outputs).map TestCase.expectedOutput = outputs := by
  rw [List.map_zipWith]
  exact (List.map_uncurry_zip_eq_zipWith (f := fun _ output => output)).symm.trans
    (List.map_snd_zip h.ge)

/-- Decoding, serializing and decoding again changes no case. -/
theorem decode_serialize_buildTestcases (testcaseInput expectedOutput : String) :
    (serializeQuestionTestcases (buildTestcases testcaseInput expectedOutput)).decode =
      buildTestcases testcaseInput expectedOutput := by
  by_cases hcases : SeveralCases testcaseInput expectedOutput
  · obtain ⟨hseveral, hlength⟩ := hcases
    have hne : splitCaseBlocks expectedOutput ≠ [] := by
      rintro hnil
      rw [hnil] at hseveral
      simp at hseveral
    have houtputs := map_normalize_join_splitCaseBlocks hne
    have hinputs := splitCaseBlocks_join_splitCaseBlocks (hlength.symm ▸ hseveral)
    have hcount := congrArg List.length houtputs
    rw [List.length_map, List.length_map] at hcount
    rw [buildTestcases_of_severalCases ⟨hseveral, hlength⟩, SerializedTestcases.decode,
      serializeQuestionTestcases, map_input_zipWith (by rw [hlength, List.length_map]),
      map_output_zipWith (by rw [hlength, List.length_map]),
      buildTestcases_of_severalCases ⟨by rw [hcount]; exact hseveral, by
        rw [hinputs, hcount, hlength]⟩, hinputs, houtputs]
  · rw [buildTestcases_of_not_severalCases hcases, SerializedTestcases.decode,
      serializeQuestionTestcases, List.map_singleton, List.map_singleton, join_singleton,
      join_singleton]
    -- The single case is not cut: its two texts have as many blocks as before.
    have hagain : ¬ SeveralCases testcaseInput (normalizeJudgeOutput expectedOutput) := by
      rwa [SeveralCases, length_splitCaseBlocks_normalize]
    rw [buildTestcases_of_not_severalCases hagain, normalizeJudgeOutput_normalizeJudgeOutput]

end JudgeVortex.Templates
