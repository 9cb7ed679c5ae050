import JudgeVortex.Foundation.ShellLexer
import JudgeVortex.Python.Text

/-!
# Quoting for a shell

`shlex.quote`: a shell reads its result as one word, the text that was quoted.
-/

namespace JudgeVortex.Python

open JudgeVortex.Foundation.Shell

def shellSafeSymbols : List Char :=
  "ABCDEFGHIJKLMNOPQRSTUVWXYZabcdefghijklmnopqrstuvwxyz0123456789_@%+=:,./-".toList

def quoteEscape : List Char := ['\'', '"', '\'', '"', '\'']

def shlexQuote (s : String) : String :=
  if s = "" then "''"
  else if s.toList.all (shellSafeSymbols.contains ·) then s
  else "'" ++ replace "'" (.ofList quoteEscape) s ++ "'"

example : shlexQuote "src/a.c" = "src/a.c" ∧ shlexQuote "it's" = "'it'\"'\"'s'" := by decide

private theorem plainStep_safe {c : Char} (h : c ∈ shellSafeSymbols) (f : Frame)
    (outer : List Frame) : plainStep f outer c = ⟨.plain, f.push (.char c), outer⟩ := by
  have hsafe : shellSafeSymbols.all (fun c => c ≠ '\'' ∧ c ≠ '"' ∧ c ≠ '\\' ∧ c ≠ '$' ∧
      c ≠ '#' ∧ ¬ (c = ' ' ∨ c = '\t') ∧ c ≠ '(' ∧ c ≠ ')' ∧ c ∉ operatorSymbols ∧
      c ∉ expansionSymbols) = true := by decide
  obtain ⟨h1, h2, h3, h4, h5, h6, h7, h8, h9, h10⟩ :=
    of_decide_eq_true (List.all_eq_true.mp hsafe c h)
  rw [plainStep, if_neg h1, if_neg h2, if_neg h3, if_neg h4, if_neg fun h => h5 h.1, if_neg h6,
    if_neg h7, if_neg h8, if_neg h9, if_neg h10]

private theorem run_safe {text : List Char} (h : ∀ c ∈ text, c ∈ shellSafeSymbols)
    (f : Frame) (outer : List Frame) (c : Char) :
    run ⟨.plain, f.push (.char c), outer⟩ text = ⟨.plain, f.pushText (c :: text), outer⟩ := by
  induction text generalizing f c with
  | nil => simp [Frame.push, Frame.pushText]
  | cons d text ih =>
      have hstep : step ⟨.plain, f.push (.char c), outer⟩ d =
          ⟨.plain, (f.push (.char c)).push (.char d), outer⟩ :=
        plainStep_safe (h d (by simp)) _ outer
      rw [run_cons, hstep, ih fun e he => h e (by simp [he]), Frame.push_pushText]

private theorem run_escaped (f : Frame) (outer : List Frame) (text : List Char) :
    run ⟨.single, f.openWord, outer⟩
        (text.flatMap fun c => if c = '\'' then quoteEscape else [c]) =
      ⟨.single, f.pushText text, outer⟩ := by
  induction text generalizing f with
  | nil => simp
  | cons c text ih =>
      have hhead : run ⟨.single, f.openWord, outer⟩
          (if c = '\'' then quoteEscape else [c]) =
            ⟨.single, (f.push (.char c)).openWord, outer⟩ := by
        by_cases hc : c = '\''
        · rw [hc]
          rfl
        · simp [hc, run_cons, step]
      rw [List.flatMap_cons, run_append, hhead, ih, Frame.push_pushText]

theorem run_shlexQuote (f : Frame) (outer : List Frame) (s : String) :
    run ⟨.plain, f, outer⟩ (shlexQuote s).toList = ⟨.plain, f.pushText s.toList, outer⟩ := by
  unfold shlexQuote
  split
  next hempty =>
    rw [hempty]
    exact run_quoted (List.not_mem_nil (a := '\'')) f outer
  next hne =>
    split
    next hsafe =>
      cases htext : s.toList with
      | nil => exact absurd (String.toList_injective htext) hne
      | cons c text =>
          rw [List.all_eq_true] at hsafe
          have hmem : ∀ d ∈ s.toList, d ∈ shellSafeSymbols := fun d hd => by
            simpa using hsafe d hd
          have hstep : step ⟨.plain, f, outer⟩ c = ⟨.plain, f.push (.char c), outer⟩ :=
            plainStep_safe (hmem c (by simp [htext])) f outer
          rw [run_cons, hstep, run_safe fun d hd => hmem d (by simp [htext, hd])]
    next =>
      have hquote : "'".toList = ['\''] := by decide
      rw [String.toList_append, String.toList_append, toList_replace, hquote,
        String.toList_ofList, replaceFrom_char, run_append, run_append]
      have hopen : run ⟨.plain, f, outer⟩ ['\''] = ⟨.single, f.openWord, outer⟩ := rfl
      rw [hopen, run_escaped]
      rfl

end JudgeVortex.Python
