import Mathlib.Algebra.GroupWithZero.Nat
import Mathlib.Data.List.Basic
import Mathlib.Data.List.Count

/-!
# Shell words

The lexer of a POSIX shell, character by character: blanks, newlines and operators end
a word, the three kinds of quoting take characters as they are, and a command
substitution is lexed as a command of its own.  Any other expansion is only marked
where it begins.
-/

namespace JudgeVortex.Foundation.Shell

mutual

inductive Part where
  /-- A character that stands for itself. -/
  | char (c : Char)
  /-- A character that begins an expansion. -/
  | expansion (c : Char)
  | command (body : List Token)

inductive Token where
  | word (parts : List Part)
  | operator (c : Char)

end

def literal (text : List Char) : Token := .word (text.map .char)

/-- One command that is being read; `double` if it began inside double quotes. -/
structure Frame where
  tokens : List Token
  word : Option (List Part)
  parens : Nat
  double : Bool

namespace Frame

/-- A quote begins a word, even if nothing is inside. -/
def openWord (f : Frame) : Frame := { f with word := some (f.word.getD []) }

def push (f : Frame) (part : Part) : Frame := { f with word := some (f.word.getD [] ++ [part]) }

def pushText (f : Frame) (text : List Char) : Frame :=
  { f with word := some (f.word.getD [] ++ text.map .char) }

def endWord (f : Frame) : Frame :=
  match f.word with
  | none => f
  | some parts => { f with tokens := f.tokens ++ [.word parts], word := none }

def operator (f : Frame) (c : Char) : Frame :=
  { f.endWord with tokens := f.endWord.tokens ++ [.operator c] }

end Frame

inductive Mode where
  | plain
  | single
  | double
  | comment
  /-- After a backslash. -/
  | escape (double : Bool)
  /-- After a dollar sign. -/
  | dollar (double : Bool)
  deriving DecidableEq

def Mode.unquoted (double : Bool) : Mode := if double then .double else .plain

/-- The command that is being read, and those that it stands in, innermost first. -/
structure State where
  mode : Mode
  frame : Frame
  outer : List Frame

def closeParen (f : Frame) (outer : List Frame) : State :=
  match f.parens, outer with
  | n + 1, outer => ⟨.plain, { f.operator ')' with parens := n }, outer⟩
  | 0, [] => ⟨.plain, f.operator ')', []⟩
  | 0, enclosing :: outer =>
      ⟨.unquoted f.double, enclosing.push (.command f.endWord.tokens), outer⟩

def operatorSymbols : List Char := [';', '&', '|', '<', '>', '\n']

def expansionSymbols : List Char := [Char.ofNat 0x60, '*', '?', '[', '~']

def plainStep (f : Frame) (outer : List Frame) (c : Char) : State :=
  if c = '\'' then ⟨.single, f.openWord, outer⟩
  else if c = '"' then ⟨.double, f.openWord, outer⟩
  else if c = '\\' then ⟨.escape false, f, outer⟩
  else if c = '$' then ⟨.dollar false, f, outer⟩
  else if c = '#' ∧ f.word.isNone then ⟨.comment, f, outer⟩
  else if c = ' ' ∨ c = '\t' then ⟨.plain, f.endWord, outer⟩
  else if c = '(' then ⟨.plain, { f.operator '(' with parens := f.parens + 1 }, outer⟩
  else if c = ')' then closeParen f outer
  else if c ∈ operatorSymbols then ⟨.plain, f.operator c, outer⟩
  else if c ∈ expansionSymbols then ⟨.plain, f.push (.expansion c), outer⟩
  else ⟨.plain, f.push (.char c), outer⟩

def doubleStep (f : Frame) (outer : List Frame) (c : Char) : State :=
  if c = '"' then ⟨.plain, f, outer⟩
  else if c = '\\' then ⟨.escape true, f, outer⟩
  else if c = '$' then ⟨.dollar true, f, outer⟩
  else if c.toNat = 0x60 then ⟨.double, f.push (.expansion c), outer⟩
  else ⟨.double, f.push (.char c), outer⟩

def step (s : State) (c : Char) : State :=
  match s.mode with
  | .plain => plainStep s.frame s.outer c
  | .double => doubleStep s.frame s.outer c
  | .single =>
      if c = '\'' then { s with mode := .plain } else { s with frame := s.frame.push (.char c) }
  | .comment =>
      if c = '\n' then plainStep s.frame s.outer c else s
  | .escape false =>
      if c = '\n' then { s with mode := .plain }
      else ⟨.plain, s.frame.push (.char c), s.outer⟩
  | .escape true =>
      if c = '\n' then { s with mode := .double }
      else if c = '$' ∨ c = '"' ∨ c = '\\' ∨ c.toNat = 0x60 then
        ⟨.double, s.frame.push (.char c), s.outer⟩
      else ⟨.double, (s.frame.push (.char '\\')).push (.char c), s.outer⟩
  | .dollar double =>
      if c = '(' then ⟨.plain, ⟨[], none, 0, double⟩, s.frame :: s.outer⟩
      else if double then doubleStep (s.frame.push (.expansion '$')) s.outer c
      else plainStep (s.frame.push (.expansion '$')) s.outer c

def run (s : State) (text : List Char) : State := text.foldl step s

def start : State := ⟨.plain, ⟨[], none, 0, false⟩, []⟩

def finish (s : State) : Option (List Token) :=
  match s.outer, s.mode with
  | [], .plain | [], .comment => some s.frame.endWord.tokens
  | [], .escape false => some (s.frame.push (.char '\\')).endWord.tokens
  | [], .dollar false => some (s.frame.push (.expansion '$')).endWord.tokens
  | _, _ => none

def tokenize (text : String) : Option (List Token) := finish (run start text.toList)

theorem run_append (s : State) (a b : List Char) : run s (a ++ b) = run (run s a) b := by
  rw [run, run, run, List.foldl_append]

theorem run_cons (s : State) (c : Char) (text : List Char) :
    run s (c :: text) = run (step s c) text := rfl

@[simp] theorem run_nil (s : State) : run s [] = s := rfl

/-! ## Quoted texts -/

@[simp] theorem Frame.pushText_nil (f : Frame) : f.pushText [] = f.openWord := by
  simp [Frame.pushText, Frame.openWord]

@[simp] theorem Frame.openWord_push (f : Frame) (part : Part) :
    f.openWord.push part = f.push part := rfl

@[simp] theorem Frame.openWord_pushText (f : Frame) (text : List Char) :
    f.openWord.pushText text = f.pushText text := rfl

@[simp] theorem Frame.openWord_push_self (f : Frame) (part : Part) :
    (f.push part).openWord = f.push part := rfl

@[simp] theorem Frame.push_pushText (f : Frame) (c : Char) (text : List Char) :
    (f.push (.char c)).pushText text = f.pushText (c :: text) := by
  simp [Frame.push, Frame.pushText]

theorem run_single {text : List Char} (h : '\'' ∉ text) (f : Frame) (outer : List Frame) :
    run ⟨.single, f.openWord, outer⟩ text = ⟨.single, f.pushText text, outer⟩ := by
  induction text generalizing f with
  | nil => rw [run_nil, Frame.pushText_nil]
  | cons c text ih =>
      rw [List.mem_cons, not_or] at h
      have hstep : step ⟨.single, f.openWord, outer⟩ c =
          ⟨.single, (f.push (.char c)).openWord, outer⟩ := by
        simp [step, Ne.symm h.1]
      rw [run_cons, hstep, ih h.2, Frame.push_pushText]

theorem run_quoted {text : List Char} (h : '\'' ∉ text) (f : Frame) (outer : List Frame) :
    run ⟨.plain, f, outer⟩ ('\'' :: text ++ ['\'']) = ⟨.plain, f.pushText text, outer⟩ := by
  rw [run_append, run_cons]
  exact congrArg (fun s => run s ['\'']) (run_single h f outer)

theorem run_double {text : List Char}
    (h : ∀ c ∈ text, c ≠ '"' ∧ c ≠ '\\' ∧ c ≠ '$') (s : State) (hs : s.mode = .double) :
    (run s text).mode = .double := by
  induction text generalizing s with
  | nil => exact hs
  | cons c text ih =>
      obtain ⟨hquote, hslash, hdollar⟩ := h c (by simp)
      rw [run_cons]
      apply ih fun d hd => h d (by simp [hd])
      simp only [step, hs, doubleStep, if_neg hquote, if_neg hslash, if_neg hdollar]
      split <;> rfl

/-! ## How often a character is taken as it is -/

mutual

def Part.count (d : Char) : Part → Nat
  | .char c => if c = d then 1 else 0
  | .expansion _ => 0
  | .command body => countTokens d body

def countParts (d : Char) : List Part → Nat
  | [] => 0
  | part :: parts => part.count d + countParts d parts

def Token.count (d : Char) : Token → Nat
  | .word parts => countParts d parts
  | .operator _ => 0

def countTokens (d : Char) : List Token → Nat
  | [] => 0
  | token :: tokens => token.count d + countTokens d tokens

end

def Frame.count (d : Char) (f : Frame) : Nat :=
  countTokens d f.tokens + countParts d (f.word.getD [])

def State.count (d : Char) (s : State) : Nat :=
  s.frame.count d + (s.outer.map (Frame.count d)).sum

@[simp] theorem State.count_mk (d : Char) (mode : Mode) (f : Frame) (outer : List Frame) :
    State.count d ⟨mode, f, outer⟩ = f.count d + (outer.map (Frame.count d)).sum := rfl

section Count

variable (d : Char)

@[simp] theorem countParts_append (a b : List Part) :
    countParts d (a ++ b) = countParts d a + countParts d b := by
  induction a with
  | nil => simp [countParts]
  | cons part a ih => simp [countParts, ih, Nat.add_assoc]

@[simp] theorem countTokens_append (a b : List Token) :
    countTokens d (a ++ b) = countTokens d a + countTokens d b := by
  induction a with
  | nil => simp [countTokens]
  | cons token a ih => simp [countTokens, ih, Nat.add_assoc]

@[simp] theorem countParts_chars (text : List Char) :
    countParts d (text.map .char) = text.count d := by
  induction text with
  | nil => rfl
  | cons c text ih => simp [countParts, Part.count, ih, List.count_cons, Nat.add_comm]

@[simp] theorem count_literal (text : List Char) : (literal text).count d = text.count d := by
  simp [literal, Token.count]

@[simp] theorem Frame.count_openWord (f : Frame) : f.openWord.count d = f.count d := rfl

@[simp] theorem Frame.count_push (f : Frame) (part : Part) :
    (f.push part).count d = f.count d + part.count d := by
  simp [Frame.count, Frame.push, countParts, Nat.add_assoc]

@[simp] theorem Frame.count_pushText (f : Frame) (text : List Char) :
    (f.pushText text).count d = f.count d + text.count d := by
  simp [Frame.count, Frame.pushText, Nat.add_assoc]

theorem Frame.countTokens_endWord (f : Frame) : countTokens d f.endWord.tokens = f.count d := by
  cases hword : f.word with
  | none => simp [Frame.count, Frame.endWord, hword, countParts]
  | some parts => simp [Frame.count, Frame.endWord, hword, countTokens, Token.count]

theorem Frame.word_endWord (f : Frame) : f.endWord.word = none := by
  cases hword : f.word with
  | none => simp [Frame.endWord, hword]
  | some parts => simp [Frame.endWord, hword]

@[simp] theorem Frame.count_endWord (f : Frame) : f.endWord.count d = f.count d := by
  rw [Frame.count, f.word_endWord, f.countTokens_endWord]
  rfl

@[simp] theorem Frame.count_operator (f : Frame) (c : Char) :
    (f.operator c).count d = f.count d := by
  have hword : (f.operator c).word = none := f.word_endWord
  rw [Frame.count, hword, Frame.operator, countTokens_append, f.countTokens_endWord]
  simp [countTokens, Token.count, countParts]

theorem count_closeParen (f : Frame) (outer : List Frame) :
    (closeParen f outer).count d = f.count d + (outer.map (Frame.count d)).sum := by
  unfold closeParen
  split
  next => exact congrArg (· + _) (f.count_operator d ')')
  next => exact congrArg (· + _) (f.count_operator d ')')
  next enclosing outer _ =>
      simp only [State.count, Frame.count_push, Part.count, Frame.countTokens_endWord,
        List.map_cons, List.sum_cons]
      omega

theorem count_plainStep_le (f : Frame) (outer : List Frame) (c : Char) :
    (plainStep f outer c).count d ≤
      f.count d + (outer.map (Frame.count d)).sum + (Part.char c).count d := by
  have hparens : Frame.count d { f.operator '(' with parens := f.parens + 1 } = f.count d :=
    f.count_operator d '('
  have hmark : (Part.expansion c).count d = 0 := rfl
  simp only [plainStep, apply_ite (State.count d), State.count_mk, Frame.count_openWord,
    Frame.count_endWord, hparens, count_closeParen, Frame.count_operator, Frame.count_push, hmark,
    Nat.add_zero, Nat.add_right_comm _ ((Part.char c).count d)]
  -- Only the last branch takes the character as it is.
  generalize f.count d + (outer.map (Frame.count d)).sum = before
  have hle : before ≤ before + (Part.char c).count d := Nat.le_add_right _ _
  simp only [apply_ite (· ≤ before + (Part.char c).count d), hle, Nat.le_refl, ite_self]

theorem count_doubleStep_le (f : Frame) (outer : List Frame) (c : Char) :
    (doubleStep f outer c).count d ≤
      f.count d + (outer.map (Frame.count d)).sum + (Part.char c).count d := by
  unfold doubleStep
  split_ifs <;> simp only [State.count_mk, Frame.count_push, Part.count] <;> omega

theorem count_step_le {d : Char} (hd : d ≠ '\\') (s : State) (c : Char) :
    (step s c).count d ≤ s.count d + (Part.char c).count d := by
  obtain ⟨mode, f, outer⟩ := s
  have hslash : (Part.char '\\').count d = 0 := if_neg hd.symm
  cases mode with
  | plain => exact count_plainStep_le d f outer c
  | double => exact count_doubleStep_le d f outer c
  | single =>
      unfold step
      split_ifs <;> simp only [State.count_mk, Frame.count_push] <;> omega
  | comment =>
      simp only [step]
      split_ifs
      · exact count_plainStep_le d f outer c
      · omega
  | escape double =>
      cases double <;> simp only [step] <;> split_ifs <;>
        simp only [State.count_mk, Frame.count_push] <;> omega
  | dollar double =>
      have hmark : (f.push (.expansion '$')).count d = f.count d := f.count_push d _
      have hplain := count_plainStep_le d (f.push (.expansion '$')) outer c
      have hdouble := count_doubleStep_le d (f.push (.expansion '$')) outer c
      rw [hmark] at hplain hdouble
      simp only [step]
      split_ifs
      · simp [Frame.count, countTokens, countParts]
      · exact hdouble
      · exact hplain

theorem count_run_le {d : Char} (hd : d ≠ '\\') (s : State) (text : List Char) :
    (run s text).count d ≤ s.count d + text.count d := by
  induction text generalizing s with
  | nil => simp
  | cons c text ih =>
      have hstep := count_step_le hd s c
      have hrest := ih (step s c)
      rw [run_cons, List.count_cons]
      simp only [Part.count] at hstep
      simp only [beq_iff_eq]
      omega

theorem count_finish {d : Char} (hd : d ≠ '\\') {s : State} {tokens : List Token}
    (h : finish s = some tokens) : countTokens d tokens = s.count d := by
  obtain ⟨mode, f, outer⟩ := s
  have hslash : (Part.char '\\').count d = 0 := if_neg hd.symm
  have hend := Frame.countTokens_endWord d
  cases outer with
  | cons enclosing outer => cases mode <;> cases h
  | nil =>
      cases mode with
      | plain | comment =>
          obtain rfl := Option.some.inj h
          exact hend f
      | single | double => cases h
      | escape double =>
          cases double <;> cases h
          rw [hend, Frame.count_push, hslash]
          rfl
      | dollar double =>
          cases double <;> cases h
          rw [hend, Frame.count_push]
          rfl

end Count

/-! ## Texts with a single quote -/

theorem mode_closeParen_ne (f : Frame) (outer : List Frame) (double : Bool) :
    (closeParen f outer).mode ≠ .escape double := by
  unfold closeParen Mode.unquoted
  split
  · exact nofun
  · exact nofun
  · split <;> exact nofun

theorem mode_plainStep_ne (f : Frame) (outer : List Frame) {c : Char} (hc : c ≠ '\\')
    (double : Bool) : (plainStep f outer c).mode ≠ .escape double := by
  simp only [plainStep, apply_ite State.mode, if_neg hc,
    apply_ite (· ≠ Mode.escape double), mode_closeParen_ne f outer double, ne_eq, reduceCtorEq,
    not_false_eq_true, ite_self]

theorem mode_doubleStep_ne (f : Frame) (outer : List Frame) {c : Char} (hc : c ≠ '\\')
    (double : Bool) : (doubleStep f outer c).mode ≠ .escape double := by
  simp only [doubleStep, apply_ite State.mode, if_neg hc, apply_ite (· ≠ Mode.escape double),
    ne_eq, reduceCtorEq, not_false_eq_true, ite_self]

theorem step_mode_ne_escape (s : State) {c : Char} (hc : c ≠ '\\') (double : Bool) :
    (step s c).mode ≠ .escape double := by
  obtain ⟨mode, f, outer⟩ := s
  cases mode with
  | plain => exact mode_plainStep_ne f outer hc double
  | double => exact mode_doubleStep_ne f outer hc double
  | single =>
      simp only [step]
      split <;> simp
  | comment =>
      simp only [step]
      split
      · exact mode_plainStep_ne f outer hc double
      · simp
  | escape inside => cases inside <;> simp only [step] <;> split_ifs <;> simp
  | dollar inside =>
      simp only [step]
      split_ifs
      · simp
      · exact mode_doubleStep_ne _ outer hc double
      · exact mode_plainStep_ne _ outer hc double

theorem run_mode_ne_escape {text : List Char} (h : '\\' ∉ text) {s : State}
    (hs : ∀ double, s.mode ≠ .escape double) (double : Bool) :
    (run s text).mode ≠ .escape double := by
  induction text generalizing s with
  | nil => exact hs double
  | cons c text ih =>
      rw [List.mem_cons, not_or] at h
      exact ih h.2 (step_mode_ne_escape s (Ne.symm h.1))

theorem step_quote {s : State} (hs : ∀ double, s.mode ≠ .escape double) :
    (step s '\'').mode = .double ∨ (step s '\'').count '\'' = s.count '\'' := by
  obtain ⟨mode, f, outer⟩ := s
  cases mode with
  | plain => exact .inr rfl
  | double => exact .inl rfl
  | single => exact .inr rfl
  | comment => exact .inr rfl
  | escape double => exact absurd rfl (hs double)
  | dollar double =>
      cases double with
      | true => exact .inl rfl
      | false =>
          right
          have hmark : (f.push (.expansion '$')).count '\'' = f.count '\'' := f.count_push _ _
          exact congrArg (· + (outer.map (Frame.count '\'')).sum) hmark

/-- Between single quotes, a text with a single quote loses one of them. -/
theorem count_finish_splice_lt {text tail : List Char} {tokens : List Token} (f : Frame)
    (outer : List Frame) (hquote : '\'' ∈ text) (hslash : '\\' ∉ text)
    (htail : ∀ c ∈ tail, c ≠ '\'' ∧ c ≠ '"' ∧ c ≠ '\\' ∧ c ≠ '$')
    (h : finish (run ⟨.plain, f, outer⟩ ('\'' :: text ++ '\'' :: tail)) = some tokens) :
    countTokens '\'' tokens < State.count '\'' ⟨.plain, f, outer⟩ + text.count '\'' := by
  obtain ⟨before, after, rfl, hbefore⟩ := List.eq_append_cons_of_mem hquote
  have hsplit : '\'' :: (before ++ '\'' :: after) ++ '\'' :: tail =
      ('\'' :: before ++ ['\'']) ++ (after ++ '\'' :: tail) := by simp
  rw [hsplit, run_append, run_quoted hbefore, run_append, run_cons] at h
  have hcount := count_run_le (by decide : '\'' ≠ '\\') ⟨.plain, f.pushText before, outer⟩ after
  have hmode : ∀ double, (run ⟨.plain, f.pushText before, outer⟩ after).mode ≠ .escape double :=
    run_mode_ne_escape (by simp_all) (by simp)
  generalize run ⟨.plain, f.pushText before, outer⟩ after = s at h hcount hmode
  rcases step_quote hmode with hdouble | hsame
  · -- The last quote stands inside double quotes, which nothing ends.
    have hopen := run_double (fun c hc => (htail c hc).2) (step s '\'') hdouble
    simp [finish, hopen] at h
  · have hrest := count_run_le (by decide : '\'' ≠ '\\') (step s '\'') tail
    rw [List.count_eq_zero_of_not_mem fun hmem => (htail _ hmem).1 rfl] at hrest
    have hnone := List.count_eq_zero_of_not_mem hbefore
    have hmid : State.count '\'' ⟨.plain, f.pushText before, outer⟩ =
        State.count '\'' ⟨.plain, f, outer⟩ := by simp [hnone]
    rw [count_finish (by decide) h, List.count_append, List.count_cons_self]
    omega

end JudgeVortex.Foundation.Shell
