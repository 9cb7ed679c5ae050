import JudgeVortex.Foundation.Trim

/-!
# Texts as lines

A text is a list over any alphabet with a newline `nl` and a set `space` of
whitespace symbols.  `joinLines` puts it together from its lines; taking it apart
is `List.splitOn nl`.
-/

namespace JudgeVortex.Foundation

section Defs

variable {α : Type*} (nl : α) (space : α → Bool)

def joinLines (lines : List (List α)) : List α := [nl].intercalate lines

def blankLine (line : List α) : Bool := line.all space

end Defs

section Join

variable {α : Type*} {nl : α}

@[simp] theorem joinLines_nil : joinLines nl [] = [] := rfl

@[simp] theorem joinLines_singleton (line : List α) :
    joinLines nl [line] = line := by
  simp [joinLines]

@[simp] theorem joinLines_cons_cons (line next : List α)
    (rest : List (List α)) :
    joinLines nl (line :: next :: rest) =
      line ++ nl :: joinLines nl (next :: rest) := by
  simp [joinLines]

theorem joinLines_append {first rest : List (List α)} (hfirst : first ≠ [])
    (hrest : rest ≠ []) :
    joinLines nl (first ++ rest) =
      joinLines nl first ++ nl :: joinLines nl rest := by
  induction first with
  | nil => exact absurd rfl hfirst
  | cons line first ih =>
      cases first with
      | nil =>
          cases rest with
          | nil => exact absurd rfl hrest
          | cons next rest => simp
      | cons next first =>
          have htail := ih (by simp)
          rw [List.cons_append] at htail
          simp [htail]

end Join

section Lines

variable {α : Type*} {nl : α} {space : α → Bool}

theorem mem_joinLines {lines : List (List α)} {a : α}
    (h : a ∈ joinLines nl lines) : a = nl ∨ ∃ line ∈ lines, a ∈ line := by
  induction lines with
  | nil => simp at h
  | cons line lines ih =>
      cases lines with
      | nil => exact .inr ⟨line, by simp, by simpa using h⟩
      | cons next rest =>
          rw [joinLines_cons_cons, List.mem_append, List.mem_cons] at h
          rcases h with h | rfl | h
          · exact .inr ⟨line, by simp, h⟩
          · exact .inl rfl
          · exact (ih h).imp_right fun ⟨l, hl, ha⟩ => ⟨l, List.mem_cons_of_mem _ hl, ha⟩

theorem mem_joinLines_of_mem {lines : List (List α)} {line : List α} {a : α}
    (hline : line ∈ lines) (ha : a ∈ line) : a ∈ joinLines nl lines := by
  induction lines with
  | nil => cases hline
  | cons first lines ih =>
      cases lines with
      | nil =>
          rw [List.mem_singleton] at hline
          simpa [hline] using ha
      | cons next rest =>
          rw [joinLines_cons_cons, List.mem_append, List.mem_cons]
          rcases List.mem_cons.mp hline with rfl | hline
          · exact .inl ha
          · exact .inr (.inr (ih hline))

theorem blankLine_joinLines (hnl : space nl = true) (lines : List (List α)) :
    blankLine space (joinLines nl lines) = lines.all (blankLine space) := by
  induction lines with
  | nil => rfl
  | cons line lines ih =>
      cases lines with
      | nil => simp
      | cons next rest =>
          have hrest : (joinLines nl (next :: rest)).all space =
              (next :: rest).all (blankLine space) := ih
          rw [joinLines_cons_cons, List.all_cons, ← hrest]
          simp [blankLine, hnl]

end Lines

section Trim

variable {α : Type*} [DecidableEq α] {nl : α}

theorem joinLines_all_newline {lines : List (List α)}
    (h : ∀ line ∈ lines, line.isEmpty = true) :
    ∀ a ∈ joinLines nl lines, (a == nl) = true := by
  intro a ha
  rcases mem_joinLines ha with rfl | ⟨line, hline, hmem⟩
  · simp
  · rw [List.isEmpty_iff.mp (h line hline)] at hmem
    cases hmem

private theorem trim_joinLines_left {before : List (List α)}
    (h : ∀ line ∈ before, line.isEmpty = true) (lines : List (List α)) :
    trim (· == nl) (joinLines nl (before ++ lines)) =
      trim (· == nl) (joinLines nl lines) := by
  induction before with
  | nil => rfl
  | cons b before ih =>
      have hrest := ih fun line hline => h line (List.mem_cons_of_mem _ hline)
      rw [← hrest, List.isEmpty_iff.mp (h b (by simp)), List.cons_append]
      cases before ++ lines with
      | nil => rfl
      | cons next rest =>
          rw [joinLines_cons_cons, List.nil_append]
          have hnewline : ∀ a ∈ [nl], (a == nl) = true := by simp
          exact trim_append_left (· == nl) hnewline _

private theorem trim_joinLines_right {after : List (List α)}
    (h : ∀ line ∈ after, line.isEmpty = true) (lines : List (List α)) :
    trim (· == nl) (joinLines nl (lines ++ after)) =
      trim (· == nl) (joinLines nl lines) := by
  cases after with
  | nil => rw [List.append_nil]
  | cons b after =>
      have hnewlines : ∀ a ∈ joinLines nl (b :: after), (a == nl) = true :=
        joinLines_all_newline h
      cases lines with
      | nil =>
          rw [List.nil_append, joinLines_nil, trim_nil]
          exact (trim_eq_nil_iff _).mpr hnewlines
      | cons line lines =>
          rw [joinLines_append (by simp) (by simp)]
          refine trim_append_right _ (fun a ha => ?_) _
          rcases List.mem_cons.mp ha with rfl | ha
          · exact beq_self_eq_true a
          · exact hnewlines a ha

private theorem trimmed_joinLines {lines : List (List α)}
    (h : ∀ line ∈ lines, nl ∉ line) (htrimmed : Trimmed List.isEmpty lines) :
    Trimmed (· == nl) (joinLines nl lines) := by
  constructor
  · intro a ha
    cases lines with
    | nil => simp at ha
    | cons line rest =>
        have hne : line ≠ [] := by
          have := htrimmed.1 line rfl
          simpa using this
        have hhead : a ∈ line.head? := by
          cases rest with
          | nil => simpa using ha
          | cons next rest =>
              rwa [joinLines_cons_cons, List.head?_append_of_ne_nil _ hne] at ha
        have hmem : a ∈ line := List.mem_of_mem_head? hhead
        exact beq_eq_false_iff_ne.mpr fun heq => h line (by simp) (heq ▸ hmem)
  · intro a ha
    rcases List.eq_nil_or_concat lines with rfl | ⟨init, line, rfl⟩
    · simp at ha
    · rw [List.concat_eq_append] at *
      have hne : line ≠ [] := by
        have := htrimmed.2 line (by simp)
        simpa using this
      have hlast : a ∈ line.getLast? := by
        cases init with
        | nil => simpa using ha
        | cons first init =>
            rwa [joinLines_append (by simp) (by simp), joinLines_singleton,
              List.append_cons, List.getLast?_append_of_ne_nil _ hne] at ha
      have hmem : a ∈ line := List.mem_of_mem_getLast? hlast
      exact beq_eq_false_iff_ne.mpr fun heq => h line (by simp) (heq ▸ hmem)

theorem trim_joinLines {lines : List (List α)} (h : ∀ line ∈ lines, nl ∉ line) :
    trim (· == nl) (joinLines nl lines) = joinLines nl (trim List.isEmpty lines) := by
  obtain ⟨before, after, hlines, hbefore, hafter⟩ := trim_decomposition List.isEmpty lines
  conv_lhs => rw [hlines]
  rw [trim_joinLines_right hafter, trim_joinLines_left hbefore]
  refine trim_of_trimmed _ (trimmed_joinLines ?_ (trimmed_trim List.isEmpty lines))
  exact fun line hline => h line ((trim_sublist _ _).subset hline)

end Trim

section SplitOn

variable {α : Type*} [DecidableEq α] {nl : α}

theorem not_mem_of_mem_splitOn {text line : List α} (h : line ∈ text.splitOn nl) :
    nl ∉ line := by
  induction text generalizing line with
  | nil => simp_all
  | cons a text ih =>
      rw [List.splitOn_cons_eq_if_modifyHead] at h
      split at h
      · rcases List.mem_cons.mp h with rfl | h
        · simp
        · exact ih h
      · rename_i hne
        cases hsplit : text.splitOn nl with
        | nil => exact absurd hsplit (List.splitOn_ne_nil nl text)
        | cons first rest =>
            rw [hsplit] at h ih
            rcases List.mem_cons.mp h with rfl | h
            · have hfirst : nl ∉ first := ih (by simp)
              rw [List.mem_cons, not_or]
              exact ⟨fun heq => hne (by simp [heq]), hfirst⟩
            · exact ih (List.mem_cons_of_mem _ h)

theorem mem_of_mem_splitOn {text line : List α} {a : α} (h : line ∈ text.splitOn nl)
    (ha : a ∈ line) : a ∈ text := by
  have hjoin : joinLines nl (text.splitOn nl) = text := List.intercalate_splitOn nl
  rw [← hjoin]
  exact mem_joinLines_of_mem h ha

theorem splitOn_intercalate_empty_line {texts : List (List α)} (hne : texts ≠ []) :
    ([nl, nl].intercalate texts).splitOn nl =
      joinLines [] (texts.map (List.splitOn nl)) := by
  induction texts with
  | nil => exact absurd rfl hne
  | cons text texts ih =>
      cases texts with
      | nil => simp
      | cons next rest =>
          rw [List.intercalate_cons_cons, List.map_cons, List.map_cons,
            joinLines_cons_cons, ← List.map_cons, ← ih (by simp)]
          rw [List.append_assoc, List.cons_append, List.splitOn_append_cons_self,
            List.cons_append, List.nil_append]
          have hempty := List.splitOn_append_cons_self (a := nl) []
            ([nl, nl].intercalate (next :: rest))
          rw [List.nil_append] at hempty
          rw [hempty, List.splitOn_nil]
          rfl

end SplitOn

end JudgeVortex.Foundation
