import Mathlib.Data.List.DropRight

/-!
# Trimming the ends of a list

`trim p` drops the longest run of elements satisfying `p` from both ends.  The
result is characterized by the decomposition it comes from: everything around it
satisfies `p`, and neither of its own ends does.
-/

namespace JudgeVortex.Foundation

section Trim

variable {α : Type*} (p : α → Bool)

def trim (l : List α) : List α := (l.dropWhile p).rdropWhile p

def Trimmed (l : List α) : Prop :=
  (∀ a ∈ l.head?, p a = false) ∧ ∀ a ∈ l.getLast?, p a = false

@[simp] theorem trim_nil : trim p ([] : List α) = [] := by
  simp [trim]

@[simp] theorem trim_eq_nil_iff {l : List α} :
    trim p l = [] ↔ ∀ a ∈ l, p a = true := by
  rw [trim, List.rdropWhile_eq_nil_iff]
  constructor
  · intro h a ha
    rw [← List.takeWhile_append_dropWhile (p := p) (l := l), List.mem_append] at ha
    exact ha.elim List.mem_takeWhile_imp (h a)
  · intro h a ha
    exact h a ((List.dropWhile_suffix p).subset ha)

theorem trim_decomposition (l : List α) :
    ∃ before after, l = before ++ trim p l ++ after ∧
      (∀ a ∈ before, p a = true) ∧ ∀ a ∈ after, p a = true := by
  refine ⟨l.takeWhile p, (l.dropWhile p).rtakeWhile p, ?_,
    fun _ h => List.mem_takeWhile_imp h,
    fun _ h => List.mem_rtakeWhile_imp h⟩
  rw [trim, List.append_assoc, List.rdropWhile_append_rtakeWhile,
    List.takeWhile_append_dropWhile]

theorem trimmed_trim (l : List α) : Trimmed p (trim p l) := by
  constructor
  · intro a ha
    have hprefix : trim p l <+: l.dropWhile p := List.rdropWhile_prefix p _
    obtain ⟨rest, hrest⟩ := hprefix
    have hhead : a ∈ (l.dropWhile p).head? := by
      rw [← hrest, List.head?_append]
      rw [Option.mem_def] at ha
      simp [ha]
    have hnot := List.head?_dropWhile_not p l
    rw [Option.mem_def] at hhead
    rw [hhead] at hnot
    simpa using hnot
  · intro a ha
    have hne : trim p l ≠ [] := by
      rintro hnil
      rw [hnil] at ha
      simp at ha
    have hlast := List.rdropWhile_last_not p _ hne
    rw [Option.mem_def, List.getLast?_eq_some_getLast hne, Option.some.injEq] at ha
    rw [← ha]
    simpa [trim] using hlast

theorem trim_of_trimmed {l : List α} (h : Trimmed p l) : trim p l = l := by
  have hdrop : l.dropWhile p = l := by
    cases l with
    | nil => rfl
    | cons a l =>
        have ha := h.1 a rfl
        simp [ha]
  rw [trim, hdrop, List.rdropWhile_eq_self_iff]
  intro hne
  have := h.2 _ (List.getLast?_eq_some_getLast hne)
  simp [this]

theorem trim_eq_self_iff {l : List α} : trim p l = l ↔ Trimmed p l :=
  ⟨fun h => h ▸ trimmed_trim p l, trim_of_trimmed p⟩

@[simp] theorem trim_trim (l : List α) : trim p (trim p l) = trim p l :=
  trim_of_trimmed p (trimmed_trim p l)

theorem trim_append_left {before : List α} (h : ∀ a ∈ before, p a = true)
    (l : List α) : trim p (before ++ l) = trim p l := by
  rw [trim, List.dropWhile_append_of_pos h, ← trim]

theorem trim_append_right {after : List α} (h : ∀ a ∈ after, p a = true)
    (l : List α) : trim p (l ++ after) = trim p l := by
  induction after using List.reverseRecOn with
  | nil => rw [List.append_nil]
  | append_singleton after a ih =>
      rw [← ih fun b hb => h b (List.mem_append_left _ hb)]
      have ha : p a = true := h a (by simp)
      rw [trim, trim, ← List.append_assoc]
      generalize l ++ after = l
      cases hdrop : l.dropWhile p with
      | nil =>
          rw [List.dropWhile_append, hdrop]
          simp [ha]
      | cons b rest =>
          rw [List.dropWhile_append, hdrop]
          simp only [List.isEmpty_cons, Bool.false_eq_true, if_false]
          exact List.rdropWhile_concat_pos p _ a ha

theorem length_trim_le (l : List α) : (trim p l).length ≤ l.length := by
  obtain ⟨before, after, heq, -, -⟩ := trim_decomposition p l
  have := congrArg List.length heq
  simp only [List.length_append] at this
  omega

theorem length_trim_eq_iff {l : List α} :
    (trim p l).length = l.length ↔ trim p l = l := by
  constructor
  · intro h
    obtain ⟨before, after, heq, -, -⟩ := trim_decomposition p l
    have hlength := congrArg List.length heq
    simp only [List.length_append] at hlength
    have hbefore : before = [] := List.length_eq_zero_iff.mp (by omega)
    have hafter : after = [] := List.length_eq_zero_iff.mp (by omega)
    rw [hbefore, hafter] at heq
    simpa using heq.symm
  · exact congrArg List.length

theorem trim_sublist (l : List α) : (trim p l).Sublist l :=
  (List.rdropWhile_prefix p _).sublist.trans (List.dropWhile_sublist p)

theorem trim_append_gap {l r : List α} {a : α} (ha : p a = true)
    (hl : trim p l ≠ []) (hr : trim p r ≠ []) :
    ∃ gap, gap ≠ [] ∧ (∀ b ∈ gap, p b = true) ∧
      trim p (l ++ a :: r) = trim p l ++ (gap ++ trim p r) := by
  obtain ⟨lbefore, lafter, hleft, hlbefore, hlafter⟩ := trim_decomposition p l
  obtain ⟨rbefore, rafter, hright, hrbefore, hrafter⟩ := trim_decomposition p r
  refine ⟨lafter ++ a :: rbefore, by simp, ?_, ?_⟩
  · intro b hb
    rw [List.mem_append, List.mem_cons] at hb
    rcases hb with hb | rfl | hb
    · exact hlafter b hb
    · exact ha
    · exact hrbefore b hb
  · have hall : l ++ a :: r =
        lbefore ++ (trim p l ++ (lafter ++ a :: rbefore ++ trim p r)) ++ rafter := by
      conv_lhs => rw [hleft, hright]
      simp
    have hends : Trimmed p (trim p l ++ (lafter ++ a :: rbefore ++ trim p r)) := by
      constructor
      · rw [List.head?_append_of_ne_nil _ hl]
        exact (trimmed_trim p l).1
      · rw [← List.append_assoc, List.getLast?_append_of_ne_nil _ hr]
        exact (trimmed_trim p r).2
    rw [hall, trim_append_right p hrafter, trim_append_left p hlbefore,
      trim_of_trimmed p hends]

end Trim

end JudgeVortex.Foundation
