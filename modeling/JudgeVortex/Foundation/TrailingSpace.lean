import JudgeVortex.Foundation.Lines
import Mathlib.Data.List.Forall2

/-!
# Trailing elements

Lists that are equal up to what stands at their ends, and texts whose lines lose it.
-/

namespace JudgeVortex.Foundation

section Trailing

variable {α : Type*} (p : α → Bool)

/-- Equal after a common front, up to trailing elements that satisfy `p`. -/
def EqUpToTrailing (x y : List α) : Prop :=
  ∃ front s t, x = front ++ s ∧ y = front ++ t ∧ (∀ a ∈ s, p a = true) ∧ ∀ a ∈ t, p a = true

theorem rdropWhile_append_of_pos (front : List α) {s : List α} (h : ∀ a ∈ s, p a = true) :
    (front ++ s).rdropWhile p = front.rdropWhile p := by
  induction s using List.reverseRecOn with
  | nil => rw [List.append_nil]
  | append_singleton s a ih =>
      rw [← List.append_assoc, List.rdropWhile_concat_pos _ _ _ (h a (by simp))]
      exact ih fun b hb => h b (List.mem_append_left _ hb)

theorem rdropWhile_eq_iff (x y : List α) :
    x.rdropWhile p = y.rdropWhile p ↔ EqUpToTrailing p x y := by
  constructor
  · intro h
    refine ⟨x.rdropWhile p, x.rtakeWhile p, y.rtakeWhile p, ?_, ?_,
      fun _ => List.mem_rtakeWhile_imp, fun _ => List.mem_rtakeWhile_imp⟩
    · rw [List.rdropWhile_append_rtakeWhile]
    · rw [h, List.rdropWhile_append_rtakeWhile]
  · rintro ⟨front, s, t, rfl, rfl, hs, ht⟩
    rw [rdropWhile_append_of_pos p front hs, rdropWhile_append_of_pos p front ht]

theorem map_rdropWhile_eq_iff (xs ys : List (List α)) :
    xs.map (List.rdropWhile p) = ys.map (List.rdropWhile p) ↔
      List.Forall₂ (EqUpToTrailing p) xs ys := by
  induction xs generalizing ys with
  | nil => cases ys <;> simp
  | cons x xs ih =>
      cases ys with
      | nil => simp
      | cons y ys => rw [List.map_cons, List.map_cons, List.cons.injEq, rdropWhile_eq_iff, ih,
          List.forall₂_cons]

theorem head?_rdropWhile {l : List α} (h : ∀ a ∈ l.head?, p a = false) :
    (l.rdropWhile p).head? = l.head? := by
  cases l with
  | nil => simp
  | cons a l =>
      have hne : (a :: l).rdropWhile p ≠ [] := by
        rw [ne_eq, List.rdropWhile_eq_nil_iff]
        intro hall
        have := hall a (by simp)
        rw [h a rfl] at this
        cases this
      obtain ⟨rest, hrest⟩ := List.rdropWhile_prefix p (l := a :: l)
      rw [← List.head?_append_of_ne_nil _ hne, hrest]

theorem rdropWhile_of_getLast? {l : List α} (h : ∀ a ∈ l.getLast?, p a = false) :
    l.rdropWhile p = l := by
  rw [List.rdropWhile_eq_self_iff]
  intro hne
  simpa using h _ (List.getLast?_eq_some_getLast hne)

end Trailing

section Lines

variable {α : Type*} {nl : α} {space : α → Bool}

private theorem head?_joinLines {line : List α} (hne : line ≠ []) (rest : List (List α)) :
    (joinLines nl (line :: rest)).head? = line.head? := by
  cases rest with
  | nil => rw [joinLines_singleton]
  | cons next rest => rw [joinLines_cons_cons, List.head?_append_of_ne_nil _ hne]

private theorem getLast?_joinLines {line : List α} (hne : line ≠ []) (init : List (List α)) :
    (joinLines nl (init ++ [line])).getLast? = line.getLast? := by
  cases init with
  | nil => rw [List.nil_append, joinLines_singleton]
  | cons first init =>
      rw [joinLines_append (by simp) (by simp), joinLines_singleton, List.append_cons,
        List.getLast?_append_of_ne_nil _ hne]

private theorem head_nonblank (hnl : space nl = true) {line next : List α}
    {rest : List (List α)}
    (h : ∀ a ∈ (joinLines nl (line :: next :: rest)).head?, space a = false) :
    line ≠ [] ∧ ∀ a ∈ line.head?, space a = false := by
  have hne : line ≠ [] := by
    rintro rfl
    have := h nl (by simp)
    rw [hnl] at this
    cases this
  rw [head?_joinLines hne] at h
  exact ⟨hne, h⟩

private theorem last_nonblank (hnl : space nl = true) {line : List α} {init : List (List α)}
    (hinit : init ≠ [])
    (h : ∀ a ∈ (joinLines nl (init ++ [line])).getLast?, space a = false) :
    line ≠ [] ∧ ∀ a ∈ line.getLast?, space a = false := by
  have hne : line ≠ [] := by
    rintro rfl
    rw [joinLines_append hinit (by simp), joinLines_singleton, List.getLast?_concat] at h
    have := h nl rfl
    rw [hnl] at this
    cases this
  rw [getLast?_joinLines hne] at h
  exact ⟨hne, h⟩

theorem trimmed_map_rdropWhile (hnl : space nl = true) {lines : List (List α)}
    (h : Trimmed space (joinLines nl lines)) :
    Trimmed space (joinLines nl (lines.map (List.rdropWhile space))) := by
  constructor
  · cases lines with
    | nil => simp
    | cons line rest =>
        cases rest with
        | nil =>
            rw [joinLines_singleton] at h
            rw [List.map_singleton, joinLines_singleton, rdropWhile_of_getLast? space h.2]
            exact h.1
        | cons next rest =>
            obtain ⟨hne, hhead⟩ := head_nonblank hnl h.1
            have hkept := head?_rdropWhile space hhead
            have hne' : line.rdropWhile space ≠ [] := by
              intro hnil
              rw [hnil, List.head?_nil] at hkept
              exact hne (List.head?_eq_none_iff.mp hkept.symm)
            rw [List.map_cons, head?_joinLines hne', hkept]
            exact hhead
  · rcases List.eq_nil_or_concat' lines with rfl | ⟨init, line, rfl⟩
    · simp
    · rcases init.eq_nil_or_concat' with rfl | ⟨front, before, rfl⟩
      · rw [List.nil_append, joinLines_singleton] at h
        rw [List.nil_append, List.map_singleton, joinLines_singleton,
          rdropWhile_of_getLast? space h.2]
        exact h.2
      · obtain ⟨hne, hlast⟩ := last_nonblank hnl (by simp) h.2
        rw [List.map_append, List.map_singleton, rdropWhile_of_getLast? space hlast,
          getLast?_joinLines hne]
        exact hlast

end Lines

end JudgeVortex.Foundation
