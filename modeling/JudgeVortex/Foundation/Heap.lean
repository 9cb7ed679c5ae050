import Mathlib.Order.Interval.Set.Basic

/-!
# Heaps of cells that refer to each other

A heap lists its cells by address, and a new cell gets the next address.  A set of
addresses is guarded if no cell outside refers into it: whoever starts outside and
follows references stays outside, and what is written there cannot be seen inside.
-/

namespace JudgeVortex.Foundation

variable {Cell : Type*} (refs : Cell → List Nat)

structure Guards (heap : List Cell) (P : Set Nat) : Prop where
  bounded : ∀ a ∈ P, a < heap.length
  outside : ∀ a ∉ P, ∀ cell, heap[a]? = some cell → ∀ r ∈ refs cell, r ∉ P ∧ r < heap.length

variable {refs} {heap heap' : List Cell} {P : Set Nat}

theorem guards_set {a : Nat} {cell : Cell} (h : Guards refs heap P)
    (hcell : ∀ r ∈ refs cell, r ∉ P ∧ r < heap.length) : Guards refs (heap.set a cell) P := by
  refine ⟨?_, ?_⟩
  · intro b hb
    rw [List.length_set]
    exact h.bounded b hb
  · intro b hb other hother r hr
    rw [List.length_set]
    rw [List.getElem?_set] at hother
    split at hother
    next heq =>
      split at hother
      next hlt =>
        obtain rfl := Option.some.inj hother
        exact hcell r hr
      next => cases hother
    next => exact h.outside b hb other hother r hr

theorem getElem?_eq_of_grown (h : heap <+: heap') {a : Nat} (ha : a < heap.length) :
    heap'[a]? = heap[a]? := by
  obtain ⟨extra, rfl⟩ := h
  exact List.getElem?_append_left ha

theorem getElem?_eq_some_of_grown (h : heap <+: heap') {a : Nat} {cell : Cell}
    (ha : heap[a]? = some cell) : heap'[a]? = some cell := by
  rw [getElem?_eq_of_grown h (List.getElem?_eq_some_iff.mp ha).1, ha]

theorem prefix_set (h : heap <+: heap') {a : Nat} (ha : heap.length ≤ a) (cell : Cell) :
    heap <+: heap'.set a cell := by
  obtain ⟨extra, rfl⟩ := h
  rw [List.set_append_right _ _ ha]
  exact List.prefix_append heap _

theorem guards_append_outside {extra : List Cell} (h : Guards refs heap P)
    (hextra : ∀ cell ∈ extra, ∀ r ∈ refs cell, r ∉ P ∧ r < (heap ++ extra).length) :
    Guards refs (heap ++ extra) P := by
  refine ⟨?_, ?_⟩
  · intro a ha
    rw [List.length_append]
    exact Nat.lt_add_right _ (h.bounded a ha)
  · intro a ha cell hcell r hr
    by_cases hlt : a < heap.length
    · rw [List.getElem?_append_left hlt] at hcell
      obtain ⟨hout, hbound⟩ := h.outside a ha cell hcell r hr
      rw [List.length_append]
      exact ⟨hout, Nat.lt_add_right _ hbound⟩
    · rw [List.getElem?_append_right (Nat.le_of_not_lt hlt)] at hcell
      exact hextra cell (List.mem_of_getElem? hcell) r hr

theorem guards_prefix_inside (h : Guards refs heap P) (hgrow : heap <+: heap') :
    Guards refs heap' (P ∪ Set.Ico heap.length heap'.length) := by
  have hlen := hgrow.length_le
  refine ⟨?_, ?_⟩
  · rintro a (ha | ⟨-, ha⟩)
    · exact (h.bounded a ha).trans_le hlen
    · exact ha
  · intro a ha cell hcell r hr
    have hlt : a < heap'.length := (List.getElem?_eq_some_iff.mp hcell).1
    have hout : a ∉ P := fun hmem => ha (.inl hmem)
    have hold : a < heap.length := by
      by_contra hnew
      exact ha (.inr ⟨Nat.le_of_not_lt hnew, hlt⟩)
    rw [getElem?_eq_of_grown hgrow hold] at hcell
    obtain ⟨hr, hbound⟩ := h.outside a hout cell hcell r hr
    refine ⟨?_, hbound.trans_le hlen⟩
    rintro (hmem | ⟨hnew, -⟩)
    · exact hr hmem
    · exact absurd hbound (Nat.not_lt.mpr hnew)

/-! ## Structures on their own -/

variable (refs) in
/-- The cells from address `n` on refer to cells from there on. -/
def ClosedFrom (n : Nat) (heap : List Cell) : Prop :=
  ∀ a cell, n ≤ a → heap[a]? = some cell → ∀ r ∈ refs cell, n ≤ r ∧ r < heap.length

theorem closedFrom_length : ClosedFrom refs heap.length heap := by
  intro a cell ha hcell
  exact absurd (List.getElem?_eq_some_iff.mp hcell).1 (Nat.not_lt.mpr ha)

theorem ClosedFrom.trans {n : Nat} (h : ClosedFrom refs n heap) (hgrow : heap <+: heap')
    (hn : n ≤ heap.length) (h' : ClosedFrom refs heap.length heap') :
    ClosedFrom refs n heap' := by
  intro a cell ha hcell r hr
  by_cases hlt : a < heap.length
  · rw [getElem?_eq_of_grown hgrow hlt] at hcell
    obtain ⟨hle, hbound⟩ := h a cell ha hcell r hr
    exact ⟨hle, hbound.trans_le hgrow.length_le⟩
  · obtain ⟨hle, hbound⟩ := h' a cell (Nat.le_of_not_lt hlt) hcell r hr
    exact ⟨hn.trans hle, hbound⟩

theorem ClosedFrom.concat {n : Nat} {cell : Cell} (h : ClosedFrom refs n heap)
    (hcell : ∀ r ∈ refs cell, n ≤ r ∧ r < heap.length) : ClosedFrom refs n (heap ++ [cell]) := by
  intro a other ha hother r hr
  rw [List.length_append, List.length_singleton]
  by_cases hlt : a < heap.length
  · rw [List.getElem?_append_left hlt] at hother
    obtain ⟨hle, hbound⟩ := h a other ha hother r hr
    exact ⟨hle, Nat.lt_succ_of_lt hbound⟩
  · rw [List.getElem?_append_right (Nat.le_of_not_lt hlt)] at hother
    obtain rfl := List.mem_singleton.mp (List.mem_of_getElem? hother)
    obtain ⟨hle, hbound⟩ := hcell r hr
    exact ⟨hle, Nat.lt_succ_of_lt hbound⟩

/-- A structure on its own can be put outside. -/
theorem Guards.of_closedFrom (h : Guards refs heap P) (hgrow : heap <+: heap')
    (hclosed : ClosedFrom refs heap.length heap') : Guards refs heap' P := by
  obtain ⟨extra, rfl⟩ := hgrow
  refine guards_append_outside h fun cell hmem r hr => ?_
  obtain ⟨i, hi⟩ := List.mem_iff_getElem?.mp hmem
  have hcell : (heap ++ extra)[heap.length + i]? = some cell := by
    rw [List.getElem?_append_right (Nat.le_add_right _ _), Nat.add_sub_cancel_left, hi]
  obtain ⟨hle, hbound⟩ := hclosed _ cell (Nat.le_add_right _ _) hcell r hr
  exact ⟨fun hin => absurd (h.bounded r hin) (Nat.not_lt.mpr hle), hbound⟩

end JudgeVortex.Foundation
