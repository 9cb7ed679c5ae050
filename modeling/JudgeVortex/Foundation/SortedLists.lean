import Mathlib.Data.List.Sort

/-!
# Sorting by a total order

A sorted list is the list without its order: two lists are the same once they are
sorted exactly if one is a permutation of the other.
-/

namespace JudgeVortex.Foundation

theorem insertionSort_eq_iff_perm {α : Type*} (r : α → α → Prop) [DecidableRel r]
    [Std.Total r] [IsTrans α r] [Std.Antisymm r] (xs ys : List α) :
    xs.insertionSort r = ys.insertionSort r ↔ xs.Perm ys := by
  constructor
  · intro h
    exact (List.perm_insertionSort r xs).symm.trans (h ▸ List.perm_insertionSort r ys)
  · intro h
    have hperm : (xs.insertionSort r).Perm (ys.insertionSort r) :=
      (List.perm_insertionSort r xs).trans (h.trans (List.perm_insertionSort r ys).symm)
    exact hperm.eq_of_pairwise' (List.pairwise_insertionSort r xs)
      (List.pairwise_insertionSort r ys)

end JudgeVortex.Foundation
