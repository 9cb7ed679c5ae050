import Mathlib.Algebra.BigOperators.Group.Finset.Basic
import Mathlib.Data.List.Nodup

/-!
# Maps in the order of insertion

Entries with different keys; a key that is set again keeps its place.  A fold that updates
the entry of each element's key is, for one key, the fold over the elements of that key.
-/

namespace JudgeVortex.Foundation

theorem find?_eq_some_iff_of_nodup {β κ : Type*} [DecidableEq κ] {key : β → κ}
    {elements : List β} (hkeys : (elements.map key).Nodup) {k : κ} {b : β} :
    (elements.find? fun b => key b = k) = some b ↔ b ∈ elements ∧ key b = k := by
  constructor
  · intro hfound
    exact ⟨List.mem_of_find?_eq_some hfound, by simpa using List.find?_some hfound⟩
  · rintro ⟨hmem, hkey⟩
    have hsome : (elements.find? fun b => key b = k).isSome :=
      List.find?_isSome.mpr ⟨b, hmem, decide_eq_true hkey⟩
    obtain ⟨other, hfound⟩ := Option.isSome_iff_exists.mp hsome
    have hother : key other = k := by simpa using List.find?_some hfound
    rw [hfound, List.inj_on_of_nodup_map hkeys (List.mem_of_find?_eq_some hfound) hmem
      (hother.trans hkey.symm)]

@[ext]
structure InsertionMap (κ α : Type*) where
  entries : List (κ × α)
  nodup : (entries.map Prod.fst).Nodup

namespace InsertionMap

variable {κ α β : Type*}

def empty : InsertionMap κ α := ⟨[], .nil⟩

def keys (m : InsertionMap κ α) : List κ := m.entries.map Prod.fst

def values (m : InsertionMap κ α) : List α := m.entries.map Prod.snd

@[simp] theorem keys_empty : (empty : InsertionMap κ α).keys = [] := rfl

variable [DecidableEq κ]

def get? (m : InsertionMap κ α) (k : κ) : Option α :=
  (m.entries.find? fun entry => entry.1 = k).map Prod.snd

def set (m : InsertionMap κ α) (k : κ) (v : α) : InsertionMap κ α where
  entries :=
    if k ∈ m.keys then m.entries.map fun entry => if entry.1 = k then (k, v) else entry
    else m.entries ++ [(k, v)]
  nodup := by
    split
    next =>
      rw [List.map_map]
      refine (List.map_congr_left fun entry _ => ?_) ▸ m.nodup
      change entry.1 = (if entry.1 = k then (k, v) else entry).1
      split
      next heq => exact heq
      next => rfl
    next hnew =>
      rw [List.map_append, List.map_singleton, List.nodup_append]
      refine ⟨m.nodup, List.pairwise_singleton _ _, ?_⟩
      intro other hother same hsame heq
      obtain rfl : other = k := heq.trans (List.mem_singleton.mp hsame)
      exact hnew hother

variable {m : InsertionMap κ α} {k : κ} {v : α}

theorem keys_set (m : InsertionMap κ α) (k : κ) (v : α) :
    (m.set k v).keys = if k ∈ m.keys then m.keys else m.keys ++ [k] := by
  rw [keys, set]
  split
  next =>
    rw [List.map_map]
    refine List.map_congr_left fun entry _ => ?_
    change (if entry.1 = k then (k, v) else entry).1 = entry.1
    split
    next heq => exact heq.symm
    next => rfl
  next => rw [List.map_append, List.map_singleton, keys]

theorem mem_entries_iff : (k, v) ∈ m.entries ↔ m.get? k = some v := by
  rw [get?, Option.map_eq_some_iff]
  constructor
  · intro hmem
    exact ⟨(k, v), (find?_eq_some_iff_of_nodup m.nodup).mpr ⟨hmem, rfl⟩, rfl⟩
  · rintro ⟨⟨key, value⟩, hentry, rfl⟩
    obtain ⟨hmem, hkey⟩ := (find?_eq_some_iff_of_nodup m.nodup).mp hentry
    exact (show key = k from hkey) ▸ hmem

theorem get?_eq_none_iff : m.get? k = none ↔ k ∉ m.keys := by
  rw [get?, Option.map_eq_none_iff, List.find?_eq_none, keys, List.mem_map]
  simp only [decide_eq_true_eq, not_exists, not_and]

@[simp] theorem get?_empty (k : κ) : (empty : InsertionMap κ α).get? k = none := rfl

@[simp] theorem get?_set (m : InsertionMap κ α) (k : κ) (v : α) (other : κ) :
    (m.set k v).get? other = if other = k then some v else m.get? other := by
  by_cases hother : other = k
  · subst hother
    rw [if_pos rfl, ← mem_entries_iff, set]
    split
    next hmem =>
      obtain ⟨entry, hentry, hkey⟩ := List.mem_map.mp hmem
      exact List.mem_map.mpr ⟨entry, hentry, if_pos hkey⟩
    next => exact List.mem_append_right _ (List.mem_singleton.mpr rfl)
  · rw [if_neg hother]
    ext value
    rw [← mem_entries_iff, ← mem_entries_iff, set]
    split
    next =>
      rw [List.mem_map]
      constructor
      · rintro ⟨entry, hentry, heq⟩
        split at heq
        next => exact absurd (congrArg Prod.fst heq).symm hother
        next => exact heq ▸ hentry
      · exact fun hmem => ⟨(other, value), hmem, if_neg hother⟩
    next => simp [hother]

def delete (m : InsertionMap κ α) (k : κ) : InsertionMap κ α where
  entries := m.entries.filter fun entry => entry.1 ≠ k
  nodup := m.nodup.sublist (List.filter_sublist.map _)

@[simp] theorem get?_delete (m : InsertionMap κ α) (k other : κ) :
    (m.delete k).get? other = if other = k then none else m.get? other := by
  by_cases hother : other = k
  · subst hother
    rw [if_pos rfl, get?_eq_none_iff, keys, delete, List.mem_map]
    rintro ⟨entry, hentry, hkey⟩
    exact of_decide_eq_true (List.mem_filter.mp hentry).2 hkey
  · rw [if_neg hother]
    ext value
    rw [← mem_entries_iff, ← mem_entries_iff, delete, List.mem_filter]
    exact and_iff_left (by simpa using hother)

/-! ## Groups -/

/-- The entry of the element's key is made from the one before and the element. -/
def update (key : β → κ) (step : Option α → β → α) (m : InsertionMap κ α) (b : β) :
    InsertionMap κ α :=
  m.set (key b) (step (m.get? (key b)) b)

theorem get?_foldl_update (key : β → κ) (step : Option α → β → α) (m : InsertionMap κ α)
    (elements : List β) (k : κ) :
    (elements.foldl (update key step) m).get? k =
      (elements.filter fun b => key b = k).foldl (fun held b => some (step held b))
        (m.get? k) := by
  induction elements generalizing m with
  | nil => rfl
  | cons b elements ih =>
      rw [List.foldl_cons, ih, update, get?_set]
      by_cases hkey : key b = k
      · rw [List.filter_cons_of_pos (by simp [hkey]), List.foldl_cons, if_pos hkey.symm, hkey]
      · rw [List.filter_cons_of_neg (by simp [hkey]), if_neg fun heq => hkey heq.symm]

theorem foldl_some (step : Option α → β → α) (a : α) (elements : List β) :
    elements.foldl (fun held b => some (step held b)) (some a) =
      some (elements.foldl (fun a b => step (some a) b) a) := by
  induction elements generalizing a with
  | nil => rfl
  | cons b elements ih => rw [List.foldl_cons, ih, List.foldl_cons]

theorem mem_keys_foldl_update {key : β → κ} {step : Option α → β → α} {elements : List β} :
    k ∈ (elements.foldl (update key step) m).keys ↔ k ∈ m.keys ∨ k ∈ elements.map key := by
  induction elements generalizing m with
  | nil => simp
  | cons b elements ih =>
      rw [List.foldl_cons, ih, List.map_cons, List.mem_cons, ← or_assoc, update, keys_set]
      refine or_congr_left ?_
      split
      next hmem => exact ⟨.inl, Or.rec id fun heq => heq ▸ hmem⟩
      next => rw [List.mem_append, List.mem_singleton]

theorem keys_foldl_update (key : β → κ) (step : Option α → β → α) (elements : List β) :
    (elements.foldl (update key step) empty).keys.toFinset = (elements.map key).toFinset := by
  ext k
  rw [List.mem_toFinset, mem_keys_foldl_update, List.mem_toFinset]
  exact or_iff_right List.not_mem_nil

theorem get?_foldl_set (key : β → κ) (value : β → α) (m : InsertionMap κ α)
    (elements : List β) (k : κ) :
    (elements.foldl (fun m b => m.set (key b) (value b)) m).get? k =
      ((elements.filter fun b => key b = k).getLast?.map value).or (m.get? k) := by
  refine (get?_foldl_update key (fun _ b => value b) m elements k).trans ?_
  generalize elements.filter (fun b => key b = k) = group
  cases group using List.reverseRecOn with
  | nil => rfl
  | append_singleton group b => simp

theorem filter_entries (m : InsertionMap κ α) (k : κ) :
    (m.entries.filter fun entry => entry.1 = k).map Prod.snd = (m.get? k).toList := by
  obtain ⟨entries, hnodup⟩ := m
  rw [get?]
  induction entries with
  | nil => rfl
  | cons entry entries ih =>
      rw [List.map_cons, List.nodup_cons] at hnodup
      by_cases hkey : entry.1 = k
      · have hnone : (entries.filter fun entry => entry.1 = k) = [] := by
          refine List.filter_eq_nil_iff.mpr fun other hother heq => hnodup.1 ?_
          rw [hkey, ← of_decide_eq_true heq]
          exact List.mem_map_of_mem hother
        rw [List.filter_cons_of_pos (by simpa using hkey), hnone,
          List.find?_cons_of_pos (by simpa using hkey)]
        rfl
      · rw [List.filter_cons_of_neg (by simpa using hkey),
          List.find?_cons_of_neg (by simpa using hkey)]
        exact ih hnodup.2

/-! ## Sums -/

theorem length_keys (m : InsertionMap κ α) : m.keys.length = m.keys.toFinset.card :=
  (List.toFinset_card_of_nodup m.nodup).symm

theorem sum_values [AddCommMonoid α] (m : InsertionMap κ α) :
    m.values.sum = ∑ k ∈ m.keys.toFinset, (m.get? k).getD 0 := by
  rw [keys, List.sum_toFinset _ m.nodup, values, List.map_map]
  congr 1
  refine List.map_congr_left fun entry hentry => ?_
  rw [Function.comp_apply, mem_entries_iff.mp hentry, Option.getD_some]

end InsertionMap

end JudgeVortex.Foundation
