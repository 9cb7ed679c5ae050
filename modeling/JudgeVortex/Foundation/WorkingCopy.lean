import Mathlib.Data.List.Induction
import Mathlib.Data.List.Nodup

/-!
# Entries of a list and the one that is being worked on

Lists whose entries are found by a key, with the operations of an editor of them:
overwrite an entry, rename it, add one.  Over such a store a *working copy* holds the
latest value of the opened entry; the store learns of it on the next save.
-/

namespace JudgeVortex.Foundation

/-! ## Entries by their keys -/

section Entries

variable {α κ τ : Type*} [DecidableEq κ] (key : α → κ) (value : α → τ)

def valueAt (entries : List α) (k : κ) : Option τ :=
  (entries.find? fun a => key a = k).map value

def replaceFirst (k : κ) (new : α) : List α → List α
  | [] => []
  | a :: rest => if key a = k then new :: rest else a :: replaceFirst k new rest

def put (new : α) (entries : List α) : List α :=
  if key new ∈ entries.map key then replaceFirst key (key new) new entries
  else entries ++ [new]

variable {key value} {entries : List α} {k : κ} {new : α}

theorem valueAt_cons (a : α) (rest : List α) (k : κ) :
    valueAt key value (a :: rest) k =
      if key a = k then some (value a) else valueAt key value rest k := by
  rw [valueAt, List.find?_cons]
  split
  next h => rw [if_pos (of_decide_eq_true h), Option.map_some]
  next h => rw [if_neg (of_decide_eq_false h), valueAt]

theorem isSome_valueAt_iff : (valueAt key value entries k).isSome ↔ k ∈ entries.map key := by
  rw [valueAt, Option.isSome_map, List.find?_isSome]
  simp

theorem valueAt_eq_none_iff : valueAt key value entries k = none ↔ k ∉ entries.map key := by
  rw [← Option.not_isSome_iff_eq_none, isSome_valueAt_iff]

theorem valueAt_of_mem (hnodup : (entries.map key).Nodup) {a : α} (hmem : a ∈ entries) :
    valueAt key value entries (key a) = some (value a) := by
  induction entries with
  | nil => cases hmem
  | cons b entries ih =>
      rw [List.map_cons, List.nodup_cons] at hnodup
      rw [valueAt_cons]
      obtain rfl | hrest := List.mem_cons.mp hmem
      · exact if_pos rfl
      · have hne : key b ≠ key a := by
          intro heq
          exact hnodup.1 (heq ▸ List.mem_map_of_mem hrest)
        rw [if_neg hne, ih hnodup.2 hrest]

theorem valueAt_append_new (hnew : key new ∉ entries.map key) (j : κ) :
    valueAt key value (entries ++ [new]) j =
      if j = key new then some (value new) else valueAt key value entries j := by
  induction entries with
  | nil => simp [valueAt, eq_comm]
  | cons a entries ih =>
      rw [List.map_cons, List.mem_cons, not_or] at hnew
      rw [List.cons_append, valueAt_cons, valueAt_cons, ih hnew.2]
      by_cases hj : j = key new
      · rw [if_neg fun heq => hnew.1 (hj ▸ heq).symm, if_pos hj, if_pos hj]
      · rw [if_neg hj, if_neg hj]

theorem valueAt_filter_ne (j : κ) :
    valueAt key value (entries.filter fun a => key a ≠ k) j =
      if j = k then none else valueAt key value entries j := by
  induction entries with
  | nil => simp [valueAt]
  | cons a entries ih =>
      by_cases ha : key a = k
      · rw [List.filter_cons_of_neg (by simpa using ha), ih, valueAt_cons]
        by_cases hj : j = k
        · rw [if_pos hj, if_pos hj]
        · rw [if_neg hj, if_neg hj, if_neg fun heq => hj (heq.symm.trans ha)]
      · rw [List.filter_cons_of_pos (by simpa using ha), valueAt_cons, ih, valueAt_cons]
        by_cases hj : key a = j
        · rw [if_pos hj, if_pos hj, if_neg fun heq => ha (hj.trans heq)]
        · rw [if_neg hj, if_neg hj]

theorem keys_replaceFirst_same (hkey : key new = k) :
    (replaceFirst key k new entries).map key = entries.map key := by
  induction entries with
  | nil => rfl
  | cons a entries ih =>
      rw [replaceFirst]
      split
      next ha => rw [List.map_cons, List.map_cons, hkey, ha]
      next => rw [List.map_cons, List.map_cons, ih]

theorem valueAt_replaceFirst_same (hkey : key new = k) (hmem : k ∈ entries.map key) (j : κ) :
    valueAt key value (replaceFirst key k new entries) j =
      if j = k then some (value new) else valueAt key value entries j := by
  induction entries with
  | nil => cases hmem
  | cons a entries ih =>
      rw [replaceFirst]
      split
      next ha =>
        rw [valueAt_cons, valueAt_cons, hkey]
        by_cases hj : k = j
        · rw [if_pos hj, if_pos hj.symm]
        · rw [if_neg hj, if_neg fun heq => hj heq.symm, if_neg fun heq => hj (ha.symm.trans heq)]
      next ha =>
        have hrest := (List.mem_cons.mp hmem).resolve_left fun heq => ha heq.symm
        rw [valueAt_cons, valueAt_cons, ih hrest]
        by_cases hj : key a = j
        · rw [if_pos hj, if_pos hj, if_neg fun heq => ha (hj.trans heq)]
        · rw [if_neg hj, if_neg hj]

theorem mem_keys_replaceFirst (hnodup : (entries.map key).Nodup) (hmem : k ∈ entries.map key)
    (new : α) (j : κ) :
    j ∈ (replaceFirst key k new entries).map key ↔
      j = key new ∨ j ∈ entries.map key ∧ j ≠ k := by
  induction entries with
  | nil => cases hmem
  | cons a entries ih =>
      rw [List.map_cons, List.nodup_cons] at hnodup
      rw [replaceFirst]
      split
      next ha =>
        rw [List.map_cons, List.map_cons, List.mem_cons, List.mem_cons, ha]
        have hother (hj : j ∈ entries.map key) : j ≠ k := fun heq =>
          hnodup.1 (ha ▸ heq ▸ hj)
        tauto
      next ha =>
        have hrest := (List.mem_cons.mp hmem).resolve_left fun heq => ha heq.symm
        rw [List.map_cons, List.map_cons, List.mem_cons, List.mem_cons, ih hnodup.2 hrest]
        have hhead (hj : j = key a) : j ≠ k := fun heq => ha (hj.symm.trans heq)
        tauto

theorem nodup_keys_replaceFirst (hnodup : (entries.map key).Nodup) (hmem : k ∈ entries.map key)
    (hnew : key new ∉ entries.map key) :
    ((replaceFirst key k new entries).map key).Nodup := by
  induction entries with
  | nil => cases hmem
  | cons a entries ih =>
      rw [List.map_cons, List.nodup_cons] at hnodup
      rw [List.map_cons, List.mem_cons, not_or] at hnew
      rw [replaceFirst]
      split
      next => exact List.nodup_cons.mpr ⟨hnew.2, hnodup.2⟩
      next ha =>
        have hrest := (List.mem_cons.mp hmem).resolve_left fun heq => ha heq.symm
        refine List.nodup_cons.mpr ⟨?_, ih hnodup.2 hrest hnew.2⟩
        rw [mem_keys_replaceFirst hnodup.2 hrest]
        rintro (heq | ⟨hin, -⟩)
        · exact hnew.1 heq.symm
        · exact hnodup.1 hin

theorem valueAt_replaceFirst (hnodup : (entries.map key).Nodup) (hmem : k ∈ entries.map key)
    (hnew : key new ∉ entries.map key) (j : κ) :
    valueAt key value (replaceFirst key k new entries) j =
      if j = key new then some (value new)
      else if j = k then none else valueAt key value entries j := by
  induction entries with
  | nil => cases hmem
  | cons a entries ih =>
      rw [List.map_cons, List.nodup_cons] at hnodup
      rw [List.map_cons, List.mem_cons, not_or] at hnew
      rw [replaceFirst]
      split
      next ha =>
        rw [valueAt_cons, valueAt_cons]
        by_cases hj : j = key new
        · rw [if_pos hj.symm, if_pos hj]
        · rw [if_neg fun heq => hj heq.symm, if_neg hj]
          by_cases hk : j = k
          · rw [if_pos hk, valueAt_eq_none_iff, hk, ← ha]
            exact hnodup.1
          · rw [if_neg hk, if_neg fun heq => hk (heq.symm.trans ha)]
      next ha =>
        have hrest := (List.mem_cons.mp hmem).resolve_left fun heq => ha heq.symm
        rw [valueAt_cons, valueAt_cons, ih hnodup.2 hrest hnew.2]
        by_cases hj : key a = j
        · rw [if_pos hj, if_pos hj, if_neg fun heq => hnew.1 (heq.symm.trans hj.symm),
            if_neg fun heq => ha (hj.trans heq)]
        · rw [if_neg hj, if_neg hj]

theorem mem_keys_put (j : κ) :
    j ∈ (put key new entries).map key ↔ j = key new ∨ j ∈ entries.map key := by
  rw [put]
  split
  next hmem =>
    rw [keys_replaceFirst_same rfl]
    exact ⟨.inr, fun h => h.elim (fun heq => heq ▸ hmem) id⟩
  next =>
    rw [List.map_append, List.mem_append, List.map_singleton, List.mem_singleton, or_comm]

theorem nodup_keys_put (hnodup : (entries.map key).Nodup) :
    ((put key new entries).map key).Nodup := by
  rw [put]
  split
  next => rwa [keys_replaceFirst_same rfl]
  next hnew =>
    rw [List.map_append, List.nodup_append]
    refine ⟨hnodup, List.nodup_singleton _, ?_⟩
    rintro j hj other hother rfl
    exact hnew (List.mem_singleton.mp hother ▸ hj)

theorem valueAt_put (j : κ) :
    valueAt key value (put key new entries) j =
      if j = key new then some (value new) else valueAt key value entries j := by
  rw [put]
  split
  next hmem => exact valueAt_replaceFirst_same rfl hmem j
  next hnew => exact valueAt_append_new hnew j

theorem nodup_keys_foldl_put {news : List α} (hnodup : (entries.map key).Nodup) :
    ((news.foldl (fun entries new => put key new entries) entries).map key).Nodup := by
  induction news generalizing entries with
  | nil => exact hnodup
  | cons new news ih => exact ih (nodup_keys_put hnodup)

theorem mem_keys_foldl_put (key : α → κ) (entries news : List α) (j : κ) :
    j ∈ (news.foldl (fun entries new => put key new entries) entries).map key ↔
      j ∈ news.map key ∨ j ∈ entries.map key := by
  induction news generalizing entries with
  | nil => simp
  | cons new news ih =>
      rw [List.foldl_cons, ih, mem_keys_put, List.map_cons, List.mem_cons]
      tauto

theorem valueAt_foldl_put (news : List α) (j : κ) :
    valueAt key value (news.foldl (fun entries new => put key new entries) entries) j =
      (valueAt key value news.reverse j).or (valueAt key value entries j) := by
  induction news using List.reverseRecOn with
  | nil => rfl
  | append_singleton news new ih =>
      rw [List.foldl_append, List.foldl_cons, List.foldl_nil, valueAt_put, ih,
        List.reverse_append, List.reverse_singleton, List.singleton_append, valueAt_cons]
      by_cases hj : j = key new
      · rw [if_pos hj, if_pos hj.symm, Option.some_or]
      · rw [if_neg hj, if_neg fun heq => hj heq.symm]

end Entries

/-! ## The working copy -/

/-- A store, the key that is opened, and the latest value there. -/
structure WorkingCopy (κ τ : Type*) where
  stored : κ → Option τ
  opened : Option κ
  text : τ

namespace WorkingCopy

variable {κ τ : Type*} [DecidableEq κ]

/-- What there is to see: the opened entry in its latest value, the others as stored. -/
def documents (w : WorkingCopy κ τ) (k : κ) : Option τ :=
  if w.opened = some k then some w.text else w.stored k

def edit (w : WorkingCopy κ τ) (text : τ) : WorkingCopy κ τ := { w with text := text }

def save (w : WorkingCopy κ τ) : WorkingCopy κ τ := { w with stored := w.documents }

/-- Save, and go to another entry; one that is not stored starts as `fresh`. -/
def openAt (w : WorkingCopy κ τ) (k : κ) (fresh : τ) : WorkingCopy κ τ :=
  ⟨w.documents, some k, (w.documents k).getD fresh⟩

variable (w : WorkingCopy κ τ) (k : κ)

theorem documents_of_not_opened (h : w.opened ≠ some k) : w.documents k = w.stored k :=
  if_neg h

@[simp] theorem documents_save : w.save.documents = w.documents := by
  funext k
  by_cases hk : w.opened = some k <;> simp [save, documents, hk]

theorem documents_edit (text : τ) :
    (w.edit text).documents k =
      if w.opened = some k then some text else w.documents k := by
  by_cases hk : w.opened = some k <;> simp [edit, documents, hk]

theorem documents_openAt (fresh : τ) (j : κ) :
    (w.openAt k fresh).documents j =
      if j = k then some ((w.documents k).getD fresh) else w.documents j := by
  rw [documents, openAt]
  by_cases hj : j = k
  · rw [if_pos (by rw [hj]), if_pos hj]
  · rw [if_neg (by simpa using fun heq => hj heq.symm), if_neg hj]

theorem documents_openAt_of_isSome {fresh : τ} (h : (w.documents k).isSome) :
    (w.openAt k fresh).documents = w.documents := by
  funext j
  rw [documents_openAt]
  split
  next hj =>
    obtain ⟨text, htext⟩ := Option.isSome_iff_exists.mp h
    rw [hj, htext, Option.getD_some]
  next => rfl

/-- Putting another value into the opened entry without a save loses exactly what differs. -/
theorem documents_edit_eq_iff {k : κ} (hopened : w.opened = some k) (text : τ) :
    (w.edit text).documents = w.documents ↔ text = w.text := by
  constructor
  · intro h
    have hk := congrFun h k
    rw [documents_edit, if_pos hopened, documents, if_pos hopened] at hk
    exact Option.some.inj hk
  · rintro rfl
    rfl

end WorkingCopy

end JudgeVortex.Foundation
