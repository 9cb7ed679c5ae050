import JudgeVortex.Foundation.InsertionMap
import Mathlib.Data.List.Induction
import Mathlib.Order.Defs.LinearOrder

/-!
# The newest of a list

A pass that holds one element and takes the next in its place unless that is older.  Of
several newest elements the last one is left.
-/

namespace JudgeVortex.Foundation

section Newest

variable {α τ : Type*} (notBefore : α → α → Prop) [DecidableRel notBefore]

def keepNewest (held : Option α) (next : α) : α :=
  match held with
  | none => next
  | some previous => if notBefore next previous then next else previous

def newestFrom (held : Option α) (elements : List α) : Option α :=
  elements.foldl (fun held next => some (keepNewest notBefore held next)) held

def newest (elements : List α) : Option α := newestFrom notBefore none elements

theorem newestFrom_append (held : Option α) (elements later : List α) :
    newestFrom notBefore held (elements ++ later) =
      newestFrom notBefore (newestFrom notBefore held elements) later :=
  List.foldl_append

theorem newest_concat (elements : List α) (next : α) :
    newest notBefore (elements ++ [next]) =
      some (keepNewest notBefore (newest notBefore elements) next) :=
  newestFrom_append notBefore none elements [next]

theorem newest_eq_none_iff {elements : List α} :
    newest notBefore elements = none ↔ elements = [] := by
  induction elements using List.reverseRecOn with
  | nil => simp [newest, newestFrom]
  | append_singleton elements next ih => simp [newest_concat]

theorem mem_of_newestFrom {held : Option α} {elements : List α} {a : α}
    (h : newestFrom notBefore held elements = some a) : held = some a ∨ a ∈ elements := by
  induction elements using List.reverseRecOn generalizing a with
  | nil => exact .inl h
  | append_singleton elements next ih =>
      rw [newestFrom_append] at h
      obtain rfl := Option.some_inj.mp h
      cases hbefore : newestFrom notBefore held elements with
      | none => exact .inr (by simp [keepNewest])
      | some previous =>
          rw [keepNewest]
          split
          next => exact .inr (by simp)
          next => exact (ih hbefore).imp id (List.mem_append_left _)

def OrderedBy [LE τ] (time : α → τ) (elements : List α) : Prop :=
  ∀ a ∈ elements, ∀ b ∈ elements, notBefore b a ↔ time a ≤ time b

/-- No element is later than this one, and none after it is as late. -/
def IsNewest [LinearOrder τ] (time : α → τ) (elements : List α) (a : α) : Prop :=
  ∃ before after, elements = before ++ a :: after ∧ (∀ b ∈ before, time b ≤ time a) ∧
    ∀ b ∈ after, time b < time a

variable {notBefore} [LinearOrder τ] {time : α → τ} {elements : List α} {a : α}

theorem IsNewest.mem (h : IsNewest time elements a) : a ∈ elements := by
  obtain ⟨before, after, rfl, -, -⟩ := h
  exact List.mem_append_right _ List.mem_cons_self

theorem IsNewest.le (h : IsNewest time elements a) {b : α} (hb : b ∈ elements) :
    time b ≤ time a := by
  obtain ⟨before, after, rfl, hbefore, hafter⟩ := h
  obtain hb | hb := List.mem_append.mp hb
  · exact hbefore b hb
  · obtain rfl | hb := List.mem_cons.mp hb
    · exact le_rfl
    · exact le_of_lt (hafter b hb)

theorem isNewest_concat {next : α} :
    IsNewest time (elements ++ [next]) a ↔
      (a = next ∧ ∀ b ∈ elements, time b ≤ time next) ∨
        IsNewest time elements a ∧ time next < time a := by
  constructor
  · rintro ⟨before, after, heq, hbefore, hafter⟩
    cases after using List.reverseRecOn with
    | nil =>
        obtain ⟨rfl, hlast⟩ := List.append_inj' heq rfl
        obtain rfl := List.head_eq_of_cons_eq hlast
        exact .inl ⟨rfl, hbefore⟩
    | append_singleton after last =>
        rw [← List.cons_append, ← List.append_assoc] at heq
        obtain ⟨rfl, hlast⟩ := List.append_inj' heq rfl
        obtain rfl := List.head_eq_of_cons_eq hlast
        rw [List.forall_mem_append, List.forall_mem_singleton] at hafter
        exact .inr ⟨⟨before, after, rfl, hbefore, hafter.1⟩, hafter.2⟩
  · rintro (⟨rfl, hall⟩ | ⟨⟨before, after, rfl, hbefore, hafter⟩, hlater⟩)
    · exact ⟨elements, [], rfl, hall, by simp⟩
    · refine ⟨before, after ++ [next], by simp, hbefore, ?_⟩
      rw [List.forall_mem_append, List.forall_mem_singleton]
      exact ⟨hafter, hlater⟩

theorem newest_eq_some_iff (h : OrderedBy notBefore time elements) :
    newest notBefore elements = some a ↔ IsNewest time elements a := by
  induction elements using List.reverseRecOn generalizing a with
  | nil =>
      refine iff_of_false (by simp [newest, newestFrom]) ?_
      exact fun hnewest => List.not_mem_nil hnewest.mem
  | append_singleton elements next ih =>
      have hinside : OrderedBy notBefore time elements := fun x hx y hy =>
        h x (List.mem_append_left _ hx) y (List.mem_append_left _ hy)
      rw [newest_concat, isNewest_concat, Option.some_inj]
      cases hheld : newest notBefore elements with
      | none =>
          obtain rfl := (newest_eq_none_iff notBefore).mp hheld
          have hnone : ¬ IsNewest time [] a := fun hnewest => List.not_mem_nil hnewest.mem
          simp [keepNewest, hnone, eq_comm]
      | some held =>
          have hnewest := (ih hinside).mp hheld
          have hcompare := h held (List.mem_append_left _ hnewest.mem) next (by simp)
          rw [keepNewest]
          by_cases hlater : time held ≤ time next
          · rw [if_pos (hcompare.mpr hlater)]
            constructor
            · rintro rfl
              exact .inl ⟨rfl, fun b hb => le_trans (hnewest.le hb) hlater⟩
            · rintro (⟨rfl, -⟩ | ⟨hother, hbefore⟩)
              · rfl
              · exact absurd hbefore (not_lt.mpr (le_trans (hnewest.le hother.mem) hlater))
          · rw [if_neg fun hnot => hlater (hcompare.mp hnot)]
            constructor
            · rintro rfl
              exact .inr ⟨hnewest, not_le.mp hlater⟩
            · rintro (⟨rfl, hall⟩ | ⟨hother, -⟩)
              · exact absurd (hall held hnewest.mem) hlater
              · exact Option.some_inj.mp (hheld.symm.trans ((ih hinside).mpr hother))

end Newest

/-! ## Under keys -/

namespace InsertionMap

variable {α β κ : Type*} [DecidableEq κ] (notBefore : α → α → Prop) [DecidableRel notBefore]

def setNewest (m : InsertionMap κ α) (k : κ) (a : α) : InsertionMap κ α :=
  if ∀ previous ∈ m.get? k, notBefore a previous then m.set k a else m

theorem get?_setNewest (m : InsertionMap κ α) (k : κ) (a : α) (other : κ) :
    (m.setNewest notBefore k a).get? other =
      if other = k then some (keepNewest notBefore (m.get? other) a) else m.get? other := by
  by_cases hkey : other = k
  · subst hkey
    rw [if_pos rfl, setNewest]
    cases hheld : m.get? other with
    | none => simp [keepNewest]
    | some held => by_cases hlater : notBefore a held <;> simp [keepNewest, hlater, hheld]
  · rw [if_neg hkey, setNewest]
    split
    next => rw [get?_set, if_neg hkey]
    next => rfl

theorem get?_foldl_setNewest (key : β → κ) (value : β → α) (m : InsertionMap κ α)
    (elements : List β) (k : κ) :
    (elements.foldl (fun m b => m.setNewest notBefore (key b) (value b)) m).get? k =
      newestFrom notBefore (m.get? k) ((elements.filter fun b => key b = k).map value) := by
  induction elements generalizing m with
  | nil => rfl
  | cons b elements ih =>
      rw [List.foldl_cons, ih, get?_setNewest]
      by_cases hkey : key b = k
      · rw [if_pos hkey.symm, List.filter_cons_of_pos (by simp [hkey]), List.map_cons]
        rfl
      · rw [if_neg fun heq => hkey heq.symm, List.filter_cons_of_neg (by simp [hkey])]

end InsertionMap

end JudgeVortex.Foundation
