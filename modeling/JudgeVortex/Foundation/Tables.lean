import Mathlib.Data.List.Nodup
import Mathlib.Data.List.Perm.Basic

/-!
# Tables

Rows with an integer key that a sequence draws, as a database keeps them, and what a query
still finds when rows that it does not ask for are taken out of a table or changed.
-/

namespace JudgeVortex.Foundation

/-! ## Queries that do not ask for the rows that change -/

section Queries

variable {α : Type*} {rows : List α} {asked : α → Bool}

theorem filter_filter_of_kept {kept : α → Bool}
    (h : ∀ row ∈ rows, asked row → kept row) :
    (rows.filter kept).filter asked = rows.filter asked := by
  rw [List.filter_filter]
  apply List.filter_congr
  intro row hrow
  cases hasked : asked row with
  | false => rfl
  | true => rw [h row hrow hasked, Bool.and_self]

theorem find?_filter_of_kept {kept : α → Bool}
    (h : ∀ row ∈ rows, asked row → kept row) :
    (rows.filter kept).find? asked = rows.find? asked := by
  rw [← List.head?_filter, ← List.head?_filter, filter_filter_of_kept h]

theorem filter_map_of_fixed {change : α → α}
    (hasked : ∀ row ∈ rows, asked (change row) = asked row)
    (hfixed : ∀ row ∈ rows, asked row → change row = row) :
    (rows.map change).filter asked = rows.filter asked := by
  induction rows with
  | nil => rfl
  | cons row rows ih =>
      rw [List.map_cons, List.filter_cons, List.filter_cons, hasked row (.head _),
        ih (fun other hother => hasked other (.tail _ hother))
          (fun other hother => hfixed other (.tail _ hother))]
      split
      next hrow => rw [hfixed row (.head _) hrow]
      next => rfl

theorem filter_append_of_not_asked (asked : α → Bool) {row : α}
    (h : asked row = false) :
    (rows ++ [row]).filter asked = rows.filter asked := by
  rw [List.filter_append, List.filter_cons_of_neg (by simp [h]), List.filter_nil,
    List.append_nil]

end Queries

/-! ## Tables with a sequence -/

/-- Rows with different keys, all of them positive and behind the sequence. -/
@[ext]
structure Table (α : Type*) (key : α → Int) where
  rows : List α
  next : Int
  nodup : (rows.map key).Nodup
  next_pos : 0 < next
  bounds : ∀ row ∈ rows, 0 < key row ∧ key row < next

namespace Table

variable {α : Type*} {key : α → Int}

def empty : Table α key := ⟨[], 1, .nil, Int.one_pos, by simp⟩

def get? (table : Table α key) (k : Int) : Option α :=
  table.rows.find? fun row => key row = k

/-- A row whose insertion is refused has used up a key. -/
def skip (table : Table α key) : Table α key where
  rows := table.rows
  next := table.next + 1
  nodup := table.nodup
  next_pos := Int.lt_add_one_of_le (Int.le_of_lt table.next_pos)
  bounds row hrow :=
    ⟨(table.bounds row hrow).1, Int.lt_trans (table.bounds row hrow).2 (Int.lt_succ _)⟩

def insert (table : Table α key) (make : Int → α) (hmake : ∀ k, key (make k) = k) :
    Table α key where
  rows := table.rows ++ [make table.next]
  next := table.next + 1
  nodup := by
    rw [List.map_append, List.nodup_append]
    refine ⟨table.nodup, List.nodup_singleton _, ?_⟩
    intro k hk other hother heq
    obtain ⟨row, hrow, rfl⟩ := List.mem_map.mp hk
    have hnext : other = table.next := by simpa [hmake] using hother
    have hbounds := table.bounds row hrow
    omega
  next_pos := Int.lt_add_one_of_le (Int.le_of_lt table.next_pos)
  bounds row hrow := by
    rcases List.mem_append.mp hrow with hrow | hrow
    · have hbounds := table.bounds row hrow
      exact ⟨hbounds.1, Int.lt_trans hbounds.2 (Int.lt_succ _)⟩
    · rw [List.mem_singleton.mp hrow, hmake]
      exact ⟨table.next_pos, Int.lt_succ _⟩

def modify (table : Table α key) (change : α → α) (hchange : ∀ row, key (change row) = key row) :
    Table α key where
  rows := table.rows.map change
  next := table.next
  nodup := by
    rw [List.map_map, show key ∘ change = key from funext hchange]
    exact table.nodup
  next_pos := table.next_pos
  bounds row hrow := by
    obtain ⟨old, hold, rfl⟩ := List.mem_map.mp hrow
    rw [hchange]
    exact table.bounds old hold

def replace (table : Table α key) (row : α) : Table α key :=
  table.modify (fun old => if key old = key row then row else old) fun old => by
    split
    next heq => exact heq.symm
    next => rfl

def restrict (table : Table α key) (kept : α → Bool) : Table α key where
  rows := table.rows.filter kept
  next := table.next
  nodup := (List.filter_sublist.map key).nodup table.nodup
  next_pos := table.next_pos
  bounds row hrow := table.bounds row (List.mem_of_mem_filter hrow)

variable {table : Table α key}

theorem lt_next {row : α} (h : row ∈ table.rows) : key row < table.next := (table.bounds row h).2

theorem eq_of_key {row other : α} (hrow : row ∈ table.rows) (hother : other ∈ table.rows)
    (hkey : key row = key other) : row = other :=
  List.inj_on_of_nodup_map table.nodup hrow hother hkey

theorem filter_replace_of_not_asked (asked : α → Bool) {old row : α}
    (hold : old ∈ table.rows) (hkey : key old = key row) (hasked : asked old = false)
    (h : asked row = false) :
    (table.replace row).rows.filter asked = table.rows.filter asked := by
  have hreplaced : ∀ other ∈ table.rows, key other = key row → asked other = false := by
    intro other hother heq
    rw [table.eq_of_key hother hold (heq.trans hkey.symm), hasked]
  apply filter_map_of_fixed
  · intro other hother
    split
    next heq => rw [h, hreplaced other hother heq]
    next => rfl
  · intro other hother hother'
    split
    next heq =>
      rw [hreplaced other hother heq] at hother'
      cases hother'
    next => rfl

theorem mem_replace {row other : α} (h : other ∈ (table.replace row).rows) :
    other = row ∨ other ∈ table.rows := by
  obtain ⟨old, hold, rfl⟩ := List.mem_map.mp h
  split
  · exact .inl rfl
  · exact .inr hold

theorem mem_replace_self {row other : α} (h : other ∈ table.rows) (hkey : key other = key row) :
    row ∈ (table.replace row).rows :=
  List.mem_map.mpr ⟨other, h, if_pos hkey⟩

theorem mem_replace_of_ne {row other : α} (h : other ∈ table.rows) (hne : key other ≠ key row) :
    other ∈ (table.replace row).rows :=
  List.mem_map.mpr ⟨other, h, if_neg hne⟩

end Table

end JudgeVortex.Foundation
