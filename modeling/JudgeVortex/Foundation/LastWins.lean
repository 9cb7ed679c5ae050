import Mathlib.Data.Finset.Max
import Mathlib.Data.List.Nodup

/-!
# Entries with keys, of which the last one counts

`add` puts an entry at the end and drops an earlier entry with its key.  The keys
met so far are kept beside the entries; they are the keys of the entries.
-/

namespace JudgeVortex.Foundation

section LastWins

variable {α κ : Type*} [DecidableEq κ] (key : α → κ)

structure Keyed (α κ : Type*) where
  entries : List α
  seen : List κ

def Keyed.empty : Keyed α κ := ⟨[], []⟩

def Keyed.add (s : Keyed α κ) (a : α) : Keyed α κ where
  entries :=
    (if key a ∈ s.seen then s.entries.filter fun b => key b ≠ key a else s.entries) ++ [a]
  seen := key a :: s.seen

structure Keyed.WellFormed (s : Keyed α κ) : Prop where
  nodup : (s.entries.map key).Nodup
  seen_iff : ∀ k, k ∈ s.seen ↔ k ∈ s.entries.map key

omit [DecidableEq κ] in
theorem Keyed.empty_wellFormed : (Keyed.empty : Keyed α κ).WellFormed key :=
  ⟨List.nodup_nil, fun _ => Iff.rfl⟩

private theorem mem_kept_iff {s : Keyed α κ} (h : s.WellFormed key) (a : α) (k : κ) :
    k ∈ (if key a ∈ s.seen then s.entries.filter fun b => key b ≠ key a
        else s.entries).map key ↔ k ∈ s.entries.map key ∧ k ≠ key a := by
  split
  case isTrue =>
      simp only [List.mem_map, List.mem_filter, decide_eq_true_eq]
      constructor
      · rintro ⟨b, ⟨hb, hne⟩, rfl⟩
        exact ⟨⟨b, hb, rfl⟩, hne⟩
      · rintro ⟨⟨b, hb, rfl⟩, hne⟩
        exact ⟨b, ⟨hb, hne⟩, rfl⟩
  case isFalse hseen =>
      rw [h.seen_iff] at hseen
      constructor
      · exact fun hk => ⟨hk, fun heq => hseen (heq ▸ hk)⟩
      · exact And.left

theorem Keyed.mem_keys_add {s : Keyed α κ} (h : s.WellFormed key) (a : α) (k : κ) :
    k ∈ (s.add key a).entries.map key ↔ k ∈ s.entries.map key ∨ k = key a := by
  rw [Keyed.add, List.map_append, List.mem_append, mem_kept_iff key h, List.map_singleton,
    List.mem_singleton]
  by_cases hk : k = key a <;> simp [hk]

theorem Keyed.add_wellFormed {s : Keyed α κ} (h : s.WellFormed key) (a : α) :
    (s.add key a).WellFormed key := by
  constructor
  · rw [Keyed.add, List.map_append, List.nodup_append]
    refine ⟨?_, by simp, ?_⟩
    · split
      · exact h.nodup.sublist (List.filter_sublist.map key)
      · exact h.nodup
    · intro k hk other hother heq
      rw [List.map_singleton, List.mem_singleton] at hother
      exact ((mem_kept_iff key h a k).mp hk).2 (heq.trans hother)
  · intro k
    rw [Keyed.mem_keys_add key h, Keyed.add, List.mem_cons, h.seen_iff]
    exact or_comm

theorem Keyed.foldl_wellFormed {s : Keyed α κ} (h : s.WellFormed key) (entries : List α) :
    (entries.foldl (Keyed.add key) s).WellFormed key := by
  induction entries generalizing s with
  | nil => exact h
  | cons a entries ih => exact ih (Keyed.add_wellFormed key h a)

theorem Keyed.mem_keys_foldl {s : Keyed α κ} (h : s.WellFormed key) (entries : List α)
    (k : κ) :
    k ∈ (entries.foldl (Keyed.add key) s).entries.map key ↔
      k ∈ s.entries.map key ∨ k ∈ entries.map key := by
  induction entries generalizing s with
  | nil => simp
  | cons a entries ih =>
      rw [List.foldl_cons, ih (Keyed.add_wellFormed key h a), Keyed.mem_keys_add key h,
        List.map_cons, List.mem_cons, or_assoc]

def lastOf : List α → List α
  | [] => []
  | a :: rest => if key a ∈ rest.map key then lastOf rest else a :: lastOf rest

private theorem kept_entries {s : Keyed α κ} (h : s.WellFormed key) (a : α) :
    (if key a ∈ s.seen then s.entries.filter fun b => key b ≠ key a else s.entries) =
      s.entries.filter fun b => key b ≠ key a := by
  split
  case isTrue => rfl
  case isFalse hseen =>
      rw [h.seen_iff, List.mem_map] at hseen
      refine (List.filter_eq_self.mpr fun b hb => ?_).symm
      simpa using fun heq => hseen ⟨b, hb, heq⟩

theorem Keyed.foldl_eq_lastOf {s : Keyed α κ} (h : s.WellFormed key) (entries : List α) :
    (entries.foldl (Keyed.add key) s).entries =
      (s.entries.filter fun b => key b ∉ entries.map key) ++ lastOf key entries := by
  induction entries generalizing s with
  | nil => simp [lastOf]
  | cons a entries ih =>
      rw [List.foldl_cons, ih (Keyed.add_wellFormed key h a), Keyed.add, kept_entries key h,
        List.filter_append, List.filter_filter, lastOf]
      have hsplit : (fun b => decide (key b ∉ entries.map key) && decide (key b ≠ key a)) =
          fun b => decide (key b ∉ (a :: entries).map key) := by
        funext b
        simp only [decide_not, List.map_cons, List.mem_cons, Bool.decide_or, Bool.not_or,
          Bool.and_comm]
      rw [hsplit, List.append_assoc]
      congr 1
      by_cases hlater : key a ∈ entries.map key
      · rw [if_pos hlater, List.filter_cons_of_neg (by simpa using hlater), List.filter_nil,
          List.nil_append]
      · rw [if_neg hlater, List.filter_cons_of_pos (by simpa using hlater), List.filter_nil,
          List.singleton_append]

theorem mem_keys_lastOf (entries : List α) (k : κ) :
    k ∈ (lastOf key entries).map key ↔ k ∈ entries.map key := by
  induction entries with
  | nil => rfl
  | cons a rest ih =>
      rw [lastOf]
      split
      next hlater =>
        rw [ih, List.map_cons, List.mem_cons]
        refine ⟨.inr, fun hk => hk.elim (fun heq => heq ▸ hlater) id⟩
      next => rw [List.map_cons, List.mem_cons, ih, List.map_cons, List.mem_cons]

theorem lastOf_sublist (entries : List α) : (lastOf key entries).Sublist entries := by
  induction entries with
  | nil => exact .slnil
  | cons a rest ih =>
      rw [lastOf]
      split
      next => exact ih.cons a
      next => exact ih.cons_cons a

theorem nodup_keys_lastOf (entries : List α) : ((lastOf key entries).map key).Nodup := by
  induction entries with
  | nil => exact List.nodup_nil
  | cons a rest ih =>
      rw [lastOf]
      split
      next => exact ih
      next hnew =>
        rw [List.map_cons, List.nodup_cons, mem_keys_lastOf]
        exact ⟨hnew, ih⟩

theorem Keyed.foldl_of_nodup {s : Keyed α κ} (h : s.WellFormed key) {entries : List α}
    (hnodup : (s.entries.map key ++ entries.map key).Nodup) :
    (entries.foldl (Keyed.add key) s).entries = s.entries ++ entries := by
  induction entries generalizing s with
  | nil => simp
  | cons a entries ih =>
      have hnew : key a ∉ s.entries.map key := by
        rw [List.map_cons, List.nodup_append] at hnodup
        exact fun hmem => hnodup.2.2 _ hmem _ (by simp) rfl
      have hadd : (s.add key a).entries = s.entries ++ [a] := by
        rw [Keyed.add, if_neg fun hseen => hnew ((h.seen_iff _).mp hseen)]
      rw [List.foldl_cons, ih (Keyed.add_wellFormed key h a), hadd, List.append_assoc,
        List.singleton_append]
      rw [hadd, List.map_append, List.map_singleton, List.append_assoc,
        List.singleton_append]
      exact hnodup

end LastWins

/-- A map that shrinks what it moves and covers the list fixes the list: the longest
entry that is moved would have to come from a longer one. -/
theorem fixed_of_covered {α : Type*} [DecidableEq α] (size : α → Nat) (f : α → Option α)
    (entries : List α)
    (hshrinks : ∀ a ∈ entries, ∀ b, f a = some b → b ≠ a → size b < size a)
    (hcovered : ∀ b ∈ entries, f b = some b ∨ ∃ a ∈ entries, f a = some b) :
    ∀ a ∈ entries, f a = some a := by
  intro a ha
  by_contra hmoved
  let moved := entries.toFinset.filter fun a => f a ≠ some a
  have hnonempty : moved.Nonempty := ⟨a, by simp [moved, ha, hmoved]⟩
  obtain ⟨longest, hlongest, hmax⟩ := Finset.exists_max_image moved size hnonempty
  simp only [moved, Finset.mem_filter, List.mem_toFinset] at hlongest hmax
  obtain ⟨hmem, hnot⟩ := hlongest
  obtain hfixed | ⟨source, hsource, hsent⟩ := hcovered longest hmem
  · exact hnot hfixed
  have hne : longest ≠ source := by
    rintro rfl
    exact hnot hsent
  have hlt := hshrinks source hsource longest hsent hne
  have hle := hmax source ⟨hsource, by
    rw [hsent]
    simpa using hne⟩
  omega

end JudgeVortex.Foundation
