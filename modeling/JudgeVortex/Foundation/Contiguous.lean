import Mathlib.Data.Finset.Card
import Mathlib.Data.Int.Interval
import Mathlib.Order.Bounds.Basic

/-!
# Counting through a finite set of integers

`advance done start` walks upwards from `start` while the current integer is in
`done`.  The walk carries fuel, and the size of the set is enough of it, so the
result is the least integer from `start` on that is missing from the set.
-/

namespace JudgeVortex.Foundation

def advanceWithin (done : Finset Int) : Nat → Int → Int
  | 0, current => current
  | fuel + 1, current =>
      if current ∈ done then advanceWithin done fuel (current + 1) else current

def advance (done : Finset Int) (start : Int) : Int :=
  advanceWithin done done.card start

theorem le_advanceWithin (done : Finset Int) (fuel : Nat) (start : Int) :
    start ≤ advanceWithin done fuel start := by
  induction fuel generalizing start with
  | zero => exact le_rfl
  | succ fuel ih =>
      simp only [advanceWithin]
      split
      · have := ih (start + 1)
        omega
      · exact le_rfl

theorem mem_of_lt_advanceWithin (done : Finset Int) (fuel : Nat)
    (start : Int) {offset : Int} (hle : start ≤ offset)
    (hlt : offset < advanceWithin done fuel start) : offset ∈ done := by
  induction fuel generalizing start with
  | zero =>
      simp only [advanceWithin] at hlt
      omega
  | succ fuel ih =>
      simp only [advanceWithin] at hlt
      split at hlt
      next hmem =>
        by_cases heq : offset = start
        · exact heq ▸ hmem
        · exact ih (start + 1) (by omega) hlt
      next => omega

private theorem advanceWithin_eq_add (done : Finset Int) (fuel : Nat)
    (start : Int) (hmem : advanceWithin done fuel start ∈ done) :
    advanceWithin done fuel start = start + fuel := by
  induction fuel generalizing start with
  | zero => simp [advanceWithin]
  | succ fuel ih =>
      simp only [advanceWithin] at hmem ⊢
      split
      next hstart =>
        rw [if_pos hstart] at hmem
        rw [ih (start + 1) hmem]
        omega
      next hstart =>
        rw [if_neg hstart] at hmem
        exact absurd hmem hstart

theorem le_advance (done : Finset Int) (start : Int) :
    start ≤ advance done start :=
  le_advanceWithin done _ start

theorem mem_of_lt_advance {done : Finset Int} {start offset : Int}
    (hle : start ≤ offset) (hlt : offset < advance done start) :
    offset ∈ done :=
  mem_of_lt_advanceWithin done _ start hle hlt

theorem advance_not_mem (done : Finset Int) (start : Int) :
    advance done start ∉ done := by
  intro hmem
  have heq : advance done start = start + done.card :=
    advanceWithin_eq_add done done.card start hmem
  -- The walk covered `done.card + 1` members of a set with `done.card` of them.
  have hsub : Finset.Icc start (advance done start) ⊆ done := by
    intro offset hoffset
    rw [Finset.mem_Icc] at hoffset
    rcases lt_or_eq_of_le hoffset.2 with hlt | rfl
    · exact mem_of_lt_advance hoffset.1 hlt
    · exact hmem
  have hcard := Finset.card_le_card hsub
  rw [Int.card_Icc, heq] at hcard
  omega

theorem advance_of_not_mem {done : Finset Int} {start : Int}
    (h : start ∉ done) : advance done start = start := by
  by_contra hne
  have hlt := lt_of_le_of_ne (le_advance done start) (Ne.symm hne)
  exact h (mem_of_lt_advance le_rfl hlt)

theorem lt_advance_iff {done : Finset Int} {start : Int} :
    start < advance done start ↔ start ∈ done := by
  constructor
  · exact mem_of_lt_advance le_rfl
  · intro h
    refine lt_of_le_of_ne (le_advance done start) ?_
    rintro heq
    exact advance_not_mem done start (heq ▸ h)

theorem le_advance_iff {done : Finset Int} {start limit : Int} :
    limit ≤ advance done start ↔
      ∀ offset, start ≤ offset → offset < limit → offset ∈ done := by
  constructor
  · intro hle offset hstart hlt
    exact mem_of_lt_advance hstart (hlt.trans_le hle)
  · intro h
    by_contra hlt
    exact advance_not_mem done start (h _ (le_advance done start) (not_le.mp hlt))

end JudgeVortex.Foundation
