import Mathlib.Algebra.BigOperators.Group.List.Basic

/-!
# Sums that an exception cuts short

A loop changes a variable and may raise at any point; the variable keeps what was assigned
until then.  Nested loops that only add what they read are one loop over all readings.
-/

namespace JudgeVortex.Foundation

section Loops

variable {σ α β ε : Type*}

/-- The variable after a loop, and the exception that left it. -/
def loopUntil (step : σ → α → σ × Option ε) (s : σ) : List α → σ × Option ε
  | [] => (s, none)
  | x :: xs =>
      match step s x with
      | (s', none) => loopUntil step s' xs
      | (s', some error) => (s', some error)

variable {step : σ → α → σ × Option ε}

theorem loopUntil_append (s : σ) (xs ys : List α) :
    loopUntil step s (xs ++ ys) =
      match loopUntil step s xs with
      | (s', none) => loopUntil step s' ys
      | (s', some error) => (s', some error) := by
  induction xs generalizing s with
  | nil => rfl
  | cons x xs ih =>
      rw [List.cons_append, loopUntil, loopUntil]
      rcases step s x with ⟨s', _ | error⟩
      · exact ih s'
      · rfl

theorem loopUntil_flatMap {inner : σ → β → σ × Option ε} {rounds : α → List β}
    (h : ∀ s x, step s x = loopUntil inner s (rounds x)) (s : σ) (xs : List α) :
    loopUntil step s xs = loopUntil inner s (xs.flatMap rounds) := by
  induction xs generalizing s with
  | nil => rfl
  | cons x xs ih =>
      rw [List.flatMap_cons, loopUntil_append, loopUntil, h]
      rcases loopUntil inner s (rounds x) with ⟨s', _ | error⟩
      · exact ih s'
      · rfl

theorem loopUntil_map (inner : σ → β → σ × Option ε) (reading : α → β) (s : σ) (xs : List α) :
    loopUntil (fun s x => inner s (reading x)) s xs = loopUntil inner s (xs.map reading) := by
  induction xs generalizing s with
  | nil => rfl
  | cons x xs ih =>
      rw [List.map_cons, loopUntil, loopUntil]
      rcases inner s (reading x) with ⟨s', _ | error⟩
      · exact ih s'
      · rfl

end Loops

section Sums

variable {ε M : Type*}

def addReading [Add M] (total : M) : Except ε M → M × Option ε
  | .ok m => (total + m, none)
  | .error error => (total, some error)

/-- What is read before the first reading that raises. -/
def readBefore : List (Except ε M) → List M
  | .ok m :: rest => m :: readBefore rest
  | .error _ :: _ | [] => []

def ReadsAll (readings : List (Except ε M)) (values : List M) : Prop :=
  readings = values.map .ok

variable [AddMonoid M]

theorem loopUntil_addReading_fst (total : M) (readings : List (Except ε M)) :
    (loopUntil addReading total readings).1 = total + (readBefore readings).sum := by
  induction readings generalizing total with
  | nil => exact (add_zero total).symm
  | cons reading rest ih =>
      cases reading with
      | error error => exact (add_zero total).symm
      | ok m =>
          rw [loopUntil, addReading, readBefore, List.sum_cons, ← add_assoc]
          exact ih (total + m)

omit [AddMonoid M] in
theorem ReadsAll.readBefore_eq {readings : List (Except ε M)} {values : List M}
    (h : ReadsAll readings values) : readBefore readings = values := by
  subst h
  induction values with
  | nil => rfl
  | cons m values ih => rw [List.map_cons, readBefore, ih]

theorem loopUntil_addReading_snd (total : M) (readings : List (Except ε M)) :
    (loopUntil addReading total readings).2 = none ↔ ∃ values, ReadsAll readings values := by
  induction readings generalizing total with
  | nil => exact ⟨fun _ => ⟨[], rfl⟩, fun _ => rfl⟩
  | cons reading rest ih =>
      cases reading with
      | error error =>
          refine ⟨nofun, ?_⟩
          rintro ⟨_ | ⟨m, values⟩, h⟩ <;> simp [ReadsAll] at h
      | ok m =>
          rw [loopUntil, addReading]
          refine (ih (total + m)).trans ⟨?_, ?_⟩
          · rintro ⟨values, h⟩
            exact ⟨m :: values, by rw [ReadsAll, List.map_cons, ← h]⟩
          · rintro ⟨_ | ⟨m', values⟩, h⟩
            · cases h
            · exact ⟨values, (List.cons.inj h).2⟩

end Sums

end JudgeVortex.Foundation
