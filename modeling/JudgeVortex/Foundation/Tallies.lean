import JudgeVortex.Foundation.Runs

/-!
# Tallies

A system keeps a tally of something that its steps do or do not do.  If no step adds too
little, the tally of a run is right exactly if no step of the run adds too much.
-/

namespace JudgeVortex.Foundation

section Tallies

variable {σ ε : Type*} (step : σ → ε → σ) (happens : σ → ε → Bool) (tally : σ → ℕ)

def occurrences (s : σ) (events : List ε) : ℕ :=
  (transitions step s events).countP fun p => happens p.1 p.2

@[simp] theorem occurrences_cons (s : σ) (e : ε) (events : List ε) :
    occurrences step happens s (e :: events) =
      (happens s e).toNat + occurrences step happens (step s e) events := by
  rw [occurrences, transitions_cons, List.countP_cons, Nat.add_comm, occurrences]
  cases happens s e <;> rfl

def NeverMisses : Prop := ∀ s e, tally s + (happens s e).toNat ≤ tally (step s e)

/-- The step adds its occurrence and nothing else. -/
def CountsRight (s : σ) (e : ε) : Prop := tally (step s e) = tally s + (happens s e).toNat

variable {step happens tally}

theorem NeverMisses.add_occurrences_le (h : NeverMisses step happens tally) (s : σ)
    (events : List ε) :
    tally s + occurrences step happens s events ≤ tally (events.foldl step s) := by
  induction events generalizing s with
  | nil => exact Nat.le_refl _
  | cons e events ih =>
      rw [occurrences_cons, List.foldl_cons]
      have hstep := h s e
      have hrest := ih (step s e)
      omega

/-- What a step adds too much, no later step takes back. -/
theorem NeverMisses.tally_foldl_eq_iff (h : NeverMisses step happens tally) (s : σ)
    (events : List ε) :
    tally (events.foldl step s) = tally s + occurrences step happens s events ↔
      ∀ p ∈ transitions step s events, CountsRight step happens tally p.1 p.2 := by
  induction events generalizing s with
  | nil => simp [occurrences]
  | cons e events ih =>
      rw [transitions_cons, List.forall_mem_cons, ← ih (step s e), occurrences_cons,
        List.foldl_cons]
      dsimp only [CountsRight]
      have hstep := h s e
      have hrest := h.add_occurrences_le (step s e) events
      constructor
      · intro htotal
        constructor <;> omega
      · rintro ⟨hhead, htail⟩
        omega

end Tallies

end JudgeVortex.Foundation
