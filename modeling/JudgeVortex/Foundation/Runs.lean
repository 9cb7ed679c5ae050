import Mathlib.Data.List.Induction

/-!
# Runs of a deterministic labelled system

A system is a step function on states; everything nondeterministic is in the
label.  A run is a list of labels, `transitions` pairs each label with the state
it is taken from, and the rules below turn facts about one step into facts about
every transition of a run.
-/

namespace JudgeVortex.Foundation

section Runs

variable {σ ε : Type*} (step : σ → ε → σ)

def transitions : σ → List ε → List (σ × ε)
  | _, [] => []
  | s, e :: events => (s, e) :: transitions (step s e) events

@[simp] theorem transitions_nil (s : σ) : transitions step s [] = [] := rfl

@[simp] theorem transitions_cons (s : σ) (e : ε) (events : List ε) :
    transitions step s (e :: events) =
      (s, e) :: transitions step (step s e) events := rfl

theorem label_mem_of_mem_transitions {s : σ} {events : List ε} {p : σ × ε}
    (h : p ∈ transitions step s events) : p.2 ∈ events := by
  induction events generalizing s with
  | nil => cases h
  | cons e events ih =>
      rcases List.mem_cons.mp h with rfl | h
      · exact List.mem_cons_self
      · exact List.mem_cons_of_mem _ (ih h)

theorem transitions_invariant_of {I : σ → Prop} {G : σ → ε → Prop}
    (hstep : ∀ s e, I s → G s e → I (step s e)) {s : σ} (hs : I s)
    (events : List ε) (hrun : ∀ p ∈ transitions step s events, G p.1 p.2) :
    ∀ p ∈ transitions step s events, I p.1 := by
  induction events generalizing s with
  | nil => simp
  | cons e events ih =>
      rw [transitions_cons, List.forall_mem_cons] at hrun ⊢
      exact ⟨hs, ih (hstep s e hs hrun.1) hrun.2⟩

theorem transitions_invariant {I : σ → Prop}
    (hstep : ∀ s e, I s → I (step s e)) {s : σ} (hs : I s) (events : List ε) :
    ∀ p ∈ transitions step s events, I p.1 :=
  transitions_invariant_of step (G := fun _ _ => True)
    (fun s e h _ => hstep s e h) hs events (fun _ _ => trivial)

theorem foldl_invariant {I : σ → Prop} (hstep : ∀ s e, I s → I (step s e)) {s : σ}
    (hs : I s) (events : List ε) : I (events.foldl step s) := by
  induction events generalizing s with
  | nil => exact hs
  | cons e events ih => exact ih (hstep s e hs)

theorem foldl_invariant_of {I : σ → Prop} {G : σ → ε → Prop}
    (hstep : ∀ s e, I s → G s e → I (step s e)) {s : σ} (hs : I s)
    (events : List ε) (hrun : ∀ p ∈ transitions step s events, G p.1 p.2) :
    I (events.foldl step s) := by
  induction events generalizing s with
  | nil => exact hs
  | cons e events ih =>
      rw [transitions_cons, List.forall_mem_cons] at hrun
      exact ih (hstep s e hs hrun.1) hrun.2

theorem transitions_forall_iff {I : σ → Prop} {P C : σ → ε → Prop}
    (hstep : ∀ s e, I s → I (step s e))
    (hiff : ∀ s e, I s → (P s e ↔ C s e)) {s : σ} (hs : I s)
    (events : List ε) :
    (∀ p ∈ transitions step s events, P p.1 p.2) ↔
      ∀ p ∈ transitions step s events, C p.1 p.2 := by
  have hinv := transitions_invariant step hstep hs events
  constructor
  · intro h p hp
    exact (hiff p.1 p.2 (hinv p hp)).mp (h p hp)
  · intro h p hp
    exact (hiff p.1 p.2 (hinv p hp)).mpr (h p hp)

/--
If, from a state where `J` holds, a step keeps `J` exactly when its label meets
`C`, then `J` holds after every step of a run exactly when every step of the run
meets `C`.
-/
theorem reached_forall_iff {I J : σ → Prop} {C : σ → ε → Prop}
    (hstep : ∀ s e, I s → I (step s e))
    (hiff : ∀ s e, I s → J s → (J (step s e) ↔ C s e))
    {s : σ} (hI : I s) (hJ : J s) (events : List ε) :
    (∀ p ∈ transitions step s events, J (step p.1 p.2)) ↔
      ∀ p ∈ transitions step s events, C p.1 p.2 := by
  induction events generalizing s with
  | nil => simp
  | cons e events ih =>
      simp only [transitions_cons, List.forall_mem_cons]
      constructor
      · rintro ⟨hhead, htail⟩
        exact ⟨(hiff s e hI hJ).mp hhead,
          (ih (hstep s e hI) hhead).mp htail⟩
      · rintro ⟨hhead, htail⟩
        have hnext := (hiff s e hI hJ).mpr hhead
        exact ⟨hnext, (ih (hstep s e hI) hnext).mpr htail⟩

/-! ## Since the last time -/

/-- Some step of the run meets `P`, and every later one meets `Q`. -/
def Since (P Q : σ → ε → Prop) (s : σ) (events : List ε) : Prop :=
  ∃ before e after, events = before ++ e :: after ∧ P (before.foldl step s) e ∧
    ∀ p ∈ transitions step (step (before.foldl step s) e) after, Q p.1 p.2

theorem transitions_concat (s : σ) (events : List ε) (e : ε) :
    transitions step s (events ++ [e]) =
      transitions step s events ++ [(events.foldl step s, e)] := by
  induction events generalizing s with
  | nil => rfl
  | cons first events ih =>
      rw [List.cons_append, transitions_cons, ih, transitions_cons, List.cons_append,
        List.foldl_cons]

theorem not_since_nil {P Q : σ → ε → Prop} (s : σ) : ¬ Since step P Q s [] := by
  rintro ⟨before, e, after, hevents, -⟩
  simp at hevents

/-- A past operator is decided from what it was one step ago. -/
theorem since_concat {P Q : σ → ε → Prop} (s : σ) (events : List ε) (e : ε) :
    Since step P Q s (events ++ [e]) ↔
      P (events.foldl step s) e ∨
        Since step P Q s events ∧ Q (events.foldl step s) e := by
  constructor
  · rintro ⟨before, first, after, hevents, hfirst, hafter⟩
    cases after using List.reverseRecOn with
    | nil =>
        obtain ⟨rfl, heq⟩ := List.append_inj' hevents rfl
        obtain rfl := List.head_eq_of_cons_eq heq
        exact .inl hfirst
    | append_singleton after last =>
        rw [← List.cons_append, ← List.append_assoc] at hevents
        obtain ⟨rfl, heq⟩ := List.append_inj' hevents rfl
        obtain rfl := List.head_eq_of_cons_eq heq
        rw [transitions_concat, List.forall_mem_append, List.forall_mem_singleton] at hafter
        rw [List.foldl_append, List.foldl_cons]
        exact .inr ⟨⟨before, first, after, rfl, hfirst, hafter.1⟩, hafter.2⟩
  · rintro (hlast | ⟨⟨before, first, after, rfl, hfirst, hafter⟩, hlast⟩)
    · exact ⟨events, e, [], rfl, hlast, by simp⟩
    · refine ⟨before, first, after ++ [e], by simp, hfirst, ?_⟩
      rw [List.foldl_append, List.foldl_cons] at hlast
      rw [transitions_concat, List.forall_mem_append, List.forall_mem_singleton]
      exact ⟨hafter, hlast⟩

/-- What a step sets and the later ones keep holds at the end. -/
theorem holds_of_since {J : σ → Prop} {P Q : σ → ε → Prop}
    (hset : ∀ s e, P s e → J (step s e)) (hkeep : ∀ s e, J s → Q s e → J (step s e)) {s : σ}
    {events : List ε} (h : Since step P Q s events) : J (events.foldl step s) := by
  obtain ⟨before, e, after, rfl, hfirst, hafter⟩ := h
  rw [List.foldl_append, List.foldl_cons]
  exact foldl_invariant_of step hkeep (hset _ e hfirst) after hafter

/-- A property of the state that every step sets or keeps like a past operator is one. -/
theorem reached_iff_since {I J : σ → Prop} {G P Q : σ → ε → Prop}
    (hstep : ∀ s e, I s → G s e → I (step s e))
    (hiff : ∀ s e, I s → G s e → (J (step s e) ↔ P s e ∨ J s ∧ Q s e))
    {s : σ} (hI : I s) (hJ : ¬ J s) (events : List ε)
    (hrun : ∀ p ∈ transitions step s events, G p.1 p.2) :
    J (events.foldl step s) ↔ Since step P Q s events := by
  induction events using List.reverseRecOn with
  | nil => exact iff_of_false hJ (not_since_nil step s)
  | append_singleton events e ih =>
      rw [transitions_concat, List.forall_mem_append, List.forall_mem_singleton] at hrun
      have hreached := foldl_invariant_of step hstep hI events hrun.1
      rw [List.foldl_append, List.foldl_cons, List.foldl_nil, since_concat, ← ih hrun.1]
      exact hiff _ e hreached hrun.2

end Runs

end JudgeVortex.Foundation
