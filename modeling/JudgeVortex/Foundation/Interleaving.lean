import JudgeVortex.Foundation.Runs
import Mathlib.Logic.Function.Basic

/-!
# Requests that run at once

A service handles requests in steps on a shared state, and the steps of different
requests interleave freely.  `Service.Rules` is an invariant of such runs: a part on the
shared state, a part on every running request that the other requests leave alone, and
the requests that the shared state still waits for, all of which run.
-/

namespace JudgeVortex.Foundation

/-- `act` is one step of a running request; without a next point the request ends. -/
structure Service (σ τ ρ ι : Type*) where
  begin : ρ → τ
  act : σ → ℕ → τ → ι → σ × Option τ

inductive RequestState (τ : Type*) where
  | idle
  | running (t : τ)
  | ended

structure Serving (σ τ : Type*) where
  shared : σ
  requests : ℕ → RequestState τ

inductive ServiceEvent (ρ ι : Type*) where
  | start (id : ℕ) (request : ρ)
  | act (id : ℕ) (input : ι)

variable {σ τ ρ ι : Type*}

def Serving.initial (shared : σ) : Serving σ τ := ⟨shared, fun _ => .idle⟩

def Serving.Quiet (s : Serving σ τ) : Prop := ∀ id t, s.requests id ≠ .running t

def Serving.put (s : Serving σ τ) (id : ℕ) (after : σ) (request : RequestState τ) :
    Serving σ τ :=
  ⟨after, Function.update s.requests id request⟩

@[simp] theorem Serving.shared_put (s : Serving σ τ) (id : ℕ) (after : σ)
    (request : RequestState τ) : (s.put id after request).shared = after := rfl

@[simp] theorem Serving.requests_put_self (s : Serving σ τ) (id : ℕ) (after : σ)
    (request : RequestState τ) : (s.put id after request).requests id = request :=
  Function.update_self ..

theorem Serving.requests_put_of_ne (s : Serving σ τ) {id other : ℕ} (h : other ≠ id) (after : σ)
    (request : RequestState τ) : (s.put id after request).requests other = s.requests other :=
  Function.update_of_ne h ..

def RequestState.next : Option τ → RequestState τ
  | none => .ended
  | some t => .running t

namespace Service

variable (service : Service σ τ ρ ι)

/-- An identifier serves one request only. -/
def step (s : Serving σ τ) : ServiceEvent ρ ι → Serving σ τ
  | .start id request =>
      match s.requests id with
      | .idle => s.put id s.shared (.running (service.begin request))
      | _ => s
  | .act id input =>
      match s.requests id with
      | .running t =>
          let (after, next) := service.act s.shared id t input
          s.put id after (.next next)
      | _ => s

theorem step_cases (s : Serving σ τ) (e : ServiceEvent ρ ι) :
    service.step s e = s ∨
      (∃ id request, e = .start id request ∧ s.requests id = .idle ∧
        service.step s e = s.put id s.shared (.running (service.begin request))) ∨
      ∃ id input t, e = .act id input ∧ s.requests id = .running t ∧
        service.step s e = s.put id (service.act s.shared id t input).1
          (.next (service.act s.shared id t input).2) := by
  cases e with
  | start id request =>
      rw [step]
      split
      next hidle => exact .inr (.inl ⟨id, request, rfl, hidle, rfl⟩)
      next => exact .inl rfl
  | act id input =>
      rw [step]
      split
      next t hrunning => exact .inr (.inr ⟨id, input, t, rfl, hrunning, rfl⟩)
      next => exact .inl rfl

theorem idle_of_not_started {s : Serving σ τ} {events : List (ServiceEvent ρ ι)} {id : ℕ}
    (hidle : s.requests id = .idle) (h : ∀ request, .start id request ∉ events) :
    ∀ p ∈ transitions service.step s events, (service.step p.1 p.2).requests id = .idle := by
  have hstep : ∀ (s : Serving σ τ) e, s.requests id = .idle → (∀ request, e ≠ .start id request) →
      (service.step s e).requests id = .idle := by
    intro s e hidle hnot
    obtain hsame | ⟨other, request, rfl, -, hput⟩ | ⟨other, input, t, -, hrunning, hput⟩ :=
      service.step_cases s e
    · rw [hsame, hidle]
    · have hne : id ≠ other := by
        rintro rfl
        exact hnot request rfl
      rw [hput, Serving.requests_put_of_ne _ hne, hidle]
    · have hne : id ≠ other := by
        rintro rfl
        rw [hidle] at hrunning
        cases hrunning
      rw [hput, Serving.requests_put_of_ne _ hne, hidle]
  have hlabels : ∀ p ∈ transitions service.step s events, ∀ request, p.2 ≠ .start id request := by
    intro p hp request heq
    exact h request (heq ▸ label_mem_of_mem_transitions _ hp)
  have hbefore := transitions_invariant_of service.step hstep hidle events hlabels
  exact fun p hp => hstep p.1 p.2 (hbefore p hp) (hlabels p hp)

def Allowed (allowed : σ → τ → ι → Prop) (s : Serving σ τ) (e : ServiceEvent ρ ι) : Prop :=
  ∀ id input t, e = .act id input → s.requests id = .running t → allowed s.shared t input

structure Rules (allowed : σ → τ → ι → Prop) (shared : σ → Prop) (holds : σ → ℕ → τ → Prop)
    (owed : σ → ℕ → Prop) (owes : τ → Prop) : Prop where
  begin : ∀ s id request, shared s → ¬ owed s id → holds s id (service.begin request)
  act : ∀ s id t input, shared s → holds s id t → (owed s id → owes t) → allowed s t input →
    shared (service.act s id t input).1 ∧
      (∀ u ∈ (service.act s id t input).2, holds (service.act s id t input).1 id u) ∧
      (owed (service.act s id t input).1 id → ∃ u ∈ (service.act s id t input).2, owes u)
  others : ∀ s id t input other, shared s → holds s id t → (owed s id → owes t) →
    allowed s t input → other ≠ id →
      (∀ u, holds s other u → holds (service.act s id t input).1 other u) ∧
      (owed (service.act s id t input).1 other → owed s other)

structure Upheld (shared : σ → Prop) (holds : σ → ℕ → τ → Prop) (owed : σ → ℕ → Prop)
    (owes : τ → Prop) (s : Serving σ τ) : Prop where
  shared : shared s.shared
  holds : ∀ id t, s.requests id = .running t → holds s.shared id t
  owed : ∀ id, owed s.shared id → ∃ t, s.requests id = .running t ∧ owes t

variable {service} {allowed : σ → τ → ι → Prop} {shared : σ → Prop}
  {holds : σ → ℕ → τ → Prop} {owed : σ → ℕ → Prop} {owes : τ → Prop}

theorem upheld_initial {s : σ} (hs : shared s) (howed : ∀ id, ¬ owed s id) :
    Upheld shared holds owed owes (.initial s) where
  shared := hs
  holds := by simp [Serving.initial]
  owed id h := absurd h (howed id)

theorem Upheld.owes_of_running {s : Serving σ τ} (hs : Upheld shared holds owed owes s)
    {id : ℕ} {t : τ} (ht : s.requests id = .running t) (h : owed s.shared id) : owes t := by
  obtain ⟨u, hu, howes⟩ := hs.owed id h
  rw [ht] at hu
  cases hu
  exact howes

/-- Nothing is owed when no request runs. -/
theorem Upheld.not_owed {s : Serving σ τ} (hs : Upheld shared holds owed owes s)
    (hquiet : s.Quiet) (id : ℕ) : ¬ owed s.shared id := by
  intro h
  obtain ⟨t, ht, -⟩ := hs.owed id h
  exact hquiet id t ht

variable (rules : service.Rules allowed shared holds owed owes)

include rules

theorem Rules.start {s : Serving σ τ} (hs : Upheld shared holds owed owes s) {id : ℕ}
    (hidle : s.requests id = .idle) (request : ρ) :
    Upheld shared holds owed owes (s.put id s.shared (.running (service.begin request))) := by
  have hnew : ¬ owed s.shared id := by
    intro h
    obtain ⟨t, ht, -⟩ := hs.owed id h
    rw [hidle] at ht
    cases ht
  constructor
  · exact hs.shared
  · intro other t ht
    by_cases heq : other = id
    · subst heq
      rw [Serving.requests_put_self] at ht
      cases ht
      exact rules.begin s.shared other request hs.shared hnew
    · rw [Serving.requests_put_of_ne _ heq] at ht
      exact hs.holds other t ht
  · intro other howed
    have heq : other ≠ id := by
      rintro rfl
      exact hnew howed
    rw [Serving.requests_put_of_ne _ heq]
    exact hs.owed other howed

theorem Rules.act_running {s : Serving σ τ} (hs : Upheld shared holds owed owes s) {id : ℕ}
    {t : τ} (ht : s.requests id = .running t) {input : ι} (hallowed : allowed s.shared t input) :
    Upheld shared holds owed owes (s.put id (service.act s.shared id t input).1
      (.next (service.act s.shared id t input).2)) := by
  have hholds := hs.holds id t ht
  have howes := hs.owes_of_running ht
  obtain ⟨hshared, hnext, howing⟩ :=
    rules.act s.shared id t input hs.shared hholds howes hallowed
  have hothers := fun other => rules.others s.shared id t input other hs.shared hholds howes
    hallowed
  generalize service.act s.shared id t input = result at hshared hnext howing hothers
  obtain ⟨after, next⟩ := result
  constructor
  · exact hshared
  · intro other u hu
    by_cases heq : other = id
    · subst heq
      rw [Serving.requests_put_self] at hu
      cases next with
      | none => cases hu
      | some v =>
          cases hu
          exact hnext _ rfl
    · rw [Serving.requests_put_of_ne _ heq] at hu
      exact (hothers other heq).1 u (hs.holds other u hu)
  · intro other howed
    by_cases heq : other = id
    · subst heq
      obtain ⟨u, hu, howesNext⟩ := howing howed
      obtain rfl : next = some u := hu
      exact ⟨u, Serving.requests_put_self .., howesNext⟩
    · rw [Serving.requests_put_of_ne _ heq]
      exact hs.owed other ((hothers other heq).2 howed)

theorem Rules.step {s : Serving σ τ} (hs : Upheld shared holds owed owes s)
    {e : ServiceEvent ρ ι} (he : Allowed allowed s e) :
    Upheld shared holds owed owes (service.step s e) := by
  obtain hsame | ⟨id, request, -, hidle, hstep⟩ | ⟨id, input, t, heq, ht, hstep⟩ :=
    service.step_cases s e
  · rwa [hsame]
  · rw [hstep]
    exact rules.start hs hidle request
  · rw [hstep]
    exact rules.act_running hs ht (he id input t heq ht)

theorem Rules.run {s : Serving σ τ} (hs : Upheld shared holds owed owes s)
    {events : List (ServiceEvent ρ ι)}
    (hrun : ∀ p ∈ transitions service.step s events, Allowed allowed p.1 p.2) :
    ∀ p ∈ transitions service.step s events,
      Upheld shared holds owed owes p.1 ∧ Upheld shared holds owed owes (service.step p.1 p.2) := by
  have hbefore := transitions_invariant_of service.step (G := Allowed allowed)
    (fun _ _ hs he => rules.step hs he) hs events hrun
  exact fun p hp => ⟨hbefore p hp, rules.step (hbefore p hp) (hrun p hp)⟩

end Service

end JudgeVortex.Foundation
