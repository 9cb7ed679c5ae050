import Mathlib.Data.List.Basic

/-!
# A pool of items that clients take and put back

A client is a list of actions.  Some of them take the next free item and some put back
the item that the client took; the actions of the clients interleave in any order, and
a client that finds no free item waits.
-/

namespace JudgeVortex.Foundation.Pool

inductive Use where
  | take
  | put
  deriving DecidableEq, Repr

/-- A client keeps its item's name after it put the item back. -/
structure Client (α ι : Type*) where
  todo : List α
  item : Option ι
  returned : Nat

structure State (α ι : Type*) where
  free : List ι
  clients : List (Client α ι)

inductive Event (α : Type*) where
  | arrive (actions : List α)
  | act (i : Nat)

def Client.arriving {α ι : Type*} (actions : List α) : Client α ι := ⟨actions, none, 0⟩

section Step

variable {α ι : Type*} (use : α → Option Use)

def actOn (free : List ι) (c : Client α ι) : List ι × Client α ι :=
  match c.todo with
  | [] => (free, c)
  | a :: rest =>
      match use a, free with
      | none, free => (free, { c with todo := rest })
      | some .take, [] => ([], c)
      | some .take, x :: free => (free, ⟨rest, some x, 0⟩)
      | some .put, free =>
          (free ++ c.item.toList, { c with todo := rest, returned := c.returned + 1 })

def step (s : State α ι) : Event α → State α ι
  | .arrive actions => { s with clients := s.clients ++ [.arriving actions] }
  | .act i =>
      match s.clients[i]? with
      | none => s
      | some c =>
          let after := actOn use s.free c
          ⟨after.1, s.clients.set i after.2⟩

def run (s : State α ι) (events : List (Event α)) : State α ι := events.foldl (step use) s

/-! ## Clients that use one item once -/

def uses (actions : List α) : List Use := actions.filterMap use

def UsesOnce (actions : List α) : Prop :=
  uses use actions = [] ∨ uses use actions = [.take, .put]

instance (actions : List α) : Decidable (UsesOnce use actions) :=
  inferInstanceAs (Decidable (_ ∨ _))

/-- Where a client that uses one item once can stand. -/
inductive Orderly : Client α ι → Prop where
  | idle {todo : List α} (h : UsesOnce use todo) : Orderly ⟨todo, none, 0⟩
  | holding {todo : List α} {x : ι} (h : uses use todo = [.put]) :
      Orderly ⟨todo, some x, 0⟩
  | done {todo : List α} {x : ι} (h : uses use todo = []) : Orderly ⟨todo, some x, 1⟩

theorem uses_cons_none {a : α} (h : use a = none) (rest : List α) :
    uses use (a :: rest) = uses use rest := List.filterMap_cons_none h

theorem uses_cons_some {a : α} {u : Use} (h : use a = some u) (rest : List α) :
    uses use (a :: rest) = u :: uses use rest := List.filterMap_cons_some h

theorem actOn_nil (free : List ι) (item : Option ι) (n : Nat) :
    actOn use free ⟨[], item, n⟩ = (free, ⟨[], item, n⟩) := rfl

theorem actOn_none {a : α} (h : use a = none) (rest : List α) (free : List ι)
    (item : Option ι) (n : Nat) :
    actOn use free ⟨a :: rest, item, n⟩ = (free, ⟨rest, item, n⟩) := by
  simp only [actOn, h]

theorem actOn_wait {a : α} (h : use a = some .take) (rest : List α) (item : Option ι)
    (n : Nat) : actOn use [] ⟨a :: rest, item, n⟩ = ([], ⟨a :: rest, item, n⟩) := by
  simp only [actOn, h]

theorem actOn_take {a : α} (h : use a = some .take) (rest : List α) (x : ι)
    (free : List ι) (item : Option ι) (n : Nat) :
    actOn use (x :: free) ⟨a :: rest, item, n⟩ = (free, ⟨rest, some x, 0⟩) := by
  simp only [actOn, h]

theorem actOn_put {a : α} (h : use a = some .put) (rest : List α) (free : List ι)
    (item : Option ι) (n : Nat) :
    actOn use free ⟨a :: rest, item, n⟩ =
      (free ++ item.toList, ⟨rest, item, n + 1⟩) := by
  simp only [actOn, h]

theorem actOn_cases {c : Client α ι} (h : Orderly use c) (free : List ι) :
    (∃ todo, actOn use free c = (free, ⟨todo, c.item, c.returned⟩) ∧
      Orderly use ⟨todo, c.item, c.returned⟩) ∨
    (∃ todo x rest, free = x :: rest ∧ c.item = none ∧
      actOn use free c = (rest, ⟨todo, some x, 0⟩) ∧ uses use todo = [.put]) ∨
    ∃ todo x, c.item = some x ∧ c.returned = 0 ∧
      actOn use free c = (free ++ [x], ⟨todo, some x, 1⟩) ∧ uses use todo = [] := by
  obtain ⟨todo, item, n⟩ := c
  cases todo with
  | nil => exact .inl ⟨[], actOn_nil use free item n, h⟩
  | cons a rest =>
      cases ha : use a with
      | none =>
          refine .inl ⟨rest, actOn_none use ha rest free item n, ?_⟩
          cases h with
          | idle hown =>
              rw [UsesOnce, uses_cons_none use ha] at hown
              exact .idle hown
          | holding hput =>
              rw [uses_cons_none use ha] at hput
              exact .holding hput
          | done hnone =>
              rw [uses_cons_none use ha] at hnone
              exact .done hnone
      | some u =>
          cases h with
          | idle hown =>
              have hboth := hown
              rw [UsesOnce, uses_cons_some use ha] at hboth
              simp only [reduceCtorEq, List.cons.injEq, false_or] at hboth
              obtain ⟨rfl, hrest⟩ := hboth
              cases free with
              | nil => exact .inl ⟨a :: rest, actOn_wait use ha rest none 0, .idle hown⟩
              | cons x free =>
                  exact .inr (.inl ⟨rest, x, free, rfl, rfl,
                    actOn_take use ha rest x free none 0, hrest⟩)
          | @holding _ x hput =>
              rw [uses_cons_some use ha, List.cons.injEq] at hput
              obtain ⟨rfl, hrest⟩ := hput
              exact .inr (.inr ⟨rest, x, rfl, rfl,
                actOn_put use ha rest free (some x) 0, hrest⟩)
          | done hnone =>
              rw [uses_cons_some use ha] at hnone
              cases hnone

theorem actOn_orderly {c : Client α ι} (h : Orderly use c) (free : List ι) :
    Orderly use (actOn use free c).2 := by
  rcases actOn_cases use h free with ⟨todo, hact, horderly⟩ |
    ⟨todo, x, rest, -, -, hact, hput⟩ | ⟨todo, x, -, -, hact, hnone⟩
  · rw [hact]
    exact horderly
  · rw [hact]
    exact .holding hput
  · rw [hact]
    exact .done hnone

theorem Orderly.returned_eq {c : Client α ι} (h : Orderly use c) (hended : c.todo = [])
    {x : ι} (hitem : c.item = some x) : c.returned = 1 := by
  cases h with
  | idle => cases hitem
  | holding hput =>
      cases hended
      cases hput
  | done => rfl

def Event.UsesOnce : Event α → Prop
  | .arrive actions => Pool.UsesOnce use actions
  | .act _ => True

theorem step_orderly {s : State α ι} (h : ∀ c ∈ s.clients, Orderly use c) {e : Event α}
    (he : e.UsesOnce use) : ∀ c ∈ (step use s e).clients, Orderly use c := by
  intro c hc
  cases e with
  | arrive actions =>
      rcases List.mem_append.mp hc with hc | hc
      · exact h c hc
      · rw [List.mem_singleton.mp hc]
        exact .idle he
  | act i =>
      simp only [step] at hc
      cases hi : s.clients[i]? with
      | none =>
          rw [hi] at hc
          exact h c hc
      | some d =>
          rw [hi] at hc
          rcases List.mem_or_eq_of_mem_set hc with hc | rfl
          · exact h c hc
          · exact actOn_orderly use (h d (List.mem_of_getElem? hi)) s.free

end Step

/-! ## Where an item is -/

section Places

variable {α ι : Type*} [DecidableEq ι] (use : α → Option Use)

def Client.Holds (c : Client α ι) (x : ι) : Prop := c.item = some x ∧ c.returned = 0

instance (c : Client α ι) (x : ι) : Decidable (c.Holds x) :=
  inferInstanceAs (Decidable (_ ∧ _))

def places (x : ι) (s : State α ι) : Nat :=
  s.free.count x + s.clients.countP fun c => c.Holds x

def holdCount (x : ι) (c : Client α ι) : Nat := if c.Holds x then 1 else 0

theorem actOn_places {c : Client α ι} (h : Orderly use c) (free : List ι) (x : ι) :
    (actOn use free c).1.count x + holdCount x (actOn use free c).2 =
      free.count x + holdCount x c := by
  rcases actOn_cases use h free with ⟨todo, hact, -⟩ |
    ⟨todo, y, rest, rfl, hitem, hact, -⟩ | ⟨todo, y, hitem, hreturned, hact, -⟩
  · rw [hact]
    rfl
  · rw [hact]
    by_cases hy : y = x <;> simp [holdCount, Client.Holds, hitem, hy]
  · rw [hact]
    by_cases hy : y = x <;> simp [holdCount, Client.Holds, hitem, hreturned, hy]

theorem step_places {s : State α ι} (h : ∀ c ∈ s.clients, Orderly use c) (e : Event α)
    (x : ι) : places x (step use s e) = places x s := by
  cases e with
  | arrive actions =>
      have harriving : ¬ (Client.arriving actions : Client α ι).Holds x := by
        simp [Client.Holds, Client.arriving]
      simp [places, step, harriving]
  | act i =>
      simp only [step]
      cases hi : s.clients[i]? with
      | none => rfl
      | some c =>
          obtain ⟨hlt, hget⟩ := List.getElem?_eq_some_iff.mp hi
          have hc : c ∈ s.clients := List.mem_of_getElem? hi
          have hact := actOn_places use (h c hc) s.free x
          have hset := List.countP_set (p := fun c => decide (c.Holds x))
            (a := (actOn use s.free c).2) hlt
          have hle : holdCount x c ≤ s.clients.countP fun c => c.Holds x := by
            unfold holdCount
            split
            next hholds => exact List.countP_pos_iff.mpr ⟨c, hc, by simpa using hholds⟩
            next => omega
          rw [hget] at hset
          simp only [decide_eq_true_eq] at hset
          simp only [places, hset, holdCount] at hact hle ⊢
          omega

/-- Every item stays in one place as long as each client uses an item once. -/
theorem run_places {s : State α ι} (h : ∀ c ∈ s.clients, Orderly use c)
    {events : List (Event α)} (hevents : ∀ e ∈ events, e.UsesOnce use) :
    (∀ c ∈ (run use s events).clients, Orderly use c) ∧
      ∀ x, places x (run use s events) = places x s := by
  induction events generalizing s with
  | nil => exact ⟨h, fun _ => rfl⟩
  | cons e events ih =>
      rw [List.forall_mem_cons] at hevents
      obtain ⟨horderly, hplaces⟩ := ih (step_orderly use h hevents.1) hevents.2
      exact ⟨horderly, fun x => (hplaces x).trans (step_places use h e x)⟩

end Places

end JudgeVortex.Foundation.Pool
