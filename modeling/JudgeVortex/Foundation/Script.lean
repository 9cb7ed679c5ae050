/-!
# Scripts: code that logs what it does and may raise

A script is one run of effectful code with the answers of its surroundings already
filled in: the actions in the order in which they happened, and the value returned or
the exception raised.  `Preceded` says that one kind of action happens only after
another kind, and the rules below prove it block by block.
-/

namespace JudgeVortex.Foundation

structure Script (α ε β : Type) where
  log : List α
  result : Except ε β

namespace Script

variable {α ε β γ : Type}

def emit (a : α) : Script α ε Unit := ⟨[a], .ok ()⟩

def ofExcept (result : Except ε β) : Script α ε β := ⟨[], result⟩

def fail (error : ε) : Script α ε β := ⟨[], .error error⟩

def andThen (x : Script α ε β) (f : β → Script α ε γ) : Script α ε γ :=
  match x.result with
  | .error error => ⟨x.log, .error error⟩
  | .ok b => ⟨x.log ++ (f b).log, (f b).result⟩

instance : Monad (Script α ε) where
  pure b := ⟨[], .ok b⟩
  bind := andThen

def tryExcept (x : Script α ε β) (handler : ε → Script α ε β) : Script α ε β :=
  match x.result with
  | .ok _ => x
  | .error error => ⟨x.log ++ (handler error).log, (handler error).result⟩

/-- `try … finally`; an exception of the last block replaces the outcome of the first. -/
def tryFinally (x : Script α ε β) (last : Script α ε Unit) : Script α ε β :=
  ⟨x.log ++ last.log,
    match last.result with
    | .error error => .error error
    | .ok () => x.result⟩

def relabel {α' ε' : Type} (action : α → α') (error : ε → ε') (x : Script α ε β) :
    Script α' ε' β :=
  ⟨x.log.map action, x.result.mapError error⟩

@[simp] theorem log_pure (b : β) : (pure b : Script α ε β).log = [] := rfl

@[simp] theorem result_pure (b : β) : (pure b : Script α ε β).result = .ok b := rfl

@[simp] theorem log_emit (a : α) : (emit a : Script α ε Unit).log = [a] := rfl

@[simp] theorem result_emit (a : α) : (emit a : Script α ε Unit).result = .ok () := rfl

@[simp] theorem log_ofExcept (result : Except ε β) :
    (ofExcept result : Script α ε β).log = [] := rfl

@[simp] theorem result_ofExcept (result : Except ε β) :
    (ofExcept result : Script α ε β).result = result := rfl

@[simp] theorem log_fail (error : ε) : (fail error : Script α ε β).log = [] := rfl

@[simp] theorem result_fail (error : ε) :
    (fail error : Script α ε β).result = .error error := rfl

theorem bind_of_ok {x : Script α ε β} {b : β} (h : x.result = .ok b)
    (f : β → Script α ε γ) : x >>= f = ⟨x.log ++ (f b).log, (f b).result⟩ := by
  simp only [bind, andThen, h]

theorem bind_of_error {x : Script α ε β} {error : ε} (h : x.result = .error error)
    (f : β → Script α ε γ) : x >>= f = ⟨x.log, .error error⟩ := by
  simp only [bind, andThen, h]

theorem bind_of_silent {x : Script α ε β} {b : β} (hlog : x.log = [])
    (h : x.result = .ok b) (f : β → Script α ε γ) : x >>= f = f b := by
  rw [bind_of_ok h, hlog, List.nil_append]

@[simp] theorem pure_bind (b : β) (f : β → Script α ε γ) : pure b >>= f = f b := rfl

@[simp] theorem ofExcept_ok_bind (b : β) (f : β → Script α ε γ) :
    (ofExcept (.ok b) : Script α ε β) >>= f = f b := rfl

theorem result_bind (x : Script α ε β) (f : β → Script α ε γ) :
    (x >>= f).result = x.result >>= fun b => (f b).result := by
  cases h : x.result with
  | error error => rw [bind_of_error h]; rfl
  | ok b => rw [bind_of_ok h]; rfl

theorem result_bind_ok_iff {x : Script α ε β} {f : β → Script α ε γ} {c : γ} :
    (x >>= f).result = .ok c ↔ ∃ b, x.result = .ok b ∧ (f b).result = .ok c := by
  cases h : x.result with
  | error error => simp [bind_of_error h]
  | ok b => simp [bind_of_ok h]

theorem result_relabel_ok_iff {α' ε' : Type} {action : α → α'} {error : ε → ε'}
    {x : Script α ε β} {b : β} :
    (x.relabel action error).result = .ok b ↔ x.result = .ok b := by
  rw [relabel]
  cases x.result with
  | error error => exact ⟨nofun, nofun⟩
  | ok found =>
      constructor
      · rintro ⟨⟩
        rfl
      · rintro ⟨⟩
        rfl

theorem tryExcept_of_ok {x : Script α ε β} {b : β} (h : x.result = .ok b)
    (handler : ε → Script α ε β) : tryExcept x handler = x := by
  simp only [tryExcept, h]

theorem tryExcept_of_error {x : Script α ε β} {error : ε} (h : x.result = .error error)
    (handler : ε → Script α ε β) :
    tryExcept x handler = ⟨x.log ++ (handler error).log, (handler error).result⟩ := by
  simp only [tryExcept, h]

theorem mem_log_bind_left {x : Script α ε β} {a : α} (h : a ∈ x.log)
    (f : β → Script α ε γ) : a ∈ (x >>= f).log := by
  cases hx : x.result with
  | error error => rwa [bind_of_error hx]
  | ok b =>
      rw [bind_of_ok hx]
      exact List.mem_append_left _ h

theorem mem_log_bind_right {x : Script α ε β} {b : β} (hx : x.result = .ok b)
    {f : β → Script α ε γ} {a : α} (h : a ∈ (f b).log) : a ∈ (x >>= f).log := by
  rw [bind_of_ok hx]
  exact List.mem_append_right _ h

theorem forall_log_bind {P : α → Prop} {x : Script α ε β} {f : β → Script α ε γ}
    (hx : ∀ a ∈ x.log, P a) (hf : ∀ b, x.result = .ok b → ∀ a ∈ (f b).log, P a) :
    ∀ a ∈ (x >>= f).log, P a := by
  cases h : x.result with
  | error error =>
      rw [bind_of_error h]
      exact hx
  | ok b =>
      rw [bind_of_ok h]
      intro a ha
      rcases List.mem_append.mp ha with ha | ha
      · exact hx a ha
      · exact hf b h a ha

theorem forall_log_tryFinally {P : α → Prop} {x : Script α ε β} {last : Script α ε Unit}
    (hx : ∀ a ∈ x.log, P a) (hlast : ∀ a ∈ last.log, P a) :
    ∀ a ∈ (x.tryFinally last).log, P a := by
  intro a ha
  rcases List.mem_append.mp ha with ha | ha
  · exact hx a ha
  · exact hlast a ha

theorem forall_log_tryExcept {P : α → Prop} {x : Script α ε β} {handler : ε → Script α ε β}
    (hx : ∀ a ∈ x.log, P a) (hhandler : ∀ error, ∀ a ∈ (handler error).log, P a) :
    ∀ a ∈ (x.tryExcept handler).log, P a := by
  cases h : x.result with
  | ok b => rwa [tryExcept_of_ok h]
  | error error =>
      rw [tryExcept_of_error h]
      intro a ha
      rcases List.mem_append.mp ha with ha | ha
      · exact hx a ha
      · exact hhandler error a ha

/-- If the first block returns only after a `P`, so do the two together. -/
theorem exists_log_bind {P : α → Prop} {x : Script α ε β} {f : β → Script α ε γ} {c : γ}
    (h : (x >>= f).result = .ok c)
    (hf : ∀ b, x.result = .ok b → (f b).result = .ok c → ∃ a ∈ (f b).log, P a) :
    ∃ a ∈ (x >>= f).log, P a := by
  cases hx : x.result with
  | error error =>
      rw [bind_of_error hx] at h
      cases h
  | ok b =>
      rw [bind_of_ok hx] at h ⊢
      obtain ⟨a, ha, hP⟩ := hf b hx h
      exact ⟨a, List.mem_append.mpr (.inr ha), hP⟩

/-! ### A script without some of its actions -/

/-- The scripts end alike, and the second logs what `keep` keeps of the first. -/
structure Forgets {α' : Type} (keep : α → Option α') (x : Script α ε β)
    (y : Script α' ε β) : Prop where
  log_eq : x.log.filterMap keep = y.log
  result_eq : x.result = y.result

section Forgets

variable {α' : Type} {keep : α → Option α'}

theorem Forgets.bind {x : Script α ε β} {y : Script α' ε β} {f : β → Script α ε γ}
    {g : β → Script α' ε γ} (hx : Forgets keep x y) (hf : ∀ b, Forgets keep (f b) (g b)) :
    Forgets keep (x >>= f) (y >>= g) := by
  obtain ⟨hlog, hresult⟩ := hx
  cases h : y.result with
  | error error =>
      rw [bind_of_error (hresult.trans h), bind_of_error h]
      exact ⟨hlog, rfl⟩
  | ok b =>
      rw [bind_of_ok (hresult.trans h), bind_of_ok h]
      refine ⟨?_, (hf b).result_eq⟩
      rw [List.filterMap_append, hlog, (hf b).log_eq]

theorem Forgets.tryFinally {x : Script α ε β} {y : Script α' ε β} {last : Script α ε Unit}
    {last' : Script α' ε Unit} (hx : Forgets keep x y) (hlast : Forgets keep last last') :
    Forgets keep (x.tryFinally last) (y.tryFinally last') := by
  constructor
  · simp only [Script.tryFinally]
    rw [List.filterMap_append, hx.log_eq, hlast.log_eq]
  · simp only [Script.tryFinally]
    rw [hx.result_eq, hlast.result_eq]

theorem forgets_ofExcept {x : Script α ε β} (h : ∀ a ∈ x.log, keep a = none) :
    Forgets keep x (.ofExcept x.result) :=
  ⟨List.filterMap_eq_nil_iff.mpr h, rfl⟩

end Forgets

end Script

/-! ## One kind of action before another -/

variable {α ε β γ : Type} {P Q : α → Prop}

def Preceded (P Q : α → Prop) (log : List α) : Prop :=
  ∀ before a after, log = before ++ a :: after → Q a → ∃ b ∈ before, P b

theorem preceded_of_forall_not {log : List α} (h : ∀ a ∈ log, ¬ Q a) : Preceded P Q log := by
  rintro before a after rfl hQ
  exact absurd hQ (h a (by simp))

theorem preceded_append {xs ys : List α} (hxs : Preceded P Q xs)
    (hys : Preceded P Q ys ∨ ∃ a ∈ xs, P a) : Preceded P Q (xs ++ ys) := by
  intro before a after hlog hQ
  rcases List.append_eq_append_iff.mp hlog with ⟨extra, rfl, hrest⟩ | ⟨extra, rfl, hrest⟩
  · -- The action lies in the second block.
    rcases hys with hys | ⟨b, hb, hP⟩
    · obtain ⟨b, hb, hP⟩ := hys extra a after hrest hQ
      exact ⟨b, List.mem_append.mpr (.inr hb), hP⟩
    · exact ⟨b, List.mem_append.mpr (.inl hb), hP⟩
  · cases extra with
    | nil =>
        rw [List.append_nil] at hys
        rw [List.nil_append] at hrest
        rcases hys with hys | hdone
        · obtain ⟨b, hb, -⟩ := hys [] a after hrest.symm hQ
          cases hb
        · exact hdone
    | cons head tail =>
        rw [List.cons_append, List.cons.injEq] at hrest
        obtain ⟨rfl, -⟩ := hrest
        exact hxs before a tail rfl hQ

theorem preceded_bind {x : Script α ε β} {f : β → Script α ε γ}
    (hx : Preceded P Q x.log)
    (hf : ∀ b, x.result = .ok b → Preceded P Q (f b).log ∨ ∃ a ∈ x.log, P a) :
    Preceded P Q (x >>= f).log := by
  cases h : x.result with
  | error error =>
      rw [Script.bind_of_error h]
      exact hx
  | ok b =>
      rw [Script.bind_of_ok h]
      exact preceded_append hx (hf b h)

theorem preceded_tryExcept {x : Script α ε β} {handler : ε → Script α ε β}
    (hx : Preceded P Q x.log)
    (hhandler : ∀ error, x.result = .error error → Preceded P Q (handler error).log) :
    Preceded P Q (x.tryExcept handler).log := by
  cases h : x.result with
  | ok b =>
      rw [Script.tryExcept_of_ok h]
      exact hx
  | error error =>
      rw [Script.tryExcept_of_error h]
      exact preceded_append hx (.inl (hhandler error h))

end JudgeVortex.Foundation
