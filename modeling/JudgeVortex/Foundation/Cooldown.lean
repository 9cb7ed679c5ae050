import Mathlib.Algebra.Order.Group.Defs
import Mathlib.Algebra.Order.Group.Unbundled.Basic
import Mathlib.Data.List.Basic

/-!
# Logs with a cooldown

A log of entries with a time, some of which have a key.  An entry that is added only while
its key is quiet lies more than the window behind every earlier one of its key.
-/

namespace JudgeVortex.Foundation

section Cooldown

variable {ε κ T : Type*} [AddCommGroup T] [LinearOrder T] (key : ε → Option κ)
  (time : ε → T) (window : T)

def Spaced (log : List ε) : Prop :=
  log.Pairwise fun a b => ∀ k, key a = some k → key b = some k → window < time b - time a

/-- No entry of the key is in the window that ends now. -/
def Quiet (now : T) (log : List ε) (k : κ) : Prop :=
  ∀ entry ∈ log, key entry = some k → time entry < now - window

variable {key time window} {log : List ε} {entry : ε} {now : T}

theorem Spaced.append_unkeyed (h : Spaced key time window log) (hkey : key entry = none) :
    Spaced key time window (log ++ [entry]) := by
  refine List.pairwise_append.mpr ⟨h, List.pairwise_singleton _ _, ?_⟩
  intro a _ b hb k _ hk
  rw [List.mem_singleton.mp hb, hkey] at hk
  cases hk

theorem Spaced.append_quiet [IsOrderedAddMonoid T] (h : Spaced key time window log)
    (hquiet : ∀ k, key entry = some k → Quiet key time window now log k)
    (hnow : now ≤ time entry) : Spaced key time window (log ++ [entry]) := by
  refine List.pairwise_append.mpr ⟨h, List.pairwise_singleton _ _, ?_⟩
  intro a ha b hb k hka hkb
  obtain rfl := List.mem_singleton.mp hb
  have hbefore : time a < now - window := hquiet k hkb a ha hka
  exact lt_sub_comm.mp (hbefore.trans_le (sub_le_sub_right hnow window))

end Cooldown

end JudgeVortex.Foundation
