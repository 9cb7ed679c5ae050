import Mathlib.Data.List.Basic

/-!
# Tasks

Tasks in the order in which they were started.  One of them goes on at a time, and none is
removed.
-/

namespace JudgeVortex.Foundation

variable {α : Type*} {tasks : List α} {k : ℕ} {goOn : α → α} {P : α → Prop}

theorem exists_mem_modify (h : ∃ task ∈ tasks, P task)
    (hkept : ∀ task, tasks[k]? = some task → P task → P (goOn task)) :
    ∃ task ∈ tasks.modify k goOn, P task := by
  obtain ⟨task, hmem, hP⟩ := h
  obtain ⟨i, hi⟩ := List.mem_iff_getElem?.mp hmem
  have hget : (tasks.modify k goOn)[i]? = some (if k = i then goOn task else task) := by
    rw [List.getElem?_modify, hi]
    rfl
  refine ⟨_, List.mem_of_getElem? hget, ?_⟩
  split
  next hki => exact hkept task (hki ▸ hi) hP
  next => exact hP

theorem map_getElem?_modify {β : Type*} {part : α → β} (h : ∀ task, part (goOn task) = part task)
    (tasks : List α) (k i : ℕ) :
    ((tasks.modify k goOn)[i]?).map part = (tasks[i]?).map part := by
  rw [List.getElem?_modify, Option.map_eq_map, Option.map_map]
  congr 1
  funext task
  rw [Function.comp_apply]
  split
  next => exact h task
  next => rfl

theorem forall_mem_modify (h : ∀ task ∈ tasks, P task)
    (hkept : ∀ task, tasks[k]? = some task → P task → P (goOn task)) :
    ∀ task ∈ tasks.modify k goOn, P task := by
  intro task hmem
  obtain ⟨i, hi⟩ := List.mem_iff_getElem?.mp hmem
  rw [List.getElem?_modify, Option.map_eq_map, Option.map_eq_some_iff] at hi
  obtain ⟨before, hbefore, rfl⟩ := hi
  have hP := h before (List.mem_of_getElem? hbefore)
  split
  next hki => exact hkept before (hki ▸ hbefore) hP
  next => exact hP

end JudgeVortex.Foundation
