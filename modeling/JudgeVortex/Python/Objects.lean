import JudgeVortex.Foundation.Heap
import JudgeVortex.Python.Value
import Mathlib.Data.List.Forall2
import Mathlib.Data.List.Perm.Subperm
import Mathlib.Order.Interval.Set.Basic

/-!
# Lists and dictionaries as objects

A list or a dictionary has an address, and a name or a field that holds it holds a
reference.  `HoldsIn` tells that a reference leads to a JSON value, through objects of a
set of addresses only; what happens to other objects does not change that value.
-/

namespace JudgeVortex.Python

open JudgeVortex.Foundation

inductive Scalar where
  | null
  | bool (b : Bool)
  | int (n : Int)
  | float (x : PyFloat)
  | str (s : String)

def Scalar.toJson : Scalar → Json
  | .null => .null
  | .bool b => .bool b
  | .int n => .int n
  | .float x => .float x
  | .str s => .str s

inductive Slot where
  | scalar (value : Scalar)
  | ref (address : Nat)

inductive PyObject where
  | list (items : List Slot)
  | dict (fields : List (String × Slot))

def Slot.refs : Slot → List Nat
  | .scalar _ => []
  | .ref a => [a]

def PyObject.refs : PyObject → List Nat
  | .list items => items.flatMap Slot.refs
  | .dict fields => fields.flatMap fun entry => entry.2.refs

abbrev PyHeap := List PyObject

def slotField? (fields : List (String × Slot)) (key : String) : Option Slot :=
  (fields.reverse.find? fun entry => entry.1 == key).map Prod.snd

/-! ## The value behind a reference -/

section Holds

variable (heap : PyHeap) (P : Set Nat)

mutual

def HoldsIn : Json → Slot → Prop
  | value, .scalar scalar => value = scalar.toJson
  | .arr items, .ref a =>
      a ∈ P ∧ ∃ slots, heap[a]? = some (.list slots) ∧ HoldsItems items slots
  | .obj fields, .ref a =>
      a ∈ P ∧ ∃ slots, heap[a]? = some (.dict slots) ∧ HoldsFields fields slots
  | .null, .ref _ | .bool _, .ref _ | .int _, .ref _ | .float _, .ref _ | .str _, .ref _ => False

def HoldsItems : List Json → List Slot → Prop
  | [], [] => True
  | item :: items, slot :: slots => HoldsIn item slot ∧ HoldsItems items slots
  | [], _ :: _ | _ :: _, [] => False

def HoldsFields : List (String × Json) → List (String × Slot) → Prop
  | [], [] => True
  | (key, value) :: fields, (key', slot) :: slots =>
      key = key' ∧ HoldsIn value slot ∧ HoldsFields fields slots
  | [], _ :: _ | _ :: _, [] => False

end

end Holds

section Frame

variable {heap heap' : PyHeap} {P Q : Set Nat}

@[simp] theorem holdsIn_scalar {value : Json} {scalar : Scalar} :
    HoldsIn heap P value (.scalar scalar) ↔ value = scalar.toJson := by
  cases value <;> rw [HoldsIn]

theorem HoldsIn.ref_cases {value : Json} {a : Nat} (h : HoldsIn heap P value (.ref a)) :
    (∃ items, value = .arr items) ∨ ∃ fields, value = .obj fields := by
  cases value with
  | arr items => exact .inl ⟨items, rfl⟩
  | obj fields => exact .inr ⟨fields, rfl⟩
  | null | bool | int | float | str => rw [HoldsIn] at h; exact h.elim

mutual

/-- The objects of a value may be any of a larger set, and objects may come or change as
long as these stay. -/
theorem HoldsIn.mono (hsub : P ⊆ Q)
    (hkeep : ∀ a ∈ P, ∀ object, heap[a]? = some object → heap'[a]? = some object) :
    ∀ {value : Json} {slot : Slot}, HoldsIn heap P value slot → HoldsIn heap' Q value slot
  | _, .scalar _, h => holdsIn_scalar.mpr (holdsIn_scalar.mp h)
  | .arr _, .ref _, ⟨ha, slots, hobject, hitems⟩ =>
      ⟨hsub ha, slots, hkeep _ ha _ hobject, hitems.mono hsub hkeep⟩
  | .obj _, .ref _, ⟨ha, slots, hobject, hfields⟩ =>
      ⟨hsub ha, slots, hkeep _ ha _ hobject, hfields.mono hsub hkeep⟩

theorem HoldsItems.mono (hsub : P ⊆ Q)
    (hkeep : ∀ a ∈ P, ∀ object, heap[a]? = some object → heap'[a]? = some object) :
    ∀ {items : List Json} {slots : List Slot}, HoldsItems heap P items slots →
      HoldsItems heap' Q items slots
  | [], [], _ => trivial
  | _ :: _, _ :: _, h => ⟨h.1.mono hsub hkeep, h.2.mono hsub hkeep⟩

theorem HoldsFields.mono (hsub : P ⊆ Q)
    (hkeep : ∀ a ∈ P, ∀ object, heap[a]? = some object → heap'[a]? = some object) :
    ∀ {fields : List (String × Json)} {slots : List (String × Slot)},
      HoldsFields heap P fields slots → HoldsFields heap' Q fields slots
  | [], [], _ => trivial
  | (_, _) :: _, (_, _) :: _, h => ⟨h.1, h.2.1.mono hsub hkeep, h.2.2.mono hsub hkeep⟩

end

theorem HoldsIn.grow (hsub : P ⊆ Q) (hgrow : heap <+: heap') {value : Json} {slot : Slot}
    (h : HoldsIn heap P value slot) : HoldsIn heap' Q value slot :=
  h.mono hsub fun _ _ _ hobject => getElem?_eq_some_of_grown hgrow hobject

theorem HoldsItems.grow (hsub : P ⊆ Q) (hgrow : heap <+: heap') {items : List Json}
    {slots : List Slot} (h : HoldsItems heap P items slots) : HoldsItems heap' Q items slots :=
  h.mono hsub fun _ _ _ hobject => getElem?_eq_some_of_grown hgrow hobject

theorem HoldsFields.grow (hsub : P ⊆ Q) (hgrow : heap <+: heap')
    {fields : List (String × Json)} {slots : List (String × Slot)}
    (h : HoldsFields heap P fields slots) : HoldsFields heap' Q fields slots :=
  h.mono hsub fun _ _ _ hobject => getElem?_eq_some_of_grown hgrow hobject

mutual

theorem HoldsIn.unique : ∀ {value other : Json} {slot : Slot}, HoldsIn heap P value slot →
    HoldsIn heap Q other slot → value = other
  | _, _, .scalar _, h, h' => (holdsIn_scalar.mp h).trans (holdsIn_scalar.mp h').symm
  | .arr _, .arr _, .ref _, ⟨_, slots, hobject, hitems⟩, ⟨_, slots', hobject', hitems'⟩ => by
      obtain rfl : slots = slots' := by simpa [hobject] using hobject'
      rw [hitems.unique hitems']
  | .obj _, .obj _, .ref _, ⟨_, slots, hobject, hfields⟩, ⟨_, slots', hobject', hfields'⟩ => by
      obtain rfl : slots = slots' := by simpa [hobject] using hobject'
      rw [hfields.unique hfields']
  | .arr _, .obj _, .ref _, ⟨_, _, hobject, _⟩, ⟨_, _, hobject', _⟩
  | .obj _, .arr _, .ref _, ⟨_, _, hobject, _⟩, ⟨_, _, hobject', _⟩ => by
      simp [hobject] at hobject'

theorem HoldsItems.unique : ∀ {items others : List Json} {slots : List Slot},
    HoldsItems heap P items slots → HoldsItems heap Q others slots → items = others
  | [], [], [], _, _ => rfl
  | _ :: _, _ :: _, _ :: _, h, h' => by rw [h.1.unique h'.1, h.2.unique h'.2]
  | [], _ :: _, [], _, h | _ :: _, [], [], h, _ => h.elim
  | [], _ :: _, _ :: _, h, _ | _ :: _, [], _ :: _, _, h => h.elim

theorem HoldsFields.unique : ∀ {fields others : List (String × Json)}
    {slots : List (String × Slot)}, HoldsFields heap P fields slots →
      HoldsFields heap Q others slots → fields = others
  | [], [], [], _, _ => rfl
  | (_, _) :: _, (_, _) :: _, (_, _) :: _, h, h' => by
      rw [h.1, h'.1, h.2.1.unique h'.2.1, h.2.2.unique h'.2.2]
  | [], _ :: _, [], _, h | _ :: _, [], [], h, _ => h.elim
  | [], _ :: _, _ :: _, h, _ | _ :: _, [], _ :: _, _, h => h.elim

end

end Frame

/-! ## Depth -/

mutual

def Json.depth : Json → Nat
  | .arr items => Json.depthItems items + 1
  | .obj fields => Json.depthFields fields + 1
  | .null | .bool _ | .int _ | .float _ | .str _ => 0

def Json.depthItems : List Json → Nat
  | [] => 0
  | item :: items => max item.depth (Json.depthItems items)

def Json.depthFields : List (String × Json) → Nat
  | [] => 0
  | (_, value) :: fields => max value.depth (Json.depthFields fields)

end

section Depth

variable {heap : PyHeap} {P : Set Nat}

/-- Different objects inside each other, none of which holds more than `size`. -/
structure Nested (heap : PyHeap) (P : Set Nat) (size depth : Nat) (path : List Nat) : Prop where
  length : path.length = depth
  nodup : path.Nodup
  holds : ∀ a ∈ path, ∃ value, HoldsIn heap P value (.ref a) ∧ sizeOf value ≤ size

theorem Nested.mono {size size' depth : Nat} {path : List Nat}
    (h : Nested heap P size depth path) (hle : size ≤ size') : Nested heap P size' depth path :=
  ⟨h.length, h.nodup, fun a ha =>
    (h.holds a ha).imp fun _ hvalue => ⟨hvalue.1, hvalue.2.trans hle⟩⟩

theorem Nested.cons {size depth a : Nat} {path : List Nat} {value : Json}
    (h : Nested heap P size depth path) (hvalue : HoldsIn heap P value (.ref a))
    (hlt : size < sizeOf value) : Nested heap P (sizeOf value) (depth + 1) (a :: path) := by
  refine ⟨by rw [List.length_cons, h.length], List.nodup_cons.mpr ⟨?_, h.nodup⟩, ?_⟩
  · -- The object would hold a smaller value as well.
    intro hmem
    obtain ⟨other, hother, hle⟩ := h.holds a hmem
    rw [hvalue.unique hother] at hlt
    omega
  · intro b hb
    rcases List.mem_cons.mp hb with rfl | hb
    · exact ⟨value, hvalue, le_refl _⟩
    · exact (h.mono hlt.le).holds b hb

mutual

theorem HoldsIn.exists_nested : ∀ {value : Json} {slot : Slot}, HoldsIn heap P value slot →
    ∃ path, Nested heap P (sizeOf value) value.depth path
  | .arr items, .ref a, h => by
      obtain ⟨path, hpath⟩ := h.2.choose_spec.2.exists_nested
      exact ⟨a :: path, hpath.cons h (by simp)⟩
  | .obj fields, .ref a, h => by
      obtain ⟨path, hpath⟩ := h.2.choose_spec.2.exists_nested
      exact ⟨a :: path, hpath.cons h (by simp)⟩
  | .null, .scalar _, _ | .bool _, .scalar _, _ | .int _, .scalar _, _ | .float _, .scalar _, _
  | .str _, .scalar _, _ => ⟨[], rfl, .nil, nofun⟩
  | .arr _, .scalar scalar, h | .obj _, .scalar scalar, h => by
      cases scalar <;> simp [Scalar.toJson] at h

theorem HoldsItems.exists_nested : ∀ {items : List Json} {slots : List Slot},
    HoldsItems heap P items slots →
      ∃ path, Nested heap P (sizeOf items) (Json.depthItems items) path
  | [], [], _ => ⟨[], rfl, .nil, nofun⟩
  | item :: items, _ :: _, h => by
      rw [Json.depthItems]
      rcases max_choice item.depth (Json.depthItems items) with hmax | hmax
      · obtain ⟨path, hpath⟩ := h.1.exists_nested
        rw [hmax]
        exact ⟨path, hpath.mono (by simp; omega)⟩
      · obtain ⟨path, hpath⟩ := h.2.exists_nested
        rw [hmax]
        exact ⟨path, hpath.mono (by simp)⟩

theorem HoldsFields.exists_nested : ∀ {fields : List (String × Json)}
    {slots : List (String × Slot)}, HoldsFields heap P fields slots →
      ∃ path, Nested heap P (sizeOf fields) (Json.depthFields fields) path
  | [], [], _ => ⟨[], rfl, .nil, nofun⟩
  | (_, value) :: fields, (_, _) :: _, h => by
      rw [Json.depthFields]
      rcases max_choice value.depth (Json.depthFields fields) with hmax | hmax
      · obtain ⟨path, hpath⟩ := h.2.1.exists_nested
        rw [hmax]
        exact ⟨path, hpath.mono (by simp; omega)⟩
      · obtain ⟨path, hpath⟩ := h.2.2.exists_nested
        rw [hmax]
        exact ⟨path, hpath.mono (by simp)⟩

end

theorem HoldsIn.lt_length {value : Json} {a : Nat} (h : HoldsIn heap P value (.ref a)) :
    a ∈ P ∧ a < heap.length := by
  rcases h.ref_cases with ⟨items, rfl⟩ | ⟨fields, rfl⟩
  · obtain ⟨ha, slots, hobject, -⟩ := h
    exact ⟨ha, (List.getElem?_eq_some_iff.mp hobject).1⟩
  · obtain ⟨ha, slots, hobject, -⟩ := h
    exact ⟨ha, (List.getElem?_eq_some_iff.mp hobject).1⟩

theorem HoldsIn.depth_le {value : Json} {slot : Slot} (h : HoldsIn heap P value slot) :
    value.depth ≤ heap.length := by
  obtain ⟨path, hpath⟩ := h.exists_nested
  have hsub : path ⊆ List.range heap.length := by
    intro a ha
    obtain ⟨other, hother, -⟩ := hpath.holds a ha
    exact List.mem_range.mpr hother.lt_length.2
  have hle := (List.subperm_of_subset hpath.nodup hsub).length_le
  rwa [hpath.length, List.length_range] at hle

end Depth

/-! ## New objects -/

mutual

def build (heap : PyHeap) : Json → PyHeap × Slot
  | .null => (heap, .scalar .null)
  | .bool b => (heap, .scalar (.bool b))
  | .int n => (heap, .scalar (.int n))
  | .float x => (heap, .scalar (.float x))
  | .str s => (heap, .scalar (.str s))
  | .arr items =>
      let (heap, slots) := buildItems heap items
      (heap ++ [.list slots], .ref heap.length)
  | .obj fields =>
      let (heap, slots) := buildFields heap fields
      (heap ++ [.dict slots], .ref heap.length)

def buildItems (heap : PyHeap) : List Json → PyHeap × List Slot
  | [] => (heap, [])
  | item :: items =>
      let (heap, slot) := build heap item
      let (heap, slots) := buildItems heap items
      (heap, slot :: slots)

def buildFields (heap : PyHeap) : List (String × Json) → PyHeap × List (String × Slot)
  | [] => (heap, [])
  | (key, value) :: fields =>
      let (heap, slot) := build heap value
      let (heap, slots) := buildFields heap fields
      (heap, (key, slot) :: slots)

end

/-! ### What is built -/

section Build

mutual

theorem prefix_build : ∀ (heap : PyHeap) (value : Json), heap <+: (build heap value).1
  | heap, .arr items => (prefix_buildItems heap items).trans (List.prefix_append _ _)
  | heap, .obj fields => (prefix_buildFields heap fields).trans (List.prefix_append _ _)
  | _, .null | _, .bool _ | _, .int _ | _, .float _ | _, .str _ => List.prefix_rfl

theorem prefix_buildItems : ∀ (heap : PyHeap) (items : List Json),
    heap <+: (buildItems heap items).1
  | _, [] => List.prefix_rfl
  | heap, item :: items => (prefix_build heap item).trans (prefix_buildItems _ items)

theorem prefix_buildFields : ∀ (heap : PyHeap) (fields : List (String × Json)),
    heap <+: (buildFields heap fields).1
  | _, [] => List.prefix_rfl
  | heap, (_, value) :: fields => (prefix_build heap value).trans (prefix_buildFields _ fields)

end

def newIn (heap heap' : PyHeap) : Set Nat := Set.Ico heap.length heap'.length

variable {heap heap₁ heap₂ heap₃ : PyHeap}

theorem newIn_subset (h₁ : heap <+: heap₁) (h₃ : heap₂ <+: heap₃) :
    newIn heap₁ heap₂ ⊆ newIn heap heap₃ :=
  Set.Ico_subset_Ico h₁.length_le h₃.length_le

theorem length_mem_newIn (h : heap <+: heap₁) (object : PyObject) :
    heap₁.length ∈ newIn heap (heap₁ ++ [object]) := by
  refine ⟨h.length_le, ?_⟩
  rw [List.length_append, List.length_singleton]
  exact Nat.lt_succ_self _

mutual

theorem holdsIn_build : ∀ (heap : PyHeap) (value : Json),
    HoldsIn (build heap value).1 (newIn heap (build heap value).1) value (build heap value).2
  | heap, .arr items =>
      ⟨length_mem_newIn (prefix_buildItems heap items) _, _, List.getElem?_concat_length,
        (holdsItems_buildItems heap items).grow
          (newIn_subset List.prefix_rfl (List.prefix_append _ _)) (List.prefix_append _ _)⟩
  | heap, .obj fields =>
      ⟨length_mem_newIn (prefix_buildFields heap fields) _, _, List.getElem?_concat_length,
        (holdsFields_buildFields heap fields).grow
          (newIn_subset List.prefix_rfl (List.prefix_append _ _)) (List.prefix_append _ _)⟩
  | _, .null | _, .bool _ | _, .int _ | _, .float _ | _, .str _ => rfl

theorem holdsItems_buildItems : ∀ (heap : PyHeap) (items : List Json),
    HoldsItems (buildItems heap items).1 (newIn heap (buildItems heap items).1) items
      (buildItems heap items).2
  | _, [] => trivial
  | heap, item :: items => by
      have hfirst := prefix_build heap item
      have hrest := prefix_buildItems (build heap item).1 items
      exact ⟨(holdsIn_build heap item).grow (newIn_subset List.prefix_rfl hrest) hrest,
        (holdsItems_buildItems _ items).grow (newIn_subset hfirst List.prefix_rfl)
          List.prefix_rfl⟩

theorem holdsFields_buildFields : ∀ (heap : PyHeap) (fields : List (String × Json)),
    HoldsFields (buildFields heap fields).1 (newIn heap (buildFields heap fields).1) fields
      (buildFields heap fields).2
  | _, [] => trivial
  | heap, (_, value) :: fields => by
      have hfirst := prefix_build heap value
      have hrest := prefix_buildFields (build heap value).1 fields
      exact ⟨rfl, (holdsIn_build heap value).grow (newIn_subset List.prefix_rfl hrest) hrest,
        (holdsFields_buildFields _ fields).grow (newIn_subset hfirst List.prefix_rfl)
          List.prefix_rfl⟩

end

def SlotClosed (heap heap' : PyHeap) (slot : Slot) : Prop :=
  ∀ r ∈ slot.refs, r ∈ newIn heap heap'

theorem SlotClosed.grow {slot : Slot} (h : SlotClosed heap₁ heap₂ slot) (h₁ : heap <+: heap₁)
    (h₃ : heap₂ <+: heap₃) : SlotClosed heap heap₃ slot :=
  fun r hr => newIn_subset h₁ h₃ (h r hr)

mutual

theorem closedFrom_build : ∀ (heap : PyHeap) (value : Json),
    ClosedFrom PyObject.refs heap.length (build heap value).1 ∧
      SlotClosed heap (build heap value).1 (build heap value).2
  | heap, .arr items => by
      obtain ⟨hclosed, hslots⟩ := closedFrom_buildItems heap items
      refine ⟨hclosed.concat fun r hr => ?_, fun r hr => ?_⟩
      · obtain ⟨slot, hslot, hr⟩ := List.mem_flatMap.mp hr
        exact hslots slot hslot r hr
      · obtain rfl := List.mem_singleton.mp hr
        exact length_mem_newIn (prefix_buildItems heap items) _
  | heap, .obj fields => by
      obtain ⟨hclosed, hslots⟩ := closedFrom_buildFields heap fields
      refine ⟨hclosed.concat fun r hr => ?_, fun r hr => ?_⟩
      · obtain ⟨entry, hentry, hr⟩ := List.mem_flatMap.mp hr
        exact hslots entry hentry r hr
      · obtain rfl := List.mem_singleton.mp hr
        exact length_mem_newIn (prefix_buildFields heap fields) _
  | _, .null | _, .bool _ | _, .int _ | _, .float _ | _, .str _ => ⟨closedFrom_length, nofun⟩

theorem closedFrom_buildItems : ∀ (heap : PyHeap) (items : List Json),
    ClosedFrom PyObject.refs heap.length (buildItems heap items).1 ∧
      ∀ slot ∈ (buildItems heap items).2, SlotClosed heap (buildItems heap items).1 slot
  | _, [] => ⟨closedFrom_length, nofun⟩
  | heap, item :: items => by
      obtain ⟨hfirst, hslot⟩ := closedFrom_build heap item
      obtain ⟨hrest, hslots⟩ := closedFrom_buildItems (build heap item).1 items
      have hgrow := prefix_build heap item
      have hgrow' := prefix_buildItems (build heap item).1 items
      refine ⟨hfirst.trans hgrow' hgrow.length_le hrest, fun slot hmem => ?_⟩
      rcases List.mem_cons.mp hmem with rfl | hmem
      · exact hslot.grow List.prefix_rfl hgrow'
      · exact (hslots slot hmem).grow hgrow List.prefix_rfl

theorem closedFrom_buildFields : ∀ (heap : PyHeap) (fields : List (String × Json)),
    ClosedFrom PyObject.refs heap.length (buildFields heap fields).1 ∧
      ∀ entry ∈ (buildFields heap fields).2,
        SlotClosed heap (buildFields heap fields).1 entry.2
  | _, [] => ⟨closedFrom_length, nofun⟩
  | heap, (_, value) :: fields => by
      obtain ⟨hfirst, hslot⟩ := closedFrom_build heap value
      obtain ⟨hrest, hslots⟩ := closedFrom_buildFields (build heap value).1 fields
      have hgrow := prefix_build heap value
      have hgrow' := prefix_buildFields (build heap value).1 fields
      refine ⟨hfirst.trans hgrow' hgrow.length_le hrest, fun entry hmem => ?_⟩
      rcases List.mem_cons.mp hmem with rfl | hmem
      · exact hslot.grow List.prefix_rfl hgrow'
      · exact (hslots entry hmem).grow hgrow List.prefix_rfl

end

end Build

/-! ## Copies -/

def copyItems (copy : PyHeap → Slot → Option (PyHeap × Slot)) (heap : PyHeap) :
    List Slot → Option (PyHeap × List Slot)
  | [] => some (heap, [])
  | slot :: slots => do
      let (heap, slot) ← copy heap slot
      let (heap, slots) ← copyItems copy heap slots
      some (heap, slot :: slots)

def copyFields (copy : PyHeap → Slot → Option (PyHeap × Slot)) (heap : PyHeap) :
    List (String × Slot) → Option (PyHeap × List (String × Slot))
  | [] => some (heap, [])
  | (key, slot) :: slots => do
      let (heap, slot) ← copy heap slot
      let (heap, slots) ← copyFields copy heap slots
      some (heap, (key, slot) :: slots)

/-- `deepcopy` of a structure without cycles: it goes at most `depth` objects deep. -/
def copyWithin : Nat → PyHeap → Slot → Option (PyHeap × Slot)
  | _, heap, .scalar value => some (heap, .scalar value)
  | 0, _, .ref _ => none
  | depth + 1, heap, .ref a =>
      match heap[a]? with
      | none => none
      | some (.list slots) => do
          let (heap, slots) ← copyItems (copyWithin depth) heap slots
          some (heap ++ [.list slots], .ref heap.length)
      | some (.dict slots) => do
          let (heap, slots) ← copyFields (copyWithin depth) heap slots
          some (heap ++ [.dict slots], .ref heap.length)

def deepcopy (heap : PyHeap) (slot : Slot) : Option (PyHeap × Slot) :=
  copyWithin heap.length heap slot

section Copies

variable {P : Set Nat}

mutual

theorem copyWithin_eq_build : ∀ {value : Json} {heap : PyHeap} {slot : Slot} {depth : Nat},
    HoldsIn heap P value slot → value.depth ≤ depth →
      copyWithin depth heap slot = some (build heap value)
  | .arr items, heap, .ref a, depth + 1, ⟨_, slots, hobject, hitems⟩, hdepth => by
      have hcopy := copyItems_eq_build hitems (Nat.le_of_succ_le_succ hdepth)
      simp only [copyWithin, hobject, hcopy]
      rfl
  | .obj fields, heap, .ref a, depth + 1, ⟨_, slots, hobject, hfields⟩, hdepth => by
      have hcopy := copyFields_eq_build hfields (Nat.le_of_succ_le_succ hdepth)
      simp only [copyWithin, hobject, hcopy]
      rfl
  | value, heap, .scalar scalar, depth, h, _ => by
      obtain rfl := holdsIn_scalar.mp h
      cases scalar <;> simp [copyWithin, Scalar.toJson, build]

theorem copyItems_eq_build : ∀ {items : List Json} {heap : PyHeap} {slots : List Slot}
    {depth : Nat}, HoldsItems heap P items slots → Json.depthItems items ≤ depth →
      copyItems (copyWithin depth) heap slots = some (buildItems heap items)
  | [], _, [], _, _, _ => rfl
  | item :: items, heap, _ :: _, _, ⟨hitem, hitems⟩, hdepth => by
      obtain ⟨hfirst, hrest⟩ := max_le_iff.mp hdepth
      have hgrown := hitems.grow subset_rfl (prefix_build heap item)
      simp only [copyItems, copyWithin_eq_build hitem hfirst, Option.bind_eq_bind,
        Option.bind_some, copyItems_eq_build hgrown hrest]
      rfl

theorem copyFields_eq_build : ∀ {fields : List (String × Json)} {heap : PyHeap}
    {slots : List (String × Slot)} {depth : Nat}, HoldsFields heap P fields slots →
      Json.depthFields fields ≤ depth →
      copyFields (copyWithin depth) heap slots = some (buildFields heap fields)
  | [], _, [], _, _, _ => rfl
  | (key, value) :: fields, heap, (_, _) :: _, _, ⟨rfl, hvalue, hfields⟩, hdepth => by
      obtain ⟨hfirst, hrest⟩ := max_le_iff.mp hdepth
      have hgrown := hfields.grow subset_rfl (prefix_build heap value)
      simp only [copyFields, copyWithin_eq_build hvalue hfirst, Option.bind_eq_bind,
        Option.bind_some, copyFields_eq_build hgrown hrest]
      rfl

end

/-- A copy is built anew, from the value that the original holds. -/
theorem deepcopy_eq_build {heap : PyHeap} {value : Json} {slot : Slot}
    (h : HoldsIn heap P value slot) : deepcopy heap slot = some (build heap value) :=
  copyWithin_eq_build h h.depth_le

end Copies

/-! ## Fields -/

def dictFields? (heap : PyHeap) : Slot → Option (List (String × Slot))
  | .scalar _ => none
  | .ref a =>
      match heap[a]? with
      | some (.dict fields) => some fields
      | _ => none

section Fields

variable {heap : PyHeap} {P : Set Nat} {fields : Dict} {slots : List (String × Slot)}

theorem holdsFields_iff_forall₂ : ∀ {fields : List (String × Json)}
    {slots : List (String × Slot)}, HoldsFields heap P fields slots ↔
      List.Forall₂ (fun field entry => field.1 = entry.1 ∧ HoldsIn heap P field.2 entry.2)
        fields slots
  | [], [] => iff_of_true trivial .nil
  | (_, _) :: _, (_, _) :: _ => by
      rw [HoldsFields, List.forall₂_cons, holdsFields_iff_forall₂, and_assoc]
  | [], _ :: _ | _ :: _, [] => iff_of_false id nofun

theorem HoldsFields.keys_eq (h : HoldsFields heap P fields slots) :
    fields.map Prod.fst = slots.map Prod.fst := by
  rw [holdsFields_iff_forall₂] at h
  induction h with
  | nil => rfl
  | cons hentry _ ih => rw [List.map_cons, List.map_cons, hentry.1, ih]

theorem HoldsFields.lookup (h : HoldsFields heap P fields slots) (key : String) :
    (field? fields key = none ∧ slotField? slots key = none) ∨
      ∃ value slot, field? fields key = some value ∧ slotField? slots key = some slot ∧
        HoldsIn heap P value slot := by
  have hreverse := List.rel_reverse (holdsFields_iff_forall₂.mp h)
  rw [field?, slotField?]
  generalize fields.reverse = values, slots.reverse = entries at hreverse ⊢
  induction hreverse with
  | nil => exact .inl ⟨rfl, rfl⟩
  | @cons field entry _ _ hentry _ ih =>
      rw [List.find?_cons, List.find?_cons, ← hentry.1]
      cases hkey : field.1 == key with
      | true => exact .inr ⟨_, _, rfl, rfl, hentry.2⟩
      | false => exact ih

theorem HoldsFields.setItem {value : Json} {slot : Slot} (h : HoldsFields heap P fields slots)
    (hvalue : HoldsIn heap P value slot) (key : String) :
    HoldsFields heap P (setItem fields key value) (setItem slots key slot) := by
  rw [Python.setItem, Python.setItem, h.keys_eq]
  rw [holdsFields_iff_forall₂] at h ⊢
  split
  · rw [List.forall₂_map_left_iff, List.forall₂_map_right_iff]
    refine h.imp fun field entry hentry => ?_
    rw [hentry.1]
    split
    · exact ⟨rfl, hvalue⟩
    · exact hentry
  · exact List.rel_append h (.cons ⟨rfl, hvalue⟩ .nil)

theorem HoldsIn.dictFields?_eq {a : Nat} (h : HoldsIn heap P (.obj fields) (.ref a)) :
    a ∈ P ∧ ∃ slots, dictFields? heap (.ref a) = some slots ∧ HoldsFields heap P fields slots := by
  obtain ⟨ha, slots, hobject, hfields⟩ := h
  exact ⟨ha, slots, by rw [dictFields?, hobject], hfields⟩

theorem dictFields?_of_grown {heap' : PyHeap} (hgrow : heap <+: heap') {slot : Slot}
    (h : dictFields? heap slot = some slots) : dictFields? heap' slot = some slots := by
  cases slot with
  | scalar => cases h
  | ref a =>
      rw [dictFields?] at h ⊢
      split at h
      next fields hobject =>
        rw [getElem?_eq_some_of_grown hgrow hobject]
        exact h
      next => cases h

theorem HoldsIn.obj_cases {slot : Slot} (h : HoldsIn heap P (.obj fields) slot) :
    ∃ a, slot = .ref a := by
  cases slot with
  | ref a => exact ⟨a, rfl⟩
  | scalar scalar => cases scalar <;> simp [Scalar.toJson] at h

theorem HoldsIn.dictFields?_isSome_iff {value : Json} {slot : Slot}
    (h : HoldsIn heap P value slot) :
    (dictFields? heap slot).isSome ↔ ∃ fields, value = .obj fields := by
  cases slot with
  | scalar scalar =>
      obtain rfl := holdsIn_scalar.mp h
      cases scalar <;> simp [dictFields?, Scalar.toJson]
  | ref a =>
      rcases h.ref_cases with ⟨items, rfl⟩ | ⟨fields, rfl⟩
      · obtain ⟨-, slots, hobject, -⟩ := h
        simp [dictFields?, hobject]
      · obtain ⟨-, slots, hdict, -⟩ := h.dictFields?_eq
        simp [hdict]

end Fields

end JudgeVortex.Python
