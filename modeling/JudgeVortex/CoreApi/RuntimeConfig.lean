import JudgeVortex.CoreApi.Integrations
import JudgeVortex.Python.Objects
import Mathlib.Order.Defs.LinearOrder

/-!
# The runtime configuration and its cache

`_deep_merge` and `get_runtime_config` on objects: the defaults, the cached payload and
what callers have received are dictionaries with addresses, and callers may change theirs.
The clock counts seconds in any linear order with an addition.
-/

namespace JudgeVortex.CoreApi

open JudgeVortex.Foundation JudgeVortex.Python

/-! ## Merging objects -/

def storeItem (heap : PyHeap) (merged : Nat) (key : String) (slot : Slot) : Option PyHeap := do
  let fields ← dictFields? heap (.ref merged)
  some (heap.set merged (.dict (setItem fields key slot)))

/-- The loop of `_deep_merge` over the items of the override; `merge` is the call for
nested dictionaries. -/
def mergeItems (merge : PyHeap → Slot → Slot → Option (PyHeap × Nat)) (merged : Nat)
    (heap : PyHeap) : List (String × Slot) → Option PyHeap
  | [] => some heap
  | (key, slot) :: rest => do
      let fields ← dictFields? heap (.ref merged)
      let heap ←
        match slotField? fields key with
        | none => storeItem heap merged key slot
        | some old =>
            if (dictFields? heap slot).isSome ∧ (dictFields? heap old).isSome then do
              let (heap, inner) ← merge heap old slot
              storeItem heap merged key (.ref inner)
            else storeItem heap merged key slot
      mergeItems merge merged heap rest

def mergeWithin : Nat → PyHeap → Slot → Slot → Option (PyHeap × Nat)
  | 0, _, _, _ => none
  | depth + 1, heap, base, override => do
      let (heap, merged) ← deepcopy heap base
      let items ← dictFields? heap override
      match merged with
      | .scalar _ => none
      | .ref merged =>
          let heap ← mergeItems (mergeWithin depth) merged heap items
          some (heap, merged)

def deepMergeObjects (heap : PyHeap) (base override : Slot) : Option (PyHeap × Nat) :=
  mergeWithin heap.length heap base override

section Merging

theorem mergeValue_obj (inner fields : Dict) :
    mergeValue (some (.obj inner)) (.obj fields) = .obj (deepMerge inner fields) := by
  rw [mergeValue]

theorem mergeValue_of_not {old : Option Json} {value : Json}
    (h : ¬ ((∃ fields, value = .obj fields) ∧ ∃ inner, old = some (.obj inner))) :
    mergeValue old value = value := by
  cases value with
  | null | bool | int | float | str | arr => rw [mergeValue]; nofun
  | obj fields =>
      rw [mergeValue]
      rintro inner rfl
      exact h ⟨⟨fields, rfl⟩, inner, rfl⟩

variable {heap₀ heap heap' : PyHeap} {Q : Set Nat} {merged : Nat}

/-- In the course of a merge that began with `heap₀`: the new dictionary holds `fields`, by
objects of the override and by new ones, and none of them is the dictionary itself. -/
structure Merging (heap₀ : PyHeap) (Q : Set Nat) (merged : Nat) (heap : PyHeap)
    (fields : Dict) : Prop where
  grown : heap₀ <+: heap
  isNew : merged ∈ newIn heap₀ heap
  holds : ∃ slots, heap[merged]? = some (.dict slots) ∧
    HoldsFields heap ((Q ∪ newIn heap₀ heap) \ {merged}) fields slots

theorem Merging.holdsIn {fields : Dict} (h : Merging heap₀ Q merged heap fields) :
    HoldsIn heap (Q ∪ newIn heap₀ heap) (.obj fields) (.ref merged) := by
  obtain ⟨slots, hobject, hfields⟩ := h.holds
  exact ⟨.inr h.isNew, slots, hobject, hfields.grow Set.sdiff_subset List.prefix_rfl⟩

theorem Merging.store {fields : Dict} {value : Json} {slot : Slot} (key : String)
    (h : Merging heap₀ Q merged heap fields) (hQ : ∀ a ∈ Q, a < heap₀.length)
    (hgrow : heap <+: heap') (hvalue : HoldsIn heap' (Q ∪ newIn heap heap') value slot) :
    ∃ heap'', storeItem heap' merged key slot = some heap'' ∧
      Merging heap₀ Q merged heap'' (setItem fields key value) := by
  obtain ⟨slots, hobject, hfields⟩ := h.holds
  have hobject' := getElem?_eq_some_of_grown hgrow hobject
  have hlt : merged < heap'.length := (List.getElem?_eq_some_iff.mp hobject').1
  refine ⟨heap'.set merged (.dict (setItem slots key slot)), ?_, ?_, ?_, ?_⟩
  · rw [storeItem, dictFields?, hobject']
    rfl
  · exact prefix_set (h.grown.trans hgrow) h.isNew.1 _
  · exact ⟨h.isNew.1, by rwa [List.length_set]⟩
  · refine ⟨_, List.getElem?_set_self hlt, ?_⟩
    have hnew : newIn heap₀ (heap'.set merged (.dict (setItem slots key slot))) =
        newIn heap₀ heap' := by rw [newIn, newIn, List.length_set]
    rw [hnew]
    have hkeep : ∀ a ∈ (Q ∪ newIn heap₀ heap') \ {merged}, ∀ object,
        heap'[a]? = some object →
          (heap'.set merged (.dict (setItem slots key slot)))[a]? = some object := by
      rintro a ⟨-, hne⟩ object ha
      rw [List.getElem?_set_ne (fun heq => hne heq.symm), ha]
    refine HoldsFields.setItem ?_ ?_ key
    · have hsub : (Q ∪ newIn heap₀ heap) \ {merged} ⊆ (Q ∪ newIn heap₀ heap') \ {merged} :=
        Set.sdiff_subset_sdiff_left
          (Set.union_subset_union_right Q (newIn_subset List.prefix_rfl hgrow))
      exact (hfields.grow hsub hgrow).mono subset_rfl hkeep
    · refine (hvalue.mono ?_ fun _ _ _ => id).mono subset_rfl hkeep
      rintro a (ha | ha)
      · exact ⟨.inl ha, fun heq => absurd (heq ▸ hQ a ha) (Nat.not_lt.mpr h.isNew.1)⟩
      · exact ⟨.inr (newIn_subset h.grown List.prefix_rfl ha),
          fun heq => absurd h.isNew.2 (Nat.not_lt.mpr (heq ▸ ha.1))⟩

/-- What a call of `_deep_merge` leaves: the merged value in a new dictionary, whose objects
are new or those of the override, and every older object as it was. -/
def Merges (merge : PyHeap → Slot → Slot → Option (PyHeap × Nat)) (depth : Nat) : Prop :=
  ∀ {heap : PyHeap} {P Q : Set Nat} {b o : Dict} {base override : Slot},
    HoldsIn heap P (.obj b) base → HoldsIn heap Q (.obj o) override →
      (∀ a ∈ Q, a < heap.length) → (Json.obj o).depth ≤ depth →
        ∃ heap' merged, merge heap base override = some (heap', merged) ∧ heap <+: heap' ∧
          HoldsIn heap' (Q ∪ newIn heap heap') (.obj (deepMerge b o)) (.ref merged)

theorem mergeItems_step {merge : PyHeap → Slot → Slot → Option (PyHeap × Nat)} {depth : Nat}
    (hmerge : Merges merge depth) (hQ : ∀ a ∈ Q, a < heap₀.length) {fields : Dict}
    (h : Merging heap₀ Q merged heap fields) {value : Json} {slot : Slot} (key : String)
    (hvalue : HoldsIn heap₀ Q value slot) (hdepth : value.depth ≤ depth)
    (rest : List (String × Slot)) :
    ∃ heap', mergeItems merge merged heap ((key, slot) :: rest) =
        mergeItems merge merged heap' rest ∧
      Merging heap₀ Q merged heap'
        (setItem fields key (mergeValue (field? fields key) value)) := by
  obtain ⟨-, slots, hdict, hfields⟩ := h.holdsIn.dictFields?_eq
  have hgrown : HoldsIn heap Q value slot := hvalue.grow subset_rfl h.grown
  have hplain : HoldsIn heap (Q ∪ newIn heap heap) value slot :=
    hgrown.grow Set.subset_union_left List.prefix_rfl
  rw [mergeItems, hdict, Option.bind_eq_bind, Option.bind_some]
  rcases hfields.lookup key with ⟨hvalue?, hslot?⟩ | ⟨old, oldSlot, hvalue?, hslot?, hold⟩
  · -- The key is new.
    rw [hvalue?, hslot?, mergeValue_of_not (by rintro ⟨-, inner, ⟨⟩⟩)]
    obtain ⟨heap', hstore, hmerging⟩ := h.store key hQ List.prefix_rfl hplain
    exact ⟨heap', by simp only [hstore]; rfl, hmerging⟩
  · rw [hvalue?, hslot?]
    by_cases hboth : (dictFields? heap slot).isSome ∧ (dictFields? heap oldSlot).isSome
    · -- Two dictionaries are merged, and the result takes the place of the older one.
      obtain ⟨new, rfl⟩ := hgrown.dictFields?_isSome_iff.mp hboth.1
      obtain ⟨inner, rfl⟩ := hold.dictFields?_isSome_iff.mp hboth.2
      obtain ⟨heap', result, hcall, hgrow, hresult⟩ := hmerge hold hgrown
        (fun a ha => (hQ a ha).trans_le h.grown.length_le) hdepth
      obtain ⟨heap'', hstore, hmerging⟩ := h.store key hQ hgrow hresult
      rw [mergeValue_obj]
      refine ⟨heap'', ?_, hmerging⟩
      simp only [if_pos hboth, hcall, Option.bind_eq_bind, Option.bind_some, hstore]
    · have hnot : ¬ ((∃ fields, value = .obj fields) ∧
          ∃ inner, some old = some (Json.obj inner)) := by
        rintro ⟨hnew, inner, hinner⟩
        exact hboth ⟨hgrown.dictFields?_isSome_iff.mpr hnew,
          hold.dictFields?_isSome_iff.mpr ⟨inner, Option.some.inj hinner⟩⟩
      rw [mergeValue_of_not hnot]
      obtain ⟨heap', hstore, hmerging⟩ := h.store key hQ List.prefix_rfl hplain
      exact ⟨heap', by simp only [if_neg hboth, hstore]; rfl, hmerging⟩

theorem mergeItems_spec {merge : PyHeap → Slot → Slot → Option (PyHeap × Nat)} {depth : Nat}
    (hmerge : Merges merge depth) (hQ : ∀ a ∈ Q, a < heap₀.length) {items : Dict}
    {slots : List (String × Slot)} {fields : Dict}
    (h : Merging heap₀ Q merged heap fields) (hitems : HoldsFields heap₀ Q items slots)
    (hdepth : Json.depthFields items ≤ depth) :
    ∃ heap', mergeItems merge merged heap slots = some heap' ∧
      Merging heap₀ Q merged heap' (deepMerge fields items) := by
  rw [holdsFields_iff_forall₂] at hitems
  induction hitems generalizing heap fields with
  | nil => exact ⟨heap, rfl, by rwa [deepMerge]⟩
  | @cons item entry items slots hentry _ ih =>
      obtain ⟨key, value⟩ := item
      obtain ⟨key', slot⟩ := entry
      obtain ⟨rfl, hvalue⟩ := hentry
      rw [Json.depthFields, max_le_iff] at hdepth
      obtain ⟨heap', hstep, hmerging⟩ :=
        mergeItems_step hmerge hQ h key hvalue hdepth.1 slots
      rw [hstep, deepMerge]
      exact ih hmerging hdepth.2

theorem merging_copy (heap : PyHeap) (Q : Set Nat) (b : Dict) :
    Merging heap Q (buildFields heap b).1.length (build heap (.obj b)).1 b where
  grown := prefix_build heap (.obj b)
  isNew := length_mem_newIn (prefix_buildFields heap b) _
  holds := by
    refine ⟨_, List.getElem?_concat_length, ?_⟩
    refine (holdsFields_buildFields heap b).grow ?_ (List.prefix_append _ _)
    intro a ha
    exact ⟨.inr (newIn_subset List.prefix_rfl (List.prefix_append _ _) ha),
      fun heq => absurd ha.2 (Nat.not_lt.mpr (le_of_eq heq.symm))⟩

theorem mergeWithin_merges (depth : Nat) : Merges (mergeWithin depth) depth := by
  induction depth with
  | zero =>
      intro heap P Q b o base override _ _ _ hdepth
      exact absurd hdepth (by simp [Json.depth])
  | succ depth ih =>
      intro heap P Q b o base override hbase hoverride hQ hdepth
      obtain ⟨a, rfl⟩ := hoverride.obj_cases
      obtain ⟨-, slots, hdict, hitems⟩ := hoverride.dictFields?_eq
      obtain ⟨heap', hloop, hmerging⟩ := mergeItems_spec ih hQ (merging_copy heap Q b) hitems
        (Nat.le_of_succ_le_succ hdepth)
      have hdict' := dictFields?_of_grown (prefix_build heap (.obj b)) hdict
      refine ⟨heap', _, ?_, hmerging.grown, hmerging.holdsIn⟩
      simp only [build] at hdict' hloop
      simp only [mergeWithin, deepcopy_eq_build hbase, build, Option.bind_eq_bind,
        Option.bind_some, hdict', hloop]

theorem deepMergeObjects_spec {P : Set Nat} {b o : Dict} {base override : Slot}
    (hbase : HoldsIn heap P (.obj b) base) (hoverride : HoldsIn heap Q (.obj o) override)
    (hQ : ∀ a ∈ Q, a < heap.length) :
    ∃ heap' merged, deepMergeObjects heap base override = some (heap', merged) ∧
      heap <+: heap' ∧ HoldsIn heap' (Q ∪ newIn heap heap') (.obj (deepMerge b o))
        (.ref merged) :=
  mergeWithin_merges heap.length hbase hoverride hQ hoverride.depth_le

end Merging

/-! ## The cache -/

section Cache

variable {T : Type} [LinearOrder T] [Add T] [NatCast T]

structure ConfigEnviron (T : Type) where
  environ : String → Option String
  float : String → Option T

def envFloat (env : ConfigEnviron T) (name : String) (default : T) : T :=
  match env.environ name with
  | none => default
  | some value => (env.float value).getD default

def ttlSeconds (env : ConfigEnviron T) : T :=
  max (envFloat env "CONFIG_CONTROL_CACHE_TTL_SECONDS" ((15 : Nat) : T)) ((1 : Nat) : T)

/-- The request to the control plane; its time limit only decides whether it fails. -/
structure ConfigRequest where
  url : String
  headers : List (String × String)
  params : List (String × String)
  deriving DecidableEq, Repr

def configRequest (environ : String → Option String) : Option ConfigRequest :=
  let baseUrl := envUrl environ "CONFIG_CONTROL_BASE_URL"
  if baseUrl = "" then none
  else some {
    url := baseUrl ++ "/configs/" ++
      (environ "CONFIG_CONTROL_RUNTIME_CONFIG_NAME").getD "judge-vortex.runtime"
    headers :=
      [("X-User-Id", (environ "CONFIG_CONTROL_USER_ID").getD "judge-vortex"),
        ("X-Role", (environ "CONFIG_CONTROL_ROLE").getD "reader")]
    params :=
      [("version", "resolved"),
        ("environment", (environ "CONFIG_CONTROL_ENVIRONMENT").getD "prod"),
        ("target", (environ "CONFIG_CONTROL_TARGET").getD "judge-vortex"),
        ("client_id", (environ "CONFIG_CONTROL_CLIENT_ID").getD "judge-vortex-web")] }

structure RuntimeCache (T : Type) where
  heap : PyHeap
  defaults : Slot
  payload : Slot
  expiresAt : T

def importedCache : RuntimeCache T :=
  let (heap, defaults) := build [] (.obj defaultRuntimeConfig)
  match deepcopy heap defaults with
  | some (heap, payload) => ⟨heap, defaults, payload, ((0 : Nat) : T)⟩
  | none => ⟨heap, defaults, .scalar .null, ((0 : Nat) : T)⟩

/-- A call: what the clock shows when the cache is checked and when a fetched value is
stored, and what the control plane answers, if it is asked. -/
structure ConfigCall (T : Type) where
  forceRefresh : Bool
  checkedAt : T
  storedAt : T
  reply : HttpReply

structure ConfigOutcome (T : Type) where
  cache : RuntimeCache T
  returned : Option Slot
  requested : Option ConfigRequest

def returnCopy (cache : RuntimeCache T) (slot : Slot) (requested : Option ConfigRequest) :
    ConfigOutcome T :=
  match deepcopy cache.heap slot with
  | some (heap, copy) => ⟨{ cache with heap := heap }, some copy, requested⟩
  | none => ⟨cache, none, requested⟩

def fetchConfig (cache : RuntimeCache T) (reply : HttpReply) : Option (PyHeap × Nat) := do
  let body ← reply.json
  let (heap, payload) := build cache.heap body
  let fields ← dictFields? heap payload
  let value ← slotField? fields "value"
  if (dictFields? heap value).isSome then deepMergeObjects heap cache.defaults value else none

def returnLastPayload (cache : RuntimeCache T) (requested : Option ConfigRequest) :
    ConfigOutcome T :=
  match dictFields? cache.heap cache.payload with
  | some (_ :: _) => returnCopy cache cache.payload requested
  | _ => returnCopy cache cache.defaults requested

def getRuntimeConfig (env : ConfigEnviron T) (cache : RuntimeCache T) (call : ConfigCall T) :
    ConfigOutcome T :=
  if call.forceRefresh = false ∧ call.checkedAt < cache.expiresAt then
    returnCopy cache cache.payload none
  else
    match configRequest env.environ with
    | none => returnCopy cache cache.defaults none
    | some request =>
        match fetchConfig cache call.reply with
        | none => returnLastPayload cache (some request)
        | some (heap, merged) =>
            let cache := { cache with
              heap := heap
              payload := .ref merged
              expiresAt := call.storedAt + ttlSeconds env }
            match deepcopy heap (.ref merged) with
            | some (heap, copy) => ⟨{ cache with heap := heap }, some copy, some request⟩
            | none => returnLastPayload cache (some request)

/-! ### What a fetch gives -/

def fetchedValue (reply : HttpReply) : Option Dict :=
  match reply.json with
  | some (.obj body) =>
      match field? body "value" with
      | some (.obj value) => some value
      | _ => none
  | _ => none

variable {P : Set Nat}

omit [LinearOrder T] [Add T] [NatCast T] in
theorem fetchConfig_cases (cache : RuntimeCache T) (reply : HttpReply) :
    (fetchedValue reply = none ∧ fetchConfig cache reply = none) ∨
      ∃ body value slot, fetchedValue reply = some value ∧
        HoldsIn (build cache.heap body).1 (newIn cache.heap (build cache.heap body).1)
          (.obj value) slot ∧
        fetchConfig cache reply =
          deepMergeObjects (build cache.heap body).1 cache.defaults slot := by
  unfold fetchedValue fetchConfig
  cases reply.json with
  | none => exact .inl ⟨rfl, rfl⟩
  | some body =>
      have hbuilt := holdsIn_build cache.heap body
      simp only [Option.bind_eq_bind, Option.bind_some]
      by_cases hobject : ∃ fields, body = .obj fields
      · obtain ⟨fields, rfl⟩ := hobject
        obtain ⟨a, hslot⟩ := hbuilt.obj_cases
        obtain ⟨-, slots, hdict, hfields⟩ := (hslot ▸ hbuilt).dictFields?_eq
        rw [hslot, hdict]
        rcases hfields.lookup "value" with
          ⟨hvalue?, hslot?⟩ | ⟨value, slot, hvalue?, hslot?, hvalue⟩
        · simp [hvalue?, hslot?]
        · simp only [hvalue?, hslot?, Option.bind_some]
          by_cases hnested : ∃ inner, value = .obj inner
          · obtain ⟨inner, rfl⟩ := hnested
            rw [if_pos (hvalue.dictFields?_isSome_iff.mpr ⟨inner, rfl⟩)]
            exact .inr ⟨_, inner, slot, rfl, hvalue, rfl⟩
          · rw [if_neg (fun hsome => hnested (hvalue.dictFields?_isSome_iff.mp hsome))]
            refine .inl ⟨?_, rfl⟩
            cases value <;> first | rfl | exact absurd ⟨_, rfl⟩ hnested
      · have hnone := fun hsome => hobject (hbuilt.dictFields?_isSome_iff.mp hsome)
        rw [Option.not_isSome_iff_eq_none.mp hnone]
        refine .inl ⟨?_, rfl⟩
        cases body <;> first | rfl | exact absurd ⟨_, rfl⟩ hobject

omit [LinearOrder T] [Add T] [NatCast T] in
/-- A fetched value is merged in new objects, and every older object stays as it is. -/
theorem fetchConfig_spec {cache : RuntimeCache T} (reply : HttpReply)
    (hdefaults : HoldsIn cache.heap P (.obj defaultRuntimeConfig) cache.defaults) :
    (fetchedValue reply = none ∧ fetchConfig cache reply = none) ∨
      ∃ value heap merged, fetchedValue reply = some value ∧
        fetchConfig cache reply = some (heap, merged) ∧ cache.heap <+: heap ∧
        HoldsIn heap (newIn cache.heap heap) (.obj (deepMerge defaultRuntimeConfig value))
          (.ref merged) := by
  refine (fetchConfig_cases cache reply).imp id ?_
  rintro ⟨body, value, slot, hvalue, hslot, hfetch⟩
  have hbody := prefix_build cache.heap body
  obtain ⟨heap, merged, hmerge, hgrow, hmerged⟩ :=
    deepMergeObjects_spec (hdefaults.grow subset_rfl hbody) hslot fun a ha => ha.2
  refine ⟨value, heap, merged, hvalue, hfetch.trans hmerge, hbody.trans hgrow,
    hmerged.grow ?_ List.prefix_rfl⟩
  exact Set.union_subset (newIn_subset List.prefix_rfl hgrow)
    (newIn_subset hbody List.prefix_rfl)

/-! ### What a call returns -/

omit [LinearOrder T] [Add T] [NatCast T] in
theorem returnCopy_eq {cache : RuntimeCache T} {value : Json} {slot : Slot}
    (h : HoldsIn cache.heap P value slot) (requested : Option ConfigRequest) :
    returnCopy cache slot requested =
      ⟨{ cache with heap := (build cache.heap value).1 }, some (build cache.heap value).2,
        requested⟩ := by
  rw [returnCopy, deepcopy_eq_build h]

omit [LinearOrder T] [Add T] [NatCast T] in
theorem returnLastPayload_eq {cache : RuntimeCache T} {config : Dict} (hne : config ≠ [])
    (h : HoldsIn cache.heap P (.obj config) cache.payload) (requested : Option ConfigRequest) :
    returnLastPayload cache requested = returnCopy cache cache.payload requested := by
  obtain ⟨a, ha⟩ := h.obj_cases
  obtain ⟨-, slots, hdict, hfields⟩ := (ha ▸ h).dictFields?_eq
  rw [returnLastPayload, ha, hdict]
  cases slots with
  | cons entry slots => rfl
  | nil =>
      have hkeys := hfields.keys_eq
      exact absurd (List.map_eq_nil_iff.mp hkeys) hne

def fetchedBy (outcome : ConfigOutcome T) (call : ConfigCall T) : Option (T × Dict) :=
  if outcome.requested.isSome then (fetchedValue call.reply).map fun value =>
    (call.storedAt, value)
  else none

/-- The cache keeps the defaults and `config` in guarded objects. -/
structure CacheHolds (P : Set Nat) (config : Dict) (cache : RuntimeCache T) : Prop where
  guards : Guards PyObject.refs cache.heap P
  defaults : HoldsIn cache.heap P (.obj defaultRuntimeConfig) cache.defaults
  payload : HoldsIn cache.heap P (.obj config) cache.payload

def Outside (P : Set Nat) (heap : PyHeap) (slot : Slot) : Prop :=
  ∀ r ∈ slot.refs, r ∉ P ∧ r < heap.length

omit [LinearOrder T] [Add T] [NatCast T] in
theorem CacheHolds.handOut {config : Dict} {cache : RuntimeCache T}
    (h : CacheHolds P config cache) (value : Json) :
    CacheHolds P config { cache with heap := (build cache.heap value).1 } ∧
      Outside P (build cache.heap value).1 (build cache.heap value).2 := by
  have hgrow := prefix_build cache.heap value
  obtain ⟨hclosed, hslot⟩ := closedFrom_build cache.heap value
  refine ⟨⟨h.guards.of_closedFrom hgrow hclosed, h.defaults.grow subset_rfl hgrow,
    h.payload.grow subset_rfl hgrow⟩, fun r hr => ?_⟩
  obtain ⟨hle, hlt⟩ := hslot r hr
  exact ⟨fun hmem => absurd (h.guards.bounded r hmem) (Nat.not_lt.mpr hle), hlt⟩

omit [LinearOrder T] [Add T] [NatCast T] in
theorem CacheHolds.store {config merged : Dict} {cache : RuntimeCache T} {heap : PyHeap}
    {a : Nat} (h : CacheHolds P config cache) (hgrow : cache.heap <+: heap)
    (hmerged : HoldsIn heap (newIn cache.heap heap) (.obj merged) (.ref a)) (expiresAt : T) :
    CacheHolds (P ∪ newIn cache.heap heap) merged
      ⟨heap, cache.defaults, .ref a, expiresAt⟩ where
  guards := guards_prefix_inside h.guards hgrow
  defaults := h.defaults.grow Set.subset_union_left hgrow
  payload := hmerged.grow Set.subset_union_right List.prefix_rfl

theorem Outside.grow {P P' : Set Nat} {heap heap' : PyHeap} {slot : Slot}
    (h : Outside P heap slot) (hgrow : heap <+: heap') (hsub : P' ⊆ P ∪ newIn heap heap') :
    Outside P' heap' slot := by
  intro r hr
  obtain ⟨hout, hlt⟩ := h r hr
  refine ⟨fun hmem => ?_, hlt.trans_le hgrow.length_le⟩
  rcases hsub hmem with hmem | hnew
  · exact hout hmem
  · exact absurd hlt (Nat.not_lt.mpr hnew.1)

/-- After a call: the cache keeps `config` in the guarded objects, to which only new ones
were added, and a copy of it is returned. -/
structure Returns (P : Set Nat) (cache : RuntimeCache T) (P' : Set Nat) (config : Dict)
    (outcome : ConfigOutcome T) : Prop where
  holds : CacheHolds P' config outcome.cache
  grown : cache.heap <+: outcome.cache.heap
  inside : P' ⊆ P ∪ newIn cache.heap outcome.cache.heap
  returned : ∃ slot, outcome.returned = some slot ∧
    HoldsIn outcome.cache.heap Set.univ (.obj config) slot ∧ Outside P' outcome.cache.heap slot

omit [LinearOrder T] [Add T] [NatCast T] in
theorem returns_copy {P' : Set Nat} {config : Dict} {cache cache' : RuntimeCache T}
    (h : CacheHolds P' config cache') (hgrown : cache.heap <+: cache'.heap)
    (hinside : P' ⊆ P ∪ newIn cache.heap cache'.heap) (requested : Option ConfigRequest) :
    Returns P cache P' config (returnCopy cache' cache'.payload requested) := by
  rw [returnCopy_eq h.payload]
  have hgrow := prefix_build cache'.heap (.obj config)
  obtain ⟨hholds, houtside⟩ := h.handOut (.obj config)
  refine ⟨hholds, hgrown.trans hgrow, ?_, _, rfl, ?_, houtside⟩
  · exact hinside.trans
      (Set.union_subset_union_right P (newIn_subset List.prefix_rfl hgrow))
  · exact (holdsIn_build cache'.heap (.obj config)).grow (Set.subset_univ _) List.prefix_rfl

omit [LinearOrder T] [Add T] [NatCast T] in
theorem returns_payload {config : Dict} {cache : RuntimeCache T} (h : CacheHolds P config cache)
    (requested : Option ConfigRequest) :
    Returns P cache P config (returnCopy cache cache.payload requested) :=
  returns_copy h List.prefix_rfl Set.subset_union_left requested

theorem getRuntimeConfig_cases {env : ConfigEnviron T} {cache : RuntimeCache T}
    {config : Dict} (h : CacheHolds P config cache) (hne : config ≠ [])
    (hurl : (configRequest env.environ).isSome) (call : ConfigCall T) :
    (fetchedBy (getRuntimeConfig env cache call) call = none ∧
        (getRuntimeConfig env cache call).cache.expiresAt = cache.expiresAt ∧
        Returns P cache P config (getRuntimeConfig env cache call)) ∨
      ∃ P' value, fetchedBy (getRuntimeConfig env cache call) call =
          some (call.storedAt, value) ∧
        (getRuntimeConfig env cache call).cache.expiresAt =
          call.storedAt + ttlSeconds env ∧
        Returns P cache P' (deepMerge defaultRuntimeConfig value)
          (getRuntimeConfig env cache call) := by
  obtain ⟨request, hrequest⟩ := Option.isSome_iff_exists.mp hurl
  rw [getRuntimeConfig]
  split
  next =>
    refine .inl ⟨?_, ?_, returns_payload h none⟩
    · rw [returnCopy_eq h.payload]
      rfl
    · rw [returnCopy_eq h.payload]
  next =>
    rw [hrequest]
    rcases fetchConfig_spec call.reply h.defaults with
      ⟨hvalue, hfetch⟩ | ⟨value, heap, merged, hvalue, hfetch, hgrow, hmerged⟩
    · rw [hfetch]
      simp only [returnLastPayload_eq hne h.payload]
      refine .inl ⟨?_, ?_, returns_payload h _⟩
      · rw [returnCopy_eq h.payload, fetchedBy, hvalue]
        rfl
      · rw [returnCopy_eq h.payload]
    · have hstored := h.store hgrow hmerged (call.storedAt + ttlSeconds env)
      have hreturns := returns_copy hstored hgrow subset_rfl (some request)
      rw [returnCopy_eq hstored.payload] at hreturns
      rw [hfetch]
      simp only [deepcopy_eq_build hmerged]
      refine .inr ⟨_, value, ?_, trivial, hreturns⟩
      rw [fetchedBy, hvalue]
      rfl

end Cache

end JudgeVortex.CoreApi
