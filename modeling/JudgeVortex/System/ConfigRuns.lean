import JudgeVortex.CoreApi.RuntimeConfig
import JudgeVortex.Foundation.Runs
import Mathlib.Algebra.Order.Monoid.Unbundled.Basic

/-!
# Runs of configuration calls

Calls of `get_runtime_config` one after another, between callers that keep what they have
received, make objects of their own and change everything they can get at.
-/

namespace JudgeVortex.System

open JudgeVortex.CoreApi JudgeVortex.Foundation JudgeVortex.Python

/-! ## Callers -/

inductive Access where
  | field (key : String)
  | item (index : Nat)

def follow (heap : PyHeap) : Slot → List Access → Option Slot
  | slot, [] => some slot
  | .scalar _, _ :: _ => none
  | .ref a, access :: path =>
      match heap[a]?, access with
      | some (.dict fields), .field key => do
          let slot ← slotField? fields key
          follow heap slot path
      | some (.list items), .item index => do
          let slot ← items[index]?
          follow heap slot path
      | _, _ => none

/-- An object that a caller can get at: from one of those it holds, step by step. -/
structure Handle where
  held : Nat
  path : List Access

inductive CallerValue where
  | scalar (value : Scalar)
  | object (handle : Handle)

inductive CallerObject where
  | list (items : List CallerValue)
  | dict (fields : List (String × CallerValue))

inductive ConfigStep (T : Type) where
  | call (call : ConfigCall T)
  | create (object : CallerObject)
  | modify (target : Handle) (object : CallerObject)

/-- The module, the objects that callers hold, and every fetched value with the time at
which it was stored. -/
structure ConfigWorld (T : Type) where
  cache : RuntimeCache T
  held : List Slot
  fetched : List (T × Dict)

section Callers

variable {T : Type} [LinearOrder T] [Add T] [NatCast T]

def ConfigWorld.resolve (world : ConfigWorld T) (handle : Handle) : Option Slot := do
  let slot ← world.held[handle.held]?
  follow world.cache.heap slot handle.path

/-- A handle that leads nowhere stands for `None`. -/
def ConfigWorld.slotOf (world : ConfigWorld T) : CallerValue → Slot
  | .scalar value => .scalar value
  | .object handle => (world.resolve handle).getD (.scalar .null)

def ConfigWorld.objectOf (world : ConfigWorld T) : CallerObject → PyObject
  | .list items => .list (items.map world.slotOf)
  | .dict fields => .dict (fields.map fun field => (field.1, world.slotOf field.2))

def configStep (env : ConfigEnviron T) (world : ConfigWorld T) : ConfigStep T → ConfigWorld T
  | .call call =>
      let outcome := getRuntimeConfig env world.cache call
      { cache := outcome.cache
        held := world.held ++ outcome.returned.toList
        fetched := world.fetched ++ (fetchedBy outcome call).toList }
  | .create object => { world with
      cache := { world.cache with heap := world.cache.heap ++ [world.objectOf object] }
      held := world.held ++ [.ref world.cache.heap.length] }
  | .modify target object =>
      match world.resolve target with
      | some (.ref a) => { world with
          cache := { world.cache with heap := world.cache.heap.set a (world.objectOf object) } }
      | _ => world

def importedWorld : ConfigWorld T := ⟨importedCache, [], []⟩

def lastGoodConfig (fetched : List (T × Dict)) : Dict :=
  match fetched.getLast? with
  | some (_, value) => deepMerge defaultRuntimeConfig value
  | none => defaultRuntimeConfig

end Callers

/-! ## What callers can get at -/

section Outside

variable {heap : PyHeap} {P : Set Nat}

theorem outside_of_mem {object : PyObject} {a : Nat} {slot : Slot}
    (hguards : Guards PyObject.refs heap P) (ha : a ∉ P) (hobject : heap[a]? = some object)
    (hslot : ∀ r ∈ slot.refs, r ∈ object.refs) : Outside P heap slot :=
  fun r hr => hguards.outside a ha object hobject r (hslot r hr)

theorem follow_outside (hguards : Guards PyObject.refs heap P) {path : List Access}
    {slot slot' : Slot} (h : Outside P heap slot) (hfollow : follow heap slot path = some slot') :
    Outside P heap slot' := by
  induction path generalizing slot with
  | nil =>
      rw [follow] at hfollow
      exact Option.some.inj hfollow ▸ h
  | cons access path ih =>
      cases slot with
      | scalar => cases hfollow
      | ref a =>
          have ha : a ∉ P := (h a (List.mem_singleton_self a)).1
          unfold follow at hfollow
          split at hfollow
          next fields key hobject =>
            obtain ⟨next, hnext, hrest⟩ := Option.bind_eq_some_iff.mp hfollow
            refine ih (outside_of_mem hguards ha hobject fun r hr => ?_) hrest
            rw [slotField?, Option.map_eq_some_iff] at hnext
            obtain ⟨entry, hfind, rfl⟩ := hnext
            have hmem := List.mem_reverse.mp (List.mem_of_find?_eq_some hfind)
            exact List.mem_flatMap.mpr ⟨entry, hmem, hr⟩
          next items index hobject =>
            obtain ⟨next, hnext, hrest⟩ := Option.bind_eq_some_iff.mp hfollow
            refine ih (outside_of_mem hguards ha hobject fun r hr => ?_) hrest
            exact List.mem_flatMap.mpr ⟨next, List.mem_of_getElem? hnext, hr⟩
          next => cases hfollow

end Outside

section Invariant

variable {T : Type} [LinearOrder T] [Add T] [NatCast T]

def expiryOf (env : ConfigEnviron T) (fetched : List (T × Dict)) : T :=
  match fetched.getLast? with
  | some (storedAt, _) => storedAt + ttlSeconds env
  | none => ((0 : Nat) : T)

/-- The cache keeps the last good configuration out of reach of the callers, until the time
to live after it was stored. -/
structure Coherent (env : ConfigEnviron T) (world : ConfigWorld T) : Prop where
  reach : ∃ P, CacheHolds P (lastGoodConfig world.fetched) world.cache ∧
    ∀ slot ∈ world.held, Outside P world.cache.heap slot
  expiry : world.cache.expiresAt = expiryOf env world.fetched

variable {env : ConfigEnviron T} {world : ConfigWorld T} {P : Set Nat}

omit [LinearOrder T] [Add T] [NatCast T] in
theorem lastGoodConfig_ne_nil (fetched : List (T × Dict)) : lastGoodConfig fetched ≠ [] := by
  unfold lastGoodConfig
  split
  · exact deepMerge_ne_nil (by decide) _
  · exact List.cons_ne_nil _ _

omit [LinearOrder T] [Add T] [NatCast T] in
theorem resolve_outside (hguards : Guards PyObject.refs world.cache.heap P)
    (hheld : ∀ slot ∈ world.held, Outside P world.cache.heap slot) {handle : Handle}
    {slot : Slot} (h : world.resolve handle = some slot) : Outside P world.cache.heap slot := by
  obtain ⟨root, hroot, hfollow⟩ := Option.bind_eq_some_iff.mp h
  exact follow_outside hguards (hheld root (List.mem_of_getElem? hroot)) hfollow

omit [LinearOrder T] [Add T] [NatCast T] in
theorem slotOf_outside (hguards : Guards PyObject.refs world.cache.heap P)
    (hheld : ∀ slot ∈ world.held, Outside P world.cache.heap slot) (value : CallerValue) :
    Outside P world.cache.heap (world.slotOf value) := by
  cases value with
  | scalar => exact nofun
  | object handle =>
      rw [ConfigWorld.slotOf]
      cases h : world.resolve handle with
      | none => exact nofun
      | some slot => exact resolve_outside hguards hheld h

omit [LinearOrder T] [Add T] [NatCast T] in
theorem objectOf_outside (hguards : Guards PyObject.refs world.cache.heap P)
    (hheld : ∀ slot ∈ world.held, Outside P world.cache.heap slot) (object : CallerObject) :
    ∀ r ∈ (world.objectOf object).refs, r ∉ P ∧ r < world.cache.heap.length := by
  intro r hr
  cases object with
  | list items =>
      rw [ConfigWorld.objectOf, PyObject.refs, List.flatMap_map] at hr
      obtain ⟨value, -, hr⟩ := List.mem_flatMap.mp hr
      exact slotOf_outside hguards hheld value r hr
  | dict fields =>
      rw [ConfigWorld.objectOf, PyObject.refs, List.flatMap_map] at hr
      obtain ⟨field, -, hr⟩ := List.mem_flatMap.mp hr
      exact slotOf_outside hguards hheld field.2 r hr

/-! ### Each step keeps the invariant -/

theorem coherent_create (h : Coherent env world) (object : CallerObject) :
    Coherent env (configStep env world (.create object)) := by
  obtain ⟨⟨P, hholds, hheld⟩, hexpiry⟩ := h
  have hrefs := objectOf_outside hholds.guards hheld object
  have hgrow : world.cache.heap <+: world.cache.heap ++ [world.objectOf object] :=
    List.prefix_append _ _
  refine ⟨⟨P, ⟨?_, hholds.defaults.grow subset_rfl hgrow,
    hholds.payload.grow subset_rfl hgrow⟩, ?_⟩, hexpiry⟩
  · refine guards_append_outside hholds.guards fun cell hcell r hr => ?_
    obtain rfl := List.mem_singleton.mp hcell
    obtain ⟨hout, hlt⟩ := hrefs r hr
    exact ⟨hout, hlt.trans_le hgrow.length_le⟩
  · intro slot hslot
    rcases List.mem_append.mp hslot with hslot | hslot
    · exact (hheld slot hslot).grow hgrow Set.subset_union_left
    · obtain rfl := List.mem_singleton.mp hslot
      intro r hr
      obtain rfl := List.mem_singleton.mp hr
      refine ⟨fun hmem => absurd (hholds.guards.bounded _ hmem) (lt_irrefl _), ?_⟩
      exact (length_mem_newIn List.prefix_rfl _).2

theorem coherent_modify (h : Coherent env world) (target : Handle) (object : CallerObject) :
    Coherent env (configStep env world (.modify target object)) := by
  obtain ⟨⟨P, hholds, hheld⟩, hexpiry⟩ := h
  rw [configStep]
  split
  next a htarget =>
    have ha : a ∉ P :=
      (resolve_outside hholds.guards hheld htarget a (List.mem_singleton_self a)).1
    have hkeep : ∀ b ∈ P, ∀ cell, world.cache.heap[b]? = some cell →
        (world.cache.heap.set a (world.objectOf object))[b]? = some cell := by
      intro b hb cell hcell
      rw [List.getElem?_set_ne (fun heq : a = b => ha (heq ▸ hb)), hcell]
    refine ⟨⟨P, ⟨?_, hholds.defaults.mono subset_rfl hkeep,
      hholds.payload.mono subset_rfl hkeep⟩, ?_⟩, hexpiry⟩
    · exact guards_set hholds.guards (objectOf_outside hholds.guards hheld object)
    · intro slot hslot r hr
      rw [List.length_set]
      exact hheld slot hslot r hr
  next => exact ⟨⟨P, hholds, hheld⟩, hexpiry⟩

theorem fetched_configStep_call (world : ConfigWorld T) (call : ConfigCall T) :
    (configStep env world (.call call)).fetched = world.fetched ++
      (fetchedBy (getRuntimeConfig env world.cache call) call).toList := rfl

theorem coherent_call (h : Coherent env world) (hurl : (configRequest env.environ).isSome)
    (call : ConfigCall T) :
    Coherent env (configStep env world (.call call)) ∧
      ∃ slot, (getRuntimeConfig env world.cache call).returned = some slot ∧
        HoldsIn (getRuntimeConfig env world.cache call).cache.heap Set.univ
          (.obj (lastGoodConfig (configStep env world (.call call)).fetched)) slot := by
  obtain ⟨⟨P, hholds, hheld⟩, hexpiry⟩ := h
  -- Either way the configuration that is returned is the last good one after the call.
  suffices hreturns : ∃ P', Returns P world.cache P'
      (lastGoodConfig (configStep env world (.call call)).fetched)
      (getRuntimeConfig env world.cache call) ∧
      (getRuntimeConfig env world.cache call).cache.expiresAt =
        expiryOf env (configStep env world (.call call)).fetched by
    obtain ⟨P', ⟨hholds', hgrown, hinside, slot, hslot, hvalue, houtside⟩, hexpiry'⟩ := hreturns
    refine ⟨⟨⟨P', hholds', ?_⟩, hexpiry'⟩, slot, hslot, hvalue⟩
    intro other hother
    rcases List.mem_append.mp hother with hother | hother
    · exact (hheld other hother).grow hgrown hinside
    · rw [hslot] at hother
      obtain rfl := Option.some.inj (Option.mem_toList.mp hother)
      exact houtside
  rcases getRuntimeConfig_cases hholds (lastGoodConfig_ne_nil _) hurl call with
    ⟨hnone, hexpires, hreturns⟩ | ⟨P', value, hvalue, hexpires, hreturns⟩
  · have hfetched : (configStep env world (.call call)).fetched = world.fetched := by
      rw [fetched_configStep_call, hnone, Option.toList_none, List.append_nil]
    rw [hfetched, hexpires]
    exact ⟨P, hreturns, hexpiry⟩
  · have hfetched : (configStep env world (.call call)).fetched =
        world.fetched ++ [(call.storedAt, value)] := by
      rw [fetched_configStep_call, hvalue, Option.toList_some]
    rw [hfetched, hexpires, lastGoodConfig, expiryOf, List.getLast?_concat]
    exact ⟨P', hreturns, rfl⟩

omit [LinearOrder T] [Add T] in
theorem importedCache_eq : (importedCache : RuntimeCache T) =
    ⟨(build (build [] (.obj defaultRuntimeConfig)).1 (.obj defaultRuntimeConfig)).1,
      (build [] (.obj defaultRuntimeConfig)).2,
      (build (build [] (.obj defaultRuntimeConfig)).1 (.obj defaultRuntimeConfig)).2,
      ((0 : Nat) : T)⟩ := by
  rw [importedCache]
  simp only [deepcopy_eq_build (holdsIn_build [] (.obj defaultRuntimeConfig))]

theorem coherent_imported : Coherent env importedWorld := by
  have hdefaults := holdsIn_build [] (.obj defaultRuntimeConfig)
  have hgrow := prefix_build (build [] (.obj defaultRuntimeConfig)).1
    (.obj defaultRuntimeConfig)
  have hpayload := holdsIn_build (build [] (.obj defaultRuntimeConfig)).1
    (.obj defaultRuntimeConfig)
  have hnone : Guards PyObject.refs [] ∅ := ⟨nofun, nofun⟩
  rw [importedWorld, importedCache_eq]
  refine ⟨⟨∅ ∪ newIn [] _, ⟨guards_prefix_inside hnone List.nil_prefix, ?_, ?_⟩, nofun⟩, rfl⟩
  · exact hdefaults.grow ((newIn_subset List.prefix_rfl hgrow).trans
      Set.subset_union_right) hgrow
  · exact hpayload.grow ((newIn_subset List.nil_prefix List.prefix_rfl).trans
      Set.subset_union_right) List.prefix_rfl

theorem coherent_configStep (hurl : (configRequest env.environ).isSome)
    (h : Coherent env world) (step : ConfigStep T) :
    Coherent env (configStep env world step) := by
  cases step with
  | call call => exact (coherent_call h hurl call).1
  | create object => exact coherent_create h object
  | modify target object => exact coherent_modify h target object

/-! ### The clock -/

def ConfigStep.times : ConfigStep T → List T
  | .call c => [c.checkedAt, c.storedAt]
  | .create _ | .modify _ _ => []

def ClockMonotone (steps : List (ConfigStep T)) : Prop :=
  (steps.flatMap ConfigStep.times).Pairwise (· ≤ ·)

omit [LinearOrder T] [Add T] [NatCast T] in
theorem fetchedBy_times (outcome : ConfigOutcome T) (call : ConfigCall T) :
    ((fetchedBy outcome call).toList.map Prod.fst).Sublist [call.checkedAt, call.storedAt] := by
  unfold fetchedBy
  split
  · cases fetchedValue call.reply with
    | none => exact List.nil_sublist _
    | some value => exact List.sublist_cons_self _ _
  · exact List.nil_sublist _

theorem fetched_times (world : ConfigWorld T) (step : ConfigStep T) :
    ((configStep env world step).fetched.map Prod.fst).Sublist
      (world.fetched.map Prod.fst ++ step.times) := by
  cases step with
  | call call =>
      rw [fetched_configStep_call, List.map_append]
      exact List.Sublist.append_left (fetchedBy_times _ call) _
  | create object => exact List.sublist_append_left _ _
  | modify target object =>
      rw [configStep]
      split <;> exact List.sublist_append_left _ _

theorem fetched_configStep_of_none {world : ConfigWorld T} {step : ConfigStep T}
    (h : ∀ call, step = .call call →
      fetchedBy (getRuntimeConfig env world.cache call) call = none) :
    (configStep env world step).fetched = world.fetched := by
  cases step with
  | call call =>
      rw [fetched_configStep_call, h call rfl, Option.toList_none, List.append_nil]
  | create object => rfl
  | modify target object =>
      rw [configStep]
      split <;> rfl

theorem transitions_fetched_times (world : ConfigWorld T) (steps : List (ConfigStep T)) :
    ∀ p ∈ transitions (configStep env) world steps,
      (p.1.fetched.map Prod.fst).Sublist
        (world.fetched.map Prod.fst ++ steps.flatMap ConfigStep.times) := by
  intro p hp
  induction steps generalizing world with
  | nil => cases hp
  | cons step steps ih =>
      rw [List.flatMap_cons, ← List.append_assoc]
      rcases List.mem_cons.mp hp with rfl | hp
      · exact (List.sublist_append_left _ _).trans (List.sublist_append_left _ _)
      · exact (ih _ hp).trans ((fetched_times world step).append_right _)

theorem le_expiryOf [AddRightMono T] {fetched : List (T × Dict)}
    (hsorted : (fetched.map Prod.fst).Pairwise (· ≤ ·)) {entry : T × Dict}
    (hentry : entry ∈ fetched) : entry.1 + ttlSeconds env ≤ expiryOf env fetched := by
  rcases List.eq_nil_or_concat' fetched with rfl | ⟨before, last, rfl⟩
  · cases hentry
  · rw [expiryOf, List.getLast?_concat]
    apply add_le_add_left
    rcases List.mem_append.mp hentry with hbefore | hlast
    · rw [List.map_append, List.pairwise_append] at hsorted
      exact hsorted.2.2 _ (List.mem_map_of_mem hbefore) _ (List.mem_singleton_self _)
    · rw [List.mem_singleton.mp hlast]

end Invariant

/-! ## The last good configuration -/

section LastGood

variable {T : Type} [LinearOrder T] [Add T] [NatCast T] [AddRightMono T]

/--
Every call returns the defaults under the value of the last successful fetch, the call's
own included, whatever failed since and whatever callers did to what they had received;
and within the time to live after a successful fetch only a forced call asks again.
-/
theorem getRuntimeConfig_last_good (env : ConfigEnviron T)
    (hurl : envUrl env.environ "CONFIG_CONTROL_BASE_URL" ≠ "") (steps : List (ConfigStep T))
    (hclock : ClockMonotone steps) :
    ∀ p ∈ transitions (configStep env) importedWorld steps,
      (∀ call, p.2 = .call call →
        (∃ slot, (getRuntimeConfig env p.1.cache call).returned = some slot ∧
          HoldsIn (getRuntimeConfig env p.1.cache call).cache.heap Set.univ
            (.obj (lastGoodConfig (configStep env p.1 p.2).fetched)) slot) ∧
        (call.forceRefresh = false → ∀ entry ∈ p.1.fetched,
          call.checkedAt < entry.1 + ttlSeconds env →
            (getRuntimeConfig env p.1.cache call).requested = none)) ∧
      ((∀ call, p.2 = .call call →
          fetchedBy (getRuntimeConfig env p.1.cache call) call = none) →
        lastGoodConfig (configStep env p.1 p.2).fetched = lastGoodConfig p.1.fetched) := by
  intro p hp
  have hrequest : (configRequest env.environ).isSome := by
    rw [configRequest, if_neg hurl]
    rfl
  have hcoherent := transitions_invariant (configStep env) (I := Coherent env)
    (fun _ step h => coherent_configStep hrequest h step) coherent_imported steps p hp
  have htimes := transitions_fetched_times importedWorld steps p hp
  refine ⟨fun call hcall => ⟨?_, ?_⟩, fun hnone => ?_⟩
  · rw [hcall]
    exact (coherent_call hcoherent hrequest call).2
  · intro hforce entry hentry hwithin
    obtain ⟨⟨P, hholds, -⟩, hexpiry⟩ := hcoherent
    have hlt : call.checkedAt < p.1.cache.expiresAt := by
      rw [hexpiry]
      exact hwithin.trans_le (le_expiryOf (hclock.sublist htimes) hentry)
    rw [getRuntimeConfig, if_pos ⟨hforce, hlt⟩, returnCopy_eq hholds.payload]
  · rw [fetched_configStep_of_none hnone]

end LastGood

def modifiedRun : List (ConfigStep Int) :=
  [.call ⟨false, 100, 101, .response 200 (some (.obj
      [("value", .obj [("queue_throttle", .obj [("fallback_to_drf", .bool false)])])]))⟩,
    .modify ⟨0, [.field "queue_throttle"]⟩ (.dict []),
    .call ⟨true, 102, 103, .failed⟩]

def controlledEnviron : ConfigEnviron Int where
  environ name :=
    if name = "CONFIG_CONTROL_BASE_URL" then some "http://control/" else none
  float _ := none

theorem getRuntimeConfig_last_good_modifiedRun :
    ∃ slot, (getRuntimeConfig controlledEnviron
        ((modifiedRun.take 2).foldl (configStep controlledEnviron) importedWorld).cache
        ⟨true, 102, 103, .failed⟩).returned = some slot ∧
      HoldsIn (getRuntimeConfig controlledEnviron
        ((modifiedRun.take 2).foldl (configStep controlledEnviron) importedWorld).cache
        ⟨true, 102, 103, .failed⟩).cache.heap Set.univ
        (.obj (deepMerge defaultRuntimeConfig
          [("queue_throttle", .obj [("fallback_to_drf", .bool false)])])) slot :=
  ((getRuntimeConfig_last_good controlledEnviron (by decide) modifiedRun
    (by rw [ClockMonotone]; decide) _ (.tail _ (.tail _ (.head _)))).1 _ rfl).1

end JudgeVortex.System
