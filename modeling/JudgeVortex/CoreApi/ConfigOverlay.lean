import JudgeVortex.CoreApi.RuntimeConfig
import Mathlib.Data.List.Nodup

/-!
# Merging as an overlay

`_deep_merge` by key paths: what the merged tree holds at a path, and that merging the same
override again changes nothing.
-/

namespace JudgeVortex.CoreApi

open JudgeVortex.Foundation JudgeVortex.Python

/-! ## Items of dictionaries -/

section Items

variable {d : Dict} {key : String} {value : Json}

theorem field?_cons (entry : String × Json) (d : Dict) (key : String) :
    field? (entry :: d) key = (field? d key).or (if entry.1 = key then some entry.2 else none) := by
  have h := field?_append [entry] d key
  rw [List.singleton_append] at h
  rw [h]
  congr 1
  by_cases hkey : entry.1 = key <;> simp [field?, hkey]

theorem field?_eq_none_iff : field? d key = none ↔ key ∉ d.map Prod.fst := by
  induction d with
  | nil => simp [field?]
  | cons entry d ih =>
      rw [field?_cons, Option.or_eq_none_iff, ih, List.map_cons, List.mem_cons, not_or, and_comm]
      simp [eq_comm]

theorem field?_of_mem (hkeys : (d.map Prod.fst).Nodup) (h : (key, value) ∈ d) :
    field? d key = some value := by
  induction d with
  | nil => cases h
  | cons entry d ih =>
      rw [List.map_cons, List.nodup_cons] at hkeys
      rw [field?_cons]
      rcases List.mem_cons.mp h with rfl | h
      · rw [field?_eq_none_iff.mpr hkeys.1, Option.none_or, if_pos rfl]
      · rw [ih hkeys.2 h, Option.some_or]

theorem mem_of_field? (h : field? d key = some value) : (key, value) ∈ d := by
  induction d with
  | nil => cases h
  | cons entry d ih =>
      rw [field?_cons, Option.or_eq_some_iff] at h
      rcases h with h | ⟨-, h⟩
      · exact List.mem_cons_of_mem _ (ih h)
      · obtain ⟨rfl, hvalue⟩ := Option.ite_none_right_eq_some.mp h
        exact List.mem_cons.mpr (.inl (by rw [← Option.some.inj hvalue]))

theorem map_fst_replaced (d : Dict) (key : String) (value : Json) :
    (d.map fun entry => if entry.1 = key then (key, value) else entry).map Prod.fst =
      d.map Prod.fst := by
  rw [List.map_map]
  refine List.map_congr_left fun other _ => ?_
  change (if other.1 = key then (key, value) else other).1 = other.1
  split
  next heq => exact heq.symm
  next => rfl

theorem field?_map_self (h : key ∈ d.map Prod.fst) :
    field? (d.map fun entry => if entry.1 = key then (key, value) else entry) key =
      some value := by
  induction d with
  | nil => cases h
  | cons entry d ih =>
      rw [List.map_cons, field?_cons]
      by_cases hrest : key ∈ d.map Prod.fst
      · rw [ih hrest, Option.some_or]
      · have hentry : entry.1 = key := by
          rw [List.map_cons, List.mem_cons] at h
          exact (h.resolve_right hrest).symm
        have hnone : field? (d.map fun entry => if entry.1 = key then (key, value) else entry)
            key = none := by
          rwa [field?_eq_none_iff, map_fst_replaced]
        rw [hnone, Option.none_or, if_pos hentry, if_pos rfl]

theorem field?_map_of_ne {other : String} (hne : other ≠ key) :
    field? (d.map fun entry => if entry.1 = key then (key, value) else entry) other =
      field? d other := by
  induction d with
  | nil => rfl
  | cons entry d ih =>
      rw [List.map_cons, field?_cons, field?_cons, ih]
      by_cases hentry : entry.1 = key
      · have hother : entry.1 ≠ other := fun heq => hne (heq.symm.trans hentry)
        rw [if_pos hentry, if_neg hne.symm, if_neg hother]
      · rw [if_neg hentry]

@[simp] theorem field?_setItem (d : Dict) (key other : String) (value : Json) :
    field? (setItem d key value) other = if other = key then some value else field? d other := by
  rw [setItem]
  by_cases hmem : key ∈ d.map Prod.fst
  · rw [if_pos hmem]
    by_cases hother : other = key
    · rw [if_pos hother, hother, field?_map_self hmem]
    · rw [if_neg hother, field?_map_of_ne hother]
  · rw [if_neg hmem, field?_append, field?_cons]
    by_cases hother : other = key
    · subst hother
      simp [field?]
    · have hne : key ≠ other := fun heq => hother heq.symm
      simp [field?, hother, hne]

theorem nodup_setItem (hkeys : (d.map Prod.fst).Nodup) (key : String) (value : Json) :
    ((setItem d key value).map Prod.fst).Nodup := by
  rw [setItem]
  by_cases hmem : key ∈ d.map Prod.fst
  · rwa [if_pos hmem, map_fst_replaced]
  · rw [if_neg hmem, List.map_append, List.map_singleton, List.nodup_append]
    refine ⟨hkeys, List.pairwise_singleton _ _, fun other hother same hsame heq => hmem ?_⟩
    obtain rfl : other = key := heq.trans (List.mem_singleton.mp hsame)
    exact hother

theorem setItem_self (hkeys : (d.map Prod.fst).Nodup) (h : field? d key = some value) :
    setItem d key value = d := by
  have hentry := mem_of_field? h
  have hmem : key ∈ d.map Prod.fst := List.mem_map.mpr ⟨_, hentry, rfl⟩
  rw [setItem, if_pos hmem]
  refine (List.map_congr_left fun entry hother => ?_).trans (List.map_id d)
  split
  next heq => exact (List.inj_on_of_nodup_map hkeys hother hentry heq).symm
  next => rfl

end Items

/-! ## Paths -/

def valueAt : Json → List String → Option Json
  | value, [] => some value
  | .obj fields, key :: path => (field? fields key).bind fun value => valueAt value path
  | .null, _ :: _ | .bool _, _ :: _ | .int _, _ :: _ | .float _, _ :: _ | .str _, _ :: _
  | .arr _, _ :: _ => none

def IsDict (value : Json) : Prop := ∃ fields, value = .obj fields

def HasLeaf (d : Dict) (path : List String) (value : Json) : Prop :=
  valueAt (.obj d) path = some value ∧ ¬ IsDict value

/-- A dictionary inside the tree, along dictionaries, has every key once. -/
def DistinctKeys (d : Dict) : Prop :=
  ∀ path fields, valueAt (.obj d) path = some (.obj fields) → (fields.map Prod.fst).Nodup

section Paths

variable {d b o : Dict} {key : String} {path : List String} {value : Json}

@[simp] theorem valueAt_nil (value : Json) : valueAt value [] = some value := by
  rw [valueAt]

theorem valueAt_cons (d : Dict) (key : String) (path : List String) :
    valueAt (.obj d) (key :: path) = (field? d key).bind fun value => valueAt value path := by
  rw [valueAt]

theorem valueAt_of_not_isDict (h : ¬ IsDict value) (key : String) (path : List String) :
    valueAt value (key :: path) = none := by
  cases value with
  | obj fields => exact absurd ⟨fields, rfl⟩ h
  | null | bool | int | float | str | arr => rw [valueAt]

theorem not_hasLeaf_nil : ¬ HasLeaf d [] value := by
  rintro ⟨hvalue, hleaf⟩
  rw [valueAt_nil] at hvalue
  exact hleaf ⟨d, (Option.some.inj hvalue).symm⟩

theorem hasLeaf_cons_of_none (h : field? d key = none) : ¬ HasLeaf d (key :: path) value := by
  rintro ⟨hvalue, -⟩
  rw [valueAt_cons, h] at hvalue
  cases hvalue

theorem hasLeaf_cons_of_dict {fields : Dict} (h : field? d key = some (.obj fields)) :
    HasLeaf d (key :: path) value ↔ HasLeaf fields path value := by
  rw [HasLeaf, HasLeaf, valueAt_cons, h, Option.bind_some]

theorem hasLeaf_cons_of_leaf {leaf : Json} (h : field? d key = some leaf) (hleaf : ¬ IsDict leaf) :
    HasLeaf d (key :: path) value ↔ path = [] ∧ leaf = value := by
  rw [HasLeaf, valueAt_cons, h, Option.bind_some]
  cases path with
  | nil =>
      rw [valueAt_nil, Option.some.injEq, and_iff_right rfl]
      exact ⟨And.left, fun heq => ⟨heq, heq ▸ hleaf⟩⟩
  | cons next path =>
      rw [valueAt_of_not_isDict hleaf]
      exact iff_of_false (by rintro ⟨h, -⟩; cases h) (by rintro ⟨h, -⟩; cases h)

theorem DistinctKeys.nodup (h : DistinctKeys d) : (d.map Prod.fst).Nodup := h [] d (valueAt_nil _)

theorem DistinctKeys.inner (h : DistinctKeys d) {fields : Dict}
    (hfield : field? d key = some (.obj fields)) : DistinctKeys fields := by
  intro path inner hinner
  apply h (key :: path)
  rwa [valueAt_cons, hfield, Option.bind_some]

theorem distinctKeys_of_nodup (hkeys : (d.map Prod.fst).Nodup)
    (hinner : ∀ key fields, (key, .obj fields) ∈ d → DistinctKeys fields) : DistinctKeys d := by
  rintro (_ | ⟨key, path⟩) fields hfields
  · rw [valueAt_nil] at hfields
    cases hfields
    exact hkeys
  · rw [valueAt_cons] at hfields
    obtain ⟨value, hvalue, hpath⟩ := Option.bind_eq_some_iff.mp hfields
    by_cases hdict : IsDict value
    · obtain ⟨inner, rfl⟩ := hdict
      exact hinner key inner (mem_of_field? hvalue) path fields hpath
    · cases path with
      | nil =>
          rw [valueAt_nil] at hpath
          exact absurd ⟨fields, Option.some.inj hpath⟩ hdict
      | cons next path =>
          rw [valueAt_of_not_isDict hdict] at hpath
          cases hpath

theorem distinctKeys_of_leaves (hkeys : (d.map Prod.fst).Nodup)
    (hleaves : ∀ entry ∈ d, ¬ IsDict entry.2) : DistinctKeys d :=
  distinctKeys_of_nodup hkeys fun _ fields hmem => absurd ⟨fields, rfl⟩ (hleaves _ hmem)

theorem field?_deepMerge (hkeys : (o.map Prod.fst).Nodup) (b : Dict) (key : String) :
    field? (deepMerge b o) key =
      match field? o key with
      | none => field? b key
      | some value => some (mergeValue (field? b key) value) := by
  induction o generalizing b with
  | nil => rw [deepMerge]; rfl
  | cons entry rest ih =>
      obtain ⟨first, value⟩ := entry
      rw [List.map_cons, List.nodup_cons] at hkeys
      rw [deepMerge, ih hkeys.2, field?_setItem, field?_cons]
      by_cases hkey : key = first
      · subst hkey
        rw [field?_eq_none_iff.mpr hkeys.1]
        simp
      · have hne : first ≠ key := fun heq => hkey heq.symm
        rw [if_neg hkey, if_neg hne, Option.or_none]

def Untouched (o : Dict) (path : List String) : Prop :=
  valueAt (.obj o) path = none ∧
    ∀ before rest, path = before ++ rest → rest ≠ [] → ∀ value, ¬ HasLeaf o before value

theorem untouched_cons_of_none (h : field? o key = none) : Untouched o (key :: path) := by
  refine ⟨by rw [valueAt_cons, h, Option.bind_none], ?_⟩
  rintro before rest hsplit - value
  cases before with
  | nil => exact not_hasLeaf_nil
  | cons first before =>
      obtain rfl : key = first := (List.cons.inj hsplit).1
      exact hasLeaf_cons_of_none h

theorem untouched_cons_of_dict {fields : Dict} (h : field? o key = some (.obj fields)) :
    Untouched o (key :: path) ↔ Untouched fields path := by
  rw [Untouched, Untouched, valueAt_cons, h, Option.bind_some]
  refine and_congr_right fun _ => ?_
  constructor
  · intro hall before rest hsplit hrest value hleaf
    exact hall (key :: before) rest (by rw [hsplit, List.cons_append]) hrest value
      ((hasLeaf_cons_of_dict h).mpr hleaf)
  · rintro hall before rest hsplit hrest value hleaf
    cases before with
    | nil => exact not_hasLeaf_nil hleaf
    | cons first before =>
        obtain ⟨rfl, htail⟩ := List.cons.inj hsplit
        exact hall before rest htail hrest value ((hasLeaf_cons_of_dict h).mp hleaf)

theorem not_untouched_cons_of_leaf {leaf : Json} (h : field? o key = some leaf)
    (hleaf : ¬ IsDict leaf) : ¬ Untouched o (key :: path) := by
  rintro ⟨hnone, hbefore⟩
  cases path with
  | nil =>
      rw [valueAt_cons, h, Option.bind_some, valueAt_nil] at hnone
      cases hnone
  | cons next path =>
      exact hbefore [key] (next :: path) rfl (by simp) leaf
        ((hasLeaf_cons_of_leaf h hleaf).mpr ⟨rfl, rfl⟩)

/-- By induction on the path; at each key the override has nothing, a leaf, or a dictionary
that meets a dictionary or something else. -/
theorem hasLeaf_deepMerge (ho : DistinctKeys o) (b : Dict) (path : List String) (value : Json) :
    HasLeaf (deepMerge b o) path value ↔
      HasLeaf o path value ∨ HasLeaf b path value ∧ Untouched o path := by
  induction path generalizing b o with
  | nil => simp [not_hasLeaf_nil]
  | cons key path ih =>
      have hmerged := field?_deepMerge ho.nodup b key
      cases hover : field? o key with
      | none =>
          simp only [hover] at hmerged
          have hbase : HasLeaf (deepMerge b o) (key :: path) value ↔
              HasLeaf b (key :: path) value := by
            rw [HasLeaf, HasLeaf, valueAt_cons, valueAt_cons, hmerged]
          rw [hbase, or_iff_right (hasLeaf_cons_of_none hover),
            and_iff_left (untouched_cons_of_none hover)]
      | some new =>
          simp only [hover] at hmerged
          by_cases hnew : IsDict new
          · obtain ⟨fields, rfl⟩ := hnew
            rw [hasLeaf_cons_of_dict hover, untouched_cons_of_dict hover]
            by_cases hold : ∃ inner, field? b key = some (.obj inner)
            · obtain ⟨inner, hold⟩ := hold
              rw [hold, mergeValue_obj] at hmerged
              rw [hasLeaf_cons_of_dict hmerged, hasLeaf_cons_of_dict hold,
                ih (ho.inner hover) inner]
            · rw [mergeValue_of_not fun h => hold h.2] at hmerged
              rw [hasLeaf_cons_of_dict hmerged, or_iff_left]
              rintro ⟨hbase, huntouched⟩
              -- What the base has there is a leaf, and the path ends at it.
              cases hfield : field? b key with
              | none => exact hasLeaf_cons_of_none hfield hbase
              | some leaf =>
                  have hleaf : ¬ IsDict leaf := by
                    rintro ⟨inner, rfl⟩
                    exact hold ⟨inner, hfield⟩
                  obtain ⟨rfl, -⟩ := (hasLeaf_cons_of_leaf hfield hleaf).mp hbase
                  have hnone := huntouched.1
                  rw [valueAt_nil] at hnone
                  cases hnone
          · rw [mergeValue_of_not fun h => hnew h.1] at hmerged
            rw [hasLeaf_cons_of_leaf hmerged hnew, hasLeaf_cons_of_leaf hover hnew, or_iff_left]
            exact fun h => not_untouched_cons_of_leaf hover hnew h.2

/-! ## Merging again -/

theorem deepMerge_append (hkeys : ((b ++ o).map Prod.fst).Nodup) : deepMerge b o = b ++ o := by
  induction o generalizing b with
  | nil => rw [deepMerge, List.append_nil]
  | cons entry rest ih =>
      obtain ⟨key, value⟩ := entry
      have hnew : key ∉ b.map Prod.fst := by
        rw [List.map_append, List.nodup_append] at hkeys
        exact fun hmem => hkeys.2.2 key hmem key List.mem_cons_self rfl
      have hplain : mergeValue none value = value :=
        mergeValue_of_not (by rintro ⟨-, _, h⟩; cases h)
      have hsplit : b ++ (key, value) :: rest = b ++ [(key, value)] ++ rest := by simp
      rw [deepMerge, field?_eq_none_iff.mpr hnew, hplain, setItem, if_neg hnew, hsplit]
      exact ih (hsplit ▸ hkeys)

theorem nodup_deepMerge (hkeys : (b.map Prod.fst).Nodup) (o : Dict) :
    ((deepMerge b o).map Prod.fst).Nodup := by
  induction o generalizing b with
  | nil => rwa [deepMerge]
  | cons entry rest ih =>
      rw [deepMerge]
      exact ih (nodup_setItem hkeys _ _)

/-- An override whose items change nothing one by one changes nothing. -/
theorem deepMerge_eq_self {m : Dict} (hkeys : (m.map Prod.fst).Nodup)
    (h : ∀ entry ∈ o, ∃ held, field? m entry.1 = some held ∧
      mergeValue (some held) entry.2 = held) : deepMerge m o = m := by
  induction o with
  | nil => rw [deepMerge]
  | cons entry rest ih =>
      obtain ⟨held, hfield, hmerge⟩ := h entry List.mem_cons_self
      rw [deepMerge, hfield, hmerge, setItem_self hkeys hfield]
      exact ih fun other hother => h other (List.mem_cons_of_mem _ hother)

theorem depth_le_depthFields {entry : String × Json} (h : entry ∈ d) :
    entry.2.depth ≤ Json.depthFields d := by
  induction d with
  | nil => cases h
  | cons other d ih =>
      rw [Json.depthFields]
      rcases List.mem_cons.mp h with rfl | h
      · exact le_max_left _ _
      · exact (ih h).trans (le_max_right _ _)

theorem deepMerge_nil (ho : DistinctKeys o) : deepMerge [] o = o := deepMerge_append ho.nodup

/-- By induction on the depth of the override. -/
theorem deepMerge_deepMerge (hb : DistinctKeys b) (ho : DistinctKeys o) :
    deepMerge (deepMerge b o) o = deepMerge b o := by
  induction hdepth : Json.depthFields o using Nat.strong_induction_on generalizing b o with
  | h depth ih =>
      apply deepMerge_eq_self (nodup_deepMerge hb.nodup o)
      rintro ⟨key, value⟩ hentry
      have hover := field?_of_mem ho.nodup hentry
      have hmerged := field?_deepMerge ho.nodup b key
      simp only [hover] at hmerged
      refine ⟨_, hmerged, ?_⟩
      by_cases hnew : IsDict value
      · obtain ⟨fields, rfl⟩ := hnew
        have hinner := ho.inner hover
        have hless : Json.depthFields fields < depth := by
          have := depth_le_depthFields hentry
          rw [Json.depth] at this
          omega
        by_cases hold : ∃ inner, field? b key = some (.obj inner)
        · obtain ⟨inner, hold⟩ := hold
          rw [hold, mergeValue_obj, mergeValue_obj, ih _ hless (hb.inner hold) hinner rfl]
        · -- The dictionary of the override is merged with itself.
          have hempty : DistinctKeys [] :=
            distinctKeys_of_nodup .nil fun _ _ h => absurd h List.not_mem_nil
          have hself := ih _ hless hempty hinner rfl
          rw [deepMerge_nil hinner] at hself
          rw [mergeValue_of_not fun h => hold h.2, mergeValue_obj, hself]
      · rw [mergeValue_of_not fun h => hnew h.1, mergeValue_of_not fun h => hnew h.1]

end Paths

/-! ## The function on objects -/

/-- After `_deep_merge(base, override)` of the trees `b` and `o`: the returned dictionary
holds `m`, the objects of the arguments and all others are as they were, and merging the
override again returns a dictionary that holds the same. -/
structure DeepMerged (heap : PyHeap) (b o : Dict) (base override : Slot) (heap' : PyHeap)
    (merged : Nat) (m : Dict) : Prop where
  holds : HoldsIn heap' (Set.Iio heap'.length) (.obj m) (.ref merged)
  leaves : ∀ path value, HasLeaf m path value ↔
    HasLeaf o path value ∨ HasLeaf b path value ∧ Untouched o path
  unchanged : heap <+: heap'
  baseKept : HoldsIn heap' (Set.Iio heap.length) (.obj b) base
  overrideKept : HoldsIn heap' (Set.Iio heap.length) (.obj o) override
  again : ∃ heap'' merged', deepMergeObjects heap' (.ref merged) override =
      some (heap'', merged') ∧
    HoldsIn heap'' (Set.Iio heap''.length) (.obj m) (.ref merged')

theorem Iio_union_newIn_subset {heap heap' : PyHeap} (hgrow : heap <+: heap') :
    Set.Iio heap.length ∪ newIn heap heap' ⊆ Set.Iio heap'.length := by
  rintro a (ha | ha)
  · exact lt_of_lt_of_le ha hgrow.length_le
  · exact ha.2

theorem deep_merge_overlays (heap : PyHeap) (b o : Dict) (hb : DistinctKeys b)
    (ho : DistinctKeys o) (base override : Slot)
    (hbase : HoldsIn heap (Set.Iio heap.length) (.obj b) base)
    (hoverride : HoldsIn heap (Set.Iio heap.length) (.obj o) override) :
    ∃ heap' merged m, deepMergeObjects heap base override = some (heap', merged) ∧
      DeepMerged heap b o base override heap' merged m := by
  obtain ⟨heap', merged, hcall, hgrow, hmerged⟩ :=
    deepMergeObjects_spec hbase hoverride fun _ ha => ha
  have hholds := hmerged.grow (Iio_union_newIn_subset hgrow) List.prefix_rfl
  have hoverride' := hoverride.grow subset_rfl hgrow
  obtain ⟨heap'', merged', hagain, hgrow', hmerged'⟩ :=
    deepMergeObjects_spec hholds hoverride' fun _ ha => lt_of_lt_of_le ha hgrow.length_le
  rw [deepMerge_deepMerge hb ho] at hmerged'
  refine ⟨heap', merged, deepMerge b o, hcall, hholds, hasLeaf_deepMerge ho b, hgrow,
    hbase.grow subset_rfl hgrow, hoverride', heap'', merged', hagain, hmerged'.grow ?_
      List.prefix_rfl⟩
  have hsub : Set.Iio heap.length ⊆ Set.Iio heap'.length :=
    Set.Iio_subset_Iio hgrow.length_le
  exact (Set.union_subset_union_left _ hsub).trans (Iio_union_newIn_subset hgrow')

theorem holdsIn_build_Iio (heap : PyHeap) (value : Json) :
    HoldsIn (build heap value).1 (Set.Iio (build heap value).1.length) value
      (build heap value).2 :=
  (holdsIn_build heap value).grow (fun _ ha => ha.2) List.prefix_rfl

def sampleOverride : Dict :=
  [("queue_throttle", .obj [("fallback_to_drf", .bool false)]),
    ("distributed_rate_limiter", .null), ("labels", .obj [])]

theorem deep_merge_overlays_sample :
    let first := build [] (.obj defaultRuntimeConfig)
    let second := build first.1 (.obj sampleOverride)
    ∃ heap' merged m, deepMergeObjects second.1 first.2 second.2 = some (heap', merged) ∧
      DeepMerged second.1 defaultRuntimeConfig sampleOverride first.2 second.2 heap' merged m := by
  intro first second
  apply deep_merge_overlays
  · refine distinctKeys_of_nodup (by decide) fun key fields hmem => ?_
    simp only [defaultRuntimeConfig, List.mem_cons, Prod.mk.injEq, Json.obj.injEq,
      List.not_mem_nil, or_false] at hmem
    rcases hmem with ⟨-, rfl⟩ | ⟨-, rfl⟩
    · exact distinctKeys_of_leaves (by decide) (by simp [IsDict])
    · exact distinctKeys_of_leaves (by decide) (by simp [IsDict])
  · refine distinctKeys_of_nodup (by decide) fun key fields hmem => ?_
    simp only [sampleOverride, List.mem_cons, Prod.mk.injEq, Json.obj.injEq, reduceCtorEq,
      and_false, List.not_mem_nil, or_false, false_or] at hmem
    rcases hmem with ⟨-, rfl⟩ | ⟨-, rfl⟩
    · exact distinctKeys_of_leaves (by decide) (by simp [IsDict])
    · exact distinctKeys_of_leaves (by decide) (by simp)
  · exact (holdsIn_build_Iio [] _).grow (Set.Iio_subset_Iio (prefix_build ..).length_le)
      (prefix_build ..)
  · exact holdsIn_build_Iio first.1 _

end JudgeVortex.CoreApi
