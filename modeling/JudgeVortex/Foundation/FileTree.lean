import JudgeVortex.Foundation.Script
import Mathlib.Data.List.Infix
import Mathlib.Logic.Function.Basic

/-!
# A tree of files

A file system tells what stands at a path, a list of names from the root.  `makeDirs`
makes the directories that a path still lacks, and `writeFile` writes a file in a
directory.  `Holds` says that a directory holds exactly some files and the directories
above them; a file that is written keeps it so exactly if no other file is in its way.
-/

namespace JudgeVortex.Foundation

inductive Node (β : Type) where
  | directory
  | file (content : β)
  deriving DecidableEq

abbrev FileTree (ν β : Type) := List ν → Option (Node β)

inductive TreeError where
  | notADirectory
  | isADirectory
  | badPath
  deriving DecidableEq, Repr

section Defs

variable {ν β : Type} [DecidableEq ν]

/-- Makes the directories of `rest` below `above` that are missing, from the top; the log
holds those that are made.  `takes` are the paths that the file system takes. -/
def makeDirs (takes : List ν → Bool) (tree : FileTree ν β) (above : List ν) :
    List ν → Script (List ν) TreeError (FileTree ν β)
  | [] => pure tree
  | name :: rest =>
      match tree (above ++ [name]) with
      | some .directory => makeDirs takes tree (above ++ [name]) rest
      | some (.file _) => .fail .notADirectory
      | none =>
          if takes (above ++ [name]) then
            Script.emit (above ++ [name]) >>= fun _ =>
              makeDirs takes (Function.update tree (above ++ [name]) (some .directory))
                (above ++ [name]) rest
          else .fail .badPath

def writeFile (takes : List ν → Bool) (tree : FileTree ν β) (path : List ν) (content : β) :
    Except TreeError (FileTree ν β) :=
  match tree path.dropLast with
  | some .directory =>
      match tree path with
      | some .directory => .error .isADirectory
      | some (.file _) => .ok (Function.update tree path (some (.file content)))
      | none =>
          if takes path then
            .ok (Function.update tree path (some (.file content)))
          else .error .badPath
  | _ => .error .notADirectory

def addDirs (tree : FileTree ν β) (above : List ν) : List ν → FileTree ν β
  | [] => tree
  | name :: rest =>
      addDirs (Function.update tree (above ++ [name]) (some .directory)) (above ++ [name]) rest

def Stands (tree : FileTree ν β) (base : List ν) : Prop :=
  ∀ q, q <+: base → tree q = some .directory

def CanPass (takes : List ν → Bool) (tree : FileTree ν β) (path : List ν) : Prop :=
  tree path = some .directory ∨ tree path = none ∧ takes path = true

end Defs

theorem writeFile_eq_ok {ν β : Type} [DecidableEq ν] {takes : List ν → Bool}
    {tree after : FileTree ν β} {path : List ν} {content : β}
    (h : writeFile takes tree path content = .ok after) :
    after = Function.update tree path (some (.file content)) := by
  rw [writeFile] at h
  split at h
  next =>
    split at h
    next => cases h
    next => exact (Except.ok.inj h).symm
    next =>
      split at h
      next => exact (Except.ok.inj h).symm
      next => cases h
  next => cases h

/-! ## Directories above a path -/

section Dirs

variable {ν β : Type} [DecidableEq ν] {takes : List ν → Bool} {tree : FileTree ν β}

omit [DecidableEq ν] in
private theorem append_ne_self_append (above : List ν) (name : ν) {q : List ν} (hq : q ≠ []) :
    above ++ [name] ++ q ≠ above ++ [name] := by
  intro h
  exact hq (List.append_right_eq_self.mp h)

theorem addDirs_other {above rest x : List ν}
    (h : ∀ q, q ≠ [] → q <+: rest → x ≠ above ++ q) : addDirs tree above rest x = tree x := by
  induction rest generalizing tree above with
  | nil => rfl
  | cons name rest ih =>
      rw [addDirs, ih]
      · exact Function.update_of_ne (h [name] (by simp) (by simp)) _ _
      · intro q hq habove
        rw [List.append_assoc]
        exact h (name :: q) (by simp) (List.cons_prefix_cons.mpr ⟨rfl, habove⟩)

theorem addDirs_self {above rest q : List ν} (hq : q ≠ []) (habove : q <+: rest) :
    addDirs tree above rest (above ++ q) = some .directory := by
  induction rest generalizing tree above q with
  | nil => exact absurd (List.prefix_nil.mp habove) hq
  | cons name rest ih =>
      obtain rfl | ⟨q, rfl, hrest⟩ := List.prefix_cons_iff.mp habove
      · exact absurd rfl hq
      rw [addDirs, List.append_cons above name q]
      by_cases hnil : q = []
      · subst hnil
        rw [List.append_nil, addDirs_other fun q hq _ =>
          (append_ne_self_append above name hq).symm]
        exact Function.update_self ..
      · exact ih hnil hrest

private theorem canPass_update {above q : List ν} {name : ν} (hq : q ≠ []) :
    CanPass takes (Function.update tree (above ++ [name]) (some .directory))
        (above ++ [name] ++ q) ↔ CanPass takes tree (above ++ [name] ++ q) := by
  rw [CanPass, Function.update_of_ne (append_ne_self_append above name hq), CanPass]

theorem makeDirs_ok {above rest : List ν}
    (h : ∀ q, q ≠ [] → q <+: rest → CanPass takes tree (above ++ q)) :
    (makeDirs takes tree above rest).result = .ok (addDirs tree above rest) := by
  induction rest generalizing tree above with
  | nil => rfl
  | cons name rest ih =>
      have hbelow : ∀ q, q ≠ [] → q <+: rest → CanPass takes tree (above ++ [name] ++ q) := by
        intro q hq habove
        rw [List.append_assoc]
        exact h (name :: q) (by simp) (List.cons_prefix_cons.mpr ⟨rfl, habove⟩)
      rw [makeDirs, addDirs]
      rcases h [name] (by simp) (by simp) with hdir | ⟨hnone, hname⟩
      · rw [hdir, Function.update_eq_self_iff.mpr hdir.symm]
        exact ih hbelow
      · rw [hnone]
        simp only [hname, if_true]
        rw [Script.bind_of_ok (Script.result_emit _)]
        exact ih fun q hq habove => (canPass_update hq).mpr (hbelow q hq habove)

theorem canPass_of_makeDirs {above rest : List ν} {after : FileTree ν β}
    (h : (makeDirs takes tree above rest).result = .ok after) :
    ∀ q, q ≠ [] → q <+: rest → CanPass takes tree (above ++ q) := by
  induction rest generalizing tree above with
  | nil => exact fun q hq habove => absurd (List.prefix_nil.mp habove) hq
  | cons name rest ih =>
      suffices hname : CanPass takes tree (above ++ [name]) ∧
          ∀ q, q ≠ [] → q <+: rest → CanPass takes tree (above ++ [name] ++ q) by
        intro q hq habove
        obtain rfl | ⟨q, rfl, hrest⟩ := List.prefix_cons_iff.mp habove
        · exact absurd rfl hq
        rw [List.append_cons above name q]
        by_cases hnil : q = []
        · rw [hnil, List.append_nil]
          exact hname.1
        · exact hname.2 q hnil hrest
      rw [makeDirs] at h
      split at h
      next hdir => exact ⟨.inl hdir, ih h⟩
      next => cases h
      next hnone =>
        split at h
        next htakes =>
          rw [Script.bind_of_ok (Script.result_emit _)] at h
          refine ⟨.inr ⟨hnone, htakes⟩, fun q hq habove => ?_⟩
          exact (canPass_update hq).mp (ih h q hq habove)
        next => cases h

theorem makeDirs_log {above rest : List ν} :
    ∀ made ∈ (makeDirs takes tree above rest).log, ∃ q, q ≠ [] ∧ q <+: rest ∧
      made = above ++ q := by
  induction rest generalizing tree above with
  | nil => exact fun made hmade => absurd hmade (by simp [makeDirs])
  | cons name rest ih =>
      have hshift : ∀ made, (∃ q, q ≠ [] ∧ q <+: rest ∧ made = above ++ [name] ++ q) →
          ∃ q, q ≠ [] ∧ q <+: name :: rest ∧ made = above ++ q := by
        rintro made ⟨q, -, habove, rfl⟩
        exact ⟨name :: q, by simp, List.cons_prefix_cons.mpr ⟨rfl, habove⟩, by simp⟩
      intro made hmade
      rw [makeDirs] at hmade
      split at hmade
      next => exact hshift made (ih made hmade)
      next => simp at hmade
      next =>
        split at hmade
        next =>
          rw [Script.bind_of_ok (Script.result_emit _), Script.log_emit,
            List.singleton_append, List.mem_cons] at hmade
          rcases hmade with rfl | hmade
          · exact ⟨[name], by simp, by simp, rfl⟩
          · exact hshift made (ih made hmade)
        next => simp at hmade

theorem makeDirs_append {above base rest : List ν}
    (h : ∀ q, q ≠ [] → q <+: base → tree (above ++ q) = some .directory) :
    makeDirs takes tree above (base ++ rest) = makeDirs takes tree (above ++ base) rest := by
  induction base generalizing above with
  | nil => rw [List.nil_append, List.append_nil]
  | cons name base ih =>
      rw [List.cons_append, makeDirs, h [name] (by simp) (by simp)]
      rw [List.append_cons above name base]
      refine ih fun q hq habove => ?_
      rw [← List.append_cons above name q]
      exact h (name :: q) (by simp) (List.cons_prefix_cons.mpr ⟨rfl, habove⟩)

theorem makeDirs_result {above rest : List ν} {after : FileTree ν β}
    (h : (makeDirs takes tree above rest).result = .ok after) :
    after = addDirs tree above rest := by
  rw [makeDirs_ok (canPass_of_makeDirs h)] at h
  exact (Except.ok.inj h).symm

namespace Stands

variable {base : List ν} (h : Stands tree base)

include h

theorem makeDirs_eq (dirs : List ν) :
    makeDirs takes tree [] (base ++ dirs) = makeDirs takes tree base dirs :=
  makeDirs_append fun q _ habove => h q habove

theorem addDirs (dirs : List ν) : Stands (addDirs tree base dirs) base := by
  intro q hq
  rw [addDirs_other, h q hq]
  rintro r hr - rfl
  have hlength := hq.length_le
  have hpos := List.length_pos_of_ne_nil hr
  rw [List.length_append] at hlength
  omega

theorem update {rel : List ν} (hrel : rel ≠ []) (node : Option (Node β)) :
    Stands (Function.update tree (base ++ rel) node) base := by
  intro q hq
  rw [Function.update_of_ne, h q hq]
  rintro rfl
  have hlength := hq.length_le
  have hpos := List.length_pos_of_ne_nil hrel
  rw [List.length_append] at hlength
  omega

end Stands

end Dirs

/-! ## A directory with some files -/

section Holds

variable {ν β : Type} [DecidableEq ν]

def ProperPrefix (a b : List ν) : Prop := a <+: b ∧ a ≠ b

instance (a b : List ν) : Decidable (ProperPrefix a b) := inferInstanceAs (Decidable (_ ∧ _))

/-- Below the directory `base` there are these files, by their paths from there, and the
directories above them. -/
structure Holds (takes : List ν → Bool) (tree : FileTree ν β) (base : List ν)
    (files : List ν → Option β) : Prop where
  above : Stands tree base
  file_iff : ∀ rel, rel ≠ [] → ∀ c, tree (base ++ rel) = some (.file c) ↔ files rel = some c
  directory_iff : ∀ rel, rel ≠ [] →
    (tree (base ++ rel) = some .directory ↔ ∃ r, (files r).isSome ∧ ProperPrefix rel r)
  base_not_file : files [] = none
  taken : ∀ rel, (files rel).isSome → ∀ q, q ≠ [] → q <+: rel → takes (base ++ q) = true

/-- The file system takes the path and those above it, and no file is above or below. -/
structure Writable (takes : List ν → Bool) (base : List ν) (files : List ν → Option β)
    (rel : List ν) : Prop where
  taken : ∀ q, q ≠ [] → q <+: rel → takes (base ++ q) = true
  not_above : ∀ r, (files r).isSome → ¬ ProperPrefix rel r
  not_below : ∀ r, (files r).isSome → ¬ ProperPrefix r rel

variable {takes : List ν → Bool} {tree mid after : FileTree ν β} {base dirs : List ν}
  {name : ν} {files : List ν → Option β} {content : β}

omit [DecidableEq ν] in
theorem holds_empty (habove : Stands tree base)
    (hempty : ∀ rel, rel ≠ [] → tree (base ++ rel) = none) :
    Holds takes tree base fun _ => none where
  above := habove
  file_iff rel hrel c := by simp [hempty rel hrel]
  directory_iff rel hrel := by simp [hempty rel hrel]
  base_not_file := rfl
  taken := by simp

omit [DecidableEq ν] in
theorem properPrefix_concat_iff {r : List ν} : ProperPrefix r (dirs ++ [name]) ↔ r <+: dirs := by
  constructor
  · rintro ⟨habove, hne⟩
    exact (List.prefix_concat_iff.mp habove).resolve_left hne
  · intro habove
    refine ⟨List.prefix_concat_iff.mpr (.inr habove), ?_⟩
    rintro rfl
    have hlength := habove.length_le
    rw [List.length_append, List.length_singleton] at hlength
    omega

theorem addDirs_off {rel : List ν} (habove : ¬ rel <+: dirs) :
    addDirs tree base dirs (base ++ rel) = tree (base ++ rel) := by
  apply addDirs_other
  intro q _ hq heq
  rw [← List.append_cancel_left heq] at hq
  exact habove hq

theorem addDirs_at_file (dirs : List ν) (name : ν) :
    addDirs tree base dirs (base ++ (dirs ++ [name])) = tree (base ++ (dirs ++ [name])) := by
  apply addDirs_off
  intro habove
  have hlength := habove.length_le
  rw [List.length_append, List.length_singleton] at hlength
  omega

omit [DecidableEq ν] in
private theorem dropLast_file (base dirs : List ν) (name : ν) :
    (base ++ (dirs ++ [name])).dropLast = base ++ dirs := by
  rw [← List.append_assoc, List.dropLast_concat]

namespace Holds

variable (h : Holds takes tree base files)

include h

theorem makeDirs_ok (hw : Writable takes base files (dirs ++ [name])) :
    (makeDirs takes tree [] (base ++ dirs)).result = .ok (addDirs tree base dirs) := by
  rw [h.above.makeDirs_eq]
  refine Foundation.makeDirs_ok fun q hq habove => ?_
  have hbelow : ProperPrefix q (dirs ++ [name]) := properPrefix_concat_iff.mpr habove
  cases hnode : tree (base ++ q) with
  | none => exact .inr ⟨hnode, hw.taken q hq hbelow.1⟩
  | some node =>
      cases node with
      | directory => exact .inl hnode
      | file c =>
          have hfile := (h.file_iff q hq c).mp hnode
          exact absurd hbelow (hw.not_below q (by rw [hfile]; rfl))

theorem addDirs_dirs (dirs : List ν) : addDirs tree base dirs (base ++ dirs) = some .directory := by
  by_cases hdirs : dirs = []
  · rw [hdirs, List.append_nil]
    exact h.above.addDirs [] base (List.prefix_refl base)
  · exact addDirs_self hdirs (List.prefix_refl dirs)

theorem writeFile_ok (hw : Writable takes base files (dirs ++ [name])) (content : β) :
    writeFile takes (addDirs tree base dirs) (base ++ (dirs ++ [name])) content =
      .ok (Function.update (addDirs tree base dirs) (base ++ (dirs ++ [name]))
        (some (.file content))) := by
  rw [writeFile, dropLast_file, h.addDirs_dirs, addDirs_at_file]
  cases hnode : tree (base ++ (dirs ++ [name])) with
  | none => simp [hw.taken (dirs ++ [name]) (by simp) (List.prefix_refl _)]
  | some node =>
      cases node with
      | file c => rfl
      | directory =>
          obtain ⟨r, hr, hproper⟩ := (h.directory_iff _ (by simp)).mp hnode
          exact absurd hproper (hw.not_above r hr)

theorem put (hw : Writable takes base files (dirs ++ [name])) (content : β) :
    Holds takes (Function.update (addDirs tree base dirs) (base ++ (dirs ++ [name]))
        (some (.file content))) base
      (Function.update files (dirs ++ [name]) (some content)) where
  above := (h.above.addDirs dirs).update (by simp) _
  file_iff rel hrel c := by
    by_cases heq : rel = dirs ++ [name]
    · subst heq
      simp
    rw [Function.update_of_ne (by simpa using heq), Function.update_of_ne heq]
    by_cases habove : rel <+: dirs
    · rw [addDirs_self hrel habove]
      refine ⟨nofun, fun hfile => ?_⟩
      exact absurd (properPrefix_concat_iff.mpr habove) (hw.not_below rel (by rw [hfile]; rfl))
    · rw [addDirs_off habove]
      exact h.file_iff rel hrel c
  directory_iff rel hrel := by
    by_cases heq : rel = dirs ++ [name]
    · subst heq
      rw [Function.update_self]
      refine ⟨nofun, ?_⟩
      rintro ⟨r, hr, hproper⟩
      rw [Function.update_of_ne hproper.2.symm] at hr
      exact absurd hproper (hw.not_above r hr)
    rw [Function.update_of_ne (by simpa using heq)]
    by_cases habove : rel <+: dirs
    · rw [addDirs_self hrel habove]
      refine ⟨fun _ => ⟨dirs ++ [name], by simp, properPrefix_concat_iff.mpr habove⟩, fun _ => rfl⟩
    · rw [addDirs_off habove, h.directory_iff rel hrel]
      constructor
      · rintro ⟨r, hr, hproper⟩
        refine ⟨r, ?_, hproper⟩
        by_cases hsame : r = dirs ++ [name]
        · simp [hsame]
        · rwa [Function.update_of_ne hsame]
      · rintro ⟨r, hr, hproper⟩
        have hsame : r ≠ dirs ++ [name] := by
          rintro rfl
          exact habove (properPrefix_concat_iff.mp hproper)
        rw [Function.update_of_ne hsame] at hr
        exact ⟨r, hr, hproper⟩
  base_not_file := by
    rw [Function.update_of_ne (by simp), h.base_not_file]
  taken rel hrel q hq habove := by
    by_cases heq : rel = dirs ++ [name]
    · subst heq
      exact hw.taken q hq habove
    · rw [Function.update_of_ne heq] at hrel
      exact h.taken rel hrel q hq habove

theorem writable_of_put (hdirs : (makeDirs takes tree [] (base ++ dirs)).result = .ok mid)
    (hwrite : writeFile takes mid (base ++ (dirs ++ [name])) content = .ok after) :
    Writable takes base files (dirs ++ [name]) := by
  rw [h.above.makeDirs_eq] at hdirs
  have hpass := canPass_of_makeDirs hdirs
  have hmid := makeDirs_result hdirs
  rw [hmid, writeFile, dropLast_file, h.addDirs_dirs, addDirs_at_file] at hwrite
  have hfile : tree (base ++ (dirs ++ [name])) ≠ some .directory := by
    intro hdir
    rw [hdir] at hwrite
    cases hwrite
  constructor
  · intro q hq habove
    rcases List.prefix_concat_iff.mp habove with rfl | habove
    · cases hnode : tree (base ++ (dirs ++ [name])) with
      | none =>
          rw [hnode] at hwrite
          simp only at hwrite
          split at hwrite
          next htakes => exact htakes
          next => cases hwrite
      | some node =>
          cases node with
          | directory => exact absurd hnode hfile
          | file c =>
              have hsome := (h.file_iff _ hq c).mp hnode
              exact h.taken _ (by rw [hsome]; rfl) _ hq (List.prefix_refl _)
    · rcases hpass q hq habove with hdir | ⟨-, htakes⟩
      · obtain ⟨r, hr, hproper⟩ := (h.directory_iff q hq).mp hdir
        exact h.taken r hr q hq hproper.1
      · exact htakes
  · intro r hr hproper
    exact hfile ((h.directory_iff _ (by simp)).mpr ⟨r, hr, hproper⟩)
  · intro r hr hproper
    have hne : r ≠ [] := by
      rintro rfl
      rw [h.base_not_file] at hr
      cases hr
    obtain ⟨c, hc⟩ := Option.isSome_iff_exists.mp hr
    have hnode := (h.file_iff r hne c).mpr hc
    rcases hpass r hne (properPrefix_concat_iff.mp hproper) with hdir | ⟨hnone, -⟩
    · rw [hnode] at hdir
      cases hdir
    · rw [hnode] at hnone
      cases hnone

end Holds

/-! ### Several files -/

def listing (files : List ν → Option β) (puts : List (List ν × β)) : List ν → Option β :=
  puts.foldl (fun files put => Function.update files put.1 (some put.2)) files

structure WritableAll (takes : List ν → Bool) (base : List ν) (files : List ν → Option β)
    (puts : List (List ν × β)) : Prop where
  taken : ∀ put ∈ puts, ∀ q, q ≠ [] → q <+: put.1 → takes (base ++ q) = true
  not_above : ∀ put ∈ puts, ∀ r, (files r).isSome → ¬ ProperPrefix put.1 r
  not_below : ∀ put ∈ puts, ∀ r, (files r).isSome → ¬ ProperPrefix r put.1
  apart : ∀ put ∈ puts, ∀ other ∈ puts, ¬ ProperPrefix put.1 other.1

theorem isSome_update_iff {rel r : List ν} :
    (Function.update files rel (some content) r).isSome ↔ r = rel ∨ (files r).isSome := by
  by_cases hr : r = rel
  · simp [hr]
  · rw [Function.update_of_ne hr]
    simp [hr]

omit [DecidableEq ν] in
theorem not_properPrefix_self (a : List ν) : ¬ ProperPrefix a a := fun h => h.2 rfl

theorem writableAll_cons_iff {put : List ν × β} {puts : List (List ν × β)} :
    WritableAll takes base files (put :: puts) ↔ Writable takes base files put.1 ∧
      WritableAll takes base (Function.update files put.1 (some put.2)) puts := by
  constructor
  · rintro ⟨htaken, habove, hbelow, hapart⟩
    simp only [List.mem_cons, forall_eq_or_imp] at htaken habove hbelow hapart
    refine ⟨⟨htaken.1, habove.1, hbelow.1⟩, htaken.2, ?_, ?_, fun p hp => (hapart.2 p hp).2⟩
    · intro p hp r hr
      rcases isSome_update_iff.mp hr with rfl | hr
      · exact (hapart.2 p hp).1
      · exact habove.2 p hp r hr
    · intro p hp r hr
      rcases isSome_update_iff.mp hr with rfl | hr
      · exact hapart.1.2 p hp
      · exact hbelow.2 p hp r hr
  · rintro ⟨hfirst, hrest⟩
    have hself : (Function.update files put.1 (some put.2) put.1).isSome :=
      isSome_update_iff.mpr (.inl rfl)
    constructor <;> simp only [List.mem_cons, forall_eq_or_imp]
    · exact ⟨hfirst.taken, hrest.taken⟩
    · exact ⟨hfirst.not_above, fun p hp r hr =>
        hrest.not_above p hp r (isSome_update_iff.mpr (.inr hr))⟩
    · exact ⟨hfirst.not_below, fun p hp r hr =>
        hrest.not_below p hp r (isSome_update_iff.mpr (.inr hr))⟩
    · exact ⟨⟨not_properPrefix_self _, fun p hp => hrest.not_below p hp _ hself⟩, fun p hp =>
        ⟨hrest.not_above p hp _ hself, hrest.apart p hp⟩⟩

theorem listing_of_not_mem {puts : List (List ν × β)} {rel : List ν}
    (h : rel ∉ puts.map Prod.fst) : listing files puts rel = files rel := by
  induction puts generalizing files with
  | nil => rfl
  | cons put puts ih =>
      rw [List.map_cons, List.mem_cons, not_or] at h
      exact (ih h.2).trans (Function.update_of_ne h.1 _ _)

theorem listing_of_mem {puts : List (List ν × β)} (hnodup : (puts.map Prod.fst).Nodup)
    {put : List ν × β} (h : put ∈ puts) : listing files puts put.1 = some put.2 := by
  induction puts generalizing files with
  | nil => cases h
  | cons first puts ih =>
      rw [List.map_cons, List.nodup_cons] at hnodup
      rcases List.mem_cons.mp h with rfl | h
      · exact (listing_of_not_mem hnodup.1).trans (Function.update_self ..)
      · exact ih hnodup.2 h

theorem isSome_listing_iff {puts : List (List ν × β)} {rel : List ν} :
    (listing files puts rel).isSome ↔ (files rel).isSome ∨ rel ∈ puts.map Prod.fst := by
  induction puts generalizing files with
  | nil => simp [listing]
  | cons put puts ih =>
      change (listing (Function.update files put.1 (some put.2)) puts rel).isSome ↔ _
      rw [ih, isSome_update_iff, List.map_cons, List.mem_cons]
      tauto

end Holds

end JudgeVortex.Foundation
