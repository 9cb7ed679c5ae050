import JudgeVortex.Foundation.BlankSplit

/-!
# Groups of lines and paragraphs

`paragraphs` are the maximal runs of non-blank lines.  The groups of a split at
blank lines are the paragraphs, except that the first and the last line of the
whole text stay in their groups although they may be blank.
-/

namespace JudgeVortex.Foundation

/-! ## Paragraphs -/

section Paragraphs

variable {β : Type*} (blank : β → Bool)

/-- The maximal runs of non-blank lines. -/
def paragraphs (lines : List β) : List (List β) :=
  (lines.splitOnP blank).filter fun group => !group.isEmpty

@[simp] theorem paragraphs_nil : paragraphs blank [] = [] := by
  simp [paragraphs]

theorem paragraphs_append_cons {b : β} (hb : blank b = true) (before after : List β) :
    paragraphs blank (before ++ b :: after) =
      paragraphs blank before ++ paragraphs blank after := by
  simp [paragraphs, List.splitOnP_append_cons before after hb]

theorem paragraphs_cons {b : β} (hb : blank b = true) (after : List β) :
    paragraphs blank (b :: after) = paragraphs blank after := by
  simpa using paragraphs_append_cons blank hb [] after

theorem paragraphs_blanks_append {blanks : List β}
    (h : ∀ b ∈ blanks, blank b = true) (lines : List β) :
    paragraphs blank (blanks ++ lines) = paragraphs blank lines := by
  induction blanks with
  | nil => rfl
  | cons b blanks ih =>
      rw [List.cons_append, paragraphs_cons blank (h b (by simp)),
        ih fun b hb => h b (List.mem_cons_of_mem _ hb)]

theorem paragraphs_append_blanks {blanks : List β}
    (h : ∀ b ∈ blanks, blank b = true) (lines : List β) :
    paragraphs blank (lines ++ blanks) = paragraphs blank lines := by
  cases blanks with
  | nil => rw [List.append_nil]
  | cons b blanks =>
      have hrest := paragraphs_blanks_append blank
        (fun b hb => h b (List.mem_cons_of_mem _ hb)) []
      rw [List.append_nil, paragraphs_nil] at hrest
      rw [paragraphs_append_cons blank (h b (by simp)), hrest, List.append_nil]

theorem paragraphs_of_solid {lines : List β} (hne : lines ≠ [])
    (h : ∀ l ∈ lines, blank l = false) : paragraphs blank lines = [lines] := by
  cases lines with
  | nil => exact absurd rfl hne
  | cons l lines => simp [paragraphs, List.splitOnP_eq_singleton h]

theorem paragraphs_joinLines {e : β} (he : blank e = true) (sections : List (List β)) :
    paragraphs blank (joinLines e sections) = sections.flatMap (paragraphs blank) := by
  induction sections with
  | nil => simp
  | cons lines sections ih =>
      cases sections with
      | nil => simp
      | cons next rest =>
          rw [joinLines_cons_cons, paragraphs_append_cons blank he, ih]
          rfl

theorem paragraphs_cases (lines : List β) :
    ((∀ l ∈ lines, blank l = true) ∧ paragraphs blank lines = []) ∨
    ∃ blanks group rest, lines = blanks ++ group ++ rest ∧
      (∀ l ∈ blanks, blank l = true) ∧ group ≠ [] ∧
      (∀ l ∈ group, blank l = false) ∧
      (∀ l ∈ rest.head?, blank l = true) ∧
      paragraphs blank lines = group :: paragraphs blank rest := by
  cases hdrop : lines.dropWhile blank with
  | nil =>
      have hblank := List.dropWhile_eq_nil_iff.mp hdrop
      refine .inl ⟨hblank, ?_⟩
      have := paragraphs_blanks_append blank hblank []
      simpa using this
  | cons first tail =>
      have hfirst : blank first = false := by
        have := List.head?_dropWhile_not blank lines
        rw [hdrop] at this
        simpa using this
      let group := (first :: tail).takeWhile fun l => !blank l
      let rest := (first :: tail).dropWhile fun l => !blank l
      have hsplit : group ++ rest = first :: tail := List.takeWhile_append_dropWhile
      have hgroup : ∀ l ∈ group, blank l = false := by
        intro l hl
        simpa using List.mem_takeWhile_imp hl
      have hne : group ≠ [] := by
        simp [group, hfirst]
      have hhead : ∀ l ∈ rest.head?, blank l = true := by
        intro l hl
        have := List.head?_dropWhile_not (fun l => !blank l) (first :: tail)
        rw [Option.mem_def] at hl
        change (match rest.head? with | some x => _ | none => True) at this
        rw [hl] at this
        simpa using this
      have hblanks : ∀ l ∈ lines.takeWhile blank, blank l = true :=
        fun l hl => List.mem_takeWhile_imp hl
      have hlines : lines = lines.takeWhile blank ++ group ++ rest := by
        rw [List.append_assoc, hsplit, ← hdrop, List.takeWhile_append_dropWhile]
      refine .inr ⟨lines.takeWhile blank, group, rest, hlines, hblanks, hne, hgroup,
        hhead, ?_⟩
      rw [hlines, List.append_assoc, paragraphs_blanks_append blank hblanks]
      cases hrest : rest with
      | nil => simpa using paragraphs_of_solid blank hne hgroup
      | cons b after =>
          have hb : blank b = true := hhead b (by simp [hrest])
          rw [paragraphs_append_cons blank hb, paragraphs_of_solid blank hne hgroup,
            paragraphs_cons blank hb, List.singleton_append]

theorem paragraphs_eq_nil_iff {lines : List β} :
    paragraphs blank lines = [] ↔ ∀ l ∈ lines, blank l = true := by
  rcases paragraphs_cases blank lines with ⟨hblank, hnil⟩ |
    ⟨blanks, group, rest, rfl, -, hne, hgroup, -, hcons⟩
  · exact iff_of_true hnil hblank
  · rw [hcons]
    refine iff_of_false (by simp) fun hall => ?_
    obtain ⟨l, hl⟩ := List.exists_mem_of_ne_nil group hne
    have := hall l (by simp [hl])
    rw [hgroup l hl] at this
    cases this

theorem eq_of_paragraphs_eq_singleton {lines group : List β}
    (h : paragraphs blank lines = [group]) :
    ∃ before after, lines = before ++ group ++ after ∧
      (∀ l ∈ before, blank l = true) ∧ ∀ l ∈ after, blank l = true := by
  rcases paragraphs_cases blank lines with ⟨-, hnil⟩ |
    ⟨blanks, first, rest, hlines, hblanks, -, -, -, hcons⟩
  · rw [hnil] at h
    cases h
  · rw [hcons, List.cons.injEq] at h
    obtain ⟨rfl, hrest⟩ := h
    exact ⟨blanks, rest, hlines, hblanks, (paragraphs_eq_nil_iff blank).mp hrest⟩

private theorem length_paragraphs_map (lines : List β) :
    (paragraphs blank lines).length = (paragraphs id (lines.map blank)).length := by
  rcases paragraphs_cases blank lines with ⟨hblank, hnil⟩ |
    ⟨blanks, group, rest, hlines, hblanks, hne, hgroup, hhead, hcons⟩
  · have hnil' : paragraphs id (lines.map blank) = [] := by
      rw [paragraphs_eq_nil_iff]
      simpa using hblank
    rw [hnil, hnil']
    rfl
  · have hshorter : rest.length < lines.length := by
      have := List.length_pos_of_ne_nil hne
      rw [hlines, List.length_append, List.length_append]
      omega
    have hrest := length_paragraphs_map rest
    have hmapped : paragraphs id (group.map blank ++ rest.map blank) =
        group.map blank :: paragraphs id (rest.map blank) := by
      have hsolid : paragraphs id (group.map blank) = [group.map blank] :=
        paragraphs_of_solid id (by simpa using hne) (by simpa using hgroup)
      cases rest with
      | nil => simpa using hsolid
      | cons b after =>
          have hb : blank b = true := hhead b rfl
          rw [List.map_cons, paragraphs_append_cons id hb, hsolid, paragraphs_cons id hb]
          rfl
    rw [hcons, hlines, List.map_append, List.map_append, List.append_assoc,
      paragraphs_blanks_append id (by simpa using hblanks), hmapped, List.length_cons,
      List.length_cons, hrest]
termination_by lines.length

theorem length_paragraphs_congr {γ : Type*} {blank' : γ → Bool} {lines : List β}
    {lines' : List γ} (h : lines.map blank = lines'.map blank') :
    (paragraphs blank lines).length = (paragraphs blank' lines').length := by
  rw [length_paragraphs_map, h, ← length_paragraphs_map]

end Paragraphs

/-! ## Groups and paragraphs -/

section GroupsOfLines

variable {β : Type*} (blank : β → Bool)

def hasSolid (lines : List β) : Bool := lines.any fun line => !blank line

/--
Blank lines stand at the ends of a group only: as its first line if `first` holds
and as its last line if `last` holds.
-/
def SolidInside (first last : Prop) (lines : List β) : Prop :=
  ∀ before line after, lines = before ++ line :: after → blank line = true →
    (first ∧ before = []) ∨ (last ∧ after = [])

theorem solidInside_nil (first last : Prop) :
    SolidInside blank first last ([] : List β) := by
  intro before line after h
  simp at h

theorem SolidInside.mono {first last first' last' : Prop} {lines : List β}
    (hfirst : first → first') (hlast : last → last')
    (h : SolidInside blank first last lines) :
    SolidInside blank first' last' lines := by
  intro before line after heq hline
  exact (h before line after heq hline).imp (And.imp_left hfirst)
    (And.imp_left hlast)

theorem SolidInside.concat {first : Prop} {lines : List β}
    (h : SolidInside blank first False lines) (line : β) :
    SolidInside blank first True (lines ++ [line]) := by
  intro before l after heq hl
  rcases List.eq_nil_or_concat after with rfl | ⟨after, last, rfl⟩
  · exact .inr ⟨trivial, rfl⟩
  · rw [List.concat_eq_append, ← List.cons_append, ← List.append_assoc] at heq
    have hlines := (List.append_inj' heq rfl).1
    exact (h before l after hlines hl).elim .inl fun hfalse => hfalse.1.elim

theorem SolidInside.concat_solid {first : Prop} {lines : List β}
    (h : SolidInside blank first False lines) {line : β}
    (hline : blank line = false) :
    SolidInside blank first False (lines ++ [line]) := by
  intro before l after heq hl
  rcases h.concat blank line before l after heq hl with hfirst | ⟨-, rfl⟩
  · exact .inl hfirst
  · have hlast := (List.append_inj' heq rfl).2
    rw [List.cons.injEq] at hlast
    rw [hlast.1, hl] at hline
    cases hline

theorem SolidInside.of_append {first last : Prop} {before lines after : List β}
    (h : SolidInside blank first last (before ++ lines ++ after)) :
    SolidInside blank first last lines := by
  rintro pre line post rfl hline
  have := h (before ++ pre) line (post ++ after) (by simp) hline
  simp only [List.append_eq_nil_iff] at this
  exact this.imp (And.imp_right And.right) (And.imp_right And.left)

theorem length_paragraphs_of_solidInside {first last : Prop} {lines : List β}
    (hsolid : hasSolid blank lines = true) (h : SolidInside blank first last lines) :
    (paragraphs blank lines).length = 1 := by
  rcases paragraphs_cases blank lines with ⟨hblank, -⟩ |
    ⟨blanks, group, rest, hlines, -, hne, -, hhead, hcons⟩
  · rw [hasSolid, List.any_eq_true] at hsolid
    obtain ⟨line, hline, hfalse⟩ := hsolid
    simp [hblank line hline] at hfalse
  · -- What follows the group begins with a blank line, so that is the last line.
    have hrest : paragraphs blank rest = [] := by
      cases rest with
      | nil => exact paragraphs_nil blank
      | cons b after =>
          have hb : blank b = true := hhead b rfl
          rcases h (blanks ++ group) b after hlines hb with ⟨-, hnil⟩ | ⟨-, rfl⟩
          · exact absurd (List.append_eq_nil_iff.mp hnil).2 hne
          · rw [paragraphs_cons blank hb, paragraphs_nil]
    rw [hcons, hrest, List.length_singleton]

private theorem closeGroup_solidInside {first : Prop} {current : List β}
    (h : SolidInside blank first False current.reverse) {pre post : List (List β)}
    {group : List β} (hgroup : closeGroup current = pre ++ group :: post) :
    pre = [] ∧ post = [] ∧ SolidInside blank first False group := by
  cases current with
  | nil => simp [closeGroup] at hgroup
  | cons line current =>
      have hone := hgroup.symm
      rw [closeGroup, List.append_eq_singleton_iff] at hone
      rcases hone with ⟨rfl, hcons⟩ | ⟨-, hcons⟩
      · rw [List.cons.injEq] at hcons
        obtain ⟨rfl, rfl⟩ := hcons
        exact ⟨rfl, rfl, h⟩
      · cases hcons

private theorem groupLinesFrom_solidInside {first : Prop} {current : List β}
    (h : SolidInside blank first False current.reverse) (lines : List β)
    {pre post : List (List β)} {group : List β}
    (hgroup : groupLinesFrom blank current lines = pre ++ group :: post) :
    SolidInside blank (first ∧ pre = []) (post = []) group := by
  induction lines generalizing first current pre with
  | nil =>
      obtain ⟨hpre, -, hsolid⟩ := closeGroup_solidInside blank h hgroup
      exact hsolid.mono blank (fun hf => ⟨hf, hpre⟩) False.elim
  | cons line lines ih =>
      cases lines with
      | nil =>
          have hone := hgroup.symm
          rw [groupLinesFrom, List.append_eq_singleton_iff] at hone
          rcases hone with ⟨rfl, hcons⟩ | ⟨-, hcons⟩
          · rw [List.cons.injEq] at hcons
            obtain ⟨rfl, rfl⟩ := hcons
            rw [List.reverse_cons]
            exact (h.concat blank line).mono blank (fun hf => ⟨hf, rfl⟩) fun _ => rfl
          · cases hcons
      | cons next rest =>
          cases hblank : blank line with
          | false =>
              simp only [groupLinesFrom, hblank, Bool.false_eq_true, if_false] at hgroup
              refine ih ?_ hgroup
              rw [List.reverse_cons]
              exact h.concat_solid blank hblank
          | true =>
              simp only [groupLinesFrom, hblank, if_true] at hgroup
              rw [List.append_eq_append_iff] at hgroup
              have hopen : SolidInside blank False False ([] : List β).reverse :=
                solidInside_nil blank _ _
              rcases hgroup with ⟨middle, rfl, hrest⟩ | ⟨middle, hclose, hrest⟩
              · exact (ih hopen hrest).mono blank (fun hf => hf.1.elim) id
              · cases middle with
                | nil =>
                    rw [List.append_nil] at hclose
                    have hsplit := hrest.symm.trans (List.nil_append _).symm
                    exact (ih hopen hsplit).mono blank
                      (fun hf => hf.1.elim) id
                | cons head middle =>
                    rw [List.cons_append, List.cons.injEq] at hrest
                    obtain ⟨rfl, rfl⟩ := hrest
                    obtain ⟨hpre, -, hsolid⟩ :=
                      closeGroup_solidInside blank h hclose
                    exact hsolid.mono blank (fun hf => ⟨hf, hpre⟩) False.elim

theorem solidInside_singleton (line : β) : SolidInside blank True False [line].reverse := by
  intro before l after heq _
  have := List.append_eq_singleton_iff.mp heq.symm
  simp_all

theorem groupLines_solidInside {lines : List β} {pre post : List (List β)}
    {group : List β} (hgroup : groupLines blank lines = pre ++ group :: post) :
    SolidInside blank (pre = []) (post = []) group := by
  cases lines with
  | nil => simp [groupLines] at hgroup
  | cons line rest =>
      exact (groupLinesFrom_solidInside blank (solidInside_singleton blank line) rest hgroup).mono
        blank And.right id

end GroupsOfLines

section MapGroups

variable {β γ : Type*} {blank : β → Bool} {f : List β → γ}

private theorem map_closeGroup
    (hcons : ∀ b lines, blank b = true → lines ≠ [] → f (b :: lines) = f lines)
    {current : List β} (h : SolidInside blank True False current.reverse) :
    ((closeGroup current).filter (hasSolid blank)).map f =
      (paragraphs blank current.reverse).map f := by
  cases hcurrent : current.reverse with
  | nil =>
      rw [List.reverse_eq_nil_iff.mp hcurrent]
      simp [closeGroup]
  | cons line rest =>
      have hclose : closeGroup current = [line :: rest] := by
        cases current with
        | nil => simp at hcurrent
        | cons l current => rw [closeGroup, hcurrent]
      have hrest : ∀ l ∈ rest, blank l = false := by
        intro l hl
        obtain ⟨before, after, rfl⟩ := List.append_of_mem hl
        rw [hcurrent] at h
        by_contra hblank
        rw [Bool.not_eq_false] at hblank
        have := h (line :: before) l after rfl hblank
        simp at this
      rw [hclose]
      cases hline : blank line with
      | false =>
          have hall : ∀ l ∈ line :: rest, blank l = false := by
            simpa [hline] using hrest
          rw [paragraphs_of_solid blank (by simp) hall]
          simp [hasSolid, hline]
      | true =>
          rw [paragraphs_cons blank hline]
          cases rest with
          | nil => simp [hasSolid, hline]
          | cons next rest =>
              rw [paragraphs_of_solid blank (by simp) hrest]
              simp [hasSolid, hline, hrest next (by simp), hcons line _ hline]

private theorem map_groupLinesFrom
    (hcons : ∀ b lines, blank b = true → lines ≠ [] → f (b :: lines) = f lines)
    (hconcat : ∀ b lines, blank b = true → lines ≠ [] → f (lines ++ [b]) = f lines)
    {current : List β} (h : SolidInside blank True False current.reverse)
    (lines : List β) :
    ((groupLinesFrom blank current lines).filter (hasSolid blank)).map f =
      (paragraphs blank (current.reverse ++ lines)).map f := by
  induction lines generalizing current with
  | nil =>
      rw [List.append_nil]
      exact map_closeGroup hcons h
  | cons line lines ih =>
      have hopen : SolidInside blank True False ([] : List β).reverse :=
        solidInside_nil blank _ _
      cases hline : blank line with
      | true =>
          rw [paragraphs_append_cons blank hline, List.map_append,
            ← map_closeGroup hcons h]
          cases lines with
          | nil =>
              cases current with
              | nil => simp [groupLinesFrom, closeGroup, hasSolid, hline]
              | cons last current =>
                  have hne : (last :: current).reverse ≠ [] := by simp
                  have hsame : hasSolid blank (line :: last :: current).reverse =
                      hasSolid blank (last :: current).reverse := by
                    simp [hasSolid, hline]
                  simp only [groupLinesFrom, closeGroup, List.filter_cons, hsame,
                    List.filter_nil, paragraphs_nil, List.map_nil, List.append_nil]
                  split
                  · rw [List.map_singleton, List.map_singleton,
                      List.reverse_cons (a := line), hconcat line _ hline hne]
                  · rfl
          | cons next rest =>
              have hrest := ih hopen
              rw [List.reverse_nil, List.nil_append] at hrest
              simp only [groupLinesFrom, hline, if_true, List.filter_append,
                List.map_append, hrest]
      | false =>
          have hextend := h.concat_solid blank hline
          rw [← List.reverse_cons] at hextend
          cases lines with
          | nil =>
              have hone := map_closeGroup hcons hextend
              rw [List.reverse_cons] at hone
              rw [← hone]
              rfl
          | cons next rest =>
              have hrest := ih hextend
              rw [List.reverse_cons, List.append_assoc, List.singleton_append] at hrest
              simpa only [groupLinesFrom, hline, Bool.false_eq_true, if_false] using hrest

/--
Groups and paragraphs are the same to a function that does not see blank lines at
the ends of a text.
-/
theorem map_groupLines
    (hcons : ∀ b lines, blank b = true → lines ≠ [] → f (b :: lines) = f lines)
    (hconcat : ∀ b lines, blank b = true → lines ≠ [] → f (lines ++ [b]) = f lines)
    (lines : List β) :
    ((groupLines blank lines).filter (hasSolid blank)).map f =
      (paragraphs blank lines).map f := by
  cases lines with
  | nil => simp [groupLines]
  | cons line rest =>
      exact map_groupLinesFrom hcons hconcat (solidInside_singleton blank line) rest

theorem length_groupLines (lines : List β) :
    ((groupLines blank lines).filter (hasSolid blank)).length =
      (paragraphs blank lines).length := by
  have hmap : (((groupLines blank lines).filter (hasSolid blank)).map fun _ => ()) =
      (paragraphs blank lines).map fun _ => () :=
    map_groupLines (fun _ _ _ _ => rfl) (fun _ _ _ _ => rfl) lines
  simpa using congrArg List.length hmap

end MapGroups

/-! ## Texts put together from sections -/

section Sections

variable {β : Type*} {blank : β → Bool}

private theorem groupLinesFrom_solid {solid : List β}
    (h : ∀ l ∈ solid, blank l = false) (current : List β) {rest : List β}
    (hrest : rest ≠ []) :
    groupLinesFrom blank current (solid ++ rest) =
      groupLinesFrom blank (solid.reverse ++ current) rest := by
  induction solid generalizing current with
  | nil => rfl
  | cons line solid ih =>
      have htail := ih (fun l hl => h l (List.mem_cons_of_mem _ hl)) (line :: current)
      cases hsplit : solid ++ rest with
      | nil => exact absurd (List.append_eq_nil_iff.mp hsplit).2 hrest
      | cons next after =>
          rw [hsplit] at htail
          simp [hsplit, groupLinesFrom, h line (by simp), htail]

private theorem groupLinesFrom_gap {gap : List β}
    (h : ∀ l ∈ gap, blank l = true) (hgap : gap ≠ []) (current : List β)
    {rest : List β} (hrest : rest ≠ []) :
    groupLinesFrom blank current (gap ++ rest) =
      closeGroup current ++ groupLinesFrom blank [] rest := by
  induction gap generalizing current with
  | nil => exact absurd rfl hgap
  | cons line gap ih =>
      cases hsplit : gap ++ rest with
      | nil => exact absurd (List.append_eq_nil_iff.mp hsplit).2 hrest
      | cons next after =>
          simp only [List.cons_append, hsplit, groupLinesFrom, h line (by simp), if_true]
          rw [← hsplit]
          cases gap with
          | nil => rfl
          | cons second gap =>
              rw [ih (fun l hl => h l (List.mem_cons_of_mem _ hl)) (by simp)]
              rfl

theorem solid_of_solidInside {lines : List β}
    (h : SolidInside blank False False lines) : ∀ l ∈ lines, blank l = false := by
  intro l hl
  obtain ⟨before, after, rfl⟩ := List.append_of_mem hl
  by_contra hblank
  rw [Bool.not_eq_false] at hblank
  have := h before l after rfl hblank
  simp at this

theorem SolidInside.tail {first last : Prop} {line : β} {lines : List β}
    (h : SolidInside blank first last (line :: lines)) :
    SolidInside blank False last lines := by
  rintro before l after rfl hl
  have := h (line :: before) l after rfl hl
  simpa using this

theorem SolidInside.dropLast {first last : Prop} {line : β} {lines : List β}
    (h : SolidInside blank first last (lines ++ [line])) :
    SolidInside blank first False lines := by
  rintro before l after rfl hl
  have := h before l (after ++ [line]) (by simp) hl
  simpa using this

variable {empty : β → Bool} (hempty : ∀ l, empty l = true → blank l = true)
  {e : β} (he : empty e = true)

include hempty he

private theorem groupLinesFrom_sections {sections : List (List β)}
    (hne : sections ≠ [])
    (h : ∀ pre lines post, sections = pre ++ lines :: post →
      trim empty lines ≠ [] ∧
        SolidInside blank False (post = []) (trim empty lines)) :
    trim empty (joinLines e sections) ≠ [] ∧
      groupLinesFrom blank [] (trim empty (joinLines e sections)) =
        sections.map (trim empty) := by
  induction sections with
  | nil => exact absurd rfl hne
  | cons lines sections ih =>
      obtain ⟨htrim, hsolid⟩ := h [] lines sections rfl
      cases sections with
      | nil =>
          rw [joinLines_singleton, List.map_singleton]
          refine ⟨htrim, ?_⟩
          rcases List.eq_nil_or_concat (trim empty lines) with hnil | ⟨init, last, hlast⟩
          · exact absurd hnil htrim
          · rw [hlast, List.concat_eq_append] at hsolid ⊢
            have hinit := solid_of_solidInside hsolid.dropLast
            rw [groupLinesFrom_solid hinit [] (by simp)]
            simp [groupLinesFrom]
      | cons next rest =>
          obtain ⟨hrest, hgroups⟩ := ih (by simp) fun pre l post heq =>
            h (lines :: pre) l post (by rw [heq]; rfl)
          obtain ⟨gap, hgap, hall, heq⟩ := trim_append_gap empty he htrim hrest
          have hlines : ∀ l ∈ trim empty lines, blank l = false :=
            solid_of_solidInside (hsolid.mono blank id (by simp))
          rw [joinLines_cons_cons, heq]
          refine ⟨by simp [htrim], ?_⟩
          rw [groupLinesFrom_solid hlines [] (by simp [hgap]),
            groupLinesFrom_gap (fun l hl => hempty l (hall l hl)) hgap _ hrest, hgroups,
            List.append_nil]
          have hclose : closeGroup (trim empty lines).reverse = [trim empty lines] := by
            cases hreverse : (trim empty lines).reverse with
            | nil => exact absurd (List.reverse_eq_nil_iff.mp hreverse) htrim
            | cons l current =>
                rw [closeGroup, ← hreverse, List.reverse_reverse]
          rw [hclose]
          rfl

theorem groupLines_sections {first : List β} {sections : List (List β)}
    (hne : sections ≠ [])
    (h : ∀ pre lines post, first :: sections = pre ++ lines :: post →
      trim empty lines ≠ [] ∧
        SolidInside blank (pre = []) (post = []) (trim empty lines)) :
    groupLines blank (trim empty (joinLines e (first :: sections))) =
      (first :: sections).map (trim empty) := by
  obtain ⟨hfirst, hsolid⟩ := h [] first sections rfl
  obtain ⟨hrest, hgroups⟩ := groupLinesFrom_sections hempty he hne
    fun pre l post heq => by
      have := h (first :: pre) l post (by rw [heq]; rfl)
      simpa using this
  have hjoin : joinLines e (first :: sections) = first ++ e :: joinLines e sections := by
    cases sections with
    | nil => exact absurd rfl hne
    | cons next rest => rw [joinLines_cons_cons]
  obtain ⟨gap, hgap, hall, heq⟩ := trim_append_gap empty he hfirst hrest
  rw [hjoin, heq, List.map_cons]
  cases hhead : trim empty first with
  | nil => exact absurd hhead hfirst
  | cons line lines =>
      rw [hhead] at hsolid
      have hlines : ∀ l ∈ lines, blank l = false :=
        solid_of_solidInside (hsolid.tail.mono blank id (by simp [hne]))
      rw [List.cons_append, groupLines, groupLinesFrom_solid hlines _ (by simp [hgap]),
        groupLinesFrom_gap (fun l hl => hempty l (hall l hl)) hgap _ hrest, hgroups]
      have hclose : closeGroup (lines.reverse ++ [line]) = [line :: lines] := by
        cases hreverse : lines.reverse ++ [line] with
        | nil => simp at hreverse
        | cons l current =>
            rw [closeGroup, ← hreverse]
            simp
      rw [hclose, List.singleton_append]

end Sections

end JudgeVortex.Foundation
