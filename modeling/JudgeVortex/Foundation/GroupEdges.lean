import JudgeVortex.Foundation.Paragraphs

/-!
# When groups are paragraphs

A group of lines differs from its paragraph only by a blank line at the very start or
the very end of the text, and only if that line stands next to a solid one.
-/

namespace JudgeVortex.Foundation

variable {β : Type*} (blank : β → Bool)

/-- No blank line at an end of the text touches a solid line. -/
def CleanEdges (lines : List β) : Prop :=
  (∀ first second rest, lines = first :: second :: rest → blank first = true →
    blank second = true) ∧
  ∀ front second last, lines = front ++ [second, last] → blank last = true → blank second = true

theorem cleanEdges_of_length_le_one {lines : List β} (h : lines.length ≤ 1) :
    CleanEdges blank lines := by
  constructor
  · rintro first second rest rfl
    simp at h
  · rintro front second last rfl
    simp at h

private theorem groupLinesFrom_first {current : List β} (hne : current ≠ []) (lines : List β) :
    ∃ tail groups, groupLinesFrom blank current lines = (current.reverse ++ tail) :: groups ∧
      tail <+: lines ∧ ∀ line ∈ lines.head?, blank line = false → line ∈ tail.head? := by
  induction lines generalizing current with
  | nil =>
      cases current with
      | nil => exact absurd rfl hne
      | cons line current => exact ⟨[], [], by simp [groupLinesFrom, closeGroup], by simp, by simp⟩
  | cons line lines ih =>
      cases lines with
      | nil => exact ⟨[line], [], by simp [groupLinesFrom], by simp, by simp⟩
      | cons next rest =>
          cases hline : blank line with
          | true =>
              obtain ⟨last, current, rfl⟩ := List.exists_cons_of_ne_nil hne
              refine ⟨[], groupLinesFrom blank [] (next :: rest), ?_, by simp, ?_⟩
              · simp [groupLinesFrom, closeGroup, hline]
              · rintro _ ⟨⟩ hsolid
                rw [hline] at hsolid
                cases hsolid
          | false =>
              obtain ⟨tail, groups, hgroups, hpre, -⟩ := ih (List.cons_ne_nil line current)
              refine ⟨line :: tail, groups, ?_, ?_, by simp⟩
              · simp [groupLinesFrom, hline, hgroups]
              · exact List.cons_prefix_cons.mpr ⟨rfl, hpre⟩

private theorem groupLinesFrom_last (current front : List β) (last : β) :
    ∃ groups tail, groupLinesFrom blank current (front ++ [last]) = groups ++ [tail ++ [last]] ∧
      tail <:+ current.reverse ++ front ∧ (front = [] → tail = current.reverse) ∧
      ∀ line ∈ front.getLast?, blank line = false → line ∈ tail.getLast? := by
  induction front generalizing current with
  | nil => exact ⟨[], current.reverse, by simp [groupLinesFrom], by simp, by simp, by simp⟩
  | cons line front ih =>
      obtain ⟨next, rest, hrest⟩ : ∃ next rest, front ++ [last] = next :: rest :=
        List.exists_cons_of_ne_nil (by simp)
      have hlast : front ≠ [] → (line :: front).getLast? = front.getLast? := by
        intro hne
        obtain ⟨second, front, rfl⟩ := List.exists_cons_of_ne_nil hne
        simp
      cases hline : blank line with
      | true =>
          obtain ⟨groups, tail, hgroups, hsuffix, -, hkept⟩ := ih []
          refine ⟨closeGroup current ++ groups, tail, ?_, ?_, by simp, ?_⟩
          · rw [List.cons_append, hrest, groupLinesFrom, if_pos hline, ← hrest, hgroups,
              List.append_assoc]
          · rw [List.reverse_nil, List.nil_append] at hsuffix
            exact hsuffix.trans ⟨current.reverse ++ [line], by simp⟩
          · intro l hl hsolid
            by_cases hnil : front = []
            · rw [hnil, List.getLast?_singleton, Option.mem_some_iff] at hl
              rw [← hl, hline] at hsolid
              cases hsolid
            · exact hkept l (hlast hnil ▸ hl) hsolid
      | false =>
          obtain ⟨groups, tail, hgroups, hsuffix, hall, hkept⟩ := ih (line :: current)
          refine ⟨groups, tail, ?_, ?_, by simp, ?_⟩
          · rw [List.cons_append, hrest, groupLinesFrom, if_neg (by simp [hline]), ← hrest,
              hgroups]
          · rwa [List.reverse_cons, List.append_assoc, List.singleton_append] at hsuffix
          · intro l hl hsolid
            by_cases hnil : front = []
            · rw [hnil, List.getLast?_singleton, Option.mem_some_iff] at hl
              rw [hall hnil, ← hl]
              simp
            · exact hkept l (hlast hnil ▸ hl) hsolid

def solidGroups (lines : List β) : List (List β) :=
  (groupLines blank lines).filter (hasSolid blank)

private theorem not_hasSolid {lines : List β} (h : ∀ line ∈ lines, blank line = true) :
    hasSolid blank lines = false := by
  rw [hasSolid, List.any_eq_false]
  intro line hline
  simp [h line hline]

theorem blank_head_of_group {lines group : List β} (hgroup : group ∈ solidGroups blank lines)
    {line : β} (hhead : line ∈ group.head?) (hblank : blank line = true) :
    ∃ second rest, lines = line :: second :: rest ∧ blank second = false := by
  obtain ⟨hmem, hsolid⟩ := List.mem_filter.mp hgroup
  obtain ⟨pre, post, hgroups⟩ := List.append_of_mem hmem
  have hinside := groupLines_solidInside blank hgroups
  cases group with
  | nil => cases hhead
  | cons first tail =>
      obtain rfl := Option.some.inj hhead
      cases tail with
      | nil =>
          rw [not_hasSolid blank (by simpa using hblank)] at hsolid
          cases hsolid
      | cons second tail =>
          have hsecond : blank second = false := by
            by_contra hnot
            rw [Bool.not_eq_false] at hnot
            rcases hinside [first] second tail rfl hnot with ⟨-, hnil⟩ | ⟨-, rfl⟩
            · cases hnil
            · rw [not_hasSolid blank (by simp [hblank, hnot])] at hsolid
              cases hsolid
          have hpre : pre = [] := by
            rcases hinside [] first (second :: tail) rfl hblank with ⟨hpre, -⟩ | ⟨-, hnil⟩
            · exact hpre
            · cases hnil
          cases lines with
          | nil => simp [groupLines] at hmem
          | cons start rest =>
              obtain ⟨front, groups, hfirst, ⟨after, rfl⟩, -⟩ :=
                groupLinesFrom_first blank (List.cons_ne_nil start []) rest
              rw [groupLines, hfirst, hpre, List.nil_append, List.cons.injEq] at hgroups
              have hsame : start :: front = first :: second :: tail := hgroups.1
              rw [List.cons.injEq] at hsame
              obtain ⟨rfl, rfl⟩ := hsame
              exact ⟨second, tail ++ after, rfl, hsecond⟩

theorem blank_last_of_group {lines group : List β} (hgroup : group ∈ solidGroups blank lines)
    {line : β} (hlast : line ∈ group.getLast?) (hblank : blank line = true) :
    ∃ front second, lines = front ++ [second, line] ∧ blank second = false := by
  obtain ⟨hmem, hsolid⟩ := List.mem_filter.mp hgroup
  obtain ⟨pre, post, hgroups⟩ := List.append_of_mem hmem
  have hinside := groupLines_solidInside blank hgroups
  obtain ⟨init, rfl⟩ := List.getLast?_eq_some_iff.mp hlast
  rcases List.eq_nil_or_concat' init with rfl | ⟨init, second, rfl⟩
  · rw [not_hasSolid blank (by simpa using hblank)] at hsolid
    cases hsolid
  · have hsecond : blank second = false := by
      by_contra hnot
      rw [Bool.not_eq_false] at hnot
      rcases hinside init second [line] (by simp) hnot with ⟨-, rfl⟩ | ⟨-, hnil⟩
      · rw [not_hasSolid blank (by simp [hblank, hnot])] at hsolid
        cases hsolid
      · cases hnil
    have hpost : post = [] := by
      rcases hinside (init ++ [second]) line [] rfl hblank with ⟨-, hnil⟩ | ⟨hpost, -⟩
      · simp at hnil
      · exact hpost
    cases lines with
    | nil => simp [groupLines] at hmem
    | cons start rest =>
        rcases List.eq_nil_or_concat' rest with rfl | ⟨front, last, rfl⟩
        · rw [groupLines, groupLinesFrom, closeGroup, hpost] at hgroups
          have hlength := congrArg (fun groups => (groups.map List.length).sum) hgroups
          simp at hlength
          omega
        · obtain ⟨groups, tail, htail, ⟨before, hbefore⟩, -, -⟩ :=
            groupLinesFrom_last blank [start] front last
          rw [groupLines, htail, hpost] at hgroups
          obtain ⟨-, hsame⟩ := List.append_inj' hgroups rfl
          rw [List.cons.injEq] at hsame
          obtain ⟨htail, hline⟩ := List.append_inj' hsame.1 rfl
          rw [List.cons.injEq] at hline
          obtain ⟨rfl, -⟩ := hline
          subst htail
          refine ⟨before ++ init, second, ?_, hsecond⟩
          have hlines : start :: front = before ++ (init ++ [second]) := hbefore.symm
          rw [← List.cons_append, hlines]
          simp

private theorem solidGroup_of_first {second : β} (hsecond : blank second = false) (first : β)
    (rest : List β) :
    ∃ group ∈ solidGroups blank (first :: second :: rest), group.head? = some first := by
  obtain ⟨tail, groups, hgroups, -, hnext⟩ :=
    groupLinesFrom_first blank (List.cons_ne_nil first []) (second :: rest)
  have hmem : second ∈ tail := List.mem_of_mem_head? (hnext second rfl hsecond)
  refine ⟨first :: tail, List.mem_filter.mpr ⟨?_, ?_⟩, rfl⟩
  · rw [groupLines, hgroups]
    exact List.mem_cons_self
  · rw [hasSolid, List.any_eq_true]
    exact ⟨second, List.mem_cons_of_mem _ hmem, by simp [hsecond]⟩

private theorem solidGroup_of_last {second : β} (hsecond : blank second = false)
    (front : List β) (last : β) :
    ∃ group ∈ solidGroups blank (front ++ [second, last]), group.getLast? = some last := by
  obtain ⟨start, rest, hrest⟩ : ∃ start rest, front ++ [second] = start :: rest :=
    List.exists_cons_of_ne_nil (by simp)
  have hlines : front ++ [second, last] = start :: (rest ++ [last]) := by
    rw [← List.cons_append, ← hrest]
    simp
  obtain ⟨groups, tail, hgroups, -, hall, hkept⟩ := groupLinesFrom_last blank [start] rest last
  have hmem : second ∈ tail := by
    rcases List.eq_nil_or_concat' rest with rfl | ⟨rest, l, rfl⟩
    · have hsame := List.append_inj' (hrest.trans (List.nil_append [start]).symm) rfl
      rw [hall rfl]
      simp_all
    · have hcons : start :: (rest ++ [l]) = (start :: rest) ++ [l] := rfl
      obtain ⟨-, hlast⟩ := List.append_inj' (hrest.trans hcons) rfl
      rw [List.cons.injEq] at hlast
      refine List.mem_of_mem_getLast? (hkept second ?_ hsecond)
      rw [hlast.1]
      simp
  refine ⟨tail ++ [last], List.mem_filter.mpr ⟨?_, ?_⟩, by simp⟩
  · rw [hlines, groupLines, hgroups]
    simp
  · rw [hasSolid, List.any_eq_true]
    exact ⟨second, List.mem_append_left _ hmem, by simp [hsecond]⟩

theorem trimmed_solidGroups_iff (lines : List β) :
    (∀ group ∈ solidGroups blank lines, Trimmed blank group) ↔ CleanEdges blank lines := by
  constructor
  · intro htrimmed
    constructor
    · rintro first second rest rfl hfirst
      by_contra hsecond
      rw [Bool.not_eq_true] at hsecond
      obtain ⟨group, hgroup, hhead⟩ := solidGroup_of_first blank hsecond first rest
      rw [(htrimmed group hgroup).1 first hhead] at hfirst
      cases hfirst
    · rintro front second last rfl hlast
      by_contra hsecond
      rw [Bool.not_eq_true] at hsecond
      obtain ⟨group, hgroup, hend⟩ := solidGroup_of_last blank hsecond front last
      rw [(htrimmed group hgroup).2 last hend] at hlast
      cases hlast
  · intro hclean group hgroup
    constructor
    · intro line hline
      by_contra hblank
      rw [Bool.not_eq_false] at hblank
      obtain ⟨second, rest, hlines, hsecond⟩ := blank_head_of_group blank hgroup hline hblank
      rw [hclean.1 line second rest hlines hblank] at hsecond
      cases hsecond
    · intro line hline
      by_contra hblank
      rw [Bool.not_eq_false] at hblank
      obtain ⟨front, second, hlines, hsecond⟩ := blank_last_of_group blank hgroup hline hblank
      rw [hclean.2 front second line hlines hblank] at hsecond
      cases hsecond

theorem trimmed_empty_solidGroups {empty : β → Bool} (hempty : ∀ l, empty l = true → blank l = true)
    {lines : List β} (h : Trimmed empty lines) :
    ∀ group ∈ solidGroups blank lines, Trimmed empty group := by
  intro group hgroup
  constructor
  · intro line hline
    by_contra hnot
    rw [Bool.not_eq_false] at hnot
    obtain ⟨second, rest, rfl, -⟩ := blank_head_of_group blank hgroup hline (hempty line hnot)
    rw [h.1 line rfl] at hnot
    cases hnot
  · intro line hline
    by_contra hnot
    rw [Bool.not_eq_false] at hnot
    obtain ⟨front, second, rfl, -⟩ := blank_last_of_group blank hgroup hline (hempty line hnot)
    rw [h.2 line (by simp)] at hnot
    cases hnot

theorem solid_of_mem_paragraphs {lines paragraph : List β}
    (h : paragraph ∈ paragraphs blank lines) : ∀ line ∈ paragraph, blank line = false := by
  rcases paragraphs_cases blank lines with ⟨-, hnil⟩ |
    ⟨blanks, group, rest, hlines, -, hne, hgroup, -, hcons⟩
  · rw [hnil] at h
    cases h
  · rw [hcons, List.mem_cons] at h
    have hshorter : rest.length < lines.length := by
      have := List.length_pos_of_ne_nil hne
      rw [hlines, List.length_append, List.length_append]
      omega
    rcases h with rfl | h
    · exact hgroup
    · exact solid_of_mem_paragraphs h
termination_by lines.length

theorem map_trim_solidGroups (lines : List β) :
    (solidGroups blank lines).map (trim blank) = paragraphs blank lines := by
  have hone : ∀ b, blank b = true → ∀ a ∈ [b], blank a = true := by simp
  have hmap : (solidGroups blank lines).map (trim blank) =
      (paragraphs blank lines).map (trim blank) :=
    map_groupLines (fun b ls hb _ => trim_append_left blank (hone b hb) ls)
      (fun b ls hb _ => trim_append_right blank (hone b hb) ls) lines
  rw [hmap]
  conv_rhs => rw [← List.map_id (paragraphs blank lines)]
  refine List.map_congr_left fun paragraph hparagraph => trim_of_trimmed blank ?_
  have hsolid := solid_of_mem_paragraphs blank hparagraph
  exact ⟨fun line hline => hsolid line (List.mem_of_mem_head? hline),
    fun line hline => hsolid line (List.mem_of_mem_getLast? hline)⟩

end JudgeVortex.Foundation
