import Promptbook.Proofs.Substitution.Parts

/-! Choosing an origin, seen on the parts of a body.

`$select` is the one placeholder that is looked for inside labels as well. Writing it as
the placeholder of an origin changes each part on its own (`chosenText_spell`), leaves
every label closed where it was closed, and closes none that was open: the new parts
are what a scan of the new text finds (`standing_chosen`). -/
namespace Promptbook.Substitution
open Text

/-- Whether a part is or holds a `$select`. -/
def selects : Part Placeholder → Bool
  | .found .select => true
  | .found (.labelled label) => occurs select? label
  | _ => false

/-- A part with the chosen origin in the place of `$select`, in a label too. -/
def chosenPart (origin : Origin) : Part Placeholder → Part Placeholder
  | .found .select => .found origin.placeholder
  | .found (.labelled label) => .found (.labelled (chosenText origin label))
  | part => part

/-! ### Selections in labels -/

theorem select?_among : Among select? Placeholder.select.is? := word?_among (by decide)

/-- A closing brace ends a word and is part of no `$select`. -/
theorem select?_append_brace (label rest : List Char) :
    select? (label ++ '\x7d' :: rest) = select? label := by
  apply Option.ext
  intro h
  obtain ⟨u, n⟩ := h
  rw [select?, word?_eq_some_iff, word?_eq_some_iff]
  constructor
  · intro h
    obtain ⟨after, h, he, hn⟩ := h
    have hbrace : '\x7d' ∉ Placeholder.select.spelled := by decide
    obtain ⟨more, hlabel, hmore⟩ := eq_append_of_not_mem h.symm hbrace
    refine ⟨more, hlabel, ?_, hn⟩
    cases more with
    | nil => rfl
    | cons d more => rwa [hmore] at he
  · intro h
    obtain ⟨after, rfl, he, hn⟩ := h
    refine ⟨after ++ '\x7d' :: rest, List.append_assoc .., ?_, hn⟩
    cases after with
    | nil => exact (by decide : (!isWordChar '\x7d') = true)
    | cons d after => exact he

theorem cut_select_append_brace (label rest : List Char) :
    cut select? (label ++ '\x7d' :: rest) =
      cut select? label ++ .plain '\x7d' :: cut select? rest := by
  match label with
  | [] => exact cut_cons_of_none (select?_append_brace [] rest)
  | c :: label =>
    have hsame := select?_append_brace (c :: label) rest
    cases h : select? (c :: label) with
    | none =>
      rw [h, List.cons_append] at hsame
      rw [cut_cons_of_none h, List.cons_append, cut_cons_of_none hsame, cut_select_append_brace label,
        List.cons_append]
    | some found =>
      obtain ⟨⟨⟩, n⟩ := found
      obtain ⟨after, htext, -, rfl⟩ := word?_eq_some_iff.mp h
      rw [h] at hsame
      rw [htext] at h hsame ⊢
      have hlength : after.length < (c :: label).length := by
        have := List.length_pos_iff.mpr (spelled_ne_nil .select)
        rw [htext, List.length_append]
        omega
      rw [cut_append_of_found h (spelled_ne_nil _), List.cons_append, List.append_assoc,
        ← cut_select_append_brace after]
      rw [List.append_assoc] at hsame
      exact cut_append_of_found hsame (spelled_ne_nil _)
termination_by label.length
decreasing_by
  · exact Nat.lt_succ_self _
  · exact hlength

/-! ### A body with its selections -/

/-- A part as it is seen by a search for `$select`, which goes through labels. -/
def seenSelect : Part Placeholder → List (Part Unit)
  | .found (.labelled label) =>
    labelStart.map .plain ++ cut select? label ++ [.plain '\x7d']
  | part => seenBy Placeholder.select.is? part

theorem cut_select_spell {parts : List (Part Placeholder)}
    (hs : Standing (fun text => placeholder? text = none) parts) :
    cut select? (spell parts) = parts.flatMap seenSelect := by
  induction parts with
  | nil => rfl
  | cons part rest ih =>
    cases part with
    | plain c =>
      rw [spell_plain, cut_cons_of_none (select?_among.eq_none hs.1), ih hs.2]
      rfl
    | found p =>
      rw [spell_found, List.flatMap_cons, ← ih hs.2]
      cases p with
      | labelled label =>
        have hnone := select?_among.eq_none_of_other hs.1 rfl
        rw [spelled_labelled_append] at hnone ⊢
        have hstart : cut select? (labelStart ++ (label ++ '\x7d' :: spell rest)) =
            labelStart.map .plain ++ cut select? (label ++ '\x7d' :: spell rest) :=
          select?_among.cut_of_dollar (by decide) hnone
        rw [hstart, cut_select_append_brace]
        simp [seenSelect]
      | select => exact cut_append_of_found (select?_among.eq_some hs.1 rfl) (spelled_ne_nil _)
      | _ => exact select?_among.cut_of_other hs.1 rfl rfl

/-- **`$select` occurs in a body where a part is or holds one.** -/
theorem occurs_select_spell {parts : List (Part Placeholder)}
    (hs : Standing (fun text => placeholder? text = none) parts) :
    occurs select? (spell parts) = parts.any selects := by
  rw [occurs, cut_select_spell hs, List.any_flatMap]
  congr 1
  funext part
  cases part with
  | plain c => rfl
  | found p =>
    cases p with
    | labelled label => simp [seenSelect, selects, occurs, Part.isFound]
    | select => rfl
    | _ => exact any_map_plain _

theorem chosenText_spell (origin : Origin) {parts : List (Part Placeholder)}
    (hs : Standing (fun text => placeholder? text = none) parts) :
    chosenText origin (spell parts) = spell (parts.map (chosenPart origin)) := by
  rw [chosenText, replace, cut_select_spell hs, List.flatMap_assoc, spell, List.flatMap_map]
  congr 1
  funext part
  cases part with
  | plain c => rfl
  | found p =>
    cases p with
    | labelled label =>
      simp [seenSelect, chosenPart, Part.text, chosenText, replace, Placeholder.spelled]
    | select => exact List.append_nil _
    | _ => exact flatMap_text_plain _ _

/-! ### The chosen parts stand -/

theorem stem_spell_chosen (origin : Origin) (parts : List (Part Placeholder)) :
    stem (spell (parts.map (chosenPart origin))) = stem (spell parts) := by
  induction parts with
  | nil => rfl
  | cons part rest ih =>
    cases part with
    | plain c =>
      rw [List.map_cons, show chosenPart origin (.plain c) = .plain c from rfl, spell_plain,
        spell_plain]
      cases hc : stops c with
      | true => rw [stem_of_stop hc, stem_of_stop hc]
      | false => rw [stem_of_go hc, stem_of_go hc, ih]
    | found p =>
      obtain ⟨q, hq⟩ : ∃ q, chosenPart origin (.found p) = .found q := by cases p <;> exact ⟨_, rfl⟩
      rw [List.map_cons, hq, spell_found, spell_found, stem_spelled, stem_spelled]

/-- A choice closes no label that was open, and opens none that was closed. -/
theorem brace_mem_chosen (origin : Origin) (parts : List (Part Placeholder)) :
    '\x7d' ∈ spell (parts.map (chosenPart origin)) ↔ '\x7d' ∈ spell parts := by
  induction parts with
  | nil => rfl
  | cons part rest ih =>
    cases part with
    | plain c => simp [chosenPart, ih]
    | found p =>
      rw [List.map_cons, spell_found]
      cases p with
      | labelled label => simp [chosenPart, Placeholder.spelled]
      | select =>
        have horigin : '\x7d' ∉ origin.placeholder.spelled := by cases origin <;> decide
        have hselect : '\x7d' ∉ Placeholder.select.spelled := by decide
        simp [chosenPart, ih, horigin, hselect]
      | _ => simp [chosenPart, ih]

theorem brace_not_mem_chosenText (origin : Origin) {label : List Char} (h : '\x7d' ∉ label) :
    '\x7d' ∉ chosenText origin label := by
  obtain ⟨hspell, hstanding⟩ := scan_standing label
  rw [← hspell, chosenText_spell origin hstanding, brace_mem_chosen, hspell]
  exact h

/-- A label that is closed behind a choice was closed before it. -/
theorem closed_of_chosen (origin : Origin) {label after : List Char} {parts : List (Part Placeholder)}
    (h : '$' :: spell (parts.map (chosenPart origin)) =
      (Placeholder.labelled label).spelled ++ after) :
    ∃ (p : Placeholder) (rest : List Char), p.Fits rest ∧ '$' :: spell parts = p.spelled ++ rest := by
  rw [spelled_labelled_append] at h
  obtain ⟨-, htext⟩ := List.cons.inj h
  have hgo : ∀ c ∈ labelStart.tail, stops c = false := forall_mem_of_all (by decide)
  have hstem : stem (spell parts) = labelStart.tail ++ stem (label ++ '\x7d' :: after) := by
    rw [← stem_spell_chosen origin, htext]
    exact stem_append hgo _
  obtain ⟨before, hbefore, -⟩ := eq_append_of_stem hstem
  have hbrace : '\x7d' ∈ spell parts := by
    rw [← brace_mem_chosen origin, htext]
    simp
  rw [hbefore] at hbrace
  have hmem : '\x7d' ∈ before := (List.mem_append.mp hbrace).resolve_left (by decide)
  obtain ⟨rest, hrest⟩ := eq_takeWhile_append hmem
  refine ⟨.labelled (before.takeWhile (· != '\x7d')), rest, not_mem_takeWhile _ _, ?_⟩
  rw [spelled_labelled_append, ← hrest, hbefore]
  rfl

theorem none_of_chosen (origin : Origin) {c : Char} {parts : List (Part Placeholder)}
    (h : placeholder? (c :: spell parts) = none) :
    placeholder? (c :: spell (parts.map (chosenPart origin))) = none := by
  by_cases hc : c = '$'
  · subst hc
    by_contra hne
    obtain ⟨⟨p, n⟩, hp⟩ := Option.ne_none_iff_exists'.mp hne
    obtain ⟨after, htext, -, -⟩ := placeholder?_eq_some_iff.mp hp
    have hsilent := (silent_of_none h).of_stem (stem_spell_chosen origin parts).symm
    have hl := hsilent p n hp
    cases p with
    | labelled label =>
      obtain ⟨p, rest, hfits, hclosed⟩ := closed_of_chosen origin htext
      rw [hclosed, placeholder?_spelled hfits] at h
      cases h
    | _ => cases hl
  · exact placeholder?_of_ne_dollar hc _

/-- **A choice leaves all parts standing**, labels included. -/
theorem standing_chosen (origin : Origin) {parts : List (Part Placeholder)}
    (hs : Standing (fun text => placeholder? text = none) parts) :
    Standing (fun text => placeholder? text = none) (parts.map (chosenPart origin)) := by
  induction parts with
  | nil => trivial
  | cons part rest ih =>
    cases part with
    | plain c => exact ⟨none_of_chosen origin hs.1, ih hs.2⟩
    | found p =>
      have hstem := (stem_spell_chosen origin rest).symm
      cases p with
      | labelled label => exact ⟨brace_not_mem_chosenText origin hs.1, ih hs.2⟩
      | select =>
        have hfits : origin.placeholder.Fits (spell rest) := by
          cases origin <;> exact hs.1
        exact ⟨fits_of_stem hstem hfits, ih hs.2⟩
      | _ => exact ⟨fits_of_stem hstem hs.1, ih hs.2⟩

end Promptbook.Substitution
