import Promptbook.Proofs.Substitution.Finders
import Promptbook.Substitution.Engine

/-! Bodies as lists of parts.

A list of parts spells a text, and the parts of a body spell the body again
(`scan_standing`). What a finder makes of a spelled text can be read off the parts as long
as nothing starts at a plain character and every placeholder has what it needs behind
it: the parts then stand as they are (`Standing`, `cut_spell`).

Steps of a substitution put shielded values and other placeholders in the place of
placeholders (`Refilled`). Whether a placeholder without a label starts at a dollar
sign depends only on the text up to the next dollar sign or edge mark (its `stem`), and
both kinds of replacement leave stems alone: that is why the other parts go on standing
(`Refilled.standing`). -/
namespace Promptbook.Substitution
open Text

/-- The text that parts stand for. -/
def spell (parts : List (Part Placeholder)) : List Char :=
  parts.flatMap (Part.text Placeholder.spelled)

@[simp] theorem spell_nil : spell [] = [] := rfl

@[simp] theorem spell_plain (c : Char) (parts : List (Part Placeholder)) :
    spell (.plain c :: parts) = c :: spell parts := rfl

@[simp] theorem spell_found (p : Placeholder) (parts : List (Part Placeholder)) :
    spell (.found p :: parts) = p.spelled ++ spell parts := rfl

@[simp] theorem spell_append (a b : List (Part Placeholder)) : spell (a ++ b) = spell a ++ spell b :=
  List.flatMap_append

@[simp] theorem spell_map_plain (text : List Char) : spell (text.map .plain) = text :=
  flatMap_text_plain _ text

/-! ### Parts that stand as they are -/

/-- Every placeholder has what it needs behind it, and at every plain character the text
is `free` of what might start there. -/
def Standing (free : List Char → Prop) : List (Part Placeholder) → Prop
  | [] => True
  | .plain c :: rest => free (c :: spell rest) ∧ Standing free rest
  | .found p :: rest => p.Fits (spell rest) ∧ Standing free rest

theorem Standing.mono {free free' : List Char → Prop} (h : ∀ text, free text → free' text)
    {parts : List (Part Placeholder)} (hs : Standing free parts) : Standing free' parts := by
  induction parts with
  | nil => trivial
  | cons part rest ih =>
    cases part with
    | plain c => exact ⟨h _ hs.1, ih hs.2⟩
    | found p => exact ⟨hs.1, ih hs.2⟩

/-- The parts of a body spell the body, and stand in it as they were found. -/
theorem scan_standing (body : List Char) :
    spell (scan body) = body ∧ Standing (fun text => placeholder? text = none) (scan body) := by
  match body with
  | [] => exact ⟨rfl, trivial⟩
  | c :: rest =>
    cases h : placeholder? (c :: rest) with
    | none =>
      obtain ⟨hspell, hstanding⟩ := scan_standing rest
      have hscan : scan (c :: rest) = .plain c :: scan rest := cut_cons_of_none h
      rw [hscan]
      exact ⟨by rw [spell_plain, hspell], by rw [hspell]; exact h, hstanding⟩
    | some found =>
      obtain ⟨p, n⟩ := found
      obtain ⟨after, htext, hfits, _⟩ := placeholder?_eq_some_iff.mp h
      have hscan : scan (c :: rest) = .found p :: scan after := by
        rw [htext]
        exact cut_append_of_found (placeholder?_spelled hfits) (spelled_ne_nil p)
      -- what stands behind a placeholder is shorter than the text
      have hlength : after.length < (c :: rest).length := by
        have := List.length_pos_iff.mpr (spelled_ne_nil p)
        rw [htext, List.length_append]
        omega
      obtain ⟨hspell, hstanding⟩ := scan_standing after
      rw [hscan]
      exact ⟨by rw [spell_found, hspell, htext], by rw [hspell]; exact hfits, hstanding⟩
termination_by body.length
decreasing_by
  · exact Nat.lt_succ_self _
  · exact hlength

/-! ### What a finder makes of a spelled text -/

/-- A part as a finder sees it that looks for some placeholders only. -/
def seenBy (which : Placeholder → Option α) : Part Placeholder → List (Part α)
  | .plain c => [.plain c]
  | .found p =>
    match which p with
    | some what => [.found what]
    | none => p.spelled.map .plain

/-- What a list can be searched for holds of all its characters. -/
theorem forall_mem_of_all {P : Char → Prop} [DecidablePred P] {text : List Char}
    (h : text.all (fun c => decide (P c)) = true) : ∀ c ∈ text, P c := by
  simpa using h

/-- A dollar sign occurs in a placeholder only at its start, or in its label. -/
theorem spelled_tail {p : Placeholder} {rest : List Char} (hl : p.isLabelled = false)
    (hf : p.Fits rest) :
    ∃ tail, p.spelled = '$' :: tail ∧ ∀ c ∈ tail, c ≠ '$' ∧ c ≠ edgeMark := by
  cases p with
  | labelled label => cases hl
  | register name =>
    have hstart : ∀ c ∈ registerStart.tail, c ≠ '$' ∧ c ≠ edgeMark := forall_mem_of_all (by decide)
    refine ⟨registerStart.tail ++ [name], rfl, ?_⟩
    intro c hc
    rcases List.mem_append.mp hc with hc | hc
    · exact hstart c hc
    · obtain rfl := List.mem_singleton.mp hc
      have hname : isRegisterName c = true := hf
      constructor <;> intro h <;> subst h <;> exact absurd hname (by decide)
  | _ => exact ⟨_, rfl, forall_mem_of_all (by decide)⟩

/-- A placeholder that is not looked for stays as it is, unless it is a label. -/
theorem Among.cut_of_other {find : Finder α} {which : Placeholder → Option α}
    (h : Among find which) {p : Placeholder} {rest : List Char} (hf : p.Fits rest)
    (hw : which p = none) (hl : p.isLabelled = false) :
    cut find (p.spelled ++ rest) = p.spelled.map .plain ++ cut find rest := by
  have hnone := h.eq_none_of_other hf hw
  obtain ⟨tail, hp, htail⟩ := spelled_tail hl hf
  rw [hp, List.cons_append] at hnone ⊢
  exact h.cut_of_dollar (fun hm => (htail _ hm).1 rfl) hnone

/-- **A finder sees in a spelled text exactly the parts it looks for.** -/
theorem Among.cut_spell {find : Finder α} {which : Placeholder → Option α} (h : Among find which)
    {parts : List (Part Placeholder)} (hs : Standing (fun text => find text = none) parts)
    (hl : ∀ p, .found p ∈ parts → which p = none → p.isLabelled = false) :
    cut find (spell parts) = parts.flatMap (seenBy which) := by
  induction parts with
  | nil => rfl
  | cons part rest ih =>
    have hrest := fun hs => ih hs fun p hp => hl p (List.mem_cons_of_mem _ hp)
    cases part with
    | plain c =>
      rw [spell_plain, cut_cons_of_none hs.1, hrest hs.2]
      rfl
    | found p =>
      rw [spell_found, List.flatMap_cons, ← hrest hs.2, seenBy]
      cases hw : which p with
      | some what => exact cut_append_of_found (h.eq_some hs.1 hw) (spelled_ne_nil p)
      | none => exact h.cut_of_other hs.1 hw (hl p List.mem_cons_self hw)

/-- Whether a part is one that a finder looks for. -/
def isSought (which : Placeholder → Option α) (part : Part Placeholder) : Bool :=
  (part.found?.bind which).isSome

theorem any_map_plain (text : List Char) :
    (text.map (Part.plain (α := α))).any Part.isFound = false := by
  induction text with
  | nil => rfl
  | cons c rest ih => exact ih

theorem any_seenBy (which : Placeholder → Option α) (part : Part Placeholder) :
    (seenBy which part).any Part.isFound = isSought which part := by
  cases part with
  | plain c => rfl
  | found p =>
    simp only [seenBy, isSought, Part.found?, Option.bind_some]
    cases which p with
    | some what => rfl
    | none => exact any_map_plain _

theorem text_seenBy (which : Placeholder → Option α) (value : α → List Char)
    (part : Part Placeholder) :
    (seenBy which part).flatMap (Part.text value) =
      part.text fun p => ((which p).map value).getD p.spelled := by
  cases part with
  | plain c => rfl
  | found p =>
    simp only [seenBy, Part.text]
    cases which p with
    | some what => simp [Part.text]
    | none => exact flatMap_text_plain _ _

section
variable {find : Finder α} {which : Placeholder → Option α} (h : Among find which)
  {parts : List (Part Placeholder)} (hs : Standing (fun text => find text = none) parts)
  (hl : ∀ p, .found p ∈ parts → which p = none → p.isLabelled = false)
include h hs hl

theorem Among.occurs_spell : occurs find (spell parts) = parts.any (isSought which) := by
  rw [occurs, h.cut_spell hs hl, List.any_flatMap]
  simp only [any_seenBy]

theorem Among.replace_spell (value : α → List Char) :
    replace find value (spell parts) =
      parts.flatMap (Part.text fun p => ((which p).map value).getD p.spelled) := by
  rw [replace, h.cut_spell hs hl, List.flatMap_assoc]
  simp only [text_seenBy]

end

/-! ### Stems -/

/-- The characters at which no placeholder without a label goes on. -/
def stops (c : Char) : Bool := c = '$' || c = edgeMark

/-- A text up to the first character at which no placeholder without a label goes on. -/
def stem (text : List Char) : List Char := text.takeWhile (!stops ·)

theorem stem_of_stop {c : Char} (h : stops c = true) (rest : List Char) : stem (c :: rest) = [] := by
  simp [stem, h]

theorem stem_of_go {c : Char} (h : stops c = false) (rest : List Char) :
    stem (c :: rest) = c :: stem rest := by
  simp [stem, h]

theorem stem_append {word : List Char} (h : ∀ c ∈ word, stops c = false) (rest : List Char) :
    stem (word ++ rest) = word ++ stem rest := by
  induction word with
  | nil => rfl
  | cons c word ih =>
    rw [List.cons_append, stem_of_go (h c List.mem_cons_self),
      ih fun d hd => h d (List.mem_cons_of_mem _ hd)]
    rfl

/-- What a stem starts with, the text starts with. -/
theorem eq_append_of_stem {text word rest : List Char} (h : stem text = word ++ stem rest) :
    ∃ after, text = word ++ after ∧ stem after = stem rest := by
  induction word generalizing text with
  | nil => exact ⟨text, rfl, h⟩
  | cons c word ih =>
    cases text with
    | nil => cases h
    | cons d text =>
      cases hd : stops d with
      | true =>
        rw [stem_of_stop hd] at h
        cases h
      | false =>
        rw [stem_of_go hd, List.cons_append] at h
        obtain ⟨rfl, hstem⟩ := List.cons.inj h
        obtain ⟨after, rfl, hafter⟩ := ih hstem
        exact ⟨after, rfl, hafter⟩

/-- Neither character at which a stem ends belongs to a word. -/
theorem endsWord_of_stop {c : Char} (h : stops c = true) (rest : List Char) :
    endsWord (c :: rest) = true := by
  simp only [stops, Bool.or_eq_true, decide_eq_true_eq] at h
  rcases h with rfl | rfl
  · exact (by decide +kernel : (!isWordChar '$') = true)
  · exact (by decide +kernel : (!isWordChar edgeMark) = true)

theorem endsWord_stem (text : List Char) : endsWord (stem text) = endsWord text := by
  cases text with
  | nil => rfl
  | cons c rest =>
    cases h : stops c with
    | true => rw [stem_of_stop h, endsWord_of_stop h, endsWord_nil]
    | false => rw [stem_of_go h, endsWord_cons, endsWord_cons]

theorem fits_of_stem {p : Placeholder} {a b : List Char} (h : stem a = stem b) (hf : p.Fits a) :
    p.Fits b := by
  have he : endsWord a = endsWord b := by rw [← endsWord_stem a, h, endsWord_stem]
  cases p with
  | labelled label => exact hf
  | register name => exact hf
  | _ => exact he.symm.trans hf

/-- Nothing but a label starts at this text. -/
def Silent (text : List Char) : Prop :=
  ∀ p n, placeholder? text = some (p, n) → p.isLabelled = true

theorem silent_of_none {text : List Char} (h : placeholder? text = none) : Silent text := by
  intro p n hp
  rw [h] at hp
  cases hp

theorem silent_of_ne_dollar {c : Char} (hc : c ≠ '$') (rest : List Char) : Silent (c :: rest) :=
  silent_of_none (placeholder?_of_ne_dollar hc rest)

/-- Whether a placeholder without a label starts at a dollar sign depends on the stem
behind it alone. -/
theorem Silent.of_stem {a b : List Char} (h : stem a = stem b) (hs : Silent ('$' :: a)) :
    Silent ('$' :: b) := by
  intro p n hp
  obtain ⟨rest, htext, hfits, _⟩ := placeholder?_eq_some_iff.mp hp
  by_contra hl
  rw [Bool.not_eq_true] at hl
  obtain ⟨tail, hspelled, htail⟩ := spelled_tail hl hfits
  rw [hspelled, List.cons_append] at htext
  obtain ⟨-, rfl⟩ := List.cons.inj htext
  have hgo : ∀ c ∈ tail, stops c = false := by
    intro c hc
    simp [stops, htail c hc]
  rw [stem_append hgo] at h
  obtain ⟨after, rfl, hafter⟩ := eq_append_of_stem h
  have hfound := placeholder?_spelled (fits_of_stem hafter.symm hfits)
  rw [hspelled] at hfound
  have := hs p _ hfound
  rw [hl] at this
  cases this

/-! ### Replacing placeholders -/

theorem no_dollar_in_shielded (value : String) : '$' ∉ shielded value := by
  intro h
  simp only [shielded, List.cons_append, List.mem_cons, List.mem_append, List.mem_map,
    List.not_mem_nil, or_false] at h
  rcases h with h | ⟨c, -, h⟩ | h
  · exact absurd h (by decide)
  · split at h
    · exact absurd h (by decide)
    · contradiction
  · exact absurd h (by decide)

/-- Parts in which some placeholders have become shielded values, or other placeholders
that need no more than they did. -/
inductive Refilled : List (Part Placeholder) → List (Part Placeholder) → Prop where
  | nil : Refilled [] []
  | plain (c : Char) : Refilled a b → Refilled (.plain c :: a) (.plain c :: b)
  | renamed {p q : Placeholder} (h : ∀ rest, p.Fits rest → q.Fits rest) :
      Refilled a b → Refilled (.found p :: a) (.found q :: b)
  | value (p : Placeholder) (v : String) :
      Refilled a b → Refilled (.found p :: a) ((shielded v).map .plain ++ b)

theorem stem_spelled (p : Placeholder) (rest : List Char) : stem (p.spelled ++ rest) = [] := by
  obtain ⟨tail, h⟩ := spelled_eq_cons p
  rw [h, List.cons_append]
  exact stem_of_stop rfl _

theorem Refilled.stem_spell {a b : List (Part Placeholder)} (h : Refilled a b) :
    stem (spell b) = stem (spell a) := by
  induction h with
  | nil => rfl
  | plain c _ ih =>
    rw [spell_plain, spell_plain]
    cases hc : stops c with
    | true => rw [stem_of_stop hc, stem_of_stop hc]
    | false => rw [stem_of_go hc, stem_of_go hc, ih]
  | renamed _ _ _ => rw [spell_found, spell_found, stem_spelled, stem_spelled]
  | value p v _ _ =>
    rw [spell_append, spell_map_plain, spell_found, stem_spelled]
    exact stem_of_stop rfl _

theorem Standing.plain_append {word : List Char} (hw : '$' ∉ word) {parts : List (Part Placeholder)}
    (hs : Standing Silent parts) : Standing Silent (word.map .plain ++ parts) := by
  induction word with
  | nil => exact hs
  | cons c word ih =>
    have hc : c ≠ '$' := fun h => hw (h ▸ List.mem_cons_self)
    exact ⟨silent_of_ne_dollar hc _, ih fun hm => hw (List.mem_cons_of_mem _ hm)⟩

/-- **What replaces a placeholder leaves all other parts standing.** -/
theorem Refilled.standing {a b : List (Part Placeholder)} (h : Refilled a b)
    (hs : Standing Silent a) : Standing Silent b := by
  induction h with
  | nil => trivial
  | plain c hab ih =>
    refine ⟨?_, ih hs.2⟩
    by_cases hc : c = '$'
    · subst hc
      exact hs.1.of_stem hab.stem_spell.symm
    · exact silent_of_ne_dollar hc _
  | renamed hpq hab ih => exact ⟨hpq _ (fits_of_stem hab.stem_spell.symm hs.1), ih hs.2⟩
  | value p v _ ih => exact (ih hs.2).plain_append (no_dollar_in_shielded v)

end Promptbook.Substitution
