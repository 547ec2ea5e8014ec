import Promptbook.Proofs.Substitution.Choice

/-! Parts without labels.

Once the labels of a body are answered no label is looked for again, so a text that
spells an open label does no harm any more: parts are settled if they stand for all
other placeholders. Values in the place of placeholders leave them settled
(`Settled.putText`), and a word that is looked for is found where it is one of the parts
(`Settled.occurs_word`, `Settled.replace_word`). -/
namespace Promptbook.Substitution
open Text

/-- Parts that stand, without labels among them. -/
structure Settled (parts : List (Part Placeholder)) : Prop where
  standing : Standing Silent parts
  unlabelled : ∀ p, .found p ∈ parts → p.isLabelled = false

/-- A finder that looks for no label is silent where nothing but a label starts. -/
theorem Among.eq_none_of_silent {find : Finder α} {which : Placeholder → Option α}
    (h : Among find which) (hl : ∀ p what, which p = some what → p.isLabelled = false)
    {text : List Char} (hs : Silent text) : find text = none := by
  apply h.eq_none_of_forall
  intro p n hp
  have hlabelled := hs p n hp
  cases hw : which p with
  | none => rfl
  | some what =>
    rw [hl p what hw] at hlabelled
    cases hlabelled

/-- The parts with values in the place of some placeholders. -/
def putText (value : Placeholder → Option String) (parts : List (Part Placeholder)) :
    List (Part Placeholder) :=
  parts.flatMap fun
    | .plain c => [.plain c]
    | .found p =>
      match value p with
      | some v => (shielded v).map .plain
      | none => [.found p]

@[simp] theorem putText_nil (value : Placeholder → Option String) : putText value [] = [] := rfl

@[simp] theorem putText_plain (value : Placeholder → Option String) (c : Char)
    (parts : List (Part Placeholder)) :
    putText value (.plain c :: parts) = .plain c :: putText value parts := rfl

theorem putText_found (value : Placeholder → Option String) (p : Placeholder)
    (parts : List (Part Placeholder)) :
    putText value (.found p :: parts) =
      (match value p with
        | some v => (shielded v).map .plain
        | none => [.found p]) ++ putText value parts := rfl

theorem putText_found_some {value : Placeholder → Option String} {p : Placeholder} {v : String}
    (hv : value p = some v) (parts : List (Part Placeholder)) :
    putText value (.found p :: parts) = (shielded v).map .plain ++ putText value parts := by
  rw [putText_found, hv]

theorem putText_found_none {value : Placeholder → Option String} {p : Placeholder}
    (hv : value p = none) (parts : List (Part Placeholder)) :
    putText value (.found p :: parts) = .found p :: putText value parts := by
  rw [putText_found, hv, List.singleton_append]

@[simp] theorem putText_map_plain (value : Placeholder → Option String) (text : List Char)
    (parts : List (Part Placeholder)) :
    putText value (text.map .plain ++ parts) = text.map .plain ++ putText value parts := by
  induction text with
  | nil => rfl
  | cons c text ih => simp only [List.map_cons, List.cons_append, putText_plain, ih]

theorem spell_putText (value : Placeholder → Option String) (parts : List (Part Placeholder)) :
    spell (putText value parts) =
      parts.flatMap (Part.text fun p => ((value p).map shielded).getD p.spelled) := by
  induction parts with
  | nil => rfl
  | cons part rest ih =>
    cases part with
    | plain c => rw [putText_plain, spell_plain, ih]; rfl
    | found p =>
      rw [putText_found, spell_append, ih, List.flatMap_cons]
      cases hv : value p <;> simp [Part.text, hv, spell, flatMap_text_plain]

theorem found_mem_putText {value : Placeholder → Option String} {p : Placeholder}
    {parts : List (Part Placeholder)} :
    .found p ∈ putText value parts ↔ .found p ∈ parts ∧ value p = none := by
  rw [putText, List.mem_flatMap]
  constructor
  · intro h
    obtain ⟨part, hpart, hm⟩ := h
    cases part with
    | plain c => simp at hm
    | found q =>
      cases hv : value q with
      | some v => simp [hv] at hm
      | none =>
        obtain rfl : p = q := by simpa [hv] using hm
        exact ⟨hpart, hv⟩
  · intro h
    exact ⟨_, h.1, by simp [h.2]⟩

theorem refilled_putText (value : Placeholder → Option String) (parts : List (Part Placeholder)) :
    Refilled parts (putText value parts) := by
  induction parts with
  | nil => exact .nil
  | cons part rest ih =>
    cases part with
    | plain c => exact .plain c ih
    | found p =>
      rw [putText_found]
      cases value p with
      | some v => exact .value p v ih
      | none => exact .renamed (fun _ h => h) ih

theorem Settled.putText {parts : List (Part Placeholder)} (h : Settled parts)
    (value : Placeholder → Option String) : Settled (putText value parts) :=
  ⟨(refilled_putText value parts).standing h.standing,
    fun p hp => h.unlabelled p (found_mem_putText.mp hp).1⟩

/-- What a finder that looks for no label makes of settled parts. -/
theorem Settled.standing_none {parts : List (Part Placeholder)} (hs : Settled parts)
    {find : Finder α} {which : Placeholder → Option α} (h : Among find which)
    (hl : ∀ p what, which p = some what → p.isLabelled = false) :
    Standing (fun text => find text = none) parts :=
  hs.standing.mono fun _ => h.eq_none_of_silent hl

theorem unlabelled_of_mem_words {p : Placeholder} (hp : p ∈ Placeholder.words) :
    ∀ q what, p.is? q = some what → q.isLabelled = false := by
  intro q what hq
  obtain rfl := Placeholder.is?_eq_some_iff.mp hq
  rcases mem_words.mp hp with rfl | rfl | rfl | rfl | rfl <;> rfl

/-! ### Words -/

/-- Whether a placeholder is among the parts. -/
def needs (p : Placeholder) (parts : List (Part Placeholder)) : Bool := parts.contains (.found p)

theorem needs_iff {p : Placeholder} {parts : List (Part Placeholder)} :
    needs p parts = true ↔ .found p ∈ parts := List.contains_iff_mem

theorem isSought_is?_iff {p : Placeholder} {part : Part Placeholder} :
    isSought p.is? part = true ↔ part = .found p := by
  cases part with
  | plain c => simp [isSought, Part.found?]
  | found q => simp [isSought, Part.found?, Option.isSome_iff_exists, Placeholder.is?_eq_some_iff]

section
variable {parts : List (Part Placeholder)} (hs : Settled parts) {p : Placeholder}
  (hp : p ∈ Placeholder.words)
include hs hp

theorem Settled.occurs_word :
    occurs (word? p.spelled) (spell parts) = needs p parts := by
  have hl := unlabelled_of_mem_words hp
  rw [(word?_among hp).occurs_spell (hs.standing_none (word?_among hp) hl)
    fun q hq _ => hs.unlabelled q hq]
  rw [Bool.eq_iff_iff, List.any_eq_true, needs_iff]
  constructor
  · intro h
    obtain ⟨part, hpart, hsought⟩ := h
    exact isSought_is?_iff.mp hsought ▸ hpart
  · intro hmem
    exact ⟨_, hmem, isSought_is?_iff.mpr rfl⟩

theorem Settled.replace_word (text : List Char) :
    replace (word? p.spelled) (fun _ => text) (spell parts) =
      parts.flatMap (Part.text fun q => if q = p then text else q.spelled) := by
  have hl := unlabelled_of_mem_words hp
  rw [(word?_among hp).replace_spell (hs.standing_none (word?_among hp) hl)
    fun q hq _ => hs.unlabelled q hq]
  congr 2
  funext q
  by_cases hq : q = p <;> simp [Placeholder.is?, hq]

end

end Promptbook.Substitution
