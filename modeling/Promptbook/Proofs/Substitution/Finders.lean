import Promptbook.Proofs.Text.Cut
import Promptbook.Substitution.Placeholder

/-! What the finders find.

A placeholder is found where it is written out and what it needs stands with it
(`Fits`): a label without a closing brace, the name of a register, or the end of a word
behind. `placeholder?_eq_some_iff` says that nothing else is found, and that no text
starts with two placeholders. Each single finder is therefore the part of `placeholder?`
that looks for its own kind, and none of them finds anything that does not start with a
dollar sign. -/
namespace Promptbook.Substitution
open Text

/-- What a placeholder needs, with `rest` behind it. -/
def Placeholder.Fits (rest : List Char) : Placeholder → Prop
  | .labelled label => '\x7d' ∉ label
  | .register name => isRegisterName name = true
  | _ => endsWord rest = true

theorem spelled_labelled_append (label rest : List Char) :
    (Placeholder.labelled label).spelled ++ rest = labelStart ++ (label ++ '\x7d' :: rest) := by
  simp [Placeholder.spelled]

theorem spelled_register_append (name : Char) (rest : List Char) :
    (Placeholder.register name).spelled ++ rest = registerStart ++ name :: rest := by
  simp [Placeholder.spelled]

theorem mem_words {p : Placeholder} : p ∈ Placeholder.words ↔
    p = .select ∨ p = .input ∨ p = .clipboard ∨ p = .yanked ∨ p = .filetype := by
  simp [Placeholder.words]

theorem fits_iff_of_mem_words {p : Placeholder} (hp : p ∈ Placeholder.words) {rest : List Char} :
    p.Fits rest ↔ endsWord rest = true := by
  rcases mem_words.mp hp with rfl | rfl | rfl | rfl | rfl <;> rfl

/-! ### Single finders -/

theorem behind?_eq_some_iff {word text rest : List Char} :
    behind? word text = some rest ↔ text = word ++ rest := by
  unfold behind?
  split
  · next h =>
    obtain ⟨tail, rfl⟩ := List.isPrefixOf_iff_prefix.mp h
    simp
  · next h =>
    have hne : ¬word <+: text := fun hp => h (List.isPrefixOf_iff_prefix.mpr hp)
    simp only [reduceCtorEq, false_iff]
    intro h
    subst h
    exact hne (List.prefix_append word rest)

theorem ne_append_of_behind? {word text : List Char} (h : behind? word text = none)
    (rest : List Char) : text ≠ word ++ rest := by
  intro htext
  rw [behind?_eq_some_iff.mpr htext] at h
  cases h

theorem word?_eq_some_iff {word text : List Char} {u : Unit} {n : Nat} :
    word? word text = some (u, n) ↔
      ∃ rest, text = word ++ rest ∧ endsWord rest = true ∧ n = word.length := by
  unfold word?
  cases hb : behind? word text with
  | none =>
    simp only [reduceCtorEq, false_iff]
    intro h
    obtain ⟨rest, htext, _, _⟩ := h
    exact ne_append_of_behind? hb _ htext
  | some rest =>
    have htext := behind?_eq_some_iff.mp hb
    constructor
    · intro h
      by_cases he : endsWord rest = true
      · simp only [he, if_true, Option.some.injEq, Prod.mk.injEq, true_and] at h
        exact ⟨rest, htext, he, h.symm⟩
      · simp [he] at h
    · intro h
      obtain ⟨rest', h, he, rfl⟩ := h
      obtain rfl : rest = rest' := List.append_cancel_left (htext.symm.trans h)
      simp [he]

theorem register?_eq_some_iff {text : List Char} {name : Char} {n : Nat} :
    register? text = some (name, n) ↔
      ∃ rest, text = (Placeholder.register name).spelled ++ rest ∧ isRegisterName name = true ∧
        n = (Placeholder.register name).spelled.length := by
  simp only [spelled_register_append]
  unfold register?
  cases hb : behind? registerStart text with
  | none =>
    simp only [reduceCtorEq, false_iff]
    intro h
    obtain ⟨rest, htext, _, _⟩ := h
    exact ne_append_of_behind? hb _ htext
  | some behind =>
    have htext := behind?_eq_some_iff.mp hb
    cases behind with
    | nil =>
      simp only [reduceCtorEq, false_iff]
      intro h
      obtain ⟨rest, h, _, _⟩ := h
      exact absurd (List.append_cancel_left (htext.symm.trans h)) (by simp)
    | cons c behind =>
      constructor
      · intro h
        by_cases hc : isRegisterName c = true
        · simp only [hc, if_true, Option.some.injEq, Prod.mk.injEq] at h
          obtain ⟨rfl, rfl⟩ := h
          exact ⟨behind, htext, hc, rfl⟩
        · simp [hc] at h
      · intro h
        obtain ⟨rest, h, hc, rfl⟩ := h
        obtain ⟨rfl, rfl⟩ := List.cons.inj (List.append_cancel_left (htext.symm.trans h))
        simp [hc, Placeholder.spelled]

theorem label?_eq_some_iff {text label : List Char} {n : Nat} :
    label? text = some (label, n) ↔
      ∃ rest, text = (Placeholder.labelled label).spelled ++ rest ∧ '\x7d' ∉ label ∧
        n = (Placeholder.labelled label).spelled.length := by
  simp only [spelled_labelled_append]
  unfold label?
  cases hb : behind? labelStart text with
  | none =>
    simp only [reduceCtorEq, false_iff]
    intro h
    obtain ⟨rest, htext, _, _⟩ := h
    exact ne_append_of_behind? hb _ htext
  | some behind =>
    have htext := behind?_eq_some_iff.mp hb
    constructor
    · intro h
      by_cases hc : '\x7d' ∈ behind
      · simp only [List.contains_iff_mem.mpr hc, if_true, Option.some.injEq, Prod.mk.injEq] at h
        obtain ⟨rfl, rfl⟩ := h
        obtain ⟨rest, hrest⟩ := eq_takeWhile_append hc
        refine ⟨rest, by rw [← hrest, htext], not_mem_takeWhile _ _, ?_⟩
        simp [Placeholder.spelled]
        omega
      · simp [hc] at h
    · intro h
      obtain ⟨rest, h, hl, rfl⟩ := h
      obtain rfl := List.append_cancel_left (htext.symm.trans h)
      simp [takeWhile_append_cons hl, Placeholder.spelled, Nat.add_assoc]

/-! ### Any placeholder -/

/-- A word that stands at the start of a text is the placeholder found there: the second
character already tells the placeholders apart. -/
theorem placeholder?_word {p : Placeholder} (hp : p ∈ Placeholder.words) {rest : List Char}
    (h : endsWord rest = true) :
    placeholder? (p.spelled ++ rest) = some (p, p.spelled.length) := by
  have hword : word? p.spelled (p.spelled ++ rest) = some ((), p.spelled.length) :=
    word?_eq_some_iff.mpr ⟨rest, rfl, h, rfl⟩
  have hlabel : label? (p.spelled ++ rest) = none := by
    rcases mem_words.mp hp with rfl | rfl | rfl | rfl | rfl <;> rfl
  have hregister : register? (p.spelled ++ rest) = none := by
    rcases mem_words.mp hp with rfl | rfl | rfl | rfl | rfl <;> rfl
  have hwords : Placeholder.words.findSome? (fun word =>
      (word? word.spelled (p.spelled ++ rest)).map fun q => (word, q.2)) =
      some (p, p.spelled.length) := by
    rcases mem_words.mp hp with rfl | rfl | rfl | rfl | rfl <;>
      simp only [Placeholder.words, List.findSome?_cons, hword] <;> rfl
  rw [placeholder?, hlabel, hregister, hwords]
  rfl

theorem placeholder?_spelled {p : Placeholder} {rest : List Char} (h : p.Fits rest) :
    placeholder? (p.spelled ++ rest) = some (p, p.spelled.length) := by
  cases p with
  | labelled label =>
    rw [placeholder?, label?_eq_some_iff.mpr ⟨rest, rfl, h, rfl⟩]
    rfl
  | register name =>
    have hlabel : label? ((Placeholder.register name).spelled ++ rest) = none := rfl
    rw [placeholder?, hlabel, register?_eq_some_iff.mpr ⟨rest, rfl, h, rfl⟩]
    rfl
  | _ => exact placeholder?_word (by simp [Placeholder.words]) h

/-- **A placeholder is found where it is written out and has what it needs, and nowhere
else.** -/
theorem placeholder?_eq_some_iff {text : List Char} {p : Placeholder} {n : Nat} :
    placeholder? text = some (p, n) ↔
      ∃ rest, text = p.spelled ++ rest ∧ p.Fits rest ∧ n = p.spelled.length := by
  constructor
  · intro h
    simp only [placeholder?, Option.orElse_eq_orElse, Option.orElse_eq_or, Option.or_eq_some_iff,
      Option.map_eq_some_iff, List.findSome?_eq_some_iff, Prod.mk.injEq] at h
    rcases h with ⟨⟨label, _⟩, h, rfl, rfl⟩ | ⟨_, ⟨⟨name, _⟩, h, rfl, rfl⟩ | ⟨_, h⟩⟩
    · exact label?_eq_some_iff.mp h
    · exact register?_eq_some_iff.mp h
    · obtain ⟨before, word, after, hwords, ⟨⟨_, _⟩, h, rfl, rfl⟩, _⟩ := h
      obtain ⟨rest, rfl, he, rfl⟩ := word?_eq_some_iff.mp h
      have hword : word ∈ Placeholder.words := by simp [hwords]
      exact ⟨rest, rfl, (fits_iff_of_mem_words hword).mpr he, rfl⟩
  · intro h
    obtain ⟨rest, rfl, h, rfl⟩ := h
    exact placeholder?_spelled h

/-! ### Single finders among all placeholders -/

namespace Placeholder

def isLabelled : Placeholder → Bool
  | .labelled _ => true
  | _ => false

def label? : Placeholder → Option (List Char)
  | .labelled label => some label
  | _ => none

def registerName? : Placeholder → Option Char
  | .register name => some name
  | _ => none

/-- Whether a placeholder is this one. -/
def is? (p q : Placeholder) : Option Unit := if q = p then some () else none

theorem is?_eq_some_iff {p q : Placeholder} {u : Unit} : p.is? q = some u ↔ q = p := by
  by_cases h : q = p <;> simp [is?, h]

end Placeholder

/-- A finder that finds what `placeholder?` finds, as far as `which` makes something of it. -/
def Among (find : Finder α) (which : Placeholder → Option α) : Prop :=
  ∀ text what n, find text = some (what, n) ↔
    ∃ p, placeholder? text = some (p, n) ∧ which p = some what

theorem label?_among : Among label? Placeholder.label? := by
  intro text label n
  rw [label?_eq_some_iff]
  constructor
  · intro h
    exact ⟨.labelled label, placeholder?_eq_some_iff.mpr h, rfl⟩
  · intro h
    obtain ⟨p, h, hp⟩ := h
    cases p <;> cases hp
    exact placeholder?_eq_some_iff.mp h

theorem register?_among : Among register? Placeholder.registerName? := by
  intro text name n
  rw [register?_eq_some_iff]
  constructor
  · intro h
    exact ⟨.register name, placeholder?_eq_some_iff.mpr h, rfl⟩
  · intro h
    obtain ⟨p, h, hp⟩ := h
    cases p <;> cases hp
    exact placeholder?_eq_some_iff.mp h

theorem word?_among {p : Placeholder} (hp : p ∈ Placeholder.words) :
    Among (word? p.spelled) p.is? := by
  intro text u n
  rw [word?_eq_some_iff]
  constructor
  · intro h
    obtain ⟨rest, rfl, he, rfl⟩ := h
    exact ⟨p, placeholder?_word hp he, Placeholder.is?_eq_some_iff.mpr rfl⟩
  · intro h
    obtain ⟨q, h, hq⟩ := h
    obtain rfl := Placeholder.is?_eq_some_iff.mp hq
    obtain ⟨rest, htext, hfits, hn⟩ := placeholder?_eq_some_iff.mp h
    exact ⟨rest, htext, (fits_iff_of_mem_words hp).mp hfits, hn⟩

namespace Among
variable {find : Finder α} {which : Placeholder → Option α}

/-- Nothing is found if the finder makes nothing of the placeholder that stands there. -/
theorem eq_none_of_forall (h : Among find which) {text : List Char}
    (hn : ∀ p n, placeholder? text = some (p, n) → which p = none) : find text = none := by
  by_contra hne
  obtain ⟨⟨what, n⟩, hf⟩ := Option.ne_none_iff_exists'.mp hne
  obtain ⟨p, hp, hw⟩ := (h text what n).mp hf
  rw [hn p n hp] at hw
  cases hw

/-- Where no placeholder stands, nothing is found. -/
theorem eq_none (h : Among find which) {text : List Char} (hn : placeholder? text = none) :
    find text = none := by
  apply h.eq_none_of_forall
  intro p n hp
  rw [hn] at hp
  cases hp

/-- A placeholder of another kind is not found. -/
theorem eq_none_of_other (h : Among find which) {p : Placeholder} {rest : List Char}
    (hp : p.Fits rest) (hw : which p = none) : find (p.spelled ++ rest) = none := by
  apply h.eq_none_of_forall
  intro q n hq
  rw [placeholder?_spelled hp] at hq
  obtain ⟨rfl, _⟩ := Prod.mk.inj (Option.some.inj hq)
  exact hw

theorem eq_some (h : Among find which) {p : Placeholder} {what : α} {rest : List Char}
    (hp : p.Fits rest) (hw : which p = some what) :
    find (p.spelled ++ rest) = some (what, p.spelled.length) :=
  (h _ what _).mpr ⟨p, placeholder?_spelled hp, hw⟩

end Among

/-! ### Where a placeholder can start -/

theorem spelled_eq_cons (p : Placeholder) : ∃ tail, p.spelled = '$' :: tail := by
  cases p <;> exact ⟨_, rfl⟩

theorem spelled_ne_nil (p : Placeholder) : p.spelled ≠ [] := by
  obtain ⟨tail, h⟩ := spelled_eq_cons p
  simp [h]

theorem placeholder?_of_ne_dollar {c : Char} (hc : c ≠ '$') (rest : List Char) :
    placeholder? (c :: rest) = none := by
  by_contra hne
  obtain ⟨⟨p, n⟩, h⟩ := Option.ne_none_iff_exists'.mp hne
  obtain ⟨_, htext, _, _⟩ := placeholder?_eq_some_iff.mp h
  obtain ⟨tail, hp⟩ := spelled_eq_cons p
  rw [hp] at htext
  exact hc (List.cons.inj htext).1

namespace Among
variable {find : Finder α} {which : Placeholder → Option α}

theorem cut_of_no_dollar (h : Among find which) {word : List Char} (hw : '$' ∉ word)
    (rest : List Char) : cut find (word ++ rest) = word.map .plain ++ cut find rest := by
  apply cut_append_of_none
  intro before c after hword
  subst hword
  apply h.eq_none
  apply placeholder?_of_ne_dollar
  intro h
  subst h
  simp at hw

/-- A word with a dollar sign only at its start stays as it is if nothing is found there. -/
theorem cut_of_dollar (h : Among find which) {tail rest : List Char} (ht : '$' ∉ tail)
    (hn : find ('$' :: (tail ++ rest)) = none) :
    cut find ('$' :: (tail ++ rest)) = ('$' :: tail).map .plain ++ cut find rest := by
  rw [cut_cons_of_none hn, h.cut_of_no_dollar ht]
  rfl

end Among
end Promptbook.Substitution
