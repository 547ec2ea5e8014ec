import Promptbook.Text.Escape
import Promptbook.Proofs.Text.Trim

/-! What escaping keeps and what it hides.

Reading an escaped text gives the text back (`unescape_escape`), and an escaped text has
neither line feeds nor carriage returns in it. A value that was read from an escaped and
trimmed text can be written and trimmed again without loss (`trim_escape_unescape`): a
blank character at one of its ends has come from a pair, and becomes a pair again. -/
namespace Promptbook.Text

theorem escapeLetter?_of_unescapeLetter? {c letter : Char} (h : unescapeLetter? letter = some c) :
    escapeLetter? c = some letter := by
  unfold unescapeLetter? at h
  split at h <;> cases h <;> rfl

theorem escape_cons_of_some {c letter : Char} (h : escapeLetter? c = some letter)
    (rest : List Char) : escape (c :: rest) = '\\' :: letter :: escape rest := by
  rw [escape, h]

theorem escape_cons_of_none {c : Char} (h : escapeLetter? c = none) (rest : List Char) :
    escape (c :: rest) = c :: escape rest := by
  rw [escape, h]

theorem unescape_pair {c letter : Char} (h : unescapeLetter? letter = some c) (rest : List Char) :
    unescape ('\\' :: letter :: rest) = c :: unescape rest := by
  rw [unescape, h]

theorem unescape_other {letter : Char} (h : unescapeLetter? letter = none) (rest : List Char) :
    unescape ('\\' :: letter :: rest) = '\\' :: letter :: unescape rest := by
  rw [unescape, h]

/-- **Reading what was escaped gives it back.** -/
theorem unescape_escape (text : List Char) : unescape (escape text) = text := by
  induction text with
  | nil => simp
  | cons c rest ih =>
    cases h : escapeLetter? c with
    | some letter =>
      rw [escape_cons_of_some h, unescape_pair (unescapeLetter?_of_escapeLetter? h), ih]
    | none =>
      have hc : c ≠ '\\' := by
        intro h
        subst h
        cases h
      rw [escape_cons_of_none h, unescape_of_ne hc, ih]

/-- An escaped text is made of backslashes, letters of pairs and characters that need no pair. -/
theorem mem_escape {c : Char} {text : List Char} (h : c ∈ escape text) :
    c = '\\' ∨ (∃ d, escapeLetter? d = some c) ∨ escapeLetter? c = none := by
  induction text with
  | nil => cases h
  | cons d rest ih =>
    cases hd : escapeLetter? d with
    | some letter =>
      rw [escape_cons_of_some hd] at h
      rcases List.mem_cons.mp h with rfl | h
      · exact .inl rfl
      · rcases List.mem_cons.mp h with rfl | h
        · exact .inr (.inl ⟨d, hd⟩)
        · exact ih h
    | none =>
      rw [escape_cons_of_none hd] at h
      rcases List.mem_cons.mp h with rfl | h
      · exact .inr (.inr hd)
      · exact ih h

/-- A letter of a pair stands in a line of its own accord. -/
theorem visible_of_letter {c letter : Char} (h : escapeLetter? c = some letter) :
    isBlank letter = false := by
  unfold escapeLetter? at h
  split at h <;> cases h <;> rfl

theorem newline_not_mem_escape (text : List Char) : '\n' ∉ escape text := by
  intro h
  rcases mem_escape h with h | ⟨d, hd⟩ | h
  · cases h
  · exact absurd (visible_of_letter hd) (by decide)
  · cases h

/-! ### The ends of an escaped text -/

/-- Whether something visible is written for a character. -/
def shows (c : Char) : Bool := !isBlank c || (escapeLetter? c).isSome

theorem visible_of_shows {c : Char} (h : shows c = true) (hn : escapeLetter? c = none) :
    isBlank c = false := by
  simpa [shows, hn] using h

theorem shows_of_visible {c : Char} (h : isBlank c = false) : shows c = true := by
  simp [shows, h]

theorem shows_of_pair {c letter : Char} (h : unescapeLetter? letter = some c) : shows c = true := by
  simp [shows, escapeLetter?_of_unescapeLetter? h]

theorem escape_ne_nil {text : List Char} (h : text ≠ []) : escape text ≠ [] := by
  obtain ⟨c, rest, rfl⟩ := List.exists_cons_of_ne_nil h
  cases hc : escapeLetter? c with
  | some letter => simp [escape_cons_of_some hc]
  | none => simp [escape_cons_of_none hc]

theorem visible_head_escape {text : List Char} (h : ∀ c ∈ text.head?, shows c = true) :
    ∀ c ∈ (escape text).head?, isBlank c = false := by
  intro c hc
  cases text with
  | nil => cases hc
  | cons d rest =>
    have hd := h d rfl
    cases hl : escapeLetter? d with
    | some letter =>
      rw [escape_cons_of_some hl] at hc
      cases hc
      rfl
    | none =>
      rw [escape_cons_of_none hl] at hc
      cases hc
      exact visible_of_shows hd hl

theorem visible_last_escape {text : List Char} (h : ∀ c ∈ text.getLast?, shows c = true) :
    ∀ c ∈ (escape text).getLast?, isBlank c = false := by
  induction text with
  | nil =>
    intro c hc
    cases hc
  | cons d rest ih =>
    cases rest with
    | nil =>
      intro c hc
      have hd := h d rfl
      cases hl : escapeLetter? d with
      | some letter =>
        rw [escape_cons_of_some hl] at hc
        cases hc
        exact visible_of_letter hl
      | none =>
        rw [escape_cons_of_none hl] at hc
        cases hc
        exact visible_of_shows hd hl
    | cons e rest =>
      have hne := escape_ne_nil (List.cons_ne_nil e rest)
      have hrest := ih (by rwa [List.getLast?_cons_cons] at h)
      cases hl : escapeLetter? d with
      | some letter =>
        rw [escape_cons_of_some hl]
        rwa [List.getLast?_cons_of_ne_nil (by simp), List.getLast?_cons_of_ne_nil hne]
      | none =>
        rw [escape_cons_of_none hl]
        rwa [List.getLast?_cons_of_ne_nil hne]

/-! ### The ends of a text that was read -/

theorem unescape_ne_nil {text : List Char} (h : text ≠ []) : unescape text ≠ [] := by
  unfold unescape
  split
  · contradiction
  · simp
  · split <;> simp
  · simp

theorem shows_head_unescape {text : List Char} (h : ∀ c ∈ text.head?, isBlank c = false) :
    ∀ c ∈ (unescape text).head?, shows c = true := by
  intro c hc
  cases text with
  | nil => simp at hc
  | cons d rest =>
    by_cases hd : d = '\\'
    · subst hd
      cases rest with
      | nil =>
        simp only [unescape, List.head?_cons, Option.mem_some_iff] at hc
        subst hc
        rfl
      | cons letter rest =>
        cases hl : unescapeLetter? letter with
        | some e =>
          rw [unescape_pair hl] at hc
          cases hc
          exact shows_of_pair hl
        | none =>
          rw [unescape_other hl] at hc
          cases hc
          rfl
    · rw [unescape_of_ne hd] at hc
      cases hc
      exact shows_of_visible (h c rfl)

/-- What was read ends well if the rest of it does or, when there is no rest, its front does. -/
theorem shows_last_append (front : List Char) {c : Char} {rest : List Char}
    (h : ∀ d ∈ (c :: rest).getLast?, isBlank d = false)
    (hfront : rest = [] → ∀ d ∈ front.getLast?, shows d = true)
    (ih : (∀ d ∈ rest.getLast?, isBlank d = false) →
      ∀ d ∈ (unescape rest).getLast?, shows d = true) :
    ∀ d ∈ (front ++ unescape rest).getLast?, shows d = true := by
  cases rest with
  | nil =>
    rw [unescape_nil, List.append_nil]
    exact hfront rfl
  | cons e rest =>
    rw [List.getLast?_append_of_ne_nil front (unescape_ne_nil (List.cons_ne_nil e rest))]
    exact ih (by simpa only [List.getLast?_cons_cons] using h)

theorem shows_last_unescape {text : List Char} (h : ∀ c ∈ text.getLast?, isBlank c = false) :
    ∀ c ∈ (unescape text).getLast?, shows c = true := by
  -- along the pairs of the text, so that its last character is never taken for half of one
  induction text using unescape.induct with
  | case1 => simp
  | case2 =>
    intro c hc
    simp only [unescape, List.getLast?_singleton, Option.mem_some_iff] at hc
    subst hc
    rfl
  | case3 letter rest e hl ih =>
    rw [unescape_pair hl]
    refine shows_last_append [e] (by simpa only [List.getLast?_cons_cons] using h) ?_ ih
    rintro - d hd
    obtain rfl := Option.some.inj hd
    exact shows_of_pair hl
  | case4 letter rest hl ih =>
    rw [unescape_other hl]
    rw [List.getLast?_cons_cons] at h
    refine shows_last_append ['\\', letter] h ?_ ih
    rintro rfl d hd
    obtain rfl := Option.some.inj hd
    exact shows_of_visible (h letter rfl)
  | case5 c rest hend hpair ih =>
    have hc : c ≠ '\\' := by
      intro hc
      cases rest with
      | nil => exact hend hc rfl
      | cons letter rest => exact hpair letter rest hc rfl
    rw [unescape_of_ne hc]
    refine shows_last_append [c] h ?_ ih
    rintro rfl d hd
    obtain rfl := Option.some.inj hd
    exact shows_of_visible (h c rfl)

/-- **What was read from a trimmed text is written as a trimmed text.** -/
theorem trim_escape_unescape {text : List Char} (h : trim text = text) :
    trim (escape (unescape text)) = escape (unescape text) := by
  obtain ⟨hhead, hlast⟩ := trim_eq_self_iff.mp h
  exact trim_eq_self_iff.mpr ⟨visible_head_escape (shows_head_unescape hhead),
    visible_last_escape (shows_last_unescape hlast)⟩

end Promptbook.Text
