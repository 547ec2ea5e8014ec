import Promptbook.Proofs.Text.Escape

/-! Which texts are written forms.

Reading leaves a backslash alone if it does not know the letter behind it, and at the end of a
text, so different texts can be read as one. The one of them that is written again is told by
its own characters: it is cut from the left into pairs of a backslash and a letter, and plain
characters that stand for themselves (`Written`). Every escaped text is of this form
(`written_escape`), and a text of this form is what its reading is escaped to
(`Written.escape_unescape`); so `escaping_laws`. -/
namespace Promptbook.Text

/-! ### Plain characters and pairs -/

/-- A character that stands for itself. -/
def IsPlain (c : Char) : Prop := c ∉ ['\n', '\r', '\t', '\\', '"', '\'']

/-- A letter that stands for another character behind a backslash. -/
def IsLetter (c : Char) : Prop := c ∈ ['n', 'r', 't', '\\', '"', '\'']

/-- A text cut from the left into plain characters and pairs. -/
inductive Written : List Char → Prop where
  | nil : Written []
  | plain {c : Char} {rest : List Char} (h : IsPlain c) (hrest : Written rest) :
      Written (c :: rest)
  | pair {letter : Char} {rest : List Char} (h : IsLetter letter) (hrest : Written rest) :
      Written ('\\' :: letter :: rest)

/-- A character is plain exactly if it needs no pair. -/
theorem escapeLetter?_eq_none_iff {c : Char} : escapeLetter? c = none ↔ IsPlain c := by
  unfold escapeLetter?
  split <;> simp_all [IsPlain]

/-- A letter stands for a character exactly if that character is written with it. -/
theorem isLetter_iff {letter : Char} : IsLetter letter ↔ ∃ c, unescapeLetter? letter = some c := by
  unfold unescapeLetter?
  split <;> simp_all [IsLetter]

theorem IsPlain.ne_backslash {c : Char} (h : IsPlain c) : c ≠ '\\' := by
  rintro rfl
  exact h (by decide)

/-! ### What is written -/

theorem written_escape (text : List Char) : Written (escape text) := by
  induction text with
  | nil => exact .nil
  | cons c rest ih =>
    cases h : escapeLetter? c with
    | some letter =>
      rw [escape_cons_of_some h]
      exact .pair (isLetter_iff.mpr ⟨c, unescapeLetter?_of_escapeLetter? h⟩) ih
    | none =>
      rw [escape_cons_of_none h]
      exact .plain (escapeLetter?_eq_none_iff.mp h) ih

/-- **What is of this form is written again** as it was read. -/
theorem Written.escape_unescape {text : List Char} (h : Written text) :
    escape (unescape text) = text := by
  induction h with
  | nil => simp
  | plain h _ ih =>
    rw [unescape_of_ne h.ne_backslash, escape_cons_of_none (escapeLetter?_eq_none_iff.mpr h), ih]
  | pair h _ ih =>
    obtain ⟨c, hc⟩ := isLetter_iff.mp h
    rw [unescape_pair hc, escape_cons_of_some (escapeLetter?_of_unescapeLetter? hc), ih]

theorem escape_unescape_iff {text : List Char} : escape (unescape text) = text ↔ Written text :=
  ⟨fun h => h ▸ written_escape (unescape text), Written.escape_unescape⟩

/-- No character that would end or split a line is left in a written form. -/
theorem Written.one_line {text : List Char} (h : Written text) :
    '\n' ∉ text ∧ '\r' ∉ text ∧ '\t' ∉ text := by
  induction h with
  | nil => simp
  | plain h _ ih =>
    simp only [IsPlain, List.mem_cons, not_or] at h
    simp [ih, Ne.symm h.1, Ne.symm h.2.1, Ne.symm h.2.2.1]
  | @pair letter _ h _ ih =>
    have hletter : letter ≠ '\n' ∧ letter ≠ '\r' ∧ letter ≠ '\t' := by
      simp only [IsLetter, List.mem_cons, List.not_mem_nil, or_false] at h
      rcases h with rfl | rfl | rfl | rfl | rfl | rfl <;> decide
    simp [ih, Ne.symm hletter.1, Ne.symm hletter.2.1, Ne.symm hletter.2.2]

/-- **The laws of escaping.** A text that was escaped stands on one line, without tabs, and is
read as what it was. A text that was read is escaped to what it was exactly if it is made of plain
characters and pairs. -/
theorem escaping_laws :
    (∀ text, unescape (escape text) = text ∧
      '\n' ∉ escape text ∧ '\r' ∉ escape text ∧ '\t' ∉ escape text) ∧
    ∀ text, escape (unescape text) = text ↔ Written text :=
  ⟨fun text => ⟨unescape_escape text, (written_escape text).one_line⟩,
    fun _ => escape_unescape_iff⟩

/-- A backslash before another letter is read as it stands, and would be written twice. -/
example : unescape ['\\', 'd'] = ['\\', 'd'] ∧ escape ['\\', 'd'] = ['\\', '\\', 'd'] := by decide

end Promptbook.Text
