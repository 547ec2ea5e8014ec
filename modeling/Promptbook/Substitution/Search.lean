/-! Searching a text.

A finder looks only at the start of a text. A search goes through the text from left
to right and leaves it cut into parts: what was found, and single characters that
belong to nothing that was found. Two finds never overlap, and of two that would, the
one further to the left counts. -/
namespace Promptbook.Substitution

/-- What is found at the start of a text, and how many characters it takes up. -/
abbrev Finder (α : Type) := List Char → Option (α × Nat)

/-- A part of a text that was searched. -/
inductive Part (α : Type) where
  /-- A character that belongs to nothing that was found. -/
  | plain (c : Char)
  | found (what : α)
  deriving DecidableEq

namespace Part

def isFound : Part α → Bool
  | .plain _ => false
  | .found _ => true

def found? : Part α → Option α
  | .plain _ => none
  | .found what => some what

/-- The text of a part, given the text of what was found. -/
def text (spell : α → List Char) : Part α → List Char
  | .plain c => [c]
  | .found what => spell what

end Part

/-- The parts of a text of which the first `skip` characters have already been used. -/
def cutFrom (find : Finder α) (skip : Nat) : List Char → List (Part α)
  | [] => []
  | c :: rest =>
    match skip with
    | n + 1 => cutFrom find n rest
    | 0 =>
      match find (c :: rest) with
      | some (what, length) => .found what :: cutFrom find (length - 1) rest
      | none => .plain c :: cutFrom find 0 rest

/-- The parts of a text. -/
def cut (find : Finder α) (text : List Char) : List (Part α) := cutFrom find 0 text

/-- Whether anything is found in a text. -/
def occurs (find : Finder α) (text : List Char) : Bool := (cut find text).any Part.isFound

/-- The text with everything that is found replaced. -/
def replace (find : Finder α) (value : α → List Char) (text : List Char) : List Char :=
  (cut find text).flatMap (Part.text value)

/-! ### Small facts -/

@[simp] theorem cut_nil (find : Finder α) : cut find [] = [] := rfl

theorem cutFrom_eq_cut_drop (find : Finder α) (skip : Nat) (text : List Char) :
    cutFrom find skip text = cut find (text.drop skip) := by
  induction skip generalizing text with
  | zero => rfl
  | succ n ih =>
    cases text with
    | nil => rfl
    | cons c rest => exact ih rest

theorem cut_cons_of_none {find : Finder α} {c : Char} {rest : List Char}
    (h : find (c :: rest) = none) : cut find (c :: rest) = .plain c :: cut find rest := by
  rw [cut, cutFrom, h]
  rfl

/-- What is found at the start of a text is its first part. -/
theorem cut_append_of_found {find : Finder α} {word rest : List Char} {what : α}
    (h : find (word ++ rest) = some (what, word.length)) (hw : word ≠ []) :
    cut find (word ++ rest) = .found what :: cut find rest := by
  obtain ⟨c, word, rfl⟩ := List.exists_cons_of_ne_nil hw
  rw [List.cons_append] at h ⊢
  rw [cut, cutFrom, h]
  simp [cutFrom_eq_cut_drop find word.length]

/-- A word at none of whose characters anything is found stays as it is. -/
theorem cut_append_of_none {find : Finder α} {word rest : List Char}
    (h : ∀ before c after, word = before ++ c :: after → find (c :: after ++ rest) = none) :
    cut find (word ++ rest) = word.map .plain ++ cut find rest := by
  induction word with
  | nil => rfl
  | cons c word ih =>
    have hc : find (c :: (word ++ rest)) = none := h [] c word rfl
    have hword := ih fun before d after e => h (c :: before) d after (by rw [e, List.cons_append])
    rw [List.cons_append, cut_cons_of_none hc, hword]
    rfl

@[simp] theorem flatMap_text_plain (spell : α → List Char) (text : List Char) :
    (text.map Part.plain).flatMap (Part.text spell) = text := by
  induction text with
  | nil => rfl
  | cons c rest ih => simp [Part.text, ih]

end Promptbook.Substitution
