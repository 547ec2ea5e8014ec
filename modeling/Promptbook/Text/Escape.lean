/-! Backslash escapes for values that have to stay on one line.

Line feed, carriage return, tab, backslash and the two quotes are written as a
backslash and one letter or the character itself. Reading such a text back leaves
any other backslash pair as it stands, so `\d` needs no second backslash. -/
namespace Promptbook.Text

/-- What is written behind the backslash for a character that needs one. -/
def escapeLetter? : Char → Option Char
  | '\n' => some 'n'
  | '\r' => some 'r'
  | '\t' => some 't'
  | '\\' => some '\\'
  | '"' => some '"'
  | '\'' => some '\''
  | _ => none

/-- The character that a backslash and this letter stand for. -/
def unescapeLetter? : Char → Option Char
  | 'n' => some '\n'
  | 'r' => some '\r'
  | 't' => some '\t'
  | '\\' => some '\\'
  | '"' => some '"'
  | '\'' => some '\''
  | _ => none

/-- The text with every special character written as a pair. -/
def escape : List Char → List Char
  | [] => []
  | c :: rest =>
    match escapeLetter? c with
    | some letter => '\\' :: letter :: escape rest
    | none => c :: escape rest

/-- The text that the pairs stand for; a backslash at the end stands for itself. -/
def unescape : List Char → List Char
  | [] => []
  | ['\\'] => ['\\']
  | '\\' :: letter :: rest =>
    match unescapeLetter? letter with
    | some c => c :: unescape rest
    | none => '\\' :: letter :: unescape rest
  | c :: rest => c :: unescape rest

/-! ### Small facts -/

theorem unescapeLetter?_of_escapeLetter? {c letter : Char} (h : escapeLetter? c = some letter) :
    unescapeLetter? letter = some c := by
  unfold escapeLetter? at h
  split at h <;> simp_all [unescapeLetter?] <;> subst h <;> rfl

@[simp] theorem escape_nil : escape [] = [] := rfl

@[simp] theorem unescape_nil : unescape [] = [] := by simp [unescape]

theorem unescape_of_ne {c : Char} (h : c ≠ '\\') (rest : List Char) :
    unescape (c :: rest) = c :: unescape rest := by
  cases rest <;> simp [unescape, h]

end Promptbook.Text
