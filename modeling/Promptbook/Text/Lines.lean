/-! The lines of a text.

A line ends at a line feed, and a carriage return directly before that line feed
belongs to the break. A text that ends with a break has no further empty line, and
a carriage return anywhere else stays in its line. -/
namespace Promptbook.Text

/-- The lines of a text, without their breaks. -/
def lines : List Char → List (List Char)
  | [] => []
  | '\n' :: rest => [] :: lines rest
  | '\r' :: '\n' :: rest => [] :: lines rest
  | c :: rest =>
    match lines rest with
    | [] => [[c]]
    | line :: more => (c :: line) :: more

/-- The text in which every line is followed by a line feed. -/
def unlines (ls : List (List Char)) : List Char := ls.flatMap (· ++ ['\n'])

/-- The lines with a line feed between any two. -/
def joinLines : List (List Char) → List Char
  | [] => []
  | [line] => line
  | line :: more => line ++ '\n' :: joinLines more

/-! ### Small facts -/

@[simp] theorem lines_nil : lines [] = [] := by simp [lines]

@[simp] theorem lines_newline (rest : List Char) : lines ('\n' :: rest) = [] :: lines rest := by
  simp [lines]

@[simp] theorem lines_return_newline (rest : List Char) :
    lines ('\r' :: '\n' :: rest) = [] :: lines rest := by
  simp [lines]

@[simp] theorem unlines_nil : unlines [] = [] := rfl

@[simp] theorem unlines_cons (line : List Char) (ls : List (List Char)) :
    unlines (line :: ls) = line ++ '\n' :: unlines ls := by
  simp [unlines]

end Promptbook.Text
