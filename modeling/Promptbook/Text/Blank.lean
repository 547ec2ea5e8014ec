/-! Blank characters and trimming.

A character is blank when it has the Unicode property White_Space. Trimming takes
blank characters off both ends of a text and leaves the ones between alone. -/
namespace Promptbook.Text

/-- The characters with the property White_Space. -/
def isBlank (c : Char) : Bool :=
  let n := c.toNat
  (9 ≤ n && n ≤ 13) || n == 0x20 || n == 0x85 || n == 0xA0 || n == 0x1680 ||
    (0x2000 ≤ n && n ≤ 0x200A) || n == 0x2028 || n == 0x2029 || n == 0x202F ||
    n == 0x205F || n == 0x3000

/-- A text without anything visible. -/
def allBlank (text : List Char) : Bool := text.all isBlank

/-- The text without its leading blank characters. -/
def trimStart (text : List Char) : List Char := text.dropWhile isBlank

/-- The text without its trailing blank characters. -/
def trimEnd (text : List Char) : List Char := (text.reverse.dropWhile isBlank).reverse

/-- The text without blank characters at either end. -/
def trim (text : List Char) : List Char := trimEnd (trimStart text)

/-! ### Small facts -/

@[simp] theorem trimStart_nil : trimStart [] = [] := rfl

@[simp] theorem trim_nil : trim [] = [] := rfl

theorem trimStart_of_blank {c : Char} (h : isBlank c = true) (text : List Char) :
    trimStart (c :: text) = trimStart text := by
  simp [trimStart, h]

theorem trimStart_of_visible {c : Char} (h : isBlank c = false) (text : List Char) :
    trimStart (c :: text) = c :: text := by
  simp [trimStart, h]

end Promptbook.Text
