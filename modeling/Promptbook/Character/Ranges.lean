/-! Sets of characters.

A set is a list of ascending ranges of code points that neither overlap nor touch. The
code points between `0xD7FF` and `0xE000` belong to no character, so stepping from one
character to the next passes over them. -/
namespace Promptbook.Character

/-- A set of characters as ascending ranges, each with its first and its last one. -/
abbrev Ranges := List (Nat × Nat)

namespace Ranges

/-- The last code point. -/
def last : Nat := 0x10FFFF

/-- The code point of the next character. -/
def after (n : Nat) : Nat := if n = 0xD7FF then 0xE000 else n + 1

/-- The code point of the character before. -/
def before (n : Nat) : Nat := if n = 0xE000 then 0xD7FF else n - 1

/-! ### Building -/

/-- A range in front of ascending ranges that begin no earlier, joined to those it meets. -/
def join (low high : Nat) : Ranges → Ranges
  | [] => [(low, high)]
  | (l, h) :: rest =>
    if l ≤ high + 1 then join low (max high h) rest else (low, high) :: (l, h) :: rest

/-- The set that ranges in any order make up. -/
def ofList (ranges : List (Nat × Nat)) : Ranges :=
  (ranges.mergeSort fun a b => a.1 ≤ b.1).foldr (fun range rest => join range.1 range.2 rest) []

/-- The set of some characters. -/
def ofChars (chars : List Char) : Ranges := ofList (chars.map fun c => (c.toNat, c.toNat))

/-- Every character. -/
def full : Ranges := [(0, last)]

/-! ### Operations -/

def union (a b : Ranges) : Ranges :=
  if a.isEmpty then b else if b.isEmpty then a else ofList (a ++ b)

def inter (a b : Ranges) : Ranges :=
  a.flatMap fun (low, high) =>
    b.filterMap fun (l, h) =>
      if max low l ≤ min high h then some (max low l, min high h) else none

/-- What ascending ranges leave of one range. -/
def cut (low high : Nat) : Ranges → Ranges
  | [] => [(low, high)]
  | (l, h) :: rest =>
    if h < low then cut low high rest
    else if high < l then [(low, high)]
    else
      (if low < l then [(low, before l)] else []) ++
        (if h < high then cut (after h) high rest else [])

def diff (a b : Ranges) : Ranges := a.flatMap fun (low, high) => cut low high b

def symmDiff (a b : Ranges) : Ranges := diff (union a b) (inter a b)

/-- The gaps behind a range whose last code point is `high`. Between two ranges that leave
no character between them the gap is made of the characters at its edges. -/
def gapsAfter (high : Nat) : Ranges → Ranges
  | [] => if high < last then [(after high, last)] else []
  | (l, h) :: rest =>
    (min (after high) (before l), max (after high) (before l)) :: gapsAfter h rest

/-- All characters but those of a set. -/
def compl : Ranges → Ranges
  | [] => full
  | (l, h) :: rest => (if 0 < l then [(0, before l)] else []) ++ gapsAfter h rest

/-- How many code points the ranges of the set hold. -/
def size : Ranges → Nat
  | [] => 0
  | (low, high) :: rest => (high + 1 - low) + size rest

/-- Whether all characters of the set are ASCII. -/
def isLow (ranges : Ranges) : Bool := ranges.all fun range => range.2 < 0x80

/-! ### Small facts -/

@[simp] theorem union_nil_left (b : Ranges) : union [] b = b := rfl

@[simp] theorem union_nil_right (a : Ranges) : union a [] = a := by cases a <;> rfl

@[simp] theorem inter_nil_left (b : Ranges) : inter [] b = [] := rfl

@[simp] theorem diff_nil_left (b : Ranges) : diff [] b = [] := rfl

@[simp] theorem compl_nil : compl [] = full := rfl

end Ranges
end Promptbook.Character
