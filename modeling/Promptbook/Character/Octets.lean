import Promptbook.Character.Ranges

/-! Ranges of characters as ranges of octets.

A range of characters is split into parts in each of which the octets range on their own:
the part holds exactly the characters whose octets, one by one, lie between those of its
first and those of its last character. -/
namespace Promptbook.Character

/-- A range of octets. -/
abbrev OctetRange := Nat × Nat

/-- The octets of a code point in UTF-8. -/
def octetsOf (n : Nat) : List Nat :=
  if n < 0x80 then [n]
  else if n < 0x800 then [0xC0 + n / 64, 0x80 + n % 64]
  else if n < 0x10000 then [0xE0 + n / 4096, 0x80 + n / 64 % 64, 0x80 + n % 64]
  else [0xF0 + n / 262144, 0x80 + n / 4096 % 64, 0x80 + n / 64 % 64, 0x80 + n % 64]

/-- The octets of a text in UTF-8. -/
def octetsOfText (text : List Char) : List Nat := text.flatMap fun c => octetsOf c.toNat

/-- The code points by the number of their octets, without those of no character. -/
def byLength : Ranges :=
  [(0, 0x7F), (0x80, 0x7FF), (0x800, 0xD7FF), (0xE000, 0xFFFF), (0x10000, 0x10FFFF)]

/-- A range that reaches into several blocks of this many code points is split into what
lies in its first block, the blocks that it fills and what lies in its last block. -/
def blocks (unit : Nat) (range : Nat × Nat) : List (Nat × Nat) :=
  if range.1 / unit = range.2 / unit then [range]
  else
    let first := (range.1 + unit - 1) / unit * unit
    let behind := (range.2 + 1) / unit * unit
    [(range.1, first - 1), (first, behind - 1), (behind, range.2)].filter fun part =>
      part.1 ≤ part.2

/-- The parts of a range in which octets range on their own. -/
def partsOf (range : Nat × Nat) : List (Nat × Nat) :=
  if range.2 < 0x80 then [range]
  else ((blocks 64 range).flatMap (blocks 4096)).flatMap (blocks 262144)

/-- The rows of octet ranges that make up a set, in ascending order. -/
def octetRows (set : Ranges) : List (List OctetRange) :=
  (set.inter byLength).flatMap fun range =>
    (partsOf range).map fun part => (octetsOf part.1).zip (octetsOf part.2)

/-! ### Small facts -/

@[simp] theorem octetRows_nil : octetRows [] = [] := rfl

end Promptbook.Character
