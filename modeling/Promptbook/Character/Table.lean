import Promptbook.Character.Ranges

/-! Tables of characters as text.

The large tables of the standard are written as lines of entries that a blank parts. A
listing holds code points and ranges in hexadecimal (`41-5a aa`); a partition gives every
code point a value, run by run, with the length of the run before the value (`32Cc Zs`,
where a run of one has no number). -/
namespace Promptbook.Character

/-- The number that hexadecimal digits write. -/
def hexOf (digits : List Char) : Nat :=
  digits.foldl (fun n c => n * 16 + if c.isDigit then c.toNat - 48 else c.toNat - 87) 0

/-- The number that decimal digits write. -/
def decimalOf (digits : List Char) : Nat :=
  digits.foldl (fun n c => n * 10 + (c.toNat - 48)) 0

/-- The entries of a table. -/
def entriesOf (lines : List String) : List (List Char) :=
  lines.flatMap fun line => line.toList.splitOn ' '

/-! ### Listings -/

/-- A range as an entry writes it: one code point, or two with a hyphen between them. -/
def rangeOf (entry : List Char) : Nat × Nat :=
  match entry.span (· != '-') with
  | (low, _ :: high) => (hexOf low, hexOf high)
  | (low, []) => (hexOf low, hexOf low)

/-- The set that a listing gives. -/
def listed (lines : List String) : Ranges := (entriesOf lines).map rangeOf

/-! ### Partitions -/

/-- A run of code points with one value: its length and the value. -/
abbrev Run := Nat × String

/-- A run as an entry writes it. -/
def runOf (entry : List Char) : Run :=
  match entry.span Char.isDigit with
  | ([], value) => (1, String.ofList value)
  | (digits, value) => (decimalOf digits, String.ofList value)

def runsOf (lines : List String) : List Run := (entriesOf lines).map runOf

/-- The code points from `start` on whose value is kept. -/
def keepFrom (keep : String → Bool) (start : Nat) : List Run → Ranges
  | [] => []
  | (length, value) :: rest =>
    let tail := keepFrom keep (start + length) rest
    if keep value then Ranges.join start (start + length - 1) tail else tail

/-- The characters whose value in a partition is kept. -/
def withValue (runs : List Run) (keep : String → Bool) : Ranges := keepFrom keep 0 runs

end Promptbook.Character
