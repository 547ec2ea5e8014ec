import Promptbook.Text.Blank
import Promptbook.Text.Utf8
import Promptbook.Substitution.Source

/-! A source at a console.

A question is written out and one line is read as its answer. Origins are shown as a
numbered list and picked by number or by label. Registers and the kind of file are
given beforehand. The octets that have not been read stay for the next question. -/
namespace Promptbook.Substitution
open Text

structure Console where
  /-- The octets not read yet. -/
  unread : List UInt8
  /-- Everything written so far. -/
  written : String := ""
  registers : Registers := []
  filetype : String := ""
  /-- Whether a line was wanted when nothing was left. -/
  exhausted : Bool := false
  deriving DecidableEq

namespace Console

/-! ### Lines -/

/-- The octets up to and with the first line feed, and those behind it. -/
def cutLine : List UInt8 → List UInt8 × List UInt8
  | [] => ([], [])
  | octet :: rest =>
    if octet = 0x0A then ([octet], rest)
    else
      let (line, after) := cutLine rest
      (octet :: line, after)

/-- A line without the carriage returns and line feeds at its end. -/
def withoutBreak (line : String) : String :=
  String.ofList (line.toList.reverse.dropWhile fun c => c = '\r' || c = '\n').reverse

/-- The next line, or nothing at the end; a line that is no text is used up all the same. -/
def readLine : Call Console (Option String) := fun console =>
  let (line, rest) := cutLine console.unread
  if line.isEmpty then (.ok none, { console with exhausted := true })
  else
    let console := { console with unread := rest }
    match decodeUtf8 line with
    | .ok text => (.ok (some (withoutBreak text)), console)
    | .error fault => (.error (.io fault.message), console)

def write (console : Console) (text : String) : Console :=
  { console with written := console.written ++ text }

/-! ### Picking an origin -/

/-- The numbered list of origins, one on each line. -/
def menu (origins : List Origin) : String :=
  String.join (origins.zipIdx.map fun (origin, i) => s!"  {i + 1}) {origin.label}\n")

/-- The largest number that counts as one. -/
def numberLimit : Nat := 18446744073709551615

/-- The number that a text writes: digits, with a plus sign before them or without. -/
def number? (text : List Char) : Option Nat :=
  let digits :=
    match text with
    | '+' :: rest => rest
    | _ => text
  if digits = [] ∨ !digits.all Char.isDigit then none
  else
    let n := digits.foldl (fun n c => n * 10 + (c.toNat - '0'.toNat)) 0
    if n ≤ numberLimit then some n else none

/-- The origin that an answer picks: by its place in the list, counted from one, or by its
label in any case. -/
def pick? (origins : List Origin) (answer : List Char) : Option Origin :=
  let answer := trim answer
  match number? answer with
  | some 0 => none
  | some (n + 1) => origins[n]?
  | none =>
    origins.find? fun origin =>
      origin.label.toList.map Char.toLower = answer.map Char.toLower

/-! ### The source -/

/-- Asks at the console. -/
def source : Source Console where
  input prompt console := readLine (console.write prompt)
  choose prompt origins console :=
    match readLine (console.write (menu origins ++ prompt)) with
    | (.ok (some answer), console) => (.ok (pick? origins answer.toList), console)
    | (.ok none, console) => (.ok none, console)
    | (.error error, console) => (.error error, console)
  register name console := (.ok (console.registers.get name), console)
  filetype console := (.ok console.filetype, console)

/-! ### Small facts -/

@[simp] theorem isEmpty_cutLine (octets : List UInt8) :
    (cutLine octets).1.isEmpty = octets.isEmpty := by
  cases octets with
  | nil => rfl
  | cons octet rest => by_cases h : octet = 0x0A <;> simp [cutLine, h]

end Console
end Promptbook.Substitution
