/-! Texts as octets, and octets that are no text.

A text in UTF-8 is a row of characters of one to four octets, of which the first says
how many there are and what the second may be. The fault of a row of octets is the
first place where no character begins that could be completed, or where the octets end
before the character does. -/
namespace Promptbook.Text

/-- Why octets are not a text. -/
inductive Utf8Fault where
  /-- So many octets from this index begin no character. -/
  | invalid (octets index : Nat)
  /-- The octets end inside the character that begins at this index. -/
  | incomplete (index : Nat)
  deriving DecidableEq

def Utf8Fault.message : Utf8Fault → String
  | .invalid octets index => s!"invalid utf-8 sequence of {octets} bytes from index {index}"
  | .incomplete index => s!"incomplete utf-8 byte sequence from index {index}"

/-- What must follow a first octet: the range of the second octet, and how many more. -/
def utf8Tail? (first : UInt8) : Option (Option (UInt8 × UInt8 × Nat)) :=
  if first < 0x80 then some none
  else if first < 0xC2 then none
  else if first < 0xE0 then some (some (0x80, 0xBF, 0))
  else if first = 0xE0 then some (some (0xA0, 0xBF, 1))
  else if first = 0xED then some (some (0x80, 0x9F, 1))
  else if first < 0xF0 then some (some (0x80, 0xBF, 1))
  else if first = 0xF0 then some (some (0x90, 0xBF, 2))
  else if first < 0xF4 then some (some (0x80, 0xBF, 2))
  else if first = 0xF4 then some (some (0x80, 0x8F, 2))
  else none

/-- Reads octets one by one from `index` on. Inside a character, `inside` holds where it
began, the range of the next octet and how many are needed behind that one. -/
def utf8FaultFrom (index : Nat) (inside : Option (Nat × UInt8 × UInt8 × Nat)) :
    List UInt8 → Option Utf8Fault
  | [] => inside.map fun (start, _) => .incomplete start
  | octet :: rest =>
    match inside with
    | none =>
      match utf8Tail? octet with
      | none => some (.invalid 1 index)
      | some none => utf8FaultFrom (index + 1) none rest
      | some (some (low, high, more)) =>
        utf8FaultFrom (index + 1) (some (index, low, high, more)) rest
    | some (start, low, high, more) =>
      if low ≤ octet ∧ octet ≤ high then
        match more with
        | 0 => utf8FaultFrom (index + 1) none rest
        | more + 1 => utf8FaultFrom (index + 1) (some (start, 0x80, 0xBF, more)) rest
      else some (.invalid (index - start) start)

/-- The first fault of octets, if they have one. -/
def utf8Fault? (octets : List UInt8) : Option Utf8Fault := utf8FaultFrom 0 none octets

/-- The text that octets write. -/
def decodeUtf8 (octets : List UInt8) : Except Utf8Fault String :=
  match String.fromUTF8? ⟨octets.toArray⟩ with
  | some text => .ok text
  | none => .error ((utf8Fault? octets).getD (.incomplete octets.length))

/-- The octets that write a text. -/
def encodeUtf8 (text : String) : List UInt8 := text.toUTF8.toList

end Promptbook.Text
