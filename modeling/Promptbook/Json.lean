/-! JSON values and how they are laid out for reading.

An object keeps its members in order. The layout puts every member and element on its
own line, two blanks deeper than what holds it; empty objects and arrays stay on one
line, and characters outside ASCII are written as they are. -/
namespace Promptbook

inductive Json where
  | null
  | bool (value : Bool)
  /-- A number as it was written. -/
  | number (text : String)
  | string (text : String)
  | array (elements : List Json)
  | object (members : List (String × Json))
  deriving Inhabited

namespace Json

/-! ### Strings -/

def hexDigit (n : Nat) : Char := if n < 10 then Char.ofNat (48 + n) else Char.ofNat (87 + n)

/-- A character inside a quoted string. -/
def quotedChar (c : Char) : List Char :=
  if c = '"' then ['\\', '"']
  else if c = '\\' then ['\\', '\\']
  else if c = '\n' then ['\\', 'n']
  else if c = '\r' then ['\\', 'r']
  else if c = '\t' then ['\\', 't']
  else if c = '\x08' then ['\\', 'b']
  else if c = '\x0c' then ['\\', 'f']
  else if c.toNat < 0x20 then
    ['\\', 'u', '0', '0', hexDigit (c.toNat / 16), hexDigit (c.toNat % 16)]
  else [c]

def quoted (text : String) : String :=
  String.ofList ('"' :: text.toList.flatMap quotedChar ++ ['"'])

/-! ### Layout -/

/-- The start of a line at this depth. -/
def indent (depth : Nat) : String := String.ofList (List.replicate (2 * depth) ' ')

mutual

/-- A value that stands at this depth. -/
def layout (depth : Nat) : Json → String
  | .null => "null"
  | .bool true => "true"
  | .bool false => "false"
  | .number text => text
  | .string text => quoted text
  | .array [] => "[]"
  | .array (element :: rest) =>
    "[\n" ++ indent (depth + 1) ++ layout (depth + 1) element ++ layoutElements (depth + 1) rest ++
      "\n" ++ indent depth ++ "]"
  | .object [] => "\x7b\x7d"
  | .object ((key, value) :: rest) =>
    "\x7b\n" ++ indent (depth + 1) ++ quoted key ++ ": " ++ layout (depth + 1) value ++
      layoutMembers (depth + 1) rest ++ "\n" ++ indent depth ++ "\x7d"

def layoutElements (depth : Nat) : List Json → String
  | [] => ""
  | element :: rest =>
    ",\n" ++ indent depth ++ layout depth element ++ layoutElements depth rest

def layoutMembers (depth : Nat) : List (String × Json) → String
  | [] => ""
  | (key, value) :: rest =>
    ",\n" ++ indent depth ++ quoted key ++ ": " ++ layout depth value ++ layoutMembers depth rest

end

/-- A value laid out for reading. -/
def pretty (json : Json) : String := layout 0 json

/-! ### Members -/

/-- The member with this key, if there is one. -/
def member? (members : List (String × Json)) (key : String) : Option Json := members.lookup key

/-- A string, or null for none. -/
def ofOption : Option String → Json
  | some text => .string text
  | none => .null

end Json
end Promptbook
