import Promptbook.Toml.Text

/-! TOML documents.

A document is a table built line by line: a header opens a table, and a key with a value
puts an entry into the table that is open. A key is set once, and a table is opened by
one header at most. Values are strings, booleans, arrays and tables; no configuration
holds a number, a date or a list of tables, so those are not read. -/
namespace Promptbook.Toml

/-- How a table came to be, which decides what may still be added to it. -/
inductive TableOrigin where
  /-- Opened by a header of its own. -/
  | header
  /-- Named on the way to the table of a header. -/
  | implied
  /-- Named on the way to the last part of a key. -/
  | dotted
  /-- Written as a value. -/
  | inline
  deriving DecidableEq

inductive Value where
  | string (text : String)
  | boolean (value : Bool)
  | array (elements : List Value)
  | table (origin : TableOrigin) (entries : List (String × Value))
  deriving Inhabited

abbrev Entries := List (String × Value)

namespace Entries

/-- The entries with this value under a key. -/
def put (entries : Entries) (key : String) (value : Value) : Entries :=
  if entries.any (·.1 = key) then entries.map fun e => if e.1 = key then (key, value) else e
  else entries ++ [(key, value)]

/-- Sets a key, given by its parts, that is not set yet. -/
def set? (entries : Entries) (value : Value) : List String → Option Entries
  | [] => none
  | [key] => if (entries.lookup key).isSome then none else some (entries.put key value)
  | key :: path =>
    match entries.lookup key with
    | none => (set? [] value path).map fun inner => entries.put key (.table .dotted inner)
    | some (.table .dotted inner) =>
      (set? inner value path).map fun inner => entries.put key (.table .dotted inner)
    | some _ => none

/-- Opens the table of a header. -/
def openTable? (entries : Entries) : List String → Option Entries
  | [] => none
  | [key] =>
    match entries.lookup key with
    | none => some (entries.put key (.table .header []))
    | some (.table .implied inner) => some (entries.put key (.table .header inner))
    | some _ => none
  | key :: path =>
    match entries.lookup key with
    | none => (openTable? [] path).map fun inner => entries.put key (.table .implied inner)
    | some (.table .inline _) => none
    | some (.table origin inner) =>
      (openTable? inner path).map fun inner => entries.put key (.table origin inner)
    | some _ => none

/-- Sets a key in the table that a header opened. -/
def setIn? (entries : Entries) (key : List String) (value : Value) : List String → Option Entries
  | [] => entries.set? value key
  | name :: path =>
    match entries.lookup name with
    | some (.table origin inner) =>
      (setIn? inner key value path).map fun inner => entries.put name (.table origin inner)
    | _ => none

end Entries

/-! ### Values -/

mutual

/-- A value, nested at most so deep and long. -/
def value? : Nat → List Char → Option (Value × List Char)
  | 0, _ => none
  | steps + 1, text =>
    match text with
    | 't' :: 'r' :: 'u' :: 'e' :: rest => some (.boolean true, rest)
    | 'f' :: 'a' :: 'l' :: 's' :: 'e' :: rest => some (.boolean false, rest)
    | '[' :: rest =>
      (elements? steps rest).map fun (elements, rest) => (.array elements, rest)
    | '\x7b' :: rest =>
      match skipBlanks rest with
      | '\x7d' :: rest => some (.table .inline [], rest)
      | rest => (entries? steps [] rest).map fun (entries, rest) => (.table .inline entries, rest)
    | _ => (string? text).map fun (chars, rest) => (.string (String.ofList chars), rest)

/-- The elements of an array, from behind its bracket or a comma. -/
def elements? : Nat → List Char → Option (List Value × List Char)
  | 0, _ => none
  | steps + 1, text =>
    match skipLayout? false text with
    | none => none
    | some (']' :: rest) => some ([], rest)
    | some text =>
      match value? steps text with
      | none => none
      | some (value, rest) =>
        match skipLayout? false rest with
        | some (',' :: rest) =>
          (elements? steps rest).map fun (values, rest) => (value :: values, rest)
        | some (']' :: rest) => some ([value], rest)
        | _ => none

/-- The entries of a table written as a value, from behind its brace or a comma. -/
def entries? : Nat → Entries → List Char → Option (Entries × List Char)
  | 0, _, _ => none
  | steps + 1, entries, text =>
    match key? (text.length + 1) text with
    | some (key, '=' :: rest) =>
      match value? steps (skipBlanks rest) with
      | none => none
      | some (value, rest) =>
        match entries.set? value key with
        | none => none
        | some entries =>
          match skipBlanks rest with
          | ',' :: rest => entries? steps entries rest
          | '\x7d' :: rest => some (entries, rest)
          | _ => none
    | _ => none

end

/-! ### Documents -/

/-- A document read so far, and the table that is open. -/
structure Draft where
  entries : Entries := []
  opened : List String := []

namespace Draft

/-- Reads one line that is neither blank nor a comment. -/
def line? (draft : Draft) : List Char → Option (Draft × List Char)
  | '[' :: rest =>
    match key? (rest.length + 1) rest with
    | some (path, ']' :: rest) =>
      match draft.entries.openTable? path, endLine? rest with
      | some entries, some rest => some (⟨entries, path⟩, rest)
      | _, _ => none
    | _ => none
  | text =>
    match key? (text.length + 1) text with
    | some (key, '=' :: rest) =>
      match value? (rest.length + 1) (skipBlanks rest) with
      | none => none
      | some (value, rest) =>
        match draft.entries.setIn? key value draft.opened, endLine? rest with
        | some entries, some rest => some ({ draft with entries := entries }, rest)
        | _, _ => none
    | _ => none

/-- Reads at most so many lines, to the end. -/
def run? : Nat → Draft → List Char → Option Entries
  | 0, _, _ => none
  | steps + 1, draft, text =>
    match skipLayout? false text with
    | none => none
    | some [] => some draft.entries
    | some text =>
      match draft.line? text with
      | some (draft, rest) => run? steps draft rest
      | none => none

end Draft

/-- The entries of a document; a mark of the byte order may stand before it. -/
def document? (text : String) : Option Entries :=
  let chars :=
    match text.toList with
    | '\ufeff' :: rest => rest
    | chars => chars
  Draft.run? (chars.length + 1) {} chars

end Promptbook.Toml
