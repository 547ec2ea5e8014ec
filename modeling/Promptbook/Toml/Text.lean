/-! The small parts of a TOML text: layout, strings and keys.

Every reader takes the text that is left and gives what it read with the text behind
it, or nothing when the text is malformed there. A line ends with a line feed, which may
have a carriage return before it; other control characters stand nowhere but for the
tab. -/
namespace Promptbook.Toml

/-! ### Layout -/

def isBlank (c : Char) : Bool := c = ' ' || c = '\t'

/-- Whether a character may stand in a comment. -/
def isPlain (c : Char) : Bool := c = '\t' || (0x20 ≤ c.toNat && c.toNat != 0x7F)

def skipBlanks (text : List Char) : List Char := text.dropWhile isBlank

/-- The text behind the end of a line that starts here. -/
def lineBreak? : List Char → Option (List Char)
  | '\n' :: rest => some rest
  | '\r' :: '\n' :: rest => some rest
  | _ => none

/-- The text behind blanks, line ends and comments; `inComment` says that one is open. -/
def skipLayout? (inComment : Bool) : List Char → Option (List Char)
  | [] => some []
  | c :: rest =>
    if c = '\n' then skipLayout? false rest
    else if c = '\r' then if rest.head? = some '\n' then skipLayout? inComment rest else none
    else if inComment then if isPlain c then skipLayout? true rest else none
    else if isBlank c then skipLayout? false rest
    else if c = '#' then skipLayout? true rest
    else some (c :: rest)

/-- The text behind the rest of a line, which may hold a comment and nothing else. -/
def endLine? (text : List Char) : Option (List Char) :=
  let rest :=
    match skipBlanks text with
    | '#' :: comment => comment.dropWhile isPlain
    | rest => rest
  match rest with
  | [] => some []
  | _ => lineBreak? rest

/-! ### Strings -/

def hexValue? (c : Char) : Option Nat :=
  if '0' ≤ c ∧ c ≤ '9' then some (c.toNat - '0'.toNat)
  else if 'a' ≤ c ∧ c ≤ 'f' then some (c.toNat - 'a'.toNat + 10)
  else if 'A' ≤ c ∧ c ≤ 'F' then some (c.toNat - 'A'.toNat + 10)
  else none

/-- The character whose code point these digits write. -/
def charOfHex? (digits : List Char) : Option Char :=
  match digits.foldlM (fun n c => (hexValue? c).map (n * 16 + ·)) 0 with
  | some n => if n.isValidChar then some (Char.ofNat n) else none
  | none => none

/-- The character that one letter behind a backslash stands for. -/
def escapeOf? : Char → Option Char
  | 'b' => some '\x08'
  | 't' => some '\t'
  | 'n' => some '\n'
  | 'f' => some '\x0c'
  | 'r' => some '\r'
  | '"' => some '"'
  | '\\' => some '\\'
  | _ => none

/-- Puts a character before what was read. -/
def consChar (c : Char) : Option (List Char × List Char) → Option (List Char × List Char)
  | some (chars, rest) => some (c :: chars, rest)
  | none => none

/-- A string with escapes, from behind its opening quote. -/
def basicString? : List Char → Option (List Char × List Char)
  | [] => none
  | '"' :: rest => some ([], rest)
  | '\\' :: 'u' :: a :: b :: c :: d :: rest =>
    match charOfHex? [a, b, c, d] with
    | some char => consChar char (basicString? rest)
    | none => none
  | '\\' :: 'U' :: a :: b :: c :: d :: e :: f :: g :: h :: rest =>
    match charOfHex? [a, b, c, d, e, f, g, h] with
    | some char => consChar char (basicString? rest)
    | none => none
  | '\\' :: letter :: rest =>
    match escapeOf? letter with
    | some char => consChar char (basicString? rest)
    | none => none
  | c :: rest => if c ≠ '\\' ∧ isPlain c then consChar c (basicString? rest) else none

/-- A string without escapes, from behind its opening quote. -/
def literalString? : List Char → Option (List Char × List Char)
  | [] => none
  | '\'' :: rest => some ([], rest)
  | c :: rest => if isPlain c then consChar c (literalString? rest) else none

/-- A string over lines, from behind its three quotes. While `joining` holds, blanks and
line ends are left out, as a backslash at the end of a line asks. -/
def longString? (joining : Bool) : List Char → Option (List Char × List Char)
  | [] => none
  | '"' :: '"' :: '"' :: '"' :: '"' :: rest => some (['"', '"'], rest)
  | '"' :: '"' :: '"' :: '"' :: rest => some (['"'], rest)
  | '"' :: '"' :: '"' :: rest => some ([], rest)
  | '"' :: rest => consChar '"' (longString? false rest)
  | '\\' :: 'u' :: a :: b :: c :: d :: rest =>
    match charOfHex? [a, b, c, d] with
    | some char => consChar char (longString? false rest)
    | none => none
  | '\\' :: 'U' :: a :: b :: c :: d :: e :: f :: g :: h :: rest =>
    match charOfHex? [a, b, c, d, e, f, g, h] with
    | some char => consChar char (longString? false rest)
    | none => none
  | '\\' :: letter :: rest =>
    match escapeOf? letter with
    | some char => consChar char (longString? false rest)
    | none =>
      if (lineBreak? (skipBlanks (letter :: rest))).isSome then longString? true (letter :: rest)
      else none
  | '\r' :: '\n' :: rest =>
    if joining then longString? true rest else consChar '\n' (longString? false rest)
  | c :: rest =>
    if joining ∧ (isBlank c ∨ c = '\n') then longString? true rest
    else if c ≠ '\\' ∧ (c = '\n' ∨ isPlain c) then consChar c (longString? false rest)
    else none

/-- A string over lines and without escapes, from behind its three quotes. -/
def longLiteral? : List Char → Option (List Char × List Char)
  | [] => none
  | '\'' :: '\'' :: '\'' :: '\'' :: '\'' :: rest => some (['\'', '\''], rest)
  | '\'' :: '\'' :: '\'' :: '\'' :: rest => some (['\''], rest)
  | '\'' :: '\'' :: '\'' :: rest => some ([], rest)
  | '\r' :: '\n' :: rest => consChar '\n' (longLiteral? rest)
  | c :: rest => if c = '\n' ∨ isPlain c then consChar c (longLiteral? rest) else none

/-- The text behind a line end that directly follows the opening of a long string. -/
def dropFirstBreak (text : List Char) : List Char := (lineBreak? text).getD text

/-- A string of any of the four kinds. -/
def string? : List Char → Option (List Char × List Char)
  | '"' :: '"' :: '"' :: rest => longString? false (dropFirstBreak rest)
  | '"' :: rest => basicString? rest
  | '\'' :: '\'' :: '\'' :: rest => longLiteral? (dropFirstBreak rest)
  | '\'' :: rest => literalString? rest
  | _ => none

/-! ### Keys -/

def isBareKeyChar (c : Char) : Bool := c.isAlphanum || c = '_' || c = '-'

/-- One part of a key, bare or quoted on its line. -/
def keyPart? (text : List Char) : Option (String × List Char) :=
  match text with
  | '"' :: rest => (basicString? rest).map fun (part, rest) => (String.ofList part, rest)
  | '\'' :: rest => (literalString? rest).map fun (part, rest) => (String.ofList part, rest)
  | _ =>
    match text.span isBareKeyChar with
    | ([], _) => none
    | (part, rest) => some (String.ofList part, rest)

/-- A key of at least one part, with dots between them and blanks around each, in at most
so many parts. -/
def key? : Nat → List Char → Option (List String × List Char)
  | 0, _ => none
  | parts + 1, text =>
    match keyPart? (skipBlanks text) with
    | none => none
    | some (part, rest) =>
      match skipBlanks rest with
      | '.' :: more =>
        match key? parts more with
        | some (path, rest) => some (part :: path, rest)
        | none => none
      | rest => some ([part], rest)

end Promptbook.Toml
