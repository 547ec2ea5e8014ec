import Promptbook.Text.Blank
import Promptbook.Text.WordChar
import Promptbook.Pattern.Expr

/-! The small parts of a pattern: escapes, counts, flags and names.

Every reader takes the text that is left and gives what it read with the text behind
it, or nothing when the pattern is malformed there. In verbose mode blanks, and
comments from `#` to the end of the line, are passed over between parts. -/
namespace Promptbook.Pattern
open Text

/-! ### Blanks and comments -/

/-- The text behind blanks and comments; `inComment` says that a comment is open. -/
def skipVerbose (inComment : Bool) : List Char → List Char
  | [] => []
  | c :: rest =>
    if inComment then skipVerbose (c != '\n') rest
    else if isBlank c then skipVerbose false rest
    else if c = '#' then skipVerbose true rest
    else c :: rest

/-- The text behind what verbose mode passes over. -/
def skip (verbose : Bool) (text : List Char) : List Char :=
  if verbose then skipVerbose false text else text

/-- Up to a closing brace, without what verbose mode passes over, and the text behind it. -/
def untilBrace? (verbose inComment : Bool) : List Char → Option (List Char × List Char)
  | [] => none
  | c :: rest =>
    if inComment then untilBrace? verbose (c != '\n') rest
    else if verbose && isBlank c then untilBrace? verbose false rest
    else if verbose && c = '#' then untilBrace? verbose true rest
    else if c = '}' then some ([], rest)
    else
      match untilBrace? verbose false rest with
      | some (body, after) => some (c :: body, after)
      | none => none

/-! ### Numbers -/

def hexValue? (c : Char) : Option Nat :=
  if '0' ≤ c ∧ c ≤ '9' then some (c.toNat - '0'.toNat)
  else if 'a' ≤ c ∧ c ≤ 'f' then some (c.toNat - 'a'.toNat + 10)
  else if 'A' ≤ c ∧ c ≤ 'F' then some (c.toNat - 'A'.toNat + 10)
  else none

/-- The number that hexadecimal digits write. -/
def hexNumber? (digits : List Char) : Option Nat :=
  digits.foldlM (fun n c => (hexValue? c).map (n * 16 + ·)) 0

/-- The character with this code point. -/
def charOf? (n : Nat) : Option Char := if n.isValidChar then some (Char.ofNat n) else none

/-- So many hexadecimal digits. -/
def hexDigits? (verbose : Bool) : Nat → List Char → Option (List Char × List Char)
  | 0, text => some ([], text)
  | _ + 1, [] => none
  | n + 1, c :: rest =>
    if (hexValue? c).isNone then none
    else
      match hexDigits? verbose n (skip verbose rest) with
      | some (digits, after) => some (c :: digits, after)
      | none => none

/-- Decimal digits and the text behind them. -/
def decimalDigits (verbose inComment : Bool) : List Char → List Char × List Char
  | [] => ([], [])
  | c :: rest =>
    if inComment then decimalDigits verbose (c != '\n') rest
    else if c.isDigit then
      let (digits, after) := decimalDigits verbose false rest
      (c :: digits, after)
    else if verbose && isBlank c then decimalDigits verbose false rest
    else if verbose && c = '#' then decimalDigits verbose true rest
    else ([], c :: rest)

/-- The largest count that a repetition may name. -/
def countLimit : Nat := 4294967295

/-- A count, which may stand between blanks. The number is missing if there is no digit. -/
def count? (verbose : Bool) (text : List Char) : Option (Option Nat × List Char) :=
  let (digits, after) := decimalDigits verbose false (text.dropWhile isBlank)
  let after := after.dropWhile isBlank
  if digits.isEmpty then some (none, after)
  else
    let n := digits.foldl (fun n c => n * 10 + (c.toNat - '0'.toNat)) 0
    if n ≤ countLimit then some (some n, after) else none

/-- The bounds of a counted repetition, from behind its opening brace. -/
def bounds? (verbose : Bool) (text : List Char) : Option ((Nat × Option Nat) × List Char) :=
  match count? verbose (skip verbose text) with
  | some (some least, ',' :: rest) =>
    match skip verbose rest with
    | '}' :: after => some ((least, none), after)
    | rest =>
      match count? verbose rest with
      | some (some most, '}' :: after) =>
        if least ≤ most then some ((least, some most), after) else none
      | _ => none
  | some (some least, '}' :: after) => some ((least, some least), after)
  | _ => none

/-! ### Escapes -/

/-- What an escape, or a character that stands for itself, gives. -/
inductive Primitive where
  | literal (c : Char) (octet : Bool)
  | place (place : Place)
  | letterClass (kind : LetterClass) (negated : Bool)
  | property (property : Property)

/-- The ASCII characters that a backslash makes literal: all but letters and digits, and the
two that stand for word edges. -/
def isEscapable (c : Char) : Bool :=
  c.toNat < 0x80 && !c.isAlphanum && c != '<' && c != '>'

/-- The character that an escape letter stands for. -/
def controlOf? : Char → Option Char
  | 'a' => some '\x07'
  | 'f' => some '\x0c'
  | 't' => some '\t'
  | 'n' => some '\n'
  | 'r' => some '\r'
  | 'v' => some '\x0b'
  | _ => none

/-- A character by its code point, from behind the letter that says how many digits. -/
def hexEscape? (verbose : Bool) (digits : Nat) (text : List Char) :
    Option (Primitive × List Char) :=
  match skip verbose text with
  | [] => none
  | '{' :: rest =>
    match untilBrace? verbose false rest with
    | none => none
    | some ([], _) => none
    | some (body, after) =>
      match (hexNumber? body).bind charOf? with
      | some c => some (.literal c false, skip verbose after)
      | none => none
  | text =>
    match hexDigits? verbose digits text with
    | none => none
    | some (body, after) =>
      match (hexNumber? body).bind charOf? with
      | some c => some (.literal c (digits = 2), after)
      | none => none

/-- Cuts a text at the first place where this text stands in it. -/
def cutAt? (mark : List Char) : List Char → Option (List Char × List Char)
  | [] => none
  | c :: rest =>
    if mark.isPrefixOf (c :: rest) then some ([], (c :: rest).drop mark.length)
    else
      match cutAt? mark rest with
      | some (before, after) => some (c :: before, after)
      | none => none

/-- The property that the text inside the braces names. -/
def propertyOf (negated : Bool) (body : List Char) : Property :=
  match cutAt? ['!', '='] body with
  | some (name, value) => ⟨!negated, name, some value⟩
  | none =>
    match cutAt? [':'] body with
    | some (name, value) => ⟨negated, name, some value⟩
    | none =>
      match cutAt? ['='] body with
      | some (name, value) => ⟨negated, name, some value⟩
      | none => ⟨negated, body, none⟩

/-- A property, from behind the letter that announces it. -/
def propertyEscape? (verbose negated : Bool) (text : List Char) :
    Option (Primitive × List Char) :=
  match skip verbose text with
  | [] => none
  | '{' :: rest =>
    match untilBrace? verbose false rest with
    | some (body, after) => some (.property (propertyOf negated body), after)
    | none => none
  | '\\' :: _ => none
  | c :: rest => some (.property ⟨negated, [c], none⟩, skip verbose rest)

/-- The letters and hyphens of a word-edge name and the text behind them. -/
def edgeName (verbose inComment : Bool) : List Char → List Char × List Char
  | [] => ([], [])
  | c :: rest =>
    if inComment then edgeName verbose (c != '\n') rest
    else if c.isAlpha || c = '-' then
      let (name, after) := edgeName verbose false rest
      (c :: name, after)
    else if verbose && isBlank c then edgeName verbose false rest
    else if verbose && c = '#' then edgeName verbose true rest
    else ([], c :: rest)

/-- The special word edges by name. -/
def edgeNames : List (String × Place) :=
  [("start", .wordStart), ("end", .wordEnd), ("start-half", .wordStartHalf),
    ("end-half", .wordEndHalf)]

/-- A word edge, from behind its letter: a name in braces may follow, and braces that
hold no name are left for a repetition. -/
def wordEdge? (verbose : Bool) : List Char → Option (Primitive × List Char)
  | '{' :: rest =>
    match skip verbose rest with
    | [] => none
    | c :: more =>
      if c.isAlpha || c = '-' then
        match edgeName verbose false (c :: more) with
        | (name, '}' :: after) =>
          (edgeNames.lookup (String.ofList name)).map fun edge => (.place edge, after)
        | _ => none
      else some (.place .wordEdge, '{' :: rest)
  | text => some (.place .wordEdge, text)

/-- The class that a letter stands for, negated if it is a capital. -/
def letterClass? : Char → Option Primitive
  | 'd' => some (.letterClass .digit false)
  | 's' => some (.letterClass .blank false)
  | 'w' => some (.letterClass .word false)
  | 'D' => some (.letterClass .digit true)
  | 'S' => some (.letterClass .blank true)
  | 'W' => some (.letterClass .word true)
  | _ => none

/-- The place that a character behind a backslash asks for. -/
def placeOf? : Char → Option Place
  | 'A' => some .textStart
  | 'z' => some .textEnd
  | 'B' => some .noWordEdge
  | '<' => some .wordStart
  | '>' => some .wordEnd
  | _ => none

/-- An escape, from behind its backslash. -/
def escape? (verbose : Bool) : List Char → Option (Primitive × List Char)
  | [] => none
  | c :: rest =>
    if c = 'x' then hexEscape? verbose 2 rest
    else if c = 'u' then hexEscape? verbose 4 rest
    else if c = 'U' then hexEscape? verbose 8 rest
    else if c = 'p' ∨ c = 'P' then propertyEscape? verbose (c = 'P') rest
    else if isEscapable c then some (.literal c false, rest)
    else if c = 'b' then wordEdge? verbose rest
    else
      match placeOf? c, controlOf? c with
      | some place, _ => some (.place place, rest)
      | none, some control => some (.literal control false, rest)
      | none, none => (letterClass? c).map (·, rest)

/-! ### Groups -/

/-- The letters that name a flag. -/
def flagLetters : List Char := ['i', 'm', 's', 'U', 'u', 'R', 'x']

/-- The flags of a group, up to the `:` or `)` that ends them. `negated` says that a
hyphen has been read, and `dangling` that it is the last thing read. -/
def flags? (seen : Flags) (negated dangling : Bool) : List Char → Option (Flags × List Char)
  | [] => none
  | c :: rest =>
    if c = ':' ∨ c = ')' then if dangling then none else some (seen, c :: rest)
    else if c = '-' then if negated then none else flags? seen true true rest
    else if flagLetters.contains c && (seen.lookup c).isNone then
      flags? (seen ++ [(c, !negated)]) negated false rest
    else none

/-- Whether a group name may begin with this character. -/
def startsName (c : Char) : Bool := c = '_' || isNameLetter c

/-- Whether a group name may go on with this character. -/
def continuesName (c : Char) : Bool :=
  c = '_' || c = '.' || c = '[' || c = ']' || isNameChar c

/-- The name of a group, up to the `>` that ends it, and the text behind it. -/
def groupName? (text : List Char) : Option (List Char × List Char) :=
  match text.span (· != '>') with
  | (first :: more, _ :: after) =>
    if startsName first && more.all continuesName then some (first :: more, after) else none
  | _ => none

end Promptbook.Pattern
