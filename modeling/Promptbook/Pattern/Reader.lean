import Promptbook.Pattern.Meaning
import Promptbook.Pattern.Size
import Promptbook.Pattern.Token

/-! Reading a pattern.

Brackets and groups nest, so each reader keeps a stack of what is open: a level holds
what has been read on it so far, and the bracket or group that it belongs to is built
when it closes. Each step reads at least one character, which bounds their number by
the length of the text. -/
namespace Promptbook.Pattern
open Character Text

/-! ### Character classes -/

/-- An open bracket: the sets read since the last operator, and what stands before it. -/
structure ClassLevel where
  negated : Bool
  /-- The sets read, last first. -/
  sets : List CharSet := []
  pending : Option (SetOperator × CharSet) := none

namespace ClassLevel

/-- The set that the level stands for as it is. -/
def close (level : ClassLevel) : CharSet :=
  let last := CharSet.ofUnion level.sets.reverse
  match level.pending with
  | none => last
  | some (operator, left) => .combine operator left last

def push (level : ClassLevel) (set : CharSet) : ClassLevel :=
  { level with sets := set :: level.sets }

/-- The level behind an operator. -/
def operate (level : ClassLevel) (operator : SetOperator) : ClassLevel :=
  { level with sets := [], pending := some (operator, level.close) }

end ClassLevel

/-- Hyphens at the start of a bracket, each of which stands for itself. -/
def leadingHyphens (verbose inComment : Bool) : List Char → List CharSet × List Char
  | [] => ([], [])
  | c :: rest =>
    if inComment then leadingHyphens verbose (c != '\n') rest
    else if c = '-' then
      let (sets, after) := leadingHyphens verbose false rest
      (.literal '-' :: sets, after)
    else if verbose && isBlank c then leadingHyphens verbose false rest
    else if verbose && c = '#' then leadingHyphens verbose true rest
    else ([], c :: rest)

/-- Opens a bracket, from behind it: a `^` negates it, and hyphens or else one closing
bracket at its start stand for themselves. -/
def openClass? (verbose : Bool) (text : List Char) : Option (ClassLevel × List Char) :=
  let text := skip verbose text
  let (negated, text) :=
    match text with
    | '^' :: rest => (true, skip verbose rest)
    | _ => (false, text)
  match leadingHyphens verbose false text with
  | (_, []) => none
  | ([], ']' :: rest) =>
    match skip verbose rest with
    | [] => none
    | rest => some ({ negated := negated, sets := [.literal ']'] }, rest)
  | (hyphens, rest) => some ({ negated := negated, sets := hyphens }, rest)

/-- The classes between colons by name. -/
def classNames : List (String × Ranges) := [
  ("alnum", [(0x30, 0x39), (0x41, 0x5A), (0x61, 0x7A)]),
  ("alpha", [(0x41, 0x5A), (0x61, 0x7A)]),
  ("ascii", [(0x00, 0x7F)]),
  ("blank", [(0x09, 0x09), (0x20, 0x20)]),
  ("cntrl", [(0x00, 0x1F), (0x7F, 0x7F)]),
  ("digit", [(0x30, 0x39)]),
  ("graph", [(0x21, 0x7E)]),
  ("lower", [(0x61, 0x7A)]),
  ("print", [(0x20, 0x7E)]),
  ("punct", [(0x21, 0x2F), (0x3A, 0x40), (0x5B, 0x60), (0x7B, 0x7E)]),
  ("space", [(0x09, 0x0D), (0x20, 0x20)]),
  ("upper", [(0x41, 0x5A)]),
  ("word", [(0x30, 0x39), (0x41, 0x5A), (0x5F, 0x5F), (0x61, 0x7A)]),
  ("xdigit", [(0x30, 0x39), (0x41, 0x46), (0x61, 0x66)])]

/-- A class between colons, from behind its opening bracket; nothing if there is none. -/
def namedClass? : List Char → Option (CharSet × List Char)
  | ':' :: rest =>
    let (negated, rest) :=
      match rest with
      | '^' :: more => (true, more)
      | _ => (false, rest)
    match rest.span (· != ':') with
    | (name, ':' :: ']' :: after) =>
      (classNames.lookup (String.ofList name)).map fun set => (.named set negated, after)
    | _ => none
  | _ => none

/-- One member of a class. -/
def classItem? (verbose : Bool) : List Char → Option (Primitive × List Char)
  | [] => none
  | '\\' :: rest => escape? verbose rest
  | c :: rest => some (.literal c false, rest)

/-- The set that a member stands for; word edges and the like have none. -/
def Primitive.toSet? : Primitive → Option CharSet
  | .literal c _ => some (.literal c)
  | .place _ => none
  | .letterClass kind negated => some (.letterClass kind negated)
  | .property p => some (.property p)

/-- The character that decides whether the hyphen before it makes a range. -/
def afterHyphen? (verbose : Bool) (text : List Char) : Option Char :=
  if verbose then
    match text.dropWhile isBlank with
    | '#' :: rest => (rest.dropWhile isBlank).head?
    | rest => rest.head?
  else text.head?

/-- A member of a class, or a range between two. -/
def classRange? (verbose : Bool) (text : List Char) : Option (CharSet × List Char) :=
  match classItem? verbose text with
  | none => none
  | some (first, rest) =>
    match skip verbose rest with
    | [] => none
    | '-' :: more =>
      if afterHyphen? verbose more = some ']' ∨ afterHyphen? verbose more = some '-' then
        first.toSet?.map (·, '-' :: more)
      else
        match skip verbose more with
        | [] => none
        | more =>
          match classItem? verbose more with
          | none => none
          | some (second, after) =>
            match first, second with
            | .literal low _, .literal high _ =>
              if low ≤ high then some (.range low high, after) else none
            | _, _ => none
    | rest => first.toSet?.map (·, rest)

/-- The expression of a whole bracket, read with the brackets around the current one. -/
def readClass? (verbose : Bool) : Nat → ClassLevel → List ClassLevel → List Char →
    Option (Expr × List Char)
  | 0, _, _, _ => none
  | steps + 1, level, outer, text =>
    match skip verbose text with
    | [] => none
    | '[' :: rest =>
      match namedClass? rest with
      | some (set, after) => readClass? verbose steps (level.push set) outer after
      | none =>
        match openClass? verbose rest with
        | some (inner, after) => readClass? verbose steps inner (level :: outer) after
        | none => none
    | ']' :: rest =>
      match outer with
      | [] => some (.bracketed level.negated level.close, rest)
      | parent :: outer =>
        readClass? verbose steps (parent.push (.bracketed level.negated level.close)) outer rest
    | '&' :: '&' :: rest => readClass? verbose steps (level.operate .intersection) outer rest
    | '-' :: '-' :: rest => readClass? verbose steps (level.operate .difference) outer rest
    | '~' :: '~' :: rest => readClass? verbose steps (level.operate .symmetricDifference) outer rest
    | text =>
      match classRange? verbose text with
      | some (set, after) => readClass? verbose steps (level.push set) outer after
      | none => none

/-! ### Groups and branches -/

/-- What has been read of a group, or of the whole pattern. -/
structure Level where
  /-- The finished branches, last first. -/
  branches : List Expr := []
  /-- The parts of the open branch, last first. -/
  parts : List Expr := []

namespace Level

/-- The expression that the level stands for as it is. -/
def close (level : Level) : Expr :=
  let last := Expr.ofConcat level.parts.reverse
  match level.branches with
  | [] => last
  | branches => .alternation (branches.reverse ++ [last])

def push (level : Level) (expr : Expr) : Level := { level with parts := expr :: level.parts }

/-- The level with a new branch begun. -/
def branch (level : Level) : Level :=
  { branches := Expr.ofConcat level.parts.reverse :: level.branches, parts := [] }

/-- The level with its last part repeated; nothing if there is no part to repeat. -/
def repeatLast? (level : Level) (least : Nat) (most : Option Nat) (lazy : Bool) :
    Option Level :=
  match level.parts with
  | [] => none
  | .empty :: _ => none
  | .flags _ :: _ => none
  | last :: before => some { level with parts := .repetition last least most lazy :: before }

end Level

/-- An open group: the level around it, what becomes of it when it is closed, and whether
verbose mode held before it. -/
structure OpenGroup where
  outer : Level
  build : Expr → Expr
  verbose : Bool

/-- How far a pattern has been read. -/
structure Progress where
  level : Level := {}
  groups : List OpenGroup := []
  /-- How many groups have kept their text so far. -/
  captures : Nat := 0
  verbose : Bool := false
  /-- The group names met so far. -/
  names : List (List Char) := []

namespace Progress

def push (progress : Progress) (expr : Expr) : Progress :=
  { progress with level := progress.level.push expr }

/-- Enters a group with flags. -/
def enter (progress : Progress) (fs : Flags) : Progress :=
  { progress with
    level := {}
    groups := ⟨progress.level, .group fs, progress.verbose⟩ :: progress.groups
    verbose := (fs.state? 'x').getD progress.verbose }

/-- Enters a group whose text is kept. -/
def enterCapture (progress : Progress) : Progress :=
  { progress with
    level := {}
    groups := ⟨progress.level, .capture progress.captures, progress.verbose⟩ :: progress.groups
    captures := progress.captures + 1 }

/-- Leaves the innermost group; nothing if none is open. -/
def leave? (progress : Progress) : Option Progress :=
  match progress.groups with
  | [] => none
  | group :: groups =>
    some { progress with
      level := group.outer.push (group.build progress.level.close)
      groups := groups
      verbose := group.verbose }

/-- Reads what stands behind the parenthesis that opens a group. -/
def openGroup? (progress : Progress) (text : List Char) : Option (Progress × List Char) :=
  let named (rest : List Char) : Option (Progress × List Char) :=
    match groupName? rest with
    | some (name, after) =>
      if progress.names.contains name then none
      else some ({ progress with names := name :: progress.names }.enterCapture, after)
    | none => none
  match skip progress.verbose text with
  | '?' :: '=' :: _ => none
  | '?' :: '!' :: _ => none
  | '?' :: '<' :: '=' :: _ => none
  | '?' :: '<' :: '!' :: _ => none
  | '?' :: 'P' :: '<' :: rest => named rest
  | '?' :: '<' :: rest => named rest
  | '?' :: rest =>
    match flags? [] false false rest with
    | some (fs, ')' :: after) =>
      if fs.isEmpty then none
      else
        some ({ progress with verbose := (fs.state? 'x').getD progress.verbose }.push (.flags fs),
          after)
    | some (fs, _ :: after) => some (progress.enter fs, after)
    | _ => none
  | rest => some (progress.enterCapture, rest)

/-- Repeats the last part; a question mark behind the operator belongs to it. -/
def repeatLast? (progress : Progress) (least : Nat) (most : Option Nat) (text : List Char) :
    Option (Progress × List Char) :=
  let (lazy, rest) :=
    match text with
    | '?' :: rest => (true, rest)
    | _ => (false, text)
  (progress.level.repeatLast? least most lazy).map fun level =>
    ({ progress with level := level }, rest)

/-- Reads one part that stands alone. -/
def primitive? (progress : Progress) : List Char → Option (Progress × List Char)
  | [] => none
  | '\\' :: rest =>
    match escape? progress.verbose rest with
    | some (.literal c octet, after) => some (progress.push (.literal c octet), after)
    | some (.place place, after) => some (progress.push (.place place), after)
    | some (.letterClass kind negated, after) =>
      some (progress.push (.letterClass kind negated), after)
    | some (.property p, after) => some (progress.push (.property p), after)
    | none => none
  | '.' :: rest => some (progress.push .dot, rest)
  | '^' :: rest => some (progress.push (.place .lineStart), rest)
  | '$' :: rest => some (progress.push (.place .lineEnd), rest)
  | c :: rest => some (progress.push (.literal c false), rest)

/-- Reads one part, operator or parenthesis. -/
def step? (progress : Progress) : List Char → Option (Progress × List Char)
  | '(' :: rest => progress.openGroup? rest
  | ')' :: rest => progress.leave?.map (·, rest)
  | '|' :: rest => some ({ progress with level := progress.level.branch }, rest)
  | '[' :: rest =>
    match openClass? progress.verbose rest with
    | some (level, after) =>
      match readClass? progress.verbose (after.length + 1) level [] after with
      | some (expr, after) => some (progress.push expr, after)
      | none => none
    | none => none
  | '?' :: rest => progress.repeatLast? 0 (some 1) rest
  | '*' :: rest => progress.repeatLast? 0 none rest
  | '+' :: rest => progress.repeatLast? 1 none rest
  | '\x7b' :: rest =>
    match bounds? progress.verbose rest with
    | some ((least, most), after) =>
      progress.repeatLast? least most (skip progress.verbose after)
    | none => none
  | text => progress.primitive? text

/-- Reads to the end; nothing if a part is malformed or a group stays open. -/
def run? : Nat → Progress → List Char → Option Expr
  | 0, _, _ => none
  | steps + 1, progress, text =>
    match skip progress.verbose text with
    | [] => if progress.groups.isEmpty then some progress.level.close else none
    | text =>
      match progress.step? text with
      | some (progress, rest) => run? steps progress rest
      | none => none

end Progress

/-! ### Whole patterns -/

/-- The expression that a pattern writes. -/
def read? (text : List Char) : Option Expr := Progress.run? (text.length + 1) {} text

/-- Whether a pattern is accepted: it can be read, does not nest too deep, has a meaning
under its flags, and is not too large. -/
def accepts (text : List Char) : Bool :=
  match read? text with
  | none => false
  | some expr =>
    expr.depth ≤ Expr.depthLimit &&
      match expr.form? {} with
      | some (form, _) => form.fits
      | none => false

end Promptbook.Pattern
