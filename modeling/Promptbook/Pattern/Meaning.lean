import Promptbook.Pattern.Form

/-! What a pattern means under its flags.

Flags decide what classes, dots and places stand for. While the Unicode flag is off a
class ranges over octets and must not hold octets that are no text on their own, and
properties are refused. -/
namespace Promptbook.Pattern
open Character

/-- The flags that hold at a place of a pattern. -/
structure Mode where
  ignoreCase : Bool := false
  multiLine : Bool := false
  dotAll : Bool := false
  swapGreed : Bool := false
  unicode : Bool := true
  carriageReturn : Bool := false
  deriving DecidableEq

/-- The mode after flags were set. -/
def Mode.apply (mode : Mode) (flags : Flags) : Mode where
  ignoreCase := (flags.state? 'i').getD mode.ignoreCase
  multiLine := (flags.state? 'm').getD mode.multiLine
  dotAll := (flags.state? 's').getD mode.dotAll
  swapGreed := (flags.state? 'U').getD mode.swapGreed
  unicode := (flags.state? 'u').getD mode.unicode
  carriageReturn := (flags.state? 'R').getD mode.carriageReturn

/-! ### Classes -/

/-- The characters of a set and, while case is ignored, their mates. -/
def Mode.close (mode : Mode) (set : Ranges) : Ranges :=
  if mode.ignoreCase then if mode.unicode then set.closeCase else set.closeLowCase else set

/-- The set or, if it is negated, the characters outside of it. Octets that are left out of
a set of octets bring in those beyond ASCII. -/
def Mode.negate? (mode : Mode) (negated : Bool) (set : Ranges) : Option Ranges :=
  if !negated then some set else if mode.unicode then some set.compl else none

/-- The characters of a letter class. -/
def LetterClass.set (unicode : Bool) : LetterClass → Ranges
  | .digit => if unicode then Text.decimalDigits else [(0x30, 0x39)]
  | .blank => if unicode then having "whitespace" else [(0x09, 0x0D), (0x20, 0x20)]
  | .word =>
    if unicode then
      Ranges.ofList (Text.alphabetic ++ Text.otherMarks ++ Text.decimalDigits ++
        Text.connectors ++ Text.joiners)
    else [(0x30, 0x39), (0x41, 0x5A), (0x5F, 0x5F), (0x61, 0x7A)]

/-- The characters that a property stands for. -/
def Mode.propertySet? (mode : Mode) (property : Property) : Option Ranges :=
  if mode.unicode then
    match property.set? with
    | some set => mode.negate? property.negated (mode.close set)
    | none => none
  else none

/-- Two sets joined by an operator. -/
def SetOperator.apply : SetOperator → Ranges → Ranges → Ranges
  | .intersection => Ranges.inter
  | .difference => Ranges.diff
  | .symmetricDifference => Ranges.symmDiff

/-- Whether characters may stand in a class. -/
def Mode.admits (mode : Mode) (c : Char) : Bool := mode.unicode || c.toNat < 0x80

mutual

/-- The characters that a set written inside brackets stands for; nothing if it is refused. -/
def CharSet.ranges? (mode : Mode) : CharSet → Option Ranges
  | .empty => some []
  | .literal c => if mode.admits c then some [(c.toNat, c.toNat)] else none
  | .range low high =>
    if mode.admits low && mode.admits high then some [(low.toNat, high.toNat)] else none
  | .named set negated => mode.negate? negated (mode.close set)
  | .letterClass kind negated => mode.negate? negated (kind.set mode.unicode)
  | .property property => mode.propertySet? property
  | .bracketed negated set =>
    match set.ranges? mode with
    | some ranges => mode.negate? negated (mode.close ranges)
    | none => none
  | .union sets => (unionRanges? mode sets).map Ranges.ofList
  | .combine operator left right =>
    match left.ranges? mode, right.ranges? mode with
    | some a, some b => some (operator.apply (mode.close a) (mode.close b))
    | _, _ => none

/-- The ranges of all the sets, in no order. -/
def unionRanges? (mode : Mode) : List CharSet → Option (List (Nat × Nat))
  | [] => some []
  | set :: sets =>
    match set.ranges? mode, unionRanges? mode sets with
    | some a, some b => some (a ++ b)
    | _, _ => none

end

/-! ### Expressions -/

/-- Every character that a dot stands for. -/
def Mode.dot? (mode : Mode) : Option Ranges :=
  if !mode.unicode then none
  else if mode.dotAll then some Ranges.full
  else if mode.carriageReturn then some (Ranges.compl [(0x0A, 0x0A), (0x0D, 0x0D)])
  else some (Ranges.compl [(0x0A, 0x0A)])

/-- The place that is meant: without the multi-line flag lines are texts, and words differ
by whether they hold characters of all scripts. -/
def Mode.place (mode : Mode) : Place → Form
  | .lineStart =>
    if mode.multiLine then .place .lineStart mode.carriageReturn else .place .textStart false
  | .lineEnd =>
    if mode.multiLine then .place .lineEnd mode.carriageReturn else .place .textEnd false
  | .textStart => .place .textStart false
  | .textEnd => .place .textEnd false
  | place => .place place mode.unicode

/-- A set as a form. -/
def Mode.set (mode : Mode) (ranges : Ranges) : Form := .ofSet ranges !mode.unicode

/-- One character as a form. An octet beyond ASCII is no text on its own; a character beyond
ASCII has mates only with the Unicode flag. -/
def Mode.literal? (mode : Mode) (c : Char) (octet : Bool) : Option Form :=
  if c.toNat < 0x80 || mode.unicode then some (mode.set (mode.close [(c.toNat, c.toNat)]))
  else if octet then none
  else some (.text [c])

mutual

/-- The form of an expression under a mode, and the mode behind it; nothing if the
expression is refused. -/
def Expr.form? (mode : Mode) : Expr → Option (Form × Mode)
  | .empty => some (.empty, mode)
  | .literal c octet => (mode.literal? c octet).map (·, mode)
  | .dot => mode.dot?.map (mode.set ·, mode)
  | .place place => some (mode.place place, mode)
  | .letterClass kind negated =>
    (mode.negate? negated (kind.set mode.unicode)).map (mode.set ·, mode)
  | .property property => (mode.propertySet? property).map (mode.set ·, mode)
  | .bracketed negated set =>
    match set.ranges? mode with
    | some ranges => (mode.negate? negated (mode.close ranges)).map (mode.set ·, mode)
    | none => none
  | .flags flags => some (.empty, mode.apply flags)
  | .repetition expr least most lazy =>
    match expr.form? mode with
    | some (form, after) => some (.repeated form least most (lazy != after.swapGreed), after)
    | none => none
  | .group flags expr => (expr.form? (mode.apply flags)).map fun inner => (inner.1, mode)
  | .capture number expr => (expr.form? mode).map fun inner => (.capture number inner.1, mode)
  | .alternation exprs => (allForms? mode exprs).map fun (forms, after) => (.oneOf forms, after)
  | .concat exprs => (allForms? mode exprs).map fun (forms, after) => (.inOrder forms, after)

/-- The forms of expressions one behind the other. -/
def allForms? (mode : Mode) : List Expr → Option (List Form × Mode)
  | [] => some ([], mode)
  | expr :: exprs =>
    match expr.form? mode with
    | none => none
    | some (form, mode) =>
      (allForms? mode exprs).map fun (forms, after) => (form :: forms, after)

end

end Promptbook.Pattern
