import Promptbook.Pattern.Property

/-! Patterns as trees.

A tree keeps what a pattern writes; flags are not worked into it. The nesting of a tree is
limited. -/
namespace Promptbook.Pattern
open Character

/-! ### Flags -/

/-- The flags of a group, each with whether it is switched on. -/
abbrev Flags := List (Char × Bool)

/-- What the flags say about one of them. -/
def Flags.state? (flags : Flags) (flag : Char) : Option Bool := flags.lookup flag

/-! ### Character classes -/

/-- What a letter behind a backslash stands for. -/
inductive LetterClass where
  | digit
  | blank
  | word
  deriving DecidableEq

inductive SetOperator where
  | intersection
  | difference
  | symmetricDifference
  deriving DecidableEq

/-- A set of characters as written inside brackets. -/
inductive CharSet where
  | empty
  | literal (c : Char)
  | range (low high : Char)
  /-- A class with a name between colons. -/
  | named (set : Ranges) (negated : Bool)
  /-- One of the letter classes for digits, blanks and word characters. -/
  | letterClass (kind : LetterClass) (negated : Bool)
  | property (property : Property)
  | bracketed (negated : Bool) (set : CharSet)
  | union (sets : List CharSet)
  | combine (operator : SetOperator) (left right : CharSet)

namespace CharSet

/-- A union of sets as a set, without a union around one or none. -/
def ofUnion : List CharSet → CharSet
  | [] => .empty
  | [set] => set
  | sets => .union sets

mutual

/-- How deep a set nests. -/
def depth : CharSet → Nat
  | .bracketed _ set => set.depth + 1
  | .union sets => depthMax sets + 1
  | .combine _ left right => max left.depth right.depth + 1
  | _ => 0

def depthMax : List CharSet → Nat
  | [] => 0
  | set :: sets => max set.depth (depthMax sets)

end

end CharSet

/-! ### Expressions -/

/-- A place in a text that an expression may ask for. -/
inductive Place where
  | lineStart
  | lineEnd
  | textStart
  | textEnd
  | wordEdge
  | noWordEdge
  | wordStart
  | wordEnd
  /-- No word character is before the place. -/
  | wordStartHalf
  /-- No word character is behind the place. -/
  | wordEndHalf
  deriving DecidableEq

inductive Expr where
  | empty
  /-- One character; `octet` says that exactly two hexadecimal digits gave it. -/
  | literal (c : Char) (octet : Bool)
  /-- Any character but a line feed. -/
  | dot
  | place (place : Place)
  | letterClass (kind : LetterClass) (negated : Bool)
  | property (property : Property)
  | bracketed (negated : Bool) (set : CharSet)
  /-- Flags that hold from here to the end of the group. -/
  | flags (flags : Flags)
  /-- Between `least` and `most` times, or any number from `least` up; as often as
  possible, or as seldom when it is `lazy`. -/
  | repetition (expr : Expr) (least : Nat) (most : Option Nat) (lazy : Bool)
  | group (flags : Flags) (expr : Expr)
  /-- A group whose text is kept, under its number. -/
  | capture (number : Nat) (expr : Expr)
  | alternation (exprs : List Expr)
  | concat (exprs : List Expr)

namespace Expr

/-- A sequence of expressions as one, without a sequence around one or none. -/
def ofConcat : List Expr → Expr
  | [] => .empty
  | [expr] => expr
  | exprs => .concat exprs

mutual

/-- How deep an expression nests. -/
def depth : Expr → Nat
  | .bracketed _ set => set.depth + 1
  | .repetition expr _ _ _ => expr.depth + 1
  | .group _ expr => expr.depth + 1
  | .capture _ expr => expr.depth + 1
  | .alternation exprs => depthMax exprs + 1
  | .concat exprs => depthMax exprs + 1
  | _ => 0

def depthMax : List Expr → Nat
  | [] => 0
  | expr :: exprs => max expr.depth (depthMax exprs)

end

/-- The deepest nesting that is accepted. -/
def depthLimit : Nat := 250

end Expr
end Promptbook.Pattern
