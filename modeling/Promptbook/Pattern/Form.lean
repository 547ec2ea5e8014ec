import Promptbook.Pattern.Expr

/-! Patterns as simple as they are built.

A form has no flags and no groups but those whose text is kept; what lies next to each
other is joined as far as that is possible without looking at what it means: texts to one
text, choices between characters to one set, and a common beginning of branches is taken
out of them. -/
namespace Promptbook.Pattern
open Character

inductive Form where
  | empty
  | text (chars : List Char)
  /-- One of these characters; `octetwise` says that the set was written as one of octets. -/
  | set (ranges : Ranges) (octetwise : Bool)
  /-- A place in a text; `wide` says which of its two meanings is asked for. -/
  | place (place : Place) (wide : Bool)
  | repetition (form : Form) (least : Nat) (most : Option Nat) (lazy : Bool)
  | capture (number : Nat) (form : Form)
  | concat (forms : List Form)
  | alternation (forms : List Form)

namespace Form

/-! ### Comparing -/

mutual

/-- Whether two forms are the same. -/
def same : Form → Form → Bool
  | .empty, .empty => true
  | .text a, .text b => a == b
  | .set a octetwise, .set b octetwise' => a == b && octetwise == octetwise'
  | .place a wide, .place b wide' => a = b && wide == wide'
  | .repetition a least most lazy, .repetition b least' most' lazy' =>
    least == least' && most == most' && lazy == lazy' && same a b
  | .capture number a, .capture number' b => number == number' && same a b
  | .concat as, .concat bs => sameAll as bs
  | .alternation as, .alternation bs => sameAll as bs
  | _, _ => false

def sameAll : List Form → List Form → Bool
  | [], [] => true
  | a :: as, b :: bs => same a b && sameAll as bs
  | _, _ => false

end

/-! ### Lengths -/

mutual

/-- Whether the form matches no text but the empty one. -/
def isVoid : Form → Bool
  | .empty | .place _ _ => true
  | .text _ | .set _ _ => false
  | .repetition form _ _ _ => form.isVoid
  | .capture _ form => form.isVoid
  | .concat forms => allVoid forms
  | .alternation forms => allVoid forms

def allVoid : List Form → Bool
  | [] => true
  | form :: forms => form.isVoid && allVoid forms

end

/-- The smaller of two lengths that are both there. -/
def least? : Option Nat → Option Nat → Option Nat
  | some a, some b => some (min a b)
  | _, _ => none

mutual

/-- The least number of characters that the form matches; none if it holds a set without
characters where one is needed. -/
def leastLength? : Form → Option Nat
  | .empty | .place _ _ => some 0
  | .text chars => some chars.length
  | .set ranges _ => if ranges.isEmpty then none else some 1
  | .repetition form least _ _ => form.leastLength?.map (· * least)
  | .capture _ form => form.leastLength?
  | .concat forms => sumLength? forms
  | .alternation [] => none
  | .alternation (form :: forms) => shortest? form.leastLength? forms

def sumLength? : List Form → Option Nat
  | [] => some 0
  | form :: forms =>
    match form.leastLength?, sumLength? forms with
    | some a, some b => some (a + b)
    | _, _ => none

def shortest? (length : Option Nat) : List Form → Option Nat
  | [] => length
  | form :: forms => shortest? (least? length form.leastLength?) forms

end

/-- Whether every match of the form takes at least one character. -/
def consumes (form : Form) : Bool :=
  match form.leastLength? with
  | some length => 0 < length
  | none => false

/-! ### Anchors -/

mutual

/-- Whether the form can only match where a text starts. -/
def fromStart : Form → Bool
  | .empty | .text _ | .set _ _ => false
  | .place spot _ => spot = .textStart
  | .repetition form least _ _ => 0 < least && form.fromStart
  | .capture _ form => form.fromStart
  | .concat forms => someFromStart forms
  | .alternation forms => allFromStart forms

/-- Whether one of the forms up to the first that is not void asks for the start. -/
def someFromStart : List Form → Bool
  | [] => false
  | form :: forms => form.fromStart || (form.isVoid && someFromStart forms)

def allFromStart : List Form → Bool
  | [] => true
  | form :: forms => form.fromStart && allFromStart forms

end

mutual

/-- Whether the form can only match where a text ends. -/
def toEnd : Form → Bool
  | .empty | .text _ | .set _ _ => false
  | .place spot _ => spot = .textEnd
  | .repetition form least _ _ => 0 < least && form.toEnd
  | .capture _ form => form.toEnd
  | .concat forms => someToEnd forms
  | .alternation forms => allToEnd forms

/-- Whether one of the forms from the last that is not void on asks for the end. -/
def someToEnd : List Form → Bool
  | [] => false
  | form :: forms => someToEnd forms || (allVoid forms && form.toEnd)

def allToEnd : List Form → Bool
  | [] => true
  | form :: forms => form.toEnd && allToEnd forms

end

/-! ### Building -/

/-- A set as a form; a set of one character is a text. -/
def ofSet (ranges : Ranges) (octetwise : Bool) : Form :=
  match ranges with
  | [] => .set [] true
  | [(low, high)] => if low = high then .text [Char.ofNat low] else .set ranges octetwise
  | _ => .set ranges octetwise

/-- A repetition; what is void is repeated at most once. -/
def repeated (form : Form) (least : Nat) (most : Option Nat) (lazy : Bool) : Form :=
  let least := if form.isVoid then min least 1 else least
  let most := if form.isVoid then some (min (most.getD 1) 1) else most
  if least = 0 ∧ most = some 0 then .empty
  else if least = 1 ∧ most = some 1 then form
  else .repetition form least most lazy

/-- The parts of a form that is put beside others. -/
def parts : Form → List Form
  | .empty => []
  | .concat forms => forms
  | form => [form]

/-- Forms with neighbouring texts joined. -/
def joinTexts : List Form → List Form
  | [] => []
  | .text a :: rest =>
    match joinTexts rest with
    | .text b :: more => .text (a ++ b) :: more
    | more => .text a :: more
  | form :: rest => form :: joinTexts rest

/-- Forms one behind the other as a form. -/
def inOrder (forms : List Form) : Form :=
  match joinTexts (forms.flatMap parts) with
  | [] => .empty
  | [form] => form
  | forms => .concat forms

/-- The branches of a form that is put beside others as a branch. -/
def branches : Form → List Form
  | .alternation forms => forms
  | form => [form]

/-- The character of a text of one. -/
def single? : Form → Option Char
  | .text [c] => some c
  | _ => none

def set? : Form → Option Ranges
  | .set ranges _ => some ranges
  | _ => none

/-- Branches that are one form or one set: a single branch, characters, or sets. -/
def merged? (forms : List Form) : Option Form :=
  match forms with
  | [] => some (.ofSet [] true)
  | [form] => some form
  | forms =>
    match forms.mapM single? with
    | some chars => some (ofSet (Ranges.ofChars chars) false)
    | none => (forms.mapM set?).map fun sets => ofSet (Ranges.ofList sets.flatten) false

/-- How many forms two rows have in common at their beginning. -/
def commonLength : List Form → List Form → Nat
  | a :: as, b :: bs => if same a b then commonLength as bs + 1 else 0
  | _, _ => 0

/-- The parts of a form that has several. -/
def rows? : Form → Option (List Form)
  | .concat forms => some forms
  | _ => none

/-- The common beginning of branches and what is left of each; nothing if there is none. -/
def common? (forms : List Form) : Option (List Form × List Form) :=
  match forms.mapM rows? with
  | some (first :: others) =>
    let length := others.foldl (fun n row => min n (commonLength first row)) first.length
    if length = 0 then none
    else some (first.take length, (first :: others).map fun row => inOrder (row.drop length))
  | _ => none

/-- Branches that have nothing in common as a form. -/
def choice (forms : List Form) : Form :=
  let all := forms.flatMap branches
  (merged? all).getD (.alternation all)

/-- Branches as a form. -/
def oneOf (forms : List Form) : Form :=
  let all := forms.flatMap branches
  match merged? all with
  | some form => form
  | none =>
    match common? all with
    | some (front, rests) => inOrder (front ++ [choice rests])
    | none => .alternation all

/-! ### Small facts -/

@[simp] theorem inOrder_nil : inOrder [] = .empty := rfl

@[simp] theorem oneOf_nil : oneOf [] = .set [] true := rfl

end Form
end Promptbook.Pattern
