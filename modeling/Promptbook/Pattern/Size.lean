import Promptbook.Pattern.Machine
import Promptbook.Pattern.Opening

/-! How large a pattern is.

A form is turned into two machines, one that reads forwards and one that reads backwards
from the end of a match. A counted repetition is written out copy by copy. Neither machine
may be too large. -/
namespace Promptbook.Pattern
open Character

/-! ### Branches of texts -/

/-- Texts by their octets. The edges of a state are cut into groups wherever a text ends in
it: `done` holds the groups that are finished, `current` the last one. -/
inductive TextTree where
  | node (done : List (List (Nat × TextTree))) (current : List (Nat × TextTree))

namespace TextTree

def empty : TextTree := .node [] []

/-- Changes what lies behind an octet, or begins it. -/
def update (octet : Nat) (change : TextTree → TextTree) :
    List (Nat × TextTree) → List (Nat × TextTree)
  | [] => [(octet, change empty)]
  | (other, tree) :: rest =>
    if other = octet then (other, change tree) :: rest
    else (other, tree) :: update octet change rest

/-- Adds a text. A text that ends a second time before anything follows it changes nothing. -/
def add : List Nat → TextTree → TextTree
  | [], .node done current =>
    if !done.isEmpty && current.isEmpty && done.all List.isEmpty then .node done current
    else .node (done ++ [current]) []
  | octet :: rest, .node done current => .node done (update octet (add rest) current)

/-- The state that tells the edges of one group apart. -/
def groupState (group : List (Nat × TextTree)) : Machine :=
  match group.length with
  | 0 => {}
  | 1 => { states := 1 }
  | n => { states := 1, edges := Machine.readingSize * n }

/-- The state that leads to the groups of edges, and to the end between them. -/
def choiceState (done : List (List (Nat × TextTree))) (current : List (Nat × TextTree)) :
    Machine where
  states := 1
  edges := Machine.choiceSize *
    (((current :: done).filter fun group => !group.isEmpty).length + done.length)

mutual

/-- The states of a tree; where nothing follows there are none. -/
def machine : TextTree → Machine
  | .node done current =>
    if current.isEmpty && done.all List.isEmpty then {}
    else
      choiceState done current + machineOfGroups done + groupState current +
        machineOfEdges current

def machineOfGroups : List (List (Nat × TextTree)) → Machine
  | [] => {}
  | group :: groups => groupState group + machineOfEdges group + machineOfGroups groups

def machineOfEdges : List (Nat × TextTree) → Machine
  | [] => {}
  | (_, tree) :: rest => tree.machine + machineOfEdges rest

end

end TextTree

/-! ### Forms -/

/-- Repeats a step so many times, as long as it gives something. -/
def times? (n : Nat) (step : Machine → Option Machine) (machine : Machine) : Option Machine :=
  match n with
  | 0 => some machine
  | n + 1 =>
    match step machine with
    | some machine => times? n step machine
    | none => none

namespace Form

def text? : Form → Option (List Char)
  | .text chars => some chars
  | _ => none

/-- The states of branches that are texts. -/
def addTexts? (reverse : Bool) (texts : List (List Char)) (machine : Machine) :
    Option Machine :=
  let tree := texts.foldl (fun tree chars =>
    tree.add (if reverse then (octetsOfText chars).reverse else octetsOfText chars)) TextTree.empty
  machine.grow? (tree.machine.states + 1) tree.machine.edges

mutual

/-- Adds the states of a form to a machine; nothing if it becomes too large. -/
def addTo? (reverse : Bool) : Form → Machine → Option Machine
  | .empty, machine => machine.grow? 1 0
  | .text chars, machine => machine.grow? (octetsOfText chars).length 0
  | .set ranges _, machine => machine.addSet? reverse ranges
  | .place _ _, machine => machine.grow? 1 0
  | .repetition form least most _, machine =>
    let copy := form.addTo? reverse
    let choice (machine : Machine) := machine.grow? 1 (2 * Machine.choiceSize)
    match least, most with
    | 0, some 1 => ((choice machine).bind copy).bind (·.grow? 1 0)
    | 0, none =>
      if form.consumes then (choice machine).bind copy
      else ((copy machine).bind fun m => (choice m).bind choice).bind (·.grow? 1 0)
    | least, none => (times? least copy machine).bind choice
    | least, some most =>
      if least = most then times? least copy machine
      else
        ((if least = 0 then machine.grow? 1 0 else times? least copy machine).bind
          (·.grow? 1 0)).bind (times? (most - least) fun m => (choice m).bind copy)
  | .capture _ form, machine =>
    if reverse then form.addTo? reverse machine
    else ((machine.grow? 1 0).bind (form.addTo? reverse)).bind (·.grow? 1 0)
  | .concat forms, machine => addAll? reverse forms machine
  | .alternation forms, machine =>
    match forms.mapM text? with
    | some texts => addTexts? reverse texts machine
    | none => addBranches? reverse forms.length 0 forms machine

/-- Adds forms one behind the other, from the last one when the machine reads backwards. -/
def addAll? (reverse : Bool) : List Form → Machine → Option Machine
  | [], machine => some machine
  | form :: forms, machine =>
    if reverse then (addAll? reverse forms machine).bind (form.addTo? reverse)
    else (form.addTo? reverse machine).bind (addAll? reverse forms)

/-- Adds the branches behind the first `added` ones of `count`. The states where branches
part and meet are made behind the second one. -/
def addBranches? (reverse : Bool) (count added : Nat) : List Form → Machine → Option Machine
  | [], machine => some machine
  | form :: forms, machine =>
    ((form.addTo? reverse machine).bind fun machine =>
      if added = 1 then machine.grow? 2 (Machine.choiceSize * count) else some machine).bind
        (addBranches? reverse count (added + 1) forms)

end

/-! ### Whole patterns -/

/-- What stands before a form: a state or, if it can match anywhere, states that pass over
what comes before the match. -/
def lead? (anchored : Bool) : Option Machine :=
  if anchored then Machine.grow? {} 1 0
  else Machine.grow? {} 3 (2 * Machine.choiceSize + Machine.readingSize)

/-- The machine that reads a form forwards and keeps the text of its groups. -/
def forwards? (form : Form) : Option Machine :=
  (((lead? form.fromStart).bind (·.grow? 1 0)).bind (form.addTo? false)).bind (·.grow? 2 0)

/-- The machine that reads a form backwards. -/
def backwards? (form : Form) : Option Machine :=
  ((lead? form.toEnd).bind (form.addTo? true)).bind (·.grow? 1 0)

/-- So many texts side by side are looked for without a machine. -/
def textLimit : Nat := 3000

/-- Whether the form is nothing but many texts. -/
def isManyTexts : Form → Bool
  | .alternation forms => textLimit ≤ forms.length && forms.all fun form => form.text?.isSome
  | _ => false

/-- Whether no machine is needed or neither becomes too large. -/
def fits (form : Form) : Bool :=
  form.isTexts || form.isManyTexts || (form.forwards?.isSome && form.backwards?.isSome)

end Form
end Promptbook.Pattern
