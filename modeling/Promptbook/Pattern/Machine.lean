import Promptbook.Character.Octets

/-! The machine that a pattern becomes, as far as its size goes.

The machine consists of states, which are numbered in the order in which they are made,
and of the edges that some states hold. The states of a set of characters read the octets
of a character one by one. Such states are remembered while the set is built, so that rows
of octets with a common end, or with a common beginning when the machine reads backwards,
share them; but the memory has a fixed number of slots, and a state whose slot has been
taken is made again. -/
namespace Promptbook.Pattern
open Character

/-- The states made so far, and the octets of the edges they hold. -/
structure Machine where
  states : Nat := 0
  edges : Nat := 0
  deriving DecidableEq

namespace Machine

/-- The octets of one state without its edges. -/
def stateSize : Nat := 32

/-- The octets of an edge that reads an octet. -/
def readingSize : Nat := 8

/-- The octets of an edge of a choice. -/
def choiceSize : Nat := 4

/-- The states and edges of two machines together. -/
instance : Add Machine := ⟨fun a b => ⟨a.states + b.states, a.edges + b.edges⟩⟩

def size (machine : Machine) : Nat := stateSize * machine.states + machine.edges

/-- The largest size that is accepted. -/
def sizeLimit : Nat := 10485760

/-- More states, and more octets of edges; nothing if the machine becomes too large. -/
def grow? (machine : Machine) (states edges : Nat) : Option Machine :=
  if Machine.size ⟨machine.states + states, machine.edges + edges⟩ ≤ sizeLimit then
    some ⟨machine.states + states, machine.edges + edges⟩
  else none

end Machine

/-! ### Remembered states -/

/-- States by what they do, in a fixed number of slots. -/
structure Memory where
  slots : Array (Option (List Nat × Nat))

namespace Memory

/-- A memory with this many slots, all free. -/
def ofSize (n : Nat) : Memory := ⟨Array.replicate n none⟩

/-- A digest of numbers: each is mixed in and the whole multiplied by a prime. -/
def digest (numbers : List Nat) : UInt64 :=
  numbers.foldl (fun h n => (h ^^^ n.toUInt64) * 1099511628211) 14695981039346656037

/-- The slot of a state that does this. -/
def slotOf (memory : Memory) (key : List Nat) : Nat :=
  (digest key % memory.slots.size.toUInt64).toNat

/-- The state that does this, if its slot still holds it. -/
def find? (memory : Memory) (key : List Nat) : Option Nat :=
  match memory.slots[memory.slotOf key]? with
  | some (some (other, state)) => if other = key then some state else none
  | _ => none

/-- Remembers a state in place of the one in its slot. -/
def put (memory : Memory) (key : List Nat) (state : Nat) : Memory :=
  ⟨memory.slots.setIfInBounds (memory.slotOf key) (some (key, state))⟩

end Memory

/-! ### Building a set -/

/-- A machine while a set is built. -/
structure Workshop where
  machine : Machine
  memory : Memory

namespace Workshop

/-- The state that does this, made unless it is remembered. -/
def state (shop : Workshop) (key : List Nat) (edges : Nat) : Nat × Workshop :=
  let ⟨machine, memory⟩ := shop
  match memory.find? key with
  | some state => (state, ⟨machine, memory⟩)
  | none =>
    (machine.states,
      ⟨⟨machine.states + 1, machine.edges + edges⟩, memory.put key machine.states⟩)

/-! ### Forwards -/

/-- A state whose last edge may still get a longer way behind it: the edges before, each as
a range of octets and the state it leads to, and the range of the last one. -/
structure OpenState where
  edges : List Nat := []
  last : OctetRange

/-- Makes the states of an open way, from its end. -/
def close (target : Nat) : List OpenState → Workshop → Nat × Workshop
  | [], shop => (target, shop)
  | first :: way, shop =>
    let (next, shop) := close target way shop
    let key := first.edges ++ [first.last.1, first.last.2, next]
    shop.state key (Machine.readingSize * (key.length / 3))

/-- Adds a row of octet ranges to the open way. What the row leaves is closed. -/
def extend (target : Nat) : List OpenState → List OctetRange → Workshop →
    List OpenState × Workshop
  | way, [], shop => (way, shop)
  | [], row, shop => (row.map fun range => { last := range }, shop)
  | first :: way, range :: row, shop =>
    if first.last = range then
      let (way, shop) := extend target way row shop
      (first :: way, shop)
    else
      let (next, shop) := close target way shop
      (⟨first.edges ++ [first.last.1, first.last.2, next], range⟩ ::
        row.map fun range => { last := range }, shop)

/-- The slots of the memory for machines that read forwards. -/
def forwardSlots : Nat := 10000

/-- The machine with the states that read one of these rows. -/
def forwards (machine : Machine) (rows : List (List OctetRange)) : Machine :=
  let target := machine.states
  let shop : Workshop := ⟨⟨machine.states + 1, machine.edges⟩, Memory.ofSize forwardSlots⟩
  let (way, shop) := rows.foldl (fun (way, shop) row => extend target way row shop) ([], shop)
  (close target way shop).2.machine

/-! ### Backwards -/

/-- The state that begins to read a row from its end, when what is left to read before the
row is read by this state. -/
def backwardsFrom : Nat → List OctetRange → Workshop → Nat × Workshop
  | next, [], shop => (next, shop)
  | next, range :: row, shop =>
    let (state, shop) := shop.state [next, range.1, range.2] 0
    backwardsFrom state row shop

/-- The slots of the memory for machines that read backwards. -/
def backwardSlots : Nat := 1000

/-- The machine with the states that read one of these rows from its end. -/
def backwards (machine : Machine) (rows : List (List OctetRange)) : Machine :=
  let target := machine.states + 1
  let edges := machine.edges + Machine.choiceSize * rows.length
  let shop : Workshop := ⟨⟨machine.states + 2, edges⟩, Memory.ofSize backwardSlots⟩
  (rows.foldl (fun shop row => (backwardsFrom target row shop).2) shop).machine

end Workshop

namespace Machine

/-- The machine with the states that read one character of a set. ASCII characters are
told apart within one state. -/
def addSet? (machine : Machine) (reverse : Bool) (set : Ranges) : Option Machine :=
  if set.isLow then machine.grow? 2 (readingSize * set.length)
  else
    let built :=
      if reverse then Workshop.backwards machine (octetRows set)
      else Workshop.forwards machine (octetRows set)
    built.grow? 0 0

end Machine
end Promptbook.Pattern
