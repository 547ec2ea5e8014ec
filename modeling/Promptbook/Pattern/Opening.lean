import Promptbook.Character.Octets
import Promptbook.Pattern.Form

/-! The texts that matches open with.

From a form follow texts one of which every match opens with, unless they would be too
many. Such an opening is whole when a match ends where it ends. A form whose openings are
all whole is nothing but a choice of texts, and these are looked for side by side without
a machine. Branches that never match have no openings, however large they are. -/
namespace Promptbook.Pattern
open Character

/-- A text that matches open with. -/
structure Opening where
  octets : List Nat
  /-- Whether such a match ends where the text ends. -/
  whole : Bool
  deriving DecidableEq

/-- The texts that matches open with, those preferred first; nothing if any text can open
a match. -/
abbrev Openings := Option (List Opening)

/-! ### Single openings -/

namespace Opening

/-- The opening of a match that ends at once. -/
def nothing : Opening := ⟨[], true⟩

/-- The opening as the beginning of something longer. -/
def begun (opening : Opening) : Opening := { opening with whole := false }

/-- At most so many octets of an opening. -/
def cut (length : Nat) (opening : Opening) : Opening :=
  if opening.octets.length ≤ length then opening else ⟨opening.octets.take length, false⟩

/-- An opening and what a match goes on with behind it. -/
def followedBy (first second : Opening) : Opening :=
  ⟨first.octets ++ second.octets, second.whole⟩

/-- Openings where neighbours with the same text are one, whole if all of them are. -/
def merge : List Opening → List Opening
  | [] => []
  | opening :: rest =>
    match merge rest with
    | [] => [opening]
    | next :: more =>
      if opening.octets = next.octets then
        ⟨opening.octets, opening.whole && next.whole⟩ :: more
      else opening :: next :: more

/-- Openings without those that an earlier one opens: where both match the earlier one is
preferred. -/
def withoutLonger (openings : List Opening) : List Opening :=
  openings.foldl (fun kept opening =>
    if kept.any fun earlier => earlier.octets.isPrefixOf opening.octets then kept
    else kept ++ [opening]) []

end Opening

/-! ### Openings of forms -/

namespace Openings

/-- The most openings that are kept. -/
def countLimit : Nat := 250

/-- The most octets of an opening. -/
def lengthLimit : Nat := 100

/-- The most characters of a set that are told apart. -/
def setLimit : Nat := 10

/-- The most copies of what is repeated that are looked at. -/
def copyLimit : Nat := 10

/-- Whether something behind these openings could still make them longer. -/
def areOpen : Openings → Bool
  | some openings => openings.any (·.whole)
  | none => false

def begun (openings : Openings) : Openings := openings.map fun list => list.map Opening.begun

/-- Openings that may be followed by any text. -/
def followedByAny (openings : List Opening) : Openings :=
  if openings.any (·.octets.isEmpty) then none else some (openings.map Opening.begun)

/-- The openings of one thing behind another. -/
def followedBy : Openings → Openings → Openings
  | none, _ => none
  | some firsts, none => followedByAny firsts
  | some firsts, some seconds =>
    if countLimit < firsts.length * seconds.length then followedByAny firsts
    else
      let joined := firsts.flatMap fun first =>
        if first.whole then seconds.map first.followedBy else [first]
      some ((Opening.merge joined).map (Opening.cut lengthLimit))

/-- The openings of two branches. If they are too many their first four octets are tried. -/
def either : Openings → Openings → Openings
  | some firsts, some seconds =>
    if firsts.length + seconds.length ≤ countLimit then some (Opening.merge (firsts ++ seconds))
    else
      let firsts := Opening.merge (firsts.map (Opening.cut 4))
      let seconds := Opening.merge (seconds.map (Opening.cut 4))
      if firsts.length + seconds.length ≤ countLimit then some (Opening.merge (firsts ++ seconds))
      else none
  | _, _ => none

/-- Openings with so many copies of something behind them, as long as that changes them. -/
def repeatedly (sub : Openings) : Nat → Openings → Openings
  | 0, openings => openings
  | n + 1, openings =>
    if openings.areOpen then repeatedly sub n (openings.followedBy sub) else openings

/-- The openings of the characters of a set. -/
def ofSet (ranges : Ranges) : Openings :=
  if ranges.size ≤ setLimit then
    some (ranges.flatMap fun range =>
      (List.range (range.2 + 1 - range.1)).map fun i => ⟨octetsOf (range.1 + i), true⟩)
  else none

end Openings

namespace Form

mutual

/-- The openings of the matches of a form. A place counts as nothing. -/
def openings : Form → Openings
  | .empty | .place _ _ => some [Opening.nothing]
  | .text chars => some [Opening.cut Openings.lengthLimit ⟨octetsOfText chars, true⟩]
  | .set ranges _ => Openings.ofSet ranges
  | .repetition form 0 most lazy =>
    let sub := if most = some 1 then form.openings else form.openings.begun
    if lazy then Openings.either (some [Opening.nothing]) sub
    else sub.either (some [Opening.nothing])
  | .repetition form least most _ =>
    let copies :=
      Openings.repeatedly form.openings (min least Openings.copyLimit) (some [Opening.nothing])
    if most = some least ∧ least ≤ Openings.copyLimit then copies else copies.begun
  | .capture _ form => form.openings
  | .concat forms => openingsInOrder (some [Opening.nothing]) forms
  | .alternation forms => openingsOfAny (some []) forms

/-- The openings of forms behind something with these openings. -/
def openingsInOrder (before : Openings) : List Form → Openings
  | [] => before
  | form :: forms =>
    if before.areOpen then openingsInOrder (before.followedBy form.openings) forms else before

/-- These openings and those of more branches. -/
def openingsOfAny (before : Openings) : List Form → Openings
  | [] => before
  | form :: forms =>
    if before.isSome then openingsOfAny (before.either form.openings) forms else before

end

end Form

/-! ### Searching for openings -/

namespace Openings

/-- What two texts have in common at their beginning. -/
def common : List Nat → List Nat → List Nat
  | a :: as, b :: bs => if a = b then a :: common as bs else []
  | _, _ => []

/-- What all openings have in common at their beginning. -/
def commonOfAll : List Opening → List Nat
  | [] => []
  | opening :: rest => rest.foldl (fun start other => common start other.octets) opening.octets

/-- The ASCII characters that are met often. -/
def frequentChars : List Char := "\n\r (),-./0129:_abcdefghilmnoprstuvxy|".toList

/-- Whether an octet is seldom met. -/
def isRare (octet : Nat) : Bool :=
  octet < 0x80 && !frequentChars.any fun c => c.toNat = octet

/-- Whether an octet alone is met nearly everywhere. -/
def isEverywhere (octet : Nat) : Bool :=
  [0x20, 0x65, 0x74].contains octet || 0xC0 ≤ octet

/-- Whether searching for an opening is of no use. -/
def isPoor (opening : Opening) : Bool :=
  match opening.octets with
  | [] => true
  | [octet] => isEverywhere octet
  | _ => false

/-- Openings cut shorter, step by step, as long as they are too many for the step: a step
gives the octets that are kept and how many openings are few enough. -/
def shorten : List (Nat × Nat) → List Opening → List Opening
  | [], openings => openings
  | (length, enough) :: steps, openings =>
    if openings.length ≤ enough then openings
    else shorten steps (Opening.withoutLonger (openings.map (Opening.cut length)))

def shortenSteps : List (Nat × Nat) := [(5, 10), (4, 10), (3, 64), (2, 64), (1, 10)]

/-- Whether openings are worse to search for than the whole ones they were made from. -/
def areWorse (openings : List Opening) : Bool :=
  openings.any isPoor || openings.any (·.octets.length ≤ 2) || 64 < openings.length

/-- Openings as they are searched for: what most of them share stands for all of them if
that is a good text to search for, and many are cut short. -/
def sought (openings : List Opening) : List Opening :=
  let kept := Opening.withoutLonger openings
  let start := commonOfAll kept
  if 1 < openings.length ∧ start.length ≤ 3 ∧ (start.head?.any isRare) then
    Opening.merge (kept.map (Opening.cut 1))
  else
    let few := kept.all (·.whole) && kept.length ≤ 16
    let kept :=
      if 4 < start.length ∨ (1 < start.length ∧ !few) then
        Opening.merge (kept.map (Opening.cut start.length))
      else kept
    let short := shorten shortenSteps kept
    if kept.all (·.whole) && areWorse short then kept else short

/-- Whether these openings are texts that can be searched for, and whole when they are. -/
def areTexts : Openings → Bool
  | none => false
  | some openings =>
    !openings.isEmpty && openings.all (fun opening => !opening.octets.isEmpty) &&
      (sought openings).all (·.whole)

end Openings

namespace Form

mutual

/-- Whether a form asks for no place and keeps the text of no group. -/
def isPlain : Form → Bool
  | .empty | .text _ | .set _ _ => true
  | .place _ _ | .capture _ _ => false
  | .repetition form _ _ _ => form.isPlain
  | .concat forms | .alternation forms => allPlain forms

def allPlain : List Form → Bool
  | [] => true
  | form :: forms => form.isPlain && allPlain forms

end

/-- Whether a form is nothing but a choice of texts. -/
def isTexts (form : Form) : Bool := form.isPlain && form.openings.areTexts

end Form

/-! ### Small facts -/

namespace Opening

@[simp] theorem merge_nil : merge [] = [] := rfl

end Opening
end Promptbook.Pattern
