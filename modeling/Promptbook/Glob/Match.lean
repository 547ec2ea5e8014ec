import Promptbook.Distinct
import Promptbook.Glob.Token
import Promptbook.Text.Utf8

/-! Which names a glob matches.

A name is matched octet by octet. What a token can leave of a name is a list of the
name's ends, and a glob matches when its tokens can leave nothing. A character beyond
ASCII is several octets, so `?` takes one of them, and a class takes one octet out of
those that write its characters. -/
namespace Promptbook.Glob

/-- The octets that write a character. -/
def octetsOf (c : Char) : List UInt8 := Text.encodeUtf8 (String.singleton c)

/-- Whether an octet is in the range of a class: of octets that write more than one
character, the last of the low end and the first of the high end are the bounds, and
the others count one by one. -/
def inRange (octet : UInt8) (range : Char × Char) : Bool :=
  let low := octetsOf range.1
  let high := octetsOf range.2
  if range.1 = range.2 then low.contains octet
  else
    low.contains octet || high.contains octet ||
      (low.getLastD 0 ≤ octet && octet ≤ high.headD 0)

/-- The ends of a name behind any number of its octets, the longest first. -/
def ends : List UInt8 → List (List UInt8)
  | [] => [[]]
  | octet :: rest => (octet :: rest) :: ends rest

/-- The octet of a separator. -/
def separator : UInt8 := 0x2F

/-- What is left behind every separator of a name. -/
def behindSeparators (name : List UInt8) : List (List UInt8) :=
  (ends name).filterMap fun
    | octet :: rest => if octet = separator then some rest else none
    | [] => none

/-- What is left behind these octets, if the name starts with them. -/
def behind (octets name : List UInt8) : List (List UInt8) :=
  if octets.isPrefixOf name then [name.drop octets.length] else []

mutual

/-- Whether a token is written as nothing, which only empty alternatives are. -/
def Token.isVoid : Token → Bool
  | .alternatives branches => allVoid branches
  | _ => false

def voidRow : List Token → Bool
  | [] => true
  | token :: rest => token.isVoid && voidRow rest

def allVoid : List (List Token) → Bool
  | [] => true
  | branch :: rest => voidRow branch && allVoid rest

end

mutual

/-- What a token can leave of a name. -/
def Token.leaves : Token → List UInt8 → List (List UInt8)
  | .literal c, name => behind (octetsOf c) name
  | .any, name => name.tail?.toList
  | .anyRow, name => ends name
  | .leadingDirs, name => name :: behindSeparators name
  | .trailingDirs, name => (behind [separator] name).flatMap ends
  | .innerDirs, name =>
    (behind [separator] name).flatMap fun rest => rest :: behindSeparators rest
  | .charClass negated ranges, name =>
    match name with
    | [] => []
    | octet :: rest => if ranges.any (inRange octet) != negated then [rest] else []
  | .alternatives branches, name =>
    if allVoid branches then [name] else leavesAny branches name

/-- What a row of tokens can leave of any of these names. -/
def leavesRow : List Token → List (List UInt8) → List (List UInt8)
  | [], names => names
  | token :: rest, names => leavesRow rest (distinct (names.flatMap fun name => token.leaves name))

/-- What any of the branches that are not void can leave of a name. -/
def leavesAny : List (List Token) → List UInt8 → List (List UInt8)
  | [], _ => []
  | branch :: rest, name =>
    (if voidRow branch then [] else leavesRow branch [name]) ++ leavesAny rest name

end

/-- Whether tokens match a name; `**` alone matches every name. -/
def matchesTokens (tokens : List Token) (name : String) : Bool :=
  match tokens with
  | [.leadingDirs] => true
  | _ => (leavesRow tokens [Text.encodeUtf8 name]).contains []

end Promptbook.Glob
