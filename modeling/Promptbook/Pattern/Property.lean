import Promptbook.Character.Age
import Promptbook.Character.Segment

/-! Character properties that a pattern may name.

A property is named loosely: case, spaces, hyphens and low lines do not count, nor does
a leading `is`, and what is not ASCII is dropped. A name alone is a two-valued
property, a general category or a script; with a value it is one of seven properties
that have values. -/
namespace Promptbook.Pattern
open Character

/-- A property as a pattern names it. -/
structure Property where
  /-- Whether the characters without the property are meant. -/
  negated : Bool
  name : List Char
  /-- The text behind `=`, `:` or `!=`. -/
  value : Option (List Char)
  deriving DecidableEq

/-! ### Loose names -/

/-- The characters of a name that count, in lower case. -/
def looseChars (name : List Char) : List Char :=
  (name.filter fun c => c.toNat < 0x80 && c != ' ' && c != '_' && c != '-').map Char.toLower

/-- A name as it is looked up. -/
def looseName (name : List Char) : String :=
  match name with
  | first :: second :: rest =>
    if first.toLower = 'i' ∧ second.toLower = 's' then
      let short := String.ofList (looseChars rest)
      if short = "c" then "isc" else short
    else String.ofList (looseChars name)
  | _ => String.ofList (looseChars name)

/-! ### Sets -/

/-- The characters that a name without a value stands for. -/
def namedSet? (name : String) : Option Ranges :=
  match binary? name with
  | some set => some set
  | none =>
    match category? name with
    | some set => some set
    | none => (script? name).map ofScript

/-- The characters for which a property has this value. -/
def valuedSet? (name value : String) : Option Ranges :=
  if ["gc", "generalcategory"].contains name then category? value
  else if ["sc", "script"].contains name then (script? value).map ofScript
  else if ["scx", "scriptextensions"].contains name then (script? value).map usedWithScript
  else if name = "age" then assignedIn? value
  else if ["gcb", "graphemeclusterbreak"].contains name then graphemeBreak? value
  else if ["wb", "wordbreak"].contains name then wordBreak? value
  else if ["sb", "sentencebreak"].contains name then sentenceBreak? value
  else none

/-- The characters that have the property; nothing if the property is not known. -/
def Property.set? (property : Property) : Option Ranges :=
  match property.value with
  | none => namedSet? (looseName property.name)
  | some value => valuedSet? (looseName property.name) (looseName value)

end Promptbook.Pattern
