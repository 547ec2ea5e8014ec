import Promptbook.Substitution.Search
import Promptbook.Text.WordChar

/-! Placeholders in a body.

`$select`, `$input`, `$clipboard`, `$yanked` and `$filetype` need the end of a word
behind them, `$register_` needs one register name, and `${input:L}` takes as its
label everything up to the first closing brace, line breaks included. Each of them has
a finder of its own; `scan` looks for all of them at once. -/
namespace Promptbook.Substitution
open Text

/-! ### Finders -/

def labelStart : List Char := ['$', '\x7b', 'i', 'n', 'p', 'u', 't', ':']

def registerStart : List Char := ['$', 'r', 'e', 'g', 'i', 's', 't', 'e', 'r', '_']

/-- The characters that name a register. -/
def isRegisterName (c : Char) : Bool :=
  c.isAlphanum || c = '*' || c = '+' || c = ':' || c = '"'

/-- What stands behind a word at the start of a text, if the text starts with it. -/
def behind? (word text : List Char) : Option (List Char) :=
  if word.isPrefixOf text then some (text.drop word.length) else none

/-- Finds a word with the end of a word behind it. -/
def word? (word : List Char) : Finder Unit := fun text =>
  match behind? word text with
  | some rest => if endsWord rest then some ((), word.length) else none
  | none => none

/-- Finds a labelled placeholder, and gives its label. -/
def label? : Finder (List Char) := fun text =>
  match behind? labelStart text with
  | none => none
  | some rest =>
    if rest.contains '\x7d' then
      let label := rest.takeWhile (· != '\x7d')
      some (label, labelStart.length + label.length + 1)
    else none

/-- Finds a register placeholder, and gives the name of the register. -/
def register? : Finder Char := fun text =>
  match behind? registerStart text with
  | some (c :: _) => if isRegisterName c then some (c, registerStart.length + 1) else none
  | _ => none

/-! ### Placeholders -/

/-- What a placeholder stands for. -/
inductive Placeholder where
  | labelled (label : List Char)
  | select
  | input
  | clipboard
  | yanked
  | register (name : Char)
  | filetype
  deriving DecidableEq

namespace Placeholder

/-- A placeholder as it is written. -/
def spelled : Placeholder → List Char
  | .labelled label => labelStart ++ label ++ ['\x7d']
  | .select => ['$', 's', 'e', 'l', 'e', 'c', 't']
  | .input => ['$', 'i', 'n', 'p', 'u', 't']
  | .clipboard => ['$', 'c', 'l', 'i', 'p', 'b', 'o', 'a', 'r', 'd']
  | .yanked => ['$', 'y', 'a', 'n', 'k', 'e', 'd']
  | .register name => registerStart ++ [name]
  | .filetype => ['$', 'f', 'i', 'l', 'e', 't', 'y', 'p', 'e']

/-- The placeholders that are one fixed word. -/
def words : List Placeholder := [.select, .input, .clipboard, .yanked, .filetype]

end Placeholder

/-- Finds any placeholder. -/
def placeholder? : Finder Placeholder := fun text =>
  (label? text).map (fun p => (.labelled p.1, p.2)) <|>
    (register? text).map (fun p => (.register p.1, p.2)) <|>
    Placeholder.words.findSome? fun word => (word? word.spelled text).map fun p => (word, p.2)

/-- The parts of a body: its placeholders, and the characters that stand for themselves. -/
def scan (body : List Char) : List (Part Placeholder) := cut placeholder? body

/-! ### Sources for a selection -/

/-- Where the text for `$select` comes from. -/
inductive Origin where
  | clipboard
  | input
  | yanked
  deriving DecidableEq

namespace Origin

/-- The origins in the order in which they are offered. -/
def all : List Origin := [.clipboard, .input, .yanked]

def label : Origin → String
  | .clipboard => "clipboard"
  | .input => "input"
  | .yanked => "yanked"

def ofLabel? (label : String) : Option Origin := all.find? (·.label = label)

/-- The placeholder that stands in for `$select` once this origin is chosen. -/
def placeholder : Origin → Placeholder
  | .clipboard => .clipboard
  | .input => .input
  | .yanked => .yanked

end Origin

/-- Finds a `$select`. -/
def select? : Finder Unit := word? Placeholder.select.spelled

/-- The text with every `$select` written as the placeholder of the chosen origin. -/
def chosenText (origin : Origin) (text : List Char) : List Char :=
  replace select? (fun _ => origin.placeholder.spelled) text

end Promptbook.Substitution
