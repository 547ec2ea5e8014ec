import Promptbook.Files.Path
import Promptbook.Prompt.Options

/-! Prompts.

A prompt is a name, a body with placeholders, and what its header says about the
model, the part of the answer that is wanted and where that part goes. A prompt that
came from a file remembers the file, and only such prompts are ever written out. -/
namespace Promptbook

/-! ### Where an answer goes -/

/-- Where an answer is placed, seen from the selected text. -/
inductive PasteMode where
  | after
  | before
  | replace
  deriving DecidableEq, Inhabited

namespace PasteMode

def text : PasteMode → String
  | .after => "after"
  | .before => "before"
  | .replace => "replace"

/-- The mode with this text. -/
def ofText? (text : String) : Option PasteMode :=
  if text = "after" then some .after
  else if text = "before" then some .before
  else if text = "replace" then some .replace
  else none

/-- What is said of a text that names no mode. -/
def refusal (text : String) : String := s!"'{text}' (expected one of: after, before, replace)"

theorem ofText?_text (mode : PasteMode) : ofText? mode.text = some mode := by
  cases mode <;> decide

end PasteMode

/-! ### Prompts -/

structure Prompt where
  name : String
  body : String
  model : Option String := none
  /-- The pattern of the wanted part of an answer. -/
  extract : Option String := none
  paste : Option PasteMode := none
  options : Options := .empty
  /-- The file that the prompt came from. -/
  sourceFile : Option Path := none
  deriving DecidableEq, Inhabited

namespace Prompt

/-- The name under which the prompt that ran last is found. -/
def dotName : String := "."

/-- The header keys that have a field of their own. -/
def reservedKeys : List String := ["name", "model", "extract", "paste"]

def isReservedKey (key : String) : Bool := reservedKeys.contains key

/-- The prompt with one more setting; a reserved key is left out. -/
def withOption (prompt : Prompt) (key value : String) : Prompt :=
  if isReservedKey key then prompt
  else { prompt with options := prompt.options.insert key value }

/-- Whether the prompt belongs to a file. -/
def isPersistable (prompt : Prompt) : Bool := prompt.sourceFile.isSome

def isDot (prompt : Prompt) : Bool := prompt.name = dotName

/-- The prompt as it is remembered after it ran. -/
def asDot (prompt : Prompt) : Prompt := { prompt with name := dotName, sourceFile := none }

/-! ### Small facts -/

theorem isReservedKey_iff {key : String} :
    isReservedKey key = true ↔ key = "name" ∨ key = "model" ∨ key = "extract" ∨ key = "paste" := by
  simp [isReservedKey, reservedKeys]

@[simp] theorem isDot_asDot (prompt : Prompt) : prompt.asDot.isDot = true := by
  simp [asDot, isDot]

@[simp] theorem isPersistable_asDot (prompt : Prompt) : prompt.asDot.isPersistable = false := rfl

end Prompt
end Promptbook
