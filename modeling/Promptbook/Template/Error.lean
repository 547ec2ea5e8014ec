/-! What can be wrong with a template text.

A fault is found at one line, counted from one. Reading stops at the first fault, and
the text then gives no prompt at all. -/
namespace Promptbook.Template

/-- A cause for which a template text is refused. -/
inductive Fault where
  /-- A header line that is not a key and a value. -/
  | malformedHeader (line : String)
  | missingName
  | missingClosingFence
  /-- A `paste` value that names no mode; the text says so. -/
  | invalidPaste (refusal : String)
  /-- An `extract` value that is no pattern; why it is none is not said. -/
  | invalidExtract (pattern : String)
  deriving DecidableEq

namespace Fault

def title : Fault → String
  | .malformedHeader _ => "malformed header option"
  | .missingName => "missing prompt name"
  | .missingClosingFence => "missing closing header line"
  | .invalidPaste _ => "invalid paste value"
  | .invalidExtract _ => "invalid extract pattern"

/-- The text at fault, or what is missing. -/
def detail : Fault → String
  | .malformedHeader line => line
  | .missingName => "record has no `name` header"
  | .missingClosingFence => "header block is not closed by `---` or `___`"
  | .invalidPaste refusal => refusal
  | .invalidExtract pattern => pattern

end Fault

/-- A fault and the line at which it was found. -/
structure ParseError where
  fault : Fault
  line : Nat
  deriving DecidableEq

def ParseError.message (error : ParseError) : String :=
  s!"{error.fault.title} at line {error.line}: {error.fault.detail}"

end Promptbook.Template
