import Promptbook.Files.View
import Promptbook.Substitution.Engine
import Promptbook.Template.Error

/-! What can go wrong with prompts and files. -/
namespace Promptbook

/-- A cause for which a prompt was not loaded, prepared or written. -/
inductive Trouble where
  /-- A file holds a faulty template text. -/
  | parse (path : Path) (error : Template.ParseError)
  | promptNotFound (name : String)
  /-- A substitution gave no text. -/
  | stopped (stop : Substitution.Stop)
  | file (error : FileError)
  | invalidPattern (pattern reason : String)
  deriving DecidableEq

namespace Trouble

def message : Trouble → String
  | .parse path error => s!"{path.text}: {error.message}"
  | .promptNotFound name => "prompt not found: " ++ name
  | .stopped stop => stop.message
  | .file error => error.message
  | .invalidPattern pattern reason => s!"invalid template pattern '{pattern}': {reason}"

/-- What a cause says of itself that its message already quotes. -/
def reasons : Trouble → List String
  | .parse _ error => [error.message]
  | .stopped (.source (.io reason)) => [reason]
  | _ => []

/-- The message with the reasons behind it, one after another. -/
def account (trouble : Trouble) : String := ": ".intercalate (trouble.message :: trouble.reasons)

/-- Whether the user called it off. -/
def isCancelled : Trouble → Bool
  | .stopped stop => stop.isCancelled
  | _ => false

end Trouble
end Promptbook
