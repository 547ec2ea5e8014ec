import Promptbook.Substitution.Placeholder

/-! Where values come from.

A source answers four kinds of calls and may change its own state in doing so, also when
it fails. No answer to a question means that the user called it off. A source can be
wrapped so that it keeps a record of the calls made, or so that chosen calls fail. -/
namespace Promptbook.Substitution

/-- A failure of a source. -/
inductive SourceError where
  /-- The answer could not be read. -/
  | io (reason : String)
  | other (text : String)
  deriving DecidableEq

def SourceError.message : SourceError → String
  | .io reason => "failed to read input: " ++ reason
  | .other text => text

/-- A call of a source that may fail, from a state to the state behind it. -/
abbrev Call (σ α : Type) := σ → Except SourceError α × σ

/-- The values that placeholders stand for. -/
structure Source (σ : Type) where
  /-- Asks for free text. -/
  input : String → Call σ (Option String)
  /-- Asks for one of these origins. -/
  choose : String → List Origin → Call σ (Option Origin)
  /-- The text of a register, empty if it has none. -/
  register : Char → Call σ String
  /-- The kind of file that the prompt is for. -/
  filetype : Call σ String

/-! ### A record of calls -/

/-- A call that was made, with what it was given. -/
inductive Request where
  | input (prompt : String)
  | choose (prompt : String) (origins : List Origin)
  | register (name : Char)
  | filetype
  deriving DecidableEq

/-- A source that adds every call to a record, the earliest first. -/
def Source.recorded (source : Source σ) : Source (σ × List Request) :=
  let noting {α : Type} (request : Request) (call : Call σ α) : Call (σ × List Request) α :=
    fun (s, requests) =>
      let (answer, s) := call s
      (answer, (s, requests ++ [request]))
  { input := fun prompt => noting (.input prompt) (source.input prompt)
    choose := fun prompt origins => noting (.choose prompt origins) (source.choose prompt origins)
    register := fun name => noting (.register name) (source.register name)
    filetype := noting .filetype source.filetype }

/-! ### Calls that fail -/

/-- The calls that are to fail, each with its failure. -/
structure Faults where
  input : Option SourceError := none
  choose : Option SourceError := none
  register : List (Char × SourceError) := []
  filetype : Option SourceError := none

/-- A source of which the calls named in the state fail before they reach it. -/
def Source.faulty (source : Source σ) : Source (Faults × σ) :=
  let guarded {α : Type} (fault : Faults → Option SourceError) (call : Call σ α) :
      Call (Faults × σ) α :=
    fun (faults, s) =>
      match fault faults with
      | some error => (.error error, (faults, s))
      | none =>
        let (answer, s) := call s
        (answer, (faults, s))
  { input := fun prompt => guarded Faults.input (source.input prompt)
    choose := fun prompt origins => guarded Faults.choose (source.choose prompt origins)
    register := fun name => guarded (·.register.lookup name) (source.register name)
    filetype := guarded Faults.filetype source.filetype }

/-! ### Registers -/

/-- Register contents by name; a later pair of a name wins. -/
abbrev Registers := List (Char × String)

/-- The text of a register, empty if it has none. -/
def Registers.get (registers : Registers) (name : Char) : String :=
  ((registers.reverse.lookup name)).getD ""

/-- How a register is called in messages. -/
def registerLabel (name : Char) : String :=
  if name = '+' then "Clipboard"
  else if name = '0' then "Yanked text"
  else "Register " ++ String.singleton name

end Promptbook.Substitution
