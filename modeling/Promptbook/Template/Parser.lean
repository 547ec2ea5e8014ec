import Promptbook.Text.Lines
import Promptbook.Text.Escape
import Promptbook.Pattern.Reader
import Promptbook.Prompt.Basic
import Promptbook.Template.Error

/-! Reading prompts from a template text.

Fence lines cut the text into sections: what stands before the first fence is ignored,
and then headers and bodies take turns. A header gives a key and a value on each line;
the body under it runs to the next fence. Lines that are nothing but a comment count
in neither. The text is read line by line, and the state between two lines is all that
the rest of the text depends on. -/
namespace Promptbook.Template
open Text

/-! ### Lines -/

/-- The two spellings of a fence. -/
def isFence (line : List Char) : Bool :=
  line = ['-', '-', '-'] || line = ['_', '_', '_']

def commentStart : List Char := ['<', '!', '-', '-']

def commentEnd : List Char := ['-', '-', '>']

/-- Whether a trimmed line opens a comment at its start and closes one at its end. -/
def isComment (line : List Char) : Bool :=
  commentStart.isPrefixOf line && commentEnd.isSuffixOf line &&
    commentStart.length + commentEnd.length ≤ line.length

/-! ### Headers -/

/-- What a header has said so far. -/
structure Header where
  name : Option String := none
  model : Option String := none
  extract : Option String := none
  paste : Option PasteMode := none
  options : Options := .empty
  deriving DecidableEq

namespace Header

/-- The trimmed key and value of a trimmed line, if it has both. -/
def pair? (line : List Char) : Option (List Char × List Char) :=
  match line.span (· != ':') with
  | (key, _ :: value) =>
    if trim key = [] ∨ trim value = [] then none else some (trim key, trim value)
  | (_, []) => none

/-- The header with one more value; a later value of a key wins. -/
def set (header : Header) (key value : List Char) : Except Fault Header :=
  if key = "name".toList then .ok { header with name := some (String.ofList value) }
  else if key = "model".toList then .ok { header with model := some (String.ofList value) }
  else if key = "extract".toList then
    let pattern := unescape value
    if Pattern.accepts pattern then .ok { header with extract := some (String.ofList pattern) }
    else .error (.invalidExtract (String.ofList pattern))
  else if key = "paste".toList then
    match PasteMode.ofText? (String.ofList value) with
    | some mode => .ok { header with paste := some mode }
    | none => .error (.invalidPaste (PasteMode.refusal (String.ofList value)))
  else
    .ok { header with
      options := header.options.insert (String.ofList key) (String.ofList value) }

/-- The header after one more trimmed line. -/
def read (header : Header) (line : List Char) : Except Fault Header :=
  if line = [] ∨ isComment line then .ok header
  else
    match pair? line with
    | some (key, value) => header.set key value
    | none => .error (.malformedHeader (String.ofList line))

end Header

/-! ### Bodies -/

/-- The lines from the first to the last that is not blank. -/
def trimLines (body : List (List Char)) : List (List Char) :=
  ((body.dropWhile allBlank).reverse.dropWhile allBlank).reverse

/-- The text of a body, whose lines are given last first. -/
def bodyText (body : List (List Char)) : String :=
  String.ofList (joinLines (trimLines body.reverse))

/-! ### Records -/

/-- What a reader of templates insists on. -/
structure Rules where
  /-- A record without a `name` header is refused, and otherwise has an empty name. -/
  requireName : Bool := true
  deriving DecidableEq

/-- The prompt of a record, or that its name is missing. -/
def Header.toPrompt (header : Header) (rules : Rules) (body : List (List Char)) :
    Except Fault Prompt :=
  match header.name with
  | none =>
    if rules.requireName then .error .missingName
    else .ok ⟨"", bodyText body, header.model, header.extract, header.paste, header.options, none⟩
  | some name =>
    .ok ⟨name, bodyText body, header.model, header.extract, header.paste, header.options, none⟩

/-- Where in the text a reader stands. -/
inductive Place where
  | preamble
  /-- In the header that the fence on this line opened. -/
  | header (fence : Nat) (header : Header)
  /-- In the body of the record that the fence on this line opened; its lines last first. -/
  | body (fence : Nat) (header : Header) (lines : List (List Char))
  deriving DecidableEq

/-- How far a text has been read. -/
structure Reading where
  place : Place := .preamble
  /-- The finished prompts, last first. -/
  prompts : List Prompt := []
  deriving DecidableEq

/-- A fault at a line. -/
def atLine (line : Nat) : Except Fault α → Except ParseError α
  | .ok value => .ok value
  | .error fault => .error ⟨fault, line⟩

namespace Reading

/-- The reading after one more line, whose number is given. -/
def step (rules : Rules) (reading : Reading) (number : Nat) (line : List Char) :
    Except ParseError Reading :=
  match reading.place with
  | .preamble =>
    .ok (if isFence line then { reading with place := .header number {} } else reading)
  | .header fence header =>
    if isFence line then .ok { reading with place := .body fence header [] }
    else
      match atLine number (header.read (trim line)) with
      | .ok header => .ok { reading with place := .header fence header }
      | .error error => .error error
  | .body fence header body =>
    if isFence line then
      match atLine fence (header.toPrompt rules body) with
      | .ok prompt => .ok ⟨.header number {}, prompt :: reading.prompts⟩
      | .error error => .error error
    else if isComment (trim line) then .ok reading
    else .ok { reading with place := .body fence header (line :: body) }

/-- The prompts of a text that ends here. -/
def finish (rules : Rules) (reading : Reading) : Except ParseError (List Prompt) :=
  match reading.place with
  | .preamble => .ok reading.prompts.reverse
  | .header fence _ => .error ⟨.missingClosingFence, fence⟩
  | .body fence header body =>
    match atLine fence (header.toPrompt rules body) with
    | .ok prompt => .ok (prompt :: reading.prompts).reverse
    | .error error => .error error

/-- The reading after all these lines, the first of which has the number `number`. -/
def run (rules : Rules) (reading : Reading) (number : Nat) :
    List (List Char) → Except ParseError Reading
  | [] => .ok reading
  | line :: rest =>
    match reading.step rules number line with
    | .ok next => run rules next (number + 1) rest
    | .error error => .error error

end Reading

/-- The prompts of a text given by its lines. -/
def parseLines (rules : Rules) (ls : List (List Char)) : Except ParseError (List Prompt) :=
  match Reading.run rules {} 1 ls with
  | .ok reading => reading.finish rules
  | .error error => .error error

/-- The prompts of a text. -/
def parse (rules : Rules) (text : String) : Except ParseError (List Prompt) :=
  parseLines rules (lines text.toList)

/-! ### Small facts -/

theorem Reading.run_append (rules : Rules) (reading : Reading) (number : Nat)
    (a b : List (List Char)) :
    reading.run rules number (a ++ b) =
      match reading.run rules number a with
      | .ok next => next.run rules (number + a.length) b
      | .error error => .error error := by
  induction a generalizing reading number with
  | nil => simp [run]
  | cons line rest ih =>
    simp only [List.cons_append, run]
    cases reading.step rules number line with
    | error error => rfl
    | ok next =>
      have hnumber : number + 1 + rest.length = number + (line :: rest).length := by
        simp only [List.length_cons]
        omega
      simp only [ih, hnumber]

end Promptbook.Template
