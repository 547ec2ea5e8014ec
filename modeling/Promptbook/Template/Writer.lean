import Promptbook.Text.Escape
import Promptbook.Prompt.Basic

/-! Writing prompts as a template text.

A record is a fence, the header lines that the prompt has something for, a fence, and
the body with a line feed behind it. Extract patterns are escaped, since a header value
stays on its line; everything else is written as it is. -/
namespace Promptbook.Template
open Text

/-- A header line with its line feed. -/
def headerLine (key value : String) : List Char :=
  key.toList ++ ':' :: ' ' :: value.toList ++ ['\n']

def fenceLine : List Char := ['-', '-', '-', '\n']

/-- The header lines of a prompt, in the order in which they are written. -/
def headerPairs (prompt : Prompt) : List (String × String) :=
  (if prompt.name = "" then [] else [("name", prompt.name)]) ++
    (prompt.model.toList.map ("model", ·)) ++
    (prompt.extract.toList.map fun pattern => ("extract", String.ofList (escape pattern.toList))) ++
    (prompt.paste.toList.map fun mode => ("paste", mode.text)) ++
    prompt.options.toList

/-- A prompt as a record. -/
def record (prompt : Prompt) : List Char :=
  fenceLine ++ (headerPairs prompt).flatMap (fun p => headerLine p.1 p.2) ++ fenceLine ++
    (if prompt.body = "" then [] else prompt.body.toList ++ ['\n'])

/-- A prompt as a text. -/
def write (prompt : Prompt) : String := String.ofList (record prompt)

/-- Prompts as one text. -/
def writeAll (prompts : List Prompt) : String := String.ofList (prompts.flatMap record)

/-! ### Small facts -/

theorem toList_writeAll_cons (prompt : Prompt) (prompts : List Prompt) :
    (writeAll (prompt :: prompts)).toList = record prompt ++ (writeAll prompts).toList := by
  simp [writeAll]

end Promptbook.Template
