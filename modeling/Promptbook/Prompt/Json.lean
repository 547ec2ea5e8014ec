import Promptbook.Json
import Promptbook.Prompt.Basic

/-! Prompts as JSON.

A prompt is an object with one member for each field that it has something for, or, when
it is read, an array of the fields in their order. Reading checks the shape and nothing
else: a pattern may be one that is not accepted, and settings may have reserved keys. -/
namespace Promptbook

/-! ### Writing -/

def Options.toJson (options : Options) : Json :=
  .object (options.toList.map fun (key, value) => (key, .string value))

/-- A member for a field that may be absent. -/
def optionalMember (key : String) : Option String → List (String × Json)
  | some text => [(key, .string text)]
  | none => []

def Prompt.toJson (prompt : Prompt) : Json :=
  .object <|
    [("name", .string prompt.name), ("prompt", .string prompt.body)] ++
      optionalMember "model" prompt.model ++
      optionalMember "extract" prompt.extract ++
      optionalMember "paste" (prompt.paste.map PasteMode.text) ++
      (if prompt.options.isEmpty then [] else [("model_options", prompt.options.toJson)]) ++
      optionalMember "source_file" (prompt.sourceFile.map Path.text)

/-! ### Reading -/

def readString? : Json → Option String
  | .string text => some text
  | _ => none

/-- An optional field: nothing and null are both none. -/
def readOptional? (read : Json → Option α) : Option Json → Option (Option α)
  | none => some none
  | some .null => some none
  | some json => (read json).map some

/-- A mode by its name, or as an object with that one member, which is null. -/
def readPasteMode? : Json → Option PasteMode
  | .string text => PasteMode.ofText? text
  | .object [(text, .null)] => PasteMode.ofText? text
  | _ => none

def readPairs? : List (String × Json) → Option Options
  | [] => some .empty
  | (key, value) :: rest =>
    match readPairs? rest, value with
    | some options, .string text => some (options.insert key text)
    | _, _ => none

/-- The settings, which may be left out but not null. -/
def readOptions? : Option Json → Option Options
  | none => some .empty
  | some (.object members) => readPairs? members
  | some _ => none

/-- A prompt from its fields, each of which may be missing. -/
def Prompt.ofFields? (name body model extract paste options sourceFile : Option Json) :
    Option Prompt := do
  let name ← name.bind readString?
  let body ← body.bind readString?
  let model ← readOptional? readString? model
  let extract ← readOptional? readString? extract
  let paste ← readOptional? readPasteMode? paste
  let options ← readOptions? options
  let sourceFile ← readOptional? readString? sourceFile
  pure ⟨name, body, model, extract, paste, options, sourceFile.map Path.mk⟩

def Prompt.ofJson? : Json → Option Prompt
  | .object members =>
    let field := Json.member? members
    Prompt.ofFields? (field "name") (field "prompt") (field "model") (field "extract")
      (field "paste") (field "model_options") (field "source_file")
  | .array fields =>
    if fields.length ≤ 7 then
      Prompt.ofFields? fields[0]? fields[1]? fields[2]? fields[3]? fields[4]? fields[5]? fields[6]?
    else none
  | _ => none

end Promptbook
