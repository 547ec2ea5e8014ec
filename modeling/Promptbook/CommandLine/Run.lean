import Promptbook.CommandLine.Arguments
import Promptbook.Substitution.Console
import Promptbook.Template.Writer
import Promptbook.Workspace.Loader
import Promptbook.Workspace.Session

/-! Running commands.

Every command first loads the configuration and the prompts; a file that is left out stops
none of them. A command ends with an exit code and an output, or with a complaint. Only
`export` changes a file, and only `render` asks something. -/
namespace Promptbook.CommandLine
open Substitution (Console)

/-- How a command ended. -/
structure Answer where
  code : Nat := 0
  output : String := ""
  /-- What went wrong, if something did. -/
  complaint : Option String := none
  deriving DecidableEq

namespace Answer

/-- The end of a command that did its work. -/
def done (output : String) : Answer := ⟨0, output, none⟩

/-- The end of a command that could not do its work. -/
def failed (complaint : String) : Answer := ⟨1, "", some complaint⟩

/-- The end when the arguments name no command. -/
def misused : Answer := ⟨2, "", none⟩

end Answer

/-! ### Showing prompts -/

/-- A prompt as one line: its name, its model or a hyphen, and its file. -/
def listLine (prompt : Prompt) : String :=
  let model := prompt.model.getD "-"
  let file := (prompt.sourceFile.map Path.text).getD ""
  s!"{prompt.name}\t{model}\t{file}\n"

def listEntry (prompt : Prompt) : Json :=
  .object [("name", .string prompt.name), ("model", .ofOption prompt.model),
    ("source_file", .ofOption (prompt.sourceFile.map Path.text))]

def answerList (prompts : Collection) (json : Bool) : Answer :=
  .done <|
    if json then (Json.array (prompts.map listEntry)).pretty ++ "\n"
    else String.join (prompts.map listLine)

def answerShow (prompts : Collection) (name : String) : Answer :=
  match prompts.get? name with
  | some prompt => .done (Template.write prompt)
  | none => .failed s!"Prompt not found: {name}"

/-! ### Checking -/

/-- The end of `check`: every failure on a line, then the counts. -/
def answerCheck (report : Loader.Report) : Answer :=
  let lines := report.failures.map fun failure => s!"✘ {failure.trouble.message}\n"
  let loaded := report.prompts.length
  let failed := report.failures.length
  if report.isClean then .done s!"✔ {loaded} prompts loaded\n"
  else ⟨1, String.join lines ++ s!"\n{loaded} prompts loaded, {failed} files failed\n", none⟩

/-! ### Rendering -/

def requestText (request : PreparedRequest) (json : Bool) : String :=
  (if json then request.toJson.pretty else request.text) ++ "\n"

/-- Runs a prompt at the console; calling it off is no failure. -/
def answerRender (session : Session) (name : String) (json : Bool) (console : Console) :
    Answer × Console :=
  match session.prepare Console.source name console with
  | (.ok request, _, console) => (.done (requestText request json), console)
  | (.error trouble, _, console) =>
    if trouble.isCancelled then (.done "", console)
    else (.failed s!"Failed to render prompt {name}: {trouble.account}", console)

/-! ### Exporting -/

def answerExport (fileSystem : FileSystem τ) (prompts : Collection) (file : Path) (tree : τ) :
    Answer × τ :=
  match Loader.exportTo fileSystem file prompts tree with
  | (.ok count, tree) => (.done s!"✔ Exported {count} prompts to {file.text}\n", tree)
  | (.error trouble, tree) =>
    (.failed s!"Failed to export prompts to {file.text}: {trouble.account}", tree)

/-! ### Commands -/

/-- The configuration of an invocation; the working directory is the root if none is named. -/
def configure (files : FileView) (workingDirectory : Path) (invocation : Invocation) :
    Except Config.LoadError Config :=
  match Config.load files (invocation.root.getD workingDirectory) with
  | .ok config => .ok (invocation.dirs.foldl Config.withTemplateDir config)
  | .error error => .error error

/-- Runs a command over what was loaded. -/
def perform (fileSystem : FileSystem τ) (config : Config) (report : Loader.Report)
    (command : Command) (console : Console) (tree : τ) : Answer × Console × τ :=
  match command with
  | .list json => (answerList report.prompts json, console, tree)
  | .show name => (answerShow report.prompts name, console, tree)
  | .check => (answerCheck report, console, tree)
  | .render name filetype registers json =>
    let session : Session := { prompts := report.prompts, defaultModel := config.defaultModel }
    let (answer, console) :=
      answerRender session name json { console with registers := registers, filetype := filetype }
    (answer, console, tree)
  | .export file =>
    let (answer, tree) := answerExport fileSystem report.prompts file tree
    (answer, console, tree)

/-- Runs an invocation. -/
def run (fileSystem : FileSystem τ) (workingDirectory : Path) (invocation : Invocation)
    (console : Console) (tree : τ) : Answer × Console × τ :=
  match configure (fileSystem.view tree) workingDirectory invocation with
  | .error error => (.failed s!"Failed to load LMP configuration: {error.message}", console, tree)
  | .ok config =>
    match Loader.load (fileSystem.view tree) config with
    | .error trouble => (.failed s!"Failed to load templates: {trouble.account}", console, tree)
    | .ok report => perform fileSystem config report invocation.command console tree

/-- Does what arguments ask for. -/
def execute (fileSystem : FileSystem τ) (workingDirectory : Path) (arguments : List String)
    (console : Console) (tree : τ) : Answer × Console × τ :=
  match read arguments with
  | .ok invocation => run fileSystem workingDirectory invocation console tree
  | .error .usage => (.misused, console, tree)
  | .error .help => (.done usageText, console, tree)
  | .error (.version command) => (.done (versionLine command), console, tree)

end Promptbook.CommandLine
