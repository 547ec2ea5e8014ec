import Promptbook.Json
import Promptbook.Prompt.Collection
import Promptbook.Prompt.Json
import Promptbook.Workspace.Error

/-! Sessions.

A session holds the published prompts and what it takes to repeat the last run: the
prompt that ran, under the name `.`, and the origin that stood in for `$select`. Only a
run that gave a text changes the session. -/
namespace Promptbook

/-- A prompt with its placeholders replaced, ready for a model. -/
structure PreparedRequest where
  promptName : String
  text : String
  /-- The prompt's model, or else the session's. -/
  model : Option String
  options : Options
  extract : Option String
  deriving DecidableEq

def PreparedRequest.toJson (request : PreparedRequest) : Json :=
  .object [("prompt_name", .string request.promptName), ("text", .string request.text),
    ("model", .ofOption request.model), ("model_options", request.options.toJson),
    ("extract", .ofOption request.extract)]

structure Session where
  /-- The published prompts. -/
  prompts : Collection := []
  /-- The prompt that ran last. -/
  dot : Option Prompt := none
  /-- The origin that stood in for `$select` last. -/
  lastSelect : Option Substitution.Origin := none
  /-- The model of prompts that name none. -/
  defaultModel : Option String := none
  deriving DecidableEq

namespace Session
open Substitution (Origin Source)

def publish (session : Session) (prompts : Collection) : Session :=
  { session with prompts := prompts }

def withDefaultModel (session : Session) (model : Option String) : Session :=
  { session with defaultModel := model }

/-- The prompt with this name; `.` is the one that ran last and no other. -/
def find? (session : Session) (name : String) : Option Prompt :=
  if name = Prompt.dotName then session.dot else session.prompts.get? name

/-- The request that a substitution makes of a prompt. -/
def request (session : Session) (prompt : Prompt) (text : String) : PreparedRequest :=
  ⟨prompt.name, text, prompt.model.or session.defaultModel, prompt.options, prompt.extract⟩

/-- The session after a run of a prompt. -/
def afterRun (session : Session) (prompt : Prompt) (select : Option Origin) : Session :=
  { session with dot := some prompt.asDot, lastSelect := select.or session.lastSelect }

/-- The answer to a run, the session behind it and the source behind it. -/
abbrev Outcome (σ : Type) := Except Trouble PreparedRequest × Session × σ

/-- Runs a prompt; `reuse` answers `$select` without a question. -/
def run (session : Session) (source : Source σ) (reuse : Option Origin) (prompt : Prompt)
    (s : σ) : Outcome σ :=
  match Substitution.substitute source reuse prompt.body s with
  | (.ok done, s) =>
    (.ok (session.request prompt done.text), session.afterRun prompt done.select, s)
  | (.error stop, s) => (.error (.stopped stop), session, s)

/-- Runs the prompt with this name. -/
def prepare (session : Session) (source : Source σ) (name : String) (s : σ) : Outcome σ :=
  match session.find? name with
  | some prompt => session.run source none prompt s
  | none => (.error (.promptNotFound name), session, s)

/-- Runs a prompt that need not be published. -/
def preparePrompt (session : Session) (source : Source σ) (prompt : Prompt) (s : σ) : Outcome σ :=
  session.run source none prompt s

/-- Runs the last prompt again with the last origin. -/
def rerun (session : Session) (source : Source σ) (s : σ) : Outcome σ :=
  match session.dot with
  | some prompt => session.run source session.lastSelect prompt s
  | none => (.error (.promptNotFound Prompt.dotName), session, s)

end Session
end Promptbook
