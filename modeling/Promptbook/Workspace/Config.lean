import Promptbook.Files.View
import Promptbook.Prompt.Collection
import Promptbook.Template.Parser
import Promptbook.Toml.Document

/-! Configurations.

A configuration says where prompts are looked for, which files count, and how they are
read and merged. It starts from a root directory, a TOML text overrides what it names,
and further directories may be added. A text that is refused changes nothing. -/
namespace Promptbook

structure Config where
  /-- Where relative directories start. -/
  root : Path
  configFile : Path
  /-- The directories with prompts, in the order in which they are visited. -/
  templateDirs : List Path
  /-- The glob that the names of prompt files match. -/
  pattern : String
  requireName : Bool
  merge : MergePolicy
  /-- The model of prompts that name none. -/
  defaultModel : Option String
  deriving DecidableEq

/-- What a text sets; everything else is left as it is. -/
structure Overrides where
  templateDirs : Option (List Path) := none
  pattern : Option String := none
  requireName : Option Bool := none
  merge : Option MergePolicy := none
  defaultModel : Option String := none
  deriving DecidableEq

namespace Overrides
open Toml

/-! ### From TOML -/

def ofString? : Value → Option String
  | .string text => some text
  | _ => none

def ofPaths? : List Value → Option (List Path)
  | [] => some []
  | value :: rest =>
    match ofString? value, ofPaths? rest with
    | some text, some paths => some (⟨text⟩ :: paths)
    | _, _ => none

/-- A policy by its name, or as a table with that one key, which holds nothing. -/
def ofPolicy? : Value → Option MergePolicy
  | .string text => MergePolicy.ofText? text
  | .table _ [(text, .table _ [])] => MergePolicy.ofText? text
  | .table _ [(text, .array [])] => MergePolicy.ofText? text
  | _ => none

/-- The overrides with one more key; an unknown key is refused. -/
def set? (overrides : Overrides) (key : String) (value : Value) : Option Overrides :=
  if key = "template_dirs" then
    match value with
    | .array values =>
      (ofPaths? values).map fun dirs => { overrides with templateDirs := some dirs }
    | _ => none
  else if key = "pattern" then
    (ofString? value).map fun text => { overrides with pattern := some text }
  else if key = "require_name" then
    match value with
    | .boolean value => some { overrides with requireName := some value }
    | _ => none
  else if key = "merge" then
    (ofPolicy? value).map fun policy => { overrides with merge := some policy }
  else if key = "default_model" then
    (ofString? value).map fun text => { overrides with defaultModel := some text }
  else none

def ofEntries? (entries : Entries) : Option Overrides :=
  entries.foldlM (fun overrides e => overrides.set? e.1 e.2) {}

/-- The overrides that a text writes; nothing if it is refused. -/
def ofText? (text : String) : Option Overrides := (document? text).bind ofEntries?

end Overrides

namespace Config

/-! ### Building configurations -/

/-- The configuration of a root directory that nothing overrides. -/
def ofRoot (root : Path) : Config where
  root := root
  configFile := (root.join ⟨".lmp"⟩).join ⟨"config.toml"⟩
  templateDirs := [root.join ⟨"prompts"⟩]
  pattern := "*.md"
  requireName := true
  merge := .accumulate
  defaultModel := none

/-- A directory as seen from the root. -/
def resolve (config : Config) (dir : Path) : Path := config.root.join dir

/-- The configuration with overrides in force. -/
def override (config : Config) (overrides : Overrides) : Config :=
  { config with
    templateDirs := (overrides.templateDirs.map (·.map config.resolve)).getD config.templateDirs
    pattern := overrides.pattern.getD config.pattern
    requireName := overrides.requireName.getD config.requireName
    merge := overrides.merge.getD config.merge
    defaultModel := overrides.defaultModel.or config.defaultModel }

/-- The configuration after a text; nothing if the text is refused. -/
def withText? (config : Config) (text : String) : Option Config :=
  (Overrides.ofText? text).map config.override

/-- The configuration with one more directory, visited last. -/
def withTemplateDir (config : Config) (dir : Path) : Config :=
  { config with templateDirs := config.templateDirs ++ [config.resolve dir] }

/-- What reading prompts insists on. -/
def rules (config : Config) : Template.Rules := ⟨config.requireName⟩

/-! ### Loading -/

/-- Why a configuration was not loaded. -/
inductive LoadError where
  | file (error : FileError)
  /-- The text of this file was refused; why is not said. -/
  | refused (path : Path)
  deriving DecidableEq

def LoadError.message : LoadError → String
  | .file error => error.message
  | .refused path => "config parse error: " ++ path.text

/-- The configuration of a root directory with the overrides of its file, if it has one. -/
def load (files : FileView) (root : Path) : Except LoadError Config :=
  let config := ofRoot root
  if files.isFile config.configFile then
    match files.read config.configFile with
    | .error error => .error (.file error)
    | .ok text =>
      match config.withText? text with
      | some config => .ok config
      | none => .error (.refused config.configFile)
  else .ok config

/-! ### Small facts -/

@[simp] theorem root_override (config : Config) (overrides : Overrides) :
    (config.override overrides).root = config.root := rfl

@[simp] theorem configFile_override (config : Config) (overrides : Overrides) :
    (config.override overrides).configFile = config.configFile := rfl

@[simp] theorem override_empty (config : Config) : config.override {} = config := by
  simp [override]

end Config
end Promptbook
